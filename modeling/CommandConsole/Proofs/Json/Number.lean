import CommandConsole.Json.Token
import Mathlib.Tactic.ByContra
import Std.Data.String.ToNat

/-!
# How a number is written

JSON writes a number as a whole part without leading zeros, perhaps with a minus sign in front of
it, perhaps with a fraction and an exponent behind it (`IsNumber`).  Scanning does not look at these
parts: it follows the characters from phase to phase.  What may still be written from a phase on is
its remainder (`Phase.Remainder`); one more character takes the remainder of a phase to that of the
next one, so the phases go through exactly the numbers (`isNumber_cons_iff`,
`Phase.remainder_cons_iff`).
-/
namespace CommandConsole.Json

/-! ## The grammar -/

/-- Digits, at least one. -/
def IsDigits (cs : List Char) : Prop := cs ≠ [] ∧ ∀ c ∈ cs, c.isDigit = true

/-- The whole part of a number. -/
inductive IsWhole : List Char → Prop
  | zero : IsWhole ['0']
  | digits {c : Char} {cs : List Char} : c.isDigit = true → c ≠ '0' →
      (∀ d ∈ cs, d.isDigit = true) → IsWhole (c :: cs)

/-- The fraction of a number, if it has one. -/
inductive IsFraction : List Char → Prop
  | absent : IsFraction []
  | point {digits : List Char} : IsDigits digits → IsFraction ('.' :: digits)

/-- What stands between the mark of an exponent and its digits. -/
def IsExponentSign (cs : List Char) : Prop := cs = [] ∨ cs = ['+'] ∨ cs = ['-']

/-- The exponent of a number, if it has one. -/
inductive IsExponent : List Char → Prop
  | absent : IsExponent []
  | mark {mark : Char} {sign digits : List Char} : mark = 'e' ∨ mark = 'E' →
      IsExponentSign sign → IsDigits digits → IsExponent (mark :: (sign ++ digits))

/-- What may follow the whole part of a number. -/
def IsTail (cs : List Char) : Prop :=
  ∃ fraction exponent, IsFraction fraction ∧ IsExponent exponent ∧ cs = fraction ++ exponent

/-- A number. -/
def IsNumber (cs : List Char) : Prop :=
  ∃ sign whole tail, (sign = [] ∨ sign = ['-']) ∧ IsWhole whole ∧ IsTail tail ∧
    cs = sign ++ (whole ++ tail)

/-! ## Digits in front -/

/-- Digits, perhaps none, and then what `Rest` allows. -/
def AfterDigits (Rest : List Char → Prop) (cs : List Char) : Prop :=
  ∃ digits rest, (∀ d ∈ digits, d.isDigit = true) ∧ Rest rest ∧ cs = digits ++ rest

section AfterDigits

variable {Rest : List Char → Prop} {c : Char} {cs : List Char}

theorem afterDigits_nil_iff : AfterDigits Rest [] ↔ Rest [] := by
  constructor
  · rintro ⟨digits, rest, -, hrest, hsplit⟩
    obtain ⟨-, rfl⟩ := List.append_eq_nil_iff.mp hsplit.symm
    exact hrest
  · intro h
    exact ⟨[], [], by simp, h, rfl⟩

theorem afterDigits_cons_iff :
    AfterDigits Rest (c :: cs) ↔
      (c.isDigit = true ∧ AfterDigits Rest cs) ∨ Rest (c :: cs) := by
  constructor
  · rintro ⟨digits, rest, hdigits, hrest, hsplit⟩
    cases digits with
    | nil => exact .inr (hsplit ▸ hrest)
    | cons d digits =>
      obtain ⟨rfl, rfl⟩ := List.cons_eq_cons.mp hsplit
      exact .inl ⟨hdigits c (by simp), digits, rest,
        fun d hd => hdigits d (List.mem_cons_of_mem c hd), hrest, rfl⟩
  · rintro (⟨hc, digits, rest, hdigits, hrest, rfl⟩ | hrest)
    · exact ⟨c :: digits, rest, by simpa [hc] using hdigits, hrest, rfl⟩
    · exact ⟨[], c :: cs, by simp, hrest, rfl⟩

/-- To have digits in front is to have a first one, and others perhaps. -/
theorem exists_isDigits_append_iff :
    (∃ digits rest, IsDigits digits ∧ Rest rest ∧ c :: cs = digits ++ rest) ↔
      c.isDigit = true ∧ AfterDigits Rest cs := by
  constructor
  · rintro ⟨digits, rest, ⟨hne, hdigits⟩, hrest, hsplit⟩
    cases digits with
    | nil => exact absurd rfl hne
    | cons d digits =>
      obtain ⟨rfl, rfl⟩ := List.cons_eq_cons.mp hsplit
      exact ⟨hdigits c (by simp), digits, rest,
        fun d hd => hdigits d (List.mem_cons_of_mem c hd), hrest, rfl⟩
  · rintro ⟨hc, digits, rest, hdigits, hrest, rfl⟩
    exact ⟨c :: digits, rest, ⟨by simp, by simpa [hc] using hdigits⟩, hrest, rfl⟩

end AfterDigits

/-! ## Phases -/

namespace Phase

/-- What may still be written of a number from a phase on. -/
def Remainder : Phase → List Char → Prop
  | sign, cs => ∃ whole tail, IsWhole whole ∧ IsTail tail ∧ cs = whole ++ tail
  | zero, cs => IsTail cs
  | whole, cs => AfterDigits IsTail cs
  | point, cs => ∃ digits exponent, IsDigits digits ∧ IsExponent exponent ∧ cs = digits ++ exponent
  | fraction, cs => AfterDigits IsExponent cs
  | exponentMark, cs => ∃ sign digits, IsExponentSign sign ∧ IsDigits digits ∧ cs = sign ++ digits
  | exponentSign, cs => IsDigits cs
  | exponent, cs => AfterDigits (· = []) cs

end Phase

variable {c : Char} {cs : List Char}

theorem isExponent_cons_iff :
    IsExponent (c :: cs) ↔ (c = 'e' ∨ c = 'E') ∧ Phase.exponentMark.Remainder cs := by
  constructor
  · rintro (_ | ⟨hmark, hsign, hdigits⟩)
    exact ⟨hmark, _, _, hsign, hdigits, rfl⟩
  · rintro ⟨hmark, sign, digits, hsign, hdigits, rfl⟩
    exact .mark hmark hsign hdigits

theorem isTail_nil : IsTail [] := ⟨[], [], .absent, .absent, rfl⟩

theorem isTail_cons_iff :
    IsTail (c :: cs) ↔ (c = '.' ∧ Phase.point.Remainder cs) ∨ IsExponent (c :: cs) := by
  constructor
  · rintro ⟨_, exponent, _ | hdigits, hexponent, hsplit⟩
    · exact .inr (hsplit ▸ hexponent)
    · obtain ⟨rfl, rfl⟩ := List.cons_eq_cons.mp hsplit
      exact .inl ⟨rfl, _, _, hdigits, hexponent, rfl⟩
  · rintro (⟨rfl, digits, exponent, hdigits, hexponent, rfl⟩ | hexponent)
    · exact ⟨_, exponent, .point hdigits, hexponent, rfl⟩
    · exact ⟨[], _, .absent, hexponent, rfl⟩

theorem not_isDigit_of_isExponent (h : IsExponent (c :: cs)) : c.isDigit = false := by
  obtain ⟨rfl | rfl, -⟩ := isExponent_cons_iff.mp h <;> rfl

theorem not_isDigit_of_isTail (h : IsTail (c :: cs)) : c.isDigit = false := by
  rcases isTail_cons_iff.mp h with ⟨rfl, -⟩ | h
  · rfl
  · exact not_isDigit_of_isExponent h

theorem not_isNumber_nil : ¬ IsNumber [] := by
  rintro ⟨sign, _, tail, -, _ | _, -, hsplit⟩ <;> simp at hsplit

/-- A number with a first character. -/
theorem isNumber_cons_iff :
    IsNumber (c :: cs) ↔ (c = '-' ∧ Phase.sign.Remainder cs) ∨ Phase.sign.Remainder (c :: cs) := by
  constructor
  · rintro ⟨_, whole, tail, rfl | rfl, hwhole, htail, hsplit⟩
    · exact .inr ⟨whole, tail, hwhole, htail, hsplit⟩
    · obtain ⟨rfl, rfl⟩ := List.cons_eq_cons.mp hsplit
      exact .inl ⟨rfl, whole, tail, hwhole, htail, rfl⟩
  · rintro (⟨rfl, whole, tail, hwhole, htail, rfl⟩ | ⟨whole, tail, hwhole, htail, hsplit⟩)
    · exact ⟨['-'], whole, tail, .inr rfl, hwhole, htail, rfl⟩
    · exact ⟨[], whole, tail, .inl rfl, hwhole, htail, hsplit⟩

namespace Phase

theorem remainder_sign_cons_iff :
    sign.Remainder (c :: cs) ↔
      (c = '0' ∧ zero.Remainder cs) ∨ (c.isDigit = true ∧ c ≠ '0' ∧ whole.Remainder cs) := by
  constructor
  · rintro ⟨_, tail, _ | ⟨hc, hzero, hdigits⟩, htail, hsplit⟩
    · obtain ⟨rfl, rfl⟩ := List.cons_eq_cons.mp hsplit
      exact .inl ⟨rfl, htail⟩
    · obtain ⟨rfl, rfl⟩ := List.cons_eq_cons.mp hsplit
      exact .inr ⟨hc, hzero, _, tail, hdigits, htail, rfl⟩
  · rintro (⟨rfl, htail⟩ | ⟨hc, hzero, digits, tail, hdigits, htail, rfl⟩)
    · exact ⟨['0'], cs, .zero, htail, rfl⟩
    · exact ⟨c :: digits, tail, .digits hc hzero hdigits, htail, rfl⟩

theorem remainder_exponentMark_cons_iff :
    exponentMark.Remainder (c :: cs) ↔
      (c.isDigit = true ∧ exponent.Remainder cs) ∨
        ((c = '+' ∨ c = '-') ∧ exponentSign.Remainder cs) := by
  have hexponent : exponent.Remainder cs ↔ ∀ d ∈ cs, d.isDigit = true := by
    simp [Remainder, AfterDigits]
  rw [hexponent]
  constructor
  · rintro ⟨_, digits, rfl | rfl | rfl, hdigits, hsplit⟩
    · rw [List.nil_append] at hsplit
      subst hsplit
      exact .inl ⟨hdigits.2 c (by simp), fun d hd => hdigits.2 d (List.mem_cons_of_mem c hd)⟩
    · obtain ⟨rfl, rfl⟩ := List.cons_eq_cons.mp hsplit
      exact .inr ⟨.inl rfl, hdigits⟩
    · obtain ⟨rfl, rfl⟩ := List.cons_eq_cons.mp hsplit
      exact .inr ⟨.inr rfl, hdigits⟩
  · rintro (⟨hc, hdigits⟩ | ⟨rfl | rfl, hdigits⟩)
    · exact ⟨[], c :: cs, .inl rfl, ⟨by simp, by simpa [hc] using hdigits⟩, rfl⟩
    · exact ⟨['+'], cs, .inr (.inl rfl), hdigits, rfl⟩
    · exact ⟨['-'], cs, .inr (.inr rfl), hdigits, rfl⟩

/-- A number may end in a phase exactly when what was read by then is complete. -/
theorem remainder_nil_iff (phase : Phase) : phase.Remainder [] ↔ phase.isComplete = true := by
  cases phase with
  | zero => exact iff_of_true isTail_nil rfl
  | whole => exact iff_of_true (afterDigits_nil_iff.mpr isTail_nil) rfl
  | fraction => exact iff_of_true (afterDigits_nil_iff.mpr .absent) rfl
  | exponent => exact iff_of_true (afterDigits_nil_iff.mpr rfl) rfl
  | sign =>
    refine iff_of_false ?_ (by simp [isComplete])
    rintro ⟨_, tail, _ | _, -, hsplit⟩ <;> simp at hsplit
  | point =>
    refine iff_of_false ?_ (by simp [isComplete])
    rintro ⟨digits, exponent, hdigits, -, hsplit⟩
    exact hdigits.1 (List.append_eq_nil_iff.mp hsplit.symm).1
  | exponentMark =>
    refine iff_of_false ?_ (by simp [isComplete])
    rintro ⟨sign, digits, -, hdigits, hsplit⟩
    exact hdigits.1 (List.append_eq_nil_iff.mp hsplit.symm).2
  | exponentSign => exact iff_of_false (fun h => h.1 rfl) (by simp [isComplete])

/-- A step that depends on a condition, and what comes after it. -/
theorem exists_ite_some_iff {p : Prop} [Decidable p] {first : Phase} {other : Option Phase}
    {P : Phase → Prop} :
    (∃ next, (if p then some first else other) = some next ∧ P next) ↔
      if p then P first else ∃ next, other = some next ∧ P next := by
  split
  · simp
  · rfl

/-- One character more takes the remainder of a phase to that of the phase after it. -/
theorem remainder_cons_iff (phase : Phase) :
    phase.Remainder (c :: cs) ↔ ∃ next, phase.next? c = some next ∧ next.Remainder cs := by
  -- no character that may follow the digits of a part is a digit itself
  have hpoint : c = '.' → c.isDigit = false := by rintro rfl; rfl
  have hmark : c = 'e' ∨ c = 'E' → c.isDigit = false := by rintro (rfl | rfl) <;> rfl
  have hsign : c = '+' ∨ c = '-' → c.isDigit = false := by rintro (rfl | rfl) <;> rfl
  cases phase with
  | sign =>
    simp only [remainder_sign_cons_iff, next?, exists_ite_some_iff]
    grind
  | zero =>
    simp only [next?, exists_ite_some_iff]
    rw [Remainder, isTail_cons_iff, isExponent_cons_iff]
    grind
  | whole =>
    simp only [next?, exists_ite_some_iff]
    rw [Remainder, afterDigits_cons_iff, isTail_cons_iff, isExponent_cons_iff]
    grind [Remainder]
  | point =>
    simp only [next?, exists_ite_some_iff]
    rw [Remainder, exists_isDigits_append_iff]
    grind [Remainder]
  | fraction =>
    simp only [next?, exists_ite_some_iff]
    rw [Remainder, afterDigits_cons_iff, isExponent_cons_iff]
    grind [Remainder]
  | exponentMark =>
    simp only [next?, exists_ite_some_iff]
    rw [remainder_exponentMark_cons_iff]
    grind
  | exponentSign =>
    simp only [next?, exists_ite_some_iff]
    have hdigits : IsDigits (c :: cs) ↔ c.isDigit = true ∧ ∀ d ∈ cs, d.isDigit = true := by
      simp [IsDigits]
    have hexponent : exponent.Remainder cs ↔ ∀ d ∈ cs, d.isDigit = true := by
      simp [Remainder, AfterDigits]
    rw [Remainder, hdigits, hexponent]
    grind
  | exponent =>
    simp only [next?, exists_ite_some_iff]
    rw [Remainder, afterDigits_cons_iff]
    grind [Remainder]

end Phase

/-! ## Natural numbers -/

/-- A digit stands for a number below ten, whose digit it is. -/
theorem digit_spec (h : c.isDigit = true) :
    c.toNat - '0'.toNat < 10 ∧ (c.toNat - '0'.toNat).digitChar = c := by
  obtain ⟨hlow, hhigh⟩ : 48 ≤ c.toNat ∧ c.toNat ≤ 57 := Char.isDigit_iff_toNat.mp h
  have hzero : '0'.toNat = 48 := rfl
  rw [hzero]
  refine ⟨by omega, Char.toNat_inj.mp ?_⟩
  rw [Nat.toNat_digitChar_of_lt_ten (by omega)]
  omega

theorem toDigits_of_isDigit (h : c.isDigit = true) :
    Nat.toDigits 10 (c.toNat - '0'.toNat) = [c] := by
  rw [Nat.toDigits_of_lt_base (digit_spec h).1, (digit_spec h).2]

/-- Digits behind those of a positive number make another number. -/
theorem toDigits_append_digits {n : Nat} (hn : 0 < n) (hcs : ∀ d ∈ cs, d.isDigit = true) :
    Nat.toDigits 10 n ++ cs = Nat.toDigits 10 (Nat.ofDigitChars 10 cs n) := by
  induction cs generalizing n with
  | nil => simp
  | cons c cs ih =>
    have hc : c.isDigit = true := hcs c (by simp)
    rw [List.append_cons, ← toDigits_of_isDigit hc,
      Nat.toDigits_append_toDigits (by simp) hn (digit_spec hc).1,
      ih (by omega) fun d hd => hcs d (List.mem_cons_of_mem c hd), Nat.ofDigitChars_cons]

/-- A whole part is the decimal form of what it stands for. -/
theorem IsWhole.eq_toDigits (h : IsWhole cs) :
    cs = Nat.toDigits 10 (Nat.ofDigitChars 10 cs 0) := by
  cases h with
  | zero => rfl
  | @digits c cs hc hzero hcs =>
    have hpos : 0 < c.toNat - '0'.toNat := by
      by_contra hle
      have hc := (digit_spec hc).2
      rw [Nat.eq_zero_of_not_pos hle] at hc
      exact hzero hc.symm
    have h := toDigits_append_digits hpos hcs
    rw [toDigits_of_isDigit hc] at h
    simpa [Nat.ofDigitChars_cons] using h

theorem head?_toDigits_ne {n : Nat} (hn : 0 < n) : (Nat.toDigits 10 n).head? ≠ some '0' := by
  induction n using Nat.strongRecOn with
  | ind n ih =>
    rw [Nat.toDigits_eq_if (by simp)]
    split
    · simpa using fun h => Nat.ne_of_gt hn (Nat.digitChar_eq_zero.mp h)
    · rw [List.head?_append, Option.or_of_isSome (by simp [Nat.toDigits_ne_nil])]
      exact ih (n / 10) (by omega) (by omega)

/-- The decimal form of a number is a whole part. -/
theorem isWhole_toDigits (n : Nat) : IsWhole (Nat.toDigits 10 n) := by
  rcases Nat.eq_zero_or_pos n with rfl | hn
  · exact .zero
  have hdigits : ∀ d ∈ Nat.toDigits 10 n, d.isDigit = true :=
    fun d hd => Nat.isDigit_of_mem_toDigits (by simp) (by simp) hd
  have hhead := head?_toDigits_ne hn
  cases h : Nat.toDigits 10 n with
  | nil => exact absurd h Nat.toDigits_ne_nil
  | cons c cs =>
    rw [h] at hdigits hhead
    exact .digits (hdigits c (by simp)) (by simpa using hhead)
      fun d hd => hdigits d (List.mem_cons_of_mem c hd)

/-- A number of digits alone has neither sign nor fraction nor exponent. -/
theorem IsNumber.isWhole (h : IsNumber cs) (hcs : ∀ d ∈ cs, d.isDigit = true) : IsWhole cs := by
  obtain ⟨sign, whole, tail, hsign, hwhole, htail, rfl⟩ := h
  have hsign : sign = [] := by
    rcases hsign with rfl | rfl
    · rfl
    · exact absurd (hcs '-' (by simp)) (by decide)
  have htail : tail = [] := by
    cases tail with
    | nil => rfl
    | cons c tail =>
      have := not_isDigit_of_isTail htail
      rw [hcs c (by simp)] at this
      exact absurd this (by simp)
  simpa [hsign, htail] using hwhole

theorem IsWhole.isNumber (h : IsWhole cs) : IsNumber cs :=
  ⟨[], cs, [], .inl rfl, h, isTail_nil, by simp⟩

/-- The decimal form of a natural number is a number. -/
theorem isNumber_repr (n : Nat) : IsNumber n.repr.toList := by
  rw [Nat.toList_repr]
  exact (isWhole_toDigits n).isNumber

end CommandConsole.Json
