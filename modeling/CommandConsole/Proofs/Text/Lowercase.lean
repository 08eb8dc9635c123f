import CommandConsole.Text.Blank
import CommandConsole.Text.Lowercase

/-!
# Lowercase and white space

Lowercase neither makes white space nor takes any away: a white space character is its own
lowercase, and no other character has one in its lowercase form. So texts that are the same in
lowercase begin alike as far as white space goes (`head_lowerFrom`), and either both hold a space or
neither does (`space_mem_lowerFrom`).
-/
namespace CommandConsole.Text

/-- The runs of code points that are white space, each with its first and its last. -/
def blankRuns : List (Nat × Nat) :=
  [(0x09, 0x0D), (0x20, 0x20), (0x85, 0x85), (0xA0, 0xA0), (0x1680, 0x1680), (0x2000, 0x200A),
    (0x2028, 0x2029), (0x202F, 0x202F), (0x205F, 0x205F), (0x3000, 0x3000)]

theorem isBlank_iff {c : Char} :
    isBlank c = true ↔ ∃ run ∈ blankRuns, run.1 ≤ c.toNat ∧ c.toNat ≤ run.2 := by
  simp only [isBlank, blankRuns, Bool.or_eq_true, Bool.and_eq_true, beq_iff_eq, decide_eq_true_eq,
    ← Char.toNat_inj, Char.le_def, UInt32.le_iff_toNat_le, List.mem_cons, List.not_mem_nil,
    or_false, exists_eq_or_imp, exists_eq_left]
  simp only [Char.reduceToNat, Char.reduceVal, UInt32.reduceToNat, Char.toNat_val]
  omega

/-! ## One character -/

/-- Only the ASCII capitals have another small letter. -/
theorem toNat_toLower (c : Char) :
    c.toLower.toNat = if 0x41 ≤ c.toNat ∧ c.toNat ≤ 0x5A then c.toNat + 32 else c.toNat := by
  have hcapital : c.val ≥ 'A'.val ∧ c.val ≤ 'Z'.val ↔ 0x41 ≤ c.toNat ∧ c.toNat ≤ 0x5A := Iff.rfl
  unfold Char.toLower
  split
  · rename_i h
    have hhigh : c.toNat ≤ 0x5A := h.2
    rw [if_pos (hcapital.mp h)]
    show (c.val + ('a'.val - 'A'.val)).toNat = c.toNat + 32
    rw [UInt32.toNat_add]
    exact Nat.mod_eq_of_lt (show c.toNat + 32 < 2 ^ 32 by omega)
  · rename_i h
    rw [if_neg (mt hcapital.mpr h)]

theorem toNat_toLower_lt {c : Char} (hc : c.toNat < 0x80) : c.toLower.toNat < 0x80 := by
  rw [toNat_toLower]
  split <;> omega

theorem toLower_of_not_capital {c : Char} (h : ¬ (0x41 ≤ c.toNat ∧ c.toNat ≤ 0x5A)) :
    c.toLower = c := by
  rw [← Char.toNat_inj, toNat_toLower, if_neg h]

theorem toLower_of_not_ascii {c : Char} (h : ¬ c.toNat < 0x80) : c.toLower = c :=
  toLower_of_not_capital (by omega)

/-- What does not tell the ASCII capitals from their small letters does not tell any character from
its small letter. -/
theorem apply_toLower {α : Type} (f : Char → α)
    (h : ∀ i < 26, f (Char.ofNat (0x41 + i)).toLower = f (Char.ofNat (0x41 + i))) (c : Char) :
    f c.toLower = f c := by
  by_cases hc : 0x41 ≤ c.toNat ∧ c.toNat ≤ 0x5A
  · have hi := h (c.toNat - 0x41) (by omega)
    have hn : 0x41 + (c.toNat - 0x41) = c.toNat := by omega
    rwa [hn, Char.ofNat_toNat] at hi
  · rw [toLower_of_not_capital hc]

theorem isBlank_toLower (c : Char) : isBlank c.toLower = isBlank c :=
  apply_toLower isBlank (by decide) c

theorem toLower_of_isBlank {c : Char} (h : isBlank c = true) : c.toLower = c := by
  obtain ⟨run, hrun, hlow, hhigh⟩ := isBlank_iff.mp h
  have hapart : ∀ run ∈ blankRuns, run.2 < 0x41 ∨ 0x5A < run.1 := by decide
  have := hapart run hrun
  exact toLower_of_not_capital (by omega)

/-- No letter that has a lowercase form is white space, and no such form is. -/
theorem caseRuns_avoid_blankRuns : ∀ run ∈ caseRuns, ∀ blank ∈ blankRuns,
    (run.last < blank.1 ∨ blank.2 < run.first) ∧
      (run.last + run.offset < blank.1 ∨ blank.2 < run.first + run.offset) := by
  decide +kernel

/-- A number that is no code point stands for the character zero. -/
theorem toNat_ofNat_cases (n : Nat) : (Char.ofNat n).toNat = n ∨ (Char.ofNat n).toNat = 0 := by
  by_cases hvalid : n.isValidChar
  · rw [Char.ofNat, dif_pos hvalid]
    exact Or.inl rfl
  · rw [Char.ofNat, dif_neg hvalid]
    exact Or.inr rfl

theorem CaseRun.contains_iff {run : CaseRun} {c : Char} :
    run.contains c = true ↔
      run.first ≤ c.toNat ∧ c.toNat ≤ run.last ∧ (c.toNat - run.first) % run.step = 0 := by
  simp [contains, and_assoc]

theorem not_isBlank_of_contains {run : CaseRun} {c : Char} (hrun : run ∈ caseRuns)
    (hc : run.contains c = true) : isBlank c = false := by
  rw [Bool.eq_false_iff, ne_eq, isBlank_iff]
  rintro ⟨blank, hblank, hlow, hhigh⟩
  obtain ⟨hfirst, hlast, -⟩ := CaseRun.contains_iff.mp hc
  have havoid := (caseRuns_avoid_blankRuns run hrun blank hblank).1
  omega

theorem not_isBlank_lower {run : CaseRun} {c : Char} (hrun : run ∈ caseRuns)
    (hc : run.contains c = true) : isBlank (run.lower c) = false := by
  rw [Bool.eq_false_iff, ne_eq, isBlank_iff]
  rintro ⟨blank, hblank, hlow, hhigh⟩
  obtain ⟨hfirst, hlast, -⟩ := CaseRun.contains_iff.mp hc
  have havoid := (caseRuns_avoid_blankRuns run hrun blank hblank).2
  -- a number that is no code point stands for the character zero, which is no white space
  have hpositive : ∀ blank ∈ blankRuns, 0 < blank.1 := by decide
  have := hpositive blank hblank
  rw [CaseRun.lower] at hlow hhigh
  rcases toNat_ofNat_cases (c.toNat + run.offset).toNat with hn | hn <;> rw [hn] at hlow hhigh <;>
    omega

/-- White space is its own lowercase. -/
theorem lowerChar_of_isBlank {c : Char} (h : isBlank c = true) : lowerChar c = [c] := by
  unfold lowerChar
  split
  · rw [toLower_of_isBlank h]
  split
  · rename_i hc
    subst hc
    exact absurd h (by decide)
  split
  · rename_i run hrun
    have hcontains := List.find?_some hrun
    rw [not_isBlank_of_contains (List.mem_of_find?_eq_some hrun) hcontains] at h
    exact absurd h Bool.false_ne_true
  · rfl

/-- Only white space has white space for its lowercase. -/
theorem not_isBlank_of_mem_lowerChar {c d : Char} (h : isBlank c = false)
    (hd : d ∈ lowerChar c) : isBlank d = false := by
  unfold lowerChar at hd
  split at hd
  · rw [List.mem_singleton.mp hd, isBlank_toLower, h]
  split at hd
  · rcases List.mem_cons.mp hd with rfl | hdot
    · rfl
    · rw [List.mem_singleton.mp hdot]
      rfl
  split at hd
  · rename_i run hrun
    rw [List.mem_singleton.mp hd]
    have hcontains := List.find?_some hrun
    exact not_isBlank_lower (List.mem_of_find?_eq_some hrun) hcontains
  · rw [List.mem_singleton.mp hd, h]

theorem lowerChar_ne_nil (c : Char) : lowerChar c ≠ [] := by
  unfold lowerChar
  split
  · exact List.cons_ne_nil _ _
  split
  · exact List.cons_ne_nil _ _
  split <;> exact List.cons_ne_nil _ _

/-! ## Runs of characters -/

/-- What a character becomes in its place: at least one character, and white space just where it
was white space itself, which then stays as it is. -/
theorem lowerFrom_cons_cases (before : List Char) (c : Char) (cs : List Char) :
    ∃ form, lowerFrom before (c :: cs) = form ++ lowerFrom (c :: before) cs ∧
      form ≠ [] ∧ (isBlank c = true → form = [c]) ∧
      (isBlank c = false → ∀ d ∈ form, isBlank d = false) := by
  rw [lowerFrom]
  -- the sigma is the only letter whose lowercase depends on the letters around it
  by_cases hc : c = 'Σ'
  · subst hc
    refine ⟨[lowerSigma before cs], by rw [if_pos rfl], List.cons_ne_nil _ _, ?_, ?_⟩
    · intro h
      exact absurd h (by decide)
    · intro _ d hd
      rw [List.mem_singleton.mp hd, lowerSigma]
      split <;> decide
  · exact ⟨lowerChar c, by rw [if_neg hc], lowerChar_ne_nil c, lowerChar_of_isBlank,
      fun h d hd => not_isBlank_of_mem_lowerChar h hd⟩

/-- A text and its lowercase begin alike as far as white space goes. -/
theorem head_lowerFrom (before cs : List Char) :
    (lowerFrom before cs).head?.map isBlank = cs.head?.map isBlank := by
  cases cs with
  | nil => rfl
  | cons c cs =>
    obtain ⟨form, hform, hne, hblank, hother⟩ := lowerFrom_cons_cases before c cs
    obtain ⟨d, ds, rfl⟩ := List.exists_cons_of_ne_nil hne
    rw [hform, List.cons_append, List.head?_cons, List.head?_cons, Option.map_some,
      Option.map_some]
    cases hc : isBlank c with
    | true =>
      obtain ⟨rfl, -⟩ := List.cons.inj (hblank hc)
      rw [hc]
    | false => rw [hother hc d List.mem_cons_self]

/-- A text holds a space exactly when its lowercase does. -/
theorem space_mem_lowerFrom (before cs : List Char) :
    ' ' ∈ lowerFrom before cs ↔ ' ' ∈ cs := by
  induction cs generalizing before with
  | nil => exact Iff.rfl
  | cons c cs ih =>
    obtain ⟨form, hform, -, hblank, hother⟩ := lowerFrom_cons_cases before c cs
    have hspace : ' ' ∈ form ↔ ' ' = c := by
      cases hc : isBlank c with
      | true => rw [hblank hc, List.mem_singleton]
      | false =>
        constructor
        · intro h
          exact absurd (hother hc ' ' h) (by decide)
        · rintro rfl
          exact absurd hc (by decide)
    rw [hform, List.mem_append, hspace, ih, List.mem_cons]

end CommandConsole.Text
