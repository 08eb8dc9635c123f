import CommandConsole.Proofs.Json.Number
import Mathlib.Data.List.Chain
import Mathlib.Tactic.IntervalCases

/-!
# How tokens are laid out in a text

A token is written in a way of its own (`Token.WrittenAs`), a string by its characters, plain or
escaped, between two quotes.  A text lays out tokens if these are written in it one after the other,
with blanks between them or not (`LaidOut`).

`scan` finds nothing but tokens that the text lays out (`laidOut_of_scan`).  It finds them all
unless two numbers touch (`scan_of_laidOut`): a number goes on for as long as it can, and only
another number could prolong it.
-/
namespace CommandConsole.Json

/-! ## The grammar -/

/-- The number that hexadecimal digits stand for if `before` was read in front of them. -/
def hexNumber? (before : Nat) : List Char → Option Nat
  | [] => some before
  | c :: cs =>
    match hexValue? c with
    | some digit => hexNumber? (before * 16 + digit) cs
    | none => none

/-- How a part of a string is written. -/
inductive Piece.WrittenAs : Piece → List Char → Prop
  | plain {c : Char} : 0x20 ≤ c.toNat → c ≠ '"' → c ≠ '\\' → WrittenAs (.char c) [c]
  | escaped {letter c : Char} : escapedChar? letter = some c → WrittenAs (.char c) ['\\', letter]
  | unit {digits : List Char} {n : Nat} : digits.length = 4 → hexNumber? 0 digits = some n →
      WrittenAs (.unit n) ('\\' :: 'u' :: digits)

/-- What stands between the quotes of a string. -/
inductive Contents : List Piece → List Char → Prop
  | nil : Contents [] []
  | cons {piece : Piece} {pieces : List Piece} {written cs : List Char} :
      piece.WrittenAs written → Contents pieces cs → Contents (piece :: pieces) (written ++ cs)

/-- How a token is written. -/
inductive Token.WrittenAs : Token → List Char → Prop
  | openBrace : WrittenAs .openBrace ['\x7b']
  | closeBrace : WrittenAs .closeBrace ['\x7d']
  | openBracket : WrittenAs .openBracket ['[']
  | closeBracket : WrittenAs .closeBracket [']']
  | colon : WrittenAs .colon [':']
  | comma : WrittenAs .comma [',']
  | null : WrittenAs .null ['n', 'u', 'l', 'l']
  | true : WrittenAs (.bool true) ['t', 'r', 'u', 'e']
  | false : WrittenAs (.bool false) ['f', 'a', 'l', 's', 'e']
  | number {cs : List Char} : IsNumber cs → WrittenAs (.number (String.ofList cs)) cs
  | string {pieces : List Piece} {cs : List Char} : Contents pieces cs →
      WrittenAs (.string ((assemble pieces).map String.ofList)) ('"' :: (cs ++ ['"']))

/-- The text is made of these tokens, in order, and of blanks between them. -/
inductive LaidOut : List Token → List Char → Prop
  | nil : LaidOut [] []
  | blank {c : Char} {tokens : List Token} {cs : List Char} : isBlank c = true →
      LaidOut tokens cs → LaidOut tokens (c :: cs)
  | token {token : Token} {tokens : List Token} {written cs : List Char} :
      token.WrittenAs written → LaidOut tokens cs → LaidOut (token :: tokens) (written ++ cs)

/-! ## One token -/

variable {cs : List Char} {tokens : List Token}

/-- A word is scanned to its end. -/
theorem scan_word_append {word : List Char} (hne : word ≠ []) (token : Token) (cs : List Char) :
    scan (.word word token) (word ++ cs) = (scan .between cs).map (token :: ·) := by
  induction word with
  | nil => exact absurd rfl hne
  | cons c word ih =>
    cases word with
    | nil => simp [scan]
    | cons d word => simpa [scan] using ih (by simp)

/-- Only the word itself is scanned as a word. -/
theorem exists_of_scan_word {word : List Char} {token : Token}
    (h : scan (.word word token) cs = some tokens) :
    ∃ rest later, cs = word ++ rest ∧ scan .between rest = some later ∧
      tokens = token :: later := by
  induction cs generalizing word with
  | nil => simp [scan] at h
  | cons c cs ih =>
    cases word with
    | nil => simp [scan] at h
    | cons d word =>
      cases word with
      | nil =>
        simp only [scan] at h
        split at h
        · rename_i hc
          obtain ⟨later, hlater, rfl⟩ := Option.map_eq_some_iff.mp h
          exact ⟨cs, later, by rw [hc]; rfl, hlater, rfl⟩
        · simp at h
      | cons e word =>
        simp only [scan] at h
        split at h
        · rename_i hc
          obtain ⟨rest, later, rfl, hlater, rfl⟩ := ih h
          exact ⟨rest, later, by rw [hc]; rfl, hlater, rfl⟩
        · simp at h

/-! ### Numbers -/

/-- A number that has come to an end leaves the next character to what comes after it. -/
theorem scan_number_of_next?_eq_none {phase : Phase} {c : Char}
    (hcomplete : phase.isComplete = true) (hnext : phase.next? c = none) (read : List Char)
    (cs : List Char) :
    scan (.number read phase) (c :: cs) = (scan .between (c :: cs)).map (numberRead read :: ·) := by
  rw [scan_between_cons, scan, hnext]
  simp only [hcomplete, if_true]
  cases start? c with
  | none => rfl
  | some started => simp [Function.comp_def]

/-- No number goes on with what comes next. -/
def Stops (cs : List Char) : Prop :=
  ∀ c ∈ cs.head?, ∀ phase : Phase, phase.isComplete = true → phase.next? c = none

theorem stops_cons {c : Char} (hdigit : c.isDigit = false) (hpoint : c ≠ '.')
    (hmark : c ≠ 'e' ∧ c ≠ 'E') (cs : List Char) : Stops (c :: cs) := by
  intro d hd phase hcomplete
  obtain rfl : c = d := by simpa using hd
  cases phase <;> simp_all [Phase.next?, Phase.isComplete]

/-- A number is scanned to its end. -/
theorem scan_number_append {phase : Phase} {more : List Char} (hmore : phase.Remainder more)
    (hstops : Stops cs) (read : List Char) :
    scan (.number read phase) (more ++ cs) =
      (scan .between cs).map (numberRead (more.reverse ++ read) :: ·) := by
  induction more generalizing phase read with
  | nil =>
    have hcomplete := (Phase.remainder_nil_iff phase).mp hmore
    cases cs with
    | nil => simp [scan, hcomplete]
    | cons c cs =>
      exact scan_number_of_next?_eq_none hcomplete (hstops c rfl phase hcomplete) read cs
  | cons c more ih =>
    obtain ⟨next, hnext, hremainder⟩ := (Phase.remainder_cons_iff phase).mp hmore
    rw [List.cons_append, scan, hnext]
    simpa using ih hremainder (c :: read)

/-- What is scanned as a number goes through the phases of one. -/
theorem exists_of_scan_number {phase : Phase} {read : List Char}
    (h : scan (.number read phase) cs = some tokens) :
    ∃ more rest later, phase.Remainder more ∧ cs = more ++ rest ∧
      scan .between rest = some later ∧ tokens = numberRead (more.reverse ++ read) :: later := by
  induction cs generalizing phase read with
  | nil =>
    rw [scan] at h
    split at h
    · rename_i hcomplete
      exact ⟨[], [], [], (Phase.remainder_nil_iff phase).mpr hcomplete, rfl, rfl,
        (Option.some.inj h).symm⟩
    · simp at h
  | cons c cs ih =>
    cases hnext : phase.next? c with
    | some next =>
      rw [scan, hnext] at h
      obtain ⟨more, rest, later, hmore, rfl, hlater, rfl⟩ := ih h
      exact ⟨c :: more, rest, later, (Phase.remainder_cons_iff phase).mpr ⟨next, hnext, hmore⟩, rfl,
        hlater, by simp⟩
    | none =>
      have hcomplete : phase.isComplete = true := by
        rw [scan, hnext] at h
        by_contra hincomplete
        simp [hincomplete] at h
      rw [scan_number_of_next?_eq_none hcomplete hnext] at h
      obtain ⟨later, hlater, rfl⟩ := Option.map_eq_some_iff.mp h
      exact ⟨[], c :: cs, later, (Phase.remainder_nil_iff phase).mpr hcomplete, rfl, hlater, rfl⟩

/-! ### Strings -/

theorem scan_hex_append {digits : List Char} {before n : Nat} (hne : digits ≠ [])
    (hn : hexNumber? before digits = some n) (read : List Piece) (cs : List Char) :
    scan (.hex read digits.length before) (digits ++ cs) =
      scan (.string (.unit n :: read)) cs := by
  induction digits generalizing before with
  | nil => exact absurd rfl hne
  | cons c digits ih =>
    rw [hexNumber?] at hn
    split at hn
    · rename_i digit hdigit
      rw [List.cons_append, scan, hdigit]
      cases digits with
      | nil =>
        obtain rfl : before * 16 + digit = n := Option.some.inj hn
        rfl
      | cons d digits => simpa using ih (by simp) hn
    · simp at hn

theorem exists_of_scan_hex {left before : Nat} {read : List Piece}
    (h : scan (.hex read (left + 1) before) cs = some tokens) :
    ∃ digits n rest, digits.length = left + 1 ∧ hexNumber? before digits = some n ∧
      cs = digits ++ rest ∧ scan (.string (.unit n :: read)) rest = some tokens := by
  induction left generalizing before cs with
  | zero =>
    cases cs with
    | nil => simp [scan] at h
    | cons c cs =>
      rw [scan] at h
      split at h
      · simp at h
      · rename_i digit hdigit
        exact ⟨[c], before * 16 + digit, cs, rfl, by simp [hexNumber?, hdigit], rfl,
          by simpa using h⟩
  | succ left ih =>
    cases cs with
    | nil => simp [scan] at h
    | cons c cs =>
      rw [scan] at h
      split at h
      · simp at h
      · rename_i digit hdigit
        obtain ⟨digits, n, rest, hlength, hn, rfl, hrest⟩ := ih (by simpa using h)
        exact ⟨c :: digits, n, rest, by simp [hlength], by simp [hexNumber?, hdigit, hn], rfl,
          hrest⟩

/-- A part of a string is scanned to its end. -/
theorem scan_piece_append {piece : Piece} {written : List Char} (h : piece.WrittenAs written)
    (read : List Piece) (cs : List Char) :
    scan (.string read) (written ++ cs) = scan (.string (piece :: read)) cs := by
  cases h with
  | plain hcontrol hquote hbackslash =>
    simp [scan, hquote, hbackslash, Nat.not_lt.mpr hcontrol]
  | @escaped letter c hletter =>
    have hu : letter ≠ 'u' := by
      rintro rfl
      simp [escapedChar?] at hletter
    simp [scan, hu, hletter]
  | @unit digits n hlength hn =>
    have hne : digits ≠ [] := List.ne_nil_of_length_pos (by omega)
    have := scan_hex_append hne hn read cs
    rw [hlength] at this
    simpa [scan] using this

/-- Inside a string there is either its end or another part of it. -/
theorem exists_of_scan_string {read : List Piece} (h : scan (.string read) cs = some tokens) :
    (∃ rest later, cs = '"' :: rest ∧ scan .between rest = some later ∧
      tokens = stringRead read :: later) ∨
    ∃ piece written rest, Piece.WrittenAs piece written ∧ cs = written ++ rest ∧
      scan (.string (piece :: read)) rest = some tokens := by
  cases cs with
  | nil => simp [scan] at h
  | cons c cs =>
    rw [scan] at h
    split at h
    · rename_i hquote
      obtain ⟨later, hlater, rfl⟩ := Option.map_eq_some_iff.mp h
      exact .inl ⟨cs, later, by rw [hquote], hlater, rfl⟩
    split at h
    · rename_i hbackslash
      subst hbackslash
      refine .inr ?_
      cases cs with
      | nil => simp [scan] at h
      | cons letter cs =>
        rw [scan] at h
        split at h
        · rename_i hu
          subst hu
          obtain ⟨digits, n, rest, hlength, hn, rfl, hrest⟩ := exists_of_scan_hex h
          exact ⟨.unit n, _, rest, .unit hlength hn, rfl, hrest⟩
        · split at h
          · rename_i c hletter
            exact ⟨.char c, _, cs, .escaped hletter, rfl, h⟩
          · simp at h
    split at h
    · simp at h
    · rename_i hquote hbackslash hcontrol
      exact .inr ⟨.char c, [c], cs, .plain (Nat.not_lt.mp hcontrol) hquote hbackslash, rfl, h⟩

/-- A string is scanned to its closing quote. -/
theorem scan_string_append {pieces : List Piece} {written : List Char}
    (h : Contents pieces written) (read : List Piece) (cs : List Char) :
    scan (.string read) (written ++ '"' :: cs) =
      (scan .between cs).map (stringRead (pieces.reverse ++ read) :: ·) := by
  induction h generalizing read with
  | nil => simp [scan]
  | cons hpiece _ ih =>
    rw [List.append_assoc, scan_piece_append hpiece, ih]
    simp

/-- What is scanned as a string has the parts of one, and ends in a quote. -/
theorem exists_contents_of_scan_string {read : List Piece}
    (h : scan (.string read) cs = some tokens) :
    ∃ pieces written rest later, Contents pieces written ∧ cs = written ++ '"' :: rest ∧
      scan .between rest = some later ∧ tokens = stringRead (pieces.reverse ++ read) :: later := by
  -- a part may be several characters long, so the induction is on the length of what is left
  induction hlength : cs.length using Nat.strongRecOn generalizing cs read with
  | ind length ih =>
    rcases exists_of_scan_string h with
      ⟨rest, later, rfl, hlater, rfl⟩ | ⟨piece, written, rest, hpiece, rfl, hrest⟩
    · exact ⟨[], [], rest, later, .nil, rfl, hlater, rfl⟩
    · have hshorter : rest.length < length := by
        have hpos : 0 < written.length := by cases hpiece <;> simp
        rw [← hlength, List.length_append]
        omega
      obtain ⟨pieces, body, last, later, hpieces, rfl, hlater, rfl⟩ := ih _ hshorter hrest rfl
      exact ⟨piece :: pieces, written ++ body, last, later, .cons hpiece hpieces, by simp, hlater,
        by simp⟩

/-! ### Where a token starts -/

/-- What the first character of a token says about it. -/
inductive Starts (c : Char) : List Token → Mode → Prop
  | blank : isBlank c = true → Starts c [] .between
  | mark {token : Token} : token.WrittenAs [c] → Starts c [token] .between
  | quote : c = '"' → Starts c [] (.string [])
  | word {token : Token} {word : List Char} : token.WrittenAs (c :: word) →
      Starts c [] (.word word token)
  | number {phase : Phase} : (∀ more, phase.Remainder more → IsNumber (c :: more)) →
      Starts c [] (.number [c] phase)

theorem starts_of_start? {c : Char} {started : List Token × Mode} (h : start? c = some started) :
    Starts c started.1 started.2 := by
  unfold start? at h
  rcases ite_eq_iff.mp h with ⟨hblank, ⟨⟩⟩ | ⟨-, h⟩
  · exact .blank hblank
  rcases ite_eq_iff.mp h with ⟨rfl, ⟨⟩⟩ | ⟨-, h⟩
  · exact .mark .openBrace
  rcases ite_eq_iff.mp h with ⟨rfl, ⟨⟩⟩ | ⟨-, h⟩
  · exact .mark .closeBrace
  rcases ite_eq_iff.mp h with ⟨rfl, ⟨⟩⟩ | ⟨-, h⟩
  · exact .mark .openBracket
  rcases ite_eq_iff.mp h with ⟨rfl, ⟨⟩⟩ | ⟨-, h⟩
  · exact .mark .closeBracket
  rcases ite_eq_iff.mp h with ⟨rfl, ⟨⟩⟩ | ⟨-, h⟩
  · exact .mark .colon
  rcases ite_eq_iff.mp h with ⟨rfl, ⟨⟩⟩ | ⟨-, h⟩
  · exact .mark .comma
  rcases ite_eq_iff.mp h with ⟨hquote, ⟨⟩⟩ | ⟨-, h⟩
  · exact .quote hquote
  rcases ite_eq_iff.mp h with ⟨rfl, ⟨⟩⟩ | ⟨-, h⟩
  · exact .word .null
  rcases ite_eq_iff.mp h with ⟨rfl, ⟨⟩⟩ | ⟨-, h⟩
  · exact .word .true
  rcases ite_eq_iff.mp h with ⟨rfl, ⟨⟩⟩ | ⟨-, h⟩
  · exact .word .false
  -- what is left are the ways in which a number starts
  rcases ite_eq_iff.mp h with ⟨hminus, ⟨⟩⟩ | ⟨-, h⟩
  · exact .number fun more hmore => isNumber_cons_iff.mpr (.inl ⟨hminus, hmore⟩)
  rcases ite_eq_iff.mp h with ⟨hzero, ⟨⟩⟩ | ⟨hzero, h⟩
  · exact .number fun more hmore =>
      isNumber_cons_iff.mpr (.inr (Phase.remainder_sign_cons_iff.mpr (.inl ⟨hzero, hmore⟩)))
  rcases ite_eq_iff.mp h with ⟨hdigit, ⟨⟩⟩ | ⟨-, h⟩
  · exact .number fun more hmore =>
      isNumber_cons_iff.mpr (.inr (Phase.remainder_sign_cons_iff.mpr (.inr ⟨hdigit, hzero, hmore⟩)))
  · exact absurd h (by simp)

theorem start?_of_isDigit {c : Char} (hc : c.isDigit = true) (hzero : c ≠ '0') :
    start? c = some ([], .number [c] .whole) := by
  obtain ⟨hlt, hchar⟩ := digit_spec hc
  generalize c.toNat - '0'.toNat = n at hlt hchar
  subst hchar
  interval_cases n
  · exact absurd rfl hzero
  all_goals rfl

/-- A number starts like one. -/
theorem start?_of_isNumber {c : Char} {more : List Char} (h : IsNumber (c :: more)) :
    ∃ phase : Phase, start? c = some ([], .number [c] phase) ∧ phase.Remainder more := by
  rcases isNumber_cons_iff.mp h with ⟨rfl, hmore⟩ | h
  · exact ⟨.sign, rfl, hmore⟩
  rcases Phase.remainder_sign_cons_iff.mp h with ⟨rfl, hmore⟩ | ⟨hc, hzero, hmore⟩
  · exact ⟨.zero, rfl, hmore⟩
  · exact ⟨.whole, start?_of_isDigit hc hzero, hmore⟩

/-! ## All tokens -/

/-- The token is a number. -/
def Token.IsNumber : Token → Prop
  | .number _ => True
  | _ => False

/-- One of the two tokens is not a number. -/
def Token.Apart (token next : Token) : Prop := ¬ (token.IsNumber ∧ next.IsNumber)

/-- A token that is not a number keeps what comes before it apart from what comes after it. -/
theorem isChain_apart_append_cons_iff (before : List Token) {mark : Token}
    (hmark : ¬ mark.IsNumber) (after : List Token) :
    (before ++ mark :: after).IsChain Token.Apart ↔
      before.IsChain Token.Apart ∧ after.IsChain Token.Apart := by
  rw [List.isChain_append, List.isChain_cons]
  simp [Token.Apart, hmark]

/-- A token that is written in front of a text is scanned in front of what the text scans to. -/
theorem scan_token_append {token : Token} {written : List Char} (h : token.WrittenAs written)
    (hstops : token.IsNumber → Stops cs) :
    scan .between (written ++ cs) = (scan .between cs).map (token :: ·) := by
  have hword (c : Char) (word : List Char) (hne : word ≠ [])
      (hstart : start? c = some ([], .word word token)) :
      scan .between (c :: word ++ cs) = (scan .between cs).map (token :: ·) := by
    rw [List.cons_append, scan_between_cons, hstart, Option.bind_some, scan_word_append hne]
    simp [Function.comp_def]
  cases h with
  | openBrace | closeBrace | openBracket | closeBracket | colon | comma => rfl
  | null | true | false => exact hword _ _ (by simp) rfl
  | @number written hnumber =>
    cases written with
    | nil => exact absurd hnumber not_isNumber_nil
    | cons c more =>
      obtain ⟨phase, hstart, hmore⟩ := start?_of_isNumber hnumber
      rw [List.cons_append, scan_between_cons, hstart, Option.bind_some,
        scan_number_append hmore (hstops trivial)]
      simp [numberRead, Function.comp_def]
  | @string pieces written hcontents =>
    have hstart : start? '"' = some ([], .string []) := rfl
    rw [List.cons_append, List.append_assoc, scan_between_cons, hstart, Option.bind_some,
      List.singleton_append, scan_string_append hcontents]
    simp [stringRead, Function.comp_def]

/-- Tokens that are scanned are laid out. -/
theorem laidOut_of_scan (h : scan .between cs = some tokens) : LaidOut tokens cs := by
  induction hlength : cs.length using Nat.strongRecOn generalizing cs tokens with
  | ind length ih =>
    cases cs with
    | nil =>
      obtain rfl : [] = tokens := by simpa [scan] using h
      exact .nil
    | cons c cs =>
      have hlaid {rest : List Char} {later : List Token} (hsuffix : rest <:+ cs)
          (hlater : scan .between rest = some later) : LaidOut later rest :=
        ih rest.length (by have := hsuffix.length_le; simp [← hlength]; omega) hlater rfl
      rw [scan_between_cons] at h
      obtain ⟨⟨first, mode⟩, hstart, h⟩ := Option.bind_eq_some_iff.mp h
      obtain ⟨later, hlater, rfl⟩ := Option.map_eq_some_iff.mp h
      cases starts_of_start? hstart with
      | blank hblank => exact .blank hblank (hlaid List.suffix_rfl hlater)
      | mark hmark => exact .token hmark (hlaid List.suffix_rfl hlater)
      | quote hquote =>
        subst hquote
        obtain ⟨pieces, written, rest, later, hcontents, rfl, hrest, rfl⟩ :=
          exists_contents_of_scan_string hlater
        have hsuffix : rest <:+ written ++ '"' :: rest := ⟨written ++ ['"'], by simp⟩
        simpa [stringRead] using LaidOut.token (.string hcontents) (hlaid hsuffix hrest)
      | @word token word htoken =>
        obtain ⟨rest, later, rfl, hrest, rfl⟩ := exists_of_scan_word hlater
        exact .token htoken (hlaid (List.suffix_append word rest) hrest)
      | @number phase hnumber =>
        obtain ⟨more, rest, later, hmore, rfl, hrest, rfl⟩ := exists_of_scan_number hlater
        simpa [numberRead] using
          LaidOut.token (.number (hnumber more hmore)) (hlaid (List.suffix_append more rest) hrest)

/-- No number goes on with a blank or with a token that is not a number. -/
theorem stops_of_laidOut (h : LaidOut tokens cs)
    (hhead : ∀ token ∈ tokens.head?, ¬ token.IsNumber) : Stops cs := by
  cases h with
  | nil => simp [Stops]
  | @blank c tokens cs hblank _ =>
    simp only [isBlank, Bool.or_eq_true, beq_iff_eq] at hblank
    rcases hblank with ((rfl | rfl) | rfl) | rfl
    all_goals exact stops_cons rfl (by decide) (by decide) cs
  | @token token tokens written cs htoken _ =>
    have hother := hhead token rfl
    cases htoken with
    | number => exact absurd trivial hother
    | _ => exact stops_cons rfl (by decide) (by decide) _

/-- **Tokens that are laid out are scanned**, if no two numbers touch. -/
theorem scan_of_laidOut (h : LaidOut tokens cs)
    (hapart : tokens.IsChain Token.Apart) :
    scan .between cs = some tokens := by
  induction h with
  | nil => rfl
  | @blank c tokens cs hblank _ ih =>
    have hstart : start? c = some ([], .between) := by simp [start?, hblank]
    rw [scan_between_cons, hstart, Option.bind_some, ih hapart]
    rfl
  | @token token tokens written cs htoken hlaid ih =>
    obtain ⟨hnext, hlater⟩ := List.isChain_cons.mp hapart
    have hstops (hnumber : token.IsNumber) : Stops cs :=
      stops_of_laidOut hlaid fun next hhead hother => hnext next hhead ⟨hnumber, hother⟩
    rw [scan_token_append htoken hstops, ih hlater]
    rfl

/-! ## Spelling -/

theorem hexNumber?_control (n : Nat) (h : n < 0x20) :
    hexNumber? 0 ['0', '0', Nat.digitChar (n / 16), Nat.digitChar (n % 16)] = some n := by
  revert n
  decide

/-- A character in a string is spelled as a part that stands for it. -/
theorem exists_piece_writtenAs_spellChar (c : Char) :
    ∃ piece : Piece, piece.WrittenAs (spellChar c) ∧
      ∀ pieces, assemble (piece :: pieces) = (assemble pieces).map (c :: ·) := by
  unfold spellChar
  split
  iterate 7 exact ⟨.char _, .escaped rfl, fun _ => rfl⟩
  rename_i hquote hbackslash _ _ _ _ _
  split
  · rename_i hcontrol
    refine ⟨.unit c.toNat, .unit rfl (hexNumber?_control c.toNat hcontrol), fun pieces => ?_⟩
    have hhigh : isHighUnit c.toNat = false := by simp [isHighUnit]; omega
    have hlow : isLowUnit c.toNat = false := by simp [isLowUnit]; omega
    rw [assemble.eq_def]
    simp [hhigh, hlow]
  · rename_i hplain
    exact ⟨.char c, .plain (Nat.not_lt.mp hplain) hquote hbackslash, fun _ => rfl⟩

/-- Spelled characters are the contents of a string that stands for them. -/
theorem exists_contents_flatMap_spellChar (cs : List Char) :
    ∃ pieces, Contents pieces (cs.flatMap spellChar) ∧ assemble pieces = some cs := by
  induction cs with
  | nil => exact ⟨[], .nil, rfl⟩
  | cons c cs ih =>
    obtain ⟨piece, hpiece, hchar⟩ := exists_piece_writtenAs_spellChar c
    obtain ⟨pieces, hcontents, hassemble⟩ := ih
    exact ⟨piece :: pieces, .cons hpiece hcontents, by rw [hchar, hassemble]; rfl⟩

/-- A token that is a number, if any, is a number as it should be. -/
def Token.Lawful : Token → Prop
  | .number literal => Json.IsNumber literal.toList
  | _ => True

theorem lawful_of_laidOut (h : LaidOut tokens cs) : ∀ token ∈ tokens, token.Lawful := by
  induction h with
  | nil => simp
  | blank _ _ ih => exact ih
  | token htoken _ ih =>
    refine List.forall_mem_cons.mpr ⟨?_, ih⟩
    cases htoken with
    | number hnumber => simpa [Token.Lawful] using hnumber
    | _ => trivial

/-- A token is spelled as tokens are written. -/
theorem Token.writtenAs_spell {token : Token} (h : token.Lawful) : token.WrittenAs token.spell := by
  cases token with
  | number literal =>
    have hnumber := WrittenAs.number h
    rw [String.ofList_toList] at hnumber
    exact hnumber
  | string content =>
    cases content with
    | none =>
      have hunit : Piece.WrittenAs (.unit 0xD800) ['\\', 'u', 'd', '8', '0', '0'] :=
        .unit rfl rfl
      exact WrittenAs.string (.cons hunit .nil)
    | some content =>
      obtain ⟨pieces, hcontents, hassemble⟩ := exists_contents_flatMap_spellChar content.toList
      have hstring := WrittenAs.string hcontents
      rw [hassemble, Option.map_some, String.ofList_toList] at hstring
      exact hstring
  | bool value => cases value <;> constructor
  | _ => constructor

/-- Tokens that are spelled one after the other are laid out. -/
theorem laidOut_spell (h : ∀ token ∈ tokens, token.Lawful) :
    LaidOut tokens (tokens.flatMap Token.spell) := by
  induction tokens with
  | nil => exact .nil
  | cons token tokens ih =>
    exact .token (Token.writtenAs_spell (h token (by simp)))
      (ih fun next hnext => h next (List.mem_cons_of_mem token hnext))

end CommandConsole.Json
