import CommandConsole.Proofs.Text.Lowercase
import Mathlib.Data.List.SplitBy

/-!
# Lowercase of a lowercase text

A text in lowercase is its own lowercase.  This is a property of the tables and not of the way they
are read: a letter stands for its lowercase form in one step, and no form has a form again
(`CaseRun.formsAvoid_of_mem`).  The sigma, whose form depends on the letters around it, makes no
exception, since neither of its forms is a capital.
-/
namespace CommandConsole.Text

/-- Every letter that is not its own lowercase: the ASCII capitals, the dotted capital I and the
letters of the table, the capital sigma among them. -/
def capitalRuns : List CaseRun := ⟨0x41, 0x5A, 1, 32⟩ :: ⟨0x130, 0x130, 1, 0⟩ :: caseRuns

/-- The character is none of the letters that have a lowercase form. -/
def IsLower (c : Char) : Prop := ∀ run ∈ capitalRuns, run.contains c = false

instance (c : Char) : Decidable (IsLower c) :=
  decidable_of_iff ((capitalRuns.all fun run => !run.contains c) = true) (by simp [IsLower])

/-! ## The table -/

/-- The lowercase form of the first letter of a run. -/
def CaseRun.firstForm (run : CaseRun) : Nat := (run.first + run.offset).toNat

/-- The lowercase form of the last letter of a run. -/
def CaseRun.lastForm (run : CaseRun) : Nat := (run.last + run.offset).toNat

/-- No letter of `run` has its lowercase form among the letters of `other`: the forms lie outside
of that run, or between its letters. -/
def CaseRun.formsAvoid (run other : CaseRun) : Bool :=
  run.lastForm.blt other.first || other.last.blt run.firstForm ||
    (other.step.beq 2 && (run.step.beq 2 || run.first.beq run.last) &&
      ((run.firstForm + other.first) % 2).beq 1)

/-- The runs of the capitals, those that begin in the same 512 code points together. -/
def capitalPages : List (List CaseRun) :=
  capitalRuns.splitBy fun run next => (run.first / 0x200).beq (next.first / 0x200)

/-- No letter of `run` has its lowercase form among the letters of the page, whose runs are looked
at one by one only where the forms come near them. -/
def CaseRun.formsAvoidPage (run : CaseRun) (page : List CaseRun) : Bool :=
  run.lastForm.blt ((page.map CaseRun.first).min?.getD 0) ||
    ((page.map CaseRun.last).max?.getD 0).blt run.firstForm || page.all run.formsAvoid

-- page by page, since the pairs of runs are some thirty thousand
theorem caseRuns_formsAvoidPage :
    (caseRuns.all fun run => capitalPages.all run.formsAvoidPage) = true := by
  decide +kernel

theorem CaseRun.formsAvoid_of_mem_page {run other : CaseRun} {page : List CaseRun}
    (hpage : run.formsAvoidPage page = true) (hother : other ∈ page) :
    run.formsAvoid other = true := by
  rw [formsAvoidPage, Bool.or_eq_true, Bool.or_eq_true, Nat.blt_eq, Nat.blt_eq] at hpage
  rcases hpage with (hbelow | habove) | hruns
  · have hfirst : (page.map CaseRun.first).min?.getD 0 ≤ other.first :=
      List.min?_getD_le_of_mem (List.mem_map_of_mem hother)
    rw [formsAvoid, Nat.blt_eq.mpr (Nat.lt_of_lt_of_le hbelow hfirst), Bool.true_or, Bool.true_or]
  · have hlast : other.last ≤ (page.map CaseRun.last).max?.getD 0 :=
      List.le_max?_getD_of_mem (List.mem_map_of_mem hother)
    rw [formsAvoid, Nat.blt_eq.mpr (Nat.lt_of_le_of_lt hlast habove), Bool.or_true, Bool.true_or]
  · exact List.all_eq_true.mp hruns other hother

/-- No letter of the table has a lowercase form that has one itself. -/
theorem CaseRun.formsAvoid_of_mem {run other : CaseRun} (hrun : run ∈ caseRuns)
    (hother : other ∈ capitalRuns) : run.formsAvoid other = true := by
  have hflat : other ∈ capitalPages.flatten := by rwa [capitalPages, List.flatten_splitBy]
  obtain ⟨page, hpage, hmem⟩ := List.mem_flatten.mp hflat
  have hpages := List.all_eq_true.mp caseRuns_formsAvoidPage run hrun
  exact formsAvoid_of_mem_page (List.all_eq_true.mp hpages page hpage) hmem

theorem caseRuns_bounds :
    (caseRuns.all fun run => 0x80 ≤ run.first && 0 ≤ run.first + run.offset) = true := by
  decide

theorem CaseRun.bounds {run : CaseRun} (hrun : run ∈ caseRuns) :
    0x80 ≤ run.first ∧ 0 ≤ run.first + run.offset := by
  have hbounds := List.all_eq_true.mp caseRuns_bounds run hrun
  rwa [Bool.and_eq_true, decide_eq_true_eq, decide_eq_true_eq] at hbounds

theorem CaseRun.first_pos {run : CaseRun} (hrun : run ∈ capitalRuns) : 0 < run.first := by
  rcases List.mem_cons.mp hrun with rfl | hrun
  · exact Nat.zero_lt_succ _
  rcases List.mem_cons.mp hrun with rfl | hrun
  · exact Nat.zero_lt_succ _
  · exact Nat.lt_of_lt_of_le (Nat.zero_lt_succ _) (bounds hrun).1

/-! ## One character -/

theorem CaseRun.contains_lower_of_formsAvoid {run other : CaseRun} {c : Char}
    (havoid : run.formsAvoid other = true) (hform : 0 ≤ run.first + run.offset)
    (hother : 0 < other.first) (hc : run.contains c = true) :
    other.contains (run.lower c) = false := by
  simp only [formsAvoid, firstForm, lastForm, Bool.or_eq_true, Bool.and_eq_true, Nat.blt_eq,
    Nat.beq_eq] at havoid
  rw [Bool.eq_false_iff, ne_eq, contains_iff, lower]
  rintro ⟨hlow, hhigh, hstep⟩
  obtain ⟨hfirst, hlast, hplace⟩ := contains_iff.mp hc
  -- a number that is no code point stands for the character zero
  rcases toNat_ofNat_cases (c.toNat + run.offset).toNat with hn | hn <;> rw [hn] at hlow hhigh hstep
  · rcases havoid with (hbelow | habove) | ⟨⟨htwo, hrun⟩, hodd⟩
    · omega
    · omega
    · rw [htwo] at hstep
      rcases hrun with hrun | hrun
      · rw [hrun] at hplace
        omega
      · omega
  · omega

theorem isLower_lower {run : CaseRun} {c : Char} (hrun : run ∈ caseRuns)
    (hc : run.contains c = true) : IsLower (run.lower c) := by
  intro other hother
  exact CaseRun.contains_lower_of_formsAvoid (CaseRun.formsAvoid_of_mem hrun hother)
    (CaseRun.bounds hrun).2 (CaseRun.first_pos hother) hc

theorem isLower_iff {c : Char} :
    IsLower c ↔ (c.toNat < 0x41 ∨ 0x5A < c.toNat) ∧ c ≠ 'İ' ∧
      ∀ run ∈ caseRuns, run.contains c = false := by
  rw [IsLower, capitalRuns, List.forall_mem_cons, List.forall_mem_cons]
  refine and_congr ?_ (and_congr_left' ?_)
  · rw [Bool.eq_false_iff, ne_eq, CaseRun.contains_iff]
    simp only [Nat.mod_one, and_true]
    omega
  · have hcode : 'İ'.toNat = 0x130 := rfl
    rw [Bool.eq_false_iff, ne_eq, CaseRun.contains_iff, ne_eq, ← Char.toNat_inj, hcode]
    simp only [Nat.mod_one, and_true]
    omega

/-- Of the ASCII characters only the capitals have a lowercase form. -/
theorem isLower_iff_of_ascii {c : Char} (hc : c.toNat < 0x80) :
    IsLower c ↔ c.toNat < 0x41 ∨ 0x5A < c.toNat := by
  refine isLower_iff.trans (and_iff_left ⟨?_, fun run hrun => ?_⟩)
  · rintro rfl
    exact absurd hc (by decide)
  · rw [Bool.eq_false_iff, ne_eq, CaseRun.contains_iff]
    rintro ⟨hfirst, -, -⟩
    have := (CaseRun.bounds hrun).1
    omega

theorem isLower_toLower {c : Char} (hc : c.toNat < 0x80) : IsLower c.toLower := by
  have hform := toNat_toLower c
  rw [isLower_iff_of_ascii (toNat_toLower_lt hc)]
  split at hform <;> omega

theorem toLower_of_isLower {c : Char} (hc : c.toNat < 0x80) (h : IsLower c) : c.toLower = c := by
  rw [isLower_iff_of_ascii hc] at h
  exact toLower_of_not_capital (by omega)

theorem forms_all_isLower : (['i', '\u0307', 'ς', 'σ'].all (IsLower ·)) = true := by
  decide

/-- The lowercase forms of the dotted capital I and of the sigma are no capitals. -/
theorem isLower_of_mem_forms {d : Char} (hd : d ∈ ['i', '\u0307', 'ς', 'σ']) : IsLower d :=
  of_decide_eq_true (List.all_eq_true.mp forms_all_isLower d hd)

/-- The lowercase forms of a character are no capitals. -/
theorem isLower_of_mem_lowerChar {c d : Char} (hd : d ∈ lowerChar c) : IsLower d := by
  unfold lowerChar at hd
  split at hd
  · rename_i hascii
    rw [List.mem_singleton.mp hd]
    exact isLower_toLower hascii
  split at hd
  · exact isLower_of_mem_forms (List.mem_append_left ['ς', 'σ'] hd)
  split at hd
  · rename_i run hrun
    rw [List.mem_singleton.mp hd]
    have hcontains := List.find?_some hrun
    exact isLower_lower (List.mem_of_find?_eq_some hrun) hcontains
  · rename_i hascii hdotted _ hnone
    rw [List.mem_singleton.mp hd, isLower_iff]
    exact ⟨by omega, hdotted, fun run hrun =>
      Bool.eq_false_iff.mpr (List.find?_eq_none.mp hnone run hrun)⟩

/-- A character that is no capital is its own lowercase. -/
theorem lowerChar_of_isLower {c : Char} (h : IsLower c) : lowerChar c = [c] := by
  obtain ⟨-, hdotted, hruns⟩ := isLower_iff.mp h
  rw [lowerChar, if_neg hdotted]
  split
  · rename_i hascii
    rw [toLower_of_isLower hascii h]
  split
  · rename_i run hrun
    have hcontains := List.find?_some hrun
    rw [hruns run (List.mem_of_find?_eq_some hrun)] at hcontains
    exact absurd hcontains Bool.false_ne_true
  · rfl

/-! ## Texts -/

theorem isLower_of_mem_lowerFrom {before cs : List Char} {d : Char}
    (hd : d ∈ lowerFrom before cs) : IsLower d := by
  induction cs generalizing before with
  | nil => exact absurd hd List.not_mem_nil
  | cons c cs ih =>
    rw [lowerFrom] at hd
    rcases List.mem_append.mp hd with hform | hlater
    · split at hform
      · rw [List.mem_singleton.mp hform, lowerSigma]
        split
        · exact isLower_of_mem_forms (by decide)
        · exact isLower_of_mem_forms (by decide)
      · exact isLower_of_mem_lowerChar hform
    · exact ih hlater

/-- A run of characters without capitals is its own lowercase, wherever it stands. -/
theorem lowerFrom_of_isLower {cs : List Char} (h : ∀ c ∈ cs, IsLower c) (before : List Char) :
    lowerFrom before cs = cs := by
  induction cs generalizing before with
  | nil => rfl
  | cons c cs ih =>
    obtain ⟨hc, hcs⟩ := List.forall_mem_cons.mp h
    have hsigma : c ≠ 'Σ' := by
      rintro rfl
      exact absurd hc (by decide)
    rw [lowerFrom, if_neg hsigma, lowerChar_of_isLower hc, ih hcs]
    rfl

/-- **Lowercase is idempotent.** -/
theorem lowercase_lowercase (s : String) : lowercase (lowercase s) = lowercase s := by
  rw [← String.toList_inj, toList_lowercase, toList_lowercase]
  exact lowerFrom_of_isLower (fun _ => isLower_of_mem_lowerFrom) []

end CommandConsole.Text
