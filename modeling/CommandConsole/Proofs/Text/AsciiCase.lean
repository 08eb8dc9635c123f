import CommandConsole.Proofs.Line.Joining
import CommandConsole.Proofs.Text.Lowercase

/-!
# Texts that differ in the case of ASCII letters

To put the ASCII letters of a text into lowercase first makes no difference to its lowercase
(`lowercase_toLower`).  Letter by letter this is plain, since a capital and its small letter have
the same lowercase form.  But the form of a capital sigma depends on the characters around it, ASCII
letters among them, so two more things are needed: a capital is a letter with case if its small
letter is one, and case looks through the one if it looks through the other.  These are facts about
the tables, and about 26 letters only.
-/
namespace CommandConsole.Text

/-! ## Characters -/

/-- Of the ranges only those that begin with an ASCII character matter to ASCII characters. -/
theorem inRanges_of_ascii (ranges : List (Nat × Nat)) {c : Char} (hc : c.toNat < 0x80) :
    inRanges ranges c = inRanges (ranges.filter (·.1 < 0x80)) c := by
  rw [inRanges, inRanges, List.any_filter]
  refine congrArg ranges.any (funext fun range => ?_)
  by_cases hlow : range.1 < 0x80
  · rw [decide_eq_true hlow, Bool.true_and]
  · have hout : ¬ range.1 ≤ c.toNat := by omega
    rw [decide_eq_false hlow, decide_eq_false hout, Bool.false_and, Bool.false_and]

theorem inRanges_toLower {ranges : List (Nat × Nat)} (low : List (Nat × Nat))
    (hlow : ranges.filter (·.1 < 0x80) = low)
    (h : ∀ i < 26,
      inRanges low (Char.ofNat (0x41 + i)).toLower = inRanges low (Char.ofNat (0x41 + i)))
    (c : Char) : inRanges ranges c.toLower = inRanges ranges c := by
  by_cases hc : c.toNat < 0x80
  · rw [inRanges_of_ascii ranges (toNat_toLower_lt hc), inRanges_of_ascii ranges hc, hlow]
    exact apply_toLower (inRanges low) h c
  · rw [toLower_of_not_ascii hc]

theorem isCased_toLower (c : Char) : isCased c.toLower = isCased c :=
  inRanges_toLower [(0x41, 0x5A), (0x61, 0x7A)] (by decide) (by decide) c

theorem isCaseIgnorable_toLower (c : Char) : isCaseIgnorable c.toLower = isCaseIgnorable c :=
  inRanges_toLower [(0x27, 0x27), (0x2E, 0x2E), (0x3A, 0x3A), (0x5E, 0x5E), (0x60, 0x60)]
    (by decide) (by decide) c

theorem lowerChar_toLower (c : Char) : lowerChar c.toLower = lowerChar c :=
  apply_toLower lowerChar (by decide) c

theorem toLower_eq_sigma_iff (c : Char) : c.toLower = 'Σ' ↔ c = 'Σ' :=
  decide_eq_decide.mp (apply_toLower (fun d => decide (d = 'Σ')) (by decide) c)

/-! ## Texts -/

theorem meetsLetter_map_toLower (cs : List Char) :
    meetsLetter (cs.map Char.toLower) = meetsLetter cs := by
  induction cs with
  | nil => rfl
  | cons c cs ih =>
    rw [List.map_cons, meetsLetter, meetsLetter, isCaseIgnorable_toLower, isCased_toLower, ih]

/-- A sigma has the same form among capitals as among small letters. -/
theorem lowerSigma_map_toLower (before after : List Char) :
    lowerSigma (before.map Char.toLower) (after.map Char.toLower) = lowerSigma before after := by
  rw [lowerSigma, lowerSigma, meetsLetter_map_toLower, meetsLetter_map_toLower]

theorem lowerFrom_map_toLower (before cs : List Char) :
    lowerFrom (before.map Char.toLower) (cs.map Char.toLower) = lowerFrom before cs := by
  induction cs generalizing before with
  | nil => rfl
  | cons c cs ih =>
    have hlater : lowerFrom (c.toLower :: before.map Char.toLower) (cs.map Char.toLower) =
        lowerFrom (c :: before) cs := ih (c :: before)
    rw [List.map_cons, lowerFrom, lowerFrom, hlater, lowerSigma_map_toLower, lowerChar_toLower]
    simp only [toLower_eq_sigma_iff]

theorem toList_toLower (s : String) : s.toLower.toList = s.toList.map Char.toLower :=
  String.toList_map

/-- **ASCII letters may be put into lowercase first.** -/
theorem lowercase_toLower (s : String) : lowercase s.toLower = lowercase s := by
  rw [← String.toList_inj, toList_lowercase, toList_lowercase, toList_toLower]
  exact lowerFrom_map_toLower [] s.toList

/-- Texts that differ in the case of ASCII letters only are the same in lowercase. -/
theorem lowercase_eq_of_toLower_eq {s t : String} (h : s.toLower = t.toLower) :
    lowercase s = lowercase t := by
  rw [← lowercase_toLower, h, lowercase_toLower]

theorem toLower_eq_iff {s t : String} : s.toLower = t ↔ s.toList.map Char.toLower = t.toList := by
  rw [← String.toList_inj, toList_toLower]

/-- Texts differ in the case of ASCII letters only, if their characters do. -/
theorem toLower_eq_toLower_iff {s t : String} :
    s.toLower = t.toLower ↔ s.toList.map Char.toLower = t.toList.map Char.toLower := by
  rw [toLower_eq_iff, toList_toLower]

theorem toLower_eq_empty_iff {s : String} : s.toLower = "" ↔ s = "" := by
  rw [toLower_eq_iff, String.toList_empty, List.map_eq_nil_iff, String.toList_eq_nil_iff]

/-- The ends of a text are white space or not, whatever the case of its letters. -/
theorem isTrimmed_toLower_iff (s : String) : IsTrimmed s.toLower ↔ IsTrimmed s := by
  rw [isTrimmed_iff, isTrimmed_iff, toList_toLower, List.head?_map, List.getLast?_map]
  simp only [Option.all_map, isBlank_toLower]

end CommandConsole.Text
