import CommandConsole.Text.Lowercase

/-!
# Lowercase of the beginning of a text

Every character has its lowercase form by itself, except the capital sigma, whose form depends on
the letters around it.  A sigma that ends the beginning of a text may stand inside a word of the
whole text.  Then, and only then, the lowercase of the text does not begin with the lowercase of its
beginning (`lowerFrom_prefix_iff`).

What follows a run of characters can change the form of its last sigma only, and it never changes
how many characters the lowercase of the run has (`length_lowerBetween`).  So the two lowercases are
compared character by character, along the run.
-/
namespace CommandConsole.Text

/-- The lowercase form of a run of characters between `before`, which is read backwards, and
`after`. -/
def lowerBetween (before after : List Char) : List Char → List Char
  | [] => []
  | c :: cs =>
    (if c = 'Σ' then [lowerSigma before (cs ++ after)] else lowerChar c) ++
      lowerBetween (c :: before) after cs

/-- The run ends, up to marks, with a capital sigma that has a letter before it.  That sigma is final
if no letter follows the run. -/
def EndsInSigma (before cs : List Char) : Prop :=
  ∃ word marks, cs = word ++ 'Σ' :: marks ∧ meetsLetter (word.reverse ++ before) = true ∧
    ∀ c ∈ marks, isCaseIgnorable c = true

theorem lowerFrom_append (before cs after : List Char) :
    lowerFrom before (cs ++ after) =
      lowerBetween before after cs ++ lowerFrom (cs.reverse ++ before) after := by
  induction cs generalizing before with
  | nil => rfl
  | cons c cs ih =>
    rw [List.cons_append, lowerFrom, ih, lowerBetween, List.append_assoc, List.reverse_cons,
      List.append_assoc]
    rfl

/-- The lowercase of a run is as long, whatever follows the run. -/
theorem length_lowerBetween (before after cs : List Char) :
    (lowerBetween before after cs).length = (lowerFrom before cs).length := by
  induction cs generalizing before with
  | nil => rfl
  | cons c cs ih =>
    rw [lowerBetween, lowerFrom, List.length_append, List.length_append, ih]
    split
    · rfl
    · rfl

/-! ## The form of one sigma -/

theorem meetsLetter_append (cs after : List Char) :
    meetsLetter (cs ++ after) =
      if cs.all isCaseIgnorable then meetsLetter after else meetsLetter cs := by
  induction cs with
  | nil => rfl
  | cons c cs ih =>
    rw [List.cons_append, meetsLetter, meetsLetter, List.all_cons]
    cases isCaseIgnorable c with
    | true => exact ih
    | false => rfl

/-- Among marks there is no letter to be met. -/
theorem meetsLetter_of_all {cs : List Char} (h : cs.all isCaseIgnorable = true) :
    meetsLetter cs = false := by
  have hnil := meetsLetter_append cs []
  rwa [List.append_nil, if_pos h] at hnil

/-- The form of a sigma changes with what follows the run that it stands in, if the sigma was final
and what follows makes the word go on. -/
theorem lowerSigma_append_eq_iff (before cs after : List Char) :
    lowerSigma before (cs ++ after) = lowerSigma before cs ↔
      ¬ (meetsLetter before = true ∧ cs.all isCaseIgnorable = true ∧ meetsLetter after = true) := by
  rw [lowerSigma, lowerSigma, meetsLetter_append]
  cases hmarks : cs.all isCaseIgnorable with
  | true =>
    rw [if_pos rfl, meetsLetter_of_all hmarks]
    cases meetsLetter before <;> cases meetsLetter after <;> decide
  | false =>
    rw [if_neg Bool.false_ne_true]
    exact iff_of_true rfl fun h => Bool.false_ne_true h.2.1

/-! ## The forms along a run -/

theorem not_endsInSigma_nil (before : List Char) : ¬ EndsInSigma before [] := by
  rintro ⟨word, marks, hcs, -⟩
  exact absurd hcs.symm (by simp)

theorem endsInSigma_cons_iff (before : List Char) (c : Char) (cs : List Char) :
    EndsInSigma before (c :: cs) ↔
      (c = 'Σ' ∧ meetsLetter before = true ∧ cs.all isCaseIgnorable = true) ∨
        EndsInSigma (c :: before) cs := by
  constructor
  · rintro ⟨word, marks, hcs, hword, hmarks⟩
    cases word with
    | nil =>
      obtain ⟨rfl, rfl⟩ := List.cons.inj hcs
      exact Or.inl ⟨rfl, hword, List.all_eq_true.mpr hmarks⟩
    | cons d word =>
      obtain ⟨rfl, rfl⟩ := List.cons.inj hcs
      rw [List.reverse_cons, List.append_assoc] at hword
      exact Or.inr ⟨word, marks, rfl, hword, hmarks⟩
  · rintro (⟨rfl, hbefore, hmarks⟩ | ⟨word, marks, rfl, hword, hmarks⟩)
    · exact ⟨[], cs, rfl, hbefore, List.all_eq_true.mp hmarks⟩
    · refine ⟨c :: word, marks, rfl, ?_, hmarks⟩
      rw [List.reverse_cons, List.append_assoc]
      exact hword

/-- What follows a run changes its lowercase exactly if it goes on with a word that the run seemed to
end with a sigma. -/
theorem lowerBetween_eq_iff (before after cs : List Char) :
    lowerBetween before after cs = lowerFrom before cs ↔
      ¬ (EndsInSigma before cs ∧ meetsLetter after = true) := by
  induction cs generalizing before with
  | nil => exact iff_of_true rfl fun h => not_endsInSigma_nil before h.1
  | cons c cs ih =>
    have hstep : lowerBetween before after (c :: cs) = lowerFrom before (c :: cs) ↔
        (c = 'Σ' → lowerSigma before (cs ++ after) = lowerSigma before cs) ∧
          lowerBetween (c :: before) after cs = lowerFrom (c :: before) cs := by
      rw [lowerBetween, lowerFrom]
      by_cases hc : c = 'Σ'
      · rw [if_pos hc, if_pos hc, List.singleton_append, List.singleton_append, List.cons.injEq]
        simp only [hc, forall_const]
      · rw [if_neg hc, if_neg hc, List.append_cancel_left_eq]
        simp only [hc, false_imp_iff, true_and]
    rw [hstep, ih, lowerSigma_append_eq_iff, endsInSigma_cons_iff, or_and_right, not_or]
    simp only [not_and, and_imp]

/-- **Lowercase keeps beginnings, with one exception.**  The lowercase of a text begins with the
lowercase of its beginning, unless the beginning ends with a sigma and the rest goes on with the
word. -/
theorem lowerFrom_prefix_iff (before cs after : List Char) :
    lowerFrom before cs <+: lowerFrom before (cs ++ after) ↔
      ¬ (EndsInSigma before cs ∧ meetsLetter after = true) := by
  rw [← lowerBetween_eq_iff, lowerFrom_append]
  constructor
  · intro h
    have hfits := List.prefix_of_prefix_length_le h (List.prefix_append _ _)
      (Nat.le_of_eq (length_lowerBetween before after cs).symm)
    exact (hfits.eq_of_length (length_lowerBetween before after cs).symm).symm
  · intro h
    rw [h]
    exact List.prefix_append _ _

end CommandConsole.Text
