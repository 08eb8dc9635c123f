import CommandConsole.Completion
import CommandConsole.Proofs.Line.FirstWord
import CommandConsole.Proofs.Text.FinalSigma

/-!
# What is offered

In front of the cursor there is white space and then the word that is being typed.  All that is
offered depends on these two: nothing once the word has ended, which is at its first space, and else
the names that begin with the word, in lowercase both (`ofHead_eq`).

A name that is typed character by character ought to be offered at any time.  Its beginnings are
compared in lowercase with its own lowercase, though, and these do not always begin alike.  A name
is lost at a beginning that ends with a sigma, if the word goes on after it, and nowhere else
(`mem_candidates_of_beginning_iff`).
-/
namespace CommandConsole

namespace Completion

theorem fits_iff {word name : String} :
    fits word name = true ↔ (Text.lowercase word).toList <+: (Text.lowercase name).toList :=
  List.isPrefixOf_iff_prefix

/-- What comes after the cursor does not matter. -/
theorem of?_append (names : List String) (head tail : String) :
    of? names (head ++ tail) (Text.size head) = some (ofHead names head) := by
  rw [of?, Text.upTo?_size_append, Option.map_some]

/-- What is offered after a word. -/
theorem ofHead_eq (names : List String) {head blank word : String}
    (h : Text.Indents head blank word) :
    ofHead names head =
      if ' ' ∈ word.toList then ⟨Text.size head, []⟩
      else ⟨Text.size blank, names.filter (fits word)⟩ := by
  have hsize : Text.size head - Text.size word = Text.size blank := by
    rw [h.size_eq, Nat.add_sub_cancel]
  rw [ofHead, h.trimStart_eq, hsize]

/-- **When a beginning of a name completes to it.**  A beginning that holds no space and does not
start with white space is completed from the start of the line.  The name itself is offered, unless
the beginning ends with a sigma that the lowercase of the beginning makes a final one and the
lowercase of the name does not. -/
theorem mem_candidates_of_beginning_iff (names : List String) (head rest : String)
    (hname : head ++ rest ∈ names) (hspace : ' ' ∉ head.toList)
    (hstart : ∀ c ∈ head.toList.head?, Text.isBlank c = false) :
    ∃ candidates, of? names head (Text.size head) = some ⟨0, candidates⟩ ∧
      (head ++ rest ∈ candidates ↔
        ¬ (Text.EndsInSigma [] head.toList ∧ Text.meetsLetter rest.toList = true)) := by
  refine ⟨names.filter (fits head), ?_, ?_⟩
  · have h := of?_append names head ""
    rwa [String.append_empty, ofHead_eq names (Text.indents_self hstart), if_neg hspace] at h
  · rw [List.mem_filter, fits_iff, Text.toList_lowercase, Text.toList_lowercase,
      String.toList_append, Text.lowerFrom_prefix_iff]
    exact and_iff_right hname

/-- A sigma before a hyphen stays a final one, so it does no harm. -/
theorem mem_candidates_of_hyphenated :
    ∃ candidates, of? ["echo", "ΟΔΟΣ-1"] "ΟΔΟΣ" 8 = some ⟨0, candidates⟩ ∧
      "ΟΔΟΣ" ++ "-1" ∈ candidates := by
  have htrimmed : Text.IsTrimmed "ΟΔΟΣ" := by decide
  obtain ⟨candidates, hoffer, hmem⟩ :=
    mem_candidates_of_beginning_iff ["echo", "ΟΔΟΣ-1"] "ΟΔΟΣ" "-1" (by decide) (by decide)
      htrimmed.start
  exact ⟨candidates, hoffer, hmem.mpr fun h => absurd h.2 (by decide +kernel)⟩

/-- A name that is offered after its first letter, and no more after its second: taken by itself, the
sigma ends the word. -/
theorem candidates_of_sigma_inside :
    "ΑΣ" ++ "Α" = "ΑΣΑ" ∧ ' ' ∉ "ΑΣ".toList ∧ of? ["ΑΣΑ"] "Α" 2 = some ⟨0, ["ΑΣΑ"]⟩ ∧
      of? ["ΑΣΑ"] "ΑΣ" 4 = some ⟨0, []⟩ := by
  decide +kernel

end Completion
end CommandConsole
