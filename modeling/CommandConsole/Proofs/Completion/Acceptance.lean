import CommandConsole.Proofs.Completion.Offering

/-!
# Accepting what is offered

A candidate that is accepted takes the place of the word in front of the cursor (`accept?`), and the
line goes on after it as before.  What comes after the cursor gives the same parameters with any word
in front of it, so the parameters stay as they are (`accept?_keeps_parameters`).
-/
namespace CommandConsole

namespace Completion

/-- The line after a candidate was put in place of the bytes from the start of a completion up to
the cursor; none if what results is no text. -/
def accept? (line : String) (start cursor : Nat) (candidate : String) : Option String :=
  let bytes := Text.encode line
  Text.decode? (bytes.take start ++ Text.encode candidate ++ bytes.drop cursor)

theorem accept?_append (before word after candidate : String) :
    accept? (before ++ word ++ after) (Text.size before) (Text.size (before ++ word)) candidate =
      some (before ++ candidate ++ after) := by
  have htake : (Text.encode (before ++ word ++ after)).take (Text.size before) =
      Text.encode before := by
    rw [String.append_assoc, Text.encode_append]
    exact List.take_left' (Text.length_encode before)
  have hdrop : (Text.encode (before ++ word ++ after)).drop (Text.size (before ++ word)) =
      Text.encode after := by
    rw [Text.encode_append]
    exact List.drop_left' (Text.length_encode (before ++ word))
  rw [accept?, htake, hdrop, ← Text.encode_append, ← Text.encode_append, Text.decode?_encode]

/-- A candidate is offered only for a word that has not ended. -/
theorem notMem_of_mem_candidates {names : List String} {head blank word candidate : String}
    (h : Text.Indents head blank word) (hoffered : candidate ∈ (ofHead names head).candidates) :
    ' ' ∉ word.toList := by
  intro hspace
  rw [ofHead_eq names h, if_pos hspace] at hoffered
  exact List.not_mem_nil hoffered

/-- **Accepting a candidate does not disturb the parameters.**  In a line that is not blank in front
of the cursor, something is offered.  Whatever candidate is put in its place there, one that could be
typed as a command, the line still has the parameters that it had, and its command begins with the
candidate. -/
theorem accept?_keeps_parameters (names : List String) {head : String}
    (hhead : ¬ Text.AllBlank head) (tail : String) :
    ∃ completion, of? names (head ++ tail) (Text.size head) = some completion ∧
      ∀ candidate ∈ completion.candidates, candidate ≠ "" → ' ' ∉ candidate.toList →
        Text.IsTrimmed candidate →
          ∃ accepted,
            accept? (head ++ tail) completion.start (Text.size head) candidate = some accepted ∧
              (Line.parse accepted).parameters = (Line.parse (head ++ tail)).parameters ∧
              candidate.toList <+: (Line.parse accepted).command.toList := by
  refine ⟨ofHead names head, of?_append names head tail, ?_⟩
  intro candidate hoffered hne hspace htrimmed
  obtain ⟨blank, word, hindents⟩ := Text.exists_indents head
  have hword := notMem_of_mem_candidates hindents hoffered
  have hstart : (ofHead names head).start = Text.size blank := by
    rw [ofHead_eq names hindents, if_neg hword]
  have hparse (text : String) : Line.parse (blank ++ text ++ tail) = Line.parse (text ++ tail) := by
    rw [String.append_assoc, Line.parse_append_left hindents.allBlank]
  obtain ⟨rest, parameters, hrest⟩ := Line.exists_parse_append tail
  obtain ⟨hbefore, -⟩ :=
    hrest word (Line.canLead_of_start (hindents.ne_empty hhead) hword hindents.start)
  obtain ⟨hafter, hcommand⟩ :=
    hrest candidate (Line.canLead_of_start hne hspace htrimmed.start)
  refine ⟨blank ++ candidate ++ tail, ?_, ?_, ?_⟩
  · rw [hstart, hindents.eq]
    exact accept?_append blank word tail candidate
  · rw [hindents.eq, hparse, hparse, hbefore, hafter]
  · rw [hparse, hcommand htrimmed, String.toList_append]
    exact List.prefix_append _ _

/-- In the middle of a word that a tab ends, before an empty parameter and another one. -/
theorem accept?_insideWord :
    ¬ Text.AllBlank "\u3000E" ∧
      ∃ accepted, accept? "\u3000Ex\t  a " 3 4 "echo" = some accepted ∧
        (Line.parse accepted).parameters = ["", "a"] ∧
        "echo".toList <+: (Line.parse accepted).command.toList := by
  have hhead : ¬ Text.AllBlank "\u3000E" := by decide
  obtain ⟨completion, hoffer, hkeeps⟩ :=
    accept?_keeps_parameters ["dump", "echo"] hhead "x\t  a "
  obtain rfl : (⟨3, ["echo"]⟩ : Completion) = completion := Option.some.inj hoffer
  obtain ⟨accepted, haccepted, hparameters, hcommand⟩ :=
    hkeeps "echo" (by decide) (by decide) (by decide) (by decide)
  exact ⟨hhead, accepted, haccepted, hparameters.trans (by rfl), hcommand⟩

end Completion
end CommandConsole
