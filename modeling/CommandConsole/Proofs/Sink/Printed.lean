import CommandConsole.Proofs.Sink.Calls
import CommandConsole.Proofs.Sink.Lawful
import CommandConsole.Proofs.Text.Lines
import Mathlib.Data.List.DropRight

/-!
# What was printed since the last clear

Of the calls that a sink gets, those after the last clear are the ones that matter to what it shows.
`SinkCall.standing` reads the texts that they print off the list of calls, without a sink.  A lawful
sink that showed nothing at first shows exactly these texts, each followed by a line feed
(`content_receiveAll`): a print adds its text to both, a clear leaves nothing of either.

A transcript is asked for its lines, not for the texts that were printed.  The two are the same
exactly if each text is a line by itself (`lines_eq_standing_iff`).
-/
namespace CommandConsole

namespace SinkCall

/-- The text that a call prints, if it prints one. -/
def text? : SinkCall → Option String
  | print text | printStyled text _ => some text
  | clear => none

theorem text?_eq_none_iff {call : SinkCall} : call.text? = none ↔ call = .clear := by
  cases call <;> simp [text?]

/-- The calls after the last clear, or all calls if there is no clear among them. -/
def sinceClear (calls : List SinkCall) : List SinkCall := calls.rtakeWhile (· ≠ .clear)

/-- The texts printed since the last clear. -/
def standing (calls : List SinkCall) : List String := (sinceClear calls).filterMap text?

theorem sinceClear_concat_clear (calls : List SinkCall) :
    sinceClear (calls ++ [.clear]) = [] := by
  rw [sinceClear, List.rtakeWhile_concat, if_neg (by simp)]

theorem sinceClear_concat_of_ne {call : SinkCall} (h : call ≠ .clear) (calls : List SinkCall) :
    sinceClear (calls ++ [call]) = sinceClear calls ++ [call] := by
  rw [sinceClear, List.rtakeWhile_concat, if_pos (decide_eq_true h), sinceClear]

theorem clear_notMem_sinceClear (calls : List SinkCall) : .clear ∉ sinceClear calls := by
  intro hmem
  have hne := List.mem_rtakeWhile_imp hmem
  simp at hne

theorem sinceClear_subset (calls : List SinkCall) : sinceClear calls ⊆ calls :=
  (List.rtakeWhile_suffix _ calls).subset

/-- What comes before the calls since the last clear ends in that clear. -/
theorem eq_append_sinceClear (calls : List SinkCall) :
    calls = sinceClear calls ∨ ∃ before, calls = before ++ .clear :: sinceClear calls := by
  induction calls using List.reverseRecOn with
  | nil => exact .inl rfl
  | append_singleton calls call ih =>
    by_cases hcall : call = .clear
    · rw [hcall, sinceClear_concat_clear]
      exact .inr ⟨calls, rfl⟩
    · rw [sinceClear_concat_of_ne hcall]
      rcases ih with hall | ⟨before, hbefore⟩
      · exact .inl (congrArg (· ++ [call]) hall)
      · refine .inr ⟨before, (congrArg (· ++ [call]) hbefore).trans ?_⟩
        rw [List.append_assoc, List.cons_append]

theorem standing_concat_clear (calls : List SinkCall) : standing (calls ++ [.clear]) = [] := by
  rw [standing, sinceClear_concat_clear, List.filterMap_nil]

theorem standing_concat_of_text? {call : SinkCall} {text : String} (h : call.text? = some text)
    (calls : List SinkCall) : standing (calls ++ [call]) = standing calls ++ [text] := by
  have hclear : call ≠ .clear := by
    rintro rfl
    cases h
  rw [standing, sinceClear_concat_of_ne hclear, List.filterMap_append, List.filterMap_cons, h]
  rfl

end SinkCall

namespace Sink

variable {σ : Type} [Sink σ] [LawfulSink σ]

theorem content_receive_of_text? {call : SinkCall} {text : String} (h : call.text? = some text)
    (sink : σ) : content (receive sink call) = content sink ++ text ++ "\n" := by
  cases call with
  | print own =>
    obtain rfl := Option.some.inj h
    exact LawfulSink.content_print sink own
  | printStyled own style =>
    obtain rfl := Option.some.inj h
    exact LawfulSink.content_printStyled sink own style
  | clear => cases h

/-- **A sink shows what was printed since it was last cleared.** -/
theorem content_receiveAll {sink : σ} (hsink : content sink = "") (calls : List SinkCall) :
    content (receiveAll sink calls) = Text.ofLines (SinkCall.standing calls) := by
  induction calls using List.reverseRecOn with
  | nil => exact hsink
  | append_singleton calls call ih =>
    rw [receiveAll_append, receiveAll_cons, receiveAll_nil]
    cases htext : call.text? with
    | none =>
      obtain rfl := SinkCall.text?_eq_none_iff.mp htext
      rw [SinkCall.standing_concat_clear]
      exact LawfulSink.content_clear _
    | some text =>
      rw [content_receive_of_text? htext, ih, SinkCall.standing_concat_of_text? htext,
        Text.ofLines_concat]

end Sink

namespace Transcript

open SinkCall (standing)

theorem text_receiveAll (calls : List SinkCall) :
    (Sink.receiveAll ({} : Transcript) calls).text = Text.ofLines (standing calls) :=
  Sink.content_receiveAll (σ := Transcript) rfl calls

theorem isEmpty_iff {t : Transcript} : t.isEmpty = true ↔ t.text = "" := beq_iff_eq

/-- **The lines of a transcript are the texts printed to it.**  After any calls a transcript is
empty exactly if nothing was printed since the last clear, not even an empty text.  Its lines are the
texts printed since then, in order and with the empty ones among them, exactly if none of these has a
line feed in it or a carriage return at its end.  And as long as no text has a line feed in it,
what is shown tells which texts these are. -/
theorem lines_eq_standing_iff (calls : List SinkCall) :
    let t := Sink.receiveAll ({} : Transcript) calls
    (t.isEmpty = true ↔ standing calls = []) ∧
    (t.lines = standing calls ↔ ∀ text ∈ standing calls, Text.IsLine text) ∧
    ∀ others : List SinkCall, (∀ text ∈ standing calls, '\n' ∉ text.toList) →
      (∀ text ∈ standing others, '\n' ∉ text.toList) →
      Sink.content (Sink.receiveAll ({} : Transcript) others) = Sink.content t →
      standing others = standing calls := by
  intro t
  refine ⟨?_, ?_, ?_⟩
  · rw [isEmpty_iff, text_receiveAll, Text.ofLines_eq_empty_iff]
  · rw [Transcript.lines, text_receiveAll, Text.lines_ofLines_eq_iff]
  · intro others hcalls hothers hcontent
    have htexts : Text.ofLines (standing others) = Text.ofLines (standing calls) := by
      rw [← text_receiveAll, ← text_receiveAll]
      exact hcontent
    exact Text.ofLines_injective hothers hcalls htexts

/-- A text of two lines that is cleared, and then four lines, of which one is styled and two are
empty. -/
def scribbled : List SinkCall :=
  [.print "a\nb", .clear, .print "", .printStyled " c" .error, .print "", .print "\rd"]

/-- Empty texts are lines, and so is a text with a carriage return that is not at its end. -/
theorem lines_scribbled :
    let t := Sink.receiveAll ({} : Transcript) scribbled
    t.isEmpty = false ∧ t.lines = ["", " c", "", "\rd"] ∧
      standing (scribbled.drop 2) = standing scribbled := by
  intro t
  obtain ⟨hempty, hlines, hcontent⟩ := lines_eq_standing_iff scribbled
  have hstanding : standing scribbled = ["", " c", "", "\rd"] := by decide
  refine ⟨?_, ?_, ?_⟩
  · rw [← Bool.not_eq_true, hempty, hstanding]
    decide
  · rw [← hstanding, hlines]
    decide
  · exact hcontent (scribbled.drop 2) (by decide) (by decide) rfl

end Transcript
end CommandConsole
