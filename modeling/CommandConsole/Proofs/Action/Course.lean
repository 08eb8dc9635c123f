import CommandConsole.Proofs.Action.Avoidance
import CommandConsole.Proofs.Sink.Lawful

/-!
# Courses that an action may take

Carried out in a world, an action gets the answers of that world.  Here the answers are left open:
the clock may show anything, and writing to a file may succeed or fail for any reason, whatever the
files are like.  `Course` relates an action and a sink to every result and every sink that it may
come to, and what it comes to in a world is among them (`course_run`).

On a sink that shows a transcript, an action that never clears it only adds to it, whichever course
it takes (`Course.growsBy`).
-/
namespace CommandConsole

/-! ## Texts that grow -/

/-- A text was added at the end of another one, with at least so many line feeds in it. -/
def Text.GrowsBy (lines : Nat) (before after : String) : Prop :=
  ∃ added : String, after = before ++ added ∧ lines ≤ added.toList.count '\n'

namespace Text.GrowsBy

theorem refl (s : String) : GrowsBy 0 s s := ⟨"", String.append_empty.symm, Nat.zero_le _⟩

theorem line (s text : String) : GrowsBy 1 s (s ++ text ++ "\n") := by
  refine ⟨text ++ "\n", String.append_assoc .., ?_⟩
  rw [String.toList_append, List.count_append]
  exact Nat.le_add_left _ _

theorem trans {s t u : String} {first second : Nat} (hfirst : GrowsBy first s t)
    (hsecond : GrowsBy second t u) : GrowsBy (first + second) s u := by
  obtain ⟨added, rfl, hadded⟩ := hfirst
  obtain ⟨more, rfl, hmore⟩ := hsecond
  refine ⟨added ++ more, String.append_assoc .., ?_⟩
  rw [String.toList_append, List.count_append]
  exact Nat.add_le_add hadded hmore

theorem mono {s t : String} {lines fewer : Nat} (h : GrowsBy lines s t) (hle : fewer ≤ lines) :
    GrowsBy fewer s t := by
  obtain ⟨added, ht, hadded⟩ := h
  exact ⟨added, ht, Nat.le_trans hle hadded⟩

end Text.GrowsBy

namespace Action

variable {α σ : Type} [Sink σ]

/-- What an action may come to on a sink, with any answers to its questions. -/
inductive Course : Action α → σ → α → σ → Prop
  | done (result : α) (sink : σ) : Course (.done result) sink result sink
  | print {text : String} {next : Action α} {sink final : σ} {result : α} :
      Course next (Sink.print sink text) result final → Course (.print text next) sink result final
  | printStyled {text : String} {style : Style} {next : Action α} {sink final : σ} {result : α} :
      Course next (Sink.printStyled sink text style) result final →
      Course (.printStyled text style next) sink result final
  | clear {next : Action α} {sink final : σ} {result : α} :
      Course next (Sink.clear sink) result final → Course (.clear next) sink result final
  | content {next : String → Action α} {sink final : σ} {result : α} :
      Course (next (Sink.content sink)) sink result final → Course (.content next) sink result final
  /-- Writing to the file may come to anything. -/
  | write {path text : String} {next : Except FileError Unit → Action α} {sink final : σ}
      {result : α} (answer : Except FileError Unit) : Course (next answer) sink result final →
      Course (.write path text next) sink result final
  /-- The clock may show anything. -/
  | now {next : DateTime → Action α} {sink final : σ} {result : α} (moment : DateTime) :
      Course (next moment) sink result final → Course (.now next) sink result final
  | log {event : Event} {next : Action α} {sink final : σ} {result : α} :
      Course next sink result final → Course (.log event next) sink result final

/-- What happens in a world is what may happen. -/
theorem course_run (a : Action α) (sink : σ) (world : World) :
    a.Course sink (a.run sink world).1 (a.run sink world).2.1 := by
  induction a generalizing sink world with
  | done result => exact .done result sink
  | print _ _ ih => exact .print (ih _ _)
  | printStyled _ _ _ ih => exact .printStyled (ih _ _)
  | clear _ ih => exact .clear (ih _ _)
  | content _ ih => exact .content (ih _ _ _)
  | write path text _ ih => exact .write (world.write path text).1 (ih _ _ _)
  | now _ ih => exact .now world.now.1 (ih _ _ _)
  | log _ _ ih => exact .log (ih _ _)

/-- What an action that never clears the display has found there is there still. -/
theorem Course.growsBy [LawfulSink σ] {a : Action α} {sink final : σ} {result : α}
    (hcourse : a.Course sink result final) (h : a.Avoids .clear) :
    Text.GrowsBy 0 (Sink.content sink) (Sink.content final) := by
  -- on the course, since it is the one that knows which answers were given
  induction hcourse with
  | done result sink => exact .refl _
  | @print text _ _ _ _ _ ih =>
    cases h with
    | print _ hnext =>
      have hgrows := ih hnext
      rw [LawfulSink.content_print] at hgrows
      exact ((Text.GrowsBy.line _ text).trans hgrows).mono (Nat.zero_le _)
  | @printStyled text _ _ _ _ _ _ ih =>
    cases h with
    | printStyled _ hnext =>
      have hgrows := ih hnext
      rw [LawfulSink.content_printStyled] at hgrows
      exact ((Text.GrowsBy.line _ text).trans hgrows).mono (Nat.zero_le _)
  | clear _ ih =>
    cases h with
    | clear hclear => exact absurd rfl hclear
  | content _ ih =>
    cases h with
    | content _ hnext => exact ih (hnext _)
  | write answer _ ih =>
    cases h with
    | write _ hnext => exact ih (hnext answer)
  | now moment _ ih =>
    cases h with
    | now _ hnext => exact ih (hnext moment)
  | log _ ih =>
    cases h with
    | log _ hnext => exact ih hnext

/-- If such an action begins with a line, that line is added at least. -/
theorem Course.growsBy_of_printStyled [LawfulSink σ] {text : String} {style : Style}
    {next : Action α} {sink final : σ} {result : α}
    (hcourse : (Action.printStyled text style next).Course sink result final)
    (h : (Action.printStyled text style next).Avoids .clear) :
    Text.GrowsBy 1 (Sink.content sink) (Sink.content final) := by
  cases h with
  | printStyled _ hnext =>
    cases hcourse with
    | printStyled hrest =>
      have hgrows := hrest.growsBy hnext
      rw [LawfulSink.content_printStyled] at hgrows
      exact (Text.GrowsBy.line _ text).trans hgrows

end Action
end CommandConsole
