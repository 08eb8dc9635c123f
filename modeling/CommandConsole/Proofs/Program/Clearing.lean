import CommandConsole.Program
import CommandConsole.Transcript
import CommandConsole.Proofs.Action.Course
import CommandConsole.Proofs.Builtin.Dump
import CommandConsole.Proofs.Program.Batch

/-!
# What takes lines off the display

Of the commands of the program only `clear` ever asks for the display to be emptied, so a line that
calls another command, or none, adds to what is shown: at least itself, an empty line or a report
(`Registry.growsBy_of_course`).  A line that calls `clear` is echoed first, and the echo goes with
the rest.

This holds whatever a dump comes to, so lines are handled here with any answers from the clock and
the files (`Registry.MayHandle`), among them those that the world of a console gives.
-/
namespace CommandConsole

/-- The line calls `clear` by one of its names, in whatever case. -/
def Line.CallsClear (raw : String) : Prop :=
  Text.lowercase (Line.parse raw).command ∈ ["c", "cls", "clr", "clear"]

instance (raw : String) : Decidable (Line.CallsClear raw) :=
  inferInstanceAs (Decidable (Text.lowercase (Line.parse raw).command ∈ _))

/-- A line that calls `clear` is not blank. -/
theorem Line.trim_ne_empty_of_callsClear {raw : String} (h : CallsClear raw) :
    Text.trim raw ≠ "" := by
  intro hblank
  rw [CallsClear, command_parse_eq_empty_iff.mpr hblank] at h
  exact absurd h (by decide)

theorem Builtin.avoids_clear_dump (directory : String) (entries : List Entry)
    (parameters : List String) : ((dump directory).action entries parameters).Avoids .clear := by
  rw [action_dump]
  refine (avoids_dumpFile parameters (by decide)).bind fun file => .content (by decide) fun shown =>
    .write (by decide) fun answer => ?_
  cases answer with
  | ok written => exact .log (by decide) (.print (by decide) (.done _))
  | error cause => exact .log (by decide) (.printStyled (by decide) (.done _))

namespace Registry

variable {σ : Type} [Sink σ] {r : Registry} {directory raw : String}

theorem resolve_of_callsClear (h : Line.CallsClear raw) :
    (Program.registry directory).1.resolve (Line.parse raw).command = some Builtin.clear := by
  rw [resolve, Program.commands_registry]
  simp only [Line.CallsClear, List.mem_cons, List.not_mem_nil, or_false] at h
  rcases h with h | h | h | h
  all_goals
    simp only [Card.answersTo, h]
    rfl

/-- With the commands of the program, only a line that calls `clear` asks for the display to be
emptied. -/
theorem avoids_clear_dispatch (h : ¬ Line.CallsClear raw) :
    ((Program.registry directory).1.dispatch raw).Avoids .clear := by
  refine avoids_dispatch (by decide) (by decide) fun command hresolve => ?_
  have hmem : command ∈ (Program.registry directory).1.commands :=
    List.mem_of_find?_eq_some hresolve
  simp only [Program.commands_registry, Builtin.all, List.cons_append, List.nil_append,
    List.mem_cons, List.not_mem_nil, or_false] at hmem
  rcases hmem with rfl | rfl | rfl | rfl | rfl
  · exact Builtin.avoids_echo _ _ (by decide)
  · exact Builtin.avoids_help _ _ (by decide)
  · -- the line would have called `clear`
    obtain ⟨i, hfirst⟩ := resolve_eq_some_iff.mp hresolve
    obtain ⟨own, hown, hlower⟩ := hfirst.claims
    have hnames : ∀ own ∈ Builtin.clear.names,
        Text.lowercase own ∈ ["c", "cls", "clr", "clear"] := by decide
    have hcalls := hnames own hown
    rw [hlower] at hcalls
    exact absurd hcalls h
  · exact Builtin.avoids_clear_dump directory _ _
  · exact .print (by decide) (.done _)

variable [LawfulSink σ]

/-- A line that does not ask for the display to be emptied adds at least one line to it. -/
theorem growsBy_of_course {sink final : σ} {dispatch : Dispatch}
    (h : (r.dispatch raw).Avoids .clear)
    (hcourse : (r.dispatch raw).Course sink dispatch final) :
    Text.GrowsBy 1 (Sink.content sink) (Sink.content final) := by
  by_cases hblank : Text.trim raw = ""
  · rw [dispatch_of_blank hblank] at hcourse
    cases hcourse with
    | print hrest =>
      cases hrest with
      | done =>
        rw [LawfulSink.content_print]
        exact .line _ ""
  cases hresolve : r.resolve (Line.parse raw).command with
  | none =>
    rw [dispatch_of_resolve_eq_none hblank hresolve] at h hcourse
    cases h with
    | log _ hnext =>
      cases hcourse with
      | log hrest => exact hrest.growsBy_of_printStyled hnext
  | some command =>
    rw [dispatch_of_resolve_eq_some hblank hresolve] at h hcourse
    exact hcourse.growsBy_of_printStyled h

/-- A line that calls `clear` leaves nothing on the display, itself included. -/
theorem content_of_callsClear {sink final : σ} {dispatch : Dispatch} (h : Line.CallsClear raw)
    (hcourse : ((Program.registry directory).1.dispatch raw).Course sink dispatch final) :
    Sink.content final = "" := by
  rw [dispatch_of_resolve_eq_some (Line.trim_ne_empty_of_callsClear h) (resolve_of_callsClear h)]
    at hcourse
  cases hcourse with
  | printStyled hcommand =>
    cases hcommand with
    | clear hreport =>
      cases hreport with
      | done => exact LawfulSink.content_clear _

/-! ## Lines one after the other -/

/-- What handling lines one after the other may make of a sink, whatever the clock shows and
whatever comes of writing to files. -/
inductive MayHandle (r : Registry) : σ → List String → σ → Prop
  | nil (sink : σ) : MayHandle r sink [] sink
  | cons {sink next final : σ} {line : String} {lines : List String} (dispatch : Dispatch) :
      (r.dispatch line).Course sink dispatch next → MayHandle r next lines final →
      MayHandle r sink (line :: lines) final

variable {sink final : σ} {lines : List String}

omit [LawfulSink σ] in
/-- What is made of some lines is made of the first of them, and then of the others. -/
theorem MayHandle.of_append {first second : List String}
    (h : r.MayHandle sink (first ++ second) final) :
    ∃ middle, r.MayHandle sink first middle ∧ r.MayHandle middle second final := by
  induction first generalizing sink with
  | nil => exact ⟨sink, .nil sink, h⟩
  | cons line lines ih =>
    cases h with
    | cons dispatch hline hlines =>
      obtain ⟨middle, hfirst, hsecond⟩ := ih hlines
      exact ⟨middle, .cons dispatch hline hfirst, hsecond⟩

/-- Lines that ask for nothing to be taken off the display add at least one line each. -/
theorem MayHandle.growsBy (h : r.MayHandle sink lines final)
    (hlines : ∀ line ∈ lines, (r.dispatch line).Avoids .clear) :
    Text.GrowsBy lines.length (Sink.content sink) (Sink.content final) := by
  induction h with
  | nil sink => exact .refl _
  | @cons sink next final line lines dispatch hline hrest ih =>
    obtain ⟨hfirst, hothers⟩ := List.forall_mem_cons.mp hlines
    have hgrows := (growsBy_of_course hfirst hline).trans (ih hothers)
    rwa [Nat.add_comm] at hgrows

end Registry

namespace Console

variable {σ η : Type} [Sink σ]

/-- What handling a line comes to is what it may come to. -/
theorem course_handleInput (c : Console σ η) (raw : String) :
    (c.registry.dispatch raw).Course c.sink (c.handleInput raw).1 (c.handleInput raw).2.sink := by
  rw [dispatch_handleInput, sink_handleInput]
  exact Action.course_run _ c.sink c.world

theorem mayHandle_handleAll (c : Console σ η) (lines : List String) :
    c.registry.MayHandle c.sink lines (c.handleAll lines).2.sink := by
  induction lines generalizing c with
  | nil => exact .nil c.sink
  | cons line lines ih =>
    have hlines := ih (c.handleInput line).2
    rw [registry_handleInput] at hlines
    exact .cons _ (c.course_handleInput line) hlines

end Console

namespace Program

variable {σ η : Type} [Sink σ] [LawfulSink σ]

/-- **Only `clear` takes lines off the display.**  Handled with the commands of the program, lines
of which none calls `clear` leave what was shown before and add at least one line each, whatever the
clock shows and whatever becomes of the dumps among them.  Right after a line that calls `clear`,
with any parameters, nothing is shown. -/
theorem shown_until_cleared {directory : String} {c : Console σ η}
    (hc : c.registry = (Program.registry directory).1) (lines : List String) :
    c.registry.MayHandle c.sink lines (c.handleAll lines).2.sink ∧
      ∀ final, c.registry.MayHandle c.sink lines final →
        ((∀ line ∈ lines, ¬ Line.CallsClear line) →
          Text.GrowsBy lines.length c.content (Sink.content final)) ∧
        ∀ before line, lines = before ++ [line] → Line.CallsClear line →
          Sink.content final = "" := by
  refine ⟨c.mayHandle_handleAll lines, fun final hfinal => ⟨fun hlines => ?_, ?_⟩⟩
  · refine hfinal.growsBy fun line hline => ?_
    rw [hc]
    exact Registry.avoids_clear_dispatch (hlines line hline)
  · rintro before line rfl hline
    obtain ⟨middle, -, hlast⟩ := hfinal.of_append
    rw [hc] at hlast
    cases hlast with
    | cons dispatch hcourse hnone =>
      cases hnone with
      | nil => exact Registry.content_of_callsClear hline hcourse

/-- A console with the commands of the program, on which something is shown. -/
def chalkboard : Console Transcript Unit where
  registry := (Program.registry ".").1
  sink := ⟨"homework\n"⟩
  hooks := ()
  world := { files := { nodes := [] }, clock := fun _ => .epoch }

/-- A blank line, an unknown command, a dump that works and one that does not; then a `CLS`. -/
theorem handleAll_chalkboard :
    Text.GrowsBy 4 "homework\n"
        (chalkboard.handleAll [" ", "wipe", "dump a", "DUMP no/b"]).2.content ∧
      (chalkboard.handleAll ["echo a", "CLS now"]).2.content = "" := by
  have hregistry : chalkboard.registry = (Program.registry ".").1 := rfl
  obtain ⟨hkept, hmayKeep⟩ := shown_until_cleared hregistry [" ", "wipe", "dump a", "DUMP no/b"]
  obtain ⟨hcleared, hmayClear⟩ := shown_until_cleared hregistry ["echo a", "CLS now"]
  have hlines : ∀ line ∈ [" ", "wipe", "dump a", "DUMP no/b"], ¬ Line.CallsClear line := by decide
  obtain ⟨hgrows, -⟩ := hmayKeep _ hkept
  obtain ⟨-, hempty⟩ := hmayClear _ hcleared
  exact ⟨hgrows hlines, hempty ["echo a"] "CLS now" rfl (by decide)⟩

end Program
end CommandConsole
