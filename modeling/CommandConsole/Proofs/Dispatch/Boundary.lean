import CommandConsole.Console
import CommandConsole.Proofs.Registry.Resolution
import CommandConsole.Proofs.Sink.Calls

/-!
# What handling a line comes to

`Handled` says what may become of a raw line and what the sink gets to see of it: a blank line prints
an empty one; a line that names no command is reported; any other line is echoed, then come the
calls that the command itself makes, and then, if the command did not complete, one report.  The
rules exclude each other, and for every line one of them applies, to the one dispatch and the one
list of calls that handling the line really comes to (`handled_iff_handleInput`).

Where a command breaks off in the middle, its action ends there, so the calls it has made by then
are all the calls it makes.
-/
namespace CommandConsole

/-- The words in which it is reported that a command did not complete. -/
inductive Outcome.ReportedAs : Outcome → String → Prop
  | failed (error : ConsoleError) : ReportedAs (.failed error) error.message
  /-- A command that broke off with a message is reported by the message. -/
  | crashed (message : String) : ReportedAs (.crashed (some message)) message
  | crashedSilently : ReportedAs (.crashed none) "command panicked"

theorem Outcome.reportedAs_iff {outcome : Outcome} {reason : String} :
    outcome.ReportedAs reason ↔ outcome.reason? = some reason := by
  constructor
  · rintro (_ | _ | _) <;> rfl
  · intro h
    cases outcome with
    | completed => exact absurd h (by simp [reason?])
    | failed error => exact Option.some.inj h ▸ .failed error
    | crashed message =>
      cases message with
      | none => exact Option.some.inj h ▸ .crashedSilently
      | some message => exact Option.some.inj h ▸ .crashed message

namespace Registry

theorem report_completed (token : String) : report token .completed = .done .executed := rfl

/-- A command that did not complete gets one report, to the log and to the sink. -/
theorem report_of_reportedAs {outcome : Outcome} {reason : String} (token : String)
    (h : outcome.ReportedAs reason) :
    report token outcome =
      .log (.commandFailed token reason)
        (.printStyled (ConsoleError.executionFailed token reason).message .error
          (.done .failed)) := by
  simp only [report, Outcome.reportedAs_iff.mp h]
  rfl

end Registry

namespace Console

variable {σ η : Type} [Sink σ]

/-- The calls that the sink gets while a raw line is handled. -/
def inputCalls (c : Console σ η) (raw : String) : List SinkCall :=
  (c.registry.dispatch raw).calls c.sink c.world

/-- What a command does on a raw line. -/
def actionOf (c : Console σ η) (command : Command) (raw : String) : Action Outcome :=
  command.action c.registry.entries (Line.parse raw).parameters

/-- How a command ends that is run right after its line was echoed. -/
def outcomeOf (c : Console σ η) (command : Command) (raw : String) : Outcome :=
  ((c.actionOf command raw).run (Sink.printStyled c.sink raw .echo) c.world).1

/-- The calls that a command makes that is run right after its line was echoed, up to the point
where it ends. -/
def ownCalls (c : Console σ η) (command : Command) (raw : String) : List SinkCall :=
  (c.actionOf command raw).calls (Sink.printStyled c.sink raw .echo) c.world

/-- What may become of a raw line, and the calls that the sink gets on the way. -/
inductive Handled (c : Console σ η) (raw : String) : Dispatch → List SinkCall → Prop
  | blank : Text.trim raw = "" → Handled c raw .blank [.print ""]
  | notFound : Text.trim raw ≠ "" →
      (∀ command ∈ c.registry.commands, ¬ command.Claims (Line.parse raw).command) →
      Handled c raw .notFound
        [.printStyled ("Command \"" ++ (Line.parse raw).command ++ "\" does not exist.") .error]
  | executed (i : Nat) (command : Command) : Text.trim raw ≠ "" →
      c.registry.FirstClaimant (Line.parse raw).command i command →
      c.outcomeOf command raw = .completed →
      Handled c raw .executed (.printStyled raw .echo :: c.ownCalls command raw)
  | failed (i : Nat) (command : Command) (reason : String) : Text.trim raw ≠ "" →
      c.registry.FirstClaimant (Line.parse raw).command i command →
      (c.outcomeOf command raw).ReportedAs reason →
      Handled c raw .failed
        (.printStyled raw .echo :: c.ownCalls command raw ++
          [.printStyled ("Command \"" ++ (Line.parse raw).command ++ "\" failed: " ++ reason)
            .error])

variable {c : Console σ η} {raw : String}

omit [Sink σ] in
/-- The line runs the command that its first token belongs to. -/
theorem dispatch_of_firstClaimant {i : Nat} {command : Command} (h : Text.trim raw ≠ "")
    (hfirst : c.registry.FirstClaimant (Line.parse raw).command i command) :
    c.registry.dispatch raw =
      .printStyled raw .echo
        ((c.actionOf command raw).bind (Registry.report (Line.parse raw).command)) :=
  Registry.dispatch_of_resolve_eq_some h (Registry.resolve_eq_some_iff.mpr ⟨i, hfirst⟩)

/-- What the rules allow is what happens. -/
theorem Handled.sound {dispatch : Dispatch} {calls : List SinkCall}
    (h : Handled c raw dispatch calls) :
    (c.handleInput raw).1 = dispatch ∧ c.inputCalls raw = calls := by
  rw [dispatch_handleInput, inputCalls]
  cases h with
  | blank hblank =>
    rw [Registry.dispatch_of_blank hblank]
    exact ⟨rfl, rfl⟩
  | notFound hblank hnone =>
    rw [Registry.dispatch_of_resolve_eq_none hblank (Registry.resolve_eq_none_iff.mpr hnone)]
    exact ⟨rfl, rfl⟩
  | executed i command hblank hfirst houtcome =>
    unfold outcomeOf at houtcome
    rw [dispatch_of_firstClaimant hblank hfirst, Action.run, Action.calls, Action.run_bind,
      Action.calls_bind, houtcome, Registry.report_completed]
    exact ⟨rfl, congrArg (_ :: ·) (List.append_nil _)⟩
  | failed i command reason hblank hfirst houtcome =>
    have hreport := Registry.report_of_reportedAs (Line.parse raw).command houtcome
    unfold outcomeOf at hreport
    rw [dispatch_of_firstClaimant hblank hfirst, Action.run, Action.calls, Action.run_bind,
      Action.calls_bind, hreport]
    exact ⟨rfl, rfl⟩

/-- For every line one of the rules applies. -/
theorem exists_handled (c : Console σ η) (raw : String) :
    ∃ dispatch calls, Handled c raw dispatch calls := by
  by_cases hblank : Text.trim raw = ""
  · exact ⟨_, _, .blank hblank⟩
  cases hresolve : c.registry.resolve (Line.parse raw).command with
  | none => exact ⟨_, _, .notFound hblank (Registry.resolve_eq_none_iff.mp hresolve)⟩
  | some command =>
    obtain ⟨i, hfirst⟩ := Registry.resolve_eq_some_iff.mp hresolve
    cases houtcome : (c.outcomeOf command raw).reason? with
    | none =>
      have hcompleted : c.outcomeOf command raw = .completed := by
        cases h : c.outcomeOf command raw with
        | completed => rfl
        | failed error | crashed message => simp [h, Outcome.reason?] at houtcome
      exact ⟨_, _, .executed i command hblank hfirst hcompleted⟩
    | some reason =>
      exact ⟨_, _, .failed i command reason hblank hfirst (Outcome.reportedAs_iff.mpr houtcome)⟩

/-- A line that is not blank names no command exactly if its first token belongs to nobody. -/
theorem handleInput_eq_notFound_iff (h : Text.trim raw ≠ "") :
    (c.handleInput raw).1 = .notFound ↔
      c.registry.resolve (Line.parse raw).command = none := by
  constructor
  · intro hdispatch
    obtain ⟨dispatch, calls, handled⟩ := exists_handled c raw
    obtain rfl : dispatch = .notFound := handled.sound.1.symm.trans hdispatch
    cases handled with
    | notFound hblank hnone => exact Registry.resolve_eq_none_iff.mpr hnone
  · intro hnone
    exact (Handled.notFound h (Registry.resolve_eq_none_iff.mp hnone)).sound.1

/-- **The failure boundary.**  Handling a line comes to what the rules say, to nothing else, and to
one thing only.  The sink ends where the calls named there take it; the registry, the open flag and
the hooks stay as they were, so the next line is handled by the same rules.  It makes no difference
whether a command, whatever it did before, crashes with the words of an error or fails with it. -/
theorem handled_iff_handleInput (c : Console σ η) (raw : String) :
    (∀ dispatch calls, Handled c raw dispatch calls ↔
      (c.handleInput raw).1 = dispatch ∧ c.inputCalls raw = calls) ∧
    (c.handleInput raw).2.sink = Sink.receiveAll c.sink (c.inputCalls raw) ∧
    (c.handleInput raw).2.registry = c.registry ∧
    (c.handleInput raw).2.isOpen = c.isOpen ∧
    (c.handleInput raw).2.hooks = c.hooks ∧
    ∀ work : Action ConsoleError,
      (work.bind fun error => .done (.crashed (some error.message))).bind
          (Registry.report (Line.parse raw).command) =
        (work.bind fun error => .done (.failed error)).bind
          (Registry.report (Line.parse raw).command) := by
  refine ⟨?_, ?_, registry_handleInput c raw, isOpen_handleInput c raw, hooks_handleInput c raw, ?_⟩
  · intro dispatch calls
    refine ⟨Handled.sound, ?_⟩
    rintro ⟨rfl, rfl⟩
    obtain ⟨dispatch, calls, h⟩ := exists_handled c raw
    obtain ⟨rfl, rfl⟩ := h.sound
    exact h
  · rw [sink_handleInput, inputCalls, Action.receiveAll_calls]
  · intro work
    rw [Action.bind_assoc, Action.bind_assoc]
    rfl

end Console
end CommandConsole
