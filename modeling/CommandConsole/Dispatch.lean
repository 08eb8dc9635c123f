import CommandConsole.Line
import CommandConsole.Registry

/-!
# Dispatch

A line is blank, names no command, or runs the command it names. Whatever a command does, its end
is caught here: an error or a crash is reported in one line and goes no further.
-/
namespace CommandConsole

/-- What became of a line. -/
inductive Dispatch
  /-- There was nothing on it; an empty line was printed. -/
  | blank
  /-- No command answers to its first token. -/
  | notFound
  /-- The command completed. -/
  | executed
  /-- The command failed or crashed. -/
  | failed
  deriving DecidableEq, Repr

/-- The line was not carried out. -/
def Dispatch.isFailure : Dispatch → Bool
  | notFound | failed => true
  | blank | executed => false

namespace Registry

open CommandConsole.Action

/-- Reports how the command that was called by `token` ended. -/
def report (token : String) (outcome : Outcome) : Action Dispatch :=
  match outcome.reason? with
  | none => pure .executed
  | some reason => do
    tell (.commandFailed token reason)
    sayStyled (ConsoleError.executionFailed token reason).message .error
    return .failed

/-- What is done with a raw line. -/
def dispatch (r : Registry) (raw : String) : Action Dispatch :=
  let line := Line.parse raw
  if line.isEmpty then do
    say ""
    return .blank
  else
    match r.resolve line.command with
    | none => do
      tell (.unknownCommand line.command)
      sayStyled (ConsoleError.commandNotFound line.command).message .error
      return .notFound
    | some command => do
      sayStyled raw .echo
      let outcome ← command.action r.entries line.parameters
      report line.command outcome

variable {r : Registry} {raw : String}

/-- A blank line prints an empty one. -/
theorem dispatch_of_blank (h : Text.trim raw = "") :
    r.dispatch raw = .print "" (.done .blank) := by
  have hempty := (Line.isEmpty_parse_iff raw).mpr h
  simp only [dispatch, hempty]
  rfl

/-- A line whose first token belongs to nobody is reported, and nothing runs. -/
theorem dispatch_of_resolve_eq_none (h : Text.trim raw ≠ "")
    (hr : r.resolve (Line.parse raw).command = none) :
    r.dispatch raw =
      .log (.unknownCommand (Line.parse raw).command)
        (.printStyled (ConsoleError.commandNotFound (Line.parse raw).command).message .error
          (.done .notFound)) := by
  have hempty := (Line.isEmpty_parse_eq_false_iff raw).mpr h
  simp only [dispatch, hempty, hr]
  rfl

/-- A line whose first token belongs to a command is echoed; then the command takes its action, and
how that ended is reported. -/
theorem dispatch_of_resolve_eq_some {command : Command} (h : Text.trim raw ≠ "")
    (hr : r.resolve (Line.parse raw).command = some command) :
    r.dispatch raw =
      .printStyled raw .echo
        ((command.action r.entries (Line.parse raw).parameters).bind
          (report (Line.parse raw).command)) := by
  have hempty := (Line.isEmpty_parse_eq_false_iff raw).mpr h
  simp only [dispatch, hempty, hr]
  rfl

end Registry
end CommandConsole
