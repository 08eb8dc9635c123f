import CommandConsole.Error
import CommandConsole.Text.Quoted

/-!
# Log events

What happens behind the display is told as events. An event is what happened; its level, its
message and its named fields are read off it.
-/
namespace CommandConsole

/-- How much an event matters. -/
inductive Level
  | debug
  | info
  | warn
  deriving DecidableEq, Repr

/-- Something that the log tells. -/
inductive Event
  /-- A line named a command that does not exist. -/
  | unknownCommand (command : String)
  /-- A command, named as it was typed, gave up. -/
  | commandFailed (command reason : String)
  /-- A command without names was offered and left out. -/
  | namelessCommand (help : String)
  /-- A command was added under a name that an earlier command answers to. -/
  | nameTaken (name : String)
  /-- A command was added. -/
  | registered (names : List String)
  /-- A command could not be built. -/
  | notBuilt (error : ConsoleError)
  /-- The display was written to a file. -/
  | dumped (path : String)
  /-- The display could not be written to a file. -/
  | notDumped (error : ConsoleError)
  | shown
  | hidden
  /-- A line came in while the console was closed. -/
  | inputIgnored
  deriving DecidableEq, Repr

namespace Event

/-- How much it matters. -/
def level : Event → Level
  | commandFailed _ _ | namelessCommand _ | notBuilt _ | notDumped _ => .warn
  | dumped _ => .info
  | unknownCommand _ | nameTaken _ | registered _ | shown | hidden | inputIgnored => .debug

/-- What happened, in words. -/
def message : Event → String
  | unknownCommand _ => "unknown console command"
  | commandFailed _ _ => "console command failed"
  | namelessCommand _ => "skipping console command with no names"
  | nameTaken _ => "alias already taken; earlier command wins"
  | registered _ => "registered console command"
  | notBuilt _ => "failed to add console command"
  | dumped _ => "dumped console content"
  | notDumped _ => "failed to dump console content"
  | shown => "console shown"
  | hidden => "console hidden"
  | inputIgnored => "input ignored while console is closed"

/-- Who and what was involved. -/
def fields : Event → List (String × String)
  | unknownCommand command => [("command", command)]
  | commandFailed command reason => [("command", command), ("reason", reason)]
  | namelessCommand help => [("help", help)]
  | nameTaken name => [("alias", name)]
  | registered names => [("names", Text.bracketed (names.map Text.quoted))]
  | notBuilt error => [("error", error.message)]
  | dumped path => [("path", path)]
  | notDumped error => [("error", error.message)]
  | shown | hidden | inputIgnored => []

end Event
end CommandConsole
