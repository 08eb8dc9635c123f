import CommandConsole.Action
import CommandConsole.Text.Lowercase

/-!
# Commands

A command has names to call it by, a line of help, and an action to take on its parameters. Names
are compared in lowercase. While it runs, a command sees all registered commands, itself included,
as entries that it can look up and execute.
-/
namespace CommandConsole

/-- How a command's action ended. -/
inductive Outcome
  | completed
  | failed (error : ConsoleError)
  /-- The action broke off in the middle; it may have left a message. -/
  | crashed (message : Option String)
  deriving DecidableEq, Repr

/-- Why the action did not complete, if it did not. -/
def Outcome.reason? : Outcome → Option String
  | completed => none
  | failed error => some error.message
  | crashed message => some (message.getD "command panicked")

/-- What anyone can see of a command. -/
structure Card where
  /-- The names it answers to. -/
  names : List String
  /-- One line on what it does. -/
  help : String
  deriving DecidableEq, Repr

/-- One of the card's names is the given one, up to case. -/
def Card.answersTo (card : Card) (name : String) : Bool :=
  card.names.any fun own => Text.lowercase own == Text.lowercase name

/-- A registered command as a running command sees it. -/
structure Entry extends Card where
  execute : List String → Action Outcome

/-- A command. -/
structure Command extends Card where
  /-- What it does, given the registered commands and its parameters. -/
  action : List Entry → List String → Action Outcome

/-- The first entry that answers to a name. -/
def Entry.find? (entries : List Entry) (name : String) : Option Entry :=
  entries.find? fun entry => entry.answersTo name

end CommandConsole
