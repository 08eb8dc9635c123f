import CommandConsole.Command

/-!
# The registry of commands

Commands are kept in the order in which they were registered. A name belongs to the first command
that answers to it; a later command stays reachable by its other names. A command without names
could never be reached and is left out, and so is one that could not be built.
-/
namespace CommandConsole

theorem Registry.named_nil : ∀ command ∈ ([] : List Command), command.names ≠ [] := by simp

/-- All commands of a console, in the order of registration. -/
structure Registry where
  commands : List Command := []
  /-- Every command has a name. -/
  named : ∀ command ∈ commands, command.names ≠ [] := by exact Registry.named_nil
  /-- A bound on how deep commands call each other, by which every action comes to an end.  It says
  nothing about the commands: what a line comes to within the bound, it comes to within any larger
  one (`Console.handleInput_deeper`). -/
  deepestCall : Nat := 10000

namespace Registry

/-- The command that a name belongs to. -/
def resolve (r : Registry) (name : String) : Option Command :=
  r.commands.find? fun command => command.answersTo name

/-- The position of the command that a name belongs to. -/
def position? (r : Registry) (name : String) : Option Nat :=
  r.commands.findIdx? fun command => command.answersTo name

/-- A name belongs to the command at its position. -/
theorem resolve_eq_position? (r : Registry) (name : String) :
    r.resolve name = (r.position? name).bind (r.commands[·]?) := by
  unfold resolve position?
  rw [List.find?_eq_bind_findIdx?_getElem?]

/-- The names of all commands. -/
def names (r : Registry) : List String := r.commands.flatMap fun command => command.names

/-- The registry after a command was offered to it, and what the log tells of that. -/
def register (r : Registry) (command : Command) : Registry × List Event :=
  if h : command.names = [] then (r, [.namelessCommand command.help])
  else
    ({ r with
       commands := r.commands ++ [command]
       named := by simpa [or_imp, forall_and, h] using r.named },
      (command.names.filter fun name => (r.resolve name).isSome).map .nameTaken ++
        [.registered command.names])

theorem commands_register (r : Registry) (command : Command) :
    (r.register command).1.commands =
      if command.names = [] then r.commands else r.commands ++ [command] := by
  unfold register
  split <;> rfl

/-- The registry after commands were offered one after the other. -/
def registerAll (r : Registry) : List Command → Registry × List Event
  | [] => (r, [])
  | command :: rest =>
    let first := r.register command
    let later := first.1.registerAll rest
    (later.1, first.2 ++ later.2)

/-- The registry after the result of building a command was offered to it, whether the command was
added, and what the log tells of that. -/
def registerBuilt (r : Registry) (built : Except ConsoleError Command) :
    Registry × Bool × List Event :=
  match built with
  | .ok command =>
    let after := r.register command
    (after.1, decide (r.commands.length < after.1.commands.length), after.2)
  | .error e => (r, false, [.notBuilt e])

/-- A sorted list with a text put in its place, unless it is there already. -/
def insertName (name : String) : List String → List String
  | [] => [name]
  | other :: rest =>
    if name < other then name :: other :: rest
    else if name = other then other :: rest
    else other :: insertName name rest

/-- The names of a command in lowercase, in order of code points and without repetition. -/
def sortedNames (card : Card) : List String :=
  card.names.foldr (fun name sorted => insertName (Text.lowercase name) sorted) []

/-- The lowercase names that a command shares with an earlier one: `seen` are the names of the
commands before, and names that were `found` to be shared are not listed again. -/
def shadowedFrom (seen found : List String) : List Command → List String
  | [] => found
  | command :: rest =>
    let own := sortedNames command.toCard
    shadowedFrom (seen ++ own.filter (· ∉ seen))
      (found ++ own.filter fun name => name ∈ seen ∧ name ∉ found) rest

/-- The lowercase names that more than one command answers to. -/
def shadowedNames (r : Registry) : List String := shadowedFrom [] [] r.commands

/-- The commands as they see each other, with a number of calls left.  A call beyond these is cut
off. -/
def entriesWithin (commands : List Command) : Nat → List Entry
  | 0 => commands.map fun command => ⟨command.toCard, fun _ => .done (.crashed none)⟩
  | left + 1 => commands.map fun command =>
    ⟨command.toCard, fun parameters => command.action (entriesWithin commands left) parameters⟩

/-- The commands as a running command sees them. -/
def entries (r : Registry) : List Entry := entriesWithin r.commands r.deepestCall

/-- The names of each command, on one line. -/
def summary (r : Registry) : String :=
  Text.bracketed (r.commands.map fun command => Text.bracketed (command.names.map Text.quoted))

/-- The names of each command, one name a line. -/
def layout (r : Registry) : String :=
  Text.laidOut (r.commands.map fun command => Text.laidOut (command.names.map Text.quoted))

end Registry
end CommandConsole
