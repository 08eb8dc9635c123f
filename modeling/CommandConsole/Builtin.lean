import CommandConsole.Command
import CommandConsole.DumpName

/-!
# Built-in commands

`echo` prints its parameters back, `help` tells what commands there are or what one of them does,
`clear` empties the display, and `dump` writes what the display shows to a file. None of them ever
fails: what goes wrong is printed.
-/
namespace CommandConsole.Builtin

open CommandConsole.Action

/-- Prints its parameters, with a space between each two. -/
def echo : Command where
  names := ["echo"]
  help := "Takes input and \"echoes\" it back to the console."
  action _ parameters := do
    say (" ".intercalate parameters)
    return .completed

/-- One line on a command: its names, then its help. -/
def summary (card : Card) : String := ", ".intercalate card.names ++ " --> " ++ card.help

/-- Prints lines one after the other. -/
def sayAll : List String → Action Unit
  | [] => pure ()
  | line :: lines => do
    say line
    sayAll lines

/-- Prints a summary of every command, or the help of the one that is asked for. -/
def help : Command where
  names := ["h", "help"]
  help := "Provides help, info, documentation, etc. about the given command."
  action entries parameters :=
    match parameters with
    | [] => do
      sayAll (entries.map fun entry => summary entry.toCard)
      return .completed
    | name :: _ =>
      match Entry.find? entries name with
      | some entry => do
        say entry.help
        return .completed
      | none => do
        sayStyled (ConsoleError.commandNotFound name).message .error
        return .completed

/-- Empties the display. -/
def clear : Command where
  names := ["c", "cls", "clr", "clear"]
  help := "Clears the console of all text."
  action _ _ := do
    wipe
    return .completed

/-- The file that a dump is asked to write; without a name of its own, one after the clock. -/
def dumpFile (parameters : List String) : Action String :=
  match parameters with
  | name :: _ => if name = "" then DumpName.byDefault <$> moment else pure name
  | [] => DumpName.byDefault <$> moment

/-- Writes what the display shows, without the report on it, to a file seen from `directory`. -/
def dump (directory : String) : Command where
  names := ["dump"]
  help := "Dumps the console content to a text file. Usage: dump [filename]"
  action _ parameters := do
    let file ← dumpFile parameters
    let path := Path.join directory file
    let text ← shown
    match ← save path text with
    | .ok () =>
      tell (.dumped path)
      say ("Console content dumped to " ++ path)
    | .error cause =>
      tell (.notDumped (.file path cause))
      sayStyled ("Failed to dump console content to " ++ path ++ ": " ++ cause.message) .error
    return .completed

/-- The built-in commands in the order in which they are registered. -/
def all (dumpDirectory : String) : List Command := [echo, help, clear, dump dumpDirectory]

end CommandConsole.Builtin
