import CommandConsole.Text.Blank
import CommandConsole.Text.Lines

/-!
# Scripts

A script is a text with one command a line. Blank lines and lines whose first character, white
space aside, is a number sign are passed over.
-/
namespace CommandConsole.Script

/-- A line that holds a command. -/
def isCommand (line : String) : Bool :=
  match Text.strip line.toList with
  | [] => false
  | c :: _ => c != '#'

/-- The lines of a script that hold commands. -/
def commands (source : String) : List String := (Text.lines source).filter isCommand

end CommandConsole.Script
