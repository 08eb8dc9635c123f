import CommandConsole.Completion
import CommandConsole.Error
import CommandConsole.History
import CommandConsole.Text.Backspace
import CommandConsole.Text.Lines

/-!
# Line editors

A line editor asks for lines. A host tells it the names to complete and the lines to remember, and
shows a prompt before each line is read. What comes back is a reading: a line, an interruption, the
end of the input, or a failure.

`Editor` reads a stream that is no terminal: it writes its prompt as it is, cuts the stream into
lines and carries out the backspaces in them. `EditorRecord` keeps all that it is told.
-/
namespace CommandConsole

/-- What asking for a line may bring. -/
inductive Reading
  | line (text : String)
  /-- The line was given up. -/
  | interrupted
  | endOfInput
  | failed (error : ConsoleError)
  /-- The editor broke down over a line that it could not edit. -/
  | crashed
  deriving DecidableEq, Repr

/-- What a host needs of a line editor. -/
class LineEditor (ε : Type) where
  /-- Tells the names to complete. -/
  setCompletions : ε → List String → ε
  /-- Tells a line to remember. -/
  addHistory : ε → String → ε
  /-- Shows a prompt; also gives what the editor writes to standard output. -/
  showPrompt : ε → String → ε × String

/-- An editor that keeps all that it is told and writes nothing. -/
structure EditorRecord where
  completions : List String := []
  history : List String := []
  prompts : List String := []
  deriving DecidableEq, Repr

instance : LineEditor EditorRecord where
  setCompletions e names := { e with completions := names }
  addHistory e line := { e with history := e.history ++ [line] }
  showPrompt e prompt := ({ e with prompts := e.prompts ++ [prompt] }, "")

/-- An editor over a stream. -/
structure Editor where
  completions : List String := []
  history : History

instance : LineEditor Editor where
  setCompletions e names := { e with completions := names }
  addHistory e line := { e with history := e.history.add line }
  showPrompt e prompt := (e, prompt)

namespace Editor

/-- An editor that remembers so many lines. -/
def ofHistorySize (size : Nat) : Editor where
  history := { limit := size }

/-- What is offered in a line with the cursor at a byte offset. -/
def complete? (e : Editor) (line : String) (cursor : Nat) : Option Completion :=
  Completion.of? e.completions line cursor

/-- What a line of a stream is read as. -/
def readingOf (line : Bytes) : Reading :=
  match Text.decode? line with
  | none => .failed (.internal FileError.notText.message)
  | some text =>
    match Text.applyBackspaces? text with
    | some text => .line text
    | none => .crashed

/-- What reading a stream brings, line after line, before it ends. -/
def readings (stream : Bytes) : List Reading :=
  (Text.cutLines '\n'.toUInt8 '\r'.toUInt8 stream).map readingOf

end Editor

/-! ## Colours -/

namespace Highlight

/-- A prompt in bold green, unless it was coloured before. -/
def prompt (text : String) (isDefault : Bool) : String :=
  if isDefault then "\x1b[1;32m" ++ text ++ "\x1b[0m" else text

/-- A hint, dimmed. -/
def hint (text : String) : String := "\x1b[2m" ++ text ++ "\x1b[0m"

/-- A line is not coloured again while it is typed. -/
def recolours (_line : String) (_cursor : Nat) : Bool := false

end Highlight
end CommandConsole
