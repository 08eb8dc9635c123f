import CommandConsole.Transcript
import CommandConsole.Text.Utf8

/-!
# Terminals

A terminal shows what a line is by its colour: a typed line is grey, a report of failure red. The
escape sequences go to the terminal's writer only; the transcript that is kept beside it stays
plain. A writer may take only so many bytes. What it does not take is lost, and the console goes on
as if it had been taken.
-/
namespace CommandConsole

/-- A stream of bytes that may come to an end. -/
structure Writer where
  /-- What was taken so far. -/
  written : Bytes := []
  /-- How many more bytes it takes; any number if there is no limit. -/
  room : Option Nat := none
  deriving DecidableEq, Repr, Inhabited

/-- The writer after it was offered a text. -/
def Writer.write (w : Writer) (text : String) : Writer :=
  match w.room with
  | none => { w with written := w.written ++ Text.encode text }
  | some n =>
    { written := w.written ++ (Text.encode text).take n
      room := some (n - (Text.encode text).length) }

/-- A writer without a limit takes all that it is offered. -/
theorem Writer.written_write_of_room_eq_none {w : Writer} (h : w.room = none) (text : String) :
    (w.write text).written = w.written ++ Text.encode text := by
  simp [write, h]

/-- It does so for good. -/
theorem Writer.room_write {w : Writer} (h : w.room = none) (text : String) :
    (w.write text).room = none := by
  simp [write, h]

/-- A writer with a limit takes as much as it has room for. -/
theorem Writer.written_write_of_room_eq_some {w : Writer} {n : Nat} (h : w.room = some n)
    (text : String) : (w.write text).written = w.written ++ (Text.encode text).take n := by
  simp [write, h]

/-- A terminal: the stream to it, and what it shows. -/
structure Terminal where
  out : Writer := {}
  transcript : Transcript := {}
  deriving DecidableEq, Repr, Inhabited

namespace Terminal

/-- The sequence that switches colours off. -/
def resetSequence : String := "\x1b[0m"

/-- The sequence that switches to the grey of typed lines. -/
def echoSequence : String := "\x1b[38;5;246m"

/-- The sequence that switches to the red of failures. -/
def errorSequence : String := "\x1b[31m"

/-- The sequence that empties the screen and goes to its top left corner. -/
def clearSequence : String := "\x1b[2J\x1b[H"

/-- A text in the colour of its style. -/
def render (text : String) : Style → String
  | .normal => text
  | .echo => echoSequence ++ text ++ resetSequence
  | .error => errorSequence ++ text ++ resetSequence

/-- The terminal with one more line. -/
def printStyled (t : Terminal) (text : String) (style : Style) : Terminal where
  out := t.out.write (render text style ++ "\n")
  transcript := t.transcript.print text

/-- The terminal with an empty screen. -/
def clear (t : Terminal) : Terminal where
  out := t.out.write clearSequence
  transcript := {}

instance : Sink Terminal where
  print t text := t.printStyled text .normal
  printStyled := printStyled
  clear := clear
  content t := t.transcript.text

end Terminal
end CommandConsole
