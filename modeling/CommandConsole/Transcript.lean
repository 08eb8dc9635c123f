import CommandConsole.Sink
import CommandConsole.Text.Lines

/-!
# Transcripts

A transcript is the plain text of what was printed since the display was last cleared, each text
followed by a line feed.
-/
namespace CommandConsole

/-- What a display shows, as plain text. -/
structure Transcript where
  text : String := ""
  deriving DecidableEq, Repr, Inhabited

namespace Transcript

/-- The transcript with one more line. -/
def print (t : Transcript) (text : String) : Transcript := ⟨t.text ++ text ++ "\n"⟩

/-- The lines of the transcript. -/
def lines (t : Transcript) : List String := Text.lines t.text

/-- Nothing was printed since the last clear. -/
def isEmpty (t : Transcript) : Bool := t.text == ""

/-- A transcript is a sink that drops styles. -/
instance : Sink Transcript where
  print := print
  clear _ := {}
  content := text

end Transcript
end CommandConsole
