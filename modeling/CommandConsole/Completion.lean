import CommandConsole.Text.Blank
import CommandConsole.Text.Lowercase
import CommandConsole.Text.Utf8

/-!
# Completion

The first word of a line is completed to the names that start with it, up to case. Once the word
has ended there is nothing to complete: parameters are free text. Positions are byte offsets.
-/
namespace CommandConsole

/-- What a line editor may offer. -/
structure Completion where
  /-- Where the text that a candidate replaces starts; it ends at the cursor. -/
  start : Nat
  candidates : List String
  deriving DecidableEq, Repr

namespace Completion

/-- A name starts with a word, up to case. -/
def fits (word name : String) : Bool :=
  (Text.lowercase word).toList.isPrefixOf (Text.lowercase name).toList

/-- What is offered after `head`, the line up to the cursor. -/
def ofHead (names : List String) (head : String) : Completion :=
  let word := Text.trimStart head
  if ' ' ∈ word.toList then ⟨Text.size head, []⟩
  else ⟨Text.size head - Text.size word, names.filter (fits word)⟩

/-- What is offered in a line with the cursor at a byte offset; none if the offset is not one
between two characters of the line. -/
def of? (names : List String) (line : String) (cursor : Nat) : Option Completion :=
  (Text.upTo? cursor line).map (ofHead names)

end Completion
end CommandConsole
