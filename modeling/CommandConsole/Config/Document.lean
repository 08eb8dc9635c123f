import CommandConsole.Config
import CommandConsole.Json.Value

/-!
# Configuration as JSON

A configuration is written as an object with one member for each setting, in a fixed order. Read,
an object may leave settings out and may have members of other names; a setting may be given only
once. An array gives the first settings in their order. What is not given is as by default, and
nothing fits but a value of the right kind.
-/
namespace CommandConsole

open Json (Value)

namespace Config

/-- A setting. -/
inductive Field
  | startOpen
  | dumpDirectory
  | prompt
  | closedPrompt
  | toggleLine
  | historySize
  | showBanner
  deriving DecidableEq, Repr

namespace Field

/-- The settings in the order in which they are written. -/
def all : List Field :=
  [startOpen, dumpDirectory, prompt, closedPrompt, toggleLine, historySize, showBanner]

/-- The name of a setting in a document. -/
def name : Field → String
  | startOpen => "start_open"
  | dumpDirectory => "dump_directory"
  | prompt => "prompt"
  | closedPrompt => "closed_prompt"
  | toggleLine => "toggle_line"
  | historySize => "history_size"
  | showBanner => "show_banner"

/-- The setting with a name. -/
def ofName? (name : String) : Option Field := all.find? fun field => field.name == name

/-- The number that a literal of digits alone stands for. -/
def natural? (literal : String) : Option Nat :=
  if literal.toList.all Char.isDigit then some (Nat.ofDigitChars 10 literal.toList 0) else none

/-- The value of a setting. -/
def value (field : Field) (c : Config) : Value :=
  match field with
  | startOpen => .bool c.startOpen
  | dumpDirectory => .string c.dumpDirectory
  | prompt => .string c.prompt
  | closedPrompt => .string c.closedPrompt
  | toggleLine => .string c.toggleLine
  | historySize => .number c.historySize.toNat.repr
  | showBanner => .bool c.showBanner

/-- The configuration with a setting changed, if the value is of its kind. -/
def set? (field : Field) (v : Value) (c : Config) : Option Config :=
  match field, v with
  | startOpen, .bool b => some { c with startOpen := b }
  | dumpDirectory, .string (some s) => some { c with dumpDirectory := s }
  | prompt, .string (some s) => some { c with prompt := s }
  | closedPrompt, .string (some s) => some { c with closedPrompt := s }
  | toggleLine, .string (some s) => some { c with toggleLine := s }
  | historySize, .number literal =>
    match natural? literal with
    | some n => if n < UInt64.size then some { c with historySize := UInt64.ofNat n } else none
    | none => none
  | showBanner, .bool b => some { c with showBanner := b }
  | _, _ => none

end Field

/-- The configuration with members applied one after the other; `seen` are the settings that were
given already. -/
def withMembers (c : Config) (seen : List Field) : List (Option String × Value) → Option Config
  | [] => some c
  | (none, _) :: _ => none
  | (some name, v) :: rest =>
    match Field.ofName? name with
    | none => withMembers c seen rest
    | some field =>
      if field ∈ seen then none
      else match field.set? v c with
        | some c => withMembers c (field :: seen) rest
        | none => none

/-- The configuration with items applied to settings in order. -/
def withItems (c : Config) : List Field → List Value → Option Config
  | _, [] => some c
  | [], _ :: _ => none
  | field :: fields, v :: items =>
    match field.set? v c with
    | some c => withItems c fields items
    | none => none

/-- The configuration that a value stands for. -/
def ofValue? : Value → Option Config
  | .object members => withMembers {} [] members
  | .array items => withItems {} Field.all items
  | _ => none

/-- The configuration that a JSON text stands for. -/
def parse? (text : String) : Option Config := (Value.parse? text).bind ofValue?

/-- The value that stands for a configuration. -/
def toValue (c : Config) : Value :=
  .object (Field.all.map fun field => (some field.name, field.value c))

/-- The JSON text that stands for a configuration. -/
def toJson (c : Config) : String := c.toValue.render

end Config
end CommandConsole
