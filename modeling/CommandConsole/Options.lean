/-!
# Command-line options

The arguments of the program are options, some with a value in the next argument, and script files.
The value may be anything, even another option; every other argument that starts with a dash has to
be an option. Of options that are given twice the last one counts.
-/
namespace CommandConsole

/-- What one or two arguments ask for. -/
inductive Argument
  | help
  | version
  | batch
  | closed
  | dumpDirectory (directory : String)
  | prompt (text : String)
  | script (path : String)
  deriving DecidableEq, Repr

/-- Why the arguments make no sense. -/
inductive UsageError
  /-- An option stands last that needs a value. -/
  | missingValue (option : String)
  /-- There is no such option. -/
  | unknownOption (argument : String)
  deriving DecidableEq, Repr

/-- The words for an error in the arguments. -/
def UsageError.message : UsageError → String
  | missingValue option => option ++ " requires a value"
  | unknownOption argument => "unknown option: " ++ argument

namespace Argument

/-- The option that takes no value and is written so. -/
def ofFlag? (text : String) : Option Argument :=
  if text = "-h" ∨ text = "--help" then some help
  else if text = "-V" ∨ text = "--version" then some version
  else if text = "-b" ∨ text = "--batch" then some batch
  else if text = "--closed" then some closed
  else none

/-- The option that takes a value and is written so, as a function of its value. -/
def ofValued? (text : String) : Option (String → Argument) :=
  if text = "--dump-dir" then some dumpDirectory
  else if text = "--prompt" then some prompt
  else none

/-- What arguments ask for, one after the other. -/
def ofTexts : List String → Except UsageError (List Argument)
  | [] => .ok []
  | text :: texts =>
    match ofValued? text, texts with
    | some _, [] => .error (.missingValue text)
    | some make, value :: texts => (ofTexts texts).map (make value :: ·)
    | none, texts =>
      match ofFlag? text with
      | some argument => (ofTexts texts).map (argument :: ·)
      | none =>
        if text.toList.head? = some '-' then .error (.unknownOption text)
        else (ofTexts texts).map (script text :: ·)

end Argument

/-- What the program is asked to do. -/
structure Options where
  /-- Scripts to run first. -/
  scripts : List String := []
  /-- Only the scripts are run. -/
  batch : Bool := false
  help : Bool := false
  version : Bool := false
  /-- The console is closed at first. -/
  closed : Bool := false
  dumpDirectory : Option String := none
  prompt : Option String := none
  deriving DecidableEq, Repr

namespace Options

/-- The options with one more argument. -/
def add (o : Options) : Argument → Options
  | .help => { o with help := true }
  | .version => { o with version := true }
  | .batch => { o with batch := true }
  | .closed => { o with closed := true }
  | .dumpDirectory directory => { o with dumpDirectory := some directory }
  | .prompt text => { o with prompt := some text }
  | .script path => { o with scripts := o.scripts ++ [path] }

/-- The options that arguments add up to. -/
def ofArguments (arguments : List Argument) : Options := arguments.foldl add {}

/-- The options that the arguments of the program give. -/
def parse (texts : List String) : Except UsageError Options :=
  (Argument.ofTexts texts).map ofArguments

end Options
end CommandConsole
