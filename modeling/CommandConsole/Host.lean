import CommandConsole.Config
import CommandConsole.Console
import CommandConsole.Editor
import CommandConsole.Script
import CommandConsole.Terminal

/-!
# The terminal host

The host puts a console on a terminal. It reads lines and takes one of them, the toggle line, for
the key that opens and closes the console; other lines reach the console only while it is open, and
only they are remembered. Scripts reach it always.
-/
namespace CommandConsole

/-- Where the host's own words go. -/
inductive StandardOutput
  /-- A stream of its own. -/
  | separate (written : Bytes)
  /-- The stream that the terminal writes to. -/
  | terminal
  deriving DecidableEq, Repr

/-- What is done with a line that was entered. -/
inductive Reaction
  /-- It is the toggle line. -/
  | toggle
  /-- The console is closed. -/
  | ignore
  /-- The console handles it; a line that is not blank is remembered, too. -/
  | handle (remember : Bool)
  deriving DecidableEq, Repr

/-- What is done with a line, depending on whether the console is open. -/
def Reaction.of (config : Config) (isOpen : Bool) (line : String) : Reaction :=
  let trimmed := Text.trim line
  if trimmed = config.toggleLine then toggle
  else if isOpen then handle (trimmed ≠ "")
  else ignore

/-- Why a host stops reading before the input ends. -/
inductive Breakdown
  /-- Asking for a line failed. -/
  | failed (error : ConsoleError)
  /-- The editor crashed. -/
  | crashed
  deriving DecidableEq, Repr

/-- A console on a terminal, with an editor of type `ε` to read lines. -/
structure Host (ε : Type) where
  editor : ε
  console : Console Terminal HookLog
  config : Config
  stdout : StandardOutput

namespace Host

variable {ε : Type}

/-- The words that greet the user. -/
def banner (config : Config) : String :=
  "\x1b[1;36mdevconsole v0.1.0\x1b[0m\n" ++
    "Type `help` to list commands, `" ++ config.toggleLine ++
    "` to open or close the console, Ctrl+D to exit.\n\n"

/-- The words at the end of the input. -/
def goodbye : String := "\nGoodbye!\n"

/-- Writes the host's own words. -/
def say (h : Host ε) (text : String) : Host ε :=
  match h.stdout with
  | .separate written => { h with stdout := .separate (written ++ Text.encode text) }
  | .terminal =>
    { h with console.sink.out := h.console.sink.out.write text }

/-- The host without its banner. -/
def withoutBanner (h : Host ε) : Host ε := { h with config.showBanner := false }

/-- The prompt for the next line. -/
def prompt (h : Host ε) : String := h.config.promptFor h.console.isOpen

/-- Handles the lines of a script one after the other and counts those that were not carried
out. -/
def runLines (h : Host ε) : List String → Nat × Host ε
  | [] => (0, h)
  | line :: lines =>
    let after := h.console.handleInput line
    let rest := runLines { h with console := after.2 } lines
    ((if after.1.isFailure then 1 else 0) + rest.1, rest.2)

/-- Runs a script, whether the console is open or not, and counts its failures. -/
def runScript (h : Host ε) (source : String) : Nat × Host ε := h.runLines (Script.commands source)

/-- Runs the script in a file. -/
def runFile (h : Host ε) (path : String) : Except ConsoleError Nat × Host ε :=
  match h.console.world.files.readText path with
  | .ok source =>
    let after := h.runScript source
    (.ok after.1, after.2)
  | .error cause => (.error (.file path cause), h)

variable [LineEditor ε]

/-- A host for these commands. -/
def start (editor : ε) (registry : Registry) (config : Config) (world : World)
    (terminal : Terminal) (stdout : StandardOutput) : Host ε where
  editor := LineEditor.setCompletions editor registry.names
  console := { registry, sink := terminal, hooks := {}, world, isOpen := config.startOpen }
  config := config
  stdout := stdout

/-- Handles a line that was entered; none if it was not passed on to the console. -/
def submit (h : Host ε) (line : String) : Option Dispatch × Host ε :=
  match Reaction.of h.config h.console.isOpen line with
  | .toggle => (none, { h with console := h.console.toggle })
  | .ignore => (none, { h with console.world := h.console.world.record .inputIgnored })
  | .handle remember =>
    let editor := if remember then LineEditor.addHistory h.editor line else h.editor
    let after := h.console.handleInput line
    (some after.1, { h with editor := editor, console := after.2 })

/-- Asks for a line. -/
def ask (h : Host ε) : Host ε :=
  let after := LineEditor.showPrompt h.editor h.prompt
  { h with editor := after.1 }.say after.2

/-- Asks for lines and handles them until the input ends, or asking for one fails. The readings are
what asking brings; after the last of them the input ends. -/
def readLines (h : Host ε) : List Reading → Except Breakdown Unit × Host ε
  | [] => (.ok (), h.ask)
  | .line text :: readings => readLines (h.ask.submit text).2 readings
  | .interrupted :: readings => readLines h.ask readings
  | .endOfInput :: _ => (.ok (), h.ask)
  | .failed e :: _ => (.error (.failed e), h.ask)
  | .crashed :: _ => (.error .crashed, h.ask)

/-- Greets, handles what comes in, and says goodbye at the end of the input. -/
def run (h : Host ε) (readings : List Reading) : Except Breakdown Unit × Host ε :=
  let greeted := if h.config.showBanner then h.say (banner h.config) else h
  let after := greeted.readLines readings
  match after.1 with
  | .ok () => (.ok (), after.2.say goodbye)
  | .error e => (.error e, after.2)

end Host
end CommandConsole
