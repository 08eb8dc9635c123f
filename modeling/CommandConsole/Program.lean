import CommandConsole.Builtin
import CommandConsole.Host
import CommandConsole.Options

/-!
# The program

The program runs the scripts it is given and then, unless it is a batch run, a console on standard
input and output. A batch run succeeds if every command of every script was carried out. A script
that cannot be read ends the program; what ran before it stays done.
-/
namespace CommandConsole

/-- Why the program ends with an error. -/
inductive ProgramError
  | usage (error : UsageError)
  | console (error : ConsoleError)
  /-- The editor crashed over a line of standard input. -/
  | crashed
  deriving DecidableEq, Repr

/-- The words for an error that ends the program. -/
def ProgramError.message : ProgramError → String
  | usage error => error.message
  | console error => error.message
  | crashed => "a backspace cannot take back a part of a character"

/-- The error that a breakdown of the console's host ends the program with. -/
def ProgramError.ofBreakdown : Breakdown → ProgramError
  | .failed error => console error
  | .crashed => crashed

namespace Program

/-- The answer to a request for help. -/
def helpText : String :=
"\x1b[1mdevconsole\x1b[0m - Developer command console

\x1b[1mUSAGE:\x1b[0m
    devconsole [OPTIONS] [FILES...]

\x1b[1mARGUMENTS:\x1b[0m
    [FILES...]    Command scripts to run before starting the console

\x1b[1mOPTIONS:\x1b[0m
    -h, --help          Print help information
    -V, --version       Print version information
    -b, --batch         Run scripts and exit (no interactive console)
    --closed            Start with the console closed
    --dump-dir DIR      Directory the dump command writes into
    --prompt P          Prompt shown while the console is open

\x1b[1mCONSOLE:\x1b[0m
    `                   Open or close the console
    help [command]      List commands, or show help for one
    echo <args...>      Print the arguments
    clear               Clear the console
    dump [file]         Save the console text to a file
    Ctrl+D              Exit
    Ctrl+C              Cancel current input

Set RUST_LOG=debug to trace registration and dispatch.
"

/-- The answer to a request for the version. -/
def versionText : String := "devconsole 0.1.0\n"

/-- A command that greets the world. -/
def helloWorld : Command where
  names := ["HelloWorld", "hw"]
  help := "Prints out \"Hello World\" to the console."
  action _ _ := do
    Action.say "Hello World"
    return .completed

/-- The commands of the program, and what the log tells of their registration. -/
def registry (dumpDirectory : String) : Registry × List Event :=
  Registry.registerAll {} (Builtin.all dumpDirectory ++ [helloWorld])

/-- The settings that the options ask for. -/
def config (o : Options) : Config where
  startOpen := !o.closed
  dumpDirectory := o.dumpDirectory.getD ({} : Config).dumpDirectory
  prompt := o.prompt.getD ({} : Config).prompt

/-- What the program leaves behind. -/
structure Run where
  /-- Whether it succeeded, or why it broke off. -/
  result : Except ProgramError Bool
  /-- What it wrote to standard output. -/
  output : Bytes
  world : World

/-- A host on standard input and output. -/
def host (o : Options) (world : World) : Host Editor :=
  let config := config o
  let commands := registry config.dumpDirectory
  Host.start (Editor.ofHistorySize config.historySize.toNat) commands.1 config
    { world with log := world.log ++ commands.2 } {} .terminal

/-- Runs script files one after the other and counts their failures. -/
def runFiles (h : Host Editor) : List String → Except ConsoleError Nat × Host Editor
  | [] => (.ok 0, h)
  | path :: paths =>
    let first := h.runFile path
    match first.1 with
    | .error e => (.error e, first.2)
    | .ok failures =>
      let rest := runFiles first.2 paths
      (rest.1.map (failures + ·), rest.2)

/-- The end of a run. -/
def finish (h : Host Editor) (result : Except ProgramError Bool) : Run where
  result := result
  output := h.console.sink.out.written
  world := h.console.world

/-- The host that goes on after the scripts: it greets only if there were none. -/
def settle (o : Options) (h : Host Editor) : Host Editor :=
  if o.scripts.isEmpty then h else h.withoutBanner

/-- Runs the program with options that ask for neither help nor version. -/
def runWith (o : Options) (input : Bytes) (world : World) : Run :=
  let scripts := runFiles (host o world) o.scripts
  match scripts.1 with
  | .error e => finish scripts.2 (.error (.console e))
  | .ok failures =>
    if o.batch then finish scripts.2 (.ok (failures == 0))
    else
      let session := (settle o scripts.2).run (Editor.readings input)
      finish session.2 ((session.1.map fun _ => true).mapError .ofBreakdown)

/-- Runs the program on its arguments and its standard input. -/
def run (arguments : List String) (input : Bytes) (world : World) : Run :=
  match Options.parse arguments with
  | .error e => ⟨.error (.usage e), [], world⟩
  | .ok o =>
    if o.help then ⟨.ok true, Text.encode helpText, world⟩
    else if o.version then ⟨.ok true, Text.encode versionText, world⟩
    else runWith o input world

/-- What the program writes to standard error when it ends. -/
def complaint (result : Except ProgramError Bool) : String :=
  match result with
  | .ok _ => ""
  | .error e => "\x1b[31mError: " ++ e.message ++ "\x1b[0m\n"

/-- The number that the program returns to its caller. -/
def exitCode (result : Except ProgramError Bool) : UInt32 :=
  match result with
  | .ok true => 0
  | .error .crashed => 101
  | .ok false | .error _ => 1

end Program
end CommandConsole
