import CommandConsole.Program
import Std.Time.Zoned

/-!
# The command line

The program on a real system: actions are carried out on standard output, the files and the clock
as they come up, and lines are read from standard input when they are asked for. What is done with
them is decided by the library.
-/
namespace CommandConsole.CommandLine

/-- What the program works on. -/
structure Setting where
  config : Config
  registry : Registry
  /-- What the console shows. -/
  transcript : IO.Ref Transcript
  /-- The levels of the events that are told on standard error. -/
  levels : List Level

/-- The number of a system error, which some calls report with its sign turned. -/
def systemNumber (code : UInt32) : Nat :=
  if code.toNat < 0x80000000 then code.toNat else UInt32.size - code.toNat

/-- A file error for an error of the system. -/
def fileError : IO.Error → FileError
  | .alreadyExists _ code text | .otherError code text | .resourceBusy code text
  | .resourceVanished code text | .unsupportedOperation code text | .hardwareFault code text
  | .unsatisfiedConstraints code text | .illegalOperation code text | .protocolError code text
  | .timeExpired code text | .interrupted _ code text | .noFileOrDirectory _ code text
  | .invalidArgument _ code text | .permissionDenied _ code text | .resourceExhausted _ code text
  | .inappropriateType _ code text | .noSuchThing _ code text =>
    (FileError.ofNumber? (systemNumber code)).getD
      (.other (text ++ " (os error " ++ (systemNumber code).repr ++ ")"))
  | .unexpectedEof => .other "unexpected end of file"
  | .userError text => .other text

/-- Does something with the file at a path. -/
def onFile {α : Type} (path : String) (act : String → IO α) : IO (Except FileError α) := do
  if '\x00' ∈ path.toList then return .error .nulInName
  try
    return .ok (← act path)
  catch e =>
    return .error (fileError e)

/-- The local time. -/
def localTime : IO DateTime := do
  let now ← Std.Time.PlainDateTime.now
  let date := Date.of? now.date.year.toInt now.date.month.val.toNat now.date.day.val.toNat
  let time := TimeOfDay.of? now.time.hour.val.toNat now.time.minute.val.toNat
    now.time.second.val.toNat now.time.nanosecond.val.toNat
  match date, time with
  | some date, some time => return ⟨date, time⟩
  | _, _ => return DateTime.epoch

/-- Writes to standard output. -/
def put (text : String) : IO Unit := do
  let stdout ← IO.getStdout
  stdout.putStr text
  stdout.flush

/-- The levels that the environment asks for. -/
def levelsOf (wish : Option String) : List Level :=
  match wish with
  | none | some "warn" => [.warn]
  | some "info" => [.info, .warn]
  | some "debug" | some "trace" => [.debug, .info, .warn]
  | some _ => []

/-- Tells an event on standard error. -/
def tell (levels : List Level) (event : Event) : IO Unit := do
  if event.level ∈ levels then
    let fields := event.fields.map fun field => " " ++ field.1 ++ "=" ++ field.2
    (← IO.getStderr).putStrLn (event.message ++ String.join fields)

/-- Carries an action out. -/
def perform {α : Type} (s : Setting) : Action α → IO α
  | .done result => return result
  | .print text next => do
    s.transcript.modify (·.print text)
    put (Terminal.render text .normal ++ "\n")
    perform s next
  | .printStyled text style next => do
    s.transcript.modify (·.print text)
    put (Terminal.render text style ++ "\n")
    perform s next
  | .clear next => do
    s.transcript.set {}
    put Terminal.clearSequence
    perform s next
  | .content next => do
    perform s (next (← s.transcript.get).text)
  | .write path text next => do
    perform s (next (← onFile path fun path => IO.FS.writeFile path text))
  | .now next => do
    perform s (next (← localTime))
  | .log event next => do
    tell s.levels event
    perform s next

/-- Runs the lines of a script and counts those that were not carried out. -/
def runLines (s : Setting) : List String → IO Nat
  | [] => return 0
  | line :: lines => do
    let dispatch ← perform s (s.registry.dispatch line)
    return (if dispatch.isFailure then 1 else 0) + (← runLines s lines)

/-- Runs script files and counts their failures. -/
def runFiles (s : Setting) : List String → IO (Except ConsoleError Nat)
  | [] => return .ok 0
  | path :: paths => do
    match ← onFile path fun path => IO.FS.readBinFile path with
    | .error cause => return .error (.file path cause)
    | .ok bytes =>
      match String.fromUTF8? bytes with
      | none => return .error (.file path .notText)
      | some source =>
        let failures ← runLines s (Script.commands source)
        return (← runFiles s paths).map (failures + ·)

/-- The bytes of standard input up to the next line feed, the last one first. -/
partial def readLine (input : IO.FS.Stream) (read : Bytes) : IO Bytes := do
  match (← input.read 1).toList with
  | [] => return read
  | byte :: _ =>
    if byte = '\n'.toUInt8 then return byte :: read else readLine input (byte :: read)

/-- Asks for lines and handles them until the input ends. -/
partial def interact (s : Setting) (input : IO.FS.Stream) (isOpen : Bool) :
    IO (Except Breakdown Unit) := do
  put (s.config.promptFor isOpen)
  match Editor.readings (← readLine input []).reverse with
  | [] | .endOfInput :: _ => return .ok ()
  | .failed e :: _ => return .error (.failed e)
  | .crashed :: _ => return .error .crashed
  | .interrupted :: _ => interact s input isOpen
  | .line line :: _ =>
    match Reaction.of s.config isOpen line with
    | .toggle =>
      tell s.levels (if isOpen then .hidden else .shown)
      interact s input !isOpen
    | .ignore =>
      tell s.levels .inputIgnored
      interact s input isOpen
    | .handle _ =>
      let _ ← perform s (s.registry.dispatch line)
      interact s input isOpen

/-- Runs the program with options that ask for neither help nor version. -/
def runWith (o : Options) : IO (Except ProgramError Bool) := do
  let config := Program.config o
  let commands := Program.registry config.dumpDirectory
  let s : Setting :=
    { config, registry := commands.1, transcript := ← IO.mkRef {},
      levels := levelsOf (← IO.getEnv "RUST_LOG") }
  commands.2.forM (tell s.levels)
  match ← runFiles s o.scripts with
  | .error e => return .error (.console e)
  | .ok failures =>
    if o.batch then return .ok (failures == 0)
    if config.showBanner && o.scripts.isEmpty then put (Host.banner config)
    match ← interact s (← IO.getStdin) config.startOpen with
    | .error e => return .error (.ofBreakdown e)
    | .ok () =>
      put Host.goodbye
      return .ok true

/-- Runs the program on its arguments. -/
def run (arguments : List String) : IO (Except ProgramError Bool) := do
  match Options.parse arguments with
  | .error e => return .error (.usage e)
  | .ok o =>
    if o.help then
      put Program.helpText
      return .ok true
    if o.version then
      put Program.versionText
      return .ok true
    runWith o

end CommandConsole.CommandLine

def main (arguments : List String) : IO UInt32 := do
  let result ← CommandConsole.CommandLine.run arguments
  (← IO.getStderr).putStr (CommandConsole.Program.complaint result)
  return CommandConsole.Program.exitCode result
