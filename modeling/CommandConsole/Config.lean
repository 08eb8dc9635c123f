import CommandConsole.Path

/-!
# Configuration

What a host may set before it starts a console: whether the console is open at first, where dumps
go, the two prompts, the line that opens and closes the console, the length of the history and
whether there is a banner. Two configurations are equivalent if they differ at most in how they
write the path of the directory for dumps.
-/
namespace CommandConsole

/-- The settings of a console and its host. -/
structure Config where
  /-- The console is open at first. -/
  startOpen : Bool := false
  /-- The directory that dumps are written into. -/
  dumpDirectory : String := "."
  /-- The prompt of an open console. -/
  prompt : String := "> "
  /-- The prompt of a closed console. -/
  closedPrompt : String := "(closed) "
  /-- The line that opens and closes the console. -/
  toggleLine : String := "`"
  /-- How many lines the history keeps. -/
  historySize : UInt64 := 1000
  /-- The host greets with a banner. -/
  showBanner : Bool := true
  deriving DecidableEq, Repr, Inhabited

/-- The prompt of a console that is open, or of one that is closed. -/
def Config.promptFor (config : Config) (isOpen : Bool) : String :=
  if isOpen then config.prompt else config.closedPrompt

/-- The settings are the same, the directory for dumps up to the way its path is written. -/
def Config.equivalent (config other : Config) : Bool :=
  Path.equivalent config.dumpDirectory other.dumpDirectory
    && { config with dumpDirectory := other.dumpDirectory } == other

/-- A configuration is equivalent to itself. -/
theorem Config.equivalent_self (config : Config) : config.equivalent config = true := by
  simp [Config.equivalent, Path.equivalent_self]

/-- The configuration is equivalent to the one that nobody has changed. -/
def Config.isDefault (config : Config) : Bool := config.equivalent {}

end CommandConsole
