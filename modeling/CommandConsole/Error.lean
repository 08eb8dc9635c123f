/-!
# Errors

An error is its cause; the words that the user reads are made from the cause in one place,
`message`. Files fail for reasons of their own, which an error about a file carries along with the
path as it was given.
-/
namespace CommandConsole

/-- Why a file could not be read or written. -/
inductive FileError
  /-- A name on the way, or the file itself, is not there. -/
  | notFound
  /-- The device failed. -/
  | deviceFailed
  | permissionDenied
  /-- A name on the way is that of a file. -/
  | notADirectory
  /-- The path leads to a directory, where a file was meant. -/
  | isADirectory
  | noSpaceLeft
  /-- The path, or a name in it, has too many bytes. -/
  | nameTooLong
  /-- The file's bytes are not a text. -/
  | notText
  /-- The path holds the character NUL, which no file name may have. -/
  | nulInName
  /-- Any other reason, in the words of whoever found it. -/
  | other (text : String)
  deriving DecidableEq, Repr

namespace FileError

/-- The number under which the system reports the error, if it is one of the system's. -/
def number? : FileError → Option Nat
  | notFound => some 2
  | deviceFailed => some 5
  | permissionDenied => some 13
  | notADirectory => some 20
  | isADirectory => some 21
  | noSpaceLeft => some 28
  | nameTooLong => some 36
  | notText | nulInName | other _ => none

/-- What went wrong, without the system's number for it. -/
def text : FileError → String
  | notFound => "No such file or directory"
  | deviceFailed => "Input/output error"
  | permissionDenied => "Permission denied"
  | notADirectory => "Not a directory"
  | isADirectory => "Is a directory"
  | noSpaceLeft => "No space left on device"
  | nameTooLong => "File name too long"
  | notText => "stream did not contain valid UTF-8"
  | nulInName => "file name contained an unexpected NUL byte"
  | other text => text

/-- The text with the number of a system error attached to it. -/
def message (e : FileError) : String :=
  match e.number? with
  | some n => e.text ++ " (os error " ++ n.repr ++ ")"
  | none => e.text

/-- The errors that the system reports by number. -/
def numbered : List FileError :=
  [notFound, deviceFailed, permissionDenied, notADirectory, isADirectory, noSpaceLeft, nameTooLong]

/-- The error that the system reports under a number. -/
def ofNumber? (n : Nat) : Option FileError := numbered.find? fun e => e.number? == some n

end FileError

/-- Why a console, one of its commands or its host could not do what was asked. -/
inductive ConsoleError
  /-- No command answers to the name that was typed. -/
  | commandNotFound (name : String)
  /-- A command could not be built. -/
  | registrationFailed (reason : String)
  /-- The command, named as it was typed, gave up. -/
  | executionFailed (command reason : String)
  /-- A command refused its parameters. -/
  | invalidArgument (text : String)
  /-- The file at `path` could not be read or written. -/
  | file (path : String) (cause : FileError)
  /-- The program itself is at fault. -/
  | internal (text : String)
  deriving DecidableEq, Repr

/-- The words for an error. -/
def ConsoleError.message : ConsoleError → String
  | commandNotFound name => "Command \"" ++ name ++ "\" does not exist."
  | registrationFailed reason => "failed to register command: " ++ reason
  | executionFailed command reason => "Command \"" ++ command ++ "\" failed: " ++ reason
  | invalidArgument text => "invalid argument: " ++ text
  | file path cause => path ++ ": " ++ cause.message
  | internal text => "internal error: " ++ text

end CommandConsole
