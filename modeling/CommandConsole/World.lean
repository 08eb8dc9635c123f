import CommandConsole.Calendar
import CommandConsole.Event
import CommandConsole.FileSystem

/-!
# The world around a console

Besides its display a console reaches the files, the clock and the log. The clock is given as the
sequence of its readings, so that two runs can be compared under the same ones.
-/
namespace CommandConsole

/-- All that a console can reach besides its display. -/
structure World where
  files : FileSystem
  /-- What the clock shows each time it is read. -/
  clock : Nat → DateTime
  /-- How often the clock was read. -/
  readings : Nat := 0
  /-- What the log has told so far. -/
  log : List Event := []

namespace World

/-- The world after an event was logged. -/
def record (world : World) (event : Event) : World := { world with log := world.log ++ [event] }

@[simp] theorem log_record (world : World) (event : Event) :
    (world.record event).log = world.log ++ [event] := rfl

/-- The clock, read once. -/
def now (world : World) : DateTime × World :=
  (world.clock world.readings, { world with readings := world.readings + 1 })

/-- The world after a text was written to a path, or as it was if that failed. -/
def write (world : World) (path text : String) : Except FileError Unit × World :=
  match world.files.write path text with
  | .ok files => (.ok (), { world with files := files })
  | .error e => (.error e, world)

end World
end CommandConsole
