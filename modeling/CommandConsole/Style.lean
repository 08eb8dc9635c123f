/-!
# Styles

A printed line carries a style, which tells what the line is; a display that can show the
difference may, and any other display ignores it.
-/
namespace CommandConsole

/-- What a printed line is. -/
inductive Style
  /-- Output of a command. -/
  | normal
  /-- The line that was typed. -/
  | echo
  /-- A report that something failed or does not exist. -/
  | error
  deriving DecidableEq, Repr, Inhabited

end CommandConsole
