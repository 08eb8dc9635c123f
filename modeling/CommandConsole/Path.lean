/-!
# Paths

A path is a text. Slashes cut it into names, and how many of them stand side by side does not
matter; a slash in front makes it absolute. Joining puts texts together and changes neither of
them, so `.`, `..` and doubled slashes stay where they are.

Two paths that are written differently are equivalent if they take the same steps. A `.` counts as a
step only where a relative path starts with it, and `..` is a step like any other, since what it
undoes depends on the directories that are there.
-/
namespace CommandConsole.Path

/-- A path that starts at the root whatever directory it is used in. -/
def isAbsolute (path : String) : Bool := path.toList.head? == some '/'

/-- A path whose last character is a slash. -/
def endsInSlash (path : String) : Bool := path.toList.getLast? == some '/'

/-- The names between the slashes of a path. -/
def names (path : String) : List String :=
  ((path.toList.splitOn '/').filter (· ≠ [])).map String.ofList

/-- A name seen from a directory; an absolute name stands for itself. -/
def join (directory name : String) : String :=
  if isAbsolute name then name
  else if directory == "" || endsInSlash directory then directory ++ name
  else directory ++ "/" ++ name

/-- A step that a path takes. -/
inductive Step where
  /-- To the root. -/
  | root
  /-- To the directory that a relative path is used in, where the path says so. -/
  | here
  /-- To the directory above. -/
  | up
  /-- To the entry of this name. -/
  | into (name : String)
  deriving DecidableEq, Repr, Inhabited

/-- The step that a name between slashes is. A `.` leads nowhere. -/
def Step.ofName? (name : String) : Option Step :=
  if name = "." then none else if name = ".." then some .up else some (.into name)

/-- Where a path starts, if it says so: with a slash, or with the name `.`. -/
def start? (path : String) : Option Step :=
  if isAbsolute path then some .root
  else if (names path).head? = some "." then some .here
  else none

/-- The steps of a path, from its start on. -/
def steps (path : String) : List Step :=
  (start? path).toList ++ (names path).filterMap Step.ofName?

/-- The two paths take the same steps. -/
def equivalent (path other : String) : Bool := steps path == steps other

theorem equivalent_iff {path other : String} :
    equivalent path other = true ↔ steps path = steps other := beq_iff_eq

/-- A path is equivalent to itself. -/
theorem equivalent_self (path : String) : equivalent path path = true := equivalent_iff.2 rfl

end CommandConsole.Path
