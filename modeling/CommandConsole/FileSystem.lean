import CommandConsole.Error
import CommandConsole.Path
import CommandConsole.Text.Utf8

/-!
# Files

A file system is a tree of directories and files with a working directory in it. A path is walked
name by name from the root or from the working directory: `.` stays, `..` goes up, any other name
has to be there, and on the way it has to be a directory.

Writing replaces a file or makes a new one in a directory that exists, and otherwise fails and
changes nothing. Reading gives the bytes that were written last.
-/
namespace CommandConsole

/-- A place in the tree: the names that lead to it from the root. -/
abbrev Location := List String

/-- What is at a place. -/
inductive Node
  | directory
  | file (content : Bytes)
  deriving DecidableEq, Repr

/-- The files there are. -/
structure FileSystem where
  /-- Every directory but the root, and every file. -/
  nodes : List (Location × Node)
  /-- Where paths that are not absolute start. -/
  workingDirectory : Location := []
  deriving DecidableEq, Repr

namespace FileSystem

/-- What is at a place, if anything; the root is always there. -/
def node? (fs : FileSystem) (place : Location) : Option Node :=
  if place = [] then some .directory else fs.nodes.lookup place

/-- The tree with a file of this content at a place. -/
def put (fs : FileSystem) (place : Location) (content : Bytes) : FileSystem :=
  { fs with nodes := (place, .file content) :: fs.nodes.filter (·.1 ≠ place) }

/-- The most bytes that a name may have. -/
def longestName : Nat := 255

/-- The most bytes that a path may have. -/
def longestPath : Nat := 4095

/-- The directory that a name leads to from a directory. -/
def enter (fs : FileSystem) (place : Location) (name : String) : Except FileError Location :=
  if name = "." then .ok place
  else if name = ".." then .ok place.dropLast
  else if longestName < Text.size name then .error .nameTooLong
  else match fs.node? (place ++ [name]) with
    | some .directory => .ok (place ++ [name])
    | some (.file _) => .error .notADirectory
    | none => .error .notFound

/-- The directory that names lead to, one after the other. -/
def walk (fs : FileSystem) : Location → List String → Except FileError Location
  | place, [] => .ok place
  | place, name :: names =>
    match fs.enter place name with
    | .ok next => fs.walk next names
    | .error e => .error e

/-- Where a path starts. -/
def start (fs : FileSystem) (path : String) : Location :=
  if Path.isAbsolute path then [] else fs.workingDirectory

/-- The directory that holds the last name of a path, and that name; a path of slashes alone has
no name and leads to a directory. -/
def parent (fs : FileSystem) (path : String) : Except FileError (Location × String) :=
  if '\x00' ∈ path.toList then .error .nulInName
  else if path = "" then .error .notFound
  else if longestPath < Text.size path then .error .nameTooLong
  else match (Path.names path).getLast? with
    | none => .error .isADirectory
    | some name =>
      match fs.walk (fs.start path) (Path.names path).dropLast with
      | .ok place => .ok (place, name)
      | .error e => .error e

/-- The place of the file that writing to a path makes or replaces. -/
def target (fs : FileSystem) (path : String) : Except FileError Location :=
  match fs.parent path with
  | .error e => .error e
  | .ok (place, name) =>
    if name = "." ∨ name = ".." ∨ Path.endsInSlash path then .error .isADirectory
    else if longestName < Text.size name then .error .nameTooLong
    else match fs.node? (place ++ [name]) with
      | some .directory => .error .isADirectory
      | some (.file _) | none => .ok (place ++ [name])

/-- The files after a text was written to a path. -/
def write (fs : FileSystem) (path text : String) : Except FileError FileSystem :=
  (fs.target path).map fun place => fs.put place (Text.encode text)

/-- The bytes of the file at a path. -/
def read (fs : FileSystem) (path : String) : Except FileError Bytes :=
  match fs.parent path with
  | .error e => .error e
  | .ok (place, name) =>
    if name = "." ∨ name = ".." then .error .isADirectory
    else if longestName < Text.size name then .error .nameTooLong
    else match fs.node? (place ++ [name]) with
      | none => .error .notFound
      | some .directory => .error .isADirectory
      | some (.file content) =>
        if Path.endsInSlash path then .error .notADirectory else .ok content

/-- The text of the file at a path. -/
def readText (fs : FileSystem) (path : String) : Except FileError String :=
  match fs.read path with
  | .error e => .error e
  | .ok bytes =>
    match Text.decode? bytes with
    | some text => .ok text
    | none => .error .notText

/-- A file that was put somewhere is there. -/
theorem node?_put_self (fs : FileSystem) (place : Location) (content : Bytes) (h : place ≠ []) :
    (fs.put place content).node? place = some (.file content) := by
  simp [node?, put, h]

/-- Nothing changes anywhere else. -/
theorem node?_put_of_ne (fs : FileSystem) {place other : Location} (content : Bytes)
    (h : other ≠ place) : (fs.put place content).node? other = fs.node? other := by
  have kept (nodes : List (Location × Node)) :
      (nodes.filter (·.1 ≠ place)).lookup other = nodes.lookup other := by
    induction nodes with
    | nil => rfl
    | cons n nodes ih =>
      obtain ⟨at', node⟩ := n
      by_cases hn : at' = place
      · subst hn
        rw [List.filter_cons_of_neg (by simp), ih, List.lookup_cons,
          show (other == at') = false by simp [h]]
      · rw [List.filter_cons_of_pos (by simp [hn]), List.lookup_cons, List.lookup_cons, ih]
  have : (other == place) = false := by simp [h]
  simp only [node?, put, List.lookup_cons, this]
  rw [kept]

/-- What is at a place after a file was put somewhere. -/
theorem node?_put (fs : FileSystem) {place : Location} (content : Bytes) (h : place ≠ [])
    (other : Location) :
    (fs.put place content).node? other =
      if other = place then some (.file content) else fs.node? other := by
  split
  · rename_i hother
    rw [hother, node?_put_self fs place content h]
  · rename_i hother
    exact node?_put_of_ne fs content hother

/-- Writing never replaces the root. -/
theorem ne_nil_of_target {fs : FileSystem} {path : String} {place : Location}
    (h : fs.target path = .ok place) : place ≠ [] := by
  rintro rfl
  unfold target at h
  split at h
  · cases h
  · split at h
    · cases h
    · split at h
      · cases h
      · split at h
        · cases h
        · simp at h
        · simp at h

end FileSystem
end CommandConsole
