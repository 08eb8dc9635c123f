import CommandConsole.Text.Cluster
import CommandConsole.Text.Utf8

/-!
# Backspaces

A backspace in a text takes back the cluster before it, and nothing where none is left. Of each
cluster only its size in bytes is remembered, and that in a single byte: of a cluster of 256 bytes or
more, only as many are taken back as remain when its size is divided by 256. What is left may not
end inside a character; if it would, the text cannot be edited.
-/
namespace CommandConsole.Text

/-- The cluster that takes another back. -/
def backspace : List Char := ['\x08']

/-- The characters that are left when some bytes are taken off the end; they are kept backwards. None
if that would split a character. -/
def dropBytes? : Nat → List Char → Option (List Char)
  | 0, cs => some cs
  | _ + 1, [] => none
  | n + 1, c :: cs => if c.utf8Size ≤ n + 1 then dropBytes? (n + 1 - c.utf8Size) cs else none

/-- The size of a cluster in bytes as far as one byte holds it. -/
def rememberedSize (cluster : List Char) : Nat := charsSize cluster % 256

/-- What a backspace leaves of the characters kept and of the remembered sizes; nothing changes where
no size is remembered. -/
def takeBack? (kept : List Char) : List Nat → Option (List Char × List Nat)
  | [] => some (kept, [])
  | size :: sizes => (dropBytes? size kept).map (·, sizes)

/-- What clusters leave after `kept`, which is read backwards; `sizes` are the remembered sizes of
the clusters that can be taken back, the last one first. -/
def edit? (kept : List Char) (sizes : List Nat) : List (List Char) → Option (List Char)
  | [] => some kept.reverse
  | cluster :: rest =>
    if cluster = backspace then
      (takeBack? kept sizes).bind fun left => edit? left.1 left.2 rest
    else edit? (cluster.reverse ++ kept) (rememberedSize cluster :: sizes) rest

/-- A text with its backspaces carried out. -/
def applyBackspaces? (s : String) : Option String :=
  (edit? [] [] (clusters s.toList)).map String.ofList

end CommandConsole.Text
