import CommandConsole.Text.ClusterClass

/-!
# Clusters

A text falls into extended grapheme clusters, the units that a reader takes for single characters.
Two neighbours stand in one cluster if their classes say so; three rules look further back than the
neighbour, to the consonant of a conjunct, to the pictograph before a joiner and to the halves of
flags.
-/
namespace CommandConsole.Text

/-- What was read, backwards, ends in a consonant, extenders and at least one linker among them, or
would if one was `linked` already. -/
def endsInConjunct (linked : Bool) : List ClusterClass → Bool
  | .consonant :: _ => linked
  | .linker :: earlier => endsInConjunct true earlier
  | .extender :: earlier | .joiner :: earlier => endsInConjunct linked earlier
  | _ => false

/-- What was read, backwards, ends in a pictograph and extenders. -/
def endsInPictograph : List ClusterClass → Bool
  | .pictograph :: _ => true
  | .extender :: earlier | .linker :: earlier | .nonJoiner :: earlier => endsInPictograph earlier
  | _ => false

/-- What was read, backwards, ends in half a flag that lacks its other half. -/
def endsInHalfFlag : List ClusterClass → Bool
  | .regional :: earlier => !endsInHalfFlag earlier
  | _ => false

/-- A character of the class `after` belongs to the cluster of the character before it; `before` are
the classes of all that was read, backwards. -/
def joins (before : List ClusterClass) (after : ClusterClass) : Bool :=
  match before, after with
  | [], _ => false
  | .carriageReturn :: _, .lineFeed => true
  | .carriageReturn :: _, _ | .lineFeed :: _, _ | .control :: _, _ => false
  | _, .carriageReturn | _, .lineFeed | _, .control => false
  | .leading :: _, .leading | .leading :: _, .vowel => true
  | .leading :: _, .openSyllable | .leading :: _, .closedSyllable => true
  | .openSyllable :: _, .vowel | .openSyllable :: _, .trailing => true
  | .vowel :: _, .vowel | .vowel :: _, .trailing => true
  | .closedSyllable :: _, .trailing | .trailing :: _, .trailing => true
  | _, .extender | _, .linker | _, .nonJoiner | _, .joiner | _, .spacingMark => true
  | .prepended :: _, _ => true
  | before, .consonant => endsInConjunct false before
  | .joiner :: earlier, .pictograph => endsInPictograph earlier
  | before, .regional => endsInHalfFlag before
  | _, _ => false

/-- The clusters of a text, `before` being the classes of what was read and `current` the cluster at
hand, both backwards. -/
def clustersFrom (before : List ClusterClass) (current : List Char) : List Char → List (List Char)
  | [] => if current = [] then [] else [current.reverse]
  | c :: cs =>
    if current = [] ∨ joins before (.of c) then
      clustersFrom (.of c :: before) (c :: current) cs
    else current.reverse :: clustersFrom (.of c :: before) [c] cs

/-- The clusters of a text. -/
def clusters (cs : List Char) : List (List Char) := clustersFrom [] [] cs

end CommandConsole.Text
