/-!
# Lines

A line ends at a line feed or where the input ends. A line that a line feed ended loses that line
feed and one carriage return right before it; the last line, if nothing ended it, is kept as it
stands. Input that ends in a line feed has no empty line after it, and empty input has no lines.

The rule is the same for characters and for bytes, so `cutLines` is stated for any element type
with two marks.
-/
namespace CommandConsole.Text

variable {α : Type} [DecidableEq α]

/-- A line read backwards, without the carriage return that stood right before its end. -/
def dropReturn (ret : α) : List α → List α
  | [] => []
  | c :: cs => if c = ret then cs else c :: cs

/-- The lines of an input, `current` being what was read of the line at hand, backwards. -/
def cutLinesFrom (feed ret : α) : List α → List α → List (List α)
  | [], [] => []
  | c :: current, [] => [(c :: current).reverse]
  | current, c :: cs =>
    if c = feed then (dropReturn ret current).reverse :: cutLinesFrom feed ret [] cs
    else cutLinesFrom feed ret (c :: current) cs

/-- The lines of an input over an alphabet with a line feed and a carriage return. -/
def cutLines (feed ret : α) (input : List α) : List (List α) := cutLinesFrom feed ret [] input

/-- The lines of a text. -/
def lines (s : String) : List String := (cutLines '\n' '\r' s.toList).map String.ofList

/-- Lines do not look past a line feed. -/
theorem cutLinesFrom_append_feed (feed ret : α) (current a b : List α) :
    cutLinesFrom feed ret current (a ++ feed :: b) =
      cutLinesFrom feed ret current (a ++ [feed]) ++ cutLinesFrom feed ret [] b := by
  induction a generalizing current with
  | nil => simp [cutLinesFrom]
  | cons c a ih =>
    by_cases h : c = feed
    · simp [cutLinesFrom, h, ih]
    · simp [cutLinesFrom, h, ih]

end CommandConsole.Text
