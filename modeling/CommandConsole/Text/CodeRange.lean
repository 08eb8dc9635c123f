/-!
# Ranges of code points

A property of characters is kept as the list of the ranges of code points that have it, in
ascending order, both ends included.
-/
namespace CommandConsole.Text

/-- The code point of a character falls into one of the ranges. -/
def inRanges (ranges : List (Nat × Nat)) (c : Char) : Bool :=
  ranges.any fun range => range.1 ≤ c.toNat && c.toNat ≤ range.2

end CommandConsole.Text
