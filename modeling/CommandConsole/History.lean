/-!
# History

The lines that were entered, so that they can be called up again. Empty lines are not kept, nor is
a line that repeats the one before; when the history is full, the oldest line makes room.
-/
namespace CommandConsole

/-- The last lines entered. -/
structure History where
  /-- How many lines are kept. -/
  limit : Nat
  /-- The lines, the oldest first. -/
  entries : List String := []
  /-- There are never more lines than may be kept. -/
  within : entries.length ≤ limit := by simp

namespace History

/-- The history after a line was entered. -/
def add (h : History) (line : String) : History :=
  if hl : h.limit = 0 then h
  else if line = "" ∨ h.entries.getLast? = some line then h
  else
    { h with
      entries := h.entries.drop (h.entries.length + 1 - h.limit) ++ [line]
      within := by simp; omega }

end History
end CommandConsole
