import CommandConsole.Text.Blank

/-!
# Lines of input

A line names a command and gives its parameters. There is no quoting: the line is trimmed and cut
at every single space, so two spaces in a row have an empty parameter between them, and a tab cuts
nothing.
-/
namespace CommandConsole

/-- A line of input, taken apart. -/
structure Line where
  /-- The first token, as typed. -/
  command : String
  /-- The tokens after it. -/
  parameters : List String
  deriving DecidableEq, Repr

namespace Line

/-- The tokens of a line: the command and its parameters. -/
def tokens (line : Line) : List String := line.command :: line.parameters

/-- The line with these tokens. -/
def ofTokens : List String → Line
  | [] => ⟨"", []⟩
  | command :: parameters => ⟨command, parameters⟩

/-- A raw line, trimmed and cut at every space. -/
def parse (raw : String) : Line :=
  ofTokens (((Text.strip raw.toList).splitOn ' ').map String.ofList)

/-- Nothing was typed. -/
def isEmpty (line : Line) : Bool := line.command == "" && line.parameters.isEmpty

theorem tokens_ofTokens {tokens : List String} (h : tokens ≠ []) :
    (ofTokens tokens).tokens = tokens := by
  cases tokens with
  | nil => exact absurd rfl h
  | cons => rfl

/-- The tokens of a raw line are its pieces between spaces. -/
theorem tokens_parse (raw : String) :
    (parse raw).tokens = ((Text.strip raw.toList).splitOn ' ').map String.ofList :=
  tokens_ofTokens (by simp [List.splitOn_ne_nil])

/-- Where nothing was typed, the only token is the empty one. -/
theorem isEmpty_iff {line : Line} : line.isEmpty = true ↔ line.tokens = [""] := by
  simp [isEmpty, tokens]

/-- The tokens of a raw line, joined by spaces again, are the trimmed line. -/
theorem intercalate_tokens_parse (raw : String) :
    [' '].intercalate ((parse raw).tokens.map String.toList) = Text.strip raw.toList := by
  rw [tokens_parse, List.map_map]
  have hinverse : String.toList ∘ String.ofList = id := funext fun _ => String.toList_ofList
  rw [hinverse, List.map_id, List.intercalate_splitOn]

/-- Nothing was typed on a raw line exactly when nothing is left of it once it is trimmed. -/
theorem isEmpty_parse_iff (raw : String) : (parse raw).isEmpty = true ↔ Text.trim raw = "" := by
  have htrim : Text.trim raw = "" ↔ Text.strip raw.toList = [] := by
    rw [← String.toList_inj, Text.toList_trim, String.toList_empty]
  rw [isEmpty_iff, htrim]
  constructor
  · intro h
    rw [← intercalate_tokens_parse, h]
    rfl
  · intro h
    rw [tokens_parse, h]
    rfl

theorem isEmpty_parse_eq_false_iff (raw : String) :
    (parse raw).isEmpty = false ↔ Text.trim raw ≠ "" := by
  rw [← Bool.not_eq_true, isEmpty_parse_iff]

end Line
end CommandConsole
