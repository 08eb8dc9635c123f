import CommandConsole.Text.Escaped

/-!
# Quoted text and lists of it

A quoted text stands between double quotes. The double quote, the backslash, NUL, tab, line feed
and carriage return are written with a backslash; every other character that cannot be shown as
itself is written by its code point, in lowercase hexadecimal between braces. A list is written on
one line or laid out with one item a line.
-/
namespace CommandConsole.Text

/-- The lowercase hexadecimal digits of a number, without leading zeros. -/
def hexDigits (n : Nat) : List Char := Nat.toDigits 16 n

/-- A character inside quotes. -/
def quoteChar (c : Char) : List Char :=
  match c with
  | '"' => ['\\', '"']
  | '\\' => ['\\', '\\']
  | '\x00' => ['\\', '0']
  | '\t' => ['\\', 't']
  | '\n' => ['\\', 'n']
  | '\r' => ['\\', 'r']
  | c => if isEscaped c then ['\\', 'u', '\x7b'] ++ hexDigits c.toNat ++ ['\x7d'] else [c]

/-- A text between double quotes. -/
def quoted (s : String) : String :=
  String.ofList ('"' :: s.toList.flatMap quoteChar ++ ['"'])

/-- A list on one line. -/
def bracketed (items : List String) : String := "[" ++ ", ".intercalate items ++ "]"

/-- A text with every one of its lines moved four places to the right. -/
def indented (s : String) : String :=
  String.ofList ("    ".toList ++ s.toList.flatMap fun c =>
    if c = '\n' then "\n    ".toList else [c])

/-- A list with one item a line, moved to the right and followed by a comma. -/
def laidOut (items : List String) : String :=
  match items with
  | [] => "[]"
  | items => "[\n" ++ String.join (items.map fun item => indented item ++ ",\n") ++ "]"

end CommandConsole.Text
