/-!
# JSON tokens

A JSON text is a sequence of tokens with blanks between them, the blanks being space, tab, line
feed and carriage return. `scan` reads the tokens of a text character by character and refuses
anything that strict JSON does not know; `spell` writes a token.

A string may write a character as one or two escaped UTF-16 units. Half of such a pair stands for no
character; a string that holds one is a token all the same, but it has no content.
-/
namespace CommandConsole.Json

/-- The smallest parts of a JSON text. -/
inductive Token
  | openBrace
  | closeBrace
  | openBracket
  | closeBracket
  | colon
  | comma
  | null
  | bool (value : Bool)
  /-- A number, as it is written. -/
  | number (literal : String)
  /-- A string; it has no content if it holds half a pair of units. -/
  | string (content : Option String)
  deriving DecidableEq, Repr

/-! ## Strings -/

/-- A part of a string: a character that stands for itself or is escaped by a letter, or an escaped
UTF-16 unit. -/
inductive Piece
  | char (c : Char)
  | unit (value : Nat)
  deriving DecidableEq, Repr

/-- The first half of a pair of units. -/
def isHighUnit (n : Nat) : Bool := 0xD800 ≤ n && n < 0xDC00

/-- The second half of a pair of units. -/
def isLowUnit (n : Nat) : Bool := 0xDC00 ≤ n && n < 0xE000

/-- The character that a pair of units stands for. -/
def pairedChar (high low : Nat) : Char :=
  Char.ofNat (0x10000 + (high - 0xD800) * 0x400 + (low - 0xDC00))

/-- The characters that the parts of a string stand for. -/
def assemble : List Piece → Option (List Char)
  | [] => some []
  | .char c :: pieces => (assemble pieces).map (c :: ·)
  | .unit n :: pieces =>
    if isHighUnit n then
      match pieces with
      | .unit m :: pieces =>
        if isLowUnit m then (assemble pieces).map (pairedChar n m :: ·) else none
      | _ => none
    else if isLowUnit n then none
    else (assemble pieces).map (Char.ofNat n :: ·)

/-- The character that a letter after a backslash stands for. -/
def escapedChar? : Char → Option Char
  | '"' => some '"'
  | '\\' => some '\\'
  | '/' => some '/'
  | 'b' => some '\x08'
  | 'f' => some '\x0c'
  | 'n' => some '\n'
  | 'r' => some '\r'
  | 't' => some '\t'
  | _ => none

/-- The value of a hexadecimal digit of either case. -/
def hexValue? (c : Char) : Option Nat :=
  if '0' ≤ c ∧ c ≤ '9' then some (c.toNat - '0'.toNat)
  else if 'a' ≤ c ∧ c ≤ 'f' then some (c.toNat - 'a'.toNat + 10)
  else if 'A' ≤ c ∧ c ≤ 'F' then some (c.toNat - 'A'.toNat + 10)
  else none

/-- A character inside a string: quotes, backslashes and controls are escaped, all else is not. -/
def spellChar (c : Char) : List Char :=
  match c with
  | '"' => ['\\', '"']
  | '\\' => ['\\', '\\']
  | '\x08' => ['\\', 'b']
  | '\x0c' => ['\\', 'f']
  | '\n' => ['\\', 'n']
  | '\r' => ['\\', 'r']
  | '\t' => ['\\', 't']
  | c =>
    if c.toNat < 0x20 then
      ['\\', 'u', '0', '0', Nat.digitChar (c.toNat / 16), Nat.digitChar (c.toNat % 16)]
    else [c]

/-! ## Numbers -/

/-- How far a number has been read: what was read last. -/
inductive Phase
  | sign
  /-- A zero, which no digit may follow. -/
  | zero
  | whole
  | point
  | fraction
  | exponentMark
  | exponentSign
  | exponent
  deriving DecidableEq, Repr

namespace Phase

/-- Where a number stands after one more character, if the character belongs to it. -/
def next? (phase : Phase) (c : Char) : Option Phase :=
  match phase with
  | sign => if c = '0' then some zero else if c.isDigit then some whole else none
  | zero => if c = '.' then some point else if c = 'e' ∨ c = 'E' then some exponentMark else none
  | whole =>
    if c.isDigit then some whole
    else if c = '.' then some point
    else if c = 'e' ∨ c = 'E' then some exponentMark
    else none
  | point => if c.isDigit then some fraction else none
  | fraction =>
    if c.isDigit then some fraction else if c = 'e' ∨ c = 'E' then some exponentMark else none
  | exponentMark =>
    if c.isDigit then some exponent else if c = '+' ∨ c = '-' then some exponentSign else none
  | exponentSign | exponent => if c.isDigit then some exponent else none

/-- What was read so far is a number. -/
def isComplete : Phase → Bool
  | zero | whole | fraction | exponent => true
  | sign | point | exponentMark | exponentSign => false

end Phase

/-! ## Scanning -/

/-- What is being read. What was read of it so far is kept backwards. -/
inductive Mode
  | between
  /-- A word, of which the given characters are still to come. -/
  | word (rest : List Char) (token : Token)
  | number (read : List Char) (phase : Phase)
  | string (read : List Piece)
  /-- A string, right after a backslash. -/
  | escape (read : List Piece)
  /-- A string, in an escaped unit of which so many digits are still to come. -/
  | hex (read : List Piece) (left : Nat) (value : Nat)
  deriving DecidableEq, Repr

/-- Blanks between tokens. -/
def isBlank (c : Char) : Bool := c == ' ' || c == '\t' || c == '\n' || c == '\r'

/-- What a character between tokens is or starts. -/
def start? (c : Char) : Option (List Token × Mode) :=
  if isBlank c then some ([], .between)
  else if c = '\x7b' then some ([.openBrace], .between)
  else if c = '\x7d' then some ([.closeBrace], .between)
  else if c = '[' then some ([.openBracket], .between)
  else if c = ']' then some ([.closeBracket], .between)
  else if c = ':' then some ([.colon], .between)
  else if c = ',' then some ([.comma], .between)
  else if c = '"' then some ([], .string [])
  else if c = 'n' then some ([], .word ['u', 'l', 'l'] .null)
  else if c = 't' then some ([], .word ['r', 'u', 'e'] (.bool true))
  else if c = 'f' then some ([], .word ['a', 'l', 's', 'e'] (.bool false))
  else if c = '-' then some ([], .number [c] .sign)
  else if c = '0' then some ([], .number [c] .zero)
  else if c.isDigit then some ([], .number [c] .whole)
  else none

/-- The number whose characters were read. -/
def numberRead (read : List Char) : Token := .number (String.ofList read.reverse)

/-- The string whose parts were read. -/
def stringRead (read : List Piece) : Token := .string ((assemble read.reverse).map String.ofList)

/-- The tokens of a text. -/
def scan : Mode → List Char → Option (List Token)
  | .between, [] => some []
  | .number read phase, [] => if phase.isComplete then some [numberRead read] else none
  | _, [] => none
  | .between, c :: cs =>
    match start? c with
    | some (tokens, mode) => (scan mode cs).map (tokens ++ ·)
    | none => none
  | .word rest token, c :: cs =>
    match rest with
    | [] => none
    | [last] => if c = last then (scan .between cs).map (token :: ·) else none
    | next :: rest => if c = next then scan (.word rest token) cs else none
  | .number read phase, c :: cs =>
    match phase.next? c with
    | some phase => scan (.number (c :: read) phase) cs
    | none =>
      if phase.isComplete then
        match start? c with
        | some (tokens, mode) => (scan mode cs).map (numberRead read :: tokens ++ ·)
        | none => none
      else none
  | .string read, c :: cs =>
    if c = '"' then (scan .between cs).map (stringRead read :: ·)
    else if c = '\\' then scan (.escape read) cs
    else if c.toNat < 0x20 then none
    else scan (.string (.char c :: read)) cs
  | .escape read, c :: cs =>
    if c = 'u' then scan (.hex read 4 0) cs
    else match escapedChar? c with
      | some e => scan (.string (.char e :: read)) cs
      | none => none
  | .hex read left value, c :: cs =>
    match hexValue? c with
    | none => none
    | some digit =>
      if left ≤ 1 then scan (.string (.unit (value * 16 + digit) :: read)) cs
      else scan (.hex read (left - 1) (value * 16 + digit)) cs

/-- Between two tokens, what the next character starts decides how to go on. -/
theorem scan_between_cons (c : Char) (cs : List Char) :
    scan .between (c :: cs) =
      (start? c).bind fun started => (scan started.2 cs).map (started.1 ++ ·) := by
  rw [scan]
  cases start? c with
  | none => rfl
  | some started => rfl

/-- The tokens of a text, if it can be cut into tokens. -/
def tokens? (text : String) : Option (List Token) := scan .between text.toList

/-- A token as it is written. -/
def Token.spell : Token → List Char
  | openBrace => ['\x7b']
  | closeBrace => ['\x7d']
  | openBracket => ['[']
  | closeBracket => [']']
  | colon => [':']
  | comma => [',']
  | null => "null".toList
  | bool true => "true".toList
  | bool false => "false".toList
  | number literal => literal.toList
  | string (some content) => '"' :: content.toList.flatMap spellChar ++ ['"']
  | string none => "\"\\ud800\"".toList

end CommandConsole.Json
