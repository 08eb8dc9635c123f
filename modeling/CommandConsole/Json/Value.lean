import CommandConsole.Json.Token

/-!
# JSON values

A value is a tree over the tokens. The members of an object are kept in order, repeats included.
`ofTokens?` reads the tree that tokens spell, with the open arrays and objects on a stack; it
accepts exactly one value and nothing after it. `tokens` writes a tree.
-/
namespace CommandConsole.Json

/-- A JSON value. A string, or the key of a member, has no content if it is not a text. -/
inductive Value
  | null
  | bool (value : Bool)
  | number (literal : String)
  | string (content : Option String)
  | array (items : List Value)
  | object (members : List (Option String × Value))

namespace Value

/-- What stands around a value that is being read, with what came before it backwards. -/
inductive Frame
  | item (before : List Value)
  | member (before : List (Option String × Value)) (key : Option String)

/-- What has to come next. -/
inductive Expected
  | value
  /-- The first item of an array, or its end. -/
  | firstItem
  /-- The first key of an object, or its end. -/
  | firstKey
  /-- The key of a member after these. -/
  | key (before : List (Option String × Value))
  /-- The colon after a key. -/
  | colon (before : List (Option String × Value)) (key : Option String)
  /-- A comma or an end, after this value. -/
  | rest (value : Value)

/-- Reads the value, and all that stands around it, from the tokens that follow. -/
def read : Expected → List Frame → List Token → Option Value
  | .rest v, [], [] => some v
  | _, _, [] => none
  | .value, stack, token :: tokens =>
    match token with
    | .null => read (.rest .null) stack tokens
    | .bool b => read (.rest (.bool b)) stack tokens
    | .number literal => read (.rest (.number literal)) stack tokens
    | .string content => read (.rest (.string content)) stack tokens
    | .openBracket => read .firstItem stack tokens
    | .openBrace => read .firstKey stack tokens
    | _ => none
  | .firstItem, stack, token :: tokens =>
    match token with
    | .closeBracket => read (.rest (.array [])) stack tokens
    | .null => read (.rest .null) (.item [] :: stack) tokens
    | .bool b => read (.rest (.bool b)) (.item [] :: stack) tokens
    | .number literal => read (.rest (.number literal)) (.item [] :: stack) tokens
    | .string content => read (.rest (.string content)) (.item [] :: stack) tokens
    | .openBracket => read .firstItem (.item [] :: stack) tokens
    | .openBrace => read .firstKey (.item [] :: stack) tokens
    | _ => none
  | .firstKey, stack, token :: tokens =>
    match token with
    | .closeBrace => read (.rest (.object [])) stack tokens
    | .string key => read (.colon [] key) stack tokens
    | _ => none
  | .key before, stack, token :: tokens =>
    match token with
    | .string key => read (.colon before key) stack tokens
    | _ => none
  | .colon before key, stack, token :: tokens =>
    match token with
    | .colon => read .value (.member before key :: stack) tokens
    | _ => none
  | .rest v, stack, token :: tokens =>
    match stack, token with
    | .item before :: stack, .comma => read .value (.item (v :: before) :: stack) tokens
    | .item before :: stack, .closeBracket =>
      read (.rest (.array (v :: before).reverse)) stack tokens
    | .member before key :: stack, .comma => read (.key ((key, v) :: before)) stack tokens
    | .member before key :: stack, .closeBrace =>
      read (.rest (.object ((key, v) :: before).reverse)) stack tokens
    | _, _ => none

/-- The value that tokens spell. -/
def ofTokens? (tokens : List Token) : Option Value := read .value [] tokens

/-- The value that a text spells. -/
def parse? (text : String) : Option Value := (tokens? text).bind ofTokens?

mutual

/-- The tokens of a value. -/
def tokens : Value → List Token
  | null => [.null]
  | bool b => [.bool b]
  | number literal => [.number literal]
  | string content => [.string content]
  | array items => .openBracket :: [.comma].intercalate (itemTokens items) ++ [.closeBracket]
  | object members => .openBrace :: [.comma].intercalate (memberTokens members) ++ [.closeBrace]

/-- The tokens of each item of an array. -/
def itemTokens : List Value → List (List Token)
  | [] => []
  | v :: rest => tokens v :: itemTokens rest

/-- The tokens of each member of an object. -/
def memberTokens : List (Option String × Value) → List (List Token)
  | [] => []
  | member :: rest => keyTokens member :: memberTokens rest

/-- The tokens of a member of an object. -/
def keyTokens : Option String × Value → List Token
  | (key, v) => .string key :: .colon :: tokens v

end

theorem itemTokens_eq (items : List Value) : itemTokens items = items.map tokens := by
  induction items with
  | nil => rfl
  | cons v items ih => rw [itemTokens, ih, List.map_cons]

theorem memberTokens_eq (members : List (Option String × Value)) :
    memberTokens members = members.map keyTokens := by
  induction members with
  | nil => rfl
  | cons member members ih => rw [memberTokens, ih, List.map_cons]

theorem keyTokens_eq (member : Option String × Value) :
    keyTokens member = .string member.1 :: .colon :: member.2.tokens := by
  obtain ⟨key, v⟩ := member
  rw [keyTokens]

/-- The first item of an array is read like any value that the array stands around. -/
theorem read_firstItem (v : Value) (stack : List Frame) (rest : List Token) :
    read .firstItem stack (v.tokens ++ rest) =
      read .value (.item [] :: stack) (v.tokens ++ rest) := by
  cases v <;> simp [tokens, read]

/-- The value without any blanks between its tokens. -/
def render (v : Value) : String := String.ofList (v.tokens.flatMap Token.spell)

end Value
end CommandConsole.Json
