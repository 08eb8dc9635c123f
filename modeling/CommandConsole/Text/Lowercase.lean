import CommandConsole.Text.LetterCase

/-!
# Lowercase

Lowercase is the full mapping: every letter with a lowercase form is replaced by it, the dotted
capital I by an i and a combining dot, and the capital sigma by the form that its place in the word
asks for. A sigma is final if a letter stands before it and none after it, marks in between being
passed over.
-/
namespace CommandConsole.Text

/-- The first character that case does not look through is a letter with case. -/
def meetsLetter : List Char → Bool
  | [] => false
  | c :: cs => if isCaseIgnorable c then meetsLetter cs else isCased c

/-- The lowercase form of a capital sigma between `before`, read backwards, and `after`. -/
def lowerSigma (before after : List Char) : Char :=
  if meetsLetter before && !meetsLetter after then 'ς' else 'σ'

/-- The lowercase form of a character other than the capital sigma. -/
def lowerChar (c : Char) : List Char :=
  if c.toNat < 0x80 then [c.toLower]
  else if c = 'İ' then ['i', '\u0307']
  else match caseRuns.find? (·.contains c) with
    | some run => [run.lower c]
    | none => [c]

/-- The lowercase form of what follows `before`, which is read backwards. -/
def lowerFrom (before : List Char) : List Char → List Char
  | [] => []
  | c :: cs =>
    (if c = 'Σ' then [lowerSigma before cs] else lowerChar c) ++ lowerFrom (c :: before) cs

/-- A text with every letter in lowercase. -/
def lowercase (s : String) : String := String.ofList (lowerFrom [] s.toList)

@[simp] theorem toList_lowercase (s : String) : (lowercase s).toList = lowerFrom [] s.toList :=
  String.toList_ofList

end CommandConsole.Text
