import LiteralAudit.Text.Digits

/-!
# JSON documents

Documents as this library writes them: the only numbers are natural numbers, and the members of an
object keep their order. A document is written on one line, or laid out with one item a line and an
indent of two blanks a level.
-/

namespace LiteralAudit

/-- A document to be written. -/
inductive Json where
  | null
  | bool (value : Bool)
  | number (value : Nat)
  | text (value : String)
  | list (items : List Json)
  | object (members : List (String × Json))
  deriving Repr

namespace Json

/-- A text, or null when there is none. -/
def ofText? : Option String → Json
  | none => .null
  | some value => .text value

/-- One character of a text: quotes, backslashes and control characters are escaped. -/
def escape (character : Char) : List Char :=
  if character = '"' then ['\\', '"']
  else if character = '\\' then ['\\', '\\']
  else if character = '\n' then ['\\', 'n']
  else if character = '\t' then ['\\', 't']
  else if character = '\r' then ['\\', 'r']
  else if character.toNat = 8 then ['\\', 'b']
  else if character.toNat = 12 then ['\\', 'f']
  else if character.toNat < 32 then
    ['\\', 'u', '0', '0', Digits.hexDigit (character.toNat / 16),
      Digits.hexDigit (character.toNat % 16)]
  else [character]

def writeText (value : String) : List Char :=
  '"' :: value.toList.flatMap escape ++ ['"']

def writeNumber (value : Nat) : List Char :=
  Nat.toDigits 10 value

def writeBool (value : Bool) : List Char :=
  if value then ['t', 'r', 'u', 'e'] else ['f', 'a', 'l', 's', 'e']

def nullWord : List Char :=
  ['n', 'u', 'l', 'l']

mutual

/-- A document on one line, without blanks between its parts. -/
def write : Json → List Char
  | .null => nullWord
  | .bool value => writeBool value
  | .number value => writeNumber value
  | .text value => writeText value
  | .list [] => ['[', ']']
  | .list (first :: further) => '[' :: write first ++ writeItems further
  | .object [] => ['\x7b', '\x7d']
  | .object ((name, value) :: further) =>
      '\x7b' :: writeText name ++ ':' :: write value ++ writeMembers further

/-- The items after the first one, and the bracket that closes the list. -/
def writeItems : List Json → List Char
  | [] => [']']
  | item :: further => ',' :: write item ++ writeItems further

/-- The members after the first one, and the brace that closes the object. -/
def writeMembers : List (String × Json) → List Char
  | [] => ['\x7d']
  | (name, value) :: further =>
      ',' :: writeText name ++ ':' :: write value ++ writeMembers further

end

/-- The start of a line at a level. -/
def newLine (level : Nat) : List Char :=
  '\n' :: List.replicate (2 * level) ' '

mutual

/-- A document laid out over lines, starting at a level. -/
def layOut (level : Nat) : Json → List Char
  | .null => nullWord
  | .bool value => writeBool value
  | .number value => writeNumber value
  | .text value => writeText value
  | .list [] => ['[', ']']
  | .list (first :: further) =>
      '[' :: newLine (level + 1) ++ layOut (level + 1) first ++ layOutItems level further
  | .object [] => ['\x7b', '\x7d']
  | .object ((name, value) :: further) =>
      '\x7b' :: newLine (level + 1) ++ writeText name ++ ':' :: ' ' :: layOut (level + 1) value ++
        layOutMembers level further

/-- The items after the first one, and the bracket that closes the list. -/
def layOutItems (level : Nat) : List Json → List Char
  | [] => newLine level ++ [']']
  | item :: further =>
      ',' :: newLine (level + 1) ++ layOut (level + 1) item ++ layOutItems level further

/-- The members after the first one, and the brace that closes the object. -/
def layOutMembers (level : Nat) : List (String × Json) → List Char
  | [] => newLine level ++ ['\x7d']
  | (name, value) :: further =>
      ',' :: newLine (level + 1) ++ writeText name ++ ':' :: ' ' :: layOut (level + 1) value ++
        layOutMembers level further

end

def compact (document : Json) : String :=
  String.ofList document.write

def pretty (document : Json) : String :=
  String.ofList (document.layOut 0)

end Json

end LiteralAudit
