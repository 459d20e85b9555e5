import LiteralAudit.Text.Digits

/-!
# Places in YAML texts

A cursor is the text that is left, with the number of characters before it and its line and column,
which count from zero.
-/

namespace LiteralAudit.Yaml

def isBreak (character : Char) : Bool :=
  character == '\n' || character == '\r' || character == '\u0085' || character == '\u2028' ||
    character == '\u2029'

def isBlank (character : Char) : Bool :=
  character == ' ' || character == '\t'

/-- Whether a text starts with a blank or the end of a line, or is at its end. -/
def startsBlank : List Char → Bool
  | [] => true
  | character :: _ => isBlank character || isBreak character

def startsBreak : List Char → Bool
  | [] => true
  | character :: _ => isBreak character

def isAllowed (character : Char) : Bool :=
  let code := character.toNat
  code == 0x09 || code == 0x0A || code == 0x0D || (decide (0x20 ≤ code) && decide (code ≤ 0x7E)) ||
    code == 0x85 || (decide (0xA0 ≤ code) && decide (code ≤ 0xFFFD)) || decide (0x10000 ≤ code)

def isNameCharacter (character : Char) : Bool :=
  character.isAlphanum || character == '_' || character == '-'

/-- The mark that may stand before a line. -/
def byteOrderMark : Char := '\uFEFF'

structure Cursor where
  rest : List Char
  index : Nat
  line : Nat
  column : Nat
  deriving Repr

namespace Cursor

def start (text : List Char) : Cursor := ⟨text, 0, 0, 0⟩

/-- Goes on by one character of a line. -/
def skip (cursor : Cursor) : Cursor :=
  { cursor with
    rest := cursor.rest.drop 1, index := cursor.index + 1, column := cursor.column + 1 }

def skipMany (cursor : Cursor) (count : Nat) : Cursor :=
  { cursor with
    rest := cursor.rest.drop count, index := cursor.index + count,
    column := cursor.column + count }

/-- Goes on by the end of a line, if the cursor is at one. -/
def skipBreak (cursor : Cursor) : Cursor :=
  match cursor.rest with
  | '\r' :: '\n' :: further => ⟨further, cursor.index + 2, cursor.line + 1, 0⟩
  | character :: further =>
      if isBreak character then ⟨further, cursor.index + 1, cursor.line + 1, 0⟩ else cursor
  | [] => cursor

/-- The text of the end of a line where the cursor is: most ends of lines are written alike. -/
def breakText (cursor : Cursor) : List Char :=
  match cursor.rest with
  | '\u2028' :: _ => ['\u2028']
  | '\u2029' :: _ => ['\u2029']
  | character :: _ => if isBreak character then ['\n'] else []
  | [] => []

def takeWhile (cursor : Cursor) (kind : Char → Bool) : List Char × Cursor :=
  let taken := cursor.rest.takeWhile kind
  (taken, cursor.skipMany taken.length)

def skipBlanks (cursor : Cursor) : Cursor :=
  (cursor.takeWhile isBlank).2

def skipComment (cursor : Cursor) : Cursor :=
  if cursor.rest.head? == some '#' then (cursor.takeWhile (!isBreak ·)).2 else cursor

/-- Skips blanks and a comment and then the end of the line, if nothing else stands before it. -/
def skipLineEnd? (cursor : Cursor) : Option Cursor :=
  let next := cursor.skipBlanks.skipComment
  if startsBreak next.rest then some next.skipBreak else none

/-- Whether the cursor is at the start of a line, before a mark that starts or ends documents. -/
def atDocumentMark (cursor : Cursor) : Bool :=
  cursor.column == 0 &&
    match cursor.rest with
    | '-' :: '-' :: '-' :: further => startsBlank further
    | '.' :: '.' :: '.' :: further => startsBlank further
    | _ => false

end Cursor

end LiteralAudit.Yaml
