import LiteralAudit.Regex.Syntax
import LiteralAudit.Text.Blank
import LiteralAudit.Text.Digits

/-!
# Escapes in regular expressions

Reading what a backslash starts. A reader takes the text that is left and gives what it read with
the text after it, or nothing when the pattern is not valid. In a verbose pattern blanks and
comments may stand inside an escape.
-/

namespace LiteralAudit.Regex

def skipComments : (inComment : Bool) → List Char → List Char
  | _, [] => []
  | true, character :: rest => skipComments (character != '\n') rest
  | false, character :: rest =>
      if Text.isBlank character then skipComments false rest
      else if character = '#' then skipComments true rest
      else character :: rest

/-- Skips what a verbose pattern allows between its parts. -/
def skip (verbose : Bool) (rest : List Char) : List Char :=
  if verbose then skipComments false rest else rest

def isMeta (character : Char) : Bool :=
  ['\\', '.', '+', '*', '?', '(', ')', '|', '[', ']', '\x7b', '\x7d', '^', '$', '#', '&', '-',
    '~'].contains character

/-- Characters that may stand behind a backslash for themselves. -/
def isEscapable (character : Char) : Bool :=
  isMeta character ||
    (decide (character.toNat < 128) && !character.isAlphanum && character != '<' &&
      character != '>')

def literalOfCode? (code : Nat) (isByte : Bool) : Option LiteralChar :=
  if code.isValidChar then some ⟨code, isByte⟩ else none

def hexDigits (verbose : Bool) : Nat → List Char → Option (List Char × List Char)
  | 0, rest => some ([], rest)
  | _ + 1, [] => none
  | count + 1, digit :: rest =>
      if Digits.isHex digit then
        (hexDigits verbose count (skip verbose rest)).map fun (digits, after) =>
          (digit :: digits, after)
      else none

def untilBrace (verbose : Bool) : Nat → List Char → Option (List Char × List Char)
  | 0, _ => none
  | bound + 1, rest =>
      match skip verbose rest with
      | [] => none
      | character :: after =>
          if character = '\x7d' then some ([], after)
          else
            (untilBrace verbose bound after).map fun (content, further) =>
              (character :: content, further)

/-- Reads a character that is written by its code: so many digits, or any number between braces. -/
def hexLiteral (verbose : Bool) (count : Nat) (rest : List Char) :
    Option (LiteralChar × List Char) :=
  match skip verbose rest with
  | '\x7b' :: after => do
      let (digits, further) ← untilBrace verbose (after.length + 1) after
      if digits.isEmpty || !digits.all Digits.isHex then none
      else
        let character ← literalOfCode? (Digits.hexNumber digits) false
        return (character, skip verbose further)
  | after => do
      let (digits, further) ← hexDigits verbose count after
      let character ← literalOfCode? (Digits.hexNumber digits) (count == 2)
      return (character, further)

def cutAt? (mark : List Char) : List Char → Option (List Char × List Char)
  | [] => none
  | character :: rest =>
      match mark.isPrefixOf? (character :: rest) with
      | some after => some ([], after)
      | none => (cutAt? mark rest).map fun (before, after) => (character :: before, after)

/-- The class that stands between the braces of an escape, where `negated` says whether the escape
asks for the characters outside of it. An inequality is a negation of its own: in a negated escape
it asks for the characters that have the value. -/
def propertyClass (negated : Bool) (content : List Char) : Primitive :=
  match cutAt? ['!', '='] content with
  | some (property, value) => .property (.valued property value) !negated
  | none =>
      match [[':'], ['=']].findSome? (cutAt? · content) with
      | some (property, value) => .property (.valued property value) negated
      | none => .property (.named content) negated

/-- Reads the name of a Unicode class: one letter, or a query between braces. -/
def unicodeClass (verbose negated : Bool) (rest : List Char) : Option (Primitive × List Char) :=
  match skip verbose rest with
  | [] => none
  | '\x7b' :: after => do
      let (content, further) ← untilBrace verbose (after.length + 1) after
      return (propertyClass negated content, further)
  | letter :: after =>
      if letter = '\\' then none
      else some (.property (.named [letter]) negated, skip verbose after)

def wordAnchor? (name : List Char) : Option Anchor :=
  match String.ofList name with
  | "start" => some .wordStart
  | "end" => some .wordEnd
  | "start-half" => some .wordStartHalf
  | "end-half" => some .wordEndHalf
  | _ => none

def isAnchorName (character : Char) : Bool :=
  character.isAlpha || character == '-'

/-- Reads what may follow the escape of a word boundary: the name of a condition between braces.
Braces that start with another character belong to a repetition. -/
def wordBoundary (verbose : Bool) (rest : List Char) : Option (Anchor × List Char) :=
  match rest with
  | '\x7b' :: after =>
      match skip verbose after with
      | [] => none
      | first :: _ =>
          if isAnchorName first then do
            let (name, further) ← untilBrace verbose (after.length + 1) after
            let condition ← wordAnchor? name
            return (condition, further)
          else some (.wordBoundary, rest)
  | _ => some (.wordBoundary, rest)

/-- Escapes of one letter that stand for a character. -/
def controlEscape? (letter : Char) : Option Nat :=
  match letter with
  | 'a' => some 0x07
  | 'f' => some 0x0C
  | 't' => some 0x09
  | 'n' => some 0x0A
  | 'r' => some 0x0D
  | 'v' => some 0x0B
  | _ => none

def escape (verbose : Bool) : List Char → Option (Primitive × List Char)
  | [] => none
  | letter :: rest =>
      match letter with
      | 'x' => (hexLiteral verbose 2 rest).map fun (found, after) => (.literal found, after)
      | 'u' => (hexLiteral verbose 4 rest).map fun (found, after) => (.literal found, after)
      | 'U' => (hexLiteral verbose 8 rest).map fun (found, after) => (.literal found, after)
      | 'p' => unicodeClass verbose false rest
      | 'P' => unicodeClass verbose true rest
      | 'd' => some (.letterClass .digit false, rest)
      | 'D' => some (.letterClass .digit true, rest)
      | 's' => some (.letterClass .space false, rest)
      | 'S' => some (.letterClass .space true, rest)
      | 'w' => some (.letterClass .word false, rest)
      | 'W' => some (.letterClass .word true, rest)
      | 'A' => some (.anchor .textStart, rest)
      | 'z' => some (.anchor .textEnd, rest)
      | 'b' => (wordBoundary verbose rest).map fun (found, after) => (.anchor found, after)
      | 'B' => some (.anchor .notWordBoundary, rest)
      | '<' => some (.anchor .wordStart, rest)
      | '>' => some (.anchor .wordEnd, rest)
      | _ =>
          if isEscapable letter then some (.literal ⟨letter.toNat, false⟩, rest)
          else (controlEscape? letter).map fun code => (.literal ⟨code, false⟩, rest)

end LiteralAudit.Regex
