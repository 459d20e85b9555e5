import LiteralAudit.Json.Basic
import LiteralAudit.Text.Utf8

/-!
# Tokens of JSON texts

A text is cut into tokens up to the first place where no token can be read. Texts between quotes are
read in two steps: first the pieces between the quotes, which is all that matters where a value is
skipped, then the characters that they stand for.
-/

namespace LiteralAudit.Json

/-- What is wrong with a text: it breaks the grammar, or it ends too early. -/
inductive Flaw where
  | malformed
  | truncated
  deriving DecidableEq, Repr

inductive Mark where
  | openList
  | closeList
  | openObject
  | closeObject
  | comma
  | colon
  deriving DecidableEq, Repr

inductive Token where
  | mark (value : Mark)
  | null
  | bool (value : Bool)
  /-- A number, unless its text is flawed. -/
  | number (text : Except Flaw (List Char))
  /-- The content of a text between quotes, unless it is flawed. -/
  | text (content : Except Flaw String)
  /-- A place where no token can be read. -/
  | broken (flaw : Flaw)

def isBlank (character : Char) : Bool :=
  character == ' ' || character == '\n' || character == '\t' || character == '\r'

def Mark.ofChar? (character : Char) : Option Mark :=
  match character with
  | '[' => some .openList
  | ']' => some .closeList
  | '\x7b' => some .openObject
  | '\x7d' => some .closeObject
  | ',' => some .comma
  | ':' => some .colon
  | _ => none

/-! ## Texts between quotes -/

/-- A piece between quotes: a character, or a code unit of sixteen bits written by its digits. -/
inductive Piece where
  | character (value : Char)
  | unit (value : Nat)
  deriving DecidableEq, Repr

def shortEscape? (letter : Char) : Option Char :=
  match letter with
  | '"' => some '"'
  | '\\' => some '\\'
  | '/' => some '/'
  | 'b' => some '\x08'
  | 'f' => some '\x0c'
  | 'n' => some '\n'
  | 'r' => some '\r'
  | 't' => some '\t'
  | _ => none

/-- How the pieces of a text end: with a quote before the rest of the text, or with a flaw. -/
abbrev TextEnd := Except Flaw (List Char)

/-- What a code escape without four digits says: the text ends inside it, or it is malformed. -/
def unitFlaw (rest : List Char) : Flaw :=
  if Utf8.byteCount (rest.take 4) < 4 then .truncated else .malformed

/-- The pieces up to the closing quote. -/
def pieces : List Char → List Piece × TextEnd
  | [] => ([], .error .truncated)
  | '"' :: rest => ([], .ok rest)
  | '\\' :: 'u' :: first :: second :: third :: fourth :: rest =>
      let digits := [first, second, third, fourth]
      if digits.all Digits.isHex then
        let (further, ending) := pieces rest
        (.unit (Digits.hexNumber digits) :: further, ending)
      else ([], .error (unitFlaw digits))
  | '\\' :: 'u' :: rest => ([], .error (unitFlaw rest))
  | ['\\'] => ([], .error .truncated)
  | '\\' :: letter :: rest =>
      match shortEscape? letter with
      | none => ([], .error .malformed)
      | some character =>
          let (further, ending) := pieces rest
          (.character character :: further, ending)
  | character :: rest =>
      if character.toNat < 32 then ([], .error .malformed)
      else
        let (further, ending) := pieces rest
        (.character character :: further, ending)

/-- The first half of a pair of code units. -/
def isLeading (unit : Nat) : Bool :=
  decide (0xD800 ≤ unit) && decide (unit ≤ 0xDBFF)

/-- The second half of a pair of code units. -/
def isTrailing (unit : Nat) : Bool :=
  decide (0xDC00 ≤ unit) && decide (unit ≤ 0xDFFF)

/-- The flaw of a text whose pieces end after the first half of a pair. -/
def openPairFlaw : TextEnd → Flaw
  | .ok _ => .malformed
  | .error flaw => flaw

/-- The characters that pieces stand for. Halves of a pair must stand together, and the text must be
closed. -/
def characters (ending : TextEnd) : List Piece → Except Flaw (List Char)
  | [] =>
      match ending with
      | .ok _ => .ok []
      | .error flaw => .error flaw
  | .character value :: rest => (characters ending rest).map (value :: ·)
  | .unit leading :: .unit trailing :: rest =>
      if isLeading leading then
        if isTrailing trailing then
          let code := 0x10000 + (leading - 0xD800) * 0x400 + (trailing - 0xDC00)
          (characters ending rest).map (Char.ofNat code :: ·)
        else .error .malformed
      else if isTrailing leading then .error .malformed
      else (characters ending (.unit trailing :: rest)).map (Char.ofNat leading :: ·)
  | [.unit value] =>
      if isLeading value then .error (openPairFlaw ending)
      else if isTrailing value then .error .malformed
      else (characters ending []).map (Char.ofNat value :: ·)
  | .unit value :: .character next :: rest =>
      if isLeading value || isTrailing value then .error .malformed
      else (characters ending (.character next :: rest)).map (Char.ofNat value :: ·)

/-! ## Numbers -/

/-- The flaw at a place where a digit is missing. -/
def missingDigit : List Char → Flaw
  | [] => .truncated
  | _ :: _ => .malformed

/-- Takes one digit or more. -/
def digits (rest : List Char) : Except Flaw (List Char × List Char) :=
  match rest.takeWhile Digits.isDecimal with
  | [] => .error (missingDigit rest)
  | first :: further => .ok (first :: further, rest.dropWhile Digits.isDecimal)

/-- The part of a number before its point: a single zero, or digits that do not start with zero. -/
def wholePart : List Char → Except Flaw (List Char × List Char)
  | '0' :: rest =>
      match rest with
      | next :: _ => if Digits.isDecimal next then .error .malformed else .ok (['0'], rest)
      | [] => .ok (['0'], [])
  | rest => digits rest

/-- The point and the digits after it, if there is a point. -/
def fractionPart : List Char → Except Flaw (List Char × List Char)
  | '.' :: rest => (digits rest).map fun (found, after) => ('.' :: found, after)
  | rest => .ok ([], rest)

def powerPart : List Char → Except Flaw (List Char × List Char)
  | mark :: rest =>
      if mark = 'e' ∨ mark = 'E' then
        match rest with
        | sign :: after =>
            if sign = '+' ∨ sign = '-' then
              (digits after).map fun (found, next) => (mark :: sign :: found, next)
            else (digits rest).map fun (found, next) => (mark :: found, next)
        | [] => .error .truncated
      else .ok ([], mark :: rest)
  | [] => .ok ([], [])

def unsignedNumber (source : List Char) : Except Flaw (List Char × List Char) := do
  let (whole, afterWhole) ← wholePart source
  let (fraction, afterFraction) ← fractionPart afterWhole
  let (power, rest) ← powerPart afterFraction
  return (whole ++ fraction ++ power, rest)

/-- A number and the rest of the text. -/
def numberText : List Char → Except Flaw (List Char × List Char)
  | '-' :: rest => (unsignedNumber rest).map fun (found, after) => ('-' :: found, after)
  | unsigned => unsignedNumber unsigned

/-! ## The token list -/

/-- Compares a text with a word: the rest after it, or what is wrong. -/
def afterWord : (word source : List Char) → Except Flaw (List Char)
  | [], source => .ok source
  | _ :: _, [] => .error .truncated
  | expected :: word, found :: source =>
      if found = expected then afterWord word source else .error .malformed

/-- Reads the token that starts with a character that is no blank, and the text after it. No text is
left after a flaw that ends the reading. -/
def nextToken (first : Char) (rest : List Char) : List Token × List Char :=
  let word (expected : List Char) (token : Token) : List Token × List Char :=
    match afterWord expected rest with
    | .ok after => ([token], after)
    | .error flaw => ([.broken flaw], [])
  match Mark.ofChar? first with
  | some mark => ([.mark mark], rest)
  | none =>
    match first with
    | 'n' => word ['u', 'l', 'l'] .null
    | 't' => word ['r', 'u', 'e'] (.bool true)
    | 'f' => word ['a', 'l', 's', 'e'] (.bool false)
    | '"' =>
        let (found, ending) := pieces rest
        let content := (characters ending found).map String.ofList
        match ending with
        | .ok after => ([.text content], after)
        | .error .truncated => ([.text content], [])
        | .error .malformed => ([.text content, .broken .malformed], [])
    | _ =>
      if first = '-' ∨ Digits.isDecimal first then
        match numberText (first :: rest) with
        | .ok (found, after) => ([.number (.ok found)], after)
        | .error flaw => ([.number (.error flaw), .broken .malformed], [])
      else ([.broken .malformed], [])

def tokensWithin : Nat → List Char → List Token
  | 0, _ => []
  | bound + 1, source =>
      match source.dropWhile isBlank with
      | [] => []
      | first :: rest =>
          let (found, after) := nextToken first rest
          found ++ tokensWithin bound after

def tokens (source : List Char) : List Token :=
  tokensWithin source.length source

end LiteralAudit.Json
