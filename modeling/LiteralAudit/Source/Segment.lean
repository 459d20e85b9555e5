import LiteralAudit.Text.Blank

/-!
# Segments of source text

The bytes of a Go source, cut into comments and what stands between them. What looks like a comment
inside a string or a character constant is none. The segments in order give the source back.
-/

namespace LiteralAudit

inductive Segment where
  /-- Bytes outside comments. -/
  | code (bytes : List UInt8)
  /-- One comment, without the line feed that ends a line comment. -/
  | comment (bytes : List UInt8)
  deriving DecidableEq, Repr

namespace Segment

def bytes : Segment → List UInt8
  | code content => content
  | comment content => content

def lineFeed : UInt8 := 0x0A
def slash : UInt8 := 0x2F
def star : UInt8 := 0x2A
def backslash : UInt8 := 0x5C
def doubleQuote : UInt8 := 0x22
def singleQuote : UInt8 := 0x27
def backQuote : UInt8 := 0x60

/-- The bytes before the end of a line, and the rest from there. -/
def splitLine (source : List UInt8) : List UInt8 × List UInt8 :=
  (source.takeWhile (· != lineFeed), source.dropWhile (· != lineFeed))

/-- The bytes of a block comment after its opening mark, up to its closing mark, and the rest. -/
def splitBlock : List UInt8 → List UInt8 × List UInt8
  | [] => ([], [])
  | [byte] => ([byte], [])
  | first :: second :: rest =>
      if first = star ∧ second = slash then ([first, second], rest)
      else
        let (content, after) := splitBlock (second :: rest)
        (first :: content, after)

/-- The bytes of a raw string after its opening quote, up to its closing quote, and the rest. -/
def splitRaw : List UInt8 → List UInt8 × List UInt8
  | [] => ([], [])
  | byte :: rest =>
      if byte = backQuote then ([byte], rest)
      else
        let (content, after) := splitRaw rest
        (byte :: content, after)

/-- The bytes of a constant after its opening quote, up to its closing quote, and the rest. A
backslash takes the byte after it along, and the constant ends before a line feed. -/
def splitQuoted (quote : UInt8) : List UInt8 → List UInt8 × List UInt8
  | [] => ([], [])
  | [byte] => if byte = lineFeed then ([], [byte]) else ([byte], [])
  | first :: second :: rest =>
      if first = quote then ([first], second :: rest)
      else if first = lineFeed then ([], first :: second :: rest)
      else if first = backslash ∧ second ≠ lineFeed then
        let (content, after) := splitQuoted quote rest
        (first :: second :: content, after)
      else
        let (content, after) := splitQuoted quote (second :: rest)
        (first :: content, after)

/-- The segment that starts with a byte, and the rest of the source. -/
def next (first : UInt8) (rest : List UInt8) : Segment × List UInt8 :=
  if first = slash then
    match rest with
    | [] => (code [first], [])
    | second :: further =>
        if second = slash then
          let (content, after) := splitLine further
          (comment (first :: second :: content), after)
        else if second = star then
          let (content, after) := splitBlock further
          (comment (first :: second :: content), after)
        else (code [first], rest)
  else if first = doubleQuote ∨ first = singleQuote then
    let (content, after) := splitQuoted first rest
    (code (first :: content), after)
  else if first = backQuote then
    let (content, after) := splitRaw rest
    (code (first :: content), after)
  else (code [first], rest)

/-- The segments of a source of no more bytes than the bound. -/
def listWithin : Nat → List UInt8 → List Segment
  | _, [] => []
  | 0, _ => []
  | bound + 1, first :: rest =>
      let (segment, after) := next first rest
      segment :: listWithin bound after

def list (source : List UInt8) : List Segment :=
  listWithin source.length source

end Segment

end LiteralAudit
