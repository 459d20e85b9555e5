import LiteralAudit.Yaml.Cursor

/-!
# Anchors, tags and directives of YAML texts

Tags are sequences of bytes, since escapes in them may write bytes that are no text.
-/

namespace LiteralAudit.Yaml

/-- A tag as it is written: a handle, which directives give a meaning, and what follows it. -/
structure WrittenTag where
  handle : String
  suffix : List UInt8
  deriving DecidableEq, Repr

/-- A line that speaks about the document after it. -/
inductive DocumentDirective where
  | version (major minor : Nat)
  | tag (handle : String) (leading : List UInt8)
  deriving DecidableEq, Repr

/-! ## Anchors -/

/-- Whether the name of an anchor may end before a text. -/
def endsAnchor (rest : List Char) : Bool :=
  startsBlank rest ||
    rest.head?.any fun next =>
      next == '?' || next == ':' || next == ',' || next == ']' || next == '\x7d' || next == '%' ||
        next == '@' || next == '`'

def anchorName (cursor : Cursor) : Option (String × Cursor) :=
  let (name, next) := cursor.skip.takeWhile isNameCharacter
  if name.isEmpty || !endsAnchor next.rest then none else some (String.ofList name, next)

/-! ## Tags -/

def isUriCharacter (verbatim : Bool) (character : Char) : Bool :=
  isNameCharacter character ||
    [';', '/', '?', ':', '@', '&', '=', '+', '$', '.', '!', '~', '*', '\'', '(', ')'].contains
      character ||
    (verbatim && (character == ',' || character == '[' || character == ']'))

/-- The byte that a percent sign and two digits write, and the text after them. -/
def uriByte? : List Char → Option (UInt8 × List Char)
  | '%' :: high :: low :: rest =>
      if Digits.isHex high && Digits.isHex low then
        some ((Digits.hexNumber [high, low]).toUInt8, rest)
      else none
  | _ => none

/-- How many bytes follow the first byte of a character. -/
def uriTailCount? (first : UInt8) : Option Nat :=
  if first &&& 0x80 = 0 then some 0
  else if first &&& 0xE0 = 0xC0 then some 1
  else if first &&& 0xF0 = 0xE0 then some 2
  else if first &&& 0xF8 = 0xF0 then some 3
  else none

/-- Reads so many bytes that continue a character. -/
def uriTail? : Nat → List Char → Option (List UInt8)
  | 0, _ => some []
  | count + 1, rest => do
      let (byte, further) ← uriByte? rest
      if byte &&& 0xC0 = 0x80 then (uriTail? count further).map (byte :: ·) else none

def uriEscape? (rest : List Char) : Option (List UInt8) := do
  let (first, further) ← uriByte? rest
  let count ← uriTailCount? first
  (uriTail? count further).map (first :: ·)

/-- Reads the bytes of a suffix, the newest one first. -/
def uriWithin (verbatim : Bool) : Nat → List UInt8 → Cursor → Option (List UInt8 × Cursor)
  | 0, _, _ => none
  | bound + 1, content, cursor =>
      match cursor.rest with
      | '%' :: _ =>
          match uriEscape? cursor.rest with
          | none => none
          | some bytes =>
              uriWithin verbatim bound (bytes.reverse ++ content)
                (cursor.skipMany (3 * bytes.length))
      | character :: _ =>
          if isUriCharacter verbatim character then
            uriWithin verbatim bound (character.toNat.toUInt8 :: content) cursor.skip
          else some (content, cursor)
      | [] => some (content, cursor)

/-- Reads a suffix, after a part of it that was already read. What follows a zero byte does not
count. -/
def uri (verbatim : Bool) (before : List Char) (cursor : Cursor) :
    Option (List UInt8 × Cursor) := do
  let (content, next) ← uriWithin verbatim (cursor.rest.length + 1) [] cursor
  if before.isEmpty && content.isEmpty then none
  else
    let bytes := (before.drop 1).map (fun character => character.toNat.toUInt8) ++ content.reverse
    return (bytes.takeWhile (· != 0), next)

/-- Reads an exclamation mark, a name, and another exclamation mark if there is one. -/
def handle (cursor : Cursor) : Option (List Char × Cursor) :=
  if cursor.rest.head? != some '!' then none
  else
    let (name, next) := cursor.skip.takeWhile isNameCharacter
    if next.rest.head? == some '!' then some ('!' :: name ++ ['!'], next.skip)
    else some ('!' :: name, next)

def isHandle (text : List Char) : Bool :=
  decide (1 < text.length) && text.getLast? == some '!'

def verbatimTag (cursor : Cursor) : Option (WrittenTag × Cursor) := do
  let (suffix, next) ← uri true [] (cursor.skipMany 2)
  if next.rest.head? == some '>' then return (⟨"", suffix⟩, next.skip) else none

/-- Reads a tag that is a handle, or a suffix without one. -/
def shortTag (cursor : Cursor) : Option (WrittenTag × Cursor) := do
  let (text, afterHandle) ← handle cursor
  if isHandle text then
    let (suffix, next) ← uri false [] afterHandle
    return (⟨String.ofList text, suffix⟩, next)
  else
    let (suffix, next) ← uri false text afterHandle
    return (if suffix.isEmpty then ⟨"", [0x21]⟩ else ⟨"!", suffix⟩, next)

def writtenTag (inFlow : Bool) (cursor : Cursor) : Option (WrittenTag × Cursor) := do
  let (tag, next) ←
    match cursor.rest with
    | _ :: '<' :: _ => verbatimTag cursor
    | _ => shortTag cursor
  if startsBlank next.rest || (inFlow && next.rest.head? == some ',') then return (tag, next)
  else none

/-! ## Directives -/

/-- Reads a number of nine digits at most. -/
def versionNumber (cursor : Cursor) : Option (Nat × Cursor) :=
  let (digits, next) := cursor.takeWhile Digits.isDecimal
  if digits.isEmpty || decide (9 < digits.length) then none
  else some (Digits.decimalNumber digits, next)

def versionDirective (cursor : Cursor) : Option (DocumentDirective × Cursor) := do
  let (major, afterMajor) ← versionNumber cursor.skipBlanks
  if afterMajor.rest.head? == some '.' then
    let (minor, next) ← versionNumber afterMajor.skip
    return (.version major minor, next)
  else none

def isDirectiveHandle (text : List Char) : Bool :=
  text == ['!'] || isHandle text

def tagDirective (cursor : Cursor) : Option (DocumentDirective × Cursor) := do
  let (text, afterHandle) ← handle cursor.skipBlanks
  if !isDirectiveHandle text || !afterHandle.rest.head?.any isBlank then none
  else
    let (leading, next) ← uri true [] afterHandle.skipBlanks
    if startsBlank next.rest then return (.tag (String.ofList text) leading, next) else none

def documentDirective (cursor : Cursor) : Option (DocumentDirective × Cursor) := do
  let (name, afterName) := cursor.skip.takeWhile isNameCharacter
  if name.isEmpty || !startsBlank afterName.rest then none
  else
    let (directive, next) ←
      match String.ofList name with
      | "YAML" => versionDirective afterName
      | "TAG" => tagDirective afterName
      | _ => none
    let after ← next.skipLineEnd?
    return (directive, after)

end LiteralAudit.Yaml
