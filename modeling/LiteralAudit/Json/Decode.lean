import LiteralAudit.Json.Reading
import LiteralAudit.Text.Quoted

/-!
# Decoding JSON values

Decoders take a reading apart in document order and stop at the first fault: a flaw of the text, or
a value of the wrong shape. An object with known members may also be written as the list of their
values in declaration order. Members that are not known are skipped.
-/

namespace LiteralAudit.Json

inductive Unexpected where
  | null
  | bool (value : Bool)
  | number (value : Numeral)
  | text (value : String)
  | sequence
  | map

inductive Expected where
  | text
  | boolean
  | sequence
  /-- A natural number of 32 bits. -/
  | index
  /-- A natural number of 64 bits. -/
  | count
  | struct (name : String)
  | structWith (name : String) (size : Nat)
  /-- A list with no more items than were taken. -/
  | itemsOnly (size : Nat)
  | variant

inductive DecodeError where
  | flawed (flaw : Flaw)
  | missingField (name : String)
  | duplicateField (name : String)
  | invalidType (found : Unexpected) (expected : Expected)
  | invalidValue (found : Unexpected) (expected : Expected)
  | invalidLength (size : Nat) (expected : Expected)

namespace Unexpected

def describe : Unexpected → String
  | null => "null"
  | bool value => "boolean `" ++ toString value ++ "`"
  | number (.floating isNegative value) =>
      "floating point `" ++ (Numeral.floating isNegative value).text ++ "`"
  | number value => "integer `" ++ value.text ++ "`"
  | text value => "string " ++ Quoted.text value
  | sequence => "sequence"
  | map => "map"

end Unexpected

namespace Expected

private def elements (size : Nat) : String :=
  if size = 1 then "1 element" else toString size ++ " elements"

def describe : Expected → String
  | text => "a string"
  | boolean => "a boolean"
  | sequence => "a sequence"
  | index => "u32"
  | count => "usize"
  | struct name => "struct " ++ name
  | structWith name size => "struct " ++ name ++ " with " ++ elements size
  | itemsOnly size => elements size ++ " in sequence"
  | variant => "variant identifier"

end Expected

namespace DecodeError

/-- Text of a fault of shape. A flaw of the text itself has no text of its own. -/
def message : DecodeError → String
  | flawed _ => ""
  | missingField name => "missing field `" ++ name ++ "`"
  | duplicateField name => "duplicate field `" ++ name ++ "`"
  | invalidType found expected =>
      "invalid type: " ++ found.describe ++ ", expected " ++ expected.describe
  | invalidValue found expected =>
      "invalid value: " ++ found.describe ++ ", expected " ++ expected.describe
  | invalidLength size expected =>
      "invalid length " ++ toString size ++ ", expected " ++ expected.describe

end DecodeError

/-- Where a value is decoded from: while the text is read, with so many levels of lists and objects
left, or from a value that was kept whole and holds no flaw. -/
inductive Origin where
  | streamed (room : Nat)
  | kept
  deriving DecidableEq, Repr

abbrev Decoder (α : Type) := Origin → Reading → Except DecodeError α

namespace Origin

/-- Goes one level down. -/
def enter : Origin → Except DecodeError Origin
  | streamed 0 => .error (.flawed .malformed)
  | streamed (room + 1) => .ok (streamed room)
  | kept => .ok kept

end Origin

/-- Stops at a flaw, if there is one. -/
def checkFlaw (flaw : Option Flaw) : Except DecodeError Unit :=
  match flaw with
  | none => .ok ()
  | some found => .error (.flawed found)

def mismatch (expected : Expected) (reading : Reading) : DecodeError :=
  match reading with
  | .null => .invalidType .null expected
  | .bool value => .invalidType (.bool value) expected
  | .number (.error flaw) => .flawed flaw
  | .number (.ok lexeme) =>
      match Numeral.ofText? lexeme with
      | none => .flawed .malformed
      | some value => .invalidType (.number value) expected
  | .text (.error flaw) => .flawed flaw
  | .text (.ok value) => .invalidType (.text value) expected
  | .list _ _ => .invalidType .sequence expected
  | .object _ _ => .invalidType .map expected
  | .cut flaw => .flawed flaw

namespace Decoder

def string : Decoder String := fun _ reading =>
  match reading with
  | .text (.ok value) => .ok value
  | _ => .error (mismatch .text reading)

def boolean : Decoder Bool := fun _ reading =>
  match reading with
  | .bool value => .ok value
  | _ => .error (mismatch .boolean reading)

def naturalUpTo (bound : Nat) (expected : Expected) : Decoder Nat := fun _ reading =>
  match reading with
  | .number (.ok lexeme) =>
      match Numeral.ofText? lexeme with
      | some (.natural value) =>
          if value ≤ bound then .ok value
          else .error (.invalidValue (.number (.natural value)) expected)
      | some (.negative magnitude) =>
          .error (.invalidValue (.number (.negative magnitude)) expected)
      | _ => .error (mismatch expected reading)
  | _ => .error (mismatch expected reading)

/-- A number that names a node or a type. -/
def index : Decoder Nat := naturalUpTo 0xFFFFFFFF .index

/-- A line, a column or a count. -/
def count : Decoder Nat := naturalUpTo 0xFFFFFFFFFFFFFFFF .count

def optional {α : Type} (decoder : Decoder α) : Decoder (Option α) := fun origin reading =>
  match reading with
  | .null => .ok none
  | _ => (decoder origin reading).map some

def items {α : Type} (decoder : Decoder α) (origin : Origin) :
    List Reading → Except DecodeError (List α)
  | [] => .ok []
  | item :: further => do
      let value ← decoder origin item
      let values ← items decoder origin further
      return value :: values

def list {α : Type} (decoder : Decoder α) : Decoder (List α) := fun origin reading =>
  match reading with
  | .list found tail => do
      let inner ← origin.enter
      let values ← items decoder inner found
      checkFlaw tail
      return values
  | _ => .error (mismatch .sequence reading)

end Decoder

/-- A known member of an object that decodes to `α`: how its value is put into the result so far. A
member that is not required keeps the value that the result starts with. -/
structure Field (α : Type) where
  name : String
  required : Bool
  read : Origin → Reading → α → Except DecodeError α

namespace Field

def mandatory {α β : Type} (name : String) (decoder : Decoder β) (set : α → β → α) : Field α :=
  { name, required := true,
    read := fun origin reading result => (decoder origin reading).map (set result) }

def defaulted {α β : Type} (name : String) (decoder : Decoder β) (set : α → β → α) : Field α :=
  { name, required := false,
    read := fun origin reading result => (decoder origin reading).map (set result) }

end Field

/-- How objects of one kind are decoded. -/
structure Shape (α : Type) where
  name : String
  /-- The result before any member is read. -/
  blank : α
  fields : List (Field α)

namespace Shape

variable {α : Type}

def field? (shape : Shape α) (name : String) : Option (Field α) :=
  shape.fields.find? (·.name == name)

def memberName (name : Except Flaw String) : Except DecodeError String :=
  name.mapError .flawed

/-- Reads members into a result, and lists the known names among them. -/
def readMembers (shape : Shape α) (origin : Origin) (seen : List String) (result : α) :
    List Member → Except DecodeError (α × List String)
  | [] => .ok (result, seen)
  | (flawedName, reading) :: further => do
      let name ← memberName flawedName
      match shape.field? name with
      | none => do
          checkFlaw reading.skippedFlaw?
          readMembers shape origin seen result further
      | some field =>
          if seen.contains name then
            .error (.duplicateField name)
          else do
            let next ← field.read origin reading result
            readMembers shape origin (name :: seen) next further

def checkRequired (shape : Shape α) (seen : List String) : Except DecodeError Unit :=
  match shape.fields.find? fun field => field.required && !seen.contains field.name with
  | none => .ok ()
  | some field => .error (.missingField field.name)

/-- The first items as the values of the fields in order, and the items left. -/
def readItems (shape : Shape α) (origin : Origin) (position : Nat) (result : α) :
    List (Field α) → List Reading → Option Flaw → Except DecodeError (α × List Reading)
  | [], found, _ => .ok (result, found)
  | field :: further, [], tail => do
      checkFlaw tail
      if field.required then
        .error (.invalidLength position (.structWith shape.name shape.fields.length))
      else readItems shape origin (position + 1) result further [] tail
  | field :: further, item :: found, tail => do
      let next ← field.read origin item result
      readItems shape origin (position + 1) next further found tail

/-- The fault of items after the last field. -/
def checkItemsOnly (shape : Shape α) (origin : Origin) (left : List Reading) (tail : Option Flaw) :
    Except DecodeError Unit :=
  match left, origin with
  | [], _ => checkFlaw tail
  | _ :: _, .streamed _ => .error (.flawed .malformed)
  | _ :: _, .kept =>
      let size := shape.fields.length
      .error (.invalidLength (size + left.length) (.itemsOnly size))

def decode (shape : Shape α) : Decoder α := fun origin reading =>
  match reading with
  | .object members tail => do
      let inner ← origin.enter
      let (result, seen) ← shape.readMembers inner [] shape.blank members
      checkFlaw tail
      shape.checkRequired seen
      return result
  | .list found tail => do
      let inner ← origin.enter
      let (result, left) ← shape.readItems inner 0 shape.blank shape.fields found tail
      shape.checkItemsOnly origin left tail
      return result
  | _ => .error (mismatch (.struct shape.name) reading)

end Shape

def decodeText {α : Type} (decoder : Decoder α) (source : List Char) : Except DecodeError α := do
  let (reading, followed) := Reading.ofText source
  let value ← decoder (.streamed Reading.greatestDepth) reading
  if followed then .error (.flawed .malformed) else return value

end LiteralAudit.Json
