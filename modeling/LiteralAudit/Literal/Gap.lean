import LiteralAudit.Literal.Site
import LiteralAudit.Record.StructInfo

/-!
# Gaps of a literal

The required fields that a literal does not set. Elements without keys fill the fields from the
front; elements with keys set the fields that they name.
-/

namespace LiteralAudit

/-- What matters of the elements of a literal. -/
structure LiteralShape where
  /-- Whether the first element has no key. -/
  positional : Bool
  keys : List String
  count : Nat
  deriving DecidableEq, Repr

namespace LiteralShape

def ofElements (elements : List Element) : LiteralShape where
  positional := (elements.head?.map (·.key.isNone)).getD false
  keys := elements.filterMap (·.key)
  count := elements.length

def isEmpty (shape : LiteralShape) : Bool :=
  shape.count == 0

/-- The keys, each once, in the order of their characters. -/
def distinctKeys (shape : LiteralShape) : List String :=
  shape.keys.eraseDups.mergeSort fun left right => decide (left ≤ right)

end LiteralShape

/-- The required fields that a literal does not set, in declaration order. Literals of another
package cannot set fields that are not exported. -/
def skippedFields (shape : LiteralShape) (fields : StructFields) (onlyExported : Bool) :
    StructFields :=
  if !StructFields.hasRequired fields then []
  else if !shape.isEmpty && shape.positional then fields.drop shape.count
  else
    fields.filter fun field =>
      !shape.keys.contains field.name && !field.isOptional && (field.exported || !onlyExported)

end LiteralAudit
