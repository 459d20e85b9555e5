import LiteralAudit.Source.Comment

/-!
# Record types

The struct types of a program as they are declared. Literals refer to them by their index in a
table.
-/

namespace LiteralAudit

structure FieldDecl where
  name : String
  tag : String
  deriving DecidableEq, Repr

/-- A struct type; without a name when it is anonymous. -/
structure RecordType where
  name : Option String
  packageName : String
  packagePath : String
  fields : List FieldDecl
  /-- The comments related to the declaration. -/
  comments : List CommentGroup
  deriving DecidableEq, Repr

/-- The struct types of a program, by index. -/
structure TypeTable where
  types : List RecordType
  deriving DecidableEq, Repr

namespace TypeTable

def get? (table : TypeTable) (index : Nat) : Option RecordType :=
  table.types[index]?

def size (table : TypeTable) : Nat :=
  table.types.length

theorem get?_eq_none_iff {table : TypeTable} {index : Nat} :
    table.get? index = none ↔ table.size ≤ index :=
  List.getElem?_eq_none_iff

def isEmpty (table : TypeTable) : Bool :=
  table.types.isEmpty

/-- Adds a type, and gives its index. -/
def insert (table : TypeTable) (record : RecordType) : Nat × TypeTable :=
  (table.size, ⟨table.types ++ [record]⟩)

end TypeTable

end LiteralAudit
