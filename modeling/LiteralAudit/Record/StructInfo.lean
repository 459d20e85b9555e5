import LiteralAudit.Record.RecordType
import LiteralAudit.Record.Tag
import LiteralAudit.Unicode.LaterVersion

/-!
# What a check needs of a struct type

Its names, its fields with their export and their optional mark, and the directive of its
declaration.
-/

namespace LiteralAudit

structure TypeName where
  name : String
  packageName : String
  packagePath : String
  deriving DecidableEq, Repr

namespace TypeName

def anonymous : String := "<anonymous>"

def ofRecord (record : RecordType) : TypeName where
  name := record.name.getD anonymous
  packageName := record.packageName
  packagePath := record.packagePath

/-- The full name, which patterns are matched with. -/
def matchingKey (name : TypeName) : String :=
  name.packagePath ++ "." ++ name.name

/-- The name shown to users. -/
def shortName (name : TypeName) : String :=
  name.packageName ++ "." ++ name.name

end TypeName

structure StructField where
  name : String
  exported : Bool
  isOptional : Bool
  deriving DecidableEq, Repr

namespace StructField

/-- Whether a name can be used outside its package: it starts with an upper-case letter. -/
def isExported (name : String) : Bool :=
  match name.toList with
  | [] => false
  | first :: _ => LaterVersion.uppercase.contains first.toNat

def ofDecl (declared : FieldDecl) : StructField where
  name := declared.name
  exported := isExported declared.name
  isOptional := Tag.isOptional declared.tag

end StructField

/-- The fields of a struct in declaration order. -/
abbrev StructFields := List StructField

namespace StructFields

def ofDecls (declared : List FieldDecl) : StructFields :=
  declared.map StructField.ofDecl

def hasRequired (fields : StructFields) : Bool :=
  fields.any (!·.isOptional)

def names (fields : StructFields) : List String :=
  fields.map (·.name)

def text (fields : StructFields) : String :=
  ", ".intercalate (names fields)

end StructFields

structure StructInfo where
  name : TypeName
  fields : StructFields
  /-- The directive of the type's declaration. -/
  directive : Directive
  deriving DecidableEq, Repr

namespace StructInfo

def ofRecord (record : RecordType) : StructInfo where
  name := .ofRecord record
  fields := .ofDecls record.fields
  directive := lastDirective record.comments

end StructInfo

end LiteralAudit
