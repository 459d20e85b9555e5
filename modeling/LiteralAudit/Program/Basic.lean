import LiteralAudit.Literal.Site
import LiteralAudit.Record.RecordType

/-!
# Programs

A program is what one run of the front end hands over: the struct types, and every composite literal
by package and file.
-/

namespace LiteralAudit

/-- A source file. Without comments here, they have to be read from the source. -/
structure SourceFile where
  path : String
  comments : Option (List CommentGroup)
  literals : List LiteralSite
  deriving DecidableEq, Repr

structure Package where
  name : String
  /-- The path under which the package is imported. -/
  path : String
  files : List SourceFile
  deriving DecidableEq, Repr

structure Program where
  types : List RecordType
  packages : List Package
  deriving DecidableEq, Repr

namespace Program

def typeTable (program : Program) : TypeTable := ⟨program.types⟩

def literalCount (program : Program) : Nat :=
  ((program.packages.flatMap (·.files)).flatMap (·.literals)).length

end Program

end LiteralAudit
