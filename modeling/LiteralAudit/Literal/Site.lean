import LiteralAudit.Source.Position

/-!
# Literal sites

A site is a composite literal together with the syntax nodes around it. Types of expressions are
known by the text that the type checker prints for them.
-/

namespace LiteralAudit

structure TypeRef where
  name : String
  /-- Whether the methods of the type include those of the error interface. -/
  implementsError : Bool
  deriving DecidableEq, Repr

namespace TypeRef

/-- A type that is no error. -/
def named (name : String) : TypeRef := ⟨name, false⟩

def errorInterface : TypeRef := ⟨"error", true⟩

def untypedNil : TypeRef := named "untyped nil"

def isErrorInterface (type : TypeRef) : Bool :=
  type.name == errorInterface.name

def isUntypedNil (type : TypeRef) : Bool :=
  type.name == untypedNil.name

/-- The error interface, or a type that implements it. -/
def isErrorLike (type : TypeRef) : Bool :=
  type.isErrorInterface || type.implementsError

end TypeRef

structure ReturnValue where
  node : Nat
  type : TypeRef
  deriving DecidableEq, Repr

inductive NodeKind where
  | file
  | funcDecl (results : List TypeRef)
  | funcLit (results : List TypeRef)
  | returnStmt (results : List ReturnValue)
  | call
  | index
  | unary
  | paren
  /-- An assignment, or a short variable declaration. -/
  | assign (define : Bool)
  | varDecl
  | valueSpec
  | keyValue
  | compositeLit
  | other
  deriving DecidableEq, Repr

namespace NodeKind

/-- Whether a directive at the node counts for a literal inside it. -/
def isTransparent : NodeKind → Bool
  | returnStmt _ | call | index | unary | paren | assign _ | varDecl | valueSpec | keyValue => true
  | file | funcDecl _ | funcLit _ | compositeLit | other => false

def declaredResults? : NodeKind → Option (List TypeRef)
  | funcDecl results => some results
  | funcLit results => some results
  | _ => none

def isWrapper : NodeKind → Bool
  | unary | paren => true
  | _ => false

end NodeKind

/-- A syntax node around a literal. -/
structure Node where
  id : Nat
  span : Span
  kind : NodeKind
  deriving DecidableEq, Repr

structure Element where
  key : Option String
  deriving DecidableEq, Repr

structure LiteralSite where
  id : Nat
  span : Span
  /-- The index of the struct type, if the literal is one of a struct. -/
  type : Option Nat
  elements : List Element
  /-- The nodes around the literal, from the file down to its parent. -/
  ancestors : List Node
  deriving DecidableEq, Repr

namespace LiteralSite

/-- The nodes around the literal, from its parent outward. -/
def outward (site : LiteralSite) : List Node :=
  site.ancestors.reverse

def parent? (site : LiteralSite) : Option Node :=
  site.outward.head?

def enclosingFunction? (site : LiteralSite) : Option Node :=
  site.outward.find? (·.kind.declaredResults?.isSome)

def declaredResults? (site : LiteralSite) : Option (List TypeRef) :=
  site.enclosingFunction?.bind (·.kind.declaredResults?)

end LiteralSite

end LiteralAudit
