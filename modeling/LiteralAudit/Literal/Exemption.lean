import LiteralAudit.Literal.Site

/-!
# Empty literals that are in order

An empty literal returned next to an error that is set is the usual way to leave a function. Other
rules for empty literals ask in which context a literal stands.
-/

namespace LiteralAudit

inductive LiteralContext where
  | returned
  /-- The right side of a short variable declaration or of a variable declaration. -/
  | declaration
  | other
  deriving DecidableEq, Repr

namespace LiteralContext

def ofKind : NodeKind → LiteralContext
  | .returnStmt _ => returned
  | .assign true => declaration
  | .valueSpec => declaration
  | _ => other

/-- The context that the innermost node gives that does not only wrap the literal. -/
def ofSite (site : LiteralSite) : LiteralContext :=
  match site.outward.find? (!·.kind.isWrapper) with
  | none => other
  | some node => ofKind node.kind

end LiteralContext

namespace LiteralSite

/-- The expressions of the return statement that the literal is a direct part of. -/
def returnedWith? (site : LiteralSite) : Option (List ReturnValue) :=
  match site.parent? with
  | some ⟨_, _, .returnStmt results⟩ => some results
  | _ => none

/-- Whether a result is an error set by another expression than the literal. -/
def isErrorBeside (site : LiteralSite) (declared : Option TypeRef) (result : ReturnValue) : Bool :=
  !result.type.isUntypedNil && (declared.map (·.isErrorLike)).getD false && result.node != site.id

/-- Whether some result, paired with the declared result of its position, is an error set by another
expression than the literal. -/
def hasErrorBeside (site : LiteralSite) : List ReturnValue → List TypeRef → Bool
  | [], _ => false
  | result :: results, declared =>
      site.isErrorBeside declared.head? result || site.hasErrorBeside results declared.tail

/-- Whether the literal, if it is empty, is in order because an error is returned with it. -/
def isExemptReturn (site : LiteralSite) : Bool :=
  match site.returnedWith? with
  | none => false
  | some results =>
      results.any (·.type.isErrorInterface) ||
        match site.declaredResults? with
        | none => false
        | some declared => site.hasErrorBeside results declared

end LiteralSite

end LiteralAudit
