import LiteralAudit.Regex.Footprint.Pattern
import LiteralAudit.Regex.Lowering
import LiteralAudit.Regex.Machine

/-!
# Patterns

A pattern that was found to be valid, ready to be matched with whole names. A pattern for which
there is no room is not valid.
-/

namespace LiteralAudit

structure Pattern where
  text : String
  machine : Regex.Machine

namespace Pattern

def ofText? (text : String) : Option Pattern :=
  match Regex.Expr.ofPattern? text with
  | none => none
  | some expr =>
      if Regex.Footprint.haveRoom .characters [expr] then some ⟨text, .ofExpr expr⟩ else none

/-- Whether the preferred leftmost match of the pattern takes up the whole name. -/
def matchesWhole (pattern : Pattern) (name : String) : Bool :=
  pattern.machine.matchesWhole (name.toList.map Char.toNat)

end Pattern

end LiteralAudit
