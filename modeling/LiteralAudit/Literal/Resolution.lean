import LiteralAudit.Literal.Site
import LiteralAudit.Source.CommentIndex

/-!
# The directive of a literal

A directive at the literal counts first, then one at the nodes around it from the inside outward, up
to the first node that is not transparent.
-/

namespace LiteralAudit

/-- The directive that the comments of a file give at nodes listed from the inside outward. -/
def inheritedDirective (comments : CommentIndex) : List Node → Directive
  | [] => .unspecified
  | node :: outer =>
      if node.kind.isTransparent then
        (comments.directiveFor node.span).orElse fun _ => inheritedDirective comments outer
      else .unspecified

/-- The directive that the comments of a file give for a literal. -/
def resolveDirective (site : LiteralSite) (comments : CommentIndex) : Directive :=
  (comments.directiveFor site.span).orElse fun _ => inheritedDirective comments site.outward

end LiteralAudit
