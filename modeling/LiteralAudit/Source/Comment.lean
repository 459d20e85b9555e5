import LiteralAudit.Source.Directive
import LiteralAudit.Source.Position
import LiteralAudit.Text.Utf8

/-!
# Comments

A group holds comments that follow each other with neither code nor a blank line between them. Of
several directives the last one counts.
-/

namespace LiteralAudit

structure Comment where
  text : String
  span : Span
  deriving DecidableEq, Repr

structure CommentGroup where
  comments : List Comment
  deriving DecidableEq, Repr

namespace CommentGroup

/-- A group of one comment on one line. -/
def ofLine (text : String) (line column : Nat) : CommentGroup :=
  ⟨[⟨text, Span.onLine line column (column + Utf8.byteCount text.toList)⟩]⟩

def isEmpty (group : CommentGroup) : Bool :=
  group.comments.isEmpty

def start (group : CommentGroup) : Position :=
  (group.comments.head?.map (·.span.start)).getD .nowhere

def finish (group : CommentGroup) : Position :=
  (group.comments.getLast?.map (·.span.finish)).getD .nowhere

end CommentGroup

namespace Comment

def directive? (comment : Comment) : Option Directive :=
  Directive.parse? comment.text

end Comment

/-- The last directive that the comments of some groups give, in the order of the groups. -/
def lastDirective (groups : List CommentGroup) : Directive :=
  ((groups.flatMap (·.comments)).filterMap (·.directive?)).getLast?.getD .unspecified

end LiteralAudit
