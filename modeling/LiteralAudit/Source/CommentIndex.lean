import LiteralAudit.Source.Comment

/-!
# The comments of a file

An index holds the groups of one file that are not empty, in the order of their starts. A group is
bound to a piece of source text when it ends on the line above, or when it follows on the last line.
-/

namespace LiteralAudit

structure CommentIndex where
  groups : List CommentGroup
  deriving DecidableEq, Repr

namespace CommentIndex

def empty : CommentIndex := ⟨[]⟩

/-- The index of some groups. Groups with equal starts keep their order. -/
def ofGroups (groups : List CommentGroup) : CommentIndex :=
  ⟨(groups.filter (!·.isEmpty)).mergeSort fun left right => left.start.le right.start⟩

def size (index : CommentIndex) : Nat :=
  index.groups.length

def isEmpty (index : CommentIndex) : Bool :=
  index.groups.isEmpty

def isAbove (group : CommentGroup) (span : Span) : Bool :=
  decide (1 < span.start.line) && group.finish.line == span.start.line - 1

/-- Whether a group starts behind a span, on the line where the span ends. -/
def isBehind (group : CommentGroup) (span : Span) : Bool :=
  group.start.line == span.finish.line && decide (span.finish.column < group.start.column)

def isRelated (group : CommentGroup) (span : Span) : Bool :=
  isAbove group span || isBehind group span

/-- The groups bound to a span. -/
def related (index : CommentIndex) (span : Span) : List CommentGroup :=
  index.groups.filter fun group => isRelated group span

def directiveFor (index : CommentIndex) (span : Span) : Directive :=
  lastDirective (index.related span)

end CommentIndex

end LiteralAudit
