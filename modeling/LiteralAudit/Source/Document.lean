import LiteralAudit.Json.Decode
import LiteralAudit.Source.Comment

/-!
# Positions and comments in JSON documents
-/

namespace LiteralAudit

open Json

namespace Position

def shape : Shape Position where
  name := "Position"
  blank := .nowhere
  fields := [
    .mandatory "line" Decoder.count fun position line => { position with line },
    .mandatory "column" Decoder.count fun position column => { position with column }]

def toJson (position : Position) : Json :=
  .object [("line", .number position.line), ("column", .number position.column)]

end Position

namespace Span

def shape : Shape Span where
  name := "Span"
  blank := ⟨.nowhere, .nowhere⟩
  fields := [
    .mandatory "start" Position.shape.decode fun span start => { span with start },
    .mandatory "end" Position.shape.decode fun span finish => { span with finish }]

def toJson (span : Span) : Json :=
  .object [("start", span.start.toJson), ("end", span.finish.toJson)]

end Span

namespace Comment

def shape : Shape Comment where
  name := "Comment"
  blank := ⟨"", ⟨.nowhere, .nowhere⟩⟩
  fields := [
    .mandatory "text" Decoder.string fun comment text => { comment with text },
    .mandatory "span" Span.shape.decode fun comment span => { comment with span }]

def toJson (comment : Comment) : Json :=
  .object [("text", .text comment.text), ("span", comment.span.toJson)]

end Comment

namespace CommentGroup

/-- A group is written as the list of its comments. -/
def decode : Decoder CommentGroup := fun origin reading =>
  (Decoder.list Comment.shape.decode origin reading).map CommentGroup.mk

def toJson (group : CommentGroup) : Json :=
  .list (group.comments.map Comment.toJson)

end CommentGroup

end LiteralAudit
