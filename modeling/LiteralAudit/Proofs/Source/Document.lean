import LiteralAudit.Proofs.Json.Yielding
import LiteralAudit.Source.Document

/-!
# Positions and comments are written and read

Lines and columns are natural numbers of 64 bits in a document. Positions and comments with such
numbers are decoded from the document they are written in, and only such are decoded from any
document.
-/

namespace LiteralAudit

open Json

namespace Position

/-- Line and column have 64 bits. -/
def Fits (position : Position) : Prop :=
  position.line < UInt64.size ∧ position.column < UInt64.size

instance (position : Position) : Decidable position.Fits :=
  inferInstanceAs (Decidable (_ ∧ _))

theorem decodes {position : Position} (fits : position.Fits) :
    Decodes shape.decode 1 position.toJson position := by
  obtain ⟨lineFits, columnFits⟩ := fits
  have fills : shape.Fills 0 [] shape.blank
      [("line", .number position.line), ("column", .number position.column)]
      ["column", "line"] position :=
    .cons rfl rfl (decodes_count lineFits) (.cons rfl rfl (decodes_count columnFits) (.nil _ _))
  exact fills.decodes rfl

theorem yields : Yields shape.decode Fits := by
  refine Shape.yields (by decide) ⟨?_, ?_⟩
  · exact yields_count.preserves fun position line before lineFits => ⟨lineFits, before.2⟩
  · exact yields_count.preserves fun position column before columnFits => ⟨before.1, columnFits⟩

end Position

namespace Span

def Fits (span : Span) : Prop :=
  span.start.Fits ∧ span.finish.Fits

instance (span : Span) : Decidable span.Fits :=
  inferInstanceAs (Decidable (_ ∧ _))

theorem decodes {span : Span} (fits : span.Fits) :
    Decodes shape.decode 2 span.toJson span := by
  obtain ⟨startFits, finishFits⟩ := fits
  have fills : shape.Fills 1 [] shape.blank
      [("start", span.start.toJson), ("end", span.finish.toJson)] ["end", "start"] span :=
    .cons rfl rfl (Position.decodes startFits)
      (.cons rfl rfl (Position.decodes finishFits) (.nil _ _))
  exact fills.decodes rfl

theorem yields : Yields shape.decode Fits := by
  refine Shape.yields (by decide) ⟨?_, ?_⟩
  · exact Position.yields.preserves fun span start before startFits => ⟨startFits, before.2⟩
  · exact Position.yields.preserves fun span finish before finishFits => ⟨before.1, finishFits⟩

end Span

namespace Comment

def Fits (comment : Comment) : Prop :=
  comment.span.Fits

instance (comment : Comment) : Decidable comment.Fits :=
  inferInstanceAs (Decidable comment.span.Fits)

theorem decodes {comment : Comment} (fits : comment.Fits) :
    Decodes shape.decode 3 comment.toJson comment := by
  have fills : shape.Fills 2 [] shape.blank
      [("text", .text comment.text), ("span", comment.span.toJson)] ["span", "text"] comment :=
    .cons rfl rfl (decodes_string comment.text) (.cons rfl rfl (Span.decodes fits) (.nil _ _))
  exact fills.decodes rfl

theorem yields : Yields shape.decode Fits := by
  refine Shape.yields (by decide) ⟨?_, ?_⟩
  · exact Field.preserves_of fun comment text before => before
  · exact Span.yields.preserves fun comment span before spanFits => spanFits

end Comment

namespace CommentGroup

def Fits (group : CommentGroup) : Prop :=
  ∀ comment ∈ group.comments, comment.Fits

instance (group : CommentGroup) : Decidable group.Fits :=
  inferInstanceAs (Decidable (∀ comment ∈ group.comments, comment.Fits))

theorem decodes {group : CommentGroup} (fits : group.Fits) :
    Decodes decode 4 group.toJson group := by
  have comments : Decodes (Decoder.list Comment.shape.decode) 4 group.toJson group.comments :=
    decodes_list fun comment member => Comment.decodes (fits comment member)
  intro origin room
  rw [decode, comments origin room]
  rfl

theorem yields : Yields decode Fits := by
  intro origin reading group decoded
  obtain ⟨comments, decodedComments, same⟩ := map_eq_ok decoded
  rw [← same]
  exact Comment.yields.list origin reading comments decodedComments

end CommentGroup

end LiteralAudit
