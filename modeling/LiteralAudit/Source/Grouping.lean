import LiteralAudit.Source.Comment
import LiteralAudit.Source.Segment

/-!
# Grouping the comments of a source

Comments join into a group while nothing but blanks and at most one line end stand between them. A
group that starts behind code takes only comments of the line where it ends.
-/

namespace LiteralAudit

namespace Position

def origin : Position := ⟨1, 1⟩

def advance (position : Position) (byte : UInt8) : Position :=
  if byte = Segment.lineFeed then ⟨position.line + 1, 1⟩ else ⟨position.line, position.column + 1⟩

def advanceOver (position : Position) (bytes : List UInt8) : Position :=
  bytes.foldl advance position

end Position

/-- A comment of a source, with the bytes between it and the comment before it, last byte first. -/
structure PlacedComment where
  comment : Comment
  gap : List UInt8
  deriving DecidableEq, Repr

namespace PlacedComment

/-- The comment of some bytes. Blanks at its end count for its extent but not for its text. -/
def commentOf (start : Position) (bytes : List UInt8) : Comment :=
  { text := String.ofList (Text.trimEnd (Utf8.decodeLossy bytes)),
    span := ⟨start, start.advanceOver bytes⟩ }

/-- The comments among segments that start at a position, where `gap` was read since the last
comment. -/
def ofSegments (position : Position) (gap : List UInt8) : List Segment → List PlacedComment
  | [] => []
  | .code bytes :: rest => ofSegments (position.advanceOver bytes) (bytes.reverse ++ gap) rest
  | .comment bytes :: rest =>
      ⟨commentOf position bytes, gap⟩ :: ofSegments (position.advanceOver bytes) [] rest

/-- Whether code stands before the comment on its line. -/
def followsCode (placed : PlacedComment) : Bool :=
  (placed.gap.takeWhile (· != Segment.lineFeed)).any (!Text.isBlankByte ·)

/-- Whether only blanks stand between the comment and the one before it. -/
def followsBlanks (placed : PlacedComment) : Bool :=
  placed.gap.all Text.isBlankByte

/-- Whether a comment joins a group that ends on a line. -/
def joins (placed : PlacedComment) (behindCode : Bool) (lastLine : Nat) : Bool :=
  let greatestLine := if behindCode then lastLine else lastLine + 1
  decide (placed.comment.span.start.line ≤ greatestLine) && placed.followsBlanks

end PlacedComment

namespace CommentGroup

/-- Groups comments, where `newest` and `older` are those of the open group, last one first. -/
def collect (behindCode : Bool) (newest : Comment) (older : List Comment) :
    List PlacedComment → List CommentGroup
  | [] => [⟨(newest :: older).reverse⟩]
  | placed :: rest =>
      if placed.joins behindCode newest.span.finish.line then
        collect behindCode placed.comment (newest :: older) rest
      else
        ⟨(newest :: older).reverse⟩ :: collect placed.followsCode placed.comment [] rest

def ofPlaced : List PlacedComment → List CommentGroup
  | [] => []
  | first :: rest => collect first.followsCode first.comment [] rest

def ofSource (source : List UInt8) : List CommentGroup :=
  ofPlaced (PlacedComment.ofSegments .origin [] (Segment.list source))

end CommentGroup

end LiteralAudit
