/-!
# Positions in source files

Lines and columns count from one, columns in bytes. The end of a span is the position after its last
byte.
-/

namespace LiteralAudit

structure Position where
  line : Nat
  column : Nat
  deriving DecidableEq, Repr, Inhabited

namespace Position

/-- The position of what has no place in a file. -/
def nowhere : Position := ⟨0, 0⟩

/-- The order of a file: by line, then by column. -/
def le (left right : Position) : Bool :=
  decide (left.line < right.line) ||
    (left.line == right.line && decide (left.column ≤ right.column))

def text (position : Position) : String :=
  toString position.line ++ ":" ++ toString position.column

end Position

structure Span where
  start : Position
  finish : Position
  deriving DecidableEq, Repr, Inhabited

namespace Span

def onLine (line startColumn finishColumn : Nat) : Span :=
  ⟨⟨line, startColumn⟩, ⟨line, finishColumn⟩⟩

end Span

end LiteralAudit
