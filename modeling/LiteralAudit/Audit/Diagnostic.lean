/-!
# Diagnostics and results

A diagnostic points at a literal that leaves required fields unset. A result joins the diagnostics
of some files with the counts of what was looked at.
-/

namespace LiteralAudit

structure Diagnostic where
  file : String
  line : Nat
  column : Nat
  message : String
  deriving DecidableEq, Repr

namespace Diagnostic

/-- The order of diagnostics: by file, then by place, then by message. -/
def le (left right : Diagnostic) : Bool :=
  if left.file ≠ right.file then decide (left.file < right.file)
  else if left.line ≠ right.line then decide (left.line < right.line)
  else if left.column ≠ right.column then decide (left.column < right.column)
  else decide (left.message ≤ right.message)

end Diagnostic

structure CheckResult where
  diagnostics : List Diagnostic
  filesScanned : Nat
  literalsVisited : Nat
  deriving DecidableEq, Repr

namespace CheckResult

def empty : CheckResult := ⟨[], 0, 0⟩

def merge (left right : CheckResult) : CheckResult where
  diagnostics := left.diagnostics ++ right.diagnostics
  filesScanned := left.filesScanned + right.filesScanned
  literalsVisited := left.literalsVisited + right.literalsVisited

def sort (result : CheckResult) : CheckResult :=
  { result with diagnostics := result.diagnostics.mergeSort Diagnostic.le }

def passed (result : CheckResult) : Bool :=
  result.diagnostics.isEmpty

end CheckResult

end LiteralAudit
