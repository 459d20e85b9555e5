import LiteralAudit.Audit.Diagnostic
import LiteralAudit.Proofs.Text.ByteOrder
import Mathlib.Data.List.Sort
import Mathlib.Data.Prod.Lex
import Mathlib.Data.String.Basic

/-!
# The order of diagnostics

Diagnostics are compared by file, line, column and message, in this order. This is a linear order on
diagnostics, so that the diagnostics of a sorted result depend on nothing but how often each
diagnostic was found.
-/

namespace LiteralAudit

namespace Diagnostic

/-- What diagnostics are sorted by. -/
def key (diagnostic : Diagnostic) : String ×ₗ Nat ×ₗ Nat ×ₗ String :=
  toLex (diagnostic.file,
    toLex (diagnostic.line, toLex (diagnostic.column, diagnostic.message)))

/-- Diagnostics that are sorted by the same key are equal, so sorting leaves no choice. -/
theorem key_injective : Function.Injective key := by
  rintro ⟨file, line, column, message⟩ ⟨file', line', column', message'⟩ same
  simpa [key, Prod.ext_iff] using same

theorem le_iff_key_le (left right : Diagnostic) :
    left.le right = true ↔ left.key ≤ right.key := by
  simp only [key, Prod.Lex.toLex_le_toLex, le]
  by_cases sameFile : left.file = right.file
  · by_cases sameLine : left.line = right.line
    · by_cases sameColumn : left.column = right.column
      · simp [sameFile, sameLine, sameColumn]
      · simp [sameFile, sameLine, sameColumn]
    · simp [sameFile, sameLine]
  · simp [sameFile]

/-- What diagnostics are sorted by when texts are compared by their bytes. -/
def byteKey (diagnostic : Diagnostic) : List UInt8 ×ₗ Nat ×ₗ Nat ×ₗ List UInt8 :=
  toLex (Utf8.encode diagnostic.file,
    toLex (diagnostic.line, toLex (diagnostic.column, Utf8.encode diagnostic.message)))

/-- It makes no difference whether texts are compared by characters or by bytes. -/
theorem byteKey_le_iff {left right : Diagnostic} :
    left.byteKey ≤ right.byteKey ↔ left.key ≤ right.key := by
  have message : Utf8.encode left.message ≤ Utf8.encode right.message ↔
      left.message ≤ right.message := by
    rw [← List.not_lt, Utf8.encode_lt_encode_iff, not_lt]
  simp only [byteKey, key, Prod.Lex.toLex_le_toLex, Utf8.encode_lt_encode_iff,
    Utf8.encode_injective.eq_iff, message]

theorem le_trans (left middle right : Diagnostic)
    (first : left.le middle = true) (second : middle.le right = true) :
    left.le right = true := by
  rw [le_iff_key_le] at *
  exact first.trans second

theorem le_total (left right : Diagnostic) :
    (left.le right || right.le left) = true := by
  rw [Bool.or_eq_true, le_iff_key_le, le_iff_key_le]
  exact Std.le_total

/-- Diagnostics can be put in order in one way only. -/
theorem eq_of_perm {left right : List Diagnostic} (permuted : left.Perm right)
    (leftOrdered : left.Pairwise fun earlier later => earlier.key ≤ later.key)
    (rightOrdered : right.Pairwise fun earlier later => earlier.key ≤ later.key) :
    left = right := by
  refine permuted.eq_of_pairwise ?_ leftOrdered rightOrdered
  intro first second _ _ below above
  exact key_injective (below.antisymm above)

end Diagnostic

namespace CheckResult

/-- Sorting keeps all diagnostics, equal ones included. -/
theorem sort_diagnostics_perm (result : CheckResult) :
    result.sort.diagnostics.Perm result.diagnostics :=
  List.mergeSort_perm result.diagnostics Diagnostic.le

theorem sort_diagnostics_pairwise (result : CheckResult) :
    result.sort.diagnostics.Pairwise fun earlier later => earlier.key ≤ later.key :=
  (List.pairwise_mergeSort Diagnostic.le_trans Diagnostic.le_total result.diagnostics).imp
    (Diagnostic.le_iff_key_le _ _).mp

/-- What is found in another order sorts to the same result. -/
theorem sort_eq_of_perm {left right : CheckResult}
    (diagnostics : left.diagnostics.Perm right.diagnostics)
    (filesScanned : left.filesScanned = right.filesScanned)
    (literalsVisited : left.literalsVisited = right.literalsVisited) :
    left.sort = right.sort := by
  have permuted : left.sort.diagnostics.Perm right.sort.diagnostics :=
    (left.sort_diagnostics_perm.trans diagnostics).trans right.sort_diagnostics_perm.symm
  have same : left.sort.diagnostics = right.sort.diagnostics :=
    Diagnostic.eq_of_perm permuted left.sort_diagnostics_pairwise right.sort_diagnostics_pairwise
  simp only [sort] at same ⊢
  rw [same, filesScanned, literalsVisited]

end CheckResult

end LiteralAudit
