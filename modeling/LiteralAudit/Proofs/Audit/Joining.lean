import LiteralAudit.Proofs.Audit.DiagnosticOrder
import Mathlib.Algebra.BigOperators.Group.List.Basic
import Mathlib.Algebra.Ring.Nat
import Mathlib.Data.List.Flatten

/-!
# Results are joined

Results are merged one after the other, and sorted at the end. What comes out is one list of all
diagnostics that were merged, ordered by the bytes of the file, the line, the column and the bytes
of the message, together with the sums of the counts. It depends neither on the order of the merges
nor on where else results were sorted.
-/

namespace LiteralAudit

namespace CheckResult

/-- A result that joins others: all their diagnostics in order, and the sums of their counts. -/
structure Joins (results : List CheckResult) (result : CheckResult) : Prop where
  ordered : result.diagnostics.Pairwise fun earlier later => earlier.key ≤ later.key
  diagnostics : result.diagnostics.Perm (results.flatMap (·.diagnostics))
  filesScanned : result.filesScanned = (results.map (·.filesScanned)).sum
  literalsVisited : result.literalsVisited = (results.map (·.literalsVisited)).sum

def mergeAll (results : List CheckResult) : CheckResult :=
  results.foldr merge empty

/-- A result that has what others have, its diagnostics in any order. -/
structure Gathers (results : List CheckResult) (result : CheckResult) : Prop where
  diagnostics : result.diagnostics.Perm (results.flatMap (·.diagnostics))
  filesScanned : result.filesScanned = (results.map (·.filesScanned)).sum
  literalsVisited : result.literalsVisited = (results.map (·.literalsVisited)).sum

namespace Gathers

variable {results others : List CheckResult} {result other : CheckResult}

theorem singleton (result : CheckResult) : Gathers [result] result where
  diagnostics := by simp
  filesScanned := by simp
  literalsVisited := by simp

theorem merge (first : Gathers results result) (second : Gathers others other) :
    Gathers (results ++ others) (result.merge other) where
  diagnostics := by
    rw [List.flatMap_append]
    exact first.diagnostics.append second.diagnostics
  filesScanned := by
    rw [List.map_append, List.sum_append, ← first.filesScanned, ← second.filesScanned]
    rfl
  literalsVisited := by
    rw [List.map_append, List.sum_append, ← first.literalsVisited, ← second.literalsVisited]
    rfl

theorem sort (gathers : Gathers results result) : Gathers results result.sort where
  diagnostics := result.sort_diagnostics_perm.trans gathers.diagnostics
  filesScanned := gathers.filesScanned
  literalsVisited := gathers.literalsVisited

theorem joins_sort (gathers : Gathers results result) : Joins results result.sort where
  ordered := result.sort_diagnostics_pairwise
  diagnostics := gathers.sort.diagnostics
  filesScanned := gathers.filesScanned
  literalsVisited := gathers.literalsVisited

end Gathers

theorem gathers_mergeAll (results : List CheckResult) : Gathers results (mergeAll results) := by
  induction results with
  | nil => exact ⟨.refl _, rfl, rfl⟩
  | cons first further inductionHypothesis =>
      exact (Gathers.singleton first).merge inductionHypothesis

theorem joins_sort_mergeAll (results : List CheckResult) :
    Joins results (mergeAll results).sort :=
  (gathers_mergeAll results).joins_sort

namespace Joins

variable {results others : List CheckResult} {result other : CheckResult}

theorem of_perm (permuted : results.Perm others) (joins : Joins results result) :
    Joins others result where
  ordered := joins.ordered
  diagnostics := joins.diagnostics.trans (permuted.flatMap_right _)
  filesScanned := joins.filesScanned.trans (permuted.map _).sum_eq
  literalsVisited := joins.literalsVisited.trans (permuted.map _).sum_eq

/-- Some results can be joined in just one way. -/
theorem unique (first : Joins results result) (second : Joins results other) :
    result = other := by
  have same : result.diagnostics = other.diagnostics :=
    Diagnostic.eq_of_perm (first.diagnostics.trans second.diagnostics.symm)
      first.ordered second.ordered
  obtain ⟨diagnostics, filesScanned, literalsVisited⟩ := result
  obtain ⟨diagnostics', filesScanned', literalsVisited'⟩ := other
  obtain rfl : diagnostics = diagnostics' := same
  obtain rfl : filesScanned = filesScanned' := first.filesScanned.trans second.filesScanned.symm
  obtain rfl : literalsVisited = literalsVisited' :=
    first.literalsVisited.trans second.literalsVisited.symm
  rfl

theorem gathers (joins : Joins results result) : Gathers results result :=
  ⟨joins.diagnostics, joins.filesScanned, joins.literalsVisited⟩

/-- What is joined from two parts and sorted again is joined from all. -/
theorem sort_merge (first : Joins results result) (second : Joins others other) :
    Joins (results ++ others) (result.merge other).sort :=
  (first.gathers.merge second.gathers).joins_sort

end Joins

theorem joins_iff {results : List CheckResult} {result : CheckResult} :
    Joins results result ↔ (mergeAll results).sort = result := by
  constructor
  · exact (joins_sort_mergeAll results).unique
  · rintro rfl
    exact joins_sort_mergeAll results

/-! ## Merging and sorting -/

inductive Step where
  | merge (other : CheckResult)
  | sort

namespace Step

def perform : Step → CheckResult → CheckResult
  | merge other, result => result.merge other
  | sort, result => result.sort

/-- What a step adds to a result. -/
def merged : Step → List CheckResult
  | merge other => [other]
  | sort => []

end Step

def performAll (result : CheckResult) (steps : List Step) : CheckResult :=
  steps.foldl (fun result step => step.perform result) result

/-- A result, and all that is merged into it by some steps. -/
def gathered (result : CheckResult) (steps : List Step) : List CheckResult :=
  result :: steps.flatMap Step.merged

theorem performAll_append (result : CheckResult) (front back : List Step) :
    result.performAll (front ++ back) = (result.performAll front).performAll back :=
  List.foldl_append

namespace Gathers

variable {results : List CheckResult} {result : CheckResult}

/-- A step loses no diagnostic and makes none up. -/
theorem perform (gathers : Gathers results result) (step : Step) :
    Gathers (results ++ step.merged) (step.perform result) := by
  cases step with
  | merge other => exact gathers.merge (.singleton other)
  | sort =>
      rw [Step.merged, List.append_nil]
      exact gathers.sort

theorem performAll (gathers : Gathers results result) (steps : List Step) :
    Gathers (results ++ steps.flatMap Step.merged) (result.performAll steps) := by
  induction steps generalizing results result with
  | nil =>
      rw [List.flatMap_nil, List.append_nil]
      exact gathers
  | cons step further inductionHypothesis =>
      have rest := inductionHypothesis (gathers.perform step)
      rwa [List.append_assoc, ← List.flatMap_cons] at rest

end Gathers

theorem gathers_performAll (result : CheckResult) (steps : List Step) :
    Gathers (result.gathered steps) (result.performAll steps) :=
  (Gathers.singleton result).performAll steps

/-- Steps that end with a sort join all that they merge. -/
theorem joins_performAll_sort (result : CheckResult) (steps : List Step) :
    Joins (result.gathered steps) (result.performAll (steps ++ [.sort])) := by
  rw [performAll_append]
  exact (gathers_performAll result steps).joins_sort

/-- Texts can as well be compared by the bytes of their encodings. -/
theorem joins_iff_byteKey {results : List CheckResult} {result : CheckResult} :
    Joins results result ↔
      result.diagnostics.Pairwise (fun earlier later => earlier.byteKey ≤ later.byteKey) ∧
        result.diagnostics.Perm (results.flatMap (·.diagnostics)) ∧
        result.filesScanned = (results.map (·.filesScanned)).sum ∧
        result.literalsVisited = (results.map (·.literalsVisited)).sum := by
  simp only [Diagnostic.byteKey_le_iff]
  constructor
  · intro joins
    exact ⟨joins.ordered, joins.diagnostics, joins.filesScanned, joins.literalsVisited⟩
  · rintro ⟨ordered, diagnostics, filesScanned, literalsVisited⟩
    exact ⟨ordered, diagnostics, filesScanned, literalsVisited⟩

/-- No count gets less by further steps. -/
theorem counts_performAll_le (result : CheckResult) (steps : List Step) :
    result.filesScanned ≤ (result.performAll steps).filesScanned ∧
      result.literalsVisited ≤ (result.performAll steps).literalsVisited := by
  obtain ⟨-, filesScanned, literalsVisited⟩ := gathers_performAll result steps
  rw [filesScanned, literalsVisited, gathered, List.map_cons, List.sum_cons, List.map_cons,
    List.sum_cons]
  exact ⟨Nat.le_add_right _ _, Nat.le_add_right _ _⟩

/-- Whatever was merged in whatever order, and wherever else it was sorted, a last sort gives the
one result that has all diagnostics in the order of their bytes and the sums of the counts. It
passes exactly when nothing that was merged has a diagnostic. No count on the way is greater than
the last one, so that counters that can hold the sums never overflow. -/
theorem performAll_sort_eq_iff (start : CheckResult) (steps : List Step) :
    (∀ result, start.performAll (steps ++ [.sort]) = result ↔
      result.diagnostics.Pairwise (fun earlier later => earlier.byteKey ≤ later.byteKey) ∧
      result.diagnostics.Perm ((start.gathered steps).flatMap (·.diagnostics)) ∧
      result.filesScanned = ((start.gathered steps).map (·.filesScanned)).sum ∧
      result.literalsVisited = ((start.gathered steps).map (·.literalsVisited)).sum) ∧
    (∀ (other : CheckResult) (others : List Step),
      ((start.gathered steps).flatMap (·.diagnostics)).Perm
        ((other.gathered others).flatMap (·.diagnostics)) →
      ((start.gathered steps).map (·.filesScanned)).sum =
        ((other.gathered others).map (·.filesScanned)).sum →
      ((start.gathered steps).map (·.literalsVisited)).sum =
        ((other.gathered others).map (·.literalsVisited)).sum →
      start.performAll (steps ++ [.sort]) = other.performAll (others ++ [.sort])) ∧
    ((start.performAll (steps ++ [.sort])).passed = true ↔
      ∀ result ∈ start.gathered steps, result.diagnostics = []) ∧
    ∀ front back, steps = front ++ back →
      (start.performAll front).filesScanned ≤
        (start.performAll (steps ++ [.sort])).filesScanned ∧
      (start.performAll front).literalsVisited ≤
        (start.performAll (steps ++ [.sort])).literalsVisited := by
  have joins := joins_performAll_sort start steps
  refine ⟨?value, ?content, ?passed, ?counts⟩
  case value =>
    intro result
    rw [← joins_iff_byteKey]
    constructor
    · rintro rfl
      exact joins
    · exact joins.unique
  case content =>
    intro other others diagnostics filesScanned literalsVisited
    have otherJoins := joins_performAll_sort other others
    exact joins.unique ⟨otherJoins.ordered, otherJoins.diagnostics.trans diagnostics.symm,
      otherJoins.filesScanned.trans filesScanned.symm,
      otherJoins.literalsVisited.trans literalsVisited.symm⟩
  case passed =>
    rw [passed, List.isEmpty_iff, ← List.perm_nil, joins.diagnostics.congr_left, List.perm_nil,
      List.flatMap_eq_nil_iff]
  case counts =>
    rintro front back rfl
    rw [List.append_assoc, performAll_append]
    exact (start.performAll front).counts_performAll_le (back ++ [.sort])

end CheckResult

end LiteralAudit
