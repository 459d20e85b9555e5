import LiteralAudit.Source.CommentIndex
import Mathlib.Data.List.Basic

/-!
# The groups that an index binds to a span

An index puts its groups in the order of their starts, and this sorting is stable. So it makes no
difference whether the groups bound to a span are picked before or after: what an index binds to a
span depends on nothing but the bound ones among its groups.
-/

namespace LiteralAudit

/-! ## Stable sorting -/

theorem eq_of_append_eq_of_forall
    {alpha : Type} {test : alpha → Bool} {front back front' back' : List alpha}
    (same : front ++ back = front' ++ back')
    (frontTest : ∀ item ∈ front, test item = true)
    (backTest : ∀ item ∈ back, test item = false)
    (frontTest' : ∀ item ∈ front', test item = true)
    (backTest' : ∀ item ∈ back', test item = false) :
    front = front' ∧ back = back' := by
  have kept : ∀ {first second : List alpha}, (∀ item ∈ first, test item = true) →
      (∀ item ∈ second, test item = false) → (first ++ second).filter test = first := by
    intro first second passes fails
    rw [List.filter_append, List.filter_eq_self.mpr passes, List.filter_eq_nil_iff.mpr,
      List.append_nil]
    intro item member
    simp [fails item member]
  have sameFront : front = front' := by
    rw [← kept frontTest backTest, same, kept frontTest' backTest']
  subst sameFront
  exact ⟨rfl, List.append_cancel_left same⟩

section

variable {alpha : Type} {le : alpha → alpha → Bool}
  (trans : ∀ left middle right, le left middle = true → le middle right = true →
    le left right = true)
  (total : ∀ left right, (le left right || le right left) = true)

include trans total in
theorem le_of_mergeSort_eq_append {items front back : List alpha} {item : alpha}
    (sorted : items.mergeSort le = front ++ item :: back) :
    ∀ other ∈ back, le item other = true := by
  have pairs := List.pairwise_mergeSort trans total items
  rw [sorted, List.pairwise_append] at pairs
  exact (List.pairwise_cons.mp pairs.2.1).1

include trans total in
/-- Items can be picked before or after they are sorted. -/
theorem filter_mergeSort (keep : alpha → Bool) (items : List alpha) :
    (items.mergeSort le).filter keep = (items.filter keep).mergeSort le := by
  induction items with
  | nil => simp
  | cons item further inductionHypothesis =>
      obtain ⟨front, back, sorted, rest, before⟩ := List.mergeSort_cons trans total item further
      rw [rest, List.filter_append] at inductionHypothesis
      rw [sorted, List.filter_append]
      by_cases kept : keep item = true
      · obtain ⟨front', back', sorted', rest', before'⟩ :=
          List.mergeSort_cons trans total item (further.filter keep)
        rw [rest'] at inductionHypothesis
        rw [List.filter_cons_of_pos kept, List.filter_cons_of_pos kept, sorted']
        -- Exactly those items stand before this one that it may not stand before.
        have after : ∀ other ∈ back, (!le item other) = false := by
          intro other member
          rw [le_of_mergeSort_eq_append trans total sorted other member, Bool.not_true]
        have after' : ∀ other ∈ back', (!le item other) = false := by
          intro other member
          rw [le_of_mergeSort_eq_append trans total sorted' other member, Bool.not_true]
        obtain ⟨sameFront, sameBack⟩ :=
          eq_of_append_eq_of_forall inductionHypothesis
            (fun other member => before other (List.mem_of_mem_filter member))
            (fun other member => after other (List.mem_of_mem_filter member))
            before' after'
        rw [sameFront, sameBack]
      · rw [List.filter_cons_of_neg kept, List.filter_cons_of_neg kept, inductionHypothesis]

end

/-! ## Groups in the order of their starts -/

namespace Position

theorem le_iff (left right : Position) :
    left.le right = true ↔
      left.line < right.line ∨ (left.line = right.line ∧ left.column ≤ right.column) := by
  simp [le]

theorem le_trans (left middle right : Position)
    (first : left.le middle = true) (second : middle.le right = true) :
    left.le right = true := by
  rw [le_iff] at *
  omega

theorem le_total (left right : Position) :
    (left.le right || right.le left) = true := by
  rw [Bool.or_eq_true, le_iff, le_iff]
  omega

end Position

namespace CommentIndex

theorem isAbove_iff {group : CommentGroup} {span : Span} :
    isAbove group span = true ↔ 1 < span.start.line ∧ group.finish.line + 1 = span.start.line := by
  rw [isAbove, Bool.and_eq_true, decide_eq_true_iff, beq_iff_eq]
  omega

theorem isBehind_iff {group : CommentGroup} {span : Span} :
    isBehind group span = true ↔
      group.start.line = span.finish.line ∧ span.finish.column < group.start.column := by
  rw [isBehind, Bool.and_eq_true, decide_eq_true_iff, beq_iff_eq]

/-- A group without comments is bound to nothing. -/
theorem isRelated_of_isEmpty {group : CommentGroup} (none : group.isEmpty = true) (span : Span) :
    isRelated group span = false := by
  have noComments : group.comments = [] := List.isEmpty_iff.mp none
  have start : group.start = .nowhere := by
    rw [CommentGroup.start, noComments]
    rfl
  have finish : group.finish = .nowhere := by
    rw [CommentGroup.finish, noComments]
    rfl
  rw [isRelated, isAbove, isBehind, start, finish, Bool.or_eq_false_iff]
  constructor
  · by_cases below : 1 < span.start.line
    · have different : ¬ 0 = span.start.line - 1 := by omega
      simp [Position.nowhere, different]
    · simp [below]
  · simp [Position.nowhere]

/-- The groups that an index of some groups binds to a span. -/
theorem related_ofGroups (groups : List CommentGroup) (span : Span) :
    (ofGroups groups).related span =
      (groups.filter fun group => isRelated group span).mergeSort
        fun left right => left.start.le right.start := by
  have picked :
      ((groups.filter (!·.isEmpty)).filter fun group => isRelated group span) =
        groups.filter fun group => isRelated group span := by
    rw [List.filter_filter]
    apply List.filter_congr
    intro group _
    cases empty : group.isEmpty with
    | true => rw [isRelated_of_isEmpty empty, Bool.false_and]
    | false => rw [Bool.not_false, Bool.and_true]
  rw [← picked]
  exact filter_mergeSort
    (fun left middle right => Position.le_trans left.start middle.start right.start)
    (fun left right => Position.le_total left.start right.start) _ _

/-- What an index says of a span depends on nothing but the groups bound to it. -/
theorem directiveFor_ofGroups_eq {groups others : List CommentGroup} {span : Span}
    (same : (groups.filter fun group => isRelated group span) =
      others.filter fun group => isRelated group span) :
    (ofGroups groups).directiveFor span = (ofGroups others).directiveFor span := by
  rw [directiveFor, directiveFor, related_ofGroups, related_ofGroups, same]

end CommentIndex

end LiteralAudit
