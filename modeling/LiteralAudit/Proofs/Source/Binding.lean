import LiteralAudit.Proofs.Source.Index
import LiteralAudit.Source.Grouping

/-!
# Which groups are bound to a span

A group is meant to be bound to a span when it ends on the line above, or when it starts on the last
line of the span, where the span has ended already. A span ends at the position behind its last
character, and a group that starts at just this position has the span before it and nothing in
between. An index leaves such a group out, and this is the only difference.

Lines are counted down for the line above. In 64 bits this is never done at zero.
-/

namespace LiteralAudit

/-- Two tests pick the same items in the same order only if they agree on every item. -/
theorem filter_eq_filter_iff {alpha : Type} {first second : alpha → Bool} {items : List alpha} :
    items.filter first = items.filter second ↔ ∀ item ∈ items, first item = second item := by
  constructor
  · intro same item member
    have picked : item ∈ items.filter first ↔ item ∈ items.filter second := by rw [same]
    rw [List.mem_filter, List.mem_filter, and_iff_right member, and_iff_right member] at picked
    exact Bool.eq_iff_iff.mpr picked
  · exact List.filter_congr

namespace CommentGroup

variable (group : CommentGroup) (span : Span)

/-- The group ends on the line above the span. As lines count from one, none is above the first. -/
def EndsAbove : Prop :=
  1 < span.start.line ∧ group.finish.line + 1 = span.start.line

/-- The group starts on the last line of the span, at or behind the position where it ends. -/
def StartsAfter : Prop :=
  group.start.line = span.finish.line ∧ span.finish.column ≤ group.start.column

/-- The group is meant to be bound to the span. -/
def IsBound : Prop :=
  group.EndsAbove span ∨ group.StartsAfter span

instance : Decidable (group.EndsAbove span) :=
  inferInstanceAs (Decidable (_ ∧ _))

instance : Decidable (group.StartsAfter span) :=
  inferInstanceAs (Decidable (_ ∧ _))

instance : Decidable (group.IsBound span) :=
  inferInstanceAs (Decidable (_ ∨ _))

variable {group span}

/-- Between the span and a group on its last line stands some text, or the group touches the span. -/
theorem startsAfter_iff :
    group.StartsAfter span ↔
      CommentIndex.isBehind group span = true ∨ group.start = span.finish := by
  have touches : group.start = span.finish ↔
      group.start.line = span.finish.line ∧ group.start.column = span.finish.column := by
    cases group.start
    cases span.finish
    simp
  rw [CommentIndex.isBehind_iff, touches, StartsAfter]
  omega

end CommentGroup

namespace CommentIndex

variable {group : CommentGroup} {span : Span}

/-- What is related is above the span or behind it, but for a comment that touches its end. -/
theorem isRelated_iff :
    isRelated group span = true ↔
      group.EndsAbove span ∨ (group.StartsAfter span ∧ group.start ≠ span.finish) := by
  have apart : isBehind group span = true → group.start ≠ span.finish := by
    intro behind touches
    rw [isBehind_iff, touches] at behind
    exact Nat.lt_irrefl _ behind.2
  rw [isRelated, Bool.or_eq_true, CommentGroup.startsAfter_iff, isAbove_iff,
    CommentGroup.EndsAbove]
  tauto

/-- A group is bound as it is meant to be unless it touches the span. -/
theorem isRelated_eq_isBound_iff :
    isRelated group span = decide (group.IsBound span) ↔
      (group.start = span.finish → group.EndsAbove span) := by
  rw [Bool.eq_iff_iff, decide_eq_true_iff, isRelated_iff, CommentGroup.IsBound]
  by_cases touches : group.start = span.finish
  · have after : group.StartsAfter span := CommentGroup.startsAfter_iff.mpr (Or.inr touches)
    simp [touches, after]
  · simp [touches]

/-! ## Lines of 64 bits -/

/-- The line above a line, by subtraction. It fails below zero. -/
def lineAbove? (line : UInt64) : Option UInt64 :=
  if 1 ≤ line then some (line - 1) else none

/-- Whether a group that ends on a line is above a span that starts on another. -/
def isAboveInWords? (finishLine startLine : UInt64) : Option Bool :=
  if 1 < startLine then (lineAbove? startLine).map (finishLine == ·) else some false

/-- Lines of 64 bits are compared without overflow. -/
theorem isAboveInWords?_eq {finishLine startLine : UInt64}
    (finish : group.finish.line = finishLine.toNat) (start : span.start.line = startLine.toNat) :
    isAboveInWords? finishLine startLine = some (isAbove group span) := by
  have one : (1 : UInt64).toNat = 1 := rfl
  rw [isAboveInWords?, isAbove, finish, start]
  by_cases later : 1 < startLine
  · have laterLine : 1 < startLine.toNat := UInt64.lt_iff_toNat_lt.mp later
    have present : (1 : UInt64) ≤ startLine := UInt64.le_iff_toNat_le.mpr (Nat.le_of_lt laterLine)
    have exact : (startLine - 1).toNat = startLine.toNat - 1 := by
      rw [UInt64.toNat_sub_of_le _ _ present, one]
    rw [if_pos later, lineAbove?, if_pos present, Option.map_some, decide_eq_true laterLine,
      Bool.true_and, ← exact]
    congr 1
    rw [Bool.eq_iff_iff, beq_iff_eq, beq_iff_eq, UInt64.toNat_inj]
  · have notLater : ¬ 1 < startLine.toNat := fun less => later (UInt64.lt_iff_toNat_lt.mpr less)
    rw [if_neg later, decide_eq_false notLater, Bool.false_and]

/-! ## The groups of an index -/

/-- An index binds to a span, in its own order, the groups above it and those behind it that do not
touch it. This is what is meant exactly when no group touches the span that is not above it as well.
Of the groups on the last line of the span, those are bound that anything stands in front of. The
line above is found in 64 bits for every line. -/
theorem related_eq_filter_isBound_iff (index : CommentIndex) (span : Span) :
    index.related span = index.groups.filter (fun group =>
        group.EndsAbove span ∨ (group.StartsAfter span ∧ group.start ≠ span.finish)) ∧
    (index.related span = index.groups.filter (·.IsBound span) ↔
      ∀ group ∈ index.groups, group.start = span.finish → group.EndsAbove span) ∧
    (∀ group ∈ index.groups, ∀ between : Nat,
      group.start = ⟨span.finish.line, span.finish.column + between⟩ →
        (group ∈ index.related span ↔ 0 < between ∨ group.EndsAbove span)) ∧
    ∀ (group : CommentGroup) (finishLine startLine : UInt64),
      group.finish.line = finishLine.toNat → span.start.line = startLine.toNat →
        isAboveInWords? finishLine startLine = some (decide (group.EndsAbove span)) := by
  refine ⟨?picked, ?meant, ?between, ?words⟩
  case picked =>
    apply List.filter_congr
    intro group _
    rw [Bool.eq_iff_iff, decide_eq_true_iff, isRelated_iff]
  case meant =>
    rw [related, filter_eq_filter_iff]
    simp only [isRelated_eq_isBound_iff]
  case between =>
    intro group member between start
    have after : group.StartsAfter span := by
      rw [CommentGroup.StartsAfter, start]
      exact ⟨rfl, Nat.le_add_right _ _⟩
    have touches : group.start = span.finish ↔ between = 0 := by
      rw [start]
      cases span.finish
      simp
    rw [related, List.mem_filter, and_iff_right member, isRelated_iff, ne_eq, touches,
      and_iff_right after, Nat.pos_iff_ne_zero]
    exact or_comm
  case words =>
    intro group finishLine startLine finish start
    rw [isAboveInWords?_eq finish start]
    congr 1
    rw [Bool.eq_iff_iff, decide_eq_true_iff, isAbove_iff, CommentGroup.EndsAbove]

/-- A literal with a directive behind it, and some text between the two. -/
def trailedLiteral (between : String) : List UInt8 :=
  Utf8.encode "package p\n\nvar x = T\x7b\x7d" ++ Utf8.encode between ++
    Utf8.encode "//exhaustruct:ignore\n"

/-- A directive that touches a literal starts where the literal has ended, and still is not bound to
it. One behind a blank is. -/
theorem related_trailedLiteral_ne :
    (ofGroups (CommentGroup.ofSource (trailedLiteral ""))).groups =
        [.ofLine "//exhaustruct:ignore" 3 12] ∧
      (CommentGroup.ofLine "//exhaustruct:ignore" 3 12).StartsAfter (.onLine 3 9 12) ∧
      (ofGroups (CommentGroup.ofSource (trailedLiteral ""))).related (.onLine 3 9 12) ≠
        (ofGroups (CommentGroup.ofSource (trailedLiteral ""))).groups.filter
          (·.IsBound (.onLine 3 9 12)) ∧
      (ofGroups (CommentGroup.ofSource (trailedLiteral ""))).directiveFor (.onLine 3 9 12) =
        .unspecified ∧
      (ofGroups (CommentGroup.ofSource (trailedLiteral " "))).directiveFor (.onLine 3 9 12) =
        .ignore := by
  decide +kernel

end CommentIndex

end LiteralAudit
