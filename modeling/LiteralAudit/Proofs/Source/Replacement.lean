import LiteralAudit.Proofs.Source.GroupOrder

/-!
# Replacing one comment

When one comment of a source is replaced by another one of the same extent, the groups stay as they
are but for the text of this comment.
-/

namespace LiteralAudit

/-! ## Comments that change their text only -/

namespace PlacedComment

def map (change : Comment → Comment) (placed : PlacedComment) : PlacedComment :=
  ⟨change placed.comment, placed.gap⟩

end PlacedComment

namespace CommentGroup

def map (change : Comment → Comment) (group : CommentGroup) : CommentGroup :=
  ⟨group.comments.map change⟩

section

variable {change : Comment → Comment}
  (keeps : ∀ comment, (change comment).span = comment.span)

include keeps

theorem start_map (group : CommentGroup) : (group.map change).start = group.start := by
  have same : (fun comment => (change comment).span.start) = fun comment => comment.span.start := by
    funext comment
    rw [keeps]
  rw [start, start, map, List.head?_map, Option.map_map]
  exact congrArg (fun read => (group.comments.head?.map read).getD Position.nowhere) same

theorem joins_map (placed : PlacedComment) (behindCode : Bool) (lastLine : Nat) :
    (placed.map change).joins behindCode lastLine = placed.joins behindCode lastLine := by
  simp only [PlacedComment.joins, PlacedComment.map, keeps, PlacedComment.followsBlanks]

/-- Comments are grouped by their spans and the gaps between them, whatever their texts. -/
theorem collect_map (behindCode : Bool) (newest : Comment) (older : List Comment)
    (comments : List PlacedComment) :
    collect behindCode (change newest) (older.map change) (comments.map (·.map change)) =
      (collect behindCode newest older comments).map (map change) := by
  induction comments generalizing behindCode newest older with
  | nil => simp [collect, map]
  | cons placed rest inductionHypothesis =>
      rw [List.map_cons, collect, collect, joins_map keeps, keeps]
      by_cases joins : placed.joins behindCode newest.span.finish.line = true
      · rw [if_pos joins, if_pos joins]
        exact inductionHypothesis behindCode placed.comment (newest :: older)
      · rw [if_neg joins, if_neg joins, List.map_cons]
        have opened : (change newest :: older.map change).reverse =
            (newest :: older).reverse.map change := by
          simp
        rw [opened]
        exact congrArg _ (inductionHypothesis placed.followsCode placed.comment [])

theorem ofPlaced_map (comments : List PlacedComment) :
    ofPlaced (comments.map (·.map change)) = (ofPlaced comments).map (map change) := by
  cases comments with
  | nil => rfl
  | cons first rest => exact collect_map keeps first.followsCode first.comment [] rest

end

end CommentGroup

/-! ## A replaced comment -/

namespace Extent

/-- A source in which one comment is replaced by another one of the same extent. -/
structure Replaced (source other : List UInt8) (changed : Extent) : Prop where
  member : changed ∈ ofSource source
  places : ofSource other = ofSource source
  before : other.take changed.start = source.take changed.start
  after : other.drop changed.stop = source.drop changed.stop
  span : (changed.comment other).span = (changed.comment source).span

instance (source other : List UInt8) (changed : Extent) :
    Decidable (Replaced source other changed) :=
  decidable_of_iff
    (changed ∈ ofSource source ∧ ofSource other = ofSource source ∧
      other.take changed.start = source.take changed.start ∧
      other.drop changed.stop = source.drop changed.stop ∧
      (changed.comment other).span = (changed.comment source).span)
    ⟨fun ⟨member, places, before, after, span⟩ => ⟨member, places, before, after, span⟩,
      fun ⟨member, places, before, after, span⟩ => ⟨member, places, before, after, span⟩⟩

/-- Takes the comment at a place from another source. -/
def exchange (source other : List UInt8) (changed : Extent) (comment : Comment) : Comment :=
  if comment.span = (changed.comment source).span then changed.comment other else comment

namespace Replaced

variable {source other : List UInt8} {changed : Extent}

theorem bytesBetween_before (replaced : Replaced source other changed) {start stop : Nat}
    (early : stop ≤ changed.start) :
    bytesBetween other start stop = bytesBetween source start stop := by
  have same := congrArg (List.take stop) replaced.before
  rw [List.take_take, List.take_take, Nat.min_eq_left early] at same
  rw [bytesBetween, bytesBetween, same]

theorem bytesBetween_after (replaced : Replaced source other changed) {start stop : Nat}
    (late : changed.stop ≤ start) :
    bytesBetween other start stop = bytesBetween source start stop := by
  have same := congrArg (List.drop (start - changed.stop)) replaced.after
  rw [List.drop_drop, List.drop_drop, Nat.add_sub_cancel' late] at same
  rw [bytesBetween, bytesBetween, List.drop_take, List.drop_take, same]

theorem ofOffset_before (replaced : Replaced source other changed) {offset : Nat}
    (early : offset ≤ changed.start) :
    Position.ofOffset other offset = Position.ofOffset source offset := by
  have same : bytesBetween other 0 offset = bytesBetween source 0 offset :=
    replaced.bytesBetween_before early
  exact congrArg Position.behind same

theorem ofOffset_after (replaced : Replaced source other changed) {offset : Nat}
    (late : changed.stop ≤ offset) :
    Position.ofOffset other offset = Position.ofOffset source offset := by
  have finish : Position.ofOffset other changed.stop = Position.ofOffset source changed.stop :=
    congrArg Span.finish replaced.span
  rw [Position.ofOffset_eq_advanceOver other late, Position.ofOffset_eq_advanceOver source late,
    finish, replaced.bytesBetween_after (Nat.le_refl _)]

/-- All other comments stay as they are. -/
theorem comment_eq (replaced : Replaced source other changed) {place : Extent}
    (member : place ∈ ofSource source) (different : place ≠ changed) :
    place.comment other = place.comment source := by
  have filled := start_lt_stop member
  rcases stop_le_start_or replaced.member member different with early | late
  · rw [comment, comment, replaced.bytesBetween_before early,
      replaced.ofOffset_before (by omega), replaced.ofOffset_before early]
  · rw [comment, comment, replaced.bytesBetween_after late,
      replaced.ofOffset_after late, replaced.ofOffset_after (by omega)]

/-- Comments keep their places. -/
theorem exchange_keeps (replaced : Replaced source other changed) (comment : Comment) :
    (exchange source other changed comment).span = comment.span := by
  rw [exchange]
  split
  · next same => rw [replaced.span, same]
  · rfl

theorem exchange_comment (replaced : Replaced source other changed) {place : Extent}
    (member : place ∈ ofSource source) :
    exchange source other changed (place.comment source) = place.comment other := by
  rw [exchange]
  by_cases same : place = changed
  · rw [same, if_pos rfl]
  · have apart : (place.comment source).span ≠ (changed.comment source).span := by
      intro sameSpan
      have filled := start_lt_stop member
      have inside := stop_le_length member
      have changedFilled := start_lt_stop replaced.member
      have changedInside := stop_le_length replaced.member
      have sameStart : place.start = changed.start :=
        Position.ofOffset_injective (by omega) (by omega) (congrArg Span.start sameSpan)
      have disjoint := stop_le_start_or replaced.member member same
      omega
    rw [if_neg apart, replaced.comment_eq member same]

/-- The gaps between the comments stay as they are, since each of them is before the replaced comment
or behind it. -/
theorem placed_eq (replaced : Replaced source other changed) {floor : Nat} {places : List Extent}
    (members : ∀ place ∈ places, place ∈ ofSource source)
    (within : Within source.length floor places)
    (passed : changed ∈ places ∨ changed.stop ≤ floor) :
    placed other floor places =
      (placed source floor places).map (·.map (exchange source other changed)) := by
  induction places generalizing floor with
  | nil => rfl
  | cons place rest inductionHypothesis =>
      obtain ⟨-, filled, -, later⟩ := within.of_cons
      have member := members place List.mem_cons_self
      have restMembers : ∀ next ∈ rest, next ∈ ofSource source :=
        fun next restMember => members next (List.mem_cons_of_mem place restMember)
      have gap : bytesBetween other floor place.start = bytesBetween source floor place.start := by
        rcases passed with present | late
        · rcases List.mem_cons.mp present with same | further
          · exact replaced.bytesBetween_before (same ▸ Nat.le_refl _)
          · have behind := later.floor_le_start changed further
            exact replaced.bytesBetween_before (by omega)
        · exact replaced.bytesBetween_after late
      have restPassed : changed ∈ rest ∨ changed.stop ≤ place.stop := by
        rcases passed with present | late
        · rcases List.mem_cons.mp present with same | further
          · exact Or.inr (same ▸ Nat.le_refl _)
          · exact Or.inl further
        · have start := within.of_cons.1
          exact Or.inr (by omega)
      rw [placed, placed, List.map_cons, gap, inductionHypothesis restMembers later restPassed,
        PlacedComment.map, replaced.exchange_comment member]

/-- Replacing the bytes of one comment changes that comment and nothing else. -/
theorem ofSource_eq (replaced : Replaced source other changed) :
    CommentGroup.ofSource other =
      (CommentGroup.ofSource source).map (.map (exchange source other changed)) := by
  rw [CommentGroup.ofSource_eq_ofPlaced, CommentGroup.ofSource_eq_ofPlaced, replaced.places,
    replaced.placed_eq (fun _ member => member) (ofSource_within source) (Or.inl replaced.member)]
  exact CommentGroup.ofPlaced_map replaced.exchange_keeps _

/-- The groups behind a span below the replaced comment stay as they are. -/
theorem filter_isBehind (replaced : Replaced source other changed) {span : Span}
    (below : (Position.ofOffset source changed.start).line < span.finish.line) :
    (CommentGroup.ofSource other).filter (CommentIndex.isBehind · span) =
      (CommentGroup.ofSource source).filter (CommentIndex.isBehind · span) := by
  have sameTest :
      ((CommentIndex.isBehind · span) ∘ CommentGroup.map (exchange source other changed)) =
        (CommentIndex.isBehind · span) := by
    funext group
    simp only [Function.comp_apply, CommentIndex.isBehind,
      CommentGroup.start_map replaced.exchange_keeps]
  have kept : ∀ group ∈ (CommentGroup.ofSource source).filter (CommentIndex.isBehind · span),
      group.map (exchange source other changed) = group := by
    intro group member
    obtain ⟨present, behind⟩ := List.mem_filter.mp member
    have unchanged : ∀ comment ∈ group.comments,
        exchange source other changed comment = comment := by
      intro comment inside
      have start := (CommentGroup.bounds_of_mem_ofSource present inside).1
      have apart : comment.span ≠ (changed.comment source).span := by
        intro same
        have line : comment.span.start.line = (Position.ofOffset source changed.start).line :=
          congrArg (·.start.line) same
        rw [CommentIndex.isBehind_iff] at behind
        rw [Position.le_iff] at start
        omega
      rw [exchange, if_neg apart]
    rw [CommentGroup.map, List.map_congr_left unchanged, List.map_id']
  rw [replaced.ofSource_eq, List.filter_map, sameTest, List.map_congr_left kept, List.map_id']

end Replaced

end Extent

end LiteralAudit
