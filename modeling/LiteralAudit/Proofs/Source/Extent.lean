import LiteralAudit.Proofs.Source.Lexing
import LiteralAudit.Source.Grouping
import Mathlib.Data.List.Induction
import Mathlib.Data.List.Nodup

/-!
# Comments by their place in a source

A comment of a source is given by the offsets of its first byte and of the byte behind its last one.
Line and column of an offset count the line ends before it and the bytes since the last of them. The
walk over the segments of a source finds, for every comment, what these offsets say, and the places
of the comments follow each other.
-/

namespace LiteralAudit

namespace Position

/-- The position behind some bytes: one line more for every line end, and one column more for every
byte since. -/
def behind (bytes : List UInt8) : Position where
  line := 1 + bytes.count Segment.lineFeed
  column := 1 + (bytes.reverse.takeWhile (· != Segment.lineFeed)).length

def ofOffset (source : List UInt8) (offset : Nat) : Position :=
  behind (source.take offset)

theorem advanceOver_append (position : Position) (first second : List UInt8) :
    position.advanceOver (first ++ second) =
      (position.advanceOver first).advanceOver second :=
  List.foldl_append

theorem behind_concat (bytes : List UInt8) (byte : UInt8) :
    behind (bytes ++ [byte]) = (behind bytes).advance byte := by
  by_cases same : byte = Segment.lineFeed
  · simp [behind, advance, same, Nat.add_assoc]
  · simp [behind, advance, same, Nat.add_comm]

theorem origin_advanceOver (bytes : List UInt8) :
    origin.advanceOver bytes = behind bytes := by
  induction bytes using List.reverseRecOn with
  | nil => rfl
  | append_singleton bytes byte inductionHypothesis =>
      rw [advanceOver_append, inductionHypothesis, behind_concat]
      rfl

theorem behind_append (first second : List UInt8) :
    behind (first ++ second) = (behind first).advanceOver second := by
  rw [← origin_advanceOver, ← origin_advanceOver, advanceOver_append]

end Position

/-! ## Bytes between offsets -/

/-- The bytes of a source from one offset up to another. -/
def bytesBetween (source : List UInt8) (start stop : Nat) : List UInt8 :=
  (source.take stop).drop start

theorem take_eq_append_bytesBetween (source : List UInt8) {start stop : Nat}
    (order : start ≤ stop) :
    source.take stop = source.take start ++ bytesBetween source start stop := by
  have parts := List.take_append_drop start (source.take stop)
  rwa [List.take_take, Nat.min_eq_left order, eq_comm] at parts

/-- Neighbouring pieces of a source make one piece. -/
theorem bytesBetween_append {source : List UInt8} {start middle stop : Nat}
    (first : start ≤ middle) (second : middle ≤ stop) (inside : stop ≤ source.length) :
    bytesBetween source start middle ++ bytesBetween source middle stop =
      bytesBetween source start stop := by
  have split := take_eq_append_bytesBetween source second
  have long : start ≤ (source.take middle).length := by
    rw [List.length_take]
    omega
  calc
    bytesBetween source start middle ++ bytesBetween source middle stop
    _ = (source.take middle ++ bytesBetween source middle stop).drop start := by
      rw [List.drop_append_of_le_length long]
      rfl
    _ = bytesBetween source start stop := by
      rw [← split]
      rfl

theorem bytesBetween_eq_cons {source : List UInt8} {start stop : Nat} {byte : UInt8}
    (found : source[start]? = some byte) (before : start < stop) :
    bytesBetween source start stop = byte :: bytesBetween source (start + 1) stop := by
  have inside : start < (source.take stop).length := by
    have bound := (List.getElem?_eq_some_iff.mp found).1
    rw [List.length_take]
    omega
  have same : (source.take stop)[start] = byte := by
    rw [List.getElem_take]
    exact (List.getElem?_eq_some_iff.mp found).2
  rw [bytesBetween, List.drop_eq_getElem_cons inside, same]
  rfl

theorem bytesBetween_add (source : List UInt8) (start count stop : Nat) :
    bytesBetween source (start + count) stop = (bytesBetween source start stop).drop count := by
  rw [bytesBetween, bytesBetween, List.drop_drop]

theorem getElem?_of_bytesBetween_eq {source : List UInt8} {start stop : Nat}
    {front back : List UInt8} {byte : UInt8}
    (split : bytesBetween source start stop = front ++ byte :: back) :
    start + front.length < stop ∧ source[start + front.length]? = some byte := by
  have found : (source.take stop)[start + front.length]? = some byte := by
    rw [← List.getElem?_drop]
    change (bytesBetween source start stop)[front.length]? = some byte
    rw [split, List.getElem?_append_right (Nat.le_refl _), Nat.sub_self]
    rfl
  rw [List.getElem?_take] at found
  split at found
  · next before => exact ⟨before, found⟩
  · cases found

theorem mem_bytesBetween_iff {source : List UInt8} {start stop : Nat} {byte : UInt8} :
    byte ∈ bytesBetween source start stop ↔
      ∃ offset, start ≤ offset ∧ offset < stop ∧ source[offset]? = some byte := by
  constructor
  · intro member
    obtain ⟨front, back, split⟩ := List.append_of_mem member
    obtain ⟨before, found⟩ := getElem?_of_bytesBetween_eq split
    exact ⟨start + front.length, Nat.le_add_right _ _, before, found⟩
  · rintro ⟨offset, late, before, found⟩
    have further := bytesBetween_add source start (offset - start) stop
    rw [Nat.add_sub_cancel' late, bytesBetween_eq_cons found before] at further
    apply List.mem_of_mem_drop
    rw [← further]
    exact List.mem_cons_self

namespace Position

/-- Lines are counted by line feeds. -/
theorem line_ofOffset_eq_add {source : List UInt8} {start stop : Nat}
    (order : start ≤ stop) (inside : stop ≤ source.length) :
    (ofOffset source stop).line =
      (ofOffset source start).line +
        (bytesBetween source start stop).count Segment.lineFeed := by
  have counted := congrArg (List.count Segment.lineFeed)
    (bytesBetween_append (Nat.zero_le start) order inside)
  rw [List.count_append] at counted
  simp only [bytesBetween, List.drop_zero] at counted ⊢
  simp only [ofOffset, behind]
  omega

/-- Two offsets are on one line when no line ends between them. -/
theorem line_ofOffset_eq_iff {source : List UInt8} {start stop : Nat}
    (order : start ≤ stop) (inside : stop ≤ source.length) :
    (ofOffset source start).line = (ofOffset source stop).line ↔
      Segment.lineFeed ∉ bytesBetween source start stop := by
  rw [line_ofOffset_eq_add order inside, ← List.count_eq_zero]
  omega

end Position

/-- The place of a comment in a source. -/
structure Extent where
  start : Nat
  stop : Nat
  deriving DecidableEq, Repr

namespace Extent

/-- The places of the comments among segments that start at an offset. -/
def ofSegments (offset : Nat) : List Segment → List Extent
  | [] => []
  | .code bytes :: rest => ofSegments (offset + bytes.length) rest
  | .comment bytes :: rest =>
      ⟨offset, offset + bytes.length⟩ :: ofSegments (offset + bytes.length) rest

def ofSource (source : List UInt8) : List Extent :=
  ofSegments 0 (Segment.list source)

/-- The comment at a place: its bytes, read as text without the blanks at its end. -/
def comment (source : List UInt8) (extent : Extent) : Comment where
  text :=
    String.ofList (Text.trimEnd (Utf8.decodeLossy (bytesBetween source extent.start extent.stop)))
  span := ⟨.ofOffset source extent.start, .ofOffset source extent.stop⟩

/-- The comments at some places, where the comment before them ends at an offset. -/
def placed (source : List UInt8) (floor : Nat) : List Extent → List PlacedComment
  | [] => []
  | extent :: rest =>
      ⟨extent.comment source, (bytesBetween source floor extent.start).reverse⟩ ::
        placed source extent.stop rest

/-- The comment at a place has the bytes of the place. -/
theorem comment_append (before bytes after : List UInt8) :
    comment (before ++ (bytes ++ after)) ⟨before.length, before.length + bytes.length⟩ =
      PlacedComment.commentOf (Position.behind before) bytes := by
  have start : (before ++ (bytes ++ after)).take before.length = before := List.take_left
  have stop :
      (before ++ (bytes ++ after)).take (before.length + bytes.length) = before ++ bytes := by
    rw [← List.append_assoc, ← List.length_append, List.take_left]
  simp only [comment, PlacedComment.commentOf, bytesBetween, Position.ofOffset, start, stop,
    List.drop_left, Position.behind_append]

theorem placed_ofSegments (segments : List Segment) (before : List UInt8) (floor : Nat)
    (passed : floor ≤ before.length) :
    PlacedComment.ofSegments (Position.behind before) (before.drop floor).reverse segments =
      placed (before ++ segments.flatMap Segment.bytes) floor
        (ofSegments before.length segments) := by
  induction segments generalizing before floor with
  | nil => rfl
  | cons segment rest inductionHypothesis =>
      cases segment with
      | code bytes =>
          have further := inductionHypothesis (before ++ bytes) floor
            (Nat.le_trans passed (by simp))
          rw [List.drop_append_of_le_length passed, List.reverse_append, List.append_assoc,
            List.length_append, Position.behind_append] at further
          exact further
      | comment bytes =>
          have further := inductionHypothesis (before ++ bytes) (before ++ bytes).length
            (Nat.le_refl _)
          rw [List.drop_length, List.append_assoc, List.length_append,
            Position.behind_append] at further
          have gap : ∀ after, bytesBetween (before ++ after) floor before.length =
              before.drop floor := by
            intro after
            rw [bytesBetween, List.take_left]
          simp only [PlacedComment.ofSegments, ofSegments, List.flatMap_cons, Segment.bytes, placed,
            gap, comment_append]
          exact congrArg _ further

/-! ## Comments in the order of a source -/

/-- Places that follow each other, from one offset on and up to another, none of them empty. -/
inductive Within (limit : Nat) : Nat → List Extent → Prop
  | nil {floor : Nat} : floor ≤ limit → Within limit floor []
  | cons {floor : Nat} {extent : Extent} {rest : List Extent} :
      floor ≤ extent.start → extent.start < extent.stop →
      Within limit extent.stop rest → Within limit floor (extent :: rest)

namespace Within

variable {limit floor : Nat} {extents : List Extent}

theorem of_le {lower : Nat} (within : Within limit floor extents) (below : lower ≤ floor) :
    Within limit lower extents := by
  cases within with
  | nil bound => exact nil (Nat.le_trans below bound)
  | cons start order rest => exact cons (Nat.le_trans below start) order rest

theorem floor_le (within : Within limit floor extents) : floor ≤ limit := by
  induction within with
  | nil bound => exact bound
  | cons start order _ inductionHypothesis =>
      exact Nat.le_trans start (Nat.le_trans (Nat.le_of_lt order) inductionHypothesis)

theorem of_cons {extent : Extent} {rest : List Extent}
    (within : Within limit floor (extent :: rest)) :
    floor ≤ extent.start ∧ extent.start < extent.stop ∧ extent.start ≤ limit ∧
      Within limit extent.stop rest := by
  cases within with
  | cons start positive later =>
      exact ⟨start, positive, Nat.le_trans (Nat.le_of_lt positive) later.floor_le, later⟩

theorem floor_le_start (within : Within limit floor extents) :
    ∀ extent ∈ extents, floor ≤ extent.start := by
  induction within with
  | nil _ => simp
  | cons start order _ inductionHypothesis =>
      intro extent member
      rcases List.mem_cons.mp member with rfl | later
      · exact start
      · exact Nat.le_trans start
          (Nat.le_trans (Nat.le_of_lt order) (inductionHypothesis extent later))

theorem nodup (within : Within limit floor extents) : extents.Nodup := by
  induction within with
  | nil _ => exact List.nodup_nil
  | @cons _ extent rest _ order later inductionHypothesis =>
      refine List.nodup_cons.mpr ⟨?_, inductionHypothesis⟩
      intro member
      have behind := later.floor_le_start extent member
      omega

end Within

theorem ofSegments_within {segments : List Segment}
    (filled : ∀ segment ∈ segments, segment.bytes ≠ []) (offset : Nat) :
    Within (offset + (segments.flatMap Segment.bytes).length) offset
      (ofSegments offset segments) := by
  induction segments generalizing offset with
  | nil => exact Within.nil (Nat.le_refl _)
  | cons segment rest inductionHypothesis =>
      have restFilled : ∀ other ∈ rest, other.bytes ≠ [] :=
        fun other member => filled other (List.mem_cons_of_mem segment member)
      have later := inductionHypothesis restFilled (offset + segment.bytes.length)
      rw [Nat.add_assoc, ← List.length_append, ← List.flatMap_cons] at later
      cases segment with
      | code bytes => exact later.of_le (Nat.le_add_right _ _)
      | comment bytes =>
          have positive := List.length_pos_iff.mpr (filled (.comment bytes) List.mem_cons_self)
          exact Within.cons (Nat.le_refl offset) (Nat.lt_add_of_pos_right positive) later

/-- Comments follow each other without overlap. -/
theorem ofSource_within (source : List UInt8) :
    Within source.length 0 (ofSource source) := by
  have filled : ∀ segment ∈ Segment.list source, segment.bytes ≠ [] :=
    fun _ member => Segment.bytes_ne_nil_of_mem_list member
  have found := ofSegments_within filled 0
  rwa [Nat.zero_add, Segment.flatMap_bytes_list source] at found

end Extent

end LiteralAudit
