import LiteralAudit.Proofs.Source.Index
import LiteralAudit.Proofs.Source.Extent

/-!
# Offsets and lines

Line and column grow with the offset, so that two offsets never have one position. A line ends where
a line feed stands and nowhere else.
-/

namespace LiteralAudit

namespace Position

theorem advanceOver_of_lineFeed_notMem (position : Position) {bytes : List UInt8}
    (unbroken : Segment.lineFeed ∉ bytes) :
    position.advanceOver bytes = ⟨position.line, position.column + bytes.length⟩ := by
  induction bytes generalizing position with
  | nil => rfl
  | cons byte rest inductionHypothesis =>
      rw [List.mem_cons, not_or] at unbroken
      have advanced : position.advance byte = ⟨position.line, position.column + 1⟩ := by
        rw [advance, if_neg (Ne.symm unbroken.1)]
      calc
        position.advanceOver (byte :: rest)
        _ = (position.advance byte).advanceOver rest := rfl
        _ = ⟨position.line, position.column + 1 + rest.length⟩ := by
          rw [inductionHypothesis _ unbroken.2, advanced]
        _ = ⟨position.line, position.column + (byte :: rest).length⟩ := by
          rw [List.length_cons, Nat.add_assoc, Nat.add_comm 1]

theorem ofOffset_eq_advanceOver (source : List UInt8) {start stop : Nat} (order : start ≤ stop) :
    ofOffset source stop =
      (ofOffset source start).advanceOver (bytesBetween source start stop) := by
  rw [ofOffset, take_eq_append_bytesBetween source order, behind_append]
  rfl

variable {source : List UInt8} {start stop : Nat}

theorem line_ofOffset_pos (source : List UInt8) (offset : Nat) :
    0 < (ofOffset source offset).line :=
  Nat.lt_of_lt_of_le Nat.one_pos (Nat.le_add_right 1 _)

theorem line_ofOffset_le (order : start ≤ stop) (inside : stop ≤ source.length) :
    (ofOffset source start).line ≤ (ofOffset source stop).line := by
  rw [line_ofOffset_eq_add order inside]
  exact Nat.le_add_right _ _

/-- Behind a line feed another line begins. -/
theorem line_ofOffset_lt (ended : source[start]? = some Segment.lineFeed) (before : start < stop)
    (inside : stop ≤ source.length) :
    (ofOffset source start).line < (ofOffset source stop).line := by
  have different : ¬ (ofOffset source start).line = (ofOffset source stop).line := by
    rw [line_ofOffset_eq_iff (Nat.le_of_lt before) inside, bytesBetween_eq_cons ended before]
    exact fun unbroken => unbroken List.mem_cons_self
  exact Nat.lt_of_le_of_ne (line_ofOffset_le (Nat.le_of_lt before) inside) different

/-- A byte other than a line feed stands on the line of the offset behind it. -/
theorem line_ofOffset_succ {byte : UInt8} (found : source[start]? = some byte)
    (goesOn : byte ≠ Segment.lineFeed) :
    (ofOffset source start).line = (ofOffset source (start + 1)).line := by
  have inside : start + 1 ≤ source.length := (List.getElem?_eq_some_iff.mp found).1
  have nothing : bytesBetween source (start + 1) (start + 1) = [] := by
    rw [bytesBetween, List.drop_eq_nil_iff, List.length_take]
    exact Nat.min_le_left _ _
  rw [line_ofOffset_eq_iff (Nat.le_succ start) inside,
    bytesBetween_eq_cons found (Nat.lt_succ_self start), nothing, List.mem_singleton]
  exact Ne.symm goesOn

/-- Later offsets are later positions. -/
theorem ofOffset_lt (before : start < stop) (inside : stop ≤ source.length) :
    (ofOffset source start).line < (ofOffset source stop).line ∨
      ((ofOffset source start).line = (ofOffset source stop).line ∧
        (ofOffset source start).column < (ofOffset source stop).column) := by
  have order := Nat.le_of_lt before
  by_cases sameLine : (ofOffset source start).line = (ofOffset source stop).line
  · right
    have unbroken := (line_ofOffset_eq_iff order inside).mp sameLine
    have positive : (bytesBetween source start stop).length = stop - start := by
      rw [bytesBetween, List.length_drop, List.length_take, Nat.min_eq_left inside]
    refine ⟨sameLine, ?_⟩
    rw [ofOffset_eq_advanceOver source order, advanceOver_of_lineFeed_notMem _ unbroken]
    dsimp only
    omega
  · left
    exact Nat.lt_of_le_of_ne (line_ofOffset_le order inside) sameLine

theorem ofOffset_le (order : start ≤ stop) (inside : stop ≤ source.length) :
    (ofOffset source start).le (ofOffset source stop) = true := by
  rw [le_iff]
  rcases Nat.eq_or_lt_of_le order with rfl | before
  · exact Or.inr ⟨rfl, Nat.le_refl _⟩
  · have later := ofOffset_lt before inside
    omega

/-- Offsets with one position are the same. -/
theorem ofOffset_injective (startInside : start ≤ source.length) (stopInside : stop ≤ source.length)
    (same : ofOffset source start = ofOffset source stop) :
    start = stop := by
  rcases Nat.lt_trichotomy start stop with before | equal | behind
  · have later := ofOffset_lt before stopInside
    rw [same] at later
    omega
  · exact equal
  · have later := ofOffset_lt behind startInside
    rw [same] at later
    omega

end Position

namespace Extent

namespace Within

variable {limit floor : Nat} {extents : List Extent}

theorem bounds (within : Within limit floor extents) :
    ∀ extent ∈ extents, extent.start < extent.stop ∧ extent.stop ≤ limit := by
  induction within with
  | nil _ => simp
  | cons _ order later inductionHypothesis =>
      intro extent member
      rcases List.mem_cons.mp member with rfl | further
      · exact ⟨order, later.floor_le⟩
      · exact inductionHypothesis extent further

theorem pairwise (within : Within limit floor extents) :
    extents.Pairwise fun earlier later => earlier.stop ≤ later.start := by
  induction within with
  | nil _ => exact List.Pairwise.nil
  | cons _ _ later inductionHypothesis =>
      exact List.Pairwise.cons later.floor_le_start inductionHypothesis

end Within

variable {source : List UInt8} {place other : Extent}

theorem start_lt_stop (member : place ∈ ofSource source) : place.start < place.stop :=
  ((ofSource_within source).bounds place member).1

theorem stop_le_length (member : place ∈ ofSource source) : place.stop ≤ source.length :=
  ((ofSource_within source).bounds place member).2

theorem stop_le_of_order {before after : List Extent}
    (order : ofSource source = before ++ place :: after) :
    (∀ earlier ∈ before, earlier.stop ≤ place.start) ∧
      ∀ later ∈ after, place.stop ≤ later.start := by
  have ordered := (ofSource_within source).pairwise
  rw [order, List.pairwise_append] at ordered
  refine ⟨?_, (List.pairwise_cons.mp ordered.2.1).1⟩
  intro earlier member
  exact ordered.2.2 earlier member place List.mem_cons_self

/-- Two comments of a source follow each other. -/
theorem stop_le_start_or (member : place ∈ ofSource source) (otherMember : other ∈ ofSource source)
    (different : other ≠ place) :
    other.stop ≤ place.start ∨ place.stop ≤ other.start := by
  obtain ⟨before, after, order⟩ := List.append_of_mem member
  obtain ⟨passed, behind⟩ := stop_le_of_order order
  rw [order] at otherMember
  rcases List.mem_append.mp otherMember with earlier | further
  · exact Or.inl (passed other earlier)
  · rcases List.mem_cons.mp further with same | later
    · exact absurd same different
    · exact Or.inr (behind other later)

end Extent

end LiteralAudit
