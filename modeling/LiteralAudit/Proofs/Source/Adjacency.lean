import LiteralAudit.Proofs.Source.GroupOrder

/-!
# The group of a line comment

A line comment that follows code on its line ends its group, since all comments behind it start on
later lines, where the group takes none. A line comment that stands alone on its line takes exactly
those comments of the next line into its group that stand in front of all code there.
-/

namespace LiteralAudit

namespace Extent

/-- Whether the line ends behind a comment. -/
def EndsLine (source : List UInt8) (place : Extent) : Prop :=
  place.stop = source.length ∨ source[place.stop]? = some Segment.lineFeed

instance (source : List UInt8) (place : Extent) : Decidable (EndsLine source place) :=
  inferInstanceAs (Decidable (_ ∨ _))

/-- Whether nothing but blanks stands before a comment on its line. -/
def OpensLine (source : List UInt8) (place : Extent) : Prop :=
  ∀ offset, offset < place.start →
    (Position.ofOffset source offset).line = (Position.ofOffset source place.start).line →
    source[offset]?.all Text.isBlankByte = true

instance (source : List UInt8) (place : Extent) : Decidable (OpensLine source place) :=
  inferInstanceAs (Decidable (∀ offset, offset < place.start → _))

/-- Whether some comment opens a line. -/
def LineOpened (source : List UInt8) (line : Nat) : Prop :=
  ∃ opener ∈ ofSource source,
    (Position.ofOffset source opener.start).line = line ∧ OpensLine source opener

instance (source : List UInt8) (line : Nat) : Decidable (LineOpened source line) :=
  inferInstanceAs (Decidable (∃ opener ∈ ofSource source, _ ∧ _))

variable {source : List UInt8} {place next : Extent}

theorem EndsLine.line_lt (ends : EndsLine source place) (member : next ∈ ofSource source)
    (behind : place.stop ≤ next.start) :
    (Position.ofOffset source place.stop).line < (Position.ofOffset source next.start).line := by
  have filled := start_lt_stop member
  have inside := stop_le_length member
  rcases ends with atEnd | ended
  · omega
  · have different : place.stop ≠ next.start := by
      intro same
      rw [same, getElem?_start member] at ended
      cases ended
    exact Position.line_ofOffset_lt ended (by omega) (by omega)

/-- The line of a comment that opens its line is not the one where another comment before it ends. -/
theorem OpensLine.line_lt (opens : OpensLine source place) (member : place ∈ ofSource source)
    (nextMember : next ∈ ofSource source) (apart : next.stop ≤ place.start) :
    (Position.ofOffset source next.stop).line < (Position.ofOffset source place.start).line := by
  have filled := start_lt_stop nextMember
  have placeFilled := start_lt_stop member
  have inside := stop_le_length member
  rcases getElem?_stop nextMember with atEnd | ended | closed
  · omega
  · exact EndsLine.line_lt (Or.inr ended) member apart
  · refine Nat.lt_of_le_of_ne (Position.line_ofOffset_le apart (by omega)) ?_
    intro sameLine
    have slashLine := Position.line_ofOffset_succ closed (by decide)
    rw [Nat.sub_add_cancel (by omega)] at slashLine
    have blank := opens (next.stop - 1) (by omega) (slashLine.trans sameLine)
    rw [closed] at blank
    exact absurd blank (by decide)

/-- No other comment starts before one that opens its line, on this very line. -/
theorem OpensLine.line_start_lt (opens : OpensLine source place) (member : place ∈ ofSource source)
    (nextMember : next ∈ ofSource source) (before : next.start < place.start) :
    (Position.ofOffset source next.start).line < (Position.ofOffset source place.start).line := by
  have filled := start_lt_stop member
  have inside := stop_le_length member
  refine Nat.lt_of_le_of_ne (Position.line_ofOffset_le (Nat.le_of_lt before) (by omega)) ?_
  intro sameLine
  have blank := opens next.start before sameLine
  rw [getElem?_start nextMember] at blank
  exact absurd blank (by decide)

theorem OpensLine.not_codeBefore (opens : OpensLine source place) (comments : List Extent) :
    ¬ CodeBefore source comments place.start := by
  rintro ⟨offset, before, sameLine, code, -⟩
  have blank := opens offset before sameLine
  obtain ⟨byte, found, visible⟩ := Option.map_eq_some_iff.mp code
  rw [found, Option.all_some, visible] at blank
  cases blank

/-- A directive ends its line, and it starts on the same line. -/
theorem endsLine_of_directive? {directive : Directive} (member : place ∈ ofSource source)
    (given : (place.comment source).directive? = some directive) :
    EndsLine source place ∧
      (Position.ofOffset source place.stop).line = (Position.ofOffset source place.start).line := by
  obtain ⟨unbroken, ends⟩ := line_of_directive? member given
  have order := Nat.le_of_lt (start_lt_stop member)
  have inside := stop_le_length member
  exact ⟨ends, ((Position.line_ofOffset_eq_iff order inside).mpr unbroken).symm⟩

/-! ## Code before a group -/

/-- Code between two comments that join is before the first of them. -/
theorem Joins.lt_start {comments : List Extent} {first previous : Extent} {offset : Nat}
    (joins : Joins source comments first previous next)
    (code : source[offset]?.map Text.isBlankByte = some false)
    (outside : ¬ (previous.start ≤ offset ∧ offset < previous.stop))
    (before : offset < next.start) :
    offset < previous.start := by
  by_contra late
  have behind : previous.stop ≤ offset := by
    omega
  obtain ⟨byte, found, visible⟩ := Option.map_eq_some_iff.mp code
  have blank := joins.blanks byte (mem_bytesBetween_iff.mpr ⟨offset, behind, before, found⟩)
  rw [blank] at visible
  cases visible

/-- Code before a comment of a chain is before its first comment. -/
theorem lt_start_of_chain {comments between : List Extent} {first previous : Extent} {offset : Nat}
    (chain : (previous :: (between ++ [place])).IsChain (Joins source comments first))
    (code : source[offset]?.map Text.isBlankByte = some false)
    (outside : ∀ extent ∈ previous :: between, ¬ (extent.start ≤ offset ∧ offset < extent.stop))
    (before : offset < place.start) :
    offset < previous.start := by
  induction between generalizing previous with
  | nil =>
      have joins := (List.isChain_cons_cons.mp chain).1
      exact joins.lt_start code (outside previous List.mem_cons_self) before
  | cons next further inductionHypothesis =>
      obtain ⟨joins, rest⟩ := List.isChain_cons_cons.mp chain
      have restOutside : ∀ extent ∈ next :: further,
          ¬ (extent.start ≤ offset ∧ offset < extent.stop) := by
        intro extent member
        exact outside extent (List.mem_cons_of_mem previous member)
      exact joins.lt_start code (outside previous List.mem_cons_self)
        (inductionHypothesis rest restOutside)

/-- A comment that opens the line below a line comment joins the group of the line comment, unless
code stands before this group. -/
theorem joins_of_opensLine {comments : List Extent} {first : Extent} (ends : EndsLine source place)
    (member : next ∈ ofSource source) (opens : OpensLine source next)
    (apart : place.stop ≤ next.start)
    (below : (Position.ofOffset source next.start).line =
      (Position.ofOffset source place.stop).line + 1)
    (noCode : ¬ CodeBefore source comments first.start) :
    Joins source comments first place next := by
  have filled := start_lt_stop member
  have inside := stop_le_length member
  constructor
  · intro byte between
    obtain ⟨offset, late, before, found⟩ := mem_bytesBetween_iff.mp between
    rcases Nat.eq_or_lt_of_le late with same | behind
    · -- Right behind the line comment its line ends.
      rcases ends with atEnd | ended
      · omega
      · rw [same, found] at ended
        rw [Option.some.inj ended, isBlankByte_lineFeed]
    · have lower : (Position.ofOffset source place.stop).line <
          (Position.ofOffset source offset).line := by
        rcases ends with atEnd | ended
        · omega
        · exact Position.line_ofOffset_lt ended behind (by omega)
      have upper := Position.line_ofOffset_le (Nat.le_of_lt before)
        (show next.start ≤ source.length by omega)
      have blank := opens offset before (by omega)
      rwa [found, Option.all_some] at blank
  · rw [reach, if_neg noCode, below]

namespace GroupPlaces

variable {earlier later : List (List Extent)} {front back : List Extent}

theorem mem_of_order (found : GroupPlaces source (earlier ++ (front ++ place :: back) :: later)) :
    (∀ other ∈ earlier.flatten ++ front, other ∈ ofSource source ∧ other.stop ≤ place.start) ∧
      place ∈ ofSource source ∧
      ∀ other ∈ back ++ later.flatten, other ∈ ofSource source ∧ place.stop ≤ other.start := by
  obtain ⟨passed, behind⟩ := stop_le_of_order found.order
  rw [found.order]
  refine ⟨?_, by simp, ?_⟩
  · intro other member
    exact ⟨List.mem_append_left _ member, passed other member⟩
  · intro other member
    exact ⟨List.mem_append_right _ (List.mem_cons_of_mem place member), behind other member⟩

/-- Code before a comment on its line is code before the first comment of its group. -/
theorem codeBefore_first
    (found : GroupPlaces source (earlier ++ (front ++ place :: back) :: later))
    (code : CodeBefore source (ofSource source) place.start) :
    CodeBefore source (ofSource source) (front.headD place).start := by
  cases front with
  | nil => exact code
  | cons first rest =>
      obtain ⟨offset, before, sameLine, visible, outside⟩ := code
      obtain ⟨passed, member, -⟩ := found.mem_of_order
      obtain ⟨firstMember, firstStop⟩ := passed first (by simp)
      have chain : (first :: (rest ++ [place])).IsChain (Joins source (ofSource source) first) := by
        have whole := found.chain
        rw [List.append_cons] at whole
        exact whole.left_of_append
      have earlierOutside : ∀ extent ∈ first :: rest,
          ¬ (extent.start ≤ offset ∧ offset < extent.stop) := by
        intro extent inside
        exact outside extent (passed extent (List.mem_append_right _ inside)).1
      have early := lt_start_of_chain chain visible earlierOutside before
      have filled := start_lt_stop firstMember
      have placeFilled := start_lt_stop member
      have placeInside := stop_le_length member
      have upper : (Position.ofOffset source offset).line ≤
          (Position.ofOffset source first.start).line :=
        Position.line_ofOffset_le (Nat.le_of_lt early) (by omega)
      have lower : (Position.ofOffset source first.start).line ≤
          (Position.ofOffset source place.start).line :=
        Position.line_ofOffset_le (by omega) (by omega)
      refine ⟨offset, early, ?_, visible, outside⟩
      exact Nat.le_antisymm upper (sameLine ▸ lower)

/-- No code stands before the group of a comment that opens its line, or else the group has reached
this line without any regard to it. -/
theorem not_codeBefore_first
    (found : GroupPlaces source (earlier ++ (front ++ place :: back) :: later))
    (opens : OpensLine source place) :
    ¬ CodeBefore source (ofSource source) (front.headD place).start := by
  rcases List.eq_nil_or_concat' front with rfl | ⟨init, previous, rfl⟩
  · exact opens.not_codeBefore _
  · intro code
    obtain ⟨passed, member, -⟩ := found.mem_of_order
    obtain ⟨previousMember, apart⟩ := passed previous (by simp)
    have joins : Joins source (ofSource source) ((init ++ [previous]).headD place)
        previous place := by
      have whole := found.chain
      rw [List.append_assoc] at whole
      exact (List.isChain_append_cons_cons.mp whole).2.1
    have near := joins.near
    rw [reach, if_pos code] at near
    have below := opens.line_lt member previousMember apart
    omega

/-- A line comment behind code is the last one of its group. -/
theorem back_eq_nil_of_codeBefore
    (found : GroupPlaces source (earlier ++ (front ++ place :: back) :: later))
    (ends : EndsLine source place)
    (code : CodeBefore source (ofSource source) place.start) :
    back = [] := by
  cases back with
  | nil => rfl
  | cons next more =>
      have near := (List.isChain_append_cons_cons.mp found.chain).2.1.near
      rw [reach, if_pos (found.codeBefore_first code)] at near
      obtain ⟨nextMember, behind⟩ := found.mem_of_order.2.2 next (by simp)
      have below := ends.line_lt nextMember behind
      omega

/-- What follows a line comment in its group opens the next line. -/
theorem opensLine_of_back
    {more : List Extent}
    (found : GroupPlaces source (earlier ++ (front ++ place :: next :: more) :: later))
    (ends : EndsLine source place) :
    (Position.ofOffset source next.start).line = (Position.ofOffset source place.stop).line + 1 ∧
      OpensLine source next := by
  have joins := (List.isChain_append_cons_cons.mp found.chain).2.1
  obtain ⟨nextMember, behind⟩ := found.mem_of_order.2.2 next (by simp)
  have filled := start_lt_stop nextMember
  have inside := stop_le_length nextMember
  have below := ends.line_lt nextMember behind
  have near := joins.near
  have reachLe : reach source (ofSource source) (front.headD place) ≤ 1 := by
    rw [reach]
    split
    · exact Nat.zero_le 1
    · exact Nat.le_refl 1
  refine ⟨by omega, ?_⟩
  intro offset before sameLine
  have late : place.stop ≤ offset := by
    by_contra early
    have upper : (Position.ofOffset source offset).line ≤
        (Position.ofOffset source place.stop).line :=
      Position.line_ofOffset_le (by omega) (by omega)
    omega
  cases found : source[offset]? with
  | none => rfl
  | some byte =>
      exact joins.blanks byte (mem_bytesBetween_iff.mpr ⟨offset, late, before, found⟩)

/-- No comment stands between a line comment and one that opens the next line. -/
theorem next_of_opensLine
    (found : GroupPlaces source (earlier ++ (front ++ place :: back) :: later))
    (ends : EndsLine source place)
    (nextMember : next ∈ ofSource source) (nextOpens : OpensLine source next)
    (apart : place.stop ≤ next.start)
    (below : (Position.ofOffset source next.start).line =
      (Position.ofOffset source place.stop).line + 1) :
    ∃ rest, back ++ later.flatten = next :: rest := by
  obtain ⟨passed, member, behind⟩ := found.mem_of_order
  have filled := start_lt_stop member
  have nextFilled := start_lt_stop nextMember
  have present : next ∈ back ++ later.flatten := by
    have ordered := nextMember
    rw [found.order] at ordered
    rcases List.mem_append.mp ordered with early | further
    · have before := (passed next early).2
      omega
    · rcases List.mem_cons.mp further with same | late
      · rw [same] at apart
        omega
      · exact late
  obtain ⟨head, rest, follows⟩ := List.exists_cons_of_ne_nil (List.ne_nil_of_mem present)
  have order := found.order
  rw [follows] at present behind
  rw [follows, List.append_cons] at order
  obtain ⟨headMember, headBehind⟩ := behind head List.mem_cons_self
  rcases List.mem_cons.mp present with same | further
  · exact ⟨rest, by rw [follows, same]⟩
  · -- The first comment behind would stand on the line of the other one, and before it.
    have between := (stop_le_of_order order).2 next further
    have headFilled := start_lt_stop headMember
    have headLine := nextOpens.line_start_lt nextMember headMember (by omega)
    have headBelow := ends.line_lt headMember headBehind
    omega

/-- A comment that opens the line below a line comment is in its group when the line comment stands
alone on its line. -/
theorem mem_of_opensLine
    (found : GroupPlaces source (earlier ++ (front ++ place :: back) :: later))
    (ends : EndsLine source place) (opens : OpensLine source place)
    (nextMember : next ∈ ofSource source) (nextOpens : OpensLine source next)
    (apart : place.stop ≤ next.start)
    (below : (Position.ofOffset source next.start).line =
      (Position.ofOffset source place.stop).line + 1) :
    next ∈ front ++ place :: back := by
  have noCode := found.not_codeBefore_first opens
  obtain ⟨rest, follows⟩ := found.next_of_opensLine ends nextMember nextOpens apart below
  rw [found.mem_iff_joins follows]
  exact joins_of_opensLine ends nextMember nextOpens apart below noCode

/-- The groups behind a line comment end on later lines. -/
theorem line_lt_finish
    (found : GroupPlaces source (earlier ++ (front ++ place :: back) :: later))
    (ends : EndsLine source place) {others : List Extent} (member : others ∈ later) :
    (Position.ofOffset source place.stop).line <
      (CommentGroup.ofExtents source others).finish.line := by
  have present : others ∈ earlier ++ (front ++ place :: back) :: later :=
    List.mem_append_right _ (List.mem_cons_of_mem _ member)
  obtain ⟨first, tail, rfl⟩ :=
    List.exists_cons_of_ne_nil (found.grouped.ne_nil others present)
  have behind : first ∈ back ++ later.flatten :=
    List.mem_append_right _ (List.mem_flatten.mpr ⟨first :: tail, member, List.mem_cons_self⟩)
  obtain ⟨firstMember, apart⟩ := found.mem_of_order.2.2 first behind
  have lower := ends.line_lt firstMember apart
  have downward := Position.line_ofOffset_le (Nat.le_of_lt (start_lt_stop firstMember))
    (stop_le_length firstMember)
  have finish := (found.bounds present List.mem_cons_self).2
  rw [Position.le_iff] at finish
  omega

end GroupPlaces

end Extent

end LiteralAudit
