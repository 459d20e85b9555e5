import LiteralAudit.Proofs.Source.CommentForm
import LiteralAudit.Proofs.Source.Grouping
import LiteralAudit.Proofs.Source.LineOrder

/-!
# Groups in the order of a source

The groups of a source come in the order in which an index puts them, each of them ending before the
next one starts. So the groups that end above a span come before those that start behind it, and the
latter decide first.
-/

namespace LiteralAudit

/-! ## The extent of a group -/

namespace CommentGroup

theorem start_ofExtents (source : List UInt8) (first : Extent) (tail : List Extent) :
    (ofExtents source (first :: tail)).start = .ofOffset source first.start := by
  rfl

theorem finish_ofExtents (source : List UInt8) (front : List Extent) (last : Extent) :
    (ofExtents source (front ++ [last])).finish = .ofOffset source last.stop := by
  simp [ofExtents, finish, Extent.comment]

/-- No place in a group starts before it or ends behind it. -/
theorem ofExtents_bounds {source : List UInt8} {places : List Extent}
    (ordered : places.Pairwise fun earlier later => earlier.stop ≤ later.start)
    (filled : ∀ place ∈ places, place.start < place.stop ∧ place.stop ≤ source.length) :
    ∀ place ∈ places,
      (ofExtents source places).start.le (.ofOffset source place.start) = true ∧
        (Position.ofOffset source place.stop).le (ofExtents source places).finish = true := by
  intro place member
  have bounds := filled place member
  constructor
  · cases places with
    | nil => cases member
    | cons first tail =>
        rw [start_ofExtents]
        apply Position.ofOffset_le _ (by omega)
        rcases List.mem_cons.mp member with rfl | later
        · exact Nat.le_refl _
        · have apart := (List.pairwise_cons.mp ordered).1 place later
          have firstBounds := filled first List.mem_cons_self
          omega
  · rcases List.eq_nil_or_concat' places with rfl | ⟨front, last, rfl⟩
    · cases member
    · rw [finish_ofExtents]
      have lastBounds := filled last (by simp)
      apply Position.ofOffset_le _ lastBounds.2
      rcases List.mem_append.mp member with earlier | same
      · have apart := (List.pairwise_append.mp ordered).2.2 place earlier last (by simp)
        omega
      · rw [List.mem_singleton.mp same]

end CommentGroup

namespace Extent

/-- The places of the comments of a source, group by group. -/
structure GroupPlaces (source : List UInt8) (groups : List (List Extent)) : Prop where
  collected : CommentGroup.ofSource source = groups.map (CommentGroup.ofExtents source)
  flat : groups.flatten = ofSource source
  grouped : Grouped (Joins source (ofSource source)) groups

namespace GroupPlaces

variable {source : List UInt8} {groups : List (List Extent)}

/-- The groups of a source are made of the places of its comments. -/
theorem exists_groups (source : List UInt8) : ∃ groups, GroupPlaces source groups := by
  obtain ⟨groups, collected, flat, grouped⟩ := ofSource_grouped source
  exact ⟨groups, collected, flat, grouped⟩

theorem mem_ofSource (found : GroupPlaces source groups) {places : List Extent}
    (member : places ∈ groups) {place : Extent} (inside : place ∈ places) :
    place ∈ ofSource source := by
  rw [← found.flat]
  exact List.mem_flatten.mpr ⟨places, member, inside⟩

/-- Comments of a group, and groups themselves, come one behind the other. -/
theorem ordered (found : GroupPlaces source groups) :
    (∀ places ∈ groups, places.Pairwise fun earlier later => earlier.stop ≤ later.start) ∧
      groups.Pairwise fun front back =>
        ∀ earlier ∈ front, ∀ later ∈ back, earlier.stop ≤ later.start := by
  rw [← List.pairwise_flatten, found.flat]
  exact (ofSource_within source).pairwise

theorem bounds (found : GroupPlaces source groups) {places : List Extent}
    (member : places ∈ groups) {place : Extent} (inside : place ∈ places) :
    (CommentGroup.ofExtents source places).start.le (.ofOffset source place.start) = true ∧
      (Position.ofOffset source place.stop).le
        (CommentGroup.ofExtents source places).finish = true := by
  apply CommentGroup.ofExtents_bounds (found.ordered.1 places member) _ place inside
  intro other otherInside
  have present := found.mem_ofSource member otherInside
  exact ⟨start_lt_stop present, stop_le_length present⟩

/-- Every place in a group splits the groups there. -/
theorem exists_split (found : GroupPlaces source groups) {places : List Extent}
    (member : places ∈ groups) {place : Extent} (inside : place ∈ places) :
    ∃ earlier front back later,
      places = front ++ place :: back ∧
        GroupPlaces source (earlier ++ (front ++ place :: back) :: later) := by
  obtain ⟨earlier, later, rfl⟩ := List.append_of_mem member
  obtain ⟨front, back, rfl⟩ := List.append_of_mem inside
  exact ⟨earlier, front, back, later, rfl, found⟩

section

variable {earlier later : List (List Extent)} {front back : List Extent} {place : Extent}

/-- Every comment of a source stands in some group. -/
theorem exists_around (member : place ∈ ofSource source) :
    ∃ earlier front back later,
      GroupPlaces source (earlier ++ (front ++ place :: back) :: later) := by
  obtain ⟨groups, found⟩ := exists_groups source
  rw [← found.flat] at member
  obtain ⟨places, present, inside⟩ := List.mem_flatten.mp member
  obtain ⟨earlier, front, back, later, -, split⟩ := found.exists_split present inside
  exact ⟨earlier, front, back, later, split⟩

/-- The places before and behind the one where the groups are split. -/
theorem order (found : GroupPlaces source (earlier ++ (front ++ place :: back) :: later)) :
    ofSource source = (earlier.flatten ++ front) ++ place :: (back ++ later.flatten) := by
  rw [← found.flat]
  simp

/-- The comments of a group join one after the other, by the rule of the first of them. -/
theorem chain (found : GroupPlaces source (earlier ++ (front ++ place :: back) :: later)) :
    (front ++ place :: back).IsChain (Joins source (ofSource source) (front.headD place)) := by
  cases front with
  | nil => exact found.grouped.chain_of_mem List.mem_append_cons_self
  | cons first rest => exact found.grouped.chain_of_mem List.mem_append_cons_self

/-- The comment behind another one is in the same group exactly when it joins. -/
theorem mem_iff_joins (found : GroupPlaces source (earlier ++ (front ++ place :: back) :: later))
    {next : Extent} {after : List Extent} (behind : back ++ later.flatten = next :: after) :
    next ∈ front ++ place :: back ↔
      Joins source (ofSource source) (front.headD place) place next := by
  have member : front ++ place :: back ∈ earlier ++ (front ++ place :: back) :: later :=
    List.mem_append_cons_self
  have inside : place ∈ front ++ place :: back := List.mem_append_cons_self
  have nodup : (earlier ++ (front ++ place :: back) :: later).flatten.Nodup := by
    rw [found.flat]
    exact (ofSource_within source).nodup
  have order := found.flat.trans found.order
  rw [behind] at order
  cases front with
  | nil => exact found.grouped.mem_iff_joins nodup member inside order
  | cons first rest => exact found.grouped.mem_iff_joins nodup member inside order

end

end GroupPlaces

end Extent

namespace CommentGroup

variable {source : List UInt8} {group : CommentGroup}

theorem ne_nil_of_mem_ofSource (member : group ∈ ofSource source) : group.comments ≠ [] := by
  obtain ⟨groups, found⟩ := Extent.GroupPlaces.exists_groups source
  rw [found.collected] at member
  obtain ⟨places, present, rfl⟩ := List.mem_map.mp member
  exact fun none => found.grouped.ne_nil places present (List.map_eq_nil_iff.mp none)

/-- All comments of a group stand between its start and its end. -/
theorem bounds_of_mem_ofSource (member : group ∈ ofSource source)
    {comment : Comment} (inside : comment ∈ group.comments) :
    group.start.le comment.span.start = true ∧
      comment.span.start.le comment.span.finish = true ∧
      comment.span.finish.le group.finish = true := by
  obtain ⟨groups, found⟩ := Extent.GroupPlaces.exists_groups source
  rw [found.collected] at member
  obtain ⟨places, present, rfl⟩ := List.mem_map.mp member
  obtain ⟨place, placeInside, rfl⟩ := List.mem_map.mp inside
  have bounds := found.bounds present placeInside
  have placeMember := found.mem_ofSource present placeInside
  refine ⟨bounds.1, ?_, bounds.2⟩
  exact Position.ofOffset_le (Nat.le_of_lt (Extent.start_lt_stop placeMember))
    (Extent.stop_le_length placeMember)

theorem start_le_finish (member : group ∈ ofSource source) :
    group.start.le group.finish = true := by
  obtain ⟨comment, rest, split⟩ := List.exists_cons_of_ne_nil (ne_nil_of_mem_ofSource member)
  have inside : comment ∈ group.comments := by
    rw [split]
    exact List.mem_cons_self
  obtain ⟨start, middle, finish⟩ := bounds_of_mem_ofSource member inside
  exact Position.le_trans _ _ _ start (Position.le_trans _ _ _ middle finish)

/-- Every group ends before the next one starts. -/
theorem pairwise_ofSource (source : List UInt8) :
    (ofSource source).Pairwise fun earlier later => earlier.finish.le later.start = true := by
  obtain ⟨groups, found⟩ := Extent.GroupPlaces.exists_groups source
  rw [found.collected, List.pairwise_map]
  refine found.ordered.2.imp_of_mem ?_
  intro front back frontMember backMember apart
  rcases List.eq_nil_or_concat' front with rfl | ⟨init, last, rfl⟩
  · exact absurd rfl (found.grouped.ne_nil [] frontMember)
  · cases back with
    | nil => exact absurd rfl (found.grouped.ne_nil [] backMember)
    | cons first tail =>
        rw [finish_ofExtents, start_ofExtents]
        have firstMember := found.mem_ofSource backMember List.mem_cons_self
        have bounds := Extent.start_lt_stop firstMember
        have inside := Extent.stop_le_length firstMember
        exact Position.ofOffset_le (apart last (by simp) first List.mem_cons_self) (by omega)

end CommentGroup

/-! ## The index of a source -/

theorem filter_or_eq_append {alpha : Type} {first second : alpha → Bool} {items : List alpha}
    (apart : ∀ item ∈ items, second item = true → first item = false)
    (ordered : items.Pairwise fun earlier later =>
      second earlier = true → first later = false) :
    items.filter (fun item => first item || second item) =
      items.filter first ++ items.filter second := by
  induction items with
  | nil => rfl
  | cons item rest inductionHypothesis =>
      have restApart := fun other member => apart other (List.mem_cons_of_mem item member)
      obtain ⟨later, restOrdered⟩ := List.pairwise_cons.mp ordered
      have further := inductionHypothesis restApart restOrdered
      cases isSecond : second item with
      | false =>
          cases isFirst : first item with
          | false => simp [isFirst, isSecond, further]
          | true => simp [isFirst, isSecond, further]
      | true =>
          have notFirst := apart item List.mem_cons_self isSecond
          have none : rest.filter first = [] := by
            rw [List.filter_eq_nil_iff]
            intro other member
            rw [later other member isSecond]
            exact Bool.false_ne_true
          rw [none, List.nil_append] at further
          simp [notFirst, isSecond, further, none]

namespace CommentIndex

/-- An index keeps the groups of a source as they are. -/
theorem ofGroups_ofSource (source : List UInt8) :
    ofGroups (CommentGroup.ofSource source) = ⟨CommentGroup.ofSource source⟩ := by
  have kept : (CommentGroup.ofSource source).filter (!·.isEmpty) =
      CommentGroup.ofSource source := by
    rw [List.filter_eq_self]
    intro group member
    have filled := CommentGroup.ne_nil_of_mem_ofSource member
    simpa [CommentGroup.isEmpty] using filled
  have sorted : (CommentGroup.ofSource source).Pairwise fun earlier later =>
      earlier.start.le later.start = true := by
    refine (CommentGroup.pairwise_ofSource source).imp_of_mem ?_
    intro earlier later member _ apart
    exact Position.le_trans _ _ _ (CommentGroup.start_le_finish member) apart
  rw [ofGroups, kept, List.mergeSort_of_pairwise sorted]

/-- A group is above what starts on the line below its last comment. -/
theorem isAbove_ofExtents_iff {source : List UInt8} {front : List Extent} {last : Extent}
    {span : Span} :
    isAbove (.ofExtents source (front ++ [last])) span = true ↔
      (Position.ofOffset source last.stop).line + 1 = span.start.line := by
  have positive := Position.line_ofOffset_pos source last.stop
  rw [isAbove_iff, CommentGroup.finish_ofExtents]
  omega

/-- A group behind a span decides before all groups above it. -/
theorem directiveFor_ofSource (source : List UInt8) {span : Span}
    (downward : span.start.line ≤ span.finish.line) :
    (ofGroups (CommentGroup.ofSource source)).directiveFor span =
      (lastDirective ((CommentGroup.ofSource source).filter (isBehind · span))).orElse fun _ =>
        lastDirective ((CommentGroup.ofSource source).filter (isAbove · span)) := by
  have notAbove : ∀ group ∈ CommentGroup.ofSource source,
      span.finish.line ≤ group.finish.line → isAbove group span = false := by
    intro group member below
    rw [Bool.eq_false_iff]
    intro above
    rw [isAbove_iff] at above
    omega
  have apart : ∀ group ∈ CommentGroup.ofSource source,
      isBehind group span = true → isAbove group span = false := by
    intro group member behind
    rw [isBehind_iff] at behind
    have extent := CommentGroup.start_le_finish member
    rw [Position.le_iff] at extent
    exact notAbove group member (by omega)
  have ordered : (CommentGroup.ofSource source).Pairwise fun earlier later =>
      isBehind earlier span = true → isAbove later span = false := by
    refine (CommentGroup.pairwise_ofSource source).imp_of_mem ?_
    intro earlier later earlierMember laterMember before behind
    rw [isBehind_iff] at behind
    have earlierExtent := CommentGroup.start_le_finish earlierMember
    have laterExtent := CommentGroup.start_le_finish laterMember
    rw [Position.le_iff] at before earlierExtent laterExtent
    exact notAbove later laterMember (by omega)
  rw [directiveFor, related, ofGroups_ofSource]
  dsimp only
  rw [← lastDirective_append, ← filter_or_eq_append apart ordered]
  rfl

end CommentIndex

end LiteralAudit
