import LiteralAudit.Proofs.Source.Adjacency

/-!
# A directive on the line above

A directive that stands alone on a line is bound to what starts on the next line, unless a comment
opens the next line. Such a comment joins the group of the directive, which then ends too late to be
above anything on this line.
-/

namespace LiteralAudit

namespace Extent.GroupPlaces

variable {source : List UInt8} {groups : List (List Extent)}

/-- The places of the comments that are bound to a span. -/
theorem exists_place (found : GroupPlaces source groups) {span : Span} {comment : Comment}
    (member : comment ∈
      ((CommentIndex.ofGroups (CommentGroup.ofSource source)).related span).flatMap (·.comments)) :
    ∃ places ∈ groups, ∃ place ∈ places, comment = place.comment source ∧
      CommentIndex.isRelated (.ofExtents source places) span = true := by
  obtain ⟨group, groupMember, inside⟩ := List.mem_flatMap.mp member
  rw [CommentIndex.ofGroups_ofSource, CommentIndex.related, List.mem_filter, found.collected]
    at groupMember
  obtain ⟨collected, related⟩ := groupMember
  obtain ⟨places, present, rfl⟩ := List.mem_map.mp collected
  obtain ⟨place, placeInside, rfl⟩ := List.mem_map.mp inside
  exact ⟨places, present, place, placeInside, rfl, related⟩

theorem mem_related (found : GroupPlaces source groups) {places : List Extent}
    (member : places ∈ groups) {span : Span}
    (related : CommentIndex.isRelated (.ofExtents source places) span = true) :
    CommentGroup.ofExtents source places ∈
      (CommentIndex.ofGroups (CommentGroup.ofSource source)).related span := by
  rw [CommentIndex.ofGroups_ofSource, CommentIndex.related, List.mem_filter, found.collected]
  exact ⟨List.mem_map_of_mem member, related⟩

end Extent.GroupPlaces

namespace CommentIndex

section

variable {source : List UInt8} {place : Extent} {asked : Directive} {span : Span}
  (member : place ∈ Extent.ofSource source)
  (given : (place.comment source).directive? = some asked)
  (only : ∀ other ∈ Extent.ofSource source,
    other ≠ place → (other.comment source).directive? = none)
  (alone : Extent.OpensLine source place)
  (below : span.start.line = (Position.ofOffset source place.start).line + 1)

include member given only below in
/-- When no comment opens its line, a span has the directive of the line above. -/
theorem directiveFor_of_unopened
    (unopened : ¬ Extent.LineOpened source span.start.line) :
    (ofGroups (CommentGroup.ofSource source)).directiveFor span = asked := by
  obtain ⟨ends, sameLine⟩ := Extent.endsLine_of_directive? member given
  obtain ⟨earlier, front, back, later, found⟩ := Extent.GroupPlaces.exists_around member
  -- Another comment in the group behind the directive would open the line of the span.
  have last : back = [] := by
    cases back with
    | nil => rfl
    | cons next more =>
        obtain ⟨nextLine, opens⟩ := found.opensLine_of_back ends
        have nextMember := (found.mem_of_order.2.2 next (by simp)).1
        exact absurd ⟨next, nextMember, by omega, opens⟩ unopened
  subst last
  have above : isRelated (.ofExtents source (front ++ [place])) span = true := by
    rw [isRelated, Bool.or_eq_true, isAbove_ofExtents_iff]
    left
    omega
  have inGroup : place.comment source ∈
      (CommentGroup.ofExtents source (front ++ [place])).comments :=
    List.mem_map_of_mem List.mem_append_cons_self
  refine lastDirective_eq_of_forall (found.mem_related List.mem_append_cons_self above) inGroup
    given ?_
  intro other otherMember another otherGiven
  obtain ⟨places, present, spot, inside, rfl, -⟩ := found.exists_place otherMember
  by_cases same : spot = place
  · rw [same, given] at otherGiven
    exact (Option.some.inj otherGiven).symm
  · rw [only spot (found.mem_ofSource present inside) same] at otherGiven
    cases otherGiven

include member given only alone below in
/-- When a comment opens its line, a span has no directive. -/
theorem directiveFor_of_opened (downward : span.start.line ≤ span.finish.line)
    (opened : Extent.LineOpened source span.start.line) :
    (ofGroups (CommentGroup.ofSource source)).directiveFor span = .unspecified := by
  obtain ⟨opener, openerMember, openerLine, opens⟩ := opened
  obtain ⟨ends, sameLine⟩ := Extent.endsLine_of_directive? member given
  obtain ⟨groups, found⟩ := Extent.GroupPlaces.exists_groups source
  have filled := Extent.start_lt_stop openerMember
  have inside := Extent.stop_le_length member
  have placeFilled := Extent.start_lt_stop member
  have different : opener ≠ place := by
    intro same
    rw [same] at openerLine
    omega
  have apart : place.stop ≤ opener.start := by
    rcases Extent.stop_le_start_or member openerMember different with before | behind
    · have upward : (Position.ofOffset source opener.start).line ≤
          (Position.ofOffset source place.start).line :=
        Position.line_ofOffset_le (by omega) (by omega)
      omega
    · exact behind
  apply lastDirective_eq_unspecified
  intro comment commentMember
  obtain ⟨places, present, other, otherInside, rfl, related⟩ := found.exists_place commentMember
  apply only other (found.mem_ofSource present otherInside)
  -- The group of the directive reaches from the line above the span to the line of the span.
  intro same
  rw [same] at otherInside
  have start := (found.bounds present otherInside).1
  obtain ⟨earlier, front, back, later, rfl, split⟩ := found.exists_split present otherInside
  have openerInside := split.mem_of_opensLine ends alone openerMember opens apart (by omega)
  have finish := (found.bounds present openerInside).2
  have openerDownward := Position.line_ofOffset_le (Nat.le_of_lt filled)
    (Extent.stop_le_length openerMember)
  rw [Position.le_iff] at start finish
  rw [isRelated, Bool.or_eq_true, isAbove_iff, isBehind_iff] at related
  omega

end

/-- The only directive of a source, alone on a line, is that of every span that starts on the next
line, unless a comment stands in front of all code there: then the span has none. That nothing stands
behind the directive on its line needs no saying, as every directive is a line comment. -/
theorem directiveFor_lineAbove {source : List UInt8} {place : Extent} {asked : Directive}
    {span : Span} (member : place ∈ Extent.ofSource source)
    (given : (place.comment source).directive? = some asked)
    (only : ∀ other ∈ Extent.ofSource source,
      other ≠ place → (other.comment source).directive? = none)
    (alone : Extent.OpensLine source place)
    (below : span.start.line = (Position.ofOffset source place.start).line + 1)
    (downward : span.start.line ≤ span.finish.line) :
    (¬ Extent.LineOpened source span.start.line →
        (ofGroups (CommentGroup.ofSource source)).directiveFor span = asked) ∧
      (Extent.LineOpened source span.start.line →
        (ofGroups (CommentGroup.ofSource source)).directiveFor span = .unspecified) :=
  ⟨directiveFor_of_unopened member given only below,
    directiveFor_of_opened member given only alone below downward⟩

/-- A literal below a directive, with ordinary comments above, behind and below. -/
def commentedLiteral : List UInt8 :=
  Utf8.encode "package p\n// a\n//exhaustruct:ignore\nvar x = T{} // b\n/* c */\n"

/-- The line above a literal has just the directive. -/
theorem directiveFor_commentedLiteral :
    ¬ Extent.LineOpened commentedLiteral 4 ∧
      (ofGroups (CommentGroup.ofSource commentedLiteral)).directiveFor (.onLine 4 9 12) =
        .ignore := by
  have unopened : ¬ Extent.LineOpened commentedLiteral 4 := by
    decide +kernel
  have member : ⟨15, 35⟩ ∈ Extent.ofSource commentedLiteral := by
    decide +kernel
  refine ⟨unopened, (directiveFor_lineAbove member ?_ ?_ ?_ ?_ ?_).1 unopened⟩
  · decide +kernel
  · decide +kernel
  · decide +kernel
  · decide +kernel
  · decide

/-- A literal below a directive, with an ordinary comment in front of it. -/
def precededLiteral : List UInt8 :=
  Utf8.encode "package p\n//exhaustruct:ignore\n/* a */ var x = T{}\n"

/-- An ordinary comment in front of a literal takes the directive on the line above away from it,
though this directive is the only one and stands alone on its line. -/
theorem directiveFor_precededLiteral_ne :
    Extent.ofSource precededLiteral = [⟨10, 30⟩, ⟨31, 38⟩] ∧
      (Extent.comment precededLiteral ⟨10, 30⟩).directive? = some .ignore ∧
      (Extent.comment precededLiteral ⟨31, 38⟩).directive? = none ∧
      Extent.OpensLine precededLiteral ⟨10, 30⟩ ∧
      Position.ofOffset precededLiteral 10 = ⟨2, 1⟩ ∧
      Position.ofOffset precededLiteral 47 = ⟨3, 17⟩ ∧
      Position.ofOffset precededLiteral 50 = ⟨3, 20⟩ ∧
      (ofGroups (CommentGroup.ofSource precededLiteral)).directiveFor ⟨⟨3, 17⟩, ⟨3, 20⟩⟩ ≠
        .ignore := by
  decide +kernel

end CommentIndex

end LiteralAudit
