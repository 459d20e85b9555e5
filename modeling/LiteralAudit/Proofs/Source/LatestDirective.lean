import LiteralAudit.Proofs.Source.Directive
import LiteralAudit.Proofs.Source.GroupOrder

/-!
# The latest directive counts

An index puts the groups bound to a span in the order of their starts and takes the last directive
of all their comments. Where the groups are those of one file, so that the comments of each stand in
order and no two groups interleave, this is the directive that starts last in the file. The order in
which the groups are supplied makes no difference then.
-/

namespace LiteralAudit

namespace Position

/-- The strict order of a file. -/
def Before (left right : Position) : Prop :=
  left.line < right.line ∨ (left.line = right.line ∧ left.column < right.column)

instance (left right : Position) : Decidable (left.Before right) :=
  inferInstanceAs (Decidable (_ ∨ _))

theorem Before.not_le {left right : Position} (before : left.Before right) :
    ¬ right.le left = true := by
  rw [le_iff]
  unfold Before at before
  omega

theorem Before.asymm {left right : Position} (before : left.Before right) :
    ¬ right.Before left := by
  unfold Before at *
  omega

end Position

/-! ## Directives by their place -/

namespace Comment

def StartsBefore (earlier later : Comment) : Prop :=
  earlier.span.start.Before later.span.start

instance (earlier later : Comment) : Decidable (earlier.StartsBefore later) :=
  inferInstanceAs (Decidable (earlier.span.start.Before later.span.start))

end Comment

/-- What some comments ask for by their places in the file, in whatever order they are listed: what
that comment asks for that starts behind all others with a directive. -/
inductive LatestDirective (comments : List Comment) : Directive → Prop
  | silent (none : ∀ comment ∈ comments, comment.directive? = none) :
      LatestDirective comments .unspecified
  | given {comment : Comment} {directive : Directive} (member : comment ∈ comments)
      (asked : comment.directive? = some directive)
      (latest : ∀ other ∈ comments, other.directive? ≠ none → other ≠ comment →
        other.StartsBefore comment) :
      LatestDirective comments directive

namespace LatestDirective

variable {comments others front back : List Comment} {first second : Directive}

/-- Two comments cannot each be the latest one. -/
theorem unique (one : LatestDirective comments first) (other : LatestDirective comments second) :
    first = second := by
  cases one with
  | silent none =>
      cases other with
      | silent _ => rfl
      | given member asked _ =>
          rw [none _ member] at asked
          cases asked
  | @given comment _ member asked latest =>
      cases other with
      | silent none =>
          rw [none _ member] at asked
          cases asked
      | @given another _ anotherMember anotherAsked anotherLatest =>
          by_cases same : another = comment
          · subst same
            exact Option.some.inj (asked.symm.trans anotherAsked)
          · have before : another.StartsBefore comment :=
              latest another anotherMember (by simp [anotherAsked]) same
            have behind : comment.StartsBefore another :=
              anotherLatest comment member (by simp [asked]) (Ne.symm same)
            exact absurd behind before.asymm

theorem of_mem_iff (same : ∀ comment, comment ∈ comments ↔ comment ∈ others)
    (latest : LatestDirective comments first) :
    LatestDirective others first := by
  cases latest with
  | silent none =>
      exact .silent fun comment member => none comment ((same comment).mpr member)
  | given member asked latest =>
      exact .given ((same _).mp member) asked fun other otherMember =>
        latest other ((same other).mpr otherMember)

/-- Comments that stand behind others, or are listed again, go first. -/
theorem append (one : LatestDirective front first) (other : LatestDirective back second)
    (order : ∀ earlier ∈ front, earlier ∈ back ∨ ∀ later ∈ back, earlier.StartsBefore later) :
    LatestDirective (front ++ back) (second.orElse fun _ => first) := by
  cases other with
  | silent none =>
      rw [Directive.unspecified_orElse]
      cases one with
      | silent noneBefore =>
          exact .silent fun comment member =>
            (List.mem_append.mp member).elim (noneBefore comment) (none comment)
      | given member asked latest =>
          refine .given (List.mem_append_left back member) asked ?_
          intro other present speaks
          rcases List.mem_append.mp present with earlier | later
          · exact latest other earlier speaks
          · exact absurd (none other later) speaks
  | @given comment _ member asked latest =>
      rw [Directive.orElse_of_isSpecified (Directive.isSpecified_of_parse? asked)]
      refine .given (List.mem_append_right front member) asked ?_
      intro other present speaks different
      rcases List.mem_append.mp present with earlier | later
      · rcases order other earlier with again | before
        · exact latest other again speaks different
        · exact before comment member
      · exact latest other later speaks different

end LatestDirective

/-! ## Groups of one file -/

namespace CommentGroup

/-- All comments of a group start before those of another. -/
def Precedes (front back : CommentGroup) : Prop :=
  ∀ earlier ∈ front.comments, ∀ later ∈ back.comments, earlier.StartsBefore later

instance (front back : CommentGroup) : Decidable (front.Precedes back) :=
  inferInstanceAs (Decidable (∀ earlier ∈ front.comments, ∀ later ∈ back.comments,
    earlier.StartsBefore later))

/-- Groups as a file has them, listed in any order: the comments of each group stand in their order,
and of two different groups one stands before the other. -/
structure OfOneFile (groups : List CommentGroup) : Prop where
  ordered : ∀ group ∈ groups, group.comments.Pairwise Comment.StartsBefore
  apart : ∀ group ∈ groups, ∀ other ∈ groups,
    group ≠ other → group.Precedes other ∨ other.Precedes group

variable {groups : List CommentGroup}

theorem OfOneFile.subset {others : List CommentGroup} (file : OfOneFile groups)
    (subset : others ⊆ groups) :
    OfOneFile others where
  ordered := fun group member => file.ordered group (subset member)
  apart := fun group member other otherMember =>
    file.apart group (subset member) other (subset otherMember)

theorem Precedes.start_before {front back : CommentGroup} (precedes : front.Precedes back)
    (frontFilled : front.comments ≠ []) (backFilled : back.comments ≠ []) :
    front.start.Before back.start := by
  obtain ⟨earlier, frontRest, frontSplit⟩ := List.exists_cons_of_ne_nil frontFilled
  obtain ⟨later, backRest, backSplit⟩ := List.exists_cons_of_ne_nil backFilled
  have before : earlier.StartsBefore later :=
    precedes earlier (by simp [frontSplit]) later (by simp [backSplit])
  simpa [start, frontSplit, backSplit, Comment.StartsBefore] using before

/-- Of groups of a file that are not empty, the one that starts first stands before the other. -/
theorem OfOneFile.eq_or_precedes (file : OfOneFile groups)
    (filled : ∀ group ∈ groups, group.comments ≠ []) {front back : CommentGroup}
    (frontMember : front ∈ groups) (backMember : back ∈ groups)
    (order : front.start.le back.start = true) :
    front = back ∨ front.Precedes back := by
  by_cases same : front = back
  · exact Or.inl same
  · right
    rcases file.apart front frontMember back backMember same with precedes | follows
    · exact precedes
    · have before : back.start.Before front.start :=
        follows.start_before (filled back backMember) (filled front frontMember)
      exact absurd order before.not_le

/-- Groups of a file are the same when each starts no later than the other. -/
theorem OfOneFile.eq_of_start_le (file : OfOneFile groups)
    (filled : ∀ group ∈ groups, group.comments ≠ []) {front back : CommentGroup}
    (frontMember : front ∈ groups) (backMember : back ∈ groups)
    (order : front.start.le back.start = true) (reverse : back.start.le front.start = true) :
    front = back := by
  rcases file.eq_or_precedes filled frontMember backMember order with same | precedes
  · exact same
  · have before : front.start.Before back.start :=
      precedes.start_before (filled front frontMember) (filled back backMember)
    exact absurd reverse before.not_le

/-- In the order of a file, the last directive is the latest one. -/
theorem latestDirective_comments {comments : List Comment}
    (ordered : comments.Pairwise Comment.StartsBefore) :
    LatestDirective comments (lastDirective [⟨comments⟩]) := by
  induction comments with
  | nil => exact .silent (List.forall_mem_nil _)
  | cons comment further inductionHypothesis =>
      obtain ⟨before, rest⟩ := List.pairwise_cons.mp ordered
      have alone : LatestDirective [comment] (lastDirective [⟨[comment]⟩]) := by
        cases asked : comment.directive? with
        | none =>
            rw [lastDirective_eq_unspecified (by simp [asked])]
            exact .silent (by simp [asked])
        | some directive =>
            rw [← List.nil_append [comment], ← List.nil_append [CommentGroup.mk _],
              lastDirective_concat asked]
            exact .given (List.mem_singleton_self comment) asked (by simp)
      have joined : lastDirective [⟨comment :: further⟩] =
          (lastDirective [⟨further⟩]).orElse fun _ => lastDirective [⟨[comment]⟩] := by
        rw [← lastDirective_append]
        simp [lastDirective]
      rw [joined]
      refine alone.append (inductionHypothesis rest) fun earlier member => Or.inr ?_
      rw [List.mem_singleton.mp member]
      exact before

/-- Where groups are listed in the order of the file, even one of them several times in a row, the
last directive of the list is the latest one. -/
theorem latestDirective_flatMap
    (each : ∀ group ∈ groups, group.comments.Pairwise Comment.StartsBefore)
    (ordered : groups.Pairwise fun front back => front = back ∨ front.Precedes back) :
    LatestDirective (groups.flatMap (·.comments)) (lastDirective groups) := by
  induction groups with
  | nil => exact .silent (List.forall_mem_nil _)
  | cons group further inductionHypothesis =>
      obtain ⟨head, tail⟩ := List.forall_mem_cons.mp each
      obtain ⟨before, rest⟩ := List.pairwise_cons.mp ordered
      rw [List.flatMap_cons, ← List.singleton_append, lastDirective_append]
      refine (latestDirective_comments head).append (inductionHypothesis tail rest) ?_
      intro earlier member
      -- The list may repeat a group. Then its directives are found where it is listed last.
      by_cases again : group ∈ further
      · exact Or.inl (List.mem_flatMap.mpr ⟨group, again, member⟩)
      · right
        intro later laterMember
        obtain ⟨back, backMember, inside⟩ := List.mem_flatMap.mp laterMember
        rcases before back backMember with rfl | precedes
        · exact absurd backMember again
        · exact precedes earlier member later inside

end CommentGroup

/-! ### Groups of a source -/

theorem Extent.startsBefore_of_stop_le {source : List UInt8} {earlier later : Extent}
    (earlierMember : earlier ∈ ofSource source) (laterMember : later ∈ ofSource source)
    (apart : earlier.stop ≤ later.start) :
    (earlier.comment source).StartsBefore (later.comment source) := by
  have earlierExtent := start_lt_stop earlierMember
  have laterExtent := start_lt_stop laterMember
  have inside := stop_le_length laterMember
  exact Position.ofOffset_lt (by omega) (by omega)

namespace CommentGroup

/-- The groups that are read from a source are those of one file. -/
theorem ofOneFile_ofSource (source : List UInt8) : OfOneFile (ofSource source) := by
  obtain ⟨groups, found⟩ := Extent.GroupPlaces.exists_groups source
  rw [found.collected]
  constructor
  · intro group member
    obtain ⟨places, present, rfl⟩ := List.mem_map.mp member
    refine List.pairwise_map.mpr ((found.ordered.1 places present).imp_of_mem ?_)
    intro earlier later earlierMember laterMember apart
    exact Extent.startsBefore_of_stop_le (found.mem_ofSource present earlierMember)
      (found.mem_ofSource present laterMember) apart
  · have symmetric : Std.Symm fun front back : CommentGroup =>
        front.Precedes back ∨ back.Precedes front := ⟨fun _ _ => Or.symm⟩
    suffices precedes : (groups.map (ofExtents source)).Pairwise fun front back =>
        front.Precedes back ∨ back.Precedes front by
      intro group member other otherMember different
      exact precedes.forall member otherMember different
    refine List.pairwise_map.mpr (found.ordered.2.imp_of_mem ?_)
    intro front back frontMember backMember apart
    left
    intro earlier earlierMember later laterMember
    obtain ⟨earlierPlace, inFront, rfl⟩ := List.mem_map.mp earlierMember
    obtain ⟨laterPlace, inBack, rfl⟩ := List.mem_map.mp laterMember
    exact Extent.startsBefore_of_stop_le (found.mem_ofSource frontMember inFront)
      (found.mem_ofSource backMember inBack) (apart _ inFront _ inBack)

end CommentGroup

/-! ## Indices of one file -/

namespace CommentIndex

open CommentGroup (OfOneFile)

variable {groups others : List CommentGroup}

theorem comments_ne_nil_of_isRelated {group : CommentGroup} {span : Span}
    (related : isRelated group span = true) : group.comments ≠ [] := by
  intro none
  have empty : group.isEmpty = true := List.isEmpty_iff.mpr none
  rw [isRelated_of_isEmpty empty span] at related
  cases related

/-- An index finds just the groups that are related, in some order. -/
theorem related_ofGroups_perm (groups : List CommentGroup) (span : Span) :
    ((ofGroups groups).related span).Perm
      (groups.filter fun group => isRelated group span) := by
  rw [related_ofGroups]
  exact List.mergeSort_perm _ _

theorem related_ofGroups_pairwise (groups : List CommentGroup) (span : Span) :
    ((ofGroups groups).related span).Pairwise fun front back =>
      front.start.le back.start = true := by
  rw [related_ofGroups]
  exact List.pairwise_mergeSort
    (fun left middle right => Position.le_trans left.start middle.start right.start)
    (fun left right => Position.le_total left.start right.start) _

theorem mem_related_ofGroups {group : CommentGroup} {span : Span} :
    group ∈ (ofGroups groups).related span ↔ group ∈ groups ∧ isRelated group span = true := by
  rw [(related_ofGroups_perm groups span).mem_iff, List.mem_filter]

/-- The groups that an index binds to a span are groups of one file, and none of them is empty. -/
theorem ofOneFile_related (file : OfOneFile groups) (span : Span) :
    OfOneFile ((ofGroups groups).related span) ∧
      ∀ group ∈ (ofGroups groups).related span, group.comments ≠ [] :=
  ⟨file.subset fun _ member => (mem_related_ofGroups.mp member).1,
    fun _ member => comments_ne_nil_of_isRelated (mem_related_ofGroups.mp member).2⟩

/-- The directive of an index is the latest one among the related groups. -/
theorem latestDirective_related (file : OfOneFile groups) (span : Span) :
    LatestDirective
      ((groups.filter fun group => isRelated group span).flatMap (·.comments))
      ((ofGroups groups).directiveFor span) := by
  obtain ⟨picked, filled⟩ := ofOneFile_related file span
  have ordered : ((ofGroups groups).related span).Pairwise fun front back =>
      front = back ∨ front.Precedes back := by
    refine (related_ofGroups_pairwise groups span).imp_of_mem ?_
    intro front back frontMember backMember order
    exact picked.eq_or_precedes filled frontMember backMember order
  have latest := CommentGroup.latestDirective_flatMap picked.ordered ordered
  exact latest.of_mem_iff fun comment =>
    ((related_ofGroups_perm groups span).flatMap_right _).mem_iff

/-- The order in which groups are supplied is lost in sorting. -/
theorem related_eq_of_perm (file : OfOneFile groups) (permuted : groups.Perm others)
    (span : Span) :
    (ofGroups others).related span = (ofGroups groups).related span := by
  obtain ⟨picked, filled⟩ := ofOneFile_related file span
  have perm : ((ofGroups groups).related span).Perm ((ofGroups others).related span) :=
    ((related_ofGroups_perm groups span).trans (permuted.filter _)).trans
      (related_ofGroups_perm others span).symm
  refine (perm.eq_of_pairwise ?_ (related_ofGroups_pairwise groups span)
    (related_ofGroups_pairwise others span)).symm
  intro front back frontMember backMember order reverse
  exact picked.eq_of_start_le filled frontMember (perm.mem_iff.mpr backMember) order reverse

/-- The directive of a span is the one that starts last in the file among those of the groups bound
to the span, and unspecified if there is none. Neither it nor the groups bound to the span depend on
the order in which the groups were supplied. -/
theorem directiveFor_ofGroups_latest (file : OfOneFile groups) (span : Span) :
    (∀ directive, (ofGroups groups).directiveFor span = directive ↔
      LatestDirective ((groups.filter fun group => isRelated group span).flatMap (·.comments))
        directive) ∧
    ∀ others, groups.Perm others →
      (ofGroups others).related span = (ofGroups groups).related span ∧
      (ofGroups others).directiveFor span = (ofGroups groups).directiveFor span := by
  have latest := latestDirective_related file span
  refine ⟨?latest, ?permuted⟩
  case latest =>
    intro directive
    constructor
    · rintro rfl
      exact latest
    · exact latest.unique
  case permuted =>
    intro others permuted
    have same := related_eq_of_perm file permuted span
    exact ⟨same, by rw [directiveFor, same, directiveFor]⟩

/-- A directive behind a literal, supplied before the comments above it. -/
def shuffledGroups : List CommentGroup :=
  [.ofLine "//exhaustruct:enforce" 5 20, ⟨[]⟩,
    ⟨[⟨"// for now", .onLine 3 2 12⟩, ⟨"//exhaustruct:ignore", .onLine 4 2 22⟩]⟩]

/-- The directive behind the literal is later than the one above it, whichever is supplied first. -/
theorem directiveFor_shuffledGroups :
    OfOneFile shuffledGroups ∧ shuffledGroups.Perm shuffledGroups.reverse ∧
      (ofGroups shuffledGroups).directiveFor (.onLine 5 2 18) = .enforce ∧
      (ofGroups shuffledGroups.reverse).directiveFor (.onLine 5 2 18) = .enforce := by
  have file : OfOneFile shuffledGroups := ⟨by decide, by decide⟩
  have permuted : shuffledGroups.Perm shuffledGroups.reverse :=
    (List.reverse_perm shuffledGroups).symm
  obtain ⟨decided, supplied⟩ := directiveFor_ofGroups_latest file (.onLine 5 2 18)
  have behind : (⟨"//exhaustruct:enforce", .onLine 5 20 41⟩ : Comment) ∈
      (shuffledGroups.filter fun group =>
        isRelated group (.onLine 5 2 18)).flatMap (·.comments) := by
    decide
  have enforced := (decided .enforce).mpr (.given behind (by decide) (by decide))
  exact ⟨file, permuted, enforced, (supplied _ permuted).2.trans enforced⟩

end CommentIndex

end LiteralAudit
