import LiteralAudit.Source.Comment

/-!
# Directives in the text of comments

A directive that is read from a comment is always specified, and no block comment gives one. Of two
runs of groups the second one decides, as soon as it holds a directive.
-/

namespace LiteralAudit

namespace Directive

@[simp]
theorem orElse_of_isSpecified {first : Directive} (specified : first.isSpecified = true)
    (second : Unit → Directive) :
    first.orElse second = first := by
  rw [orElse, if_pos specified]

@[simp]
theorem unspecified_orElse (second : Unit → Directive) :
    unspecified.orElse second = second () := by
  rfl

@[simp]
theorem isSpecified_orElse (first : Directive) (second : Unit → Directive) :
    (first.orElse second).isSpecified = (first.isSpecified || (second ()).isSpecified) := by
  cases specified : first.isSpecified with
  | true => rw [orElse, if_pos specified, specified, Bool.true_or]
  | false => simp [orElse, specified]

theorem isSpecified_of_parse? {text : String} {directive : Directive}
    (parsed : parse? text = some directive) :
    directive.isSpecified = true := by
  obtain ⟨rest, -, named⟩ := Option.bind_eq_some_iff.mp parsed
  have member : directive ∈ written := List.mem_of_find?_eq_some named
  cases directive with
  | unspecified => simp [written] at member
  | enforce => rfl
  | ignore => rfl

theorem parse?_block (content : List Char) :
    parse? (String.ofList ('/' :: '*' :: content)) = none := by
  rw [parse?, String.toList_ofList]
  rfl

end Directive

/-! ## The last directive of some groups -/

theorem isSpecified_of_mem_directives {comments : List Comment} {directive : Directive}
    (member : directive ∈ comments.filterMap (·.directive?)) :
    directive.isSpecified = true := by
  obtain ⟨comment, -, given⟩ := List.mem_filterMap.mp member
  exact Directive.isSpecified_of_parse? given

/-- Directives of later groups override those of earlier ones. -/
theorem lastDirective_append (first second : List CommentGroup) :
    lastDirective (first ++ second) =
      (lastDirective second).orElse fun _ => lastDirective first := by
  rw [lastDirective, List.flatMap_append, List.filterMap_append, List.getLast?_append]
  cases last : ((second.flatMap (·.comments)).filterMap (·.directive?)).getLast? with
  | none =>
      rw [lastDirective, last, Option.getD_none, Directive.unspecified_orElse, Option.none_or]
      rfl
  | some directive =>
      have specified := isSpecified_of_mem_directives (List.mem_of_getLast? last)
      rw [lastDirective, last, Option.getD_some, Option.some_or, Option.getD_some,
        Directive.orElse_of_isSpecified specified]

/-- The last comment of the last group decides when it gives a directive. -/
theorem lastDirective_concat {comment : Comment} {directive : Directive}
    (given : comment.directive? = some directive)
    (groups : List CommentGroup) (comments : List Comment) :
    lastDirective (groups ++ [⟨comments ++ [comment]⟩]) = directive := by
  simp [lastDirective, given]

/-- When the comments of some groups give no directive but one, then this is the last one. -/
theorem lastDirective_eq_of_forall {groups : List CommentGroup} {directive : Directive}
    {group : CommentGroup} {comment : Comment}
    (groupMember : group ∈ groups) (member : comment ∈ group.comments)
    (given : comment.directive? = some directive)
    (only : ∀ other ∈ groups.flatMap (·.comments), ∀ another,
      other.directive? = some another → another = directive) :
    lastDirective groups = directive := by
  have present : directive ∈ (groups.flatMap (·.comments)).filterMap (·.directive?) :=
    List.mem_filterMap.mpr ⟨comment, List.mem_flatMap.mpr ⟨group, groupMember, member⟩, given⟩
  cases last : ((groups.flatMap (·.comments)).filterMap (·.directive?)).getLast? with
  | none =>
      rw [List.getLast?_eq_none_iff.mp last] at present
      cases present
  | some another =>
      obtain ⟨other, otherMember, otherGiven⟩ :=
        List.mem_filterMap.mp (List.mem_of_getLast? last)
      rw [lastDirective, last, Option.getD_some]
      exact only other otherMember another otherGiven

/-- Comments that give no directive leave it unspecified. -/
theorem lastDirective_eq_unspecified {groups : List CommentGroup}
    (none : ∀ comment ∈ groups.flatMap (·.comments), comment.directive? = none) :
    lastDirective groups = .unspecified := by
  rw [lastDirective, List.filterMap_eq_nil_iff.mpr none]
  rfl

end LiteralAudit
