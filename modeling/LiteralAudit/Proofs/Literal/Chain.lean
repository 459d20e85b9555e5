import LiteralAudit.Literal.Resolution
import LiteralAudit.Proofs.Source.Directive
import LiteralAudit.Proofs.Source.Index

/-!
# Where a literal looks for its directive

A literal looks for its directive at a chain of spans: its own one, and those of the nodes around it
as far as they are transparent. It takes the first directive on the chain. Neither the nodes from the
first barrier outward nor the comments that are bound to no span of the chain have any influence.
-/

namespace LiteralAudit

namespace Directive

/-- The first of some directives that is specified, if there is one. -/
def firstOf (directives : List Directive) : Directive :=
  (directives.find? (·.isSpecified)).getD .unspecified

theorem firstOf_cons (directive : Directive) (further : List Directive) :
    firstOf (directive :: further) = directive.orElse fun _ => firstOf further := by
  cases specified : directive.isSpecified with
  | true => simp [firstOf, orElse, specified]
  | false => simp [firstOf, orElse, specified]

end Directive

namespace LiteralSite

/-- The spans where a directive counts for the literal, from the inside outward. -/
def chain (site : LiteralSite) : List Span :=
  site.span :: (site.outward.takeWhile (·.kind.isTransparent)).map (·.span)

/-- Whether a group is bound to one of these spans. -/
def isReachedBy (site : LiteralSite) (group : CommentGroup) : Bool :=
  site.chain.any fun span => CommentIndex.isRelated group span

/-- The first node that passes no directive on ends the chain, and counts itself. -/
theorem chain_of_ancestors
    {site : LiteralSite} {outer inner : List Node} {barrier : Node}
    (ancestors : site.ancestors = outer ++ barrier :: inner)
    (transparent : ∀ node ∈ inner, node.kind.isTransparent = true)
    (halts : barrier.kind.isTransparent = false) :
    site.chain = site.span :: inner.reverse.map (·.span) := by
  have outward : site.outward = inner.reverse ++ barrier :: outer.reverse := by
    rw [outward, ancestors]
    simp
  have passed : ∀ node ∈ inner.reverse, node.kind.isTransparent = true := by
    intro node member
    exact transparent node (List.mem_reverse.mp member)
  rw [chain, outward, List.takeWhile_append_of_pos passed,
    List.takeWhile_cons, if_neg (Bool.eq_false_iff.mp halts), List.append_nil]

end LiteralSite

theorem inheritedDirective_eq_firstOf (comments : CommentIndex) (nodes : List Node) :
    inheritedDirective comments nodes =
      Directive.firstOf
        ((nodes.takeWhile (·.kind.isTransparent)).map fun node =>
          comments.directiveFor node.span) := by
  induction nodes with
  | nil => rfl
  | cons node outer inductionHypothesis =>
      rw [inheritedDirective]
      by_cases transparent : node.kind.isTransparent = true
      · rw [if_pos transparent, List.takeWhile_cons, if_pos transparent, List.map_cons,
          Directive.firstOf_cons, inductionHypothesis]
      · rw [if_neg transparent, List.takeWhile_cons, if_neg transparent]
        rfl

/-- The walk along the nodes takes the first directive that is specified. -/
theorem resolveDirective_eq_firstOf (site : LiteralSite) (comments : CommentIndex) :
    resolveDirective site comments =
      Directive.firstOf (site.chain.map comments.directiveFor) := by
  rw [resolveDirective, inheritedDirective_eq_firstOf, LiteralSite.chain, List.map_cons,
    Directive.firstOf_cons, List.map_map]
  rfl

/-- Two literals with the same chain have the same directive, as soon as the groups that are bound to
the chain are the same. -/
theorem resolveDirective_eq_of_chain_eq
    {site other : LiteralSite} {groups others : List CommentGroup}
    (sameChain : other.chain = site.chain)
    (sameGroups : others.filter site.isReachedBy = groups.filter site.isReachedBy) :
    resolveDirective other (.ofGroups others) = resolveDirective site (.ofGroups groups) := by
  rw [resolveDirective_eq_firstOf, resolveDirective_eq_firstOf, sameChain]
  congr 1
  apply List.map_congr_left
  intro span member
  apply CommentIndex.directiveFor_ofGroups_eq
  have reached : ∀ candidates : List CommentGroup,
      (candidates.filter site.isReachedBy).filter (CommentIndex.isRelated · span) =
        candidates.filter (CommentIndex.isRelated · span) := by
    intro candidates
    rw [List.filter_filter]
    apply List.filter_congr
    intro group _
    cases bound : CommentIndex.isRelated group span with
    | false => rfl
    | true => simpa [LiteralSite.isReachedBy] using ⟨span, member, bound⟩
  rw [← reached others, sameGroups, reached groups]

/-- The directive of a literal is the first one on its chain. The nodes from the first barrier
outward can be replaced behind another barrier, and groups that are bound to no span of the chain can
be added and removed anywhere, without any effect on it. -/
theorem resolveDirective_local (site : LiteralSite) :
    (∀ comments : CommentIndex,
      resolveDirective site comments =
        ((site.chain.map comments.directiveFor).find? (·.isSpecified)).getD .unspecified) ∧
      (∀ (outer outer' inner : List Node) (barrier barrier' : Node)
          (groups groups' : List CommentGroup),
        site.ancestors = outer ++ barrier :: inner →
        (∀ node ∈ inner, node.kind.isTransparent = true) →
        barrier.kind.isTransparent = false → barrier'.kind.isTransparent = false →
        groups'.filter site.isReachedBy = groups.filter site.isReachedBy →
          resolveDirective { site with ancestors := outer' ++ barrier' :: inner }
              (.ofGroups groups') =
            resolveDirective site (.ofGroups groups)) ∧
      ∀ (before after : List CommentGroup) (group : CommentGroup),
        (∀ span ∈ site.chain, CommentIndex.isRelated group span = false) →
          resolveDirective site (.ofGroups (before ++ group :: after)) =
            resolveDirective site (.ofGroups (before ++ after)) := by
  refine ⟨resolveDirective_eq_firstOf site, ?_, ?_⟩
  · intro outer outer' inner barrier barrier' groups groups' ancestors transparent halts halts' same
    apply resolveDirective_eq_of_chain_eq _ same
    rw [LiteralSite.chain_of_ancestors ancestors transparent halts,
      LiteralSite.chain_of_ancestors rfl transparent halts']
  · intro before after group unrelated
    have notReached : site.isReachedBy group = false := by
      rw [LiteralSite.isReachedBy, List.any_eq_false]
      intro span member
      rw [unrelated span member]
      exact Bool.false_ne_true
    apply resolveDirective_eq_of_chain_eq rfl
    rw [List.filter_append, List.filter_append,
      List.filter_cons_of_neg (Bool.eq_false_iff.mp notReached)]

end LiteralAudit
