import LiteralAudit.Literal.Resolution
import LiteralAudit.Proofs.Source.Adjacency
import LiteralAudit.Proofs.Source.Replacement

/-!
# A directive behind one literal and above another

A directive that trails a literal ends its group on this very line. So the group stands on the line
above whatever starts on the next line, and a literal there takes the directive as if it stood alone
above it. Without the directive the literal resolves as before only when a directive behind it goes
first, or when it has the same directive from elsewhere.
-/

namespace LiteralAudit

namespace LiteralSite

/-- Where a literal stands in a source. It ends with a closing brace that is in no comment. -/
structure StandsAt (site : LiteralSite) (source : List UInt8) (start stop : Nat) : Prop where
  span : site.span = ⟨.ofOffset source start, .ofOffset source stop⟩
  order : start < stop
  brace : source[stop - 1]? = some 0x7D
  uncommented : ∀ extent ∈ Extent.ofSource source,
    ¬ (extent.start ≤ stop - 1 ∧ stop - 1 < extent.stop)

instance (site : LiteralSite) (source : List UInt8) (start stop : Nat) :
    Decidable (site.StandsAt source start stop) :=
  decidable_of_iff
    (site.span = ⟨.ofOffset source start, .ofOffset source stop⟩ ∧ start < stop ∧
      source[stop - 1]? = some 0x7D ∧
      ∀ extent ∈ Extent.ofSource source, ¬ (extent.start ≤ stop - 1 ∧ stop - 1 < extent.stop))
    ⟨fun ⟨span, order, brace, uncommented⟩ => ⟨span, order, brace, uncommented⟩,
      fun ⟨span, order, brace, uncommented⟩ => ⟨span, order, brace, uncommented⟩⟩

namespace StandsAt

variable {site : LiteralSite} {source : List UInt8} {start stop : Nat}

theorem inside (stands : site.StandsAt source start stop) : stop ≤ source.length := by
  have bound := (List.getElem?_eq_some_iff.mp stands.brace).1
  omega

theorem downward (stands : site.StandsAt source start stop) :
    site.span.start.line ≤ site.span.finish.line := by
  rw [stands.span]
  exact Position.line_ofOffset_le (Nat.le_of_lt stands.order) stands.inside

/-- What trails a literal follows code on its line. -/
theorem codeBefore (stands : site.StandsAt source start stop) {place : Extent}
    (trails : stop ≤ place.start)
    (sameLine : (Position.ofOffset source place.start).line = site.span.finish.line) :
    Extent.CodeBefore source (Extent.ofSource source) place.start := by
  have positive := stands.order
  have braceLine := Position.line_ofOffset_succ stands.brace (by decide)
  rw [Nat.sub_add_cancel (by omega)] at braceLine
  have finish : site.span.finish.line = (Position.ofOffset source stop).line := by
    rw [stands.span]
  refine ⟨stop - 1, by omega, by omega, ?_, stands.uncommented⟩
  rw [stands.brace]
  decide

end StandsAt

end LiteralSite

/-- A directive that follows code is the last one above whatever starts on the next line. -/
theorem Extent.lastDirective_isAbove {source : List UInt8} {place : Extent} {directive : Directive}
    {span : Span} (member : place ∈ ofSource source)
    (given : (place.comment source).directive? = some directive)
    (code : CodeBefore source (ofSource source) place.start)
    (below : span.start.line = (Position.ofOffset source place.start).line + 1) :
    lastDirective
        ((CommentGroup.ofSource source).filter (CommentIndex.isAbove · span)) = directive := by
  obtain ⟨ends, sameLine⟩ := endsLine_of_directive? member given
  obtain ⟨earlier, front, back, later, found⟩ := GroupPlaces.exists_around member
  obtain rfl := found.back_eq_nil_of_codeBefore ends code
  have above : CommentIndex.isAbove (.ofExtents source (front ++ [place])) span = true := by
    rw [CommentIndex.isAbove_ofExtents_iff]
    omega
  have none : (later.map (CommentGroup.ofExtents source)).filter
      (CommentIndex.isAbove · span) = [] := by
    rw [List.filter_eq_nil_iff]
    intro group member isAbove
    obtain ⟨others, present, rfl⟩ := List.mem_map.mp member
    have below := found.line_lt_finish ends present
    rw [CommentIndex.isAbove_iff] at isAbove
    omega
  rw [found.collected, List.map_append, List.map_cons, List.filter_append,
    List.filter_cons, if_pos above, none]
  have group : CommentGroup.ofExtents source (front ++ [place]) =
      ⟨front.map (comment source) ++ [place.comment source]⟩ := by
    rw [CommentGroup.ofExtents, List.map_append]
    rfl
  rw [group]
  exact lastDirective_concat given _ _

section

variable {source : List UInt8} {changed : Extent} {directive : Directive}
  {site next : LiteralSite} {start stop nextStart nextStop : Nat}

/-- A literal takes a directive that trails another literal on the line above it, unless a directive
behind the literal itself goes first. -/
theorem resolveDirective_below
    (member : changed ∈ Extent.ofSource source)
    (given : (changed.comment source).directive? = some directive)
    (siteStands : site.StandsAt source start stop)
    (nextStands : next.StandsAt source nextStart nextStop)
    (trails : stop ≤ changed.start)
    (sameLine : (Position.ofOffset source changed.start).line = site.span.finish.line)
    (below : next.span.start.line = site.span.finish.line + 1) :
    resolveDirective next (.ofGroups (CommentGroup.ofSource source)) =
      (lastDirective ((CommentGroup.ofSource source).filter
        (CommentIndex.isBehind · next.span))).orElse fun _ => directive := by
  have code := siteStands.codeBefore trails sameLine
  have above := Extent.lastDirective_isAbove member given code (sameLine ▸ below)
  rw [resolveDirective, CommentIndex.directiveFor_ofSource source nextStands.downward, above]
  apply Directive.orElse_of_isSpecified
  rw [Directive.isSpecified_orElse, Directive.isSpecified_of_parse? given, Bool.or_true]

/-- A directive that trails a literal makes a difference for a literal on the next line, except when
a directive behind the latter goes first, or when it has the same directive from elsewhere. -/
theorem resolveDirective_eq_replaced_iff {other : List UInt8}
    (replaced : Extent.Replaced source other changed)
    (given : (changed.comment source).directive? = some directive)
    (siteStands : site.StandsAt source start stop)
    (nextStands : next.StandsAt source nextStart nextStop)
    (trails : stop ≤ changed.start)
    (sameLine : (Position.ofOffset source changed.start).line = site.span.finish.line)
    (below : next.span.start.line = site.span.finish.line + 1) :
    resolveDirective next (.ofGroups (CommentGroup.ofSource source)) =
        resolveDirective next (.ofGroups (CommentGroup.ofSource other)) ↔
      (lastDirective ((CommentGroup.ofSource source).filter
          (CommentIndex.isBehind · next.span))).isSpecified = true ∨
        resolveDirective next (.ofGroups (CommentGroup.ofSource other)) = directive := by
  have downward := nextStands.downward
  have same := replaced.filter_isBehind
    (show (Position.ofOffset source changed.start).line < next.span.finish.line by omega)
  rw [resolveDirective_below replaced.member given siteStands nextStands trails sameLine below]
  by_cases decided : (lastDirective ((CommentGroup.ofSource source).filter
      (CommentIndex.isBehind · next.span))).isSpecified = true
  · refine iff_of_true ?_ (Or.inl decided)
    rw [resolveDirective, CommentIndex.directiveFor_ofSource other downward, same,
      Directive.orElse_of_isSpecified decided, Directive.orElse_of_isSpecified decided,
      Directive.orElse_of_isSpecified decided]
  · rw [Directive.orElse, if_neg decided]
    constructor
    · intro equal
      exact Or.inr equal.symm
    · rintro (decides | equal)
      · exact absurd decides decided
      · exact equal.symm

end

/-- Two literals on lines that follow each other, with what stands behind each of them. -/
def pairLines (first second : String) : List UInt8 :=
  Utf8.encode "package p\n\nfunc f() \x7b\n\t_ = Pair{}" ++ Utf8.encode first ++
    Utf8.encode "\n\t_ = Pair{}" ++ Utf8.encode second ++ Utf8.encode "\n\x7d\n"

def pairSite (line : Nat) : LiteralSite where
  id := line
  span := .onLine line 6 12
  type := some 0
  elements := []
  ancestors := [
    ⟨1, ⟨⟨1, 1⟩, ⟨7, 1⟩⟩, .file⟩,
    ⟨2, ⟨⟨3, 1⟩, ⟨6, 2⟩⟩, .funcDecl []⟩,
    ⟨3, .onLine line 2 12, .assign false⟩]

/-- A literal with a directive of its own keeps it, whatever trails the line above. -/
theorem resolveDirective_pairLines_eq :
    resolveDirective (pairSite 5) (.ofGroups (CommentGroup.ofSource
        (pairLines " //exhaustruct:ignore" " //exhaustruct:enforce"))) =
      resolveDirective (pairSite 5) (.ofGroups (CommentGroup.ofSource
        (pairLines " //exhaustruct-ignore" " //exhaustruct:enforce"))) := by
  have replaced : Extent.Replaced
      (pairLines " //exhaustruct:ignore" " //exhaustruct:enforce")
      (pairLines " //exhaustruct-ignore" " //exhaustruct:enforce") ⟨34, 54⟩ := by
    decide +kernel
  have siteStands : (pairSite 4).StandsAt
      (pairLines " //exhaustruct:ignore" " //exhaustruct:enforce") 27 33 := by
    decide +kernel
  have nextStands : (pairSite 5).StandsAt
      (pairLines " //exhaustruct:ignore" " //exhaustruct:enforce") 60 66 := by
    decide +kernel
  have given : (Extent.comment (pairLines " //exhaustruct:ignore" " //exhaustruct:enforce")
      ⟨34, 54⟩).directive? = some .ignore := by
    decide +kernel
  refine (resolveDirective_eq_replaced_iff replaced given siteStands nextStands ?_ ?_ ?_).mpr
    (Or.inl ?_)
  · decide
  · decide +kernel
  · decide
  · decide +kernel

/-- A directive behind one literal reaches the literal on the next line. -/
theorem resolveDirective_pairLines_ne :
    Extent.Replaced (pairLines " //exhaustruct:ignore" "") (pairLines " //exhaustruct-ignore" "")
        ⟨34, 54⟩ ∧
      (Extent.comment (pairLines " //exhaustruct:ignore" "") ⟨34, 54⟩).directive? =
        some .ignore ∧
      (Extent.comment (pairLines " //exhaustruct-ignore" "") ⟨34, 54⟩).directive? = none ∧
      (pairSite 4).StandsAt (pairLines " //exhaustruct:ignore" "") 27 33 ∧
      (pairSite 5).StandsAt (pairLines " //exhaustruct:ignore" "") 60 66 ∧
      (Position.ofOffset (pairLines " //exhaustruct:ignore" "") 34).line =
        (pairSite 4).span.finish.line ∧
      (pairSite 5).span.start.line = (pairSite 4).span.finish.line + 1 ∧
      resolveDirective (pairSite 5)
          (.ofGroups (CommentGroup.ofSource (pairLines " //exhaustruct:ignore" ""))) = .ignore ∧
      resolveDirective (pairSite 5)
          (.ofGroups (CommentGroup.ofSource (pairLines " //exhaustruct-ignore" ""))) =
        .unspecified := by
  decide +kernel

end LiteralAudit
