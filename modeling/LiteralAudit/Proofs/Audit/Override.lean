import LiteralAudit.Proofs.Audit.CommentErasure
import LiteralAudit.Proofs.Audit.Transparency

/-!
# Which directive overrides what

A directive for a literal goes before one at the declaration of its type, and both go before the
patterns of types. A literal that is to be ignored has no diagnostic. One that is to be checked has
the same answer whatever the patterns are. One with a directive of its own has the same answer
whatever the comments of the declarations are.
-/

namespace LiteralAudit

namespace Visit

/-- A directive counts for the literal: the comments of its file give it, or they give none and the
declaration of its type does. -/
def IsGiven (visit : Visit) (types : TypeTable) (directive : Directive) : Prop :=
  resolveDirective visit.site visit.comments = directive ∨
    (resolveDirective visit.site visit.comments = .unspecified ∧
      ∃ record, visit.record? types = some record ∧ lastDirective record.comments = directive)

/-- A directive that counts for a literal is the one that its visit goes by. -/
theorem IsGiven.directive_eq {visit : Visit} {types : TypeTable} {directive : Directive}
    (given : visit.IsGiven types directive) (specified : directive.isSpecified = true)
    {settings : Settings} (directives : settings.useDirectives = true) {record : RecordType}
    (found : visit.record? types = some record) :
    visit.directive settings (.ofRecord record) = directive := by
  rw [Visit.directive, if_pos directives]
  rcases given with own | ⟨none, declared, known, last⟩
  · rw [own, Directive.orElse_of_isSpecified specified]
  · obtain rfl := Option.some.inj (found.symm.trans known)
    rw [none, Directive.unspecified_orElse]
    exact last

theorem IsGiven.verdict_of_ignore {visit : Visit} {types : TypeTable}
    (given : visit.IsGiven types .ignore) {settings : Settings}
    (directives : settings.useDirectives = true) :
    visit.verdict settings types = none := by
  unfold verdict
  cases found : visit.record? types with
  | none => rfl
  | some record =>
      have unaudited : visit.isAudited settings (.ofRecord record) = false := by
        rw [isAudited, given.directive_eq rfl directives found]
      rw [Option.bind_some, verdictOn, unaudited]
      exact ite_self none

/-- The lists of patterns are not asked where a directive demands a check. -/
theorem IsGiven.verdict_of_enforce {visit : Visit} {types : TypeTable}
    (given : visit.IsGiven types .enforce) {settings : Settings}
    (directives : settings.useDirectives = true) (includes excludes : PatternList) :
    visit.verdict { settings with includes, excludes } types = visit.verdict settings types := by
  unfold verdict
  cases found : visit.record? types with
  | none => rfl
  | some record =>
      have audited : ∀ changed : Settings, changed.useDirectives = true →
          visit.isAudited changed (.ofRecord record) = true := by
        intro changed changedDirectives
        rw [isAudited, given.directive_eq rfl changedDirectives found]
      rw [Option.bind_some, Option.bind_some, verdictOn, verdictOn, audited settings directives,
        audited { settings with includes, excludes } directives]
      rfl

end Visit

namespace Session

/-- After any calls, a directive to ignore a literal leaves it without a diagnostic. With a
directive to check it, the lists of patterns can be replaced without any effect on the answer, and
with a directive of its own, so can the comments of all declarations. -/
theorem visit_value_of_directive
    {settings : Settings} (directives : settings.useDirectives = true) (types : TypeTable)
    (calls : List Call) (literal : Visit) :
    (literal.IsGiven types .ignore →
      (((new settings types).performAll calls).visit literal).value = none) ∧
      (literal.IsGiven types .enforce →
        ∀ (includes excludes : PatternList) (others : List Call),
          (((new { settings with includes, excludes } types).performAll others).visit
              literal).value =
            (((new settings types).performAll calls).visit literal).value) ∧
      ((resolveDirective literal.site literal.comments).isSpecified = true →
        ∀ (changed : TypeTable) (others : List Call),
          changed.withoutComments = types.withoutComments →
            (((new settings changed).performAll others).visit literal).value =
              (((new settings types).performAll calls).visit literal).value) := by
  refine ⟨?_, ?_, ?_⟩
  · intro ignored
    rw [visit_performAll_value]
    exact ignored.verdict_of_ignore directives
  · intro enforced includes excludes others
    rw [visit_performAll_value, visit_performAll_value]
    exact enforced.verdict_of_enforce directives includes excludes
  · intro specified changed others same
    have ignores : literal.IgnoresDeclaration settings := Or.inr specified
    rw [visit_performAll_value, visit_performAll_value, ← ignores.verdict_eq changed,
      ← ignores.verdict_eq types, same]

/-- A struct type, with a comment at its declaration. -/
def pairTypes (comment : String) : TypeTable :=
  ⟨[⟨some "Pair", "p", "example.com/p", [⟨"First", ""⟩, ⟨"Second", ""⟩],
    [⟨[⟨comment, .onLine 3 1 22⟩]⟩]⟩]⟩

def enforcedTypes : TypeTable := pairTypes "//exhaustruct:enforce"

/-- A literal of this type that leaves out its last field, below some comment. -/
def literalBelow (comment : String) : Visit where
  packagePath := "example.com/p"
  file := "pair.go"
  site := ⟨3, .onLine 6 6 13, some 0, [⟨none⟩], []⟩
  comments := .ofGroups [⟨[⟨comment, .onLine 5 2 22⟩]⟩]

/-- A list that excludes the type. -/
theorem exists_excludes :
    ∃ excludes, PatternList.ofTexts ["example\\.com/p\\.Pair"] = .ok excludes ∧
      excludes.matchesWhole "example.com/p.Pair" = true := by
  have excluded : (PatternList.ofTexts ["example\\.com/p\\.Pair"]).toOption.map
      (·.matchesWhole "example.com/p.Pair") = some true := by
    decide +kernel
  cases read : PatternList.ofTexts ["example\\.com/p\\.Pair"] with
  | error cause =>
      rw [read] at excluded
      cases excluded
  | ok excludes =>
      rw [read] at excluded
      exact ⟨excludes, rfl, Option.some.inj excluded⟩

/-- A literal that is to be ignored, one of a type that is to be checked though a pattern excludes
it, and one that is to be checked whatever its type says. -/
theorem visit_value_literalBelow :
    Settings.standard.useDirectives = true ∧
      (literalBelow "//exhaustruct:ignore").IsGiven enforcedTypes .ignore ∧
      (literalBelow "// a pair").IsGiven enforcedTypes .enforce ∧
      (((new .standard enforcedTypes).performAll []).visit
        (literalBelow "//exhaustruct:ignore")).value = none ∧
      (((new .standard enforcedTypes).performAll []).visit
        (literalBelow "// a pair")).value.isSome = true ∧
      (∃ excludes, PatternList.ofTexts ["example\\.com/p\\.Pair"] = .ok excludes ∧
        excludes.matchesWhole "example.com/p.Pair" = true ∧
        (((new { Settings.standard with includes := .empty, excludes } enforcedTypes).performAll
            []).visit (literalBelow "// a pair")).value =
          (((new .standard enforcedTypes).performAll []).visit
            (literalBelow "// a pair")).value) ∧
      (((new .standard (pairTypes "//exhaustruct:ignore")).performAll []).visit
          (literalBelow "//exhaustruct:enforce")).value =
        (((new .standard enforcedTypes).performAll []).visit
          (literalBelow "//exhaustruct:enforce")).value := by
  have ignored : resolveDirective (literalBelow "//exhaustruct:ignore").site
      (literalBelow "//exhaustruct:ignore").comments = .ignore := by decide +kernel
  have none : resolveDirective (literalBelow "// a pair").site
      (literalBelow "// a pair").comments = .unspecified := by decide +kernel
  have enforced : (literalBelow "// a pair").IsGiven enforcedTypes .enforce :=
    Or.inr ⟨none, _, rfl, by decide +kernel⟩
  have specified : (resolveDirective (literalBelow "//exhaustruct:enforce").site
      (literalBelow "//exhaustruct:enforce").comments).isSpecified = true := by decide +kernel
  obtain ⟨excludes, read, excluded⟩ := exists_excludes
  refine ⟨rfl, Or.inl ignored, enforced, ?_, by decide +kernel, ⟨excludes, read, excluded, ?_⟩, ?_⟩
  · exact (visit_value_of_directive rfl enforcedTypes [] _).1 (Or.inl ignored)
  · exact (visit_value_of_directive rfl enforcedTypes [] _).2.1 enforced .empty excludes []
  · exact (visit_value_of_directive rfl enforcedTypes [] _).2.2 specified
      (pairTypes "//exhaustruct:ignore") [] rfl

end Session

end LiteralAudit
