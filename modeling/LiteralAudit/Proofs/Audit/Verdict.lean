import LiteralAudit.Audit.Visit
import LiteralAudit.Record.RecordType

/-!
# The verdict on a literal

What the settings, the struct types and one visit decide by themselves, without any memory of other
literals: once as a function, and once as the list of conditions under which a diagnostic is due.
The two are shown to be the same.
-/

namespace LiteralAudit

@[simp]
theorem StructInfo.ofRecord_name (record : RecordType) :
    (StructInfo.ofRecord record).name = .ofRecord record := by
  rfl

/-- To look for another error, nothing is read of a site but its identifier. -/
theorem LiteralSite.hasErrorBeside_eq_of_id_eq {site other : LiteralSite}
    (same : other.id = site.id) (results : List ReturnValue) (declared : List TypeRef) :
    other.hasErrorBeside results declared = site.hasErrorBeside results declared := by
  induction results generalizing declared with
  | nil => rfl
  | cons result further inductionHypothesis =>
      rw [hasErrorBeside, hasErrorBeside, inductionHypothesis, isErrorBeside, isErrorBeside, same]

namespace Settings

/-- Whether empty literals of a type are in order at a site: everywhere, in the context where the
site stands, or by the name of the type. -/
def AllowsEmptyOf (settings : Settings) (name : TypeName) (site : LiteralSite) : Prop :=
  settings.allowEmpty = true ∨
    (LiteralContext.ofSite site = .returned ∧ settings.allowEmptyReturns = true) ∨
    (LiteralContext.ofSite site = .declaration ∧ settings.allowEmptyDeclarations = true) ∨
    settings.allowEmptyPatterns.matchesWhole name.matchingKey = true

/-- Whether the patterns ask for a type: no pattern or one of them includes it, and none excludes
it. -/
def AsksFor (settings : Settings) (name : TypeName) : Prop :=
  (settings.includes.isEmpty = true ∨
      settings.includes.matchesWhole name.matchingKey = true) ∧
    settings.excludes.matchesWhole name.matchingKey = false

theorem selects_matchingKey_iff (settings : Settings) (name : TypeName) :
    settings.selects name.matchingKey = true ↔ settings.AsksFor name := by
  simp only [selects, AsksFor, Bool.and_eq_true, Bool.or_eq_true, Bool.not_eq_true']

theorem allowsEmptyIn_ofSite_iff (settings : Settings) (site : LiteralSite) :
    settings.allowsEmptyIn (.ofSite site) = true ↔
      settings.allowEmpty = true ∨
        (LiteralContext.ofSite site = .returned ∧ settings.allowEmptyReturns = true) ∨
        (LiteralContext.ofSite site = .declaration ∧
          settings.allowEmptyDeclarations = true) := by
  cases LiteralContext.ofSite site with
  | returned => simp [allowsEmptyIn]
  | declaration => simp [allowsEmptyIn]
  | other => simp [allowsEmptyIn]

theorem allowsEmptyOf_iff (settings : Settings) (name : TypeName) (site : LiteralSite) :
    (settings.allowsEmptyIn (.ofSite site) ||
        settings.allowEmptyPatterns.matchesWhole name.matchingKey) = true ↔
      settings.AllowsEmptyOf name site := by
  rw [Bool.or_eq_true, allowsEmptyIn_ofSite_iff]
  simp only [AllowsEmptyOf, or_assoc]

end Settings

namespace Visit

/-- The struct type that the literal is of, if the table knows it. -/
def record? (visit : Visit) (types : TypeTable) : Option RecordType :=
  visit.site.type.bind types.get?

/-- Whether the literal is empty and in order as it is. -/
def isExcused (visit : Visit) (settings : Settings) (info : StructInfo) : Bool :=
  visit.shape.isEmpty &&
    (visit.site.isExemptReturn || settings.allowsEmptyIn (.ofSite visit.site) ||
      settings.allowEmptyPatterns.matchesWhole info.name.matchingKey)

/-- Whether the literal is looked at: a directive says so, or else the patterns. -/
def isAudited (visit : Visit) (settings : Settings) (info : StructInfo) : Bool :=
  match visit.directive settings info with
  | .ignore => false
  | .enforce => true
  | .unspecified => settings.selects info.name.matchingKey

def verdictOn (visit : Visit) (settings : Settings) (info : StructInfo) : Option Diagnostic :=
  if visit.isExcused settings info then none
  else if visit.isAudited settings info then visit.diagnose info
  else none

/-- The diagnostic of the literal, if one is due. -/
def verdict (visit : Visit) (settings : Settings) (types : TypeTable) : Option Diagnostic :=
  (visit.record? types).bind fun record => visit.verdictOn settings (.ofRecord record)

/-- The conditions under which a literal of a struct type has a diagnostic. -/
structure IsDue (visit : Visit) (settings : Settings) (record : RecordType) : Prop where
  notExcused :
    ¬ (visit.site.elements = [] ∧
      (visit.site.isExemptReturn = true ∨
        settings.AllowsEmptyOf (.ofRecord record) visit.site))
  notIgnored : visit.directive settings (.ofRecord record) ≠ .ignore
  wanted :
    visit.directive settings (.ofRecord record) = .enforce ∨
      settings.AsksFor (.ofRecord record)
  gap : visit.gap (.ofRecord record) ≠ []

/-- The diagnostic that names the gap of a literal of a struct type. -/
def diagnosticOf (visit : Visit) (record : RecordType) : Diagnostic where
  file := visit.file
  line := visit.site.span.start.line
  column := visit.site.span.start.column
  message := gapMessage (.ofRecord record) (visit.gap (.ofRecord record))

theorem shape_isEmpty_iff (visit : Visit) :
    visit.shape.isEmpty = true ↔ visit.site.elements = [] := by
  simp [shape, LiteralShape.ofElements, LiteralShape.isEmpty]

/-- Only empty literals are excused. -/
theorem isExcused_ofRecord_iff
    (visit : Visit) (settings : Settings) (record : RecordType) :
    visit.isExcused settings (.ofRecord record) = true ↔
      visit.site.elements = [] ∧
        (visit.site.isExemptReturn = true ∨
          settings.AllowsEmptyOf (.ofRecord record) visit.site) := by
  rw [isExcused, Bool.and_eq_true, shape_isEmpty_iff, Bool.or_assoc, Bool.or_eq_true,
    Settings.allowsEmptyOf_iff]
  rfl

/-- A directive for the literal goes before the patterns. -/
theorem isAudited_ofRecord_iff
    (visit : Visit) (settings : Settings) (record : RecordType) :
    visit.isAudited settings (.ofRecord record) = true ↔
      visit.directive settings (.ofRecord record) ≠ .ignore ∧
        (visit.directive settings (.ofRecord record) = .enforce ∨
          settings.AsksFor (.ofRecord record)) := by
  unfold isAudited
  cases visit.directive settings (.ofRecord record) with
  | ignore => simp
  | enforce => simp
  | unspecified => simpa using settings.selects_matchingKey_iff (.ofRecord record)

theorem diagnose_ofRecord_eq_some_iff
    (visit : Visit) (record : RecordType) (diagnostic : Diagnostic) :
    visit.diagnose (.ofRecord record) = some diagnostic ↔
      visit.gap (.ofRecord record) ≠ [] ∧ diagnostic = visit.diagnosticOf record := by
  unfold diagnose diagnosticOf
  cases visit.gap (.ofRecord record) with
  | nil => simp
  | cons field further => simpa [start] using eq_comm

/-- A literal has the diagnostic that names its gap, if one is due, and no other. -/
theorem verdictOn_ofRecord_eq_some_iff
    (visit : Visit) (settings : Settings) (record : RecordType) (diagnostic : Diagnostic) :
    visit.verdictOn settings (.ofRecord record) = some diagnostic ↔
      visit.IsDue settings record ∧ diagnostic = visit.diagnosticOf record := by
  rw [verdictOn, Option.ite_none_left_eq_some, Option.ite_none_right_eq_some,
    isExcused_ofRecord_iff, isAudited_ofRecord_iff, diagnose_ofRecord_eq_some_iff]
  constructor
  · rintro ⟨notExcused, ⟨notIgnored, wanted⟩, gap, same⟩
    exact ⟨⟨notExcused, notIgnored, wanted, gap⟩, same⟩
  · rintro ⟨due, same⟩
    exact ⟨due.notExcused, ⟨due.notIgnored, due.wanted⟩, due.gap, same⟩

end Visit

end LiteralAudit
