import LiteralAudit.Proofs.Audit.Transparency
import LiteralAudit.Proofs.Literal.Gap

/-!
# Repairing what is reported

A literal with a diagnostic is repaired by elements that are added behind the others. A literal with
more elements is not excused for being empty unless it was before, and neither its directive nor the
patterns look at its elements. So the repaired literal is looked at again, and what is reported of it
is what the added elements leave of the gap.
-/

namespace LiteralAudit

namespace LiteralSite

/-- The same literal with elements added behind its own. -/
def extended (site : LiteralSite) (added : List Element) : LiteralSite :=
  { site with elements := site.elements ++ added }

@[simp]
theorem elements_extended (site : LiteralSite) (added : List Element) :
    (site.extended added).elements = site.elements ++ added := by
  rfl

/-- Elements do not tell whether a literal is returned beside an error. -/
theorem isExemptReturn_extended (site : LiteralSite) (added : List Element) :
    (site.extended added).isExemptReturn = site.isExemptReturn := by
  have sameErrors : ∀ results declared,
      (site.extended added).hasErrorBeside results declared =
        site.hasErrorBeside results declared :=
    hasErrorBeside_eq_of_id_eq rfl
  have sameParent : (site.extended added).returnedWith? = site.returnedWith? := rfl
  have sameDeclared : (site.extended added).declaredResults? = site.declaredResults? := rfl
  simp only [isExemptReturn, sameParent, sameDeclared, sameErrors]

end LiteralSite

namespace Visit

def extended (visit : Visit) (added : List Element) : Visit :=
  { visit with site := visit.site.extended added }

/-- The diagnostic that names some fields of a type. Without fields there is none. -/
def naming (visit : Visit) (name : TypeName) : StructFields → Option Diagnostic
  | [] => none
  | field :: further => some {
      file := visit.file, line := visit.start.line, column := visit.start.column,
      message := gapMessage name (field :: further) }

theorem diagnose_eq_naming (visit : Visit) (info : StructInfo) :
    visit.diagnose info = visit.naming info.name (visit.gap info) := by
  unfold diagnose
  cases visit.gap info with
  | nil => rfl
  | cons field further => rfl

@[simp]
theorem naming_extended (visit : Visit) (added : List Element) (name : TypeName)
    (fields : StructFields) :
    (visit.extended added).naming name fields = visit.naming name fields := by
  cases fields with
  | nil => rfl
  | cons field further => rfl

/-! ## The gap of a repaired literal -/

/-- A keyed literal that also sets some fields leaves just the others unset. -/
theorem gap_extended_keys {visit : Visit}
    (keyed : ¬ Element.ArePositional visit.site.elements) (keys : List String)
    (info : StructInfo) :
    (visit.extended (keys.map fun key => ⟨some key⟩)).gap info =
      (visit.gap info).filter (·.name ∉ keys) :=
  skippedFields_append_keys keyed keys

/-- Elements added to a positional literal take as many fields off the front of its gap. -/
theorem gap_extended_of_arePositional {visit : Visit}
    (positional : Element.ArePositional visit.site.elements) (added : List Element)
    (info : StructInfo) :
    (visit.extended added).gap info = (visit.gap info).drop added.length :=
  skippedFields_append_of_arePositional positional added

/-! ## The verdict on a repaired literal -/

variable {visit : Visit} {settings : Settings} {info : StructInfo}

/-- The reasons to excuse an empty literal do not depend on its elements. -/
theorem isExcused_extended (notExcused : visit.isExcused settings info = false)
    (added : List Element) :
    (visit.extended added).isExcused settings info = false := by
  by_cases empty : visit.site.elements = []
  · have emptyShape : visit.shape.isEmpty = true := by
      simp [shape, LiteralShape.isEmpty, LiteralShape.ofElements, empty]
    rw [isExcused, emptyShape, Bool.true_and] at notExcused
    have sameReturn : (visit.extended added).site.isExemptReturn = visit.site.isExemptReturn :=
      visit.site.isExemptReturn_extended added
    have sameContext : LiteralContext.ofSite (visit.extended added).site =
        LiteralContext.ofSite visit.site := rfl
    rw [isExcused, sameReturn, sameContext, notExcused, Bool.and_false]
  · have filled : (visit.extended added).shape.isEmpty = false := by
      simp [shape, LiteralShape.isEmpty, LiteralShape.ofElements, extended, empty]
    rw [isExcused, filled, Bool.false_and]

theorem isAudited_extended (visit : Visit) (added : List Element) (settings : Settings)
    (info : StructInfo) :
    (visit.extended added).isAudited settings info = visit.isAudited settings info := by
  rfl

theorem verdictOn_eq_naming (notExcused : visit.isExcused settings info = false)
    (audited : visit.isAudited settings info = true) :
    visit.verdictOn settings info = visit.naming info.name (visit.gap info) := by
  rw [verdictOn, notExcused, audited, diagnose_eq_naming]
  rfl

/-- A literal with a diagnostic is looked at again when it has more elements. -/
theorem verdictOn_extended {diagnostic : Diagnostic}
    (reported : visit.verdictOn settings info = some diagnostic) (added : List Element) :
    (visit.extended added).verdictOn settings info =
      visit.naming info.name ((visit.extended added).gap info) := by
  rw [verdictOn, Option.ite_none_left_eq_some, Option.ite_none_right_eq_some] at reported
  obtain ⟨notExcused, audited, -⟩ := reported
  have stillNotExcused := isExcused_extended (Bool.eq_false_iff.mpr notExcused) added
  rw [verdictOn_eq_naming stillNotExcused ((isAudited_extended visit added _ _).trans audited),
    naming_extended]

end Visit

namespace Session

/-- Adding keys to a literal that is not positional leaves exactly those of the reported fields that
have none of these names, in their order. Adding elements to a positional literal leaves all but as
many of the first ones. Nothing is reported when no field is left. -/
theorem visit_value_extended
    (settings : Settings) (types : TypeTable) (calls : List Call) (literal : Visit)
    {diagnostic : Diagnostic}
    (reported : (((new settings types).performAll calls).visit literal).value = some diagnostic) :
    ∃ record, literal.record? types = some record ∧
      literal.gap (.ofRecord record) ≠ [] ∧
      literal.naming (.ofRecord record) (literal.gap (.ofRecord record)) = some diagnostic ∧
      (¬ Element.ArePositional literal.site.elements →
        ∀ (keys : List String) (others : List Call),
          (((new settings types).performAll others).visit
              (literal.extended (keys.map fun key => ⟨some key⟩))).value =
            literal.naming (.ofRecord record)
              ((literal.gap (.ofRecord record)).filter (·.name ∉ keys))) ∧
      (Element.ArePositional literal.site.elements →
        ∀ (added : List Element) (others : List Call),
          (((new settings types).performAll others).visit (literal.extended added)).value =
            literal.naming (.ofRecord record)
              ((literal.gap (.ofRecord record)).drop added.length)) := by
  rw [visit_performAll_value] at reported
  obtain ⟨record, found, reportedOn⟩ := Option.bind_eq_some_iff.mp reported
  obtain ⟨due, -⟩ := (literal.verdictOn_ofRecord_eq_some_iff settings record diagnostic).mp reportedOn
  have again : ∀ (added : List Element) (others : List Call),
      (((new settings types).performAll others).visit (literal.extended added)).value =
        literal.naming (.ofRecord record) ((literal.extended added).gap (.ofRecord record)) := by
    intro added others
    have sameType : (literal.extended added).record? types = some record := found
    rw [visit_performAll_value, Visit.verdict, sameType, Option.bind_some,
      Visit.verdictOn_extended reportedOn]
    rfl
  have unchanged := again [] calls
  refine ⟨record, found, due.gap, ?_, ?_, ?_⟩
  · have same : literal.extended [] = literal := by
      simp [Visit.extended, LiteralSite.extended]
    rw [same, visit_performAll_value, reported] at unchanged
    exact unchanged.symm
  · intro keyed keys others
    rw [again, Visit.gap_extended_keys keyed]
  · intro positional added others
    rw [again, Visit.gap_extended_of_arePositional positional]

/-- A struct type with a field that is not exported, and one that may be left out. -/
def tripleRecord : RecordType where
  name := some "Triple"
  packageName := "p"
  packagePath := "example.com/p"
  fields := [⟨"First", ""⟩, ⟨"second", ""⟩, ⟨"Third", ""⟩, ⟨"Fourth", "exhaustruct:\"optional\""⟩]
  comments := []

def triple (elements : List Element) : Visit where
  packagePath := "example.com/p"
  file := "triple.go"
  site := ⟨3, .onLine 6 6 14, some 0, elements, [⟨2, .onLine 6 2 14, .assign false⟩]⟩
  comments := .empty

/-- The diagnostic of such a literal that leaves some fields unset. -/
def tripleDiagnostic (unset : String) : Diagnostic :=
  ⟨"triple.go", 6, 6, "p.Triple is missing " ++ unset⟩

/-- Such a literal is looked at unless it is excused. -/
theorem verdict_triple (elements : List Element)
    (notExcused : (triple elements).isExcused .standard (.ofRecord tripleRecord) = false) :
    (triple elements).verdict .standard ⟨[tripleRecord]⟩ =
      (triple elements).naming (.ofRecord tripleRecord)
        ((triple elements).gap (.ofRecord tripleRecord)) := by
  have found : (triple elements).record? ⟨[tripleRecord]⟩ = some tripleRecord := rfl
  have audited : (triple elements).isAudited .standard (.ofRecord tripleRecord) = true := rfl
  rw [Visit.verdict, found, Option.bind_some, Visit.verdictOn_eq_naming notExcused audited]
  rfl

theorem gap_triple_nil :
    (triple []).gap (.ofRecord tripleRecord) =
      [⟨"First", StructField.isExported "First", false⟩,
        ⟨"second", StructField.isExported "second", false⟩,
        ⟨"Third", StructField.isExported "Third", false⟩] := by
  have atHome : ∀ first second third fourth : Bool,
      skippedFields (.ofElements [])
          [⟨"First", first, false⟩, ⟨"second", second, false⟩, ⟨"Third", third, false⟩,
            ⟨"Fourth", fourth, true⟩] false =
        [⟨"First", first, false⟩, ⟨"second", second, false⟩, ⟨"Third", third, false⟩] := by
    decide +kernel
  exact atHome _ _ _ (StructField.isExported "Fourth")

/-- A keyed and a positional literal, each with something added to it. -/
theorem visit_value_extended_triple :
    (((new .standard ⟨[tripleRecord]⟩).performAll []).visit (triple [])).value =
        some (tripleDiagnostic "fields First, second, Third") ∧
      (((new .standard ⟨[tripleRecord]⟩).performAll []).visit
          ((triple []).extended [⟨some "second"⟩])).value =
        some (tripleDiagnostic "fields First, Third") ∧
      (((new .standard ⟨[tripleRecord]⟩).performAll []).visit (triple [⟨none⟩])).value =
        some (tripleDiagnostic "fields second, Third, Fourth") ∧
      (((new .standard ⟨[tripleRecord]⟩).performAll []).visit
          ((triple [⟨none⟩]).extended [⟨none⟩, ⟨some "First"⟩])).value =
        some (tripleDiagnostic "field Fourth") := by
  have empty : (((new .standard ⟨[tripleRecord]⟩).performAll []).visit (triple [])).value =
      some (tripleDiagnostic "fields First, second, Third") := by
    rw [visit_performAll_value, verdict_triple [] (by decide +kernel), gap_triple_nil]
    decide +kernel
  have positional :
      (((new .standard ⟨[tripleRecord]⟩).performAll []).visit (triple [⟨none⟩])).value =
        some (tripleDiagnostic "fields second, Third, Fourth") := by
    rw [visit_performAll_value, verdict_triple [⟨none⟩] (by decide +kernel)]
    decide +kernel
  obtain ⟨record, found, -, -, keyed, -⟩ := visit_value_extended .standard _ [] _ empty
  obtain ⟨record', found', -, -, -, dropped⟩ := visit_value_extended .standard _ [] _ positional
  obtain rfl : tripleRecord = record := Option.some.inj found
  obtain rfl : tripleRecord = record' := Option.some.inj found'
  refine ⟨empty, ?_, positional, ?_⟩
  · have named := keyed Element.not_arePositional_nil ["second"] []
    rw [gap_triple_nil] at named
    exact named.trans (by decide +kernel)
  · exact (dropped ⟨⟨none⟩, rfl, rfl⟩ [⟨none⟩, ⟨some "First"⟩] []).trans (by decide +kernel)

end Session

end LiteralAudit
