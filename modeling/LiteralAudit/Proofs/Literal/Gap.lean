import LiteralAudit.Literal.Gap
import Mathlib.Data.List.Basic

/-!
# Which fields a literal leaves unset

The gap of a literal is described field by field. A positional literal leaves the fields unset that
stand behind its elements, whatever they are. Any other literal leaves a field unset when this one
is missing: it is required and within reach, and no element names it. So nothing but the set of the
names counts, and more names never make the gap larger.

What happens to the gap when elements are added behind the others is kept apart, since it does not
ask whether any field is required.
-/

namespace LiteralAudit

namespace Element

/-- The first element has no key. All elements then count by their places. -/
def ArePositional (elements : List Element) : Prop :=
  ∃ first ∈ elements.head?, first.key = none

/-- Some element sets the field of a name. -/
def HaveKey (elements : List Element) (name : String) : Prop :=
  ∃ element ∈ elements, element.key = some name

theorem mem_filterMap_key_iff {elements : List Element} {name : String} :
    name ∈ elements.filterMap (·.key) ↔ HaveKey elements name :=
  List.mem_filterMap

instance (elements : List Element) (name : String) : Decidable (HaveKey elements name) :=
  decidable_of_iff _ mem_filterMap_key_iff

theorem haveKey_append_iff {elements added : List Element} {name : String} :
    HaveKey (elements ++ added) name ↔ HaveKey elements name ∨ HaveKey added name := by
  simp only [HaveKey, List.mem_append, or_and_right, exists_or]

theorem haveKey_map_iff {keys : List String} {name : String} :
    HaveKey (keys.map fun key => ⟨some key⟩) name ↔ name ∈ keys := by
  simp [HaveKey]

theorem not_arePositional_nil : ¬ ArePositional [] := by
  rintro ⟨first, member, _⟩
  cases member

theorem arePositional_append {elements added : List Element}
    (positional : ArePositional elements) : ArePositional (elements ++ added) := by
  obtain ⟨first, member, noKey⟩ := positional
  refine ⟨first, ?_, noKey⟩
  rw [List.head?_append, Option.mem_def.mp member]
  rfl

/-- Elements with keys turn no literal into a positional one. -/
theorem not_arePositional_append_map {elements : List Element}
    (keyed : ¬ ArePositional elements) (keys : List String) :
    ¬ ArePositional (elements ++ keys.map fun key => ⟨some key⟩) := by
  rintro ⟨first, member, noKey⟩
  cases elements with
  | cons head tail => exact keyed ⟨first, member, noKey⟩
  | nil =>
      have named : first ∈ keys.map fun key => (⟨some key⟩ : Element) :=
        List.mem_of_head? member
      obtain ⟨key, _, rfl⟩ := List.mem_map.mp named
      cases noKey

end Element

namespace LiteralShape

/-- The first element tells for all. -/
theorem positional_ofElements_iff (elements : List Element) :
    (ofElements elements).positional = true ↔ Element.ArePositional elements := by
  cases elements with
  | nil => simpa [ofElements] using Element.not_arePositional_nil
  | cons first further => simp [ofElements, Element.ArePositional]

theorem isEmpty_of_positional {elements : List Element}
    (positional : Element.ArePositional elements) :
    (ofElements elements).isEmpty = false := by
  cases elements with
  | nil => exact absurd positional Element.not_arePositional_nil
  | cons first further => rfl

end LiteralShape

/-- A field is left unset by a literal that is not positional: it is required, no element names it,
and it can be named where the literal stands. -/
structure StructField.IsMissing (field : StructField) (elements : List Element)
    (onlyExported : Bool) : Prop where
  required : field.isOptional = false
  unnamed : ¬ Element.HaveKey elements field.name
  withinReach : field.exported = true ∨ onlyExported = false

theorem StructField.isMissing_iff {field : StructField} {elements : List Element}
    {onlyExported : Bool} :
    field.IsMissing elements onlyExported ↔
      field.isOptional = false ∧ ¬ Element.HaveKey elements field.name ∧
        (field.exported = true ∨ onlyExported = false) :=
  ⟨fun ⟨required, unnamed, withinReach⟩ => ⟨required, unnamed, withinReach⟩,
    fun ⟨required, unnamed, withinReach⟩ => ⟨required, unnamed, withinReach⟩⟩

instance (field : StructField) (elements : List Element) (onlyExported : Bool) :
    Decidable (field.IsMissing elements onlyExported) :=
  decidable_of_iff _ StructField.isMissing_iff.symm

theorem StructFields.hasRequired_iff {fields : StructFields} :
    fields.hasRequired = true ↔ ∃ field ∈ fields, field.isOptional = false := by
  simp [StructFields.hasRequired]

/-! ## The two kinds of gaps -/

section

variable {elements others : List Element} {fields : StructFields} {onlyExported : Bool}

theorem skippedFields_of_not_hasRequired (shape : LiteralShape)
    (allOptional : fields.hasRequired = false) :
    skippedFields shape fields onlyExported = [] := by
  simp [skippedFields, allOptional]

/-- Elements without keys set the first fields, optional ones included. -/
theorem skippedFields_of_arePositional (required : fields.hasRequired = true)
    (positional : Element.ArePositional elements) :
    skippedFields (.ofElements elements) fields onlyExported = fields.drop elements.length := by
  have shape := (LiteralShape.positional_ofElements_iff elements).mpr positional
  have notEmpty := LiteralShape.isEmpty_of_positional positional
  rw [skippedFields, required, shape, notEmpty]
  rfl

/-- The gap of a literal that is not positional. No separate case is left for structs without
required fields: none of their fields is missing. -/
theorem skippedFields_of_not_arePositional (keyed : ¬ Element.ArePositional elements) :
    skippedFields (.ofElements elements) fields onlyExported =
      fields.filter (·.IsMissing elements onlyExported) := by
  have shape : (LiteralShape.ofElements elements).positional = false :=
    Bool.eq_false_iff.mpr ((LiteralShape.positional_ofElements_iff elements).not.mpr keyed)
  by_cases required : fields.hasRequired = true
  · have test : ∀ field : StructField,
        (!(LiteralShape.ofElements elements).keys.contains field.name && !field.isOptional &&
            (field.exported || !onlyExported)) =
          decide (field.IsMissing elements onlyExported) := by
      intro field
      rw [Bool.eq_iff_iff, decide_eq_true_iff, StructField.isMissing_iff,
        ← Element.mem_filterMap_key_iff]
      simp [LiteralShape.ofElements, and_assoc, and_left_comm]
    simp only [skippedFields, required, shape, test, Bool.not_true, Bool.and_false, if_false,
      Bool.false_eq_true]
  · have optional : ∀ field ∈ fields, ¬ field.isOptional = false := by
      intro field member notOptional
      exact required (StructFields.hasRequired_iff.mpr ⟨field, member, notOptional⟩)
    rw [skippedFields_of_not_hasRequired _ (Bool.eq_false_iff.mpr required), eq_comm,
      List.filter_eq_nil_iff]
    intro field member missing
    exact optional field member (of_decide_eq_true missing).required

/-- Every gap is a part of the fields, in their order. -/
theorem skippedFields_sublist (elements : List Element) (fields : StructFields)
    (onlyExported : Bool) :
    (skippedFields (.ofElements elements) fields onlyExported).Sublist fields := by
  by_cases positional : Element.ArePositional elements
  · by_cases required : fields.hasRequired = true
    · rw [skippedFields_of_arePositional required positional]
      exact List.drop_sublist elements.length fields
    · rw [skippedFields_of_not_hasRequired _ (Bool.eq_false_iff.mpr required)]
      exact List.nil_sublist fields
  · rw [skippedFields_of_not_arePositional positional]
    exact List.filter_sublist

/-- Two literals that name the same fields of a struct leave the same fields unset. -/
theorem skippedFields_eq_of_haveKey_iff (keyed : ¬ Element.ArePositional elements)
    (otherKeyed : ¬ Element.ArePositional others)
    (same : ∀ field ∈ fields, Element.HaveKey others field.name ↔ Element.HaveKey elements field.name) :
    skippedFields (.ofElements others) fields onlyExported =
      skippedFields (.ofElements elements) fields onlyExported := by
  rw [skippedFields_of_not_arePositional keyed, skippedFields_of_not_arePositional otherKeyed]
  apply List.filter_congr
  intro field member
  simp only [StructField.isMissing_iff, same field member]

/-- A literal that names more fields leaves no other field unset. -/
theorem skippedFields_sublist_of_haveKey (keyed : ¬ Element.ArePositional elements)
    (otherKeyed : ¬ Element.ArePositional others)
    (more : ∀ name, Element.HaveKey elements name → Element.HaveKey others name) :
    (skippedFields (.ofElements others) fields onlyExported).Sublist
      (skippedFields (.ofElements elements) fields onlyExported) := by
  rw [skippedFields_of_not_arePositional keyed, skippedFields_of_not_arePositional otherKeyed]
  apply List.monotone_filter_right
  intro field missing
  obtain ⟨required, unnamed, withinReach⟩ := of_decide_eq_true missing
  exact decide_eq_true ⟨required, fun named => unnamed (more _ named), withinReach⟩

/-- From another package a literal leaves the exported ones of the fields unset that it would leave
unset at home. -/
theorem skippedFields_onlyExported (keyed : ¬ Element.ArePositional elements) :
    skippedFields (.ofElements elements) fields true =
      (skippedFields (.ofElements elements) fields false).filter (·.exported) := by
  rw [skippedFields_of_not_arePositional keyed, skippedFields_of_not_arePositional keyed,
    List.filter_filter]
  apply List.filter_congr
  intro field _
  rw [Bool.eq_iff_iff, decide_eq_true_iff, StructField.isMissing_iff]
  simp [StructField.isMissing_iff, and_left_comm, and_comm]

/-! ## Elements that are added behind the others -/

/-- Each further element sets the next field. -/
theorem skippedFields_append_of_arePositional (positional : Element.ArePositional elements)
    (added : List Element) :
    skippedFields (.ofElements (elements ++ added)) fields onlyExported =
      (skippedFields (.ofElements elements) fields onlyExported).drop added.length := by
  by_cases required : fields.hasRequired = true
  · rw [skippedFields_of_arePositional required positional,
      skippedFields_of_arePositional required (Element.arePositional_append positional),
      List.drop_drop, List.length_append]
  · rw [skippedFields_of_not_hasRequired _ (Bool.eq_false_iff.mpr required),
      skippedFields_of_not_hasRequired _ (Bool.eq_false_iff.mpr required), List.drop_nil]

/-- Each further key sets the field of its name. -/
theorem skippedFields_append_keys (keyed : ¬ Element.ArePositional elements)
    (keys : List String) :
    skippedFields (.ofElements (elements ++ keys.map fun key => ⟨some key⟩)) fields onlyExported =
      (skippedFields (.ofElements elements) fields onlyExported).filter (·.name ∉ keys) := by
  rw [skippedFields_of_not_arePositional keyed,
    skippedFields_of_not_arePositional (Element.not_arePositional_append_map keyed keys),
    List.filter_filter]
  apply List.filter_congr
  intro field _
  have unnamed : ¬ Element.HaveKey (elements ++ keys.map fun key => ⟨some key⟩) field.name ↔
      field.name ∉ keys ∧ ¬ Element.HaveKey elements field.name := by
    rw [Element.haveKey_append_iff, Element.haveKey_map_iff, not_or, and_comm]
  rw [Bool.eq_iff_iff, Bool.and_eq_true, decide_eq_true_iff, decide_eq_true_iff,
    decide_eq_true_iff, StructField.isMissing_iff, StructField.isMissing_iff, unnamed]
  tauto

end

/-- A gap is a part of the fields, in their order. It is empty for a struct that requires no field.
Otherwise a positional literal leaves all fields behind its elements unset, and any other literal the
fields that are missing, so that only the set of the names counts. -/
theorem skippedFields_ofElements (elements : List Element) (fields : StructFields)
    (onlyExported : Bool) :
    (skippedFields (.ofElements elements) fields onlyExported).Sublist fields ∧
    ((∀ field ∈ fields, field.isOptional = true) →
      skippedFields (.ofElements elements) fields onlyExported = []) ∧
    ((∃ field ∈ fields, field.isOptional = false) → Element.ArePositional elements →
      skippedFields (.ofElements elements) fields onlyExported = fields.drop elements.length ∧
      (fields.length ≤ elements.length →
        skippedFields (.ofElements elements) fields onlyExported = [])) ∧
    (¬ Element.ArePositional elements →
      skippedFields (.ofElements elements) fields onlyExported =
        fields.filter (·.IsMissing elements onlyExported) ∧
      (∀ field, field ∈ skippedFields (.ofElements elements) fields onlyExported ↔
        field ∈ fields ∧ field.isOptional = false ∧
          (∀ element ∈ elements, element.key ≠ some field.name) ∧
          (field.exported = true ∨ onlyExported = false)) ∧
      (∀ others, ¬ Element.ArePositional others →
        (∀ field ∈ fields,
          (∃ element ∈ others, element.key = some field.name) ↔
            ∃ element ∈ elements, element.key = some field.name) →
        skippedFields (.ofElements others) fields onlyExported =
          skippedFields (.ofElements elements) fields onlyExported) ∧
      (∀ others, ¬ Element.ArePositional others →
        (∀ name, (∃ element ∈ elements, element.key = some name) →
          ∃ element ∈ others, element.key = some name) →
        (skippedFields (.ofElements others) fields onlyExported).Sublist
          (skippedFields (.ofElements elements) fields onlyExported)) ∧
      skippedFields (.ofElements elements) fields true =
        (skippedFields (.ofElements elements) fields false).filter (·.exported)) := by
  refine ⟨skippedFields_sublist elements fields onlyExported, ?optional, ?positional, ?keyed⟩
  case optional =>
    intro allOptional
    apply skippedFields_of_not_hasRequired
    rw [Bool.eq_false_iff]
    intro required
    obtain ⟨field, member, notOptional⟩ := StructFields.hasRequired_iff.mp required
    rw [allOptional field member] at notOptional
    cases notOptional
  case positional =>
    intro required positional
    have dropped : skippedFields (.ofElements elements) fields onlyExported =
        fields.drop elements.length :=
      skippedFields_of_arePositional (StructFields.hasRequired_iff.mpr required) positional
    refine ⟨dropped, ?_⟩
    intro enough
    rw [dropped]
    exact List.drop_eq_nil_of_le enough
  case keyed =>
    intro keyed
    refine ⟨skippedFields_of_not_arePositional keyed, ?_, ?_, ?_,
      skippedFields_onlyExported keyed⟩
    · intro field
      rw [skippedFields_of_not_arePositional keyed, List.mem_filter, decide_eq_true_iff,
        StructField.isMissing_iff]
      simp only [Element.HaveKey, not_exists, not_and, ne_eq]
    · intro others otherKeyed same
      exact skippedFields_eq_of_haveKey_iff keyed otherKeyed same
    · intro others otherKeyed more
      exact skippedFields_sublist_of_haveKey keyed otherKeyed more

end LiteralAudit
