import LiteralAudit.Proofs.Json.Decoding
import LiteralAudit.Proofs.Success
import Mathlib.Data.List.Basic

/-!
# What decoders yield

A property that every value of a decoder has passes from the parts to the whole: to lists and
optional values, and to objects where the result before any member has the property and the value
of a member, put into a result, keeps it.
-/

namespace LiteralAudit.Json

/-- Every value that a decoder gives has a property. -/
def Yields {α : Type} (decoder : Decoder α) (holds : α → Prop) : Prop :=
  ∀ origin reading value, decoder origin reading = .ok value → holds value

section

variable {α : Type} {decoder : Decoder α} {holds : α → Prop}

/-- A number that is decoded keeps to the bound. -/
theorem yields_naturalUpTo (bound : Nat) (expected : Expected) :
    Yields (Decoder.naturalUpTo bound expected) (· ≤ bound) := by
  intro origin reading value decoded
  unfold Decoder.naturalUpTo at decoded
  split at decoded
  · next lexeme =>
    split at decoded
    · next found _ =>
      by_cases fits : found ≤ bound
      · rw [if_pos fits] at decoded
        rw [← Except.ok.inj decoded]
        exact fits
      · rw [if_neg fits] at decoded
        cases decoded
    · cases decoded
    · cases decoded
  · cases decoded

theorem yields_index : Yields Decoder.index (· < UInt32.size) := by
  intro origin reading value decoded
  exact Nat.lt_succ_of_le (yields_naturalUpTo _ _ origin reading value decoded)

theorem yields_count : Yields Decoder.count (· < UInt64.size) := by
  intro origin reading value decoded
  exact Nat.lt_succ_of_le (yields_naturalUpTo _ _ origin reading value decoded)

theorem Yields.optional (yields : Yields decoder holds) :
    Yields (Decoder.optional decoder) fun found => ∀ value ∈ found, holds value := by
  intro origin reading found decoded value present
  unfold Decoder.optional at decoded
  split at decoded
  · rw [← Except.ok.inj decoded] at present
    cases present
  · obtain ⟨inner, decodedInner, same⟩ := map_eq_ok decoded
    rw [← same] at present
    rw [← Option.some.inj present]
    exact yields origin _ inner decodedInner

theorem Yields.items (yields : Yields decoder holds) {origin : Origin} {found : List Reading}
    {values : List α} (decoded : Decoder.items decoder origin found = .ok values) :
    ∀ value ∈ values, holds value := by
  induction found generalizing values with
  | nil =>
      rw [← Except.ok.inj decoded]
      exact List.forall_mem_nil holds
  | cons item further inductionHypothesis =>
      obtain ⟨value, first, decodedRest⟩ := bind_eq_ok decoded
      obtain ⟨later, rest, same⟩ := bind_eq_ok decodedRest
      rw [← Except.ok.inj same]
      exact List.forall_mem_cons.mpr ⟨yields origin item value first, inductionHypothesis rest⟩

theorem Yields.list (yields : Yields decoder holds) :
    Yields (Decoder.list decoder) fun values => ∀ value ∈ values, holds value := by
  intro origin reading values decoded
  unfold Decoder.list at decoded
  split at decoded
  · obtain ⟨inner, -, decodedItems⟩ := bind_eq_ok decoded
    obtain ⟨found, items, checked⟩ := bind_eq_ok decodedItems
    obtain ⟨-, -, same⟩ := bind_eq_ok checked
    rw [← Except.ok.inj same]
    exact yields.items items
  · cases decoded

end

/-! ## Objects -/

/-- Taking in a member keeps a property of the result so far. -/
def Field.Preserves {α : Type} (field : Field α) (holds : α → Prop) : Prop :=
  ∀ origin reading result next, holds result → field.read origin reading result = .ok next →
    holds next

section

variable {α β : Type} {holds : α → Prop} {name : String} {required : Bool}
  {decoder : Decoder β} {set : α → β → α}

/-- A member preserves what holds of the result if its decoder yields what is needed for that. -/
theorem Yields.preserves {part : β → Prop} (yields : Yields decoder part)
    (put : ∀ result value, holds result → part value → holds (set result value)) :
    (Field.of name required decoder set).Preserves holds := by
  intro origin reading result next before taken
  obtain ⟨value, decoded, same⟩ := map_eq_ok taken
  rw [← same]
  exact put result value before (yields origin reading value decoded)

theorem Field.preserves_of (put : ∀ result value, holds result → holds (set result value)) :
    (Field.of name required decoder set).Preserves holds := by
  have yields : Yields decoder fun _ => True := fun _ _ _ _ => trivial
  exact yields.preserves fun result value before _ => put result value before

end

namespace Shape

variable {α : Type} {shape : Shape α} {holds : α → Prop}

theorem preserves_of_field? (each : shape.fields.Forall (·.Preserves holds)) {name : String}
    {field : Field α} (known : shape.field? name = some field) :
    field.Preserves holds := by
  rw [List.forall_iff_forall_mem] at each
  exact each field (List.mem_of_find?_eq_some known)

theorem holds_readMembers (each : shape.fields.Forall (·.Preserves holds)) {origin : Origin}
    {members : List Member} {seen names : List String} {result final : α} (before : holds result)
    (read : shape.readMembers origin seen result members = .ok (final, names)) :
    holds final := by
  induction members generalizing seen result with
  | nil =>
      cases read
      exact before
  | cons member further inductionHypothesis =>
      obtain ⟨name, -, readMember⟩ := bind_eq_ok read
      split at readMember
      · obtain ⟨-, -, readFurther⟩ := bind_eq_ok readMember
        exact inductionHypothesis before readFurther
      · next field known =>
        split at readMember
        · cases readMember
        · obtain ⟨next, taken, readFurther⟩ := bind_eq_ok readMember
          have after := preserves_of_field? each known origin member.2 result next before taken
          exact inductionHypothesis after readFurther

theorem holds_readItems {fields : List (Field α)} (each : ∀ field ∈ fields, field.Preserves holds)
    {origin : Origin} {position : Nat} {found left : List Reading} {tail : Option Flaw}
    {result final : α} (before : holds result)
    (read : shape.readItems origin position result fields found tail = .ok (final, left)) :
    holds final := by
  induction fields generalizing position found result with
  | nil =>
      rw [readItems] at read
      cases read
      exact before
  | cons field further inductionHypothesis =>
      obtain ⟨first, later⟩ := List.forall_mem_cons.mp each
      cases found with
      | nil =>
          rw [readItems] at read
          obtain ⟨-, -, readFurther⟩ := bind_eq_ok read
          split at readFurther
          · cases readFurther
          · exact inductionHypothesis later before readFurther
      | cons item items =>
          rw [readItems] at read
          obtain ⟨next, taken, readFurther⟩ := bind_eq_ok read
          exact inductionHypothesis later (first origin item result next before taken) readFurther

/-- What holds at the start and is preserved by every member holds of all objects that are decoded.
-/
theorem yields (blank : holds shape.blank) (each : shape.fields.Forall (·.Preserves holds)) :
    Yields shape.decode holds := by
  intro origin reading value decoded
  unfold decode at decoded
  split at decoded
  · obtain ⟨inner, -, decodedMembers⟩ := bind_eq_ok decoded
    obtain ⟨⟨result, names⟩, members, checked⟩ := bind_eq_ok decodedMembers
    obtain ⟨-, -, complete⟩ := bind_eq_ok checked
    obtain ⟨-, -, same⟩ := bind_eq_ok complete
    rw [← Except.ok.inj same]
    exact holds_readMembers each blank members
  · obtain ⟨inner, -, decodedItems⟩ := bind_eq_ok decoded
    obtain ⟨⟨result, left⟩, items, checked⟩ := bind_eq_ok decodedItems
    obtain ⟨-, -, same⟩ := bind_eq_ok checked
    rw [← Except.ok.inj same]
    rw [List.forall_iff_forall_mem] at each
    exact holds_readItems each blank items
  · cases decoded

end Shape

theorem yields_of_decodeText {α : Type} {decoder : Decoder α} {holds : α → Prop}
    (yields : Yields decoder holds) {source : List Char} {value : α}
    (decoded : decodeText decoder source = .ok value) :
    holds value := by
  unfold decodeText at decoded
  generalize Reading.ofText source = document at decoded
  obtain ⟨reading, followed⟩ := document
  obtain ⟨found, read, checked⟩ := bind_eq_ok decoded
  cases followed with
  | true => cases checked
  | false =>
      rw [← Except.ok.inj checked]
      exact yields _ reading found read

end LiteralAudit.Json
