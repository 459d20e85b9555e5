import LiteralAudit.Json.Decode
import LiteralAudit.Proofs.Json.DocumentReading

/-!
# Written values are decoded

A decoder gives a value for a document when it does so from every origin with room for the levels
of the document. Lists take up one level more than their items, and objects one more than their
members. The members of an object are put into the result one after the other, so that an object
decodes to the result in which each of them was put.
-/

namespace LiteralAudit.Json

/-- Some more levels of lists and objects may be entered. -/
def Origin.HasRoom (depth : Nat) : Origin → Prop
  | .streamed room => depth ≤ room
  | .kept => True

theorem Origin.HasRoom.enter {depth : Nat} {origin : Origin} (room : origin.HasRoom (depth + 1)) :
    ∃ inner, origin.enter = .ok inner ∧ inner.HasRoom depth := by
  cases origin with
  | kept => exact ⟨.kept, rfl, trivial⟩
  | streamed left =>
      cases left with
      | zero => exact absurd room (Nat.not_succ_le_zero depth)
      | succ levels => exact ⟨.streamed levels, rfl, Nat.le_of_succ_le_succ room⟩

theorem Origin.HasRoom.mono {depth less : Nat} (atMost : less ≤ depth) {origin : Origin}
    (room : origin.HasRoom depth) : origin.HasRoom less := by
  cases origin with
  | kept => trivial
  | streamed left => exact Nat.le_trans atMost room

/-- A decoder gives a value for a document of some levels. -/
def Decodes {α : Type} (decoder : Decoder α) (depth : Nat) (document : Json) (value : α) : Prop :=
  ∀ origin : Origin, origin.HasRoom depth → decoder origin (reading document) = .ok value

section

variable {α : Type} {decoder : Decoder α} {depth : Nat}

theorem Decodes.mono {less : Nat} {document : Json} {value : α}
    (decodes : Decodes decoder less document value) (atMost : less ≤ depth) :
    Decodes decoder depth document value :=
  fun origin room => decodes origin (room.mono atMost)

/-! ## Values without parts -/

theorem decodes_string (value : String) : Decodes Decoder.string depth (.text value) value := by
  intro origin _
  rfl

theorem decodes_boolean (value : Bool) : Decodes Decoder.boolean depth (.bool value) value := by
  intro origin _
  rfl

theorem decodes_naturalUpTo {bound value : Nat} (fits : value ≤ bound)
    (bounded : bound ≤ Numeral.greatestNatural) (expected : Expected) :
    Decodes (Decoder.naturalUpTo bound expected) depth (.number value) value := by
  intro origin _
  have stands := ofText?_writeNumber (Nat.le_trans fits bounded)
  rw [reading, Decoder.naturalUpTo, stands]
  exact if_pos fits

theorem decodes_index {value : Nat} (fits : value < UInt32.size) :
    Decodes Decoder.index depth (.number value) value :=
  decodes_naturalUpTo (Nat.le_of_lt_succ fits) (by decide) .index

theorem decodes_count {value : Nat} (fits : value < UInt64.size) :
    Decodes Decoder.count depth (.number value) value :=
  decodes_naturalUpTo (Nat.le_of_lt_succ fits) (by decide) .count

theorem decodes_null : Decodes (Decoder.optional decoder) depth .null none := by
  intro origin _
  rfl

theorem Decodes.optional {document : Json} {value : α}
    (decodes : Decodes decoder depth document value) (present : reading document ≠ .null) :
    Decodes (Decoder.optional decoder) depth document (some value) := by
  intro origin room
  unfold Decoder.optional
  split
  · next absent => exact absurd absent present
  · rw [decodes origin room]
    rfl

theorem decodes_ofText? (value : Option String) :
    Decodes (Decoder.optional Decoder.string) depth (ofText? value) value := by
  cases value with
  | none => exact decodes_null
  | some content => exact (decodes_string content).optional nofun

/-! ## Lists -/

theorem items_map {toJson : α → Json} {values : List α} {origin : Origin}
    (each : ∀ value ∈ values, decoder origin (reading (toJson value)) = .ok value) :
    Decoder.items decoder origin (itemReadings (values.map toJson)) = .ok values := by
  rw [itemReadings_map]
  induction values with
  | nil => rfl
  | cons value further inductionHypothesis =>
      have later := inductionHypothesis fun other member =>
        each other (List.mem_cons_of_mem value member)
      rw [List.map_cons, Decoder.items, each value List.mem_cons_self, later]
      rfl

/-- Lists take one level more than their items. -/
theorem decodes_list {toJson : α → Json} {values : List α}
    (each : ∀ value ∈ values, Decodes decoder depth (toJson value) value) :
    Decodes (Decoder.list decoder) (depth + 1) (.list (values.map toJson)) values := by
  intro origin room
  obtain ⟨inner, entered, innerRoom⟩ := room.enter
  have decoded := items_map fun value member => each value member inner innerRoom
  rw [reading, Decoder.list, entered]
  simp only [bind, Except.bind, decoded]
  rfl

end

/-! ## Objects -/

/-- A member whose decoded value is put into the result so far, mandatory or not. -/
abbrev Field.of {α β : Type} (name : String) (required : Bool) (decoder : Decoder β)
    (set : α → β → α) : Field α where
  name := name
  required := required
  read := fun origin reading result => (decoder origin reading).map (set result)

namespace Shape

variable {α : Type} {shape : Shape α} {depth : Nat}

/-- The members of an object, put into a result one after the other, lead to another result. On both
sides stand the names that were seen so far. -/
inductive Fills (shape : Shape α) (depth : Nat) :
    List String → α → List (String × Json) → List String → α → Prop
  | nil (seen : List String) (result : α) : Fills shape depth seen result [] seen result
  | cons {β : Type} {name : String} {document : Json} {required : Bool} {decoder : Decoder β}
      {set : α → β → α} {value : β} {seen names : List String} {result final : α}
      {further : List (String × Json)}
      (known : shape.field? name = some (Field.of name required decoder set))
      (unseen : seen.contains name = false)
      (decodes : Decodes decoder depth document value)
      (rest : Fills shape depth (name :: seen) (set result value) further names final) :
      Fills shape depth seen result ((name, document) :: further) names final

theorem readMembers_known {origin : Origin} {seen : List String} {result next : α} {name : String}
    {field : Field α} {member : Reading} (known : shape.field? name = some field)
    (unseen : seen.contains name = false) (decoded : field.read origin member result = .ok next)
    (further : List Member) :
    shape.readMembers origin seen result ((.ok name, member) :: further) =
      shape.readMembers origin (name :: seen) next further := by
  rw [readMembers]
  simp only [memberName, Except.mapError, bind, Except.bind, known, unseen, decoded]
  rfl

/-- Members of unknown names are passed over. -/
theorem readMembers_unknown {members : List (String × Json)}
    (unknown : ∀ member ∈ members, shape.field? member.1 = none) (origin : Origin)
    (seen : List String) (result : α) :
    shape.readMembers origin seen result (memberReadings members) = .ok (result, seen) := by
  induction members with
  | nil => rfl
  | cons member further inductionHypothesis =>
      obtain ⟨name, document⟩ := member
      obtain ⟨nameUnknown, laterUnknown⟩ := List.forall_mem_cons.mp unknown
      have skipped : checkFlaw (reading document).skippedFlaw? = .ok () := by
        rw [skippedFlaw?_reading]
        rfl
      rw [memberReadings, readMembers]
      simp only [memberName, Except.mapError, bind, Except.bind, nameUnknown, skipped]
      exact inductionHypothesis laterUnknown

theorem Fills.readMembers_eq {seen names : List String} {result final : α}
    {members : List (String × Json)} (fills : Fills shape depth seen result members names final)
    {origin : Origin} (room : origin.HasRoom depth) :
    shape.readMembers origin seen result (memberReadings members) = .ok (final, names) := by
  induction fills with
  | nil seen result => rfl
  | cons known unseen decodes _ inductionHypothesis =>
      rw [memberReadings, readMembers_known known unseen, inductionHypothesis]
      dsimp only [Field.of]
      rw [decodes origin room]
      rfl

/-- An object decodes to what its members fill in, if no required one is missing. -/
theorem Fills.decodes {names : List String} {value : α} {members : List (String × Json)}
    (fills : Fills shape depth [] shape.blank members names value)
    (complete : shape.checkRequired names = .ok ()) :
    Decodes shape.decode (depth + 1) (.object members) value := by
  intro origin room
  obtain ⟨inner, entered, innerRoom⟩ := room.enter
  have filled := fills.readMembers_eq innerRoom
  rw [reading, decode]
  dsimp only
  rw [entered]
  simp only [bind, Except.bind, filled, checkFlaw, complete]
  rfl

end Shape

/-- A spelling of a document is decoded whole, with blanks around it. -/
theorem Decodes.decodeText_eq {α : Type} {decoder : Decoder α} {depth : Nat} {document : Json}
    {value : α} (decodes : Decodes decoder depth document value)
    (shallow : depth ≤ Reading.greatestDepth) {before text after : List Char}
    (spells : Spells document text) (blankBefore : IsGap before) (blankAfter : IsGap after) :
    decodeText decoder (before ++ (text ++ after)) = .ok value := by
  have decoded := decodes (.streamed Reading.greatestDepth) shallow
  rw [decodeText, spells.ofText_eq blankBefore blankAfter]
  simp only [bind, Except.bind, decoded]
  rfl

/-- A written document is decoded as its tree is. -/
theorem decodeText_write {α : Type} {decoder : Decoder α} {depth : Nat} {document : Json}
    {value : α} (decodes : Decodes decoder depth document value) (shallow : depth ≤ Reading.greatestDepth) :
    decodeText decoder (write document) = .ok value := by
  have decoded := decodes.decodeText_eq shallow (spells_write document) isGap_nil isGap_nil
  rwa [List.nil_append, List.append_nil] at decoded

/-! ## Kept values -/

/-- A document of some levels is kept whole, without any flaw. -/
def Keeps (depth : Nat) (document : Json) : Prop :=
  ∀ room, depth ≤ room → (reading document).keptFlaw? room = none

theorem Keeps.mono {less depth : Nat} {document : Json} (keeps : Keeps less document)
    (atMost : less ≤ depth) : Keeps depth document :=
  fun room fits => keeps room (Nat.le_trans atMost fits)

theorem keeps_text {depth : Nat} (value : String) : Keeps depth (.text value) := by
  intro room _
  rfl

theorem keeps_bool {depth : Nat} (value : Bool) : Keeps depth (.bool value) := by
  intro room _
  rfl

theorem keeps_number {depth value : Nat} (fits : value ≤ Numeral.greatestNatural) :
    Keeps depth (.number value) := by
  intro room _
  rw [reading, Reading.keptFlaw?, Reading.numberFlaw?, ofText?_writeNumber fits]
  rfl

theorem depthFlaw?_of_pos {room : Nat} (positive : 0 < room) : Reading.depthFlaw? room = none := by
  rw [Reading.depthFlaw?, if_neg (Nat.pos_iff_ne_zero.mp positive)]

theorem keeps_list {depth : Nat} {items : List Json} (each : ∀ item ∈ items, Keeps depth item) :
    Keeps (depth + 1) (.list items) := by
  intro room fits
  have inner : ∀ left, depth ≤ left → Reading.itemsKeptFlaw? left (itemReadings items) = none := by
    intro left leftFits
    induction items with
    | nil => rfl
    | cons item further inductionHypothesis =>
        rw [itemReadings, Reading.itemsKeptFlaw?, each item List.mem_cons_self left leftFits]
        exact inductionHypothesis fun other member => each other (List.mem_cons_of_mem item member)
  rw [reading, Reading.keptFlaw?, depthFlaw?_of_pos (by omega), inner (room - 1) (by omega)]
  rfl

/-- What is kept whole may hold any members, as long as these are kept. -/
theorem keeps_object {depth : Nat} {members : List (String × Json)}
    (each : ∀ member ∈ members, Keeps depth member.2) :
    Keeps (depth + 1) (.object members) := by
  intro room fits
  have inner : ∀ left, depth ≤ left →
      Reading.membersKeptFlaw? left (memberReadings members) = none := by
    intro left leftFits
    induction members with
    | nil => rfl
    | cons member further inductionHypothesis =>
        obtain ⟨name, value⟩ := member
        rw [memberReadings, Reading.membersKeptFlaw?,
          each (name, value) List.mem_cons_self left leftFits]
        exact inductionHypothesis fun other present =>
          each other (List.mem_cons_of_mem (name, value) present)
  rw [reading, Reading.keptFlaw?, depthFlaw?_of_pos (by omega), inner (room - 1) (by omega)]
  rfl

end LiteralAudit.Json
