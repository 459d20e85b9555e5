import LiteralAudit.Literal.Document
import LiteralAudit.Proofs.Source.Document

/-!
# Literal sites are written and read

The members of a node that do not belong to its place are kept in order, so that they are decoded
for the kind as if they stood in an object of their own. A kind is first found without its facts, by
its word, and the facts are then decoded for the kind that was found.
-/

namespace LiteralAudit

open Json

theorem Element.decodes (element : Element) :
    Decodes shape.decode 1 element.toJson element := by
  have fills : shape.Fills 0 [] shape.blank [("key", .ofText? element.key)] ["key"] element :=
    .cons rfl rfl (decodes_ofText? element.key) (.nil _ _)
  exact fills.decodes rfl

namespace TypeRef

theorem decodes (type : TypeRef) : Decodes shape.decode 1 type.toJson type := by
  have fills : shape.Fills 0 [] shape.blank
      [("name", .text type.name), ("implements_error", .bool type.implementsError)]
      ["implements_error", "name"] type :=
    .cons rfl rfl (decodes_string type.name)
      (.cons rfl rfl (decodes_boolean type.implementsError) (.nil _ _))
  exact fills.decodes rfl

theorem keeps (type : TypeRef) : Keeps 1 type.toJson := by
  refine keeps_object (List.forall_mem_cons.mpr ⟨keeps_text type.name, ?_⟩)
  exact List.forall_mem_singleton.mpr (keeps_bool type.implementsError)

theorem decodes_results (results : List TypeRef) :
    Decodes (Decoder.list shape.decode) 3 (.list (results.map toJson)) results :=
  decodes_list fun type _ => type.decodes.mono (by decide)

theorem keeps_results (results : List TypeRef) : Keeps 3 (.list (results.map toJson)) := by
  refine keeps_list (List.forall_mem_map.mpr ?_)
  exact fun type _ => type.keeps.mono (by decide)

end TypeRef

namespace ReturnValue

/-- The node is named by a number of 32 bits. -/
def Fits (result : ReturnValue) : Prop :=
  result.node < UInt32.size

instance (result : ReturnValue) : Decidable result.Fits :=
  inferInstanceAs (Decidable (result.node < UInt32.size))

theorem decodes {result : ReturnValue} (fits : result.Fits) :
    Decodes shape.decode 2 result.toJson result := by
  have fills : shape.Fills 1 [] shape.blank
      [("node", .number result.node), ("type", result.type.toJson)] ["type", "node"] result :=
    .cons rfl rfl (decodes_index fits) (.cons rfl rfl result.type.decodes (.nil _ _))
  exact fills.decodes rfl

theorem keeps {result : ReturnValue} (fits : result.Fits) : Keeps 2 result.toJson := by
  have small : result.node ≤ Numeral.greatestNatural :=
    Nat.le_trans (Nat.le_of_lt fits) (by decide)
  refine keeps_object (List.forall_mem_cons.mpr ⟨keeps_number small, ?_⟩)
  exact List.forall_mem_singleton.mpr result.type.keeps

theorem yields : Yields shape.decode Fits := by
  refine Shape.yields (by decide) ⟨?_, ?_⟩
  · exact yields_index.preserves fun result node before nodeFits => nodeFits
  · exact Field.preserves_of fun result type before => before

end ReturnValue

/-! ## Kinds and their facts -/

namespace NodeKind

def returned : NodeKind → List ReturnValue
  | returnStmt results => results
  | _ => []

def Fits (kind : NodeKind) : Prop :=
  ∀ result ∈ kind.returned, result.Fits

instance (kind : NodeKind) : Decidable kind.Fits :=
  inferInstanceAs (Decidable (∀ result ∈ kind.returned, result.Fits))

def bare : NodeKind → NodeKind
  | funcDecl _ => funcDecl []
  | funcLit _ => funcLit []
  | returnStmt _ => returnStmt []
  | assign _ => assign false
  | kind => kind

theorem named_word (origin : Origin) (kind : NodeKind) :
    named origin (.text (.ok kind.word)) = .ok kind.bare := by
  cases kind <;> rfl

theorem fills_members {kind : NodeKind} (fits : kind.Fits) :
    ∃ names, kind.bare.facts.Fills 3 [] kind.bare.facts.blank kind.members names kind := by
  cases kind with
  | funcDecl results =>
      exact ⟨["results"], .cons rfl rfl (TypeRef.decodes_results results) (.nil _ _)⟩
  | funcLit results =>
      exact ⟨["results"], .cons rfl rfl (TypeRef.decodes_results results) (.nil _ _)⟩
  | returnStmt results =>
      have decodes : Decodes (Decoder.list ReturnValue.shape.decode) 3
          (.list (results.map ReturnValue.toJson)) results :=
        decodes_list fun result member => ReturnValue.decodes (fits result member)
      exact ⟨["results"], .cons rfl rfl decodes (.nil _ _)⟩
  | assign define => exact ⟨["define"], .cons rfl rfl (decodes_boolean define) (.nil _ _)⟩
  | _ => exact ⟨[], .nil _ _⟩

theorem filter_isTag_toMembers (kind : NodeKind) :
    (memberReadings kind.toMembers).filter isTag = [(.ok "kind", .text (.ok kind.word))] := by
  cases kind <;> rfl

theorem filter_not_isTag_toMembers (kind : NodeKind) :
    (memberReadings kind.toMembers).filter (!isTag ·) = memberReadings kind.members := by
  cases kind <;> rfl

/-- A kind is read back from its word and its facts. -/
theorem decodeMembers_toMembers {kind : NodeKind} (fits : kind.Fits) :
    decodeMembers (memberReadings kind.toMembers) = .ok kind := by
  obtain ⟨names, fills⟩ := fills_members fits
  have filled := fills.readMembers_eq (show Origin.kept.HasRoom 3 from trivial)
  rw [decodeMembers, filter_isTag_toMembers, filter_not_isTag_toMembers]
  simp only [bind, Except.bind, named_word, List.isEmpty_nil, if_true, filled]
  rfl

theorem keeps_toMembers {kind : NodeKind} (fits : kind.Fits) :
    ∀ member ∈ kind.toMembers, Keeps 3 member.2 := by
  refine List.forall_mem_cons.mpr ⟨keeps_text kind.word, ?_⟩
  cases kind with
  | funcDecl results =>
      exact List.forall_mem_singleton.mpr (TypeRef.keeps_results results)
  | funcLit results =>
      exact List.forall_mem_singleton.mpr (TypeRef.keeps_results results)
  | returnStmt results =>
      refine List.forall_mem_singleton.mpr (keeps_list (List.forall_mem_map.mpr ?_))
      exact fun result member => ReturnValue.keeps (fits result member)
  | assign define => exact List.forall_mem_singleton.mpr (keeps_bool define)
  | _ => exact List.forall_mem_nil _

theorem fits_blank (kind : NodeKind) : kind.facts.blank.Fits := by
  intro result member
  cases kind with
  | returnStmt results => cases member
  | _ => cases member

theorem preserves_facts (kind : NodeKind) : kind.facts.fields.Forall (·.Preserves Fits) := by
  cases kind with
  | funcDecl results => exact Field.preserves_of fun _ _ _ => List.forall_mem_nil _
  | funcLit results => exact Field.preserves_of fun _ _ _ => List.forall_mem_nil _
  | returnStmt results =>
      exact ReturnValue.yields.list.preserves fun _ results _ resultsFit => resultsFit
  | assign define => exact Field.preserves_of fun _ _ _ => List.forall_mem_nil _
  | _ => trivial

/-- What a kind is decoded from, step by step. -/
theorem decodeMembers_eq_ok {kept : List Member} {kind : NodeKind}
    (decoded : decodeMembers kept = .ok kind) :
    ∃ tag bare names, kept.filter isTag = [tag] ∧ named .kept tag.2 = .ok bare ∧
      bare.facts.readMembers .kept [] bare.facts.blank (kept.filter (!isTag ·)) =
        .ok (kind, names) := by
  unfold decodeMembers at decoded
  split at decoded
  · cases decoded
  · next name reading further tags =>
    obtain ⟨bare, found, decodedFacts⟩ := bind_eq_ok decoded
    cases further with
    | nil =>
        obtain ⟨⟨result, names⟩, read, same⟩ := bind_eq_ok decodedFacts
        cases same
        exact ⟨(name, reading), bare, names, tags, found, read⟩
    | cons second others => cases decodedFacts

/-- Numbers that are read as nodes fit, since other ones are refused. -/
theorem fits_of_decodeMembers {kept : List Member} {kind : NodeKind}
    (decoded : decodeMembers kept = .ok kind) :
    kind.Fits := by
  obtain ⟨tag, bare, names, -, -, read⟩ := decodeMembers_eq_ok decoded
  exact Shape.holds_readMembers (preserves_facts bare) (fits_blank bare) read

/-- No kind has the word. -/
def IsUnknown (word : String) : Prop :=
  ∀ kind ∈ listed, kind.word ≠ word

instance (word : String) : Decidable (IsUnknown word) :=
  inferInstanceAs (Decidable (∀ kind ∈ listed, kind.word ≠ word))

theorem named_of_isUnknown {word : String} (unknown : IsUnknown word) (origin : Origin) :
    named origin (.text (.ok word)) = .ok other := by
  have missing : listed.find? (·.word == word) = none := by
    refine List.find?_eq_none.mpr fun kind member => ?_
    rw [beq_iff_eq]
    exact unknown kind member
  rw [named, missing]
  rfl

/-- A word that names no kind is read as the kind without facts, whatever facts stand beside it. -/
theorem decodeMembers_of_isUnknown {word : String} (unknown : IsUnknown word)
    {facts : List (String × Json)} (apart : ∀ member ∈ facts, member.1 ≠ "kind") :
    decodeMembers (memberReadings (("kind", .text word) :: facts)) = .ok other := by
  have noTags : (memberReadings facts).filter isTag = [] := by
    rw [List.filter_eq_nil_iff, memberReadings_eq_map, List.forall_mem_map]
    intro member present isTagged
    exact apart member present (beq_iff_eq.mp isTagged)
  have allFacts : (memberReadings facts).filter (!isTag ·) = memberReadings facts := by
    rw [List.filter_eq_self, memberReadings_eq_map, List.forall_mem_map]
    intro member present
    have noTag : isTag (.ok member.1, reading member.2) = false :=
      beq_eq_false_iff_ne.mpr (apart member present)
    rw [noTag]
    rfl
  have skipped : other.facts.readMembers .kept [] other.facts.blank (memberReadings facts) =
      .ok (other, []) :=
    Shape.readMembers_unknown (fun _ _ => rfl) .kept [] other
  have isTagged : isTag (.ok "kind", reading (.text word)) = true := rfl
  rw [memberReadings, decodeMembers, List.filter_cons_of_pos isTagged, noTags,
    List.filter_cons_of_neg (by rw [isTagged]; decide), allFacts]
  simp only [bind, Except.bind, reading, named_of_isUnknown unknown, List.isEmpty_nil, if_true,
    skipped]
  rfl

/-- Nothing else can be read from such a word. -/
theorem eq_other_of_isUnknown {kept : List Member} {kind : NodeKind} {word : String}
    (unknown : IsUnknown word) (tagged : (.ok "kind", .text (.ok word)) ∈ kept)
    (decoded : decodeMembers kept = .ok kind) :
    kind = other := by
  obtain ⟨tag, bare, names, tags, found, read⟩ := decodeMembers_eq_ok decoded
  have isTagged : isTag (.ok "kind", .text (.ok word)) = true := rfl
  have present := List.mem_filter.mpr ⟨tagged, isTagged⟩
  rw [tags, List.mem_singleton] at present
  rw [← present, named_of_isUnknown unknown] at found
  rw [← Except.ok.inj found] at read
  have noFacts : other.facts.fields.Forall (·.Preserves (· = other)) := trivial
  exact Shape.holds_readMembers noFacts rfl read

end NodeKind

/-! ## Nodes -/

namespace Node

def Fits (node : Node) : Prop :=
  node.id < UInt32.size ∧ node.span.Fits ∧ node.kind.Fits

instance (node : Node) : Decidable node.Fits :=
  inferInstanceAs (Decidable (_ ∧ _ ∧ _))

theorem readMembers_known {origin : Origin} {seen : List String} {node next : Node} {name : String}
    {field : Json.Field Node} {member : Reading} (known : place.field? name = some field)
    (unseen : seen.contains name = false) (decoded : field.read origin member node = .ok next)
    (kept further : List Member) :
    readMembers origin seen node kept ((.ok name, member) :: further) =
      readMembers origin (name :: seen) next kept further := by
  rw [readMembers]
  simp only [Shape.memberName, Except.mapError, bind, Except.bind, known, unseen, decoded]
  rfl

theorem readMembers_kept {depth : Nat} {members : List (String × Json)}
    (unknown : ∀ member ∈ members, place.field? member.1 = none)
    (keeps : ∀ member ∈ members, Keeps depth member.2)
    {origin : Origin} (room : origin.HasRoom depth)
    (seen : List String) (node : Node) (kept : List Member) :
    readMembers origin seen node kept (memberReadings members) =
      .ok (node, seen, kept.reverse ++ memberReadings members) := by
  induction members generalizing kept with
  | nil =>
      rw [memberReadings, List.append_nil]
      rfl
  | cons member further inductionHypothesis =>
      obtain ⟨name, document⟩ := member
      obtain ⟨nameUnknown, laterUnknown⟩ := List.forall_mem_cons.mp unknown
      obtain ⟨documentKeeps, laterKeep⟩ := List.forall_mem_cons.mp keeps
      have flawless : keep origin (.ok name, reading document) = .ok () := by
        cases origin with
        | kept => rfl
        | streamed left =>
            rw [keep]
            dsimp only
            rw [documentKeeps left room]
            rfl
      have later := inductionHypothesis laterUnknown laterKeep
        ((.ok name, reading document) :: kept)
      rw [List.reverse_cons, List.append_assoc, List.singleton_append] at later
      rw [memberReadings, readMembers]
      simp only [Shape.memberName, Except.mapError, bind, Except.bind, nameUnknown, flawless]
      exact later

theorem decodes_place {depth : Nat} (deep : 2 ≤ depth) {id : Nat} (idFits : id < UInt32.size)
    {span : Span} (spanFits : span.Fits) {members : List (String × Json)}
    (unknown : ∀ member ∈ members, place.field? member.1 = none)
    (keeps : ∀ member ∈ members, Keeps depth member.2) {kind : NodeKind}
    (decodesKind : NodeKind.decodeMembers (memberReadings members) = .ok kind) :
    Decodes decode (depth + 1) (.object (("id", .number id) :: ("span", span.toJson) :: members))
      ⟨id, span, kind⟩ := by
  intro origin room
  obtain ⟨inner, entered, innerRoom⟩ := room.enter
  have idRead := decodes_index idFits inner innerRoom
  have spanRead := (Span.decodes spanFits).mono deep inner innerRoom
  have idKnown : place.field? "id" =
      some (.mandatory "id" Decoder.index fun node id => { node with id }) := rfl
  have spanKnown : place.field? "span" =
      some (.mandatory "span" Span.shape.decode fun node span => { node with span }) := rfl
  -- The first two members are read for the place, and all the others are kept.
  have placeRead : readMembers inner [] place.blank []
      (memberReadings (("id", .number id) :: ("span", span.toJson) :: members)) =
        .ok (⟨id, span, .other⟩, ["span", "id"], memberReadings members) := by
    rw [memberReadings, memberReadings,
      readMembers_known idKnown rfl (congrArg (Except.map _) idRead),
      readMembers_known spanKnown rfl (congrArg (Except.map _) spanRead),
      readMembers_kept unknown keeps innerRoom]
    rfl
  have complete : place.checkRequired ["span", "id"] = .ok () := rfl
  rw [reading, decode]
  dsimp only
  rw [entered]
  simp only [bind, Except.bind, placeRead, checkFlaw, complete, decodesKind]
  rfl

def memberNames : List String :=
  ["id", "span", "kind"]

/-- A node of an unknown kind keeps its place. -/
theorem decodes_of_isUnknown {depth : Nat} (deep : 2 ≤ depth) {id : Nat} (idFits : id < UInt32.size)
    {span : Span} (spanFits : span.Fits) {word : String} (unknown : NodeKind.IsUnknown word)
    {facts : List (String × Json)} (apart : ∀ member ∈ facts, member.1 ∉ memberNames)
    (keeps : ∀ member ∈ facts, Keeps depth member.2) :
    Decodes decode (depth + 1)
      (.object (("id", .number id) :: ("span", span.toJson) :: ("kind", .text word) :: facts))
      ⟨id, span, .other⟩ := by
  have noPlace : ∀ member ∈ facts, place.field? member.1 = none := by
    intro member present
    have inside : ∀ field ∈ place.fields, field.name ∈ memberNames := by decide
    refine List.find?_eq_none.mpr fun field listed same => apart member present ?_
    rw [← beq_iff_eq.mp same]
    exact inside field listed
  have noTag : ∀ member ∈ facts, member.1 ≠ "kind" := by
    intro member present same
    have others := apart member present
    rw [same] at others
    exact others (by decide)
  exact decodes_place deep idFits spanFits (List.forall_mem_cons.mpr ⟨rfl, noPlace⟩)
    (List.forall_mem_cons.mpr ⟨keeps_text word, keeps⟩)
    (NodeKind.decodeMembers_of_isUnknown unknown noTag)

theorem field?_of_mem_toMembers (kind : NodeKind) :
    ∀ member ∈ kind.toMembers, place.field? member.1 = none := by
  refine List.forall_mem_cons.mpr ⟨rfl, ?_⟩
  cases kind with
  | funcDecl results => exact List.forall_mem_singleton.mpr rfl
  | funcLit results => exact List.forall_mem_singleton.mpr rfl
  | returnStmt results => exact List.forall_mem_singleton.mpr rfl
  | assign define => exact List.forall_mem_singleton.mpr rfl
  | _ => exact List.forall_mem_nil _

theorem decodes {node : Node} (fits : node.Fits) : Decodes decode 4 node.toJson node := by
  obtain ⟨idFits, spanFits, kindFits⟩ := fits
  exact decodes_place (by decide) idFits spanFits (field?_of_mem_toMembers node.kind)
    (NodeKind.keeps_toMembers kindFits) (NodeKind.decodeMembers_toMembers kindFits)

/-- What happens to the first of some members: it is kept, or put into the place of the node. -/
theorem readMembers_cons_eq_ok {origin : Origin} {seen names : List String} {node final : Node}
    {member : Member} {kept further all : List Member}
    (read : readMembers origin seen node kept (member :: further) = .ok (final, names, all)) :
    ∃ name, member.1 = .ok name ∧
      ((place.field? name = none ∧
          readMembers origin seen node (member :: kept) further = .ok (final, names, all)) ∨
        ∃ field next, place.field? name = some field ∧
          field.read origin member.2 node = .ok next ∧
          readMembers origin (name :: seen) next kept further = .ok (final, names, all)) := by
  obtain ⟨flawedName, reading⟩ := member
  obtain ⟨name, named, readMember⟩ := bind_eq_ok read
  refine ⟨name, mapError_eq_ok named, ?_⟩
  split at readMember
  · next unknown =>
    obtain ⟨-, -, readFurther⟩ := bind_eq_ok readMember
    exact .inl ⟨unknown, readFurther⟩
  · next field known =>
    split at readMember
    · cases readMember
    · obtain ⟨next, taken, readFurther⟩ := bind_eq_ok readMember
      exact .inr ⟨field, next, known, taken, readFurther⟩

theorem holds_readMembers {holds : Node → Prop} (each : place.fields.Forall (·.Preserves holds))
    {origin : Origin} {seen names : List String} {node final : Node}
    {kept all members : List Member} (before : holds node)
    (read : readMembers origin seen node kept members = .ok (final, names, all)) :
    holds final := by
  induction members generalizing seen node kept with
  | nil =>
      cases read
      exact before
  | cons member further inductionHypothesis =>
      obtain ⟨name, -, readFurther⟩ := readMembers_cons_eq_ok read
      rcases readFurther with ⟨-, readFurther⟩ | ⟨field, next, known, taken, readFurther⟩
      · exact inductionHypothesis before readFurther
      · have preserves := Shape.preserves_of_field? each known
        exact inductionHypothesis (preserves origin member.2 node next before taken) readFurther

theorem mem_readMembers {origin : Origin} {seen names : List String} {node final : Node}
    {kept all members : List Member} {name : String} {value : Reading}
    (unknown : place.field? name = none) (present : (.ok name, value) ∈ kept ++ members)
    (read : readMembers origin seen node kept members = .ok (final, names, all)) :
    (.ok name, value) ∈ all := by
  induction members generalizing seen node kept with
  | nil =>
      cases read
      rw [List.append_nil] at present
      exact List.mem_reverse.mpr present
  | cons member further inductionHypothesis =>
      obtain ⟨first, sameName, readFurther⟩ := readMembers_cons_eq_ok read
      rcases readFurther with ⟨-, readFurther⟩ | ⟨field, next, known, -, readFurther⟩
      · refine inductionHypothesis ?_ readFurther
        rw [List.mem_append, List.mem_cons] at present
        rw [List.cons_append, List.mem_cons, List.mem_append]
        rcases present with before | here | later
        · exact .inr (.inl before)
        · exact .inl here
        · exact .inr (.inr later)
      · refine inductionHypothesis ?_ readFurther
        rw [List.mem_append, List.mem_cons] at present
        rw [List.mem_append]
        rcases present with before | here | later
        · exact .inl before
        · -- A name that belongs to the place cannot be the one that is not known there.
          rw [← here] at sameName
          rw [← Except.ok.inj sameName, unknown] at known
          cases known
        · exact .inr later

/-- What a node is decoded from, step by step. -/
theorem decode_object_eq_ok {origin : Origin} {members : List Member} {tail : Option Flaw}
    {node : Node} (decoded : decode origin (.object members tail) = .ok node) :
    ∃ inner start names kept kind,
      readMembers inner [] place.blank [] members = .ok (start, names, kept) ∧
        NodeKind.decodeMembers kept = .ok kind ∧ node = { start with kind } := by
  obtain ⟨inner, -, decodedMembers⟩ := bind_eq_ok decoded
  obtain ⟨⟨start, names, kept⟩, read, checked⟩ := bind_eq_ok decodedMembers
  obtain ⟨-, -, complete⟩ := bind_eq_ok checked
  obtain ⟨-, -, decodedKind⟩ := bind_eq_ok complete
  obtain ⟨kind, kindDecoded, same⟩ := bind_eq_ok decodedKind
  exact ⟨inner, start, names, kept, kind, read, kindDecoded, (Except.ok.inj same).symm⟩

theorem yields : Yields decode Fits := by
  have preserves : place.fields.Forall
      (·.Preserves fun node => node.id < UInt32.size ∧ node.span.Fits) := by
    refine ⟨?_, ?_⟩
    · exact yields_index.preserves fun node id before idFits => ⟨idFits, before.2⟩
    · exact Span.yields.preserves fun node span before spanFits => ⟨before.1, spanFits⟩
  intro origin reading node decoded
  cases reading with
  | object members tail =>
      obtain ⟨inner, start, names, kept, kind, read, kindDecoded, rfl⟩ :=
        decode_object_eq_ok decoded
      obtain ⟨idFits, spanFits⟩ := holds_readMembers preserves (by decide) read
      exact ⟨idFits, spanFits, NodeKind.fits_of_decodeMembers kindDecoded⟩
  | _ => cases decoded

/-- A node with an unknown word for its kind is of the kind that is none of the others, whatever
else its object holds. -/
theorem kind_eq_other_of_isUnknown {origin : Origin} {members : List Member} {tail : Option Flaw}
    {node : Node} {word : String} (unknown : NodeKind.IsUnknown word)
    (tagged : (.ok "kind", .text (.ok word)) ∈ members)
    (decoded : decode origin (.object members tail) = .ok node) :
    node.kind = .other := by
  obtain ⟨inner, start, names, kept, kind, read, kindDecoded, rfl⟩ := decode_object_eq_ok decoded
  have tagKept := mem_readMembers rfl tagged read
  exact NodeKind.eq_other_of_isUnknown unknown tagKept kindDecoded

end Node

/-! ## Sites -/

namespace LiteralSite

def Fits (site : LiteralSite) : Prop :=
  site.id < UInt32.size ∧ site.span.Fits ∧ (∀ index ∈ site.type, index < UInt32.size) ∧
    ∀ node ∈ site.ancestors, node.Fits

instance (site : LiteralSite) : Decidable site.Fits :=
  inferInstanceAs (Decidable (_ ∧ _ ∧ (∀ index ∈ site.type, index < UInt32.size) ∧
    ∀ node ∈ site.ancestors, node.Fits))

theorem decodes_type {depth : Nat} {type : Option Nat}
    (fits : ∀ index ∈ type, index < UInt32.size) :
    Decodes (Decoder.optional Decoder.index) depth ((type.map Json.number).getD .null) type := by
  cases type with
  | none => exact decodes_null
  | some index => exact (decodes_index (fits index rfl)).optional nofun

theorem decodes {site : LiteralSite} (fits : site.Fits) :
    Decodes shape.decode 6 site.toJson site := by
  obtain ⟨idFits, spanFits, typeFits, ancestorsFit⟩ := fits
  have elements : Decodes (Decoder.list Element.shape.decode) 5
      (.list (site.elements.map Element.toJson)) site.elements :=
    decodes_list fun element _ => element.decodes.mono (by decide)
  have ancestors : Decodes (Decoder.list Node.decode) 5
      (.list (site.ancestors.map Node.toJson)) site.ancestors :=
    decodes_list fun node member => Node.decodes (ancestorsFit node member)
  have fills : shape.Fills 5 [] shape.blank
      [("id", .number site.id), ("span", site.span.toJson),
        ("type", (site.type.map Json.number).getD .null),
        ("elements", .list (site.elements.map Element.toJson)),
        ("ancestors", .list (site.ancestors.map Node.toJson))]
      ["ancestors", "elements", "type", "span", "id"] site :=
    .cons rfl rfl (decodes_index idFits)
      (.cons rfl rfl ((Span.decodes spanFits).mono (by decide))
        (.cons rfl rfl (decodes_type typeFits)
          (.cons rfl rfl elements (.cons rfl rfl ancestors (.nil _ _)))))
  exact fills.decodes rfl

theorem yields : Yields shape.decode Fits := by
  refine Shape.yields (by decide) ⟨?_, ?_, ?_, ?_, ?_⟩
  · exact yields_index.preserves fun site id before idFits =>
      ⟨idFits, before.2.1, before.2.2.1, before.2.2.2⟩
  · exact Span.yields.preserves fun site span before spanFits =>
      ⟨before.1, spanFits, before.2.2.1, before.2.2.2⟩
  · exact yields_index.optional.preserves fun site type before typeFits =>
      ⟨before.1, before.2.1, typeFits, before.2.2.2⟩
  · exact Field.preserves_of fun site elements before => before
  · exact Node.yields.list.preserves fun site ancestors before ancestorsFit =>
      ⟨before.1, before.2.1, before.2.2.1, ancestorsFit⟩

end LiteralSite

end LiteralAudit
