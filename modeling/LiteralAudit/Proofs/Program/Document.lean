import LiteralAudit.Program.Document
import LiteralAudit.Proofs.Literal.Document
import LiteralAudit.Proofs.Record.Document

/-!
# Programs are read as they were written

The identifiers of a program have 32 bits and its lines and columns 64 bits. A program with such
numbers is read from the text of its dump as it was written, and every program that is read from
any text has such numbers, so that it can be written and read again.
-/

namespace LiteralAudit

open Json

namespace SourceFile

def Fits (file : SourceFile) : Prop :=
  (∀ groups ∈ file.comments, ∀ group ∈ groups, group.Fits) ∧ ∀ site ∈ file.literals, site.Fits

instance (file : SourceFile) : Decidable file.Fits :=
  inferInstanceAs (Decidable ((∀ groups ∈ file.comments, ∀ group ∈ groups, group.Fits) ∧
    ∀ site ∈ file.literals, site.Fits))

theorem decodes {file : SourceFile} (fits : file.Fits) :
    Decodes shape.decode 8 file.toJson file := by
  obtain ⟨path, comments, literals⟩ := file
  obtain ⟨commentsFit, literalsFit⟩ := fits
  have sites : Decodes (Decoder.list LiteralSite.shape.decode) 7
      (.list (literals.map LiteralSite.toJson)) literals :=
    decodes_list fun site member => LiteralSite.decodes (literalsFit site member)
  cases comments with
  | none =>
      have fills : shape.Fills 7 [] shape.blank
          [("path", .text path), ("literals", .list (literals.map LiteralSite.toJson))]
          ["literals", "path"] ⟨path, none, literals⟩ :=
        .cons rfl rfl (decodes_string path) (.cons rfl rfl sites (.nil _ _))
      exact fills.decodes rfl
  | some groups =>
      have groupsDecode : Decodes (Decoder.list CommentGroup.decode) 5
          (.list (groups.map CommentGroup.toJson)) groups :=
        decodes_list fun group member => CommentGroup.decodes (commentsFit groups rfl group member)
      have commentsDecode : Decodes (Decoder.optional (Decoder.list CommentGroup.decode)) 7
          (.list (groups.map CommentGroup.toJson)) (some groups) :=
        (groupsDecode.mono (by decide)).optional nofun
      have fills : shape.Fills 7 [] shape.blank
          [("path", .text path), ("comments", .list (groups.map CommentGroup.toJson)),
            ("literals", .list (literals.map LiteralSite.toJson))]
          ["literals", "comments", "path"] ⟨path, some groups, literals⟩ :=
        .cons rfl rfl (decodes_string path)
          (.cons rfl rfl commentsDecode (.cons rfl rfl sites (.nil _ _)))
      exact fills.decodes rfl

theorem yields : Yields shape.decode Fits := by
  refine Shape.yields (by decide) ⟨?_, ?_, ?_⟩
  · exact Field.preserves_of fun file path before => before
  · exact CommentGroup.yields.list.optional.preserves fun file comments before commentsFit =>
      ⟨commentsFit, before.2⟩
  · exact LiteralSite.yields.list.preserves fun file literals before literalsFit =>
      ⟨before.1, literalsFit⟩

end SourceFile

namespace Package

def Fits (package : Package) : Prop :=
  ∀ file ∈ package.files, file.Fits

instance (package : Package) : Decidable package.Fits :=
  inferInstanceAs (Decidable (∀ file ∈ package.files, file.Fits))

theorem decodes {package : Package} (fits : package.Fits) :
    Decodes shape.decode 10 package.toJson package := by
  have files : Decodes (Decoder.list SourceFile.shape.decode) 9
      (.list (package.files.map SourceFile.toJson)) package.files :=
    decodes_list fun file member => SourceFile.decodes (fits file member)
  have fills : shape.Fills 9 [] shape.blank
      [("name", .text package.name), ("path", .text package.path),
        ("files", .list (package.files.map SourceFile.toJson))]
      ["files", "path", "name"] package :=
    .cons rfl rfl (decodes_string package.name)
      (.cons rfl rfl (decodes_string package.path) (.cons rfl rfl files (.nil _ _)))
  exact fills.decodes rfl

theorem yields : Yields shape.decode Fits := by
  refine Shape.yields (by decide) ⟨?_, ?_, ?_⟩
  · exact Field.preserves_of fun package name before => before
  · exact Field.preserves_of fun package path before => before
  · exact SourceFile.yields.list.preserves fun package files _ filesFit => filesFit

end Package

namespace Program

/-- All identifiers of a program have 32 bits, and all lines and columns 64 bits. -/
def Fits (program : Program) : Prop :=
  (∀ record ∈ program.types, record.Fits) ∧ ∀ package ∈ program.packages, package.Fits

instance (program : Program) : Decidable program.Fits :=
  inferInstanceAs (Decidable ((∀ record ∈ program.types, record.Fits) ∧
    ∀ package ∈ program.packages, package.Fits))

theorem decodes {program : Program} (fits : program.Fits) :
    Decodes shape.decode 12 program.toJson program := by
  obtain ⟨typesFit, packagesFit⟩ := fits
  have types : Decodes (Decoder.list RecordType.shape.decode) 7
      (.list (program.types.map RecordType.toJson)) program.types :=
    decodes_list fun record member => RecordType.decodes (typesFit record member)
  have packages : Decodes (Decoder.list Package.shape.decode) 11
      (.list (program.packages.map Package.toJson)) program.packages :=
    decodes_list fun package member => Package.decodes (packagesFit package member)
  have fills : shape.Fills 11 [] shape.blank
      [("types", .list (program.types.map RecordType.toJson)),
        ("packages", .list (program.packages.map Package.toJson))]
      ["packages", "types"] program :=
    .cons rfl rfl (types.mono (by decide)) (.cons rfl rfl packages (.nil _ _))
  exact fills.decodes rfl

theorem yields : Yields shape.decode Fits := by
  refine Shape.yields (by decide) ⟨?_, ?_⟩
  · exact RecordType.yields.list.preserves fun program types before typesFit =>
      ⟨typesFit, before.2⟩
  · exact Package.yields.list.preserves fun program packages before packagesFit =>
      ⟨before.1, packagesFit⟩

/-- A program is read back from its text. -/
theorem ofText_text_of_fits {program : Program} (fits : program.Fits) :
    ofText program.text = .ok program := by
  have read := decodeText_write (decodes fits) (by decide)
  rw [ofText, text, compact, String.toList_ofList]
  exact read

/-- Whatever can be read has numbers that can be written. -/
theorem fits_of_ofText {source : String} {program : Program} (read : ofText source = .ok program) :
    program.Fits :=
  yields_of_decodeText yields read

/-- A program is read from the text of its dump as it was written: one with any texts, identifiers
of 32 bits and lines and columns of 64 bits, and so every program that was read from any text. A
node with an unknown word for its kind is read, and is of the kind that is none of the others. -/
theorem ofText_text :
    (∀ program : Program, program.Fits → ofText program.text = .ok program) ∧
      (∀ (source : String) (program : Program), ofText source = .ok program →
        program.Fits ∧ ofText program.text = .ok program) ∧
      (∀ (depth id : Nat) (span : Span) (word : String) (facts : List (String × Json)),
        2 ≤ depth → id < UInt32.size → span.Fits → NodeKind.IsUnknown word →
        (∀ member ∈ facts, member.1 ∉ Node.memberNames ∧ Keeps depth member.2) →
        Decodes Node.decode (depth + 1)
          (.object (("id", .number id) :: ("span", span.toJson) :: ("kind", .text word) :: facts))
          ⟨id, span, .other⟩) ∧
      ∀ (origin : Origin) (members : List Member) (tail : Option Flaw) (node : Node)
        (word : String), NodeKind.IsUnknown word → (.ok "kind", .text (.ok word)) ∈ members →
        Node.decode origin (.object members tail) = .ok node → node.kind = .other := by
  refine ⟨?written, ?read, ?unknownRead, ?unknownKind⟩
  case written =>
    intro program fits
    exact ofText_text_of_fits fits
  case read =>
    intro source program read
    have fits := fits_of_ofText read
    exact ⟨fits, ofText_text_of_fits fits⟩
  case unknownRead =>
    intro depth id span word facts deep idFits spanFits unknown factsKept
    exact Node.decodes_of_isUnknown deep idFits spanFits unknown
      (fun member present => (factsKept member present).1)
      (fun member present => (factsKept member present).2)
  case unknownKind =>
    intro origin members tail node word unknown tagged decoded
    exact Node.kind_eq_other_of_isUnknown unknown tagged decoded

/-- A program with a node of every kind, with and without comments and names, and with characters of
all sorts in its texts. -/
def everyKindProgram : Program where
  types := [
    { name := some "Pair \"\\/", packageName := "p", packagePath := "",
      fields := [⟨"First", "json:\"first\"\n"⟩, ⟨"\u0001\u0008\u000c\u007f", "\t\r"⟩],
      comments := [.ofLine "//exhaustruct:ignore" 0xFFFFFFFFFFFFFFFF 1] },
    { name := none, packageName := "", packagePath := "p", fields := [], comments := [] }]
  packages := [
    { name := "p", path := "example.com/p",
      files := [
        { path := "none.go", comments := none, literals := [] },
        { path := "empty.go", comments := some [], literals := [] },
        { path := "😀é.go", comments := some [⟨[]⟩], literals := [
          { id := 0xFFFFFFFF, span := .onLine 3 1 9, type := none, elements := [⟨none⟩, ⟨some ""⟩],
            ancestors := [] },
          { id := 0, span := .onLine 0xFFFFFFFFFFFFFFFF 0 0, type := some 1, elements := [],
            ancestors := [
              ⟨1, .onLine 1 1 1, .file⟩, ⟨2, .onLine 1 1 1, .funcDecl [.errorInterface]⟩,
              ⟨3, .onLine 1 1 1, .funcLit []⟩,
              ⟨4, .onLine 1 1 1, .returnStmt [⟨0xFFFFFFFF, .untypedNil⟩]⟩,
              ⟨5, .onLine 1 1 1, .call⟩, ⟨6, .onLine 1 1 1, .index⟩, ⟨7, .onLine 1 1 1, .unary⟩,
              ⟨8, .onLine 1 1 1, .paren⟩, ⟨9, .onLine 1 1 1, .assign true⟩,
              ⟨10, .onLine 1 1 1, .varDecl⟩, ⟨11, .onLine 1 1 1, .valueSpec⟩,
              ⟨12, .onLine 1 1 1, .keyValue⟩, ⟨13, .onLine 1 1 1, .compositeLit⟩,
              ⟨14, .onLine 1 1 1, .other⟩] }] }] }]

/-- What a node of an unknown kind holds beside its identifier, its span and its kind. -/
def unknownKindFacts : List (String × Json) :=
  [("cases", .list [.number 3, .text "default"])]

def unknownKindNode : Json :=
  .object (("id", .number 7) :: ("span", (Span.onLine 2 1 9).toJson) ::
    ("kind", .text "select_stmt") :: unknownKindFacts)

/-- A dump that leaves out what may be left out, with a literal inside a node of an unknown kind. -/
def unknownKindDump : Json :=
  .object [("packages", .list [.object [("name", .text "p"), ("path", .text "p"),
    ("files", .list [.object [("path", .text "p.go"),
      ("literals", .list [.object [("id", .number 8), ("span", (Span.onLine 2 3 5).toJson),
        ("ancestors", .list [unknownKindNode])]])]])]])]

/-- What is read from that dump. -/
def unknownKindProgram : Program where
  types := []
  packages := [
    { name := "p", path := "p",
      files := [
        { path := "p.go", comments := none, literals := [
          { id := 8, span := .onLine 2 3 5, type := none, elements := [],
            ancestors := [⟨7, .onLine 2 1 9, .other⟩] }] }] }]

theorem ofText_unknownKindDump : ofText unknownKindDump.compact = .ok unknownKindProgram := by
  have read : shape.decode (.streamed Reading.greatestDepth) (reading unknownKindDump) =
      .ok unknownKindProgram := rfl
  rw [ofText, compact, String.toList_ofList, decodeText, ofText_write]
  simp only [bind, Except.bind, read]
  rfl

/-- A program with nodes of every kind, and a dump with one of an unknown kind. -/
theorem ofText_text_everyKindProgram :
    (everyKindProgram.Fits ∧ ofText everyKindProgram.text = .ok everyKindProgram) ∧
      (ofText unknownKindDump.compact = .ok unknownKindProgram ∧
        ofText unknownKindProgram.text = .ok unknownKindProgram) ∧
      NodeKind.IsUnknown "select_stmt" ∧
      Decodes Node.decode 4 unknownKindNode ⟨7, .onLine 2 1 9, .other⟩ ∧
      ∃ node, Node.decode .kept (reading unknownKindNode) = .ok node ∧ node.kind = .other := by
  obtain ⟨written, read, unknownRead, unknownKind⟩ := ofText_text
  have fits : everyKindProgram.Fits := by decide
  have unknown : NodeKind.IsUnknown "select_stmt" := by decide
  have kept : Keeps 3 (.list [.number 3, .text "default"]) := by
    refine keeps_list (List.forall_mem_cons.mpr ⟨keeps_number (by decide), ?_⟩)
    exact List.forall_mem_singleton.mpr (keeps_text "default")
  have factsKept : ∀ member ∈ unknownKindFacts,
      member.1 ∉ Node.memberNames ∧ Keeps 3 member.2 :=
    List.forall_mem_singleton.mpr ⟨by decide, kept⟩
  have decodes := unknownRead 3 7 (.onLine 2 1 9) "select_stmt" unknownKindFacts (by decide)
    (by decide) (by decide) unknown factsKept
  have decoded := decodes .kept trivial
  have tagged : (.ok "kind", .text (.ok "select_stmt")) ∈
      memberReadings (("id", .number 7) :: ("span", (Span.onLine 2 1 9).toJson) ::
        ("kind", .text "select_stmt") :: unknownKindFacts) :=
    List.mem_cons_of_mem _ (List.mem_cons_of_mem _ List.mem_cons_self)
  have isOther := unknownKind .kept _ none _ "select_stmt" unknown tagged decoded
  have again := (read unknownKindDump.compact unknownKindProgram ofText_unknownKindDump).2
  exact ⟨⟨fits, written everyKindProgram fits⟩, ⟨ofText_unknownKindDump, again⟩, unknown, decodes,
    ⟨_, decoded, isOther⟩⟩

end Program

end LiteralAudit
