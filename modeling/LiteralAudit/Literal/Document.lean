import LiteralAudit.Literal.Site
import LiteralAudit.Source.Document

/-!
# Literal sites in JSON documents

The members of a node and those of its kind stand in one object. The members beside identifier and
span are kept until the whole object is read, and are decoded for the kind that one of them names.
-/

namespace LiteralAudit

open Json

namespace TypeRef

def shape : Shape TypeRef where
  name := "TypeRef"
  blank := ⟨"", false⟩
  fields := [
    .mandatory "name" Decoder.string fun type name => { type with name },
    .defaulted "implements_error" Decoder.boolean fun type implementsError =>
      { type with implementsError }]

def toJson (type : TypeRef) : Json :=
  .object [("name", .text type.name), ("implements_error", .bool type.implementsError)]

end TypeRef

namespace ReturnValue

def shape : Shape ReturnValue where
  name := "ReturnValue"
  blank := ⟨0, ⟨"", false⟩⟩
  fields := [
    .mandatory "node" Decoder.index fun result node => { result with node },
    .mandatory "type" TypeRef.shape.decode fun result type => { result with type }]

def toJson (result : ReturnValue) : Json :=
  .object [("node", .number result.node), ("type", result.type.toJson)]

end ReturnValue

namespace NodeKind

def word : NodeKind → String
  | file => "file"
  | funcDecl _ => "func_decl"
  | funcLit _ => "func_lit"
  | returnStmt _ => "return"
  | call => "call"
  | index => "index"
  | unary => "unary"
  | paren => "paren"
  | assign _ => "assign"
  | varDecl => "var_decl"
  | valueSpec => "value_spec"
  | keyValue => "key_value"
  | compositeLit => "composite_lit"
  | other => "other"

/-- One kind of each word, in the order in which numbers stand for them. -/
def listed : List NodeKind :=
  [file, funcDecl [], funcLit [], returnStmt [], call, index, unary, paren, assign false, varDecl,
    valueSpec, keyValue, compositeLit]

/-- The members that the facts of a kind take up beside its word. -/
def members : NodeKind → List (String × Json)
  | funcDecl results => [("results", .list (results.map TypeRef.toJson))]
  | funcLit results => [("results", .list (results.map TypeRef.toJson))]
  | returnStmt results => [("results", .list (results.map ReturnValue.toJson))]
  | assign define => [("define", .bool define)]
  | _ => []

def toMembers (kind : NodeKind) : List (String × Json) :=
  ("kind", .text kind.word) :: kind.members

/-- The kind, still without facts, that a word or a number names. -/
def named : Decoder NodeKind := fun _ reading =>
  match reading with
  | .text (.ok word) => .ok ((listed.find? (·.word == word)).getD other)
  | .number (.ok lexeme) =>
      match Numeral.ofText? lexeme with
      | some (.natural position) => .ok (listed[position]?.getD other)
      | _ => .error (mismatch .variant reading)
  | _ => .error (mismatch .variant reading)

/-- How the facts of a kind are decoded from the members beside its word. -/
def facts : NodeKind → Shape NodeKind
  | funcDecl _ => {
      name := "", blank := funcDecl [],
      fields := [.defaulted "results" (Decoder.list TypeRef.shape.decode) fun _ => funcDecl] }
  | funcLit _ => {
      name := "", blank := funcLit [],
      fields := [.defaulted "results" (Decoder.list TypeRef.shape.decode) fun _ => funcLit] }
  | returnStmt _ => {
      name := "", blank := returnStmt [],
      fields := [
        .defaulted "results" (Decoder.list ReturnValue.shape.decode) fun _ => returnStmt] }
  | assign _ => {
      name := "", blank := assign false,
      fields := [.defaulted "define" Decoder.boolean fun _ => assign] }
  | kind => { name := "", blank := kind, fields := [] }

/-- Whether a member carries the word of the kind. -/
def isTag (member : Member) : Bool :=
  match member.1 with
  | .ok name => name == "kind"
  | .error _ => false

def decodeMembers (kept : List Member) : Except DecodeError NodeKind := do
  match kept.filter isTag with
  | [] => .error (.missingField "kind")
  | (_, reading) :: further => do
      let kind ← named .kept reading
      if further.isEmpty then
        let (result, _) ← kind.facts.readMembers .kept [] kind.facts.blank (kept.filter (!isTag ·))
        return result
      else .error (.duplicateField "kind")

end NodeKind

namespace Node

/-- The members of a node that do not depend on its kind. -/
def place : Shape Node where
  name := "Node"
  blank := ⟨0, ⟨.nowhere, .nowhere⟩, .other⟩
  fields := [
    .mandatory "id" Decoder.index fun node id => { node with id },
    .mandatory "span" Span.shape.decode fun node span => { node with span }]

/-- Keeps a member for the kind, unless it is flawed or too deep. -/
def keep (origin : Origin) (member : Member) : Except DecodeError Unit :=
  match origin with
  | .streamed room => checkFlaw (member.2.keptFlaw? room)
  | .kept => .ok ()

/-- Reads the members in order: those of the place are decoded at once, the others are kept. -/
def readMembers (origin : Origin) (seen : List String) (node : Node) (kept : List Member) :
    List Member → Except DecodeError (Node × List String × List Member)
  | [] => .ok (node, seen, kept.reverse)
  | (flawedName, reading) :: further => do
      let name ← Shape.memberName flawedName
      match place.field? name with
      | none => do
          keep origin (flawedName, reading)
          readMembers origin seen node ((flawedName, reading) :: kept) further
      | some field =>
          if seen.contains name then .error (.duplicateField name)
          else do
            let next ← field.read origin reading node
            readMembers origin (name :: seen) next kept further

def decode : Decoder Node := fun origin reading =>
  match reading with
  | .object found tail => do
      let inner ← origin.enter
      let (node, seen, kept) ← readMembers inner [] place.blank [] found
      checkFlaw tail
      place.checkRequired seen
      let kind ← NodeKind.decodeMembers kept
      return { node with kind }
  | _ => .error (mismatch (.struct "Node") reading)

def toJson (node : Node) : Json :=
  .object (("id", .number node.id) :: ("span", node.span.toJson) :: node.kind.toMembers)

end Node

namespace Element

def shape : Shape Element where
  name := "Element"
  blank := ⟨none⟩
  fields := [
    .defaulted "key" (Decoder.optional Decoder.string) fun _ key => ⟨key⟩]

def toJson (element : Element) : Json :=
  .object [("key", .ofText? element.key)]

end Element

namespace LiteralSite

def shape : Shape LiteralSite where
  name := "LiteralSite"
  blank := ⟨0, ⟨.nowhere, .nowhere⟩, none, [], []⟩
  fields := [
    .mandatory "id" Decoder.index fun site id => { site with id },
    .mandatory "span" Span.shape.decode fun site span => { site with span },
    .defaulted "type" (Decoder.optional Decoder.index) fun site type => { site with type },
    .defaulted "elements" (Decoder.list Element.shape.decode) fun site elements =>
      { site with elements },
    .defaulted "ancestors" (Decoder.list Node.decode) fun site ancestors =>
      { site with ancestors }]

def toJson (site : LiteralSite) : Json :=
  .object [("id", .number site.id), ("span", site.span.toJson),
    ("type", (site.type.map Json.number).getD .null),
    ("elements", .list (site.elements.map Element.toJson)),
    ("ancestors", .list (site.ancestors.map Node.toJson))]

end LiteralSite

end LiteralAudit
