import LiteralAudit.Record.StructInfo
import LiteralAudit.Source.Document

/-!
# Record types in JSON documents
-/

namespace LiteralAudit

open Json

namespace FieldDecl

def shape : Shape FieldDecl where
  name := "FieldDecl"
  blank := ⟨"", ""⟩
  fields := [
    .mandatory "name" Decoder.string fun declared name => { declared with name },
    .defaulted "tag" Decoder.string fun declared tag => { declared with tag }]

def toJson (declared : FieldDecl) : Json :=
  .object [("name", .text declared.name), ("tag", .text declared.tag)]

end FieldDecl

namespace RecordType

def shape : Shape RecordType where
  name := "RecordType"
  blank := ⟨none, "", "", [], []⟩
  fields := [
    .defaulted "name" (Decoder.optional Decoder.string) fun record name => { record with name },
    .mandatory "package_name" Decoder.string fun record packageName =>
      { record with packageName },
    .mandatory "package_path" Decoder.string fun record packagePath =>
      { record with packagePath },
    .defaulted "fields" (Decoder.list FieldDecl.shape.decode) fun record fields =>
      { record with fields },
    .defaulted "comments" (Decoder.list CommentGroup.decode) fun record comments =>
      { record with comments }]

def toJson (record : RecordType) : Json :=
  .object [("name", .ofText? record.name), ("package_name", .text record.packageName),
    ("package_path", .text record.packagePath),
    ("fields", .list (record.fields.map FieldDecl.toJson)),
    ("comments", .list (record.comments.map CommentGroup.toJson))]

end RecordType

end LiteralAudit
