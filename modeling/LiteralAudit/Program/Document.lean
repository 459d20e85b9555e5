import LiteralAudit.Literal.Document
import LiteralAudit.Program.Basic
import LiteralAudit.Record.Document

/-!
# Programs in JSON documents
-/

namespace LiteralAudit

open Json

namespace SourceFile

def shape : Shape SourceFile where
  name := "SourceFile"
  blank := ⟨"", none, []⟩
  fields := [
    .mandatory "path" Decoder.string fun file path => { file with path },
    .defaulted "comments" (Decoder.optional (Decoder.list CommentGroup.decode))
      fun file comments => { file with comments },
    .defaulted "literals" (Decoder.list LiteralSite.shape.decode) fun file literals =>
      { file with literals }]

/-- The comments are written only where the file has them. -/
def commentMembers (file : SourceFile) : List (String × Json) :=
  match file.comments with
  | none => []
  | some groups => [("comments", .list (groups.map CommentGroup.toJson))]

def toJson (file : SourceFile) : Json :=
  .object (("path", .text file.path) :: file.commentMembers ++
    [("literals", .list (file.literals.map LiteralSite.toJson))])

end SourceFile

namespace Package

def shape : Shape Package where
  name := "Package"
  blank := ⟨"", "", []⟩
  fields := [
    .mandatory "name" Decoder.string fun package name => { package with name },
    .mandatory "path" Decoder.string fun package path => { package with path },
    .defaulted "files" (Decoder.list SourceFile.shape.decode) fun package files =>
      { package with files }]

def toJson (package : Package) : Json :=
  .object [("name", .text package.name), ("path", .text package.path),
    ("files", .list (package.files.map SourceFile.toJson))]

end Package

namespace Program

def shape : Shape Program where
  name := "Program"
  blank := ⟨[], []⟩
  fields := [
    .defaulted "types" (Decoder.list RecordType.shape.decode) fun program types =>
      { program with types },
    .defaulted "packages" (Decoder.list Package.shape.decode) fun program packages =>
      { program with packages }]

def toJson (program : Program) : Json :=
  .object [("types", .list (program.types.map RecordType.toJson)),
    ("packages", .list (program.packages.map Package.toJson))]

def ofText (source : String) : Except DecodeError Program :=
  decodeText shape.decode source.toList

def text (program : Program) : String :=
  program.toJson.compact

end Program

end LiteralAudit
