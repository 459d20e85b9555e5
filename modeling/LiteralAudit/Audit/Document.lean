import LiteralAudit.Audit.Diagnostic
import LiteralAudit.Json.Decode

/-!
# Results in JSON documents
-/

namespace LiteralAudit

open Json

namespace Diagnostic

def shape : Shape Diagnostic where
  name := "Diagnostic"
  blank := ⟨"", 0, 0, ""⟩
  fields := [
    .mandatory "file" Decoder.string fun diagnostic file => { diagnostic with file },
    .mandatory "line" Decoder.count fun diagnostic line => { diagnostic with line },
    .mandatory "column" Decoder.count fun diagnostic column => { diagnostic with column },
    .mandatory "message" Decoder.string fun diagnostic message => { diagnostic with message }]

def toJson (diagnostic : Diagnostic) : Json :=
  .object [("file", .text diagnostic.file), ("line", .number diagnostic.line),
    ("column", .number diagnostic.column), ("message", .text diagnostic.message)]

end Diagnostic

namespace CheckResult

def shape : Shape CheckResult where
  name := "CheckResult"
  blank := .empty
  fields := [
    .mandatory "diagnostics" (Decoder.list Diagnostic.shape.decode) fun result diagnostics =>
      { result with diagnostics },
    .mandatory "files_scanned" Decoder.count fun result filesScanned =>
      { result with filesScanned },
    .mandatory "literals_visited" Decoder.count fun result literalsVisited =>
      { result with literalsVisited }]

def toJson (result : CheckResult) : Json :=
  .object [("diagnostics", .list (result.diagnostics.map Diagnostic.toJson)),
    ("files_scanned", .number result.filesScanned),
    ("literals_visited", .number result.literalsVisited)]

end CheckResult

end LiteralAudit
