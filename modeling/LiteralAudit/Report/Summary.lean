import LiteralAudit.Audit.Diagnostic
import LiteralAudit.Json.Decode
import LiteralAudit.Report.Format

/-!
# Reports for other programs

A summary holds a result with the path that was checked. It is written as one document, and can be
read back.
-/

namespace LiteralAudit.Report

open Json

/-- A diagnostic with the rule that it comes from. -/
structure RuledDiagnostic where
  rule : String
  diagnostic : Diagnostic
  deriving DecidableEq, Repr

structure Summary where
  /-- The version of the checker. -/
  version : String
  /-- The path that was checked. -/
  path : String
  passed : Bool
  filesScanned : Nat
  literalsVisited : Nat
  diagnostics : List RuledDiagnostic
  deriving DecidableEq, Repr

namespace RuledDiagnostic

def ofDiagnostic (diagnostic : Diagnostic) : RuledDiagnostic := ⟨checkerName, diagnostic⟩

def toJson (ruled : RuledDiagnostic) : Json :=
  .object [("rule", .text ruled.rule), ("file", .text ruled.diagnostic.file),
    ("line", .number ruled.diagnostic.line), ("column", .number ruled.diagnostic.column),
    ("message", .text ruled.diagnostic.message)]

def update (ruled : RuledDiagnostic) (change : Diagnostic → Diagnostic) : RuledDiagnostic :=
  { ruled with diagnostic := change ruled.diagnostic }

def shape : Shape RuledDiagnostic where
  name := "JsonDiagnostic"
  blank := ⟨"", ⟨"", 0, 0, ""⟩⟩
  fields := [
    .mandatory "rule" Decoder.string fun ruled rule => { ruled with rule },
    .mandatory "file" Decoder.string fun ruled file => ruled.update ({ · with file }),
    .mandatory "line" Decoder.count fun ruled line => ruled.update ({ · with line }),
    .mandatory "column" Decoder.count fun ruled column => ruled.update ({ · with column }),
    .mandatory "message" Decoder.string fun ruled message => ruled.update ({ · with message })]

end RuledDiagnostic

namespace Summary

def ofResult (path : String) (result : CheckResult) : Summary where
  version := Report.version
  path := path
  passed := result.passed
  filesScanned := result.filesScanned
  literalsVisited := result.literalsVisited
  diagnostics := result.diagnostics.map RuledDiagnostic.ofDiagnostic

def toJson (summary : Summary) : Json :=
  .object [("version", .text summary.version), ("path", .text summary.path),
    ("passed", .bool summary.passed), ("files_scanned", .number summary.filesScanned),
    ("literals_visited", .number summary.literalsVisited),
    ("diagnostics", .list (summary.diagnostics.map RuledDiagnostic.toJson))]

def shape : Shape Summary where
  name := "JsonReport"
  blank := ⟨"", "", false, 0, 0, []⟩
  fields := [
    .mandatory "version" Decoder.string fun summary version => { summary with version },
    .mandatory "path" Decoder.string fun summary path => { summary with path },
    .mandatory "passed" Decoder.boolean fun summary passed => { summary with passed },
    .mandatory "files_scanned" Decoder.count fun summary filesScanned =>
      { summary with filesScanned },
    .mandatory "literals_visited" Decoder.count fun summary literalsVisited =>
      { summary with literalsVisited },
    .mandatory "diagnostics" (Decoder.list RuledDiagnostic.shape.decode)
      fun summary diagnostics => { summary with diagnostics }]

def ofText (source : String) : Except DecodeError Summary :=
  decodeText shape.decode source.toList

end Summary

/-- A document as the whole content of an output. -/
def documentText (document : Json) : String :=
  document.pretty ++ "\n"

def summaryText (path : String) (result : CheckResult) : String :=
  documentText (Summary.ofResult path result).toJson

end LiteralAudit.Report
