import LiteralAudit.Audit.Diagnostic
import LiteralAudit.Files.Path
import LiteralAudit.Json.Basic
import LiteralAudit.Report.Format

/-!
# Reports in the interchange format of static analyses

Files are named relative to a base path where they stand below it. Places count from one.
-/

namespace LiteralAudit.Report.Sarif

def withSlashes (path : List Char) : List Char :=
  path.map fun character => if character = '\\' then '/' else character

/-- How a file is named in a report. Without a base it keeps its name; else it is named from the
base if it stands below it. -/
def uri (base file : String) : String :=
  if base.isEmpty then file
  else
    String.ofList (withSlashes ((Path.stripPrefix? base.toList file.toList).getD file.toList))

def messageJson (message : String) : Json :=
  .object [("text", .text message)]

def schemaUri : String :=
  "https://raw.githubusercontent.com/oasis-tcs/sarif-spec/master/Schemata/sarif-schema-2.1.0.json"

def informationUri : String :=
  "https://github.com/GaijinEntertainment/go-exhaustruct"

def level : String := "error"

def ruleDescription : String :=
  "Reports struct literals that do not set every required field. Fields tagged " ++
    "exhaustruct:\"optional\" are not required, and //exhaustruct:ignore or " ++
    "//exhaustruct:enforce comments override the configured type patterns."

/-- The rule that all diagnostics come from. -/
def rule : Json :=
  .object [("id", .text checkerName), ("name", .text "Exhaustruct"),
    ("shortDescription", messageJson "Detects struct literals with unset required fields"),
    ("fullDescription", messageJson ruleDescription),
    ("defaultConfiguration", .object [("level", .text level)])]

def tool : Json :=
  .object [("driver", .object [("name", .text checkerName), ("version", .text version),
    ("informationUri", .text informationUri), ("rules", .list [rule])])]

def location (base : String) (diagnostic : Diagnostic) : Json :=
  .object [("physicalLocation", .object [
    ("artifactLocation", .object [("uri", .text (uri base diagnostic.file))]),
    ("region", .object [("startLine", .number (max diagnostic.line 1)),
      ("startColumn", .number (max diagnostic.column 1))])])]

def resultJson (base : String) (diagnostic : Diagnostic) : Json :=
  .object [("ruleId", .text checkerName), ("level", .text level),
    ("message", messageJson diagnostic.message),
    ("locations", .list [location base diagnostic])]

/-- The report of a result, with files named from a base path. -/
def document (base : String) (result : CheckResult) : Json :=
  .object [("version", .text "2.1.0"), ("$schema", .text schemaUri),
    ("runs", .list [.object [("tool", tool),
      ("results", .list (result.diagnostics.map (resultJson base)))]])]

end LiteralAudit.Report.Sarif
