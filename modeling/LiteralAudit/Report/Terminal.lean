import LiteralAudit.Audit.Diagnostic
import LiteralAudit.Report.Format

/-!
# Reports for readers

Reports in lines of text, with colors where the terminal shows them.
-/

namespace LiteralAudit.Report

inductive Style where
  | boldCyan
  | dim
  | bold
  | green
  | red
  | blue
  deriving DecidableEq, Repr

namespace Style

/-- The numbers of a style in an escape sequence. -/
def codes : Style → String
  | boldCyan => "1;36"
  | dim => "2"
  | bold => "1"
  | green => "32"
  | red => "31"
  | blue => "34"

def reset : List Char := "\x1b[0m".toList

def opening (style : Style) : List Char :=
  ("\x1b[" ++ style.codes ++ "m").toList

/-- A content in which a style starts again behind every reset. -/
def resume (style : Style) : List Char → List Char
  | '\x1b' :: '[' :: '0' :: 'm' :: rest => reset ++ style.opening ++ resume style rest
  | character :: rest => character :: resume style rest
  | [] => []

/-- The text in a style, or plain without colors. -/
def apply (style : Style) (colored : Bool) (content : String) : String :=
  if colored then
    String.ofList (style.opening ++ resume style content.toList ++ reset)
  else content

end Style

namespace Terminal

def diagnosticLines (colored : Bool) (diagnostic : Diagnostic) : List String :=
  let place := ":" ++ toString diagnostic.line ++ ":" ++ toString diagnostic.column
  ["    " ++ Style.red.apply colored "ERROR" ++ " " ++
      Style.blue.apply colored diagnostic.file ++ Style.dim.apply colored place,
    "          " ++ diagnostic.message,
    ""]

/-- The lines of all diagnostics; none when there is no diagnostic. -/
def diagnosticsLines (colored : Bool) (diagnostics : List Diagnostic) : List String :=
  if diagnostics.isEmpty then []
  else
    ["  " ++ Style.bold.apply colored "Diagnostics" ++
        " (" ++ toString diagnostics.length ++ "):",
      ""] ++ diagnostics.flatMap (diagnosticLines colored)

def verdict (colored : Bool) (result : CheckResult) : String :=
  if result.passed then Style.green.apply colored "✓ PASS"
  else Style.red.apply colored "✗ FAIL"

def lines (colored : Bool) (path : String) (result : CheckResult) : List String :=
  let counts := toString result.filesScanned ++ " files, " ++
    toString result.literalsVisited ++ " literals"
  ["",
    "  " ++ Style.boldCyan.apply colored checkerName ++ " v" ++ version,
    "",
    "  " ++ Style.dim.apply colored "Checking: " ++ path,
    "  " ++ Style.dim.apply colored counts,
    ""] ++ diagnosticsLines colored result.diagnostics ++
    ["  " ++ verdict colored result, ""]

def text (colored : Bool) (path : String) (result : CheckResult) : String :=
  String.join ((lines colored path result).map (· ++ "\n"))

end Terminal

end LiteralAudit.Report
