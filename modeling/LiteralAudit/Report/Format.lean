import LiteralAudit.Text.Quoted

/-!
# Report formats
-/

namespace LiteralAudit

inductive ReportFormat where
  | pretty
  | json
  | sarif
  deriving DecidableEq, Repr

structure FormatError where
  word : String
  deriving DecidableEq, Repr

namespace FormatError

def message (error : FormatError) : String :=
  "invalid format " ++ Quoted.text error.word ++ ", must be 'pretty', 'json', or 'sarif'"

end FormatError

namespace ReportFormat

def ofWord (word : String) : Except FormatError ReportFormat :=
  if word = "pretty" then .ok pretty
  else if word = "json" then .ok json
  else if word = "sarif" then .ok sarif
  else .error ⟨word⟩

end ReportFormat

namespace Report

/-- The name of the checker, and of its only rule. -/
def checkerName : String := "exhaustruct"

def version : String := "0.1.0"

end Report

end LiteralAudit
