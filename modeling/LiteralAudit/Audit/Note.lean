import LiteralAudit.Files.Tree
import LiteralAudit.Source.Directive
import LiteralAudit.Source.Position

/-!
# Notes

What a run tells about itself beside its result.
-/

namespace LiteralAudit

inductive Note where
  /-- A literal was skipped because its type is not known. -/
  | unknownType (file : String) (start : Position) (type : Nat)
  | directive (file : String) (start : Position) (directive : Directive)
  | fileExcluded (path : String)
  /-- The comments of a file could not be read from its source. -/
  | commentsUnread (path source : String) (fault : FileFault)
  | infoStatistics (entries hits misses : Nat)
  | commentStatistics (hits misses : Nat)
  | decisionStatistics (selections allowances : Nat)
  | dumpRead (dump : String) (types packages literals : Nat)
  | configurationFound (path : String)
  | configurationMissing (names : List String)
  | dumpsMissing (path : String)
  deriving DecidableEq, Repr

namespace Note

/-- Whether something is wrong that does not stop the run. -/
def isWarning : Note → Bool
  | commentsUnread _ _ _ | dumpsMissing _ => true
  | _ => false

def level (note : Note) : String :=
  if note.isWarning then "WARN" else "DEBUG"

/-- What a note says of a place. -/
def placed (file : String) (start : Position) (remark : String) : String :=
  file ++ ":" ++ start.text ++ ": " ++ remark

def message : Note → String
  | unknownType file start type =>
      placed file start ("type " ++ toString type ++ " not in type table, skipping literal")
  | directive file start found => placed file start (found.text ++ " directive")
  | fileExcluded path => path ++ ": excluded by file pattern"
  | commentsUnread path source fault =>
      "no comments for " ++ path ++ ": cannot read " ++ source ++ ": " ++ fault.message
  | infoStatistics entries hits misses =>
      "struct info cache: " ++ toString entries ++ " entries, " ++ toString hits ++ " hits, " ++
        toString misses ++ " misses"
  | commentStatistics hits misses =>
      "comment cache: " ++ toString hits ++ " hits, " ++ toString misses ++ " misses"
  | decisionStatistics selections allowances =>
      "pattern caches: " ++ toString selections ++ " processing decisions, " ++
        toString allowances ++ " allow-empty decisions"
  | dumpRead dump types packages literals =>
      dump ++ ": " ++ toString types ++ " types, " ++ toString packages ++ " packages, " ++
        toString literals ++ " literals"
  | configurationFound path => "using config " ++ path
  | configurationMissing names =>
      "no config file found (looked for " ++ ", ".intercalate names ++ "), using defaults"
  | dumpsMissing path => "no program dumps found under " ++ path

def text (note : Note) : String :=
  note.level ++ " " ++ note.message

end Note

end LiteralAudit
