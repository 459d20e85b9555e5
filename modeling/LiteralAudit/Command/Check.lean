import LiteralAudit.Audit.Run
import LiteralAudit.Command.Arguments
import LiteralAudit.Command.Outcome
import LiteralAudit.Files.Search
import LiteralAudit.Policy.Written
import LiteralAudit.Report.Sarif
import LiteralAudit.Report.Summary
import LiteralAudit.Report.Terminal

/-!
# The check

The format, the configuration and the path are looked at in this order, and the first one that is
wrong ends the command before any dump is read.
-/

namespace LiteralAudit

/-- Why the configuration of a check cannot be read. -/
structure ConfigurationUnread where
  path : String
  /-- What is wrong with the file; nothing when its content is no configuration. -/
  fault : Option FileFault
  deriving DecidableEq, Repr

namespace ConfigurationUnread

def message (error : ConfigurationUnread) : String :=
  "error parsing config " ++ error.path ++ ": " ++
    match error.fault with
    | some fault => fault.message
    | none => "<yaml>"

end ConfigurationUnread

namespace FileTree

def readConfiguration (tree : FileTree) (path : String) :
    Except ConfigurationUnread Configuration :=
  match tree.readText path with
  | .error fault => .error ⟨path, some fault⟩
  | .ok content =>
      match Configuration.ofText? content with
      | none => .error ⟨path, none⟩
      | some configuration => .ok configuration

end FileTree

namespace CheckArguments

/-- The configuration that is named, or else the one that is found. -/
def loadConfiguration (arguments : CheckArguments) (tree : FileTree) :
    Noted (Except ConfigurationUnread Configuration) :=
  match arguments.configPath with
  | some path => ⟨tree.readConfiguration path, []⟩
  | none =>
      match tree.configurationIn? "." with
      | some path => ⟨tree.readConfiguration path, [.configurationFound path]⟩
      | none => ⟨.ok .standard, [.configurationMissing FileTree.configurationNames]⟩

def report (arguments : CheckArguments) (colored : Bool) (format : ReportFormat)
    (result : CheckResult) : String :=
  match format with
  | .pretty => Report.Terminal.text colored arguments.path result
  | .json => Report.summaryText arguments.path result
  | .sarif =>
      Report.documentText (Report.Sarif.document (arguments.sourceRoot.getD "") result)

/-- Checks the dumps at an absolute path. -/
def checkPath (arguments : CheckArguments) (tree : FileTree) (colored : Bool)
    (format : ReportFormat) (settings : Settings) (notes : List Note) (path : String) : Outcome :=
  match tree.dumps path with
  | .error error => ⟨.failed error.message, "", "", notes, tree⟩
  | .ok [] => ⟨.exit Outcome.success, "", "", notes ++ [.dumpsMissing path], tree⟩
  | .ok (dump :: further) =>
      let checked := settings.run tree arguments.sourceRoot (dump :: further)
      match checked.value with
      | .error error => ⟨.failed error.message, "", "", notes ++ checked.notes, tree⟩
      | .ok result =>
          let code := if result.passed then Outcome.success else Outcome.findings
          ⟨.exit code, arguments.report colored format result, "", notes ++ checked.notes, tree⟩

def checkPrepared (arguments : CheckArguments) (tree : FileTree) (colored : Bool)
    (format : ReportFormat) (notes : List Note) (settings : Settings) : Outcome :=
  match tree.canonical arguments.path with
  | .error fault =>
      Outcome.refuse tree notes
        ("cannot access path " ++ Quoted.path arguments.path ++ ": " ++ fault.message)
  | .ok path => arguments.checkPath tree colored format settings notes path

def run (arguments : CheckArguments) (tree : FileTree) (colored : Bool) : Outcome :=
  match ReportFormat.ofWord arguments.format with
  | .error error => Outcome.refuse tree [] error.message
  | .ok format =>
      let loaded := arguments.loadConfiguration tree
      match loaded.value with
      | .error error => Outcome.refuse tree loaded.notes error.message
      | .ok configuration =>
          match (arguments.apply configuration).prepare with
          | .error error =>
              Outcome.refuse tree loaded.notes ("invalid config: " ++ error.message)
          | .ok settings => arguments.checkPrepared tree colored format loaded.notes settings

end CheckArguments

end LiteralAudit
