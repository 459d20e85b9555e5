import LiteralAudit.Audit.Session
import LiteralAudit.Program.Document

/-!
# Runs

A run checks programs with fixed settings, each in a session of its own.
-/

namespace LiteralAudit

structure Noted (answer : Type) where
  value : answer
  notes : List Note

inductive RunError where
  | dumpUnread (dump : String)
  | dumpInvalid (dump : String)
  deriving DecidableEq, Repr

namespace RunError

def message : RunError → String
  | dumpUnread dump => "failed to read program dump " ++ dump
  | dumpInvalid dump => "failed to parse program dump " ++ dump

end RunError

namespace Settings

def checkProgram (settings : Settings) (tree : FileTree) (root : Option String)
    (program : Program) : Noted CheckResult :=
  let checked := (Session.new settings program.typeTable).checkPackages tree root program.packages
  ⟨checked.value.sort, checked.notes ++ checked.session.statistics⟩

def readDump (tree : FileTree) (dump : String) : Except RunError Program :=
  match tree.readText dump with
  | .error _ => .error (.dumpUnread dump)
  | .ok content => (Program.ofText content).mapError fun _ => .dumpInvalid dump

/-- Where the sources of a dump are looked for: in a folder that is given, or else beside the
dump. -/
def rootOf (sourceRoot : Option String) (dump : String) : Option String :=
  sourceRoot.or (Path.parent? dump)

def checkDump (settings : Settings) (tree : FileTree) (sourceRoot : Option String) (dump : String)
    (program : Program) : Noted CheckResult :=
  let checked := settings.checkProgram tree (rootOf sourceRoot dump) program
  let read :=
    Note.dumpRead dump program.types.length program.packages.length program.literalCount
  ⟨checked.value, read :: checked.notes⟩

/-- Checks dumps in order. The notes before a dump that stops the run are kept. -/
def checkDumps (settings : Settings) (tree : FileTree) (sourceRoot : Option String) :
    List String → Noted (Except RunError CheckResult)
  | [] => ⟨.ok .empty, []⟩
  | dump :: further =>
      match readDump tree dump with
      | .error error => ⟨.error error, []⟩
      | .ok program =>
          let first := settings.checkDump tree sourceRoot dump program
          let rest := checkDumps settings tree sourceRoot further
          ⟨rest.value.map first.value.merge, first.notes ++ rest.notes⟩

/-- Checks dumps, and puts all diagnostics in order. -/
def run (settings : Settings) (tree : FileTree) (sourceRoot : Option String)
    (dumps : List String) : Noted (Except RunError CheckResult) :=
  let checked := settings.checkDumps tree sourceRoot dumps
  ⟨checked.value.map CheckResult.sort, checked.notes⟩

end Settings

end LiteralAudit
