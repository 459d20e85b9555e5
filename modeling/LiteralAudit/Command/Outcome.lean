import LiteralAudit.Audit.Note

/-!
# Outcomes of commands
-/

namespace LiteralAudit

inductive Ending where
  | exit (code : Nat)
  /-- The command stops for an error that it does not report itself. -/
  | failed (message : String)
  deriving DecidableEq, Repr

structure Outcome where
  ending : Ending
  /-- What it writes to the standard output. -/
  output : String
  /-- What it writes to the standard error. -/
  errorOutput : String
  notes : List Note
  files : FileTree

namespace Outcome

/-- The exit codes: nothing was found, something was found, or the command could not be run. -/
def success : Nat := 0

def findings : Nat := 1

def refused : Nat := 2

/-- A command that reports why it cannot be run. -/
def refuse (files : FileTree) (notes : List Note) (message : String) : Outcome :=
  ⟨.exit refused, "", "Error: " ++ message ++ "\n", notes, files⟩

end Outcome

end LiteralAudit
