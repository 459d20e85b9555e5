import LiteralAudit.Command.Arguments
import LiteralAudit.Command.Outcome
import LiteralAudit.Command.Template

/-!
# The setup

A configuration with the standard values is written for a new user, but never over a file that
exists.
-/

namespace LiteralAudit.InitArguments

/-- The folder that has to stand around the output, unless it is the one that paths start from. -/
def folder? (arguments : InitArguments) : Option String :=
  (Path.parent? arguments.output).filter fun folder =>
    !folder.isEmpty && !Path.same folder "."

/-- The files with the folder around the output. -/
def makeRoom (arguments : InitArguments) (tree : FileTree) : Except FileFault FileTree :=
  match arguments.folder? with
  | none => .ok tree
  | some folder => tree.createFolders folder

/-- What is told when the configuration is written. -/
def advice (output : String) : String :=
  "Created " ++ output ++ "\n\nNext steps:\n" ++
    "  1. Edit " ++ output ++ " to customize for your project\n" ++
    "  2. Run: exhaustruct check <dump.json> --config " ++ output ++ "\n"

/-- What is told when the output exists. -/
def collision (output : String) : String :=
  "file already exists: " ++ output ++
    "\nRemove it or use --output to specify a different path"

def run (arguments : InitArguments) (tree : FileTree) : Outcome :=
  if tree.pathExists arguments.output then
    Outcome.refuse tree [] (collision arguments.output)
  else
    match arguments.makeRoom tree with
    | .error fault =>
        Outcome.refuse tree [] ("failed to create directory: " ++ fault.message)
    | .ok roomy =>
        match roomy.write arguments.output (Utf8.encode Template.text) with
        | .error fault => Outcome.refuse roomy [] ("failed to write config: " ++ fault.message)
        | .ok written =>
            ⟨.exit Outcome.success, advice arguments.output, "", [], written⟩

end LiteralAudit.InitArguments
