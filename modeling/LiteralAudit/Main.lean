import LiteralAudit.Command.Check
import LiteralAudit.Command.Help
import LiteralAudit.Command.Init

/-!
# The command line

Commands work on a file tree that holds what they may look at. Here that tree is loaded from the
disk, and what a command leaves behind is written out.
-/

namespace LiteralAudit.Disk

/-- The names that lead from the root to a path that starts from a folder. -/
def namesOf (folder path : String) : List String :=
  (Path.components (Path.join folder path).toList).foldl
    (fun names component =>
      match component with
      | .normal name => names ++ [String.ofList name]
      | .parent => names.dropLast
      | _ => names) []

def pathOf (names : List String) : String :=
  "/" ++ "/".intercalate names

def readFile (path : String) : IO (Option (List UInt8)) := do
  try
    return some (← IO.FS.readBinFile path).toList
  catch _ => return none

def isFolder (path : String) : IO Bool := do
  try
    let location ← IO.FS.realPath path
    location.isDir
  catch _ => return false

/-- Loads what stands on the way to a path: folders, and the file at its end. -/
def loadPath (tree : FileTree) (names : List String) : IO FileTree := do
  let mut loaded := tree
  for length in [1:names.length + 1] do
    let some part := (names.take length).getLast? | continue
    let around := names.take (length - 1)
    let here := around ++ [part]
    if (loaded.root.below? here).isNone then
      if ← isFolder (pathOf here) then
        loaded := { loaded with root := Entry.set here (.folder []) loaded.root }
      else if let some content ← readFile (pathOf here) then
        loaded := { loaded with root := Entry.set here (.file content) loaded.root }
        break
      else break
  return loaded

/-- Loads the dumps below a path. -/
partial def loadDumps (tree : FileTree) (names : List String) : IO FileTree := do
  let loaded ← loadPath tree names
  match loaded.root.below? names with
  | some (.folder _) => do
      let location ← IO.FS.realPath (pathOf names)
      let mut grown := loaded
      for entry in ← location.readDir do
        let isFolder ← entry.path.isDir
        if isFolder && !Entry.isHiddenName entry.fileName ||
            !isFolder && Entry.isDumpName entry.fileName then
          grown ← loadDumps grown (names ++ [entry.fileName])
      return grown
  | _ => return loaded

/-- Loads the sources of the programs that were loaded, where comments have to be read from them. -/
def loadSources (tree : FileTree) (folder : String) (arguments : CheckArguments) :
    IO FileTree := do
  let .ok path := tree.canonical arguments.path | return tree
  let .ok dumps := tree.dumps path | return tree
  let mut loaded := tree
  for dump in dumps do
    let .ok program := Settings.readDump tree dump | continue
    for file in program.packages.flatMap (·.files) do
      if file.comments.isNone then
        let source := SourceFile.locate file.path (Settings.rootOf arguments.sourceRoot dump)
        loaded ← loadPath loaded (namesOf folder source)
  return loaded

/-- Loads all that a check may look at. -/
def loadCheck (folder : String) (arguments : CheckArguments) : IO FileTree := do
  let configurations := (arguments.configPath.map ([·])).getD (FileTree.configurationPaths ".")
  let mut loaded ← loadPath ⟨.folder [], namesOf folder ""⟩ (namesOf folder "")
  for path in configurations do
    loaded ← loadPath loaded (namesOf folder path)
  loaded ← loadDumps loaded (namesOf folder arguments.path)
  loadSources loaded folder arguments

def loadInit (folder : String) (arguments : InitArguments) : IO FileTree := do
  let loaded ← loadPath ⟨.folder [], namesOf folder ""⟩ (namesOf folder "")
  loadPath loaded (namesOf folder arguments.output)

def writeInit (outcome : Outcome) (arguments : InitArguments) : IO Unit := do
  if outcome.ending = .exit Outcome.success then
    if let some folder := arguments.folder? then
      IO.FS.createDirAll folder
    if let .ok content := outcome.files.readText arguments.output then
      IO.FS.writeFile arguments.output content

/-- Prints what a command leaves behind, and gives the exit code. -/
def finish (outcome : Outcome) : IO UInt32 := do
  for note in outcome.notes do
    if note.isWarning then IO.eprintln note.text
  IO.print outcome.output
  IO.eprint outcome.errorOutput
  match outcome.ending with
  | .exit code => return UInt32.ofNat code
  | .failed message => do
      IO.eprintln ("Error: " ++ message)
      return UInt32.ofNat Outcome.refused

def run (command : Command) (folder : String) : IO UInt32 := do
  match command with
  | .check arguments => do
      let colored ← (← IO.getStdout).isTty
      finish (arguments.run (← loadCheck folder arguments) colored)
  | .init arguments => do
      let outcome := arguments.run (← loadInit folder arguments)
      writeInit outcome arguments
      finish outcome

end LiteralAudit.Disk

def main (words : List String) : IO UInt32 := do
  match LiteralAudit.Command.ofWords words with
  | .ok command => LiteralAudit.Disk.run command (← IO.currentDir).toString
  | .error error => do
      if error.exitCode = 0 then IO.print error.text else IO.eprint error.text
      return UInt32.ofNat error.exitCode
