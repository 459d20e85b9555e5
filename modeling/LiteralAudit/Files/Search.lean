import LiteralAudit.Files.Tree

/-!
# Finding files in a tree

The dumps to check are a file that is named, or all dumps below a folder that is named. A
configuration is found under one of two names.
-/

namespace LiteralAudit

structure SearchError where
  path : String
  fault : FileFault
  deriving DecidableEq, Repr

namespace SearchError

def message (error : SearchError) : String :=
  "IO error for operation on " ++ error.path ++ ": " ++ error.fault.message

end SearchError

namespace Entry

def isDumpName (name : String) : Bool :=
  Path.nameExtension? name.toList == some "json".toList

def isHiddenName (name : String) : Bool :=
  name.toList.head? == some '.'

mutual

/-- The dumps in an entry that stands at a path in a folder. Hidden folders are left out. -/
def dumpsAt (path name : String) : Entry → List String
  | .file _ => if isDumpName name then [path] else []
  | .folder entries => if isHiddenName name then [] else dumpsAmong path entries

def dumpsAmong (path : String) : List (String × Entry) → List String
  | [] => []
  | (name, entry) :: further =>
      dumpsAt (Path.join path name) name entry ++ dumpsAmong path further

end

end Entry

namespace FileTree

/-- The dumps that a path stands for, in the order of their paths. -/
def dumps (tree : FileTree) (path : String) : Except SearchError (List String) :=
  match tree.entryAt path with
  | .error fault => .error ⟨path, fault⟩
  | .ok (.file _) => .ok [path]
  | .ok (.folder entries) => .ok ((Entry.dumpsAmong path entries).mergeSort Path.le)

/-- The names of configurations, the first one that exists is taken. -/
def configurationNames : List String :=
  ["exhaustruct.yaml", ".exhaustruct.yaml"]

def configurationPaths (folder : String) : List String :=
  configurationNames.map (Path.join folder)

def configurationIn? (tree : FileTree) (folder : String) : Option String :=
  (configurationPaths folder).find? tree.pathExists

end FileTree

end LiteralAudit
