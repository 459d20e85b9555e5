import LiteralAudit.Files.Path
import LiteralAudit.Text.Utf8

/-!
# File trees

Files and folders as a value. Paths are followed piece by piece from the root, or from the folder
that relative paths start from.
-/

namespace LiteralAudit

/-- A file with its bytes, or a folder with its named entries. -/
inductive Entry where
  | file (content : List UInt8)
  | folder (entries : List (String × Entry))
  deriving Repr

/-- A tree of files, and the names that lead from its root to the folder that relative paths start
from. -/
structure FileTree where
  root : Entry
  here : List String
  deriving Repr

inductive FileFault where
  | missing
  | occupied
  | notFolder
  | isFolder
  /-- The path or one of its names has too many bytes. -/
  | nameTooLong
  /-- The path holds a null character. -/
  | nullInPath
  | notText
  deriving DecidableEq, Repr

namespace FileFault

def message : FileFault → String
  | missing => "No such file or directory (os error 2)"
  | occupied => "File exists (os error 17)"
  | notFolder => "Not a directory (os error 20)"
  | isFolder => "Is a directory (os error 21)"
  | nameTooLong => "File name too long (os error 36)"
  | nullInPath => "file name contained an unexpected NUL byte"
  | notText => "stream did not contain valid UTF-8"

end FileFault

namespace Entry

def entries : Entry → List (String × Entry)
  | file _ => []
  | folder found => found

def child? (entry : Entry) (name : String) : Option Entry :=
  (entry.entries.find? (·.1 == name)).map (·.2)

/-- The entry that a list of names leads to. -/
def below? : Entry → List String → Option Entry
  | entry, [] => some entry
  | entry, name :: further => (entry.child? name).bind (below? · further)

def setNamed (name : String) (entry : Entry) : List (String × Entry) → List (String × Entry)
  | [] => [(name, entry)]
  | (found, other) :: further =>
      if found = name then (name, entry) :: further
      else (found, other) :: setNamed name entry further

/-- Sets the entry that a list of names leads to from another entry. Folders that are missing on the
way are made, and a file on the way gives way to a folder. -/
def set : List String → Entry → Entry → Entry
  | [], entry, _ => entry
  | name :: names, entry, around =>
      let inner := (around.child? name).getD (folder [])
      folder (setNamed name (set names entry inner) around.entries)

end Entry

namespace FileTree

def longestName : Nat := 255

def longestPath : Nat := 4095

def isTooLong (piece : List Char) : Bool :=
  decide (longestName < (String.ofList piece).utf8ByteSize)

/-- Goes on by one piece of a path from the entry that some names lead to. -/
def step (tree : FileTree) (names : List String) (piece : List Char) :
    Except FileFault (List String) :=
  match tree.root.below? names with
  | some (.folder entries) =>
      if Path.isTrivial piece then .ok names
      else if piece = ['.', '.'] then .ok names.dropLast
      else
        let name := String.ofList piece
        if isTooLong piece then .error .nameTooLong
        else if ((Entry.folder entries).child? name).isSome then .ok (names ++ [name])
        else .error .missing
  | some (.file _) => .error .notFolder
  | none => .error .missing

def follow (tree : FileTree) : List String → List (List Char) → Except FileFault (List String)
  | names, [] => .ok names
  | names, piece :: further => do
      let next ← tree.step names piece
      follow tree next further

/-- What keeps a path from being followed at all. -/
def pathFault? (path : String) : Option FileFault :=
  if path.toList.contains '\x00' then some .nullInPath
  else if path.isEmpty then some .missing
  else if longestPath < path.utf8ByteSize then some .nameTooLong
  else none

/-- The names that a path leads to from the root, where the path may have any number of bytes. -/
def locate (tree : FileTree) (path : String) : Except FileFault (List String) :=
  match (pathFault? path).filter (· != .nameTooLong) with
  | some fault => .error fault
  | none =>
      follow tree (if Path.isAbsolute path then [] else tree.here) (Path.pieces path.toList)

def entryAt (tree : FileTree) (path : String) : Except FileFault Entry :=
  match pathFault? path with
  | some fault => .error fault
  | none => do
      let names ← tree.locate path
      match tree.root.below? names with
      | some entry => return entry
      | none => .error .missing

def pathExists (tree : FileTree) (path : String) : Bool :=
  match tree.entryAt path with
  | .ok _ => true
  | .error _ => false

def isFolder (tree : FileTree) (path : String) : Bool :=
  match tree.entryAt path with
  | .ok (.folder _) => true
  | _ => false

def read (tree : FileTree) (path : String) : Except FileFault (List UInt8) := do
  match ← tree.entryAt path with
  | .file content => return content
  | .folder _ => .error .isFolder

def readText (tree : FileTree) (path : String) : Except FileFault String := do
  let content ← tree.read path
  match Utf8.decode? content with
  | some text => return String.ofList text
  | none => .error .notText

/-- The absolute path of what a path leads to, without dots. -/
def canonical (tree : FileTree) (path : String) : Except FileFault String :=
  (tree.locate path).map fun names => "/" ++ "/".intercalate names

/-! ## Changes -/

/-- The pieces of a path without slashes at its end. -/
def trimmedPieces (path : String) : List (List Char) :=
  ((Path.pieces path.toList).reverse.dropWhile (·.isEmpty)).reverse

/-- The names that lead to the folder around a path, and the last piece of the path. -/
def locateParent (tree : FileTree) (path : String) : Except FileFault (List String × List Char) :=
  match pathFault? path with
  | some fault => .error fault
  | none => do
      let found := trimmedPieces path
      let start := if Path.isAbsolute path then [] else tree.here
      let names ← tree.follow start found.dropLast
      match tree.root.below? names with
      | some (.folder _) => return (names, found.getLast?.getD [])
      | some (.file _) => .error .notFolder
      | none => .error .missing

/-- Pieces that lead to a folder that exists wherever they stand. -/
def isFolderPiece (piece : List Char) : Bool :=
  Path.isTrivial piece || piece == ['.', '.']

/-- Creates a folder in a folder that exists. -/
def createFolder (tree : FileTree) (path : String) : Except FileFault FileTree := do
  let (names, last) ← tree.locateParent path
  let location := names ++ [String.ofList last]
  if isFolderPiece last || (tree.root.below? location).isSome then .error .occupied
  else if isTooLong last then .error .nameTooLong
  else return { tree with root := Entry.set location (.folder []) tree.root }

/-- Creates a folder, and the folders around it that are missing. The bound is on how many folders
are created. -/
def createFoldersWithin : Nat → FileTree → String → Except FileFault FileTree
  | 0, _, _ => .error .missing
  | bound + 1, tree, path =>
      if path.isEmpty then .ok tree
      else
        let retry (attempt : FileTree) : Except FileFault FileTree :=
          match attempt.createFolder path with
          | .ok created => .ok created
          | .error fault => if attempt.isFolder path then .ok attempt else .error fault
        match tree.createFolder path with
        | .ok created => .ok created
        | .error .missing =>
            match Path.parent? path with
            | none => .error .missing
            | some around => do
                let grown ← createFoldersWithin bound tree around
                retry grown
        | .error fault => if tree.isFolder path then .ok tree else .error fault

/-- Creates a folder, and the folders around it that are missing. -/
def createFolders (tree : FileTree) (path : String) : Except FileFault FileTree :=
  createFoldersWithin (path.length + 1) tree path

/-- Writes a file in a folder that exists. -/
def write (tree : FileTree) (path : String) (content : List UInt8) :
    Except FileFault FileTree := do
  let (names, last) ← tree.locateParent path
  let location := names ++ [String.ofList last]
  if isFolderPiece last || path.toList.getLast? == some '/' then .error .isFolder
  else if isTooLong last then .error .nameTooLong
  else
    match tree.root.below? location with
    | some (.folder _) => .error .isFolder
    | _ => return { tree with root := Entry.set location (.file content) tree.root }

end FileTree

end LiteralAudit
