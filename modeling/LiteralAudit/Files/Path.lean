import LiteralAudit.Text.Blank

/-!
# Paths

Paths are texts with slashes between their components. Empty components and single dots do not
count, except for a dot at the start of a relative path; two paths with the same components are the
same path in two spellings.
-/

namespace LiteralAudit

inductive Component where
  | root
  | current
  | parent
  | normal (name : List Char)
  deriving DecidableEq, Repr

namespace Component

/-- The place of a component among components of other kinds. -/
def rank : Component → Nat
  | root => 0
  | current => 1
  | parent => 2
  | normal _ => 3

/-- The order of names: by their first characters that differ. -/
def nameLe : List Char → List Char → Bool
  | [], _ => true
  | _ :: _, [] => false
  | left :: lefts, right :: rights =>
      if left = right then nameLe lefts rights else decide (left < right)

/-- The order of components: by kind, then by name. -/
def le : Component → Component → Bool
  | normal left, normal right => nameLe left right
  | left, right => decide (left.rank ≤ right.rank)

end Component

namespace Path

/-- The texts between slashes. -/
def pieces (path : List Char) : List (List Char) :=
  match path with
  | [] => [[]]
  | character :: rest =>
      if character = '/' then [] :: pieces rest
      else
        match pieces rest with
        | [] => [[character]]
        | first :: further => (character :: first) :: further

/-- Pieces that do not count. -/
def isTrivial (piece : List Char) : Bool :=
  piece == [] || piece == ['.']

def componentOf (piece : List Char) : Component :=
  if piece = ['.', '.'] then .parent else .normal piece

/-- The components of pieces that are not at the start of a path. -/
def inner (found : List (List Char)) : List Component :=
  (found.filter (!isTrivial ·)).map componentOf

/-- The component that the start of a path makes of its own, if it does, and the pieces behind. -/
def splitStart (path : List Char) : Option Component × List (List Char) :=
  match path, pieces path with
  | '/' :: _, _ :: rest => (some .root, rest)
  | _, ['.'] :: rest => (some .current, rest)
  | _, found => (none, found)

def components (path : List Char) : List Component :=
  let (start, rest) := splitStart path
  start.toList ++ inner rest

def isAbsolute (path : String) : Bool :=
  path.toList.head? == some '/'

/-- Joins the texts between slashes. -/
def ofPieces (found : List (List Char)) : List Char :=
  ['/'].intercalate found

/-- Pieces without those at either end that do not count. -/
def trimPieces (found : List (List Char)) : List (List Char) :=
  ((found.dropWhile isTrivial).reverse.dropWhile isTrivial).reverse

/-- A path below another one; an absolute path stands for itself. -/
def join (base path : String) : String :=
  if isAbsolute path || base.isEmpty then path
  else if base.toList.getLast? == some '/' then base ++ path
  else base ++ "/" ++ path

/-- Takes components off the front of pieces. -/
def dropInner : List Component → List (List Char) → Option (List (List Char))
  | [], found => some found
  | _ :: _, [] => none
  | component :: further, piece :: rest =>
      if isTrivial piece then dropInner (component :: further) rest
      else if componentOf piece = component then dropInner further rest
      else none

/-- The path that leads from a base to a path, if the components of the base come first in it. -/
def stripPrefix? (base path : List Char) : Option (List Char) :=
  let (baseStart, baseRest) := splitStart base
  let (start, rest) := splitStart path
  let left :=
    match baseStart, start with
    | none, none => dropInner (inner baseRest) rest
    | some expected, some found =>
        if expected = found then dropInner (inner baseRest) rest else none
    | _, _ => none
  left.map fun found => ofPieces (trimPieces found)

/-- Pieces without the last one that counts, and those that do not count before it. -/
def dropLastInner (found : List (List Char)) : List (List Char) :=
  ((found.reverse.dropWhile isTrivial).drop 1).reverse

/-- The text of a path that starts with a component of its own. -/
def ofStart (start : Component) (found : List (List Char)) : List Char :=
  let lead := if start = .root then [] else ['.']
  let kept := (found.reverse.dropWhile isTrivial).reverse
  if kept.isEmpty && start == .root then ['/'] else ofPieces (lead :: kept)

/-- The path without its last component; the root and the empty path have none to leave out. -/
def parent? (path : String) : Option String :=
  let (start, rest) := splitStart path.toList
  let isLast := (inner rest).isEmpty
  match start with
  | none =>
      if isLast then none
      else some (String.ofList (ofPieces
        ((dropLastInner rest).reverse.dropWhile isTrivial).reverse))
  | some component =>
      if isLast then (if component = .root then none else some "")
      else some (String.ofList (ofStart component (dropLastInner rest)))

/-- What follows the last dot of a name that does not start with that dot. -/
def nameExtension? (name : List Char) : Option (List Char) :=
  let ending := (name.reverse.takeWhile (· != '.')).reverse
  match name.take (name.length - ending.length) with
  | [] => none
  | ['.'] => none
  | _ => some ending

/-- The order of paths: by their components, the first difference counts. -/
def componentsLe : List Component → List Component → Bool
  | [], _ => true
  | _ :: _, [] => false
  | left :: lefts, right :: rights =>
      if left = right then componentsLe lefts rights else left.le right

def le (left right : String) : Bool :=
  componentsLe (components left.toList) (components right.toList)

/-- Whether two paths have the same components. -/
def same (left right : String) : Bool :=
  components left.toList == components right.toList

end Path

end LiteralAudit
