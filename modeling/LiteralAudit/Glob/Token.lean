import LiteralAudit.Regex.Expr
import LiteralAudit.Text.Utf8

/-!
# Tokens of globs

A glob is read into tokens from the front. Braces hold alternatives, which may stand inside each
other. Two stars that fill the place between separators match any number of folders.
-/

namespace LiteralAudit.Glob

inductive Token where
  | literal (character : Char)
  | anyByte
  | anyBytes
  /-- Two stars at the start, with the separator after them. -/
  | foldersBefore
  /-- Two stars at the end, with the separator before them. -/
  | contentBelow
  /-- Two stars between separators. -/
  | foldersBetween
  | oneOf (negated : Bool) (ranges : List (Char × Char))
  | alternatives (branches : List (List Token))

/-- What has been read: the open branches, newest first and each with its newest token first, and
for each open brace how many branches were open before it. -/
structure ReadState where
  branches : List (List Token)
  braces : List Nat
  previous : Option Char

namespace ReadState

def start : ReadState := { branches := [[]], braces := [], previous := none }

def separator : Char := '/'

def push (state : ReadState) (token : Token) : ReadState :=
  match state.branches with
  | [] => state
  | tokens :: branches => { state with branches := (token :: tokens) :: branches }

def replace (state : ReadState) (token : Token) : ReadState :=
  match state.branches with
  | (_ :: tokens) :: branches => { state with branches := (token :: tokens) :: branches }
  | _ => state

def newest? (state : ReadState) : Option Token :=
  state.branches.head?.bind (·.head?)

def openBrace (state : ReadState) : ReadState :=
  { state with branches := [] :: state.branches, braces := state.branches.length :: state.braces }

/-- Makes the branches since the last open brace one token. -/
def closeBrace (state : ReadState) : Option ReadState :=
  match state.braces with
  | [] => none
  | before :: braces =>
      let count := state.branches.length - before
      let found := (state.branches.take count).map List.reverse
      some (push { state with branches := state.branches.drop count, braces }
        (.alternatives found.reverse))

/-- A comma starts a new branch between braces, and stands for itself elsewhere. -/
def takeComma (state : ReadState) : ReadState :=
  if state.braces.isEmpty then state.push (.literal ',')
  else { state with branches := [] :: state.branches }

/-- Whether two stars may stand for folders after a character. -/
def startsComponent (state : ReadState) (before : Option Char) : Bool :=
  before == some separator ||
    (decide (1 < state.branches.length) && (before == some ',' || before == some '\x7b'))

/-- The token of two stars in the place of folders, given the token that they replace. -/
def folders (replaced : Option Token) (isLast : Bool) : Token :=
  match replaced with
  | some .foldersBefore => .foldersBefore
  | some .contentBelow => .contentBelow
  | _ => if isLast then .contentBelow else .foldersBetween

def takeTwoStars (state : ReadState) (before : Option Char) (rest : List Char) :
    ReadState × List Char :=
  let plain : ReadState × List Char := ((state.push .anyBytes).push .anyBytes, rest)
  let afterSeparator (next : ReadState) (further : List Char) : ReadState × List Char :=
    ({ next with previous := some separator }, further)
  if state.newest?.isNone then
    match rest with
    | [] => (state.push .foldersBefore, [])
    | character :: further =>
        if character = separator then afterSeparator (state.push .foldersBefore) further else plain
  else if !state.startsComponent before then plain
  else
    match rest with
    | [] => (state.replace (folders state.newest? true), [])
    | character :: further =>
        if character = separator then
          afterSeparator (state.replace (folders state.newest? false)) further
        else if (character = ',' ∨ character = '\x7d') ∧ 1 < state.branches.length then
          (state.replace (folders state.newest? true), rest)
        else plain

def takeStar (state : ReadState) (before : Option Char) (rest : List Char) :
    ReadState × List Char :=
  match rest with
  | '*' :: further => takeTwoStars state before further
  | _ => (state.push .anyBytes, rest)

/-- Reads the ranges of a class, newest first, up to its closing bracket. A hyphen makes a range of
the characters around it, and stands for itself at either end; a closing bracket stands for itself
at the start. -/
def classRanges (isFirst inRange : Bool) (ranges : List (Char × Char)) :
    List Char → Option (List (Char × Char) × List Char)
  | [] => none
  | character :: rest =>
      if character = ']' ∧ !isFirst then
        some (if inRange then ('-', '-') :: ranges else ranges, rest)
      else if character = '-' ∧ !isFirst ∧ !inRange then classRanges false true ranges rest
      else if inRange then
        match ranges with
        | [] => none
        | (low, _) :: older =>
            if character < low then none
            else classRanges false false ((low, character) :: older) rest
      else classRanges false false ((character, character) :: ranges) rest

/-- Takes the text after an opening bracket. -/
def takeClass (state : ReadState) (rest : List Char) : Option (ReadState × List Char) :=
  let (negated, start) :=
    match rest with
    | '!' :: further => (true, further)
    | '^' :: further => (true, further)
    | _ => (false, rest)
  (classRanges true false [] start).map fun (ranges, further) =>
    ({ state.push (.oneOf negated ranges.reverse) with previous := some ']' }, further)

def step (state : ReadState) (first : Char) (rest : List Char) :
    Option (ReadState × List Char) :=
  let before := state.previous
  let current := { state with previous := some first }
  match first with
  | '?' => some (current.push .anyByte, rest)
  | '*' => some (current.takeStar before rest)
  | '[' => current.takeClass rest
  | '\x7b' => some (current.openBrace, rest)
  | '\x7d' => current.closeBrace.map (·, rest)
  | ',' => some (current.takeComma, rest)
  | '\\' =>
      match rest with
      | [] => none
      | escaped :: further =>
          some ({ current.push (.literal escaped) with previous := some escaped }, further)
  | _ => some (current.push (.literal first), rest)

/-- Reads a glob that has no more characters than the bound. -/
def readWithin : Nat → ReadState → List Char → Option (List Token)
  | _, state, [] =>
      match state.branches with
      | [tokens] => some tokens.reverse
      | _ => none
  | 0, _, _ => none
  | bound + 1, state, first :: rest =>
      match state.step first rest with
      | none => none
      | some (next, further) => readWithin bound next further

end ReadState

def tokens? (glob : String) : Option (List Token) :=
  ReadState.readWithin glob.length .start glob.toList

end LiteralAudit.Glob
