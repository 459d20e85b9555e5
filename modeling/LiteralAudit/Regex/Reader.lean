import LiteralAudit.Regex.Bracket
import LiteralAudit.Unicode.LaterVersion

/-!
# Reading regular expressions

A pattern is read from the front. What has been read of the innermost open group is kept as the
parts of its last branch and the branches before it; the groups around it wait on a stack.
-/

namespace LiteralAudit.Regex

/-! ## Groups -/

inductive GroupKind where
  | capture
  | named (name : List Char)
  | plain (items : List FlagItem)

/-- The start of a group, or a switch of flags for the rest of the group around it. -/
inductive Opening where
  | group (kind : GroupKind)
  | switch (items : List FlagItem)

def flagOf? (letter : Char) : Option Flag :=
  match letter with
  | 'i' => some .caseInsensitive
  | 'm' => some .multiLine
  | 's' => some .dotMatchesNewLine
  | 'U' => some .swapGreed
  | 'u' => some .unicode
  | 'R' => some .carriageReturn
  | 'x' => some .verbose
  | _ => none

/-- Reads flags up to a colon or a closing parenthesis, which it gives with the rest. A flag may
stand once, and a minus before at least one flag. -/
def flagItems (negated afterMinus : Bool) (items : List FlagItem) :
    List Char → Option (List FlagItem × Char × List Char)
  | [] => none
  | character :: rest =>
      if character = ':' ∨ character = ')' then
        if afterMinus then none else some (items.reverse, character, rest)
      else if character = '-' then
        if negated then none else flagItems true true items rest
      else
        match flagOf? character with
        | none => none
        | some flag =>
            if items.any (·.flag == flag) then none
            else flagItems negated false (⟨flag, !negated⟩ :: items) rest

/-- What flags say about the verbose mode, if they do. -/
def verboseOf? (items : List FlagItem) : Option Bool :=
  (items.find? (·.flag == .verbose)).map (·.isOn)

def startsName (character : Char) : Bool :=
  character == '_' || LaterVersion.alphabetic.contains character.toNat

def continuesName (character : Char) : Bool :=
  character == '_' || character == '.' || character == '[' || character == ']' ||
    LaterVersion.alphanumeric.contains character.toNat

def groupName (rest : List Char) : Option (List Char × List Char) :=
  let name := rest.takeWhile (· != '>')
  match name, rest.dropWhile (· != '>') with
  | first :: further, _ :: after =>
      if startsName first && further.all continuesName then some (name, after) else none
  | _, _ => none

/-- Reads what follows an opening parenthesis. Conditions on the text around a place are not
supported. -/
def opening (verbose : Bool) (rest : List Char) : Option (Opening × List Char) :=
  match skip verbose rest with
  | '?' :: '=' :: _ => none
  | '?' :: '!' :: _ => none
  | '?' :: '<' :: '=' :: _ => none
  | '?' :: '<' :: '!' :: _ => none
  | '?' :: 'P' :: '<' :: after =>
      (groupName after).map fun (name, further) => (.group (.named name), further)
  | '?' :: '<' :: after =>
      (groupName after).map fun (name, further) => (.group (.named name), further)
  | '?' :: after =>
      match flagItems false false [] after with
      | none => none
      | some (items, ending, further) =>
          if ending = ':' then some (.group (.plain items), further)
          else if items.isEmpty then none
          else some (.switch items, further)
  | after => some (.group .capture, after)

/-! ## Repetitions -/

/-- Reads decimal digits between which a verbose pattern may have blanks. -/
def decimalDigits (verbose : Bool) : Nat → List Char → List Char × List Char
  | 0, rest => ([], rest)
  | _ + 1, [] => ([], [])
  | bound + 1, digit :: rest =>
      if Digits.isDecimal digit then
        let (digits, after) := decimalDigits verbose bound (skip verbose rest)
        (digit :: digits, after)
      else ([], digit :: rest)

/-- Reads a number of 32 bits with blanks around it. -/
def repetitionCount (verbose : Bool) (rest : List Char) : Option (Nat × List Char) :=
  let start := rest.dropWhile Text.isBlank
  let (digits, after) := decimalDigits verbose (start.length + 1) start
  let next := skip verbose (after.dropWhile Text.isBlank)
  let number := Digits.decimalNumber digits
  if digits.isEmpty || number > 0xFFFFFFFF then none else some (number, next)

def repetitionBounds (verbose : Bool) (rest : List Char) :
    Option (Nat × Option Nat × List Char) := do
  let (least, afterLeast) ← repetitionCount verbose (skip verbose rest)
  match afterLeast with
  | '\x7d' :: after => some (least, some least, after)
  | ',' :: after =>
      match skip verbose after with
      | '\x7d' :: further => some (least, none, further)
      | further => do
          let (greatest, next) ← repetitionCount verbose further
          match next with
          | '\x7d' :: final =>
              if least ≤ greatest then some (least, some greatest, final) else none
          | _ => none
  | _ => none

/-- Reads the question mark that makes a repetition lazy: whether it is greedy, and the rest. -/
def greed : List Char → Bool × List Char
  | '?' :: rest => (false, rest)
  | rest => (true, rest)

/-! ## Patterns -/

/-- A group that is still open: what was read of the group around it, and its verbose mode. -/
structure GroupFrame where
  parts : List Syntax
  branches : List Syntax
  verbose : Bool
  kind : GroupKind
  index : Nat

/-- What has been read: the groups that are open, the parts of the last branch of the innermost
one and the branches before it, newest first. -/
structure ReadState where
  frames : List GroupFrame
  parts : List Syntax
  branches : List Syntax
  verbose : Bool
  captures : Nat
  names : List (List Char)

namespace ReadState

def start : ReadState :=
  { frames := [], parts := [], branches := [], verbose := false, captures := 0, names := [] }

def body (state : ReadState) : Syntax :=
  .ofBranches (.ofParts state.parts :: state.branches)

def add (state : ReadState) (part : Syntax) : ReadState :=
  { state with parts := part :: state.parts }

def openGroup (state : ReadState) (kind : GroupKind) : Option ReadState :=
  let frame (index : Nat) : GroupFrame :=
    { parts := state.parts, branches := state.branches, verbose := state.verbose, kind, index }
  match kind with
  | .capture =>
      let index := state.captures + 1
      some { state with
        frames := frame index :: state.frames, parts := [], branches := [], captures := index }
  | .named name =>
      if state.names.contains name then none
      else
        let index := state.captures + 1
        some { state with
          frames := frame index :: state.frames, parts := [], branches := [], captures := index,
          names := name :: state.names }
  | .plain items =>
      some { state with
        frames := frame 0 :: state.frames, parts := [], branches := [],
        verbose := (verboseOf? items).getD state.verbose }

def closeGroup (state : ReadState) : Option ReadState :=
  match state.frames with
  | [] => none
  | frame :: frames =>
      let part : Syntax :=
        match frame.kind with
        | .plain items => .group items state.body
        | _ => .capture frame.index state.body
      some { state with
        frames, parts := part :: frame.parts, branches := frame.branches,
        verbose := frame.verbose }

def repeatLast (state : ReadState) (least : Nat) (greatest : Option Nat) (greedy : Bool) :
    Option ReadState :=
  match state.parts with
  | [] => none
  | part :: parts =>
      if part.isRepeatable then
        some { state with parts := .repetition least greatest greedy part :: parts }
      else none

/-- Repeats the last part by an operator that may be followed by a question mark. -/
def repeatBy (state : ReadState) (least : Nat) (greatest : Option Nat) (rest : List Char) :
    Option (ReadState × List Char) :=
  let (greedy, after) := greed rest
  (state.repeatLast least greatest greedy).map (·, after)

def takeOpening (state : ReadState) (rest : List Char) : Option (ReadState × List Char) := do
  let (found, after) ← opening state.verbose rest
  match found with
  | .group kind => (state.openGroup kind).map (·, after)
  | .switch items =>
      let switched := state.add (.flags items)
      some ({ switched with verbose := (verboseOf? items).getD state.verbose }, after)

def takeBounds (state : ReadState) (rest : List Char) : Option (ReadState × List Char) := do
  let (least, greatest, after) ← repetitionBounds state.verbose rest
  state.repeatBy least greatest (skip state.verbose after)

def step (state : ReadState) (first : Char) (rest : List Char) :
    Option (ReadState × List Char) :=
  match first with
  | '(' => state.takeOpening rest
  | ')' => state.closeGroup.map (·, rest)
  | '|' =>
      some ({ state with parts := [], branches := .ofParts state.parts :: state.branches }, rest)
  | '[' =>
      (bracket state.verbose (first :: rest)).map fun ((negated, set), after) =>
        (state.add (.bracketed negated set), after)
  | '?' => state.repeatBy 0 (some 1) rest
  | '*' => state.repeatBy 0 none rest
  | '+' => state.repeatBy 1 none rest
  | '\x7b' => state.takeBounds rest
  | '\\' =>
      (escape state.verbose rest).map fun (found, after) => (state.add (.primitive found), after)
  | '.' => some (state.add (.primitive .dot), rest)
  | '^' => some (state.add (.primitive (.anchor .lineStart)), rest)
  | '$' => some (state.add (.primitive (.anchor .lineEnd)), rest)
  | _ => some (state.add (.primitive (.literal ⟨first.toNat, false⟩)), rest)

/-- Reads a pattern that has fewer characters than the bound. -/
def readWithin : Nat → ReadState → List Char → Option Syntax
  | 0, _, _ => none
  | bound + 1, state, rest =>
      match skip state.verbose rest with
      | [] => if state.frames.isEmpty then some state.body else none
      | first :: after =>
          match state.step first after with
          | none => none
          | some (next, further) => readWithin bound next further

end ReadState

def Syntax.ofPattern? (pattern : String) : Option Syntax :=
  let characters := pattern.toList
  match ReadState.readWithin (characters.length + 1) .start characters with
  | none => none
  | some found => if found.depth ≤ Syntax.greatestDepth then some found else none

end LiteralAudit.Regex
