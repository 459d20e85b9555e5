import LiteralAudit.Regex.Escape

/-!
# Bracketed classes in regular expressions

Classes may stand inside each other and be joined by set operations, all of which bind equally and
to the left.
-/

namespace LiteralAudit.Regex

def asciiClasses : List (String × CharSet) :=
  let ofPairs (pairs : List (Nat × Nat)) : CharSet :=
    .ofRanges (pairs.map fun pair => ⟨pair.1, pair.2⟩)
  [("alnum", ofPairs [(0x30, 0x39), (0x41, 0x5A), (0x61, 0x7A)]),
    ("alpha", ofPairs [(0x41, 0x5A), (0x61, 0x7A)]),
    ("ascii", ofPairs [(0x00, 0x7F)]),
    ("blank", ofPairs [(0x09, 0x09), (0x20, 0x20)]),
    ("cntrl", ofPairs [(0x00, 0x1F), (0x7F, 0x7F)]),
    ("digit", ofPairs [(0x30, 0x39)]),
    ("graph", ofPairs [(0x21, 0x7E)]),
    ("lower", ofPairs [(0x61, 0x7A)]),
    ("print", ofPairs [(0x20, 0x7E)]),
    ("punct", ofPairs [(0x21, 0x2F), (0x3A, 0x40), (0x5B, 0x60), (0x7B, 0x7E)]),
    ("space", ofPairs [(0x09, 0x0D), (0x20, 0x20)]),
    ("upper", ofPairs [(0x41, 0x5A)]),
    ("word", ofPairs [(0x30, 0x39), (0x41, 0x5A), (0x5F, 0x5F), (0x61, 0x7A)]),
    ("xdigit", ofPairs [(0x30, 0x39), (0x41, 0x46), (0x61, 0x66)])]

/-- Reads a named class after its opening bracket. -/
def asciiClass? : List Char → Option (ClassSet × List Char)
  | ':' :: rest =>
      let (negated, start) :=
        match rest with
        | '^' :: after => (true, after)
        | after => (false, after)
      let name := String.ofList (start.takeWhile (· != ':'))
      match start.dropWhile (· != ':') with
      | ':' :: ']' :: after =>
          (asciiClasses.find? (·.1 == name)).map fun entry => (.ascii entry.2 negated, after)
      | _ => none
  | _ => none

/-- A class that is still open, or an operation that waits for its right side. -/
inductive BracketFrame where
  | opened (outer : List ClassSet) (negated : Bool)
  | pending (kind : SetOperation) (left : ClassSet)

/-- Reads the hyphens that may stand at the start of a class for themselves. -/
def leadingHyphens (verbose : Bool) : Nat → List ClassSet → List Char →
    Option (List ClassSet × List Char)
  | 0, _, _ => none
  | bound + 1, items, rest =>
      match rest with
      | [] => none
      | '-' :: after =>
          leadingHyphens verbose bound (.literal ⟨'-'.toNat, false⟩ :: items) (skip verbose after)
      | _ => some (items, rest)

/-- Reads the start of a class after its bracket: negation, hyphens, and a closing bracket that
stands for itself. -/
def openBracket (verbose : Bool) (rest : List Char) :
    Option (Bool × List ClassSet × List Char) := do
  let (negated, start) :=
    match skip verbose rest with
    | '^' :: after => (true, skip verbose after)
    | after => (false, after)
  let (items, next) ← leadingHyphens verbose (start.length + 1) [] start
  match items, next with
  | [], ']' :: after =>
      match skip verbose after with
      | [] => none
      | further => some (negated, [.literal ⟨']'.toNat, false⟩], further)
  | _, _ => some (negated, items, next)

/-- The character after a hyphen, as far as ranges care. A comment hides no more than the blanks
after its mark. -/
def peekAfter (verbose : Bool) (after : List Char) : Option Char :=
  if verbose then
    let first := after.dropWhile Text.isBlank
    let second :=
      match first with
      | '#' :: further => further.dropWhile Text.isBlank
      | _ => first
    if second.isEmpty then after.head? else second.head?
  else after.head?

def bracketPrimitive (verbose : Bool) : List Char → Option (Primitive × List Char)
  | [] => none
  | '\\' :: rest => escape verbose rest
  | character :: rest => some (.literal ⟨character.toNat, false⟩, rest)

/-- The item that a primitive makes between brackets. -/
def itemOf? : Primitive → Option ClassSet
  | .literal character => some (.literal character)
  | .letterClass kind negated => some (.letterClass kind negated)
  | .property query negated => some (.property query negated)
  | .dot => none
  | .anchor _ => none

def bracketItem (verbose : Bool) (rest : List Char) : Option (ClassSet × List Char) := do
  let (first, afterFirst) ← bracketPrimitive verbose rest
  match skip verbose afterFirst with
  | [] => none
  | '-' :: after =>
      let peeked := peekAfter verbose after
      if peeked = some ']' ∨ peeked = some '-' then
        (itemOf? first).map fun item => (item, '-' :: after)
      else
        let (second, further) ← bracketPrimitive verbose (skip verbose after)
        match first, second with
        | .literal low, .literal high =>
            if low.code ≤ high.code then some (.range low high, further) else none
        | _, _ => none
  | next => (itemOf? first).map fun item => (item, next)

/-- Joins a set with the operation that waits for it. -/
def joinPending (frames : List BracketFrame) (right : ClassSet) :
    List BracketFrame × ClassSet :=
  match frames with
  | .pending kind left :: outer => (outer, .operation kind left right)
  | _ => (frames, right)

/-- Reads a class from its opening bracket on: whether it is negated, and its set. -/
def bracketWithin (verbose : Bool) : Nat → List BracketFrame → List ClassSet → List Char →
    Option ((Bool × ClassSet) × List Char)
  | 0, _, _, _ => none
  | bound + 1, frames, items, rest =>
      let operate (kind : SetOperation) (after : List Char) :
          Option ((Bool × ClassSet) × List Char) :=
        let (outer, left) := joinPending frames (.ofItems items)
        bracketWithin verbose bound (.pending kind left :: outer) [] after
      match skip verbose rest with
      | [] => none
      | '[' :: after =>
          match if frames.isEmpty then none else asciiClass? after with
          | some (item, next) => bracketWithin verbose bound frames (item :: items) next
          | none => do
              let (negated, started, next) ← openBracket verbose after
              bracketWithin verbose bound (.opened items negated :: frames) started next
      | ']' :: after =>
          match joinPending frames (.ofItems items) with
          | ([.opened _ negated], set) => some ((negated, set), after)
          | (.opened outer negated :: further, set) =>
              bracketWithin verbose bound further (.bracketed negated set :: outer) after
          | _ => none
      | '&' :: '&' :: after => operate .intersection after
      | '-' :: '-' :: after => operate .difference after
      | '~' :: '~' :: after => operate .symmetricDifference after
      | next => do
          let (item, after) ← bracketItem verbose next
          bracketWithin verbose bound frames (item :: items) after

def bracket (verbose : Bool) (rest : List Char) : Option ((Bool × ClassSet) × List Char) :=
  bracketWithin verbose (rest.length + 1) [] [] rest

end LiteralAudit.Regex
