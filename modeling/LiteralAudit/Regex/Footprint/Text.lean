import LiteralAudit.Regex.Footprint.Basic
import LiteralAudit.Unicode.CharSet

/-!
# The footprint of texts

A choice between texts shares what they start with, in the direction of reading, as long as this
keeps their order of preference: what stands behind the end of a text is not shared with what stands
before it.
-/

namespace LiteralAudit.Regex.Footprint

def bytesOf (target : Alphabet) (symbols : List Nat) : List Nat :=
  match target with
  | .bytes => symbols
  | .characters =>
      symbols.flatMap fun symbol =>
        (String.utf8EncodeChar (Char.ofNat symbol)).map UInt8.toNat

/-- Splits what is left of texts at those that end: the texts between them. -/
def betweenEnds (rests : List (List Nat)) : List (List (List Nat)) :=
  rests.foldr
    (fun rest groups =>
      match rest, groups with
      | [], _ => [] :: groups
      | _, [] => [[rest]]
      | _, group :: further => (rest :: group) :: further)
    [[]]

/-- The texts behind each of the bytes that texts start with. -/
def byFirst (rests : List (List Nat)) : List (List (List Nat)) :=
  ((rests.filterMap List.head?).eraseDups).map fun first =>
    rests.filterMap fun rest => if rest.head? = some first then some (rest.drop 1) else none

/-- What the places behind a text take up that shares none of them: a choice and a state each. -/
def ofRest (rest : List Nat) : Footprint :=
  (empty.addStates (2 * rest.length)).addTargets rest.length

/-- What the place takes up where the texts that are left part, and all places behind it: a choice
between the end of the texts, as often as one ends there, and a table for the texts between two such
ends. Of texts that end before any other goes on, one counts. The bound is on the length of the
texts. -/
def ofRests : Nat → List (List Nat) → Footprint
  | 0, _ => empty
  | bound + 1, rests =>
      match rests.dropWhile List.isEmpty with
      | [] => empty
      | further =>
          match rests with
          | [rest] => ofRest rest
          | _ =>
              let counted := (rests.takeWhile List.isEmpty).take 1 ++ further
              let groups := (betweenEnds counted).filter (!·.isEmpty)
              let ends := counted.countP List.isEmpty
              let start := (empty.addStates 1).addTargets (ends + groups.length)
              groups.foldl (addGroup bound) start
where
  addGroup (bound : Nat) (footprint : Footprint) (group : List (List Nat)) : Footprint :=
    let behind := byFirst group
    let table :=
      if behind.length = 1 then footprint.addStates 1 else footprint.addTable behind.length
    behind.foldl (fun found rests => found.append (ofRests bound rests)) table

/-- Adds a choice between texts: their places, and the end of all of them. -/
def addTexts (target : Alphabet) (direction : Direction) (texts : List (List Nat))
    (footprint : Footprint) : Footprint :=
  let read (text : List Nat) : List Nat :=
    match direction with
    | .forward => bytesOf target text
    | .backward => (bytesOf target text).reverse
  let bytes := texts.map read
  let longest := bytes.foldl (fun found text => max found text.length) 0
  (footprint.addStates 1).append (ofRests (longest + 1) bytes)

end LiteralAudit.Regex.Footprint
