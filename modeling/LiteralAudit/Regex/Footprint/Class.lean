import LiteralAudit.Regex.ByteRanges
import LiteralAudit.Regex.Footprint.Basic
import Std.Data.HashMap

/-!
# The footprint of classes

A class of characters is laid out as the sequences of byte ranges that encode them. Parts of it that
are alike are shared, as far as a table of recent parts remembers them. Where a part stands in that
table depends on the numbers of states, so the counts are carried along.
-/

namespace LiteralAudit.Regex.Footprint

/-- A transition of a table: the bytes that it takes, and the state that it leads to. -/
structure Transition where
  bytes : CharRange
  next : Nat
  deriving DecidableEq, Repr

/-- What is laid out of a class, and for each place of a table of recent parts the part there. -/
structure Shared (Part : Type) where
  footprint : Footprint
  places : Std.HashMap Nat (Part × Nat)

/-- The place of a part, given by numbers, in a table of so many places. -/
def placeOf (places : Nat) (numbers : List Nat) : Nat :=
  let start : UInt64 := 14695981039346656037
  let hash := numbers.foldl
    (fun hash number => (hash ^^^ number.toUInt64) * 1099511628211) start
  hash.toNat % places

/-- The number of the state of a part: the one that the table remembers, or a new one, for which the
table forgets the part in its place. -/
def Shared.fetch {Part : Type} [DecidableEq Part] (shared : Shared Part) (place : Nat) (part : Part)
    (lay : Footprint → Footprint) : Nat × Shared Part :=
  let number := shared.footprint.states
  let laid : Nat × Shared Part :=
    (number, ⟨lay shared.footprint, shared.places.insert place (part, number)⟩)
  match shared.places[place]? with
  | some (known, state) => if known = part then (state, shared) else laid
  | none => laid

/-- A table that may still grow: its transitions, newest first, and the bytes of the last one, whose
target is not laid out yet. -/
structure OpenTable where
  transitions : List Transition
  last : CharRange

def layTable (shared : Shared (List Transition)) (transitions : List Transition) :
    Nat × Shared (List Transition) :=
  let numbers := transitions.flatMap fun found => [found.bytes.first, found.bytes.last, found.next]
  shared.fetch (placeOf 10000 numbers) transitions (·.addTable transitions.length)

/-- Lays out tables that lead to each other and the last one of them to `target`, and gives the
first of them. -/
def closeTables (target : Nat) (shared : Shared (List Transition)) :
    List OpenTable → Nat × Shared (List Transition)
  | [] => (target, shared)
  | table :: deeper =>
      let (next, grown) := closeTables target shared deeper
      layTable grown (⟨table.last, next⟩ :: table.transitions).reverse

/-- Adds a sequence of byte ranges to the tables that lead to each other. What it has in common with
the sequence before it stays open. -/
def addSequence (target : Nat) (shared : Shared (List Transition)) :
    List OpenTable → ByteRanges.Sequence → List OpenTable × Shared (List Transition)
  | table :: deeper, bytes :: further =>
      if table.last = bytes then
        let (tables, grown) := addSequence target shared deeper further
        (table :: tables, grown)
      else
        let (next, grown) := closeTables target shared deeper
        (⟨⟨table.last, next⟩ :: table.transitions, bytes⟩ :: further.map (⟨[], ·⟩), grown)
  | _, sequence => (sequence.map (⟨[], ·⟩), shared)

/-- Adds a class that is read forward: tables for the bytes of its characters, behind which a state
of its own follows. -/
def addForward (footprint : Footprint) (members : CharSet) : Footprint :=
  let target := footprint.states
  let (tables, shared) := (ByteRanges.ofSet members).foldl
    (fun (tables, shared) sequence => addSequence target shared tables sequence)
    (([] : List OpenTable), (⟨footprint.addStates 1, {}⟩ : Shared (List Transition)))
  (closeTables target shared tables).2.footprint

/-- Adds the states that read a sequence backward, the last byte first, and go on with `next`. Gives
the first of them. -/
def addBackwardSequence (next : Nat) (shared : Shared Transition) :
    ByteRanges.Sequence → Nat × Shared Transition
  | [] => (next, shared)
  | bytes :: further =>
      let place := placeOf 1000 [next, bytes.first, bytes.last]
      let (state, grown) := shared.fetch place ⟨bytes, next⟩ (·.addStates 1)
      addBackwardSequence state grown further

/-- Adds a class that is read backward: a choice between the sequences of its characters. -/
def addBackward (footprint : Footprint) (members : CharSet) : Footprint :=
  let target := footprint.states + 1
  let start : Shared Transition := ⟨footprint.addStates 2, {}⟩
  ((ByteRanges.ofSet members).foldl
    (fun shared sequence =>
      let grown := (addBackwardSequence target shared sequence).2
      { grown with footprint := grown.footprint.addTargets 1 }) start).footprint

/-- Adds a class. One table is enough where each member is a single byte. -/
def addSet (direction : Direction) (alphabet : Alphabet) (members : CharSet)
    (footprint : Footprint) : Footprint :=
  if alphabet = .bytes || members.isAscii then
    (footprint.addStates 1).addTable members.ranges.length
  else
    match direction with
    | .forward => footprint.addForward members
    | .backward => footprint.addBackward members

end LiteralAudit.Regex.Footprint
