/-!
# Footprints

A pattern has to be small enough for a machine over bytes to be laid out for it, once for reading a
text forward and once for reading it backward. What such a machine takes up is counted without
laying it out: its states, and beside them the targets of choices and the transitions of tables.
-/

namespace LiteralAudit.Regex

inductive Direction where
  | forward
  | backward
  deriving DecidableEq, Repr

/-- What the states laid out so far take up. A new state has the number of states before it. -/
structure Footprint where
  states : Nat
  /-- Bytes for targets and transitions. -/
  beside : Nat
  deriving DecidableEq, Repr

namespace Footprint

def stateSize : Nat := 32

def targetSize : Nat := 4

def transitionSize : Nat := 8

/-- The bytes that a machine may take up. -/
def limit : Nat := 10 * 0x100000

def empty : Footprint := ⟨0, 0⟩

def append (left right : Footprint) : Footprint :=
  ⟨left.states + right.states, left.beside + right.beside⟩

def size (footprint : Footprint) : Nat :=
  footprint.states * stateSize + footprint.beside

def fits (footprint : Footprint) : Bool :=
  decide (footprint.size ≤ limit)

def addStates (footprint : Footprint) (count : Nat) : Footprint :=
  { footprint with states := footprint.states + count }

def addTargets (footprint : Footprint) (count : Nat) : Footprint :=
  { footprint with beside := footprint.beside + count * targetSize }

/-- Adds a state that is a table of so many transitions. -/
def addTable (footprint : Footprint) (transitions : Nat) : Footprint :=
  ⟨footprint.states + 1, footprint.beside + transitions * transitionSize⟩

end Footprint

end LiteralAudit.Regex
