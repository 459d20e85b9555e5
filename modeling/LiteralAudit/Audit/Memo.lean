/-!
# Memos

A memo holds answers that were computed before, under the key that they were computed for. It counts
how often it knew an answer and how often it did not.
-/

namespace LiteralAudit

structure Memo (key value : Type) where
  /-- The answers by key, last one first. -/
  entries : List (key × value)
  hits : Nat
  misses : Nat
  deriving Repr

namespace Memo

variable {key value : Type} [BEq key]

def empty : Memo key value := ⟨[], 0, 0⟩

def size (memo : Memo key value) : Nat :=
  memo.entries.length

def isEmpty (memo : Memo key value) : Bool :=
  memo.entries.isEmpty

def find? (memo : Memo key value) (sought : key) : Option value :=
  memo.entries.lookup sought

def hit (memo : Memo key value) : Memo key value :=
  { memo with hits := memo.hits + 1 }

def miss (memo : Memo key value) : Memo key value :=
  { memo with misses := memo.misses + 1 }

def keep (memo : Memo key value) (sought : key) (answer : value) : Memo key value :=
  { memo with entries := (sought, answer) :: memo.entries }

/-- The answer for a key, computed and kept if it is not known. That there is none is not kept. -/
def fetch? (memo : Memo key value) (sought : key) (compute : Unit → Option value) :
    Option value × Memo key value :=
  match memo.find? sought with
  | some answer => (some answer, memo.hit)
  | none =>
      match compute () with
      | none => (none, memo.miss)
      | some answer => (some answer, memo.miss.keep sought answer)

/-- The answer for a key, computed and kept if it is not known. -/
def fetch (memo : Memo key value) (sought : key) (compute : Unit → value) :
    value × Memo key value :=
  match memo.find? sought with
  | some answer => (answer, memo.hit)
  | none =>
      let answer := compute ()
      (answer, memo.miss.keep sought answer)

end Memo

end LiteralAudit
