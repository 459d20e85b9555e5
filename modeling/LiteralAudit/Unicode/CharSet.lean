import LiteralAudit.Text.Digits

/-!
# Sets of characters and of bytes

A set is kept as inclusive ranges of numbers. Ranges that a set is made of may be given in any
order; the set keeps them ascending, and joins those that overlap or whose numbers follow each
other. The operations work range by range, so that how a set was made can show in its ranges: the
codes of surrogates are skipped where a step goes from one character to the next, but they still
keep the ranges on their two sides apart.
-/

namespace LiteralAudit

/-- What the numbers of a set stand for. -/
inductive Alphabet where
  | characters
  | bytes
  deriving DecidableEq, Repr

namespace Alphabet

/-- The last character before the codes of surrogates. -/
def beforeSurrogates : Nat := 0xD7FF

/-- The first character after the codes of surrogates. -/
def afterSurrogates : Nat := 0xE000

def greatest : Alphabet → Nat
  | characters => 0x10FFFF
  | bytes => 0xFF

def next (alphabet : Alphabet) (code : Nat) : Nat :=
  if alphabet = characters ∧ code = beforeSurrogates then afterSurrogates else code + 1

def previous (alphabet : Alphabet) (code : Nat) : Nat :=
  if alphabet = characters ∧ code = afterSurrogates then beforeSurrogates else code - 1

end Alphabet

structure CharRange where
  first : Nat
  last : Nat
  deriving DecidableEq, Repr

structure CharSet where
  ranges : List CharRange
  deriving DecidableEq, Repr

namespace CharRange

/-- The range between two numbers in either order. -/
def between (left right : Nat) : CharRange :=
  if left ≤ right then ⟨left, right⟩ else ⟨right, left⟩

def contains (range : CharRange) (code : Nat) : Bool :=
  decide (range.first ≤ code) && decide (code ≤ range.last)

def inter? (left right : CharRange) : Option CharRange :=
  let first := max left.first right.first
  let last := min left.last right.last
  if first ≤ last then some ⟨first, last⟩ else none

/-- What is left of a range below and above another one that overlaps it. -/
def without (alphabet : Alphabet) (range taken : CharRange) :
    Option CharRange × Option CharRange :=
  (if range.first < taken.first then some (between range.first (alphabet.previous taken.first))
    else none,
    if taken.last < range.last then some (between (alphabet.next taken.last) range.last)
    else none)

end CharRange

namespace CharSet

def contains (set : CharSet) (code : Nat) : Bool :=
  set.ranges.any (·.contains code)

def empty : CharSet := ⟨[]⟩

def singleton (code : Nat) : CharSet := ⟨[⟨code, code⟩]⟩

def between (first last : Nat) : CharSet := ⟨[⟨first, last⟩]⟩

def isEmpty (set : CharSet) : Bool := set.ranges.isEmpty

def all (alphabet : Alphabet) : CharSet := between 0 alphabet.greatest

/-- Adds a range to the ranges collected so far, newest first: it is merged with the newest one when
the two overlap or touch. -/
def extend (collected : List CharRange) (range : CharRange) : List CharRange :=
  match collected with
  | [] => [range]
  | newest :: older =>
      if range.first ≤ newest.last + 1 then
        ⟨newest.first, max newest.last range.last⟩ :: older
      else
        range :: newest :: older

/-- The set covered by ranges given in any order. -/
def ofRanges (ranges : List CharRange) : CharSet :=
  let ascending := ranges.mergeSort fun left right => decide (left.first ≤ right.first)
  ⟨(ascending.foldl extend []).reverse⟩

def ofCodes (codes : List Nat) : CharSet :=
  ofRanges (codes.map fun code => ⟨code, code⟩)

/-- The members of either set. The ranges stay as they are where the right set adds none. -/
def union (left right : CharSet) : CharSet :=
  if right.isEmpty || decide (left = right) then left else ofRanges (left.ranges ++ right.ranges)

def unionOf (sets : List CharSet) : CharSet :=
  ofRanges (sets.flatMap (·.ranges))

/-- The ranges between the end of a range and the ranges after it, and after the last of them. -/
def gaps (alphabet : Alphabet) (last : Nat) : List CharRange → List CharRange
  | [] =>
      if last < alphabet.greatest then [.between (alphabet.next last) alphabet.greatest] else []
  | range :: rest =>
      .between (alphabet.next last) (alphabet.previous range.first) :: gaps alphabet range.last rest

def complement (alphabet : Alphabet) (set : CharSet) : CharSet :=
  match set.ranges with
  | [] => all alphabet
  | range :: rest =>
      let between := gaps alphabet range.last rest
      if 0 < range.first then ⟨.between 0 (alphabet.previous range.first) :: between⟩ else ⟨between⟩

def interRanges : List CharRange → List CharRange → List CharRange
  | [], _ => []
  | _ :: _, [] => []
  | left :: lefts, right :: rights =>
      let rest :=
        if left.last < right.last then interRanges lefts (right :: rights)
        else interRanges (left :: lefts) rights
      match left.inter? right with
      | some shared => shared :: rest
      | none => rest
termination_by lefts rights => lefts.length + rights.length

def inter (left right : CharSet) : CharSet :=
  ⟨interRanges left.ranges right.ranges⟩

/-- What ascending ranges leave of other ascending ranges. -/
def diffRanges (alphabet : Alphabet) : List CharRange → List CharRange → List CharRange
  | [], _ => []
  | left :: lefts, [] => left :: lefts
  | left :: lefts, right :: rights =>
      if right.last < left.first then diffRanges alphabet (left :: lefts) rights
      else if left.last < right.first then left :: diffRanges alphabet lefts (right :: rights)
      else
        match left.without alphabet right with
        | (none, none) => diffRanges alphabet lefts (right :: rights)
        | (some below, none) =>
            if left.last < right.last then below :: diffRanges alphabet lefts (right :: rights)
            else diffRanges alphabet (below :: lefts) rights
        | (none, some above) => diffRanges alphabet (above :: lefts) rights
        | (some below, some above) => below :: diffRanges alphabet (above :: lefts) rights
termination_by lefts rights => lefts.length + rights.length

def diff (alphabet : Alphabet) (left right : CharSet) : CharSet :=
  ⟨diffRanges alphabet left.ranges right.ranges⟩

/-- The members of exactly one of two sets. -/
def symmDiff (alphabet : Alphabet) (left right : CharSet) : CharSet :=
  diff alphabet (left.union right) (left.inter right)

def isAscii (set : CharSet) : Bool :=
  set.ranges.all fun range => decide (range.last ≤ 0x7F)

/-- Reads one word of a compact table, given the first number after the previous range: the gap
before the range and, after a plus sign, how many numbers it has beyond the first. -/
def readWord (next : Nat) (word : List Char) : CharRange :=
  let gap := Digits.hexNumber (word.takeWhile (· != '+'))
  let more := Digits.hexNumber ((word.dropWhile (· != '+')).drop 1)
  ⟨next + gap, next + gap + more⟩

/-- Reads a compact table: hexadecimal words `gap` or `gap+more`, separated by single blanks. An
empty table is the empty set. -/
def ofTable (table : String) : CharSet :=
  let collect (state : Nat × List CharRange) (word : List Char) : Nat × List CharRange :=
    let range := readWord state.1 word
    (range.last + 1, range :: state.2)
  if table.isEmpty then .empty
  else ⟨((table.toList.splitOn ' ').foldl collect (0, [])).2.reverse⟩

end CharSet

end LiteralAudit
