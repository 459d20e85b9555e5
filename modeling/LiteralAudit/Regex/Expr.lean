import LiteralAudit.Unicode.CharSet

/-!
# Regular expressions

Expressions over numbered symbols, which are characters or bytes. The operations that build them
merge neighbouring texts, drop empty parts and factor out what all branches start with. Which of
several matches comes first can hang on this form, so it is part of the meaning of a pattern.
-/

namespace LiteralAudit.Regex

/-- What a condition on words looks at: a change, no change, or one side only. -/
inductive WordCondition where
  | boundary
  | notBoundary
  | start
  | finish
  | startHalf
  | finishHalf
  deriving DecidableEq, Repr

/-- A condition on a place, given the symbols before and after it. -/
inductive Look where
  | textStart
  | textEnd
  | lineStart (carriageReturn : Bool)
  | lineEnd (carriageReturn : Bool)
  | word (condition : WordCondition) (unicode : Bool)
  deriving DecidableEq, Repr

inductive Expr where
  /-- Matches nothing at all. -/
  | fail
  | empty
  | text (symbols : List Nat)
  | set (alphabet : Alphabet) (members : CharSet)
  | look (condition : Look)
  | repetition (least : Nat) (greatest : Option Nat) (greedy : Bool) (body : Expr)
  | capture (index : Nat) (body : Expr)
  | concat (parts : List Expr)
  | alternation (branches : List Expr)
  deriving Repr

namespace Expr

mutual

def same : Expr → Expr → Bool
  | fail, fail => true
  | empty, empty => true
  | text left, text right => left == right
  | set alphabet left, set alphabet' right => alphabet == alphabet' && decide (left = right)
  | look left, look right => decide (left = right)
  | repetition least greatest greedy body, repetition least' greatest' greedy' body' =>
      least == least' && greatest == greatest' && greedy == greedy' && same body body'
  | capture index body, capture index' body' => index == index' && same body body'
  | concat parts, concat parts' => sameParts parts parts'
  | alternation branches, alternation branches' => sameParts branches branches'
  | _, _ => false

def sameParts : List Expr → List Expr → Bool
  | [], [] => true
  | part :: parts, part' :: parts' => same part part' && sameParts parts parts'
  | _, _ => false

end

mutual

/-- The least length of a match. Nothing is known of an expression that can fail everywhere. -/
def leastLength? : Expr → Option Nat
  | fail => none
  | empty => some 0
  | text symbols => some symbols.length
  | set _ _ => some 1
  | look _ => some 0
  | repetition least _ _ body => body.leastLength?.map (· * least)
  | capture _ body => body.leastLength?
  | concat parts => leastSum? parts
  | alternation branches => leastMin? branches

def leastSum? : List Expr → Option Nat
  | [] => some 0
  | part :: parts => do
      let length ← part.leastLength?
      let lengths ← leastSum? parts
      return length + lengths

def leastMin? : List Expr → Option Nat
  | [] => none
  | [branch] => branch.leastLength?
  | branch :: branches => do
      let length ← branch.leastLength?
      let lengths ← leastMin? branches
      return min length lengths

end

mutual

/-- Whether all matches are empty. -/
def isEmptyOnly : Expr → Bool
  | fail => false
  | empty => true
  | text symbols => symbols.isEmpty
  | set _ _ => false
  | look _ => true
  | repetition _ greatest _ body => greatest.isSome && body.isEmptyOnly
  | capture _ body => body.isEmptyOnly
  | concat parts => allEmptyOnly parts
  | alternation branches => allEmptyOnly branches

def allEmptyOnly : List Expr → Bool
  | [] => true
  | part :: parts => part.isEmptyOnly && allEmptyOnly parts

end

/-- Whether a match always takes up some text. -/
def consumes (expr : Expr) : Bool :=
  match expr.leastLength? with
  | some length => decide (0 < length)
  | none => false

mutual

/-- Whether every match starts where a text starts, as far as the form of the expression shows. -/
def startsText : Expr → Bool
  | look condition => decide (condition = .textStart)
  | repetition least _ _ body => decide (0 < least) && body.startsText
  | capture _ body => body.startsText
  | concat parts => leadsText parts
  | alternation branches => allStartText branches
  | _ => false

def leadsText : List Expr → Bool
  | [] => false
  | part :: further => part.startsText || (part.isEmptyOnly && leadsText further)

def allStartText : List Expr → Bool
  | [] => true
  | branch :: further => branch.startsText && allStartText further

end

mutual

/-- Whether every match ends where a text ends, as far as the form of the expression shows. -/
def endsText : Expr → Bool
  | look condition => decide (condition = .textEnd)
  | repetition least _ _ body => decide (0 < least) && body.endsText
  | capture _ body => body.endsText
  | concat parts => trailsText parts
  | alternation branches => allEndText branches
  | _ => false

/-- Whether the text ends behind one of some parts, and none after it takes up text. -/
def trailsText : List Expr → Bool
  | [] => false
  | part :: further => trailsText further || (part.endsText && allEmptyOnly further)

def allEndText : List Expr → Bool
  | [] => true
  | branch :: further => branch.endsText && allEndText further

end

def ofSet (alphabet : Alphabet) (members : CharSet) : Expr :=
  match members.ranges with
  | [] => fail
  | [range] =>
      if range.first = range.last then text [range.first] else set alphabet members
  | _ => set alphabet members

/-- Repeats an expression. What matches only the empty text is matched once at most. -/
def ofRepetition (least : Nat) (greatest : Option Nat) (greedy : Bool) (body : Expr) : Expr :=
  let (low, high) :=
    if body.isEmptyOnly then (min least 1, some (min (greatest.getD 1) 1)) else (least, greatest)
  if low = 0 ∧ high = some 0 then empty
  else if low = 1 ∧ high = some 1 then body
  else repetition low high greedy body

/-- Puts a part before merged parts: an empty one is dropped, and texts are joined. -/
def join : Expr → List Expr → List Expr
  | empty, parts => parts
  | text symbols, text further :: parts => text (symbols ++ further) :: parts
  | part, parts => part :: parts

def parts : Expr → List Expr
  | concat found => found
  | other => [other]

def branches : Expr → List Expr
  | alternation found => found
  | other => [other]

def ofConcat (found : List Expr) : Expr :=
  match (found.flatMap parts).foldr join [] with
  | [] => empty
  | [part] => part
  | merged => concat merged

/-- The symbol of a text of one. -/
def symbol? : Expr → Option Nat
  | text [symbol] => some symbol
  | _ => none

def set? : Expr → Option (Alphabet × CharSet)
  | fail => some (.bytes, .empty)
  | set alphabet members => some (alphabet, members)
  | _ => none

/-- The set of single symbols: of characters, unless one is a byte that is none. -/
def ofSymbols (target : Alphabet) (symbols : List Nat) : Expr :=
  let areCharacters := target == .characters || symbols.all fun symbol => decide (symbol < 0x80)
  ofSet (if areCharacters then .characters else .bytes) (.ofCodes symbols)

/-- The union of sets, in an alphabet that has the members of all of them. -/
def ofSets? (sets : List (Alphabet × CharSet)) : Option Expr :=
  let fits (alphabet : Alphabet) : Bool :=
    sets.all fun (found, members) => found == alphabet || members.isAscii
  let members := sets.foldl (fun collected entry => collected.union entry.2) CharSet.empty
  if fits .characters then some (ofSet .characters members)
  else if fits .bytes then some (ofSet .bytes members)
  else none

/-- The set that branches make when each is a single symbol, or each is a set. -/
def setOfBranches? (target : Alphabet) (found : List Expr) : Option Expr :=
  match found.mapM symbol? with
  | some symbols => some (ofSymbols target symbols)
  | none => (found.mapM set?).bind ofSets?

/-- The parts that two lists start with alike. -/
def commonParts : List Expr → List Expr → List Expr
  | left :: lefts, right :: rights =>
      if left.same right then left :: commonParts lefts rights else []
  | _, _ => []

def concatParts? : Expr → Option (List Expr)
  | concat found => some found
  | _ => none

/-- What all branches start with, when each is a concatenation. -/
def commonPrefix : List (List Expr) → List Expr
  | [] => []
  | first :: further => further.foldl commonParts first

/-- Joins branches; the bound is on how often a common start is factored out. -/
def alternationWithin (target : Alphabet) : Nat → List Expr → Expr
  | 0, found => alternation found
  | bound + 1, found =>
      let flat := found.flatMap branches
      match flat with
      | [] => fail
      | [branch] => branch
      | _ =>
        match setOfBranches? target flat with
        | some expr => expr
        | none =>
          match flat.mapM concatParts? with
          | none => alternation flat
          | some lists =>
              match commonPrefix lists with
              | [] => alternation flat
              | common =>
                  let rests := lists.map fun list => ofConcat (list.drop common.length)
                  ofConcat (common ++ [alternationWithin target bound rests])

mutual

/-- The number of parts of an expression, counted at every depth. -/
def weight : Expr → Nat
  | repetition _ _ _ body => body.weight + 1
  | capture _ body => body.weight + 1
  | concat found => weights found + 1
  | alternation found => weights found + 1
  | _ => 1

def weights : List Expr → Nat
  | [] => 0
  | part :: further => part.weight + weights further

end

/-- Joins branches of an expression that is matched with the symbols of an alphabet. -/
def ofAlternation (target : Alphabet) (found : List Expr) : Expr :=
  alternationWithin target (weights found + 1) found

end Expr

end LiteralAudit.Regex
