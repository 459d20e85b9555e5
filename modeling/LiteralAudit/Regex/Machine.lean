import LiteralAudit.Regex.Expr
import LiteralAudit.Unicode.CharProperty

/-!
# Matching regular expressions

An expression becomes a list of instructions, which refer to each other by their index. A match
follows the instructions from the start of a text, all alternatives at once and ordered by
preference. An instruction that was reached at a place counts only where it was reached first, so
that loops over empty matches end.
-/

namespace LiteralAudit.Regex

inductive Instruction where
  /-- Goes on behind a symbol of the set. -/
  | read (members : CharSet) (next : Nat)
  /-- Goes on at the same place where the condition holds. -/
  | test (condition : Look) (next : Nat)
  /-- Goes on at the same place, with the preferred target first. -/
  | split (targets : List Nat)
  | accept
  deriving Repr

structure Machine where
  instructions : Array Instruction
  start : Nat

namespace Machine

/-- Adds an instruction, and gives its index. -/
def add (instructions : Array Instruction) (instruction : Instruction) :
    Nat × Array Instruction :=
  (instructions.size, instructions.push instruction)

/-- The targets of a choice between a body and what follows it. -/
def choice (greedy : Bool) (body next : Nat) : Instruction :=
  .split (if greedy then [body, next] else [next, body])

/-- Adds instructions for a text, the last symbol first. -/
def addText (next : Nat) (instructions : Array Instruction) (symbols : List Nat) :
    Nat × Array Instruction :=
  symbols.reverse.foldl
    (fun (rest, grown) symbol => add grown (.read (.singleton symbol) rest)) (next, instructions)

/-- Adds the instructions of a part so many times, one after the other, from the last one on. -/
def addCopies (part : Nat → Array Instruction → Nat × Array Instruction) :
    Nat → Nat → Array Instruction → Nat × Array Instruction
  | 0, next, instructions => (next, instructions)
  | count + 1, next, instructions =>
      let (first, grown) := part next instructions
      addCopies part count first grown

/-- Adds the instructions of a part that may be left out, up to so many times, each time behind the
one before it. `next` follows the last one, and each may be left for `exit`. -/
def addOptional (part : Nat → Array Instruction → Nat × Array Instruction) (greedy : Bool)
    (exit : Nat) : Nat → Nat → Array Instruction → Nat × Array Instruction
  | 0, next, instructions => (next, instructions)
  | count + 1, next, instructions =>
      let (body, grown) := part next instructions
      let (first, further) := add grown (choice greedy body exit)
      addOptional part greedy exit count first further

/-- Adds a part that is repeated once or more. -/
def addLoop (part : Nat → Array Instruction → Nat × Array Instruction) (greedy : Bool)
    (next : Nat) (instructions : Array Instruction) : Nat × Nat × Array Instruction :=
  let (again, reserved) := add instructions .accept
  let (body, grown) := part again reserved
  (body, again, grown.setIfInBounds again (choice greedy body next))

/-- Adds a part that is repeated from `least` times on. -/
def addUnbounded (part : Nat → Array Instruction → Nat × Array Instruction) (greedy consumes : Bool)
    (least next : Nat) (instructions : Array Instruction) : Nat × Array Instruction :=
  let (body, again, grown) := addLoop part greedy next instructions
  match least with
  | 0 => if consumes then (again, grown) else add grown (choice greedy body next)
  | count + 1 => addCopies part count body grown

def addRepetition (part : Nat → Array Instruction → Nat × Array Instruction) (least : Nat)
    (greatest : Option Nat) (greedy consumes : Bool) (next : Nat)
    (instructions : Array Instruction) : Nat × Array Instruction :=
  match greatest with
  | none => addUnbounded part greedy consumes least next instructions
  | some bound =>
      let (rest, grown) := addOptional part greedy next (bound - least) next instructions
      addCopies part least rest grown

mutual

/-- Adds the instructions of an expression that goes on with `next`, and gives the first of
them. -/
def addExpr (next : Nat) (instructions : Array Instruction) : Expr → Nat × Array Instruction
  | .fail => add instructions (.split [])
  | .empty => (next, instructions)
  | .text symbols => addText next instructions symbols
  | .set _ members => add instructions (.read members next)
  | .look condition => add instructions (.test condition next)
  | .repetition least greatest greedy body =>
      addRepetition (fun rest grown => addExpr rest grown body) least greatest greedy
        body.consumes next instructions
  | .capture _ body => addExpr next instructions body
  | .concat parts => addParts next instructions parts
  | .alternation branches =>
      let (targets, grown) := addBranches next instructions branches
      add grown (.split targets)

def addParts (next : Nat) (instructions : Array Instruction) :
    List Expr → Nat × Array Instruction
  | [] => (next, instructions)
  | part :: further =>
      let (rest, grown) := addParts next instructions further
      addExpr rest grown part

def addBranches (next : Nat) (instructions : Array Instruction) :
    List Expr → List Nat × Array Instruction
  | [] => ([], instructions)
  | branch :: further =>
      let (first, grown) := addExpr next instructions branch
      let (targets, finished) := addBranches next grown further
      (first :: targets, finished)

end

def ofExpr (expr : Expr) : Machine :=
  let (accepting, instructions) := add #[] .accept
  let (start, finished) := addExpr accepting instructions expr
  ⟨finished, start⟩

/-! ## Conditions on places -/

def lineFeed : Nat := 0x0A

def carriageReturn : Nat := 0x0D

def wordSymbols (unicode : Bool) : CharSet :=
  if unicode then CharProperty.word
  else .ofRanges [⟨0x30, 0x39⟩, ⟨0x41, 0x5A⟩, ⟨0x5F, 0x5F⟩, ⟨0x61, 0x7A⟩]

def isWordSymbol (unicode : Bool) (symbol : Option Nat) : Bool :=
  match symbol with
  | none => false
  | some code => (wordSymbols unicode).contains code

def wordHolds (condition : WordCondition) (before after : Bool) : Bool :=
  match condition with
  | .boundary => before != after
  | .notBoundary => before == after
  | .start => !before && after
  | .finish => before && !after
  | .startHalf => !before
  | .finishHalf => !after

def holds (condition : Look) (before after : Option Nat) : Bool :=
  match condition with
  | .textStart => before.isNone
  | .textEnd => after.isNone
  | .lineStart false => before.isNone || before == some lineFeed
  | .lineStart true =>
      before.isNone || before == some lineFeed ||
        (before == some carriageReturn && after != some lineFeed)
  | .lineEnd false => after.isNone || after == some lineFeed
  | .lineEnd true =>
      after.isNone || after == some carriageReturn ||
        (after == some lineFeed && before != some carriageReturn)
  | .word word unicode => wordHolds word (isWordSymbol unicode before) (isWordSymbol unicode after)

/-! ## Following the instructions -/

/-- The instructions reached at a place: which ones were reached, and those that read a symbol or
accept, the least preferred first. -/
structure Reached where
  marks : Array Bool
  waiting : List Nat

/-- The targets to follow from an instruction at a place, if it does not wait there. -/
def targets? (instruction : Instruction) (before after : Option Nat) : Option (List Nat) :=
  match instruction with
  | .split targets => some targets
  | .test condition next => some (if holds condition before after then [next] else [])
  | .read _ _ => none
  | .accept => none

/-- Follows instructions that are still to be reached, the preferred ones first. -/
def follow (machine : Machine) (before after : Option Nat) :
    Nat → List Nat → Reached → Reached
  | 0, _, reached => reached
  | _ + 1, [], reached => reached
  | bound + 1, index :: pending, reached =>
      if reached.marks.getD index true then follow machine before after bound pending reached
      else
        let marks := reached.marks.setIfInBounds index true
        match machine.instructions[index]? with
        | none => follow machine before after bound pending ⟨marks, reached.waiting⟩
        | some instruction =>
            match targets? instruction before after with
            | some targets =>
                follow machine before after bound (targets ++ pending) ⟨marks, reached.waiting⟩
            | none => follow machine before after bound pending ⟨marks, index :: reached.waiting⟩

/-- A bound on the steps of following instructions at one place. -/
def stepBound (machine : Machine) : Nat :=
  machine.instructions.foldl (fun sum instruction => sum + 1 + targetCount instruction) 1
where
  targetCount : Instruction → Nat
    | .split targets => targets.length
    | _ => 1

/-- The instructions that wait at a place, preferred ones first. -/
def reach (machine : Machine) (bound : Nat) (before after : Option Nat) (starts : List Nat) :
    List Nat :=
  let unmarked := Array.replicate machine.instructions.size false
  (machine.follow before after (bound + starts.length) starts ⟨unmarked, []⟩).waiting.reverse

def accepts (machine : Machine) (index : Nat) : Bool :=
  match machine.instructions[index]? with
  | some .accept => true
  | _ => false

/-- Where an instruction goes on behind a symbol. -/
def behind? (machine : Machine) (symbol index : Nat) : Option Nat :=
  match machine.instructions[index]? with
  | some (.read members next) => if members.contains symbol then some next else none
  | _ => none

/-- Whether the preferred match takes up the whole text, where `starts` are the instructions to
follow at this place. Only what is preferred to a match that ends here goes on. -/
def spans (machine : Machine) (bound : Nat) (before : Option Nat) (starts : List Nat) :
    List Nat → Bool
  | [] => (machine.reach bound before none starts).any machine.accepts
  | symbol :: further =>
      let waiting := machine.reach bound before (some symbol) starts
      let preferred := waiting.takeWhile (!machine.accepts ·)
      match preferred.filterMap (machine.behind? symbol) with
      | [] => false
      | next => spans machine bound (some symbol) next further

/-- Whether the preferred match that starts where a text starts takes up the whole text. -/
def matchesWhole (machine : Machine) (text : List Nat) : Bool :=
  machine.spans machine.stepBound none [machine.start] text

end Machine

end LiteralAudit.Regex
