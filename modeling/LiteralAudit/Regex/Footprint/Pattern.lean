import LiteralAudit.Regex.Expr
import LiteralAudit.Regex.Footprint.Class
import LiteralAudit.Regex.Footprint.Text

/-!
# The footprint of patterns

The footprints of the parts of a pattern are added up in the order in which they are laid out. A
part is given by what it makes of the footprint before it, and whether it ends in a choice: what
goes on behind such a part is one more target of its choice.
-/

namespace LiteralAudit.Regex.Footprint

/-! ## Parts of patterns -/

def goOn (part : Footprint × Bool) : Footprint :=
  if part.2 then part.1.addTargets 1 else part.1

/-- Adds so many copies of a part, until the limit is passed. -/
def addCopies (add : Footprint → Footprint × Bool) :
    Nat → Footprint × Bool → Footprint × Bool
  | 0, found => found
  | count + 1, found =>
      if found.1.fits then addCopies add count (add (goOn found)) else found

/-- Adds a part that is repeated so many times. -/
def addExactly (add : Footprint → Footprint × Bool) (count : Nat) (footprint : Footprint) :
    Footprint × Bool :=
  match count with
  | 0 => (footprint.addStates 1, false)
  | further + 1 => addCopies add further (add footprint)

def addOptional (add : Footprint → Footprint × Bool) (footprint : Footprint) :
    Footprint × Bool :=
  (((goOn (add (footprint.addStates 1))).addStates 1).addTargets 2, false)

/-- Adds a part that is repeated from `least` times on. Where it may be empty, the loop can be left
out beside being left. -/
def addUnbounded (add : Footprint → Footprint × Bool) (consumes : Bool) (least : Nat)
    (footprint : Footprint) : Footprint × Bool :=
  match least with
  | 0 =>
      if consumes then ((goOn (add (footprint.addStates 1))).addTargets 1, true)
      else (((goOn (add footprint)).addStates 3).addTargets 4, false)
  | _ + 1 => (((goOn (addExactly add least footprint)).addStates 1).addTargets 1, true)

/-- Adds a part that is repeated within bounds: a choice before each copy that may be left out. -/
def addBounded (add : Footprint → Footprint × Bool) (least greatest : Nat)
    (footprint : Footprint) : Footprint × Bool :=
  if least = greatest then addExactly add least footprint
  else if least = 0 ∧ greatest = 1 then addOptional add footprint
  else
    let (sure, endsInChoice) := addExactly add least footprint
    let chosen (before : Footprint) : Footprint × Bool :=
      let (grown, endsInChoice) := add (before.addStates 1)
      (grown.addTargets 2, endsInChoice)
    (goOn (addCopies chosen (greatest - least) (sure.addStates 1, endsInChoice)), false)

/-- Adds what holds the branches of a choice together, behind the second of them. -/
def addBranch (index : Nat) (branch : Footprint × Bool) : Footprint :=
  let grown := (goOn branch).addTargets 1
  if index = 1 then grown.addStates 2 else grown

def text? : Expr → Option (List Nat)
  | .text symbols => some symbols
  | _ => none

mutual

/-- Adds an expression. A machine that reads backward notes no captures. -/
def addExpr (target : Alphabet) (direction : Direction) :
    Expr → Footprint → Footprint × Bool
  | .fail, footprint => ((footprint.addStates 1).addTable 0, false)
  | .empty, footprint => (footprint.addStates 1, false)
  | .text symbols, footprint => (footprint.addStates (bytesOf target symbols).length, false)
  | .set alphabet members, footprint => (addSet direction alphabet members footprint, false)
  | .look _, footprint => (footprint.addStates 1, false)
  | .repetition least none _ body, footprint =>
      addUnbounded (addExpr target direction body) body.consumes least footprint
  | .repetition least (some greatest) _ body, footprint =>
      addBounded (addExpr target direction body) least greatest footprint
  | .capture _ body, footprint =>
      match direction with
      | .forward =>
          ((goOn (addExpr target direction body (footprint.addStates 1))).addStates 1, false)
      | .backward => addExpr target direction body footprint
  | .concat parts, footprint => addParts target direction parts footprint
  | .alternation branches, footprint =>
      match branches.mapM text? with
      | some texts => (addTexts target direction texts footprint, false)
      | none => (addBranches target direction 0 branches footprint, false)

/-- Adds parts that follow each other, in the order in which they are read. -/
def addParts (target : Alphabet) (direction : Direction) :
    List Expr → Footprint → Footprint × Bool
  | [], footprint => (footprint.addStates 1, false)
  | [part], footprint => addExpr target direction part footprint
  | part :: further, footprint =>
      match direction with
      | .forward =>
          addParts target direction further (goOn (addExpr target direction part footprint))
      | .backward =>
          addExpr target direction part (goOn (addParts target direction further footprint))

def addBranches (target : Alphabet) (direction : Direction) (index : Nat) :
    List Expr → Footprint → Footprint
  | [], footprint => footprint
  | branch :: further, footprint =>
      addBranches target direction (index + 1) further
        (addBranch index (addExpr target direction branch footprint))

end

/-! ## Whole patterns -/

def addPattern (target : Alphabet) (direction : Direction) (expr : Expr)
    (footprint : Footprint) : Footprint :=
  match direction with
  | .forward =>
      (goOn (addExpr target direction expr (footprint.addStates 1))).addStates 2
  | .backward => (goOn (addExpr target direction expr footprint)).addStates 1

/-- Whether an expression is matched nowhere but where a reader of texts starts. -/
def isAnchored (direction : Direction) (expr : Expr) : Bool :=
  match direction with
  | .forward => expr.startsText
  | .backward => expr.endsText

/-- What lets a match start at any place: a loop over any byte, unless no pattern asks for it. -/
def beforePatterns (direction : Direction) (exprs : List Expr) : Footprint :=
  if exprs.all (isAnchored direction) then empty.addStates 1
  else ((empty.addStates 2).addTable 1).addTargets 2

/-- What a machine for several patterns takes up, one of which is to match. -/
def ofPatterns (target : Alphabet) (direction : Direction) (exprs : List Expr) : Footprint :=
  let start := beforePatterns direction exprs
  match exprs with
  | [expr] => addPattern target direction expr start
  | _ =>
      (exprs.zipIdx.foldl
        (fun footprint (expr, index) =>
          addBranch index (addPattern target direction expr footprint, false)) start)

/-- How many texts are looked up without a machine. -/
def manyTexts : Nat := 3000

/-- Whether an expression is a choice between so many texts that they are looked up without a
machine. -/
def isTextTable : Expr → Bool
  | .alternation branches =>
      decide (manyTexts ≤ branches.length) && branches.all fun branch => (text? branch).isSome
  | _ => false

/-- Whether there is room for machines that match one of some patterns in texts of an alphabet. -/
def haveRoom (target : Alphabet) (exprs : List Expr) : Bool :=
  (match exprs with
    | [expr] => isTextTable expr
    | _ => false) ||
    ((ofPatterns target .forward exprs).fits && (ofPatterns target .backward exprs).fits)

end LiteralAudit.Regex.Footprint
