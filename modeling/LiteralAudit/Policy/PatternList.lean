import LiteralAudit.Regex.Pattern
import LiteralAudit.Text.Quoted

/-!
# Lists of patterns

Names are matched against lists of patterns. A name matches a list when it matches one of its
patterns as a whole.
-/

namespace LiteralAudit

inductive PatternError where
  | empty
  | invalid (pattern : String)
  deriving DecidableEq, Repr

namespace PatternError

/-- Text of the error. What is wrong inside a pattern is not told apart. -/
def message : PatternError → String
  | empty => "pattern can't be empty"
  | invalid pattern => "pattern compilation failed for " ++ Quoted.text pattern ++ ": <regex>"

end PatternError

structure PatternList where
  patterns : List Pattern

namespace PatternList

def empty : PatternList := ⟨[]⟩

def size (list : PatternList) : Nat :=
  list.patterns.length

def isEmpty (list : PatternList) : Bool :=
  list.patterns.isEmpty

def compile (text : String) : Except PatternError Pattern :=
  if text.isEmpty then .error .empty
  else
    match Pattern.ofText? text with
    | none => .error (.invalid text)
    | some pattern => .ok pattern

/-- Offers a text at the end. The answer holds the list as it stands then, also where the text is
refused. -/
def offer (list : PatternList) (text : String) : Except PatternError Unit × PatternList :=
  match compile text with
  | .error cause => (.error cause, list)
  | .ok pattern => (.ok (), ⟨list.patterns ++ [pattern]⟩)

/-- The grown list or the error alone, for a loop that stops at the first error. -/
def push (list : PatternList) (text : String) : Except PatternError PatternList :=
  match list.offer text with
  | (.error cause, _) => .error cause
  | (.ok (), grown) => .ok grown

/-- Pushes texts one by one, up to the first one that is refused. -/
def ofTexts (texts : List String) : Except PatternError PatternList :=
  texts.foldlM push empty

/-- Whether a name matches one of the patterns as a whole. -/
def matchesWhole (list : PatternList) (name : String) : Bool :=
  list.patterns.any (·.matchesWhole name)

def text (list : PatternList) : String :=
  ", ".intercalate (list.patterns.map fun pattern => Quoted.text pattern.text)

end PatternList

end LiteralAudit
