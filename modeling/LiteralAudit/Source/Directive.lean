import LiteralAudit.Text.Blank

/-!
# Directives

A line comment can override the configuration for one literal, or for all literals of a type: the
marker, the name of the directive and, after a blank, any reason.
-/

namespace LiteralAudit

inductive Directive where
  | unspecified
  /-- Check the literal even if patterns exclude its type. -/
  | enforce
  /-- Skip the literal. -/
  | ignore
  deriving DecidableEq, Repr, Inhabited

namespace Directive

def isSpecified (directive : Directive) : Bool :=
  directive != unspecified

def text : Directive → String
  | unspecified => "unspecified"
  | enforce => "enforce"
  | ignore => "ignore"

/-- The characters before the name of a directive. -/
def marker : List Char := "//exhaustruct:".toList

def written : List Directive := [ignore, enforce]

/-- What may stand after the name of a directive: nothing, or a blank and any text. -/
def endsName : List Char → Bool
  | [] => true
  | next :: _ => Text.isBlank next

/-- The directive whose name starts a text. -/
def named? (rest : List Char) : Option Directive :=
  written.find? fun directive =>
    match directive.text.toList.isPrefixOf? rest with
    | some after => endsName after
    | none => false

def parse? (comment : String) : Option Directive :=
  (marker.isPrefixOf? comment.toList).bind named?

def orElse (first : Directive) (second : Unit → Directive) : Directive :=
  if first.isSpecified then first else second ()

end Directive

end LiteralAudit
