import LiteralAudit.Glob.Expression
import LiteralAudit.Glob.Form
import LiteralAudit.Regex.Footprint.Pattern
import LiteralAudit.Regex.Machine

/-!
# Matching globs

Globs match the bytes of whole paths. Those without a simple form are matched by machines, for which
there has to be room: for each glob alone whose matches all have one extension, and for all others
together.
-/

namespace LiteralAudit

structure Glob where
  text : String
  tokens : List Glob.Token

def Glob.ofText? (text : String) : Option Glob :=
  (tokens? text).map fun tokens => ⟨text, tokens⟩

/-- Globs that are ready to be matched. -/
structure GlobSet where
  forms : List Glob.Form
  /-- Machines, each with the extension of the paths that it is asked for, if it is not asked for
  all of them. -/
  machines : List (Option (List UInt8) × Regex.Machine)

namespace GlobSet

open Regex (Expr Footprint Machine)

def empty : GlobSet := ⟨[], []⟩

def haveRoom (exprs : List (Option (List UInt8) × Expr)) : Bool :=
  let (asked, others) := exprs.partition (·.1.isSome)
  asked.all (fun entry => Footprint.haveRoom .bytes [entry.2]) &&
    Footprint.haveRoom .bytes (others.map (·.2))

/-- Makes globs ready to be matched, if there is room for all of them. -/
def ofGlobs? (globs : List Glob) : Option GlobSet :=
  let general := globs.filter fun glob => (Glob.Form.ofTokens? glob.tokens).isNone
  let found := general.mapM fun glob =>
    (Glob.expr? glob.tokens).map (Glob.requiredExtension? glob.tokens, ·)
  match found with
  | none => none
  | some exprs =>
      if haveRoom exprs then
        some {
          forms := globs.filterMap fun glob => Glob.Form.ofTokens? glob.tokens
          machines := exprs.map fun (extension, expr) => (extension, Machine.ofExpr expr) }
      else none

def isAsked (extension : Option (List UInt8)) (path : List UInt8) : Bool :=
  match extension with
  | none => true
  | some text => Glob.extension path == text

/-- Whether one of the globs matches a path. -/
def isMatch (set : GlobSet) (path : String) : Bool :=
  let bytes := Utf8.encode path
  set.forms.any (·.isMatch bytes) ||
    set.machines.any fun (extension, machine) =>
      isAsked extension bytes && machine.matchesWhole (bytes.map UInt8.toNat)

end GlobSet

end LiteralAudit
