import LiteralAudit.Audit.Diagnostic
import LiteralAudit.Literal.Exemption
import LiteralAudit.Literal.Gap
import LiteralAudit.Literal.Resolution
import LiteralAudit.Policy.Configuration

/-!
# Visits

A visit is one literal with all that its file tells about it. The parts of a decision that ask for
no more than the visit, the settings and the struct type stand here.
-/

namespace LiteralAudit

structure Visit where
  /-- The path of the package that the literal stands in. -/
  packagePath : String
  file : String
  site : LiteralSite
  comments : CommentIndex
  deriving Repr

namespace Visit

def shape (visit : Visit) : LiteralShape :=
  .ofElements visit.site.elements

def start (visit : Visit) : Position :=
  visit.site.span.start

/-- The directive that counts for the literal: one given for it, or else that of its type. -/
def directive (visit : Visit) (settings : Settings) (info : StructInfo) : Directive :=
  if settings.useDirectives then
    (resolveDirective visit.site visit.comments).orElse fun _ => info.directive
  else .unspecified

/-- The required fields that the literal does not set. -/
def gap (visit : Visit) (info : StructInfo) : StructFields :=
  skippedFields visit.shape info.fields (visit.packagePath != info.name.packagePath)

def gapMessage (name : TypeName) (gap : StructFields) : String :=
  name.shortName ++ " is missing " ++ (if gap.length = 1 then "field " else "fields ") ++
    StructFields.text gap

def diagnose (visit : Visit) (info : StructInfo) : Option Diagnostic :=
  match visit.gap info with
  | [] => none
  | field :: further => some {
      file := visit.file, line := visit.start.line, column := visit.start.column,
      message := gapMessage info.name (field :: further) }

end Visit

namespace Settings

/-- Whether empty literals are in order wherever a literal of this context stands. -/
def allowsEmptyIn (settings : Settings) : LiteralContext → Bool
  | .returned => settings.allowEmpty || settings.allowEmptyReturns
  | .declaration => settings.allowEmpty || settings.allowEmptyDeclarations
  | .other => settings.allowEmpty

end Settings

end LiteralAudit
