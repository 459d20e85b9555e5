import LiteralAudit.Policy.Configuration

/-!
# Commands and their arguments
-/

namespace LiteralAudit

structure CheckArguments where
  /-- A dump, or a folder with dumps. -/
  path : String
  configPath : Option String
  includes : List String
  excludes : List String
  allowEmpty : Bool
  allowEmptyIncludes : List String
  allowEmptyReturns : Bool
  allowEmptyDeclarations : Bool
  noDirectives : Bool
  /-- Where relative paths of sources start from. -/
  sourceRoot : Option String
  /-- The word for the format of the report. -/
  format : String
  deriving DecidableEq, Repr

structure InitArguments where
  /-- Where the new configuration is written to. -/
  output : String
  deriving DecidableEq, Repr

inductive Command where
  | check (arguments : CheckArguments)
  | init (arguments : InitArguments)
  deriving DecidableEq, Repr

namespace CheckArguments

def apply (arguments : CheckArguments) (configuration : Configuration) : Configuration where
  includes := configuration.includes ++ arguments.includes
  excludes := configuration.excludes ++ arguments.excludes
  allowEmpty := configuration.allowEmpty || arguments.allowEmpty
  allowEmptyIncludes := configuration.allowEmptyIncludes ++ arguments.allowEmptyIncludes
  allowEmptyReturns := configuration.allowEmptyReturns || arguments.allowEmptyReturns
  allowEmptyDeclarations :=
    configuration.allowEmptyDeclarations || arguments.allowEmptyDeclarations
  directives := configuration.directives && !arguments.noDirectives
  excludedFiles := configuration.excludedFiles

end CheckArguments

end LiteralAudit
