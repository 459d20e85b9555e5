import LiteralAudit.Glob.Matching
import LiteralAudit.Policy.PatternList

/-!
# Configurations and settings

A configuration is what a user writes. It is prepared once for a run: all patterns and globs have to
be valid before any literal is looked at.
-/

namespace LiteralAudit

structure Configuration where
  /-- Patterns of the types to check; none means every type. -/
  includes : List String
  /-- Patterns of the types to skip. -/
  excludes : List String
  /-- Whether empty literals of every type are in order. -/
  allowEmpty : Bool
  /-- Patterns of the types whose empty literals are in order. -/
  allowEmptyIncludes : List String
  /-- Whether returned empty literals are in order. -/
  allowEmptyReturns : Bool
  /-- Whether empty literals in variable declarations are in order. -/
  allowEmptyDeclarations : Bool
  /-- Whether directives count. -/
  directives : Bool
  /-- Globs of the source files that are left out. -/
  excludedFiles : List String
  deriving DecidableEq, Repr

namespace Configuration

/-- The configuration of a user who writes none. -/
def standard : Configuration where
  includes := []
  excludes := []
  allowEmpty := false
  allowEmptyIncludes := []
  allowEmptyReturns := false
  allowEmptyDeclarations := false
  directives := true
  excludedFiles := []

end Configuration

inductive ConfigError where
  | includes (cause : PatternError)
  | excludes (cause : PatternError)
  | allowEmpty (cause : PatternError)
  /-- A glob that is not valid, or all of them where there is no room for them. -/
  | excludedFiles (globs : String)
  deriving DecidableEq, Repr

namespace ConfigError

def message : ConfigError → String
  | includes cause => "compile include patterns: " ++ cause.message
  | excludes cause => "compile exclude patterns: " ++ cause.message
  | allowEmpty cause => "compile allow empty patterns: " ++ cause.message
  | excludedFiles globs => "invalid excluded file glob " ++ Quoted.text globs ++ ": <glob>"

end ConfigError

/-- A configuration that was prepared for a run. -/
structure Settings where
  includes : PatternList
  excludes : PatternList
  allowEmptyPatterns : PatternList
  allowEmpty : Bool
  allowEmptyReturns : Bool
  allowEmptyDeclarations : Bool
  useDirectives : Bool
  excludedFiles : GlobSet

namespace Settings

def standard : Settings where
  includes := .empty
  excludes := .empty
  allowEmptyPatterns := .empty
  allowEmpty := false
  allowEmptyReturns := false
  allowEmptyDeclarations := false
  useDirectives := true
  excludedFiles := .empty

/-- Whether patterns restrict the types that are checked. -/
def filtersTypes (settings : Settings) : Bool :=
  !settings.includes.isEmpty || !settings.excludes.isEmpty

/-- Whether the patterns ask for the type of a name. -/
def selects (settings : Settings) (name : String) : Bool :=
  (settings.includes.isEmpty || settings.includes.matchesWhole name) &&
    !settings.excludes.matchesWhole name

def isFileExcluded (settings : Settings) (path : String) : Bool :=
  settings.excludedFiles.isMatch path

end Settings

namespace Configuration

def readGlob (text : String) : Except ConfigError Glob :=
  match Glob.ofText? text with
  | none => .error (.excludedFiles text)
  | some glob => .ok glob

def compileGlobs (texts : List String) : Except ConfigError GlobSet := do
  let globs ← texts.mapM readGlob
  match GlobSet.ofGlobs? globs with
  | none => .error (.excludedFiles (", ".intercalate texts))
  | some set => return set

def prepare (configuration : Configuration) : Except ConfigError Settings := do
  let includes ← (PatternList.ofTexts configuration.includes).mapError .includes
  let excludes ← (PatternList.ofTexts configuration.excludes).mapError .excludes
  let allowEmptyPatterns ←
    (PatternList.ofTexts configuration.allowEmptyIncludes).mapError .allowEmpty
  let excludedFiles ← compileGlobs configuration.excludedFiles
  return {
    includes, excludes, allowEmptyPatterns, excludedFiles,
    allowEmpty := configuration.allowEmpty,
    allowEmptyReturns := configuration.allowEmptyReturns,
    allowEmptyDeclarations := configuration.allowEmptyDeclarations,
    useDirectives := configuration.directives }

end Configuration

end LiteralAudit
