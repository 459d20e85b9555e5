import LiteralAudit.Audit.Visit
import LiteralAudit.Command.Arguments
import LiteralAudit.Proofs.Policy.Preparation
import Mathlib.Data.List.Basic

/-!
# Configurations that ask for less

Settings are narrower than others when they leave out at least the same files, accept at least the
same empty literals, and ask for no other types. More patterns of types to skip, of types whose
empty literals are in order and of files to leave out make narrower settings; so do switches that
accept more. More patterns of types to check make wider settings, as long as there were some before.
-/

namespace LiteralAudit

/-! ## Readings that succeed -/

theorem mapM_append_eq_ok
    {alpha beta error : Type} {read : alpha → Except error beta} {items added : List alpha}
    {found all : List beta}
    (first : items.mapM read = .ok found) (whole : (items ++ added).mapM read = .ok all) :
    ∃ further, all = found ++ further := by
  rw [List.mapM_append, first] at whole
  obtain ⟨start, same, rest⟩ := bind_eq_ok whole
  obtain ⟨further, -, joined⟩ := bind_eq_ok rest
  obtain rfl : found = start := Except.ok.inj same
  exact ⟨further, (Except.ok.inj joined).symm⟩

theorem mapM_append_eq_some
    {alpha beta : Type} {read : alpha → Option beta} {items added : List alpha}
    {found all : List beta}
    (first : items.mapM read = some found) (whole : (items ++ added).mapM read = some all) :
    ∃ further, all = found ++ further := by
  rw [List.mapM_append, first] at whole
  obtain ⟨start, same, rest⟩ := Option.bind_eq_some_iff.mp whole
  obtain ⟨further, -, joined⟩ := Option.bind_eq_some_iff.mp rest
  obtain rfl : found = start := Option.some.inj same
  exact ⟨further, (Option.some.inj joined).symm⟩

/-! ## More patterns -/

namespace PatternList

theorem isEmpty_eq_false_of_ofTexts
    {texts : List String} {list : PatternList} (some : texts ≠ [])
    (read : ofTexts texts = .ok list) :
    list.isEmpty = false := by
  cases texts with
  | nil => exact absurd rfl some
  | cons first further =>
      have compiled := mapM_compile_of_ofTexts read
      rw [List.mapM_cons] at compiled
      obtain ⟨pattern, -, rest⟩ := bind_eq_ok compiled
      obtain ⟨patterns, -, same⟩ := bind_eq_ok rest
      rw [isEmpty, ← Except.ok.inj same]
      rfl

/-- More patterns match every name that the first ones match. -/
theorem matchesWhole_of_prefix
    {texts longer : List String} {list extended : PatternList} (start : texts <+: longer)
    (read : ofTexts texts = .ok list) (readLonger : ofTexts longer = .ok extended)
    {name : String} (found : list.matchesWhole name = true) :
    extended.matchesWhole name = true := by
  obtain ⟨added, rfl⟩ := start
  obtain ⟨further, patterns⟩ :=
    mapM_append_eq_ok (mapM_compile_of_ofTexts read) (mapM_compile_of_ofTexts readLonger)
  unfold matchesWhole at *
  rw [patterns, List.any_append, found, Bool.true_or]

end PatternList

/-! ## More globs -/

namespace GlobSet

/-- What a set is made of: simple forms, and machines for the other globs. -/
theorem ofGlobs?_eq_some {globs : List Glob} {set : GlobSet} (ready : ofGlobs? globs = some set) :
    ∃ exprs,
      (globs.filter fun glob => (Glob.Form.ofTokens? glob.tokens).isNone).mapM
          (fun glob =>
            (Glob.expr? glob.tokens).map (Glob.requiredExtension? glob.tokens, ·)) =
        some exprs ∧
      set.forms = globs.filterMap (fun glob => Glob.Form.ofTokens? glob.tokens) ∧
      set.machines =
        exprs.map fun (extension, expr) => (extension, Regex.Machine.ofExpr expr) := by
  unfold ofGlobs? at ready
  dsimp only at ready
  split at ready
  · cases ready
  · next exprs found =>
      split at ready
      · cases ready
        exact ⟨exprs, found, rfl, rfl⟩
      · cases ready

/-- More globs match every path that the first ones match. -/
theorem isMatch_of_append
    {globs added : List Glob} {set extended : GlobSet}
    (ready : ofGlobs? globs = some set) (readyLonger : ofGlobs? (globs ++ added) = some extended)
    {path : String} (found : set.isMatch path = true) :
    extended.isMatch path = true := by
  obtain ⟨exprs, general, forms, machines⟩ := ofGlobs?_eq_some ready
  obtain ⟨exprs', general', forms', machines'⟩ := ofGlobs?_eq_some readyLonger
  rw [List.filter_append] at general'
  obtain ⟨further, rfl⟩ := mapM_append_eq_some general general'
  rw [List.filterMap_append, ← forms] at forms'
  rw [List.map_append, ← machines] at machines'
  rw [isMatch, Bool.or_eq_true] at found
  rw [isMatch, Bool.or_eq_true, forms', machines', List.any_append, List.any_append]
  rcases found with byForm | byMachine
  · exact Or.inl (by rw [byForm, Bool.true_or])
  · exact Or.inr (by rw [byMachine, Bool.true_or])

end GlobSet

namespace Configuration

/-- More globs match every path that the first ones match. -/
theorem isMatch_of_prefix
    {texts longer : List String} {set extended : GlobSet} (start : texts <+: longer)
    (compiled : compileGlobs texts = .ok set) (compiledLonger : compileGlobs longer = .ok extended)
    {path : String} (found : set.isMatch path = true) :
    extended.isMatch path = true := by
  obtain ⟨added, rfl⟩ := start
  obtain ⟨globs, read, ready⟩ := compileGlobs_eq_ok_iff.mp compiled
  obtain ⟨globs', read', ready'⟩ := compileGlobs_eq_ok_iff.mp compiledLonger
  obtain ⟨further, rfl⟩ := mapM_append_eq_ok read read'
  exact GlobSet.isMatch_of_append ready ready' found

end Configuration

/-! ## Narrower settings -/

namespace Settings

/-- Settings that ask for no more than others. -/
structure Narrows (narrow wide : Settings) : Prop where
  files : ∀ path, wide.isFileExcluded path = true → narrow.isFileExcluded path = true
  contexts : ∀ context, wide.allowsEmptyIn context = true → narrow.allowsEmptyIn context = true
  emptyTypes :
    ∀ name, wide.allowEmptyPatterns.matchesWhole name = true →
      narrow.allowEmptyPatterns.matchesWhole name = true
  types : ∀ name, narrow.selects name = true → wide.selects name = true
  directives : narrow.useDirectives = wide.useDirectives

theorem allowsEmptyIn_mono {wide narrow : Settings}
    (everywhere : wide.allowEmpty = true → narrow.allowEmpty = true)
    (returns : wide.allowEmptyReturns = true → narrow.allowEmptyReturns = true)
    (declarations : wide.allowEmptyDeclarations = true → narrow.allowEmptyDeclarations = true)
    {context : LiteralContext} (allowed : wide.allowsEmptyIn context = true) :
    narrow.allowsEmptyIn context = true := by
  cases context with
  | returned =>
      rw [allowsEmptyIn, Bool.or_eq_true] at allowed ⊢
      exact allowed.imp everywhere returns
  | declaration =>
      rw [allowsEmptyIn, Bool.or_eq_true] at allowed ⊢
      exact allowed.imp everywhere declarations
  | other => exact everywhere allowed

/-- Names that pass narrower patterns pass wider ones. -/
theorem selects_mono {wide narrow : Settings}
    (includes : ∀ name,
      (narrow.includes.isEmpty || narrow.includes.matchesWhole name) = true →
        (wide.includes.isEmpty || wide.includes.matchesWhole name) = true)
    (excludes : ∀ name, wide.excludes.matchesWhole name = true →
      narrow.excludes.matchesWhole name = true)
    {name : String} (selected : narrow.selects name = true) :
    wide.selects name = true := by
  rw [selects, Bool.and_eq_true, Bool.not_eq_true'] at selected ⊢
  obtain ⟨included, notExcluded⟩ := selected
  refine ⟨includes name included, ?_⟩
  by_contra excluded
  rw [Bool.not_eq_false] at excluded
  rw [excludes name excluded] at notExcluded
  cases notExcluded

end Settings

namespace Configuration

/-- A configuration that asks for no more than another one: it has all patterns of what to skip and
of what to accept, all switches of what to accept, and the same patterns of what to check. It may
also have some of the patterns of what to check, but not none of them. -/
structure Narrows (narrow wide : Configuration) : Prop where
  includes :
    narrow.includes = wide.includes ∨
      (narrow.includes ≠ [] ∧ narrow.includes <+: wide.includes)
  excludes : wide.excludes <+: narrow.excludes
  allowEmpty : wide.allowEmpty = true → narrow.allowEmpty = true
  allowEmptyIncludes : wide.allowEmptyIncludes <+: narrow.allowEmptyIncludes
  allowEmptyReturns : wide.allowEmptyReturns = true → narrow.allowEmptyReturns = true
  allowEmptyDeclarations :
    wide.allowEmptyDeclarations = true → narrow.allowEmptyDeclarations = true
  directives : narrow.directives = wide.directives
  excludedFiles : wide.excludedFiles <+: narrow.excludedFiles

/-- A type that a narrower configuration asks for is one that the wider one asks for. -/
theorem Narrows.included
    {wide narrow : Configuration} {wideSettings narrowSettings : Settings}
    (narrows : narrow.Narrows wide)
    (widePrepared : wide.PreparedAs wideSettings)
    (narrowPrepared : narrow.PreparedAs narrowSettings) {name : String}
    (included : (narrowSettings.includes.isEmpty ||
      narrowSettings.includes.matchesWhole name) = true) :
    (wideSettings.includes.isEmpty || wideSettings.includes.matchesWhole name) = true := by
  rcases narrows.includes with same | ⟨some, start⟩
  · have read := narrowPrepared.includes
    rw [same, widePrepared.includes] at read
    rwa [Except.ok.inj read]
  · -- With patterns on both sides, it takes a match to be included.
    rw [PatternList.isEmpty_eq_false_of_ofTexts some narrowPrepared.includes, Bool.false_or]
      at included
    rw [PatternList.matchesWhole_of_prefix start narrowPrepared.includes widePrepared.includes
      included, Bool.or_true]

/-- Narrower configurations are prepared as narrower settings. -/
theorem Narrows.settings
    {wide narrow : Configuration} {wideSettings narrowSettings : Settings}
    (narrows : narrow.Narrows wide)
    (widePrepared : wide.PreparedAs wideSettings)
    (narrowPrepared : narrow.PreparedAs narrowSettings) :
    narrowSettings.Narrows wideSettings where
  files := by
    intro path excluded
    exact isMatch_of_prefix narrows.excludedFiles widePrepared.excludedFiles
      narrowPrepared.excludedFiles excluded
  contexts := by
    intro context allowed
    refine Settings.allowsEmptyIn_mono ?_ ?_ ?_ allowed
    · rw [widePrepared.allowEmpty, narrowPrepared.allowEmpty]
      exact narrows.allowEmpty
    · rw [widePrepared.allowEmptyReturns, narrowPrepared.allowEmptyReturns]
      exact narrows.allowEmptyReturns
    · rw [widePrepared.allowEmptyDeclarations, narrowPrepared.allowEmptyDeclarations]
      exact narrows.allowEmptyDeclarations
  emptyTypes := by
    intro name found
    exact PatternList.matchesWhole_of_prefix narrows.allowEmptyIncludes
      widePrepared.allowEmptyPatterns narrowPrepared.allowEmptyPatterns found
  types := by
    intro name selected
    refine Settings.selects_mono ?_ ?_ selected
    · intro name included
      exact narrows.included widePrepared narrowPrepared included
    · intro name excluded
      exact PatternList.matchesWhole_of_prefix narrows.excludes widePrepared.excludes
        narrowPrepared.excludes excluded
  directives := by
    rw [narrowPrepared.directives, widePrepared.directives, narrows.directives]

theorem narrows_append_includes {configuration : Configuration}
    (some : configuration.includes ≠ []) (added : List String) :
    configuration.Narrows { configuration with includes := configuration.includes ++ added } where
  includes := Or.inr ⟨some, List.prefix_append _ _⟩
  excludes := List.prefix_refl _
  allowEmpty := id
  allowEmptyIncludes := List.prefix_refl _
  allowEmptyReturns := id
  allowEmptyDeclarations := id
  directives := rfl
  excludedFiles := List.prefix_refl _

/-- Arguments that neither ask for types nor switch directives off make a configuration narrower. -/
theorem apply_narrows {arguments : CheckArguments} (noIncludes : arguments.includes = [])
    (directives : arguments.noDirectives = false) (configuration : Configuration) :
    (arguments.apply configuration).Narrows configuration where
  includes := Or.inl (by rw [CheckArguments.apply, noIncludes, List.append_nil])
  excludes := List.prefix_append _ _
  allowEmpty := by
    intro allowed
    rw [CheckArguments.apply, allowed, Bool.true_or]
  allowEmptyIncludes := List.prefix_append _ _
  allowEmptyReturns := by
    intro allowed
    rw [CheckArguments.apply, allowed, Bool.true_or]
  allowEmptyDeclarations := by
    intro allowed
    rw [CheckArguments.apply, allowed, Bool.true_or]
  directives := by rw [CheckArguments.apply, directives, Bool.not_false, Bool.and_true]
  excludedFiles := List.prefix_refl _

end Configuration

end LiteralAudit
