import LiteralAudit.Policy.Configuration
import LiteralAudit.Proofs.Success

/-!
# Configurations that can be prepared

A configuration is prepared if all its patterns and all its globs are valid and there is room for
the globs, and only then.
-/

namespace LiteralAudit

namespace PatternList

theorem push_eq (list : PatternList) (text : String) :
    list.push text = (compile text).map fun pattern => ⟨list.patterns ++ [pattern]⟩ := by
  rw [push, offer]
  cases compile text with
  | error cause => rfl
  | ok pattern => rfl

/-- Pushing texts one by one compiles them in their order. -/
theorem foldlM_push_eq (texts : List String) (list : PatternList) :
    texts.foldlM push list =
      (texts.mapM compile).map fun patterns => ⟨list.patterns ++ patterns⟩ := by
  induction texts generalizing list with
  | nil =>
      have same : list = ⟨list.patterns ++ []⟩ := by rw [List.append_nil]
      exact congrArg Except.ok same
  | cons text further inductionHypothesis =>
      rw [List.foldlM_cons, List.mapM_cons, push_eq]
      cases compile text with
      | error cause => rfl
      | ok pattern =>
          refine (inductionHypothesis _).trans ?_
          simp only [List.append_assoc]
          cases further.mapM compile with
          | error cause => rfl
          | ok patterns => rfl

/-- Whether texts are pushed one by one or compiled together is all the same. -/
theorem ofTexts_eq (texts : List String) :
    ofTexts texts = (texts.mapM compile).map PatternList.mk :=
  foldlM_push_eq texts empty

theorem mapM_compile_of_ofTexts {texts : List String} {list : PatternList}
    (read : ofTexts texts = .ok list) :
    texts.mapM compile = .ok list.patterns := by
  rw [ofTexts_eq] at read
  obtain ⟨patterns, compiled, rfl⟩ := map_eq_ok read
  exact compiled

def IsPattern (text : String) : Prop :=
  text ≠ "" ∧ (Pattern.ofText? text).isSome

theorem compile_succeeds_iff {text : String} :
    (∃ pattern, compile text = .ok pattern) ↔ IsPattern text := by
  rw [compile, IsPattern, ne_eq, ← String.isEmpty_iff]
  by_cases blank : text.isEmpty = true
  · simp [blank]
  · cases Pattern.ofText? text with
    | none => simp [blank]
    | some pattern => simp [blank]

/-- A list can be made of texts that are all valid. -/
theorem ofTexts_succeeds_iff {texts : List String} :
    (∃ list, ofTexts texts = .ok list) ↔ ∀ text ∈ texts, IsPattern text := by
  rw [ofTexts_eq, map_succeeds_iff, mapM_succeeds_iff]
  simp only [compile_succeeds_iff]

end PatternList

namespace Configuration

variable {configuration : Configuration} {texts : List String}

/-- All texts can be read as globs, and there is room for these. -/
def AreGlobs (texts : List String) : Prop :=
  ∃ globs, List.Forall₂ (fun text glob => Glob.ofText? text = some glob) texts globs ∧
    (GlobSet.ofGlobs? globs).isSome

theorem readGlob_eq_ok_iff {text : String} {glob : Glob} :
    readGlob text = .ok glob ↔ Glob.ofText? text = some glob := by
  rw [readGlob]
  cases Glob.ofText? text with
  | none => simp
  | some found => simp

theorem compileGlobs_eq_ok_iff {set : GlobSet} :
    compileGlobs texts = .ok set ↔
      ∃ globs, texts.mapM readGlob = .ok globs ∧ GlobSet.ofGlobs? globs = some set := by
  rw [compileGlobs]
  cases texts.mapM readGlob with
  | error cause => exact ⟨nofun, nofun⟩
  | ok globs =>
      cases ready : GlobSet.ofGlobs? globs with
      | none => simp [bind, Except.bind, ready]
      | some found => simp [bind, Except.bind, pure, Except.pure, ready]

theorem compileGlobs_succeeds_iff :
    (∃ set, compileGlobs texts = .ok set) ↔ AreGlobs texts := by
  simp only [compileGlobs_eq_ok_iff, mapM_eq_ok_iff, readGlob_eq_ok_iff, AreGlobs,
    Option.isSome_iff_exists]
  constructor
  · rintro ⟨set, globs, read, ready⟩
    exact ⟨globs, read, set, ready⟩
  · rintro ⟨globs, read, set, ready⟩
    exact ⟨set, globs, read, ready⟩

/-- What a prepared configuration holds. -/
structure PreparedAs (configuration : Configuration) (settings : Settings) : Prop where
  includes : PatternList.ofTexts configuration.includes = .ok settings.includes
  excludes : PatternList.ofTexts configuration.excludes = .ok settings.excludes
  allowEmptyPatterns :
    PatternList.ofTexts configuration.allowEmptyIncludes = .ok settings.allowEmptyPatterns
  excludedFiles : compileGlobs configuration.excludedFiles = .ok settings.excludedFiles
  allowEmpty : settings.allowEmpty = configuration.allowEmpty
  allowEmptyReturns : settings.allowEmptyReturns = configuration.allowEmptyReturns
  allowEmptyDeclarations :
    settings.allowEmptyDeclarations = configuration.allowEmptyDeclarations
  directives : settings.useDirectives = configuration.directives

theorem preparedAs_of_prepare {settings : Settings}
    (prepared : configuration.prepare = .ok settings) :
    configuration.PreparedAs settings := by
  obtain ⟨includes, readIncludes, prepared⟩ := bind_eq_ok prepared
  obtain ⟨excludes, readExcludes, prepared⟩ := bind_eq_ok prepared
  obtain ⟨allowEmptyPatterns, readPatterns, prepared⟩ := bind_eq_ok prepared
  obtain ⟨excludedFiles, compiled, prepared⟩ := bind_eq_ok prepared
  cases prepared
  exact {
    includes := mapError_eq_ok readIncludes
    excludes := mapError_eq_ok readExcludes
    allowEmptyPatterns := mapError_eq_ok readPatterns
    excludedFiles := compiled
    allowEmpty := rfl
    allowEmptyReturns := rfl
    allowEmptyDeclarations := rfl
    directives := rfl }

theorem PreparedAs.prepare_eq {settings : Settings} (prepared : configuration.PreparedAs settings) :
    configuration.prepare = .ok settings := by
  rw [prepare, prepared.includes, prepared.excludes, prepared.allowEmptyPatterns,
    prepared.excludedFiles, ← prepared.allowEmpty, ← prepared.allowEmptyReturns,
    ← prepared.allowEmptyDeclarations, ← prepared.directives]
  rfl

/-- All patterns and globs of a configuration are valid. -/
structure IsValid (configuration : Configuration) : Prop where
  includes : ∀ text ∈ configuration.includes, PatternList.IsPattern text
  excludes : ∀ text ∈ configuration.excludes, PatternList.IsPattern text
  allowEmptyIncludes : ∀ text ∈ configuration.allowEmptyIncludes, PatternList.IsPattern text
  excludedFiles : AreGlobs configuration.excludedFiles

/-- Nothing but its own strings can keep a configuration from being prepared. -/
theorem prepare_succeeds_iff :
    (∃ settings, configuration.prepare = .ok settings) ↔ configuration.IsValid := by
  constructor
  · rintro ⟨settings, prepared⟩
    have held := preparedAs_of_prepare prepared
    exact {
      includes := PatternList.ofTexts_succeeds_iff.mp ⟨_, held.includes⟩
      excludes := PatternList.ofTexts_succeeds_iff.mp ⟨_, held.excludes⟩
      allowEmptyIncludes := PatternList.ofTexts_succeeds_iff.mp ⟨_, held.allowEmptyPatterns⟩
      excludedFiles := compileGlobs_succeeds_iff.mp ⟨_, held.excludedFiles⟩ }
  · intro valid
    obtain ⟨includes, readIncludes⟩ := PatternList.ofTexts_succeeds_iff.mpr valid.includes
    obtain ⟨excludes, readExcludes⟩ := PatternList.ofTexts_succeeds_iff.mpr valid.excludes
    obtain ⟨allowEmptyPatterns, readPatterns⟩ :=
      PatternList.ofTexts_succeeds_iff.mpr valid.allowEmptyIncludes
    obtain ⟨excludedFiles, compiled⟩ := compileGlobs_succeeds_iff.mpr valid.excludedFiles
    rw [prepare, readIncludes, readExcludes, readPatterns, compiled]
    exact ⟨_, rfl⟩

end Configuration

end LiteralAudit
