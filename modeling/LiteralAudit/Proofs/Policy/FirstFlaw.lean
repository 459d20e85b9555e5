import LiteralAudit.Proofs.Policy.Preparation
import LiteralAudit.Proofs.Regex.Backtracking

/-!
# The first flaw of a configuration

The strings of a configuration are compiled in their order, list by list, and the first one that
cannot be compiled is reported. Where all can be compiled, the lists hold them in their order.
-/

namespace LiteralAudit

/-! ## Errors -/

section Errors

variable {error other alpha beta : Type}

def error? : Except error alpha → Option error
  | .error cause => some cause
  | .ok _ => none

theorem error?_eq_some_iff {first : Except error alpha} {cause : error} :
    error? first = some cause ↔ first = .error cause := by
  cases first with
  | error found => rw [error?, Option.some.injEq, Except.error.injEq]
  | ok found => exact ⟨nofun, nofun⟩

theorem error?_map (first : Except error alpha) (convert : alpha → beta) :
    error? (first.map convert) = error? first := by
  cases first with
  | error cause => rfl
  | ok found => rfl

theorem error?_mapError (first : Except error alpha) (wrap : error → other) :
    error? (first.mapError wrap) = (error? first).map wrap := by
  cases first with
  | error cause => rfl
  | ok found => rfl

/-- The error of two computations is that of the first one that fails. -/
theorem error?_bind
    {first : Except error alpha} {next : alpha → Except error beta} {further : Option error}
    (rest : ∀ found, first = .ok found → error? (next found) = further) :
    error? (first >>= next) = (error? first).or further := by
  cases first with
  | error cause => rfl
  | ok found => exact rest found rfl

/-- The first item that fails decides. -/
theorem error?_mapM (compute : alpha → Except error beta) (items : List alpha) :
    error? (items.mapM compute) = items.findSome? fun item => error? (compute item) := by
  induction items with
  | nil => rfl
  | cons item further inductionHypothesis =>
      have rest : ∀ answer, compute item = .ok answer →
          error? (further.mapM compute >>= fun answers => pure (answer :: answers)) =
            error? (further.mapM compute) := by
        intro answer _
        cases further.mapM compute with
        | error cause => rfl
        | ok answers => rfl
      rw [List.mapM_cons, List.findSome?_cons, error?_bind rest, inductionHypothesis]
      cases error? (compute item) with
      | none => rfl
      | some cause => rfl

end Errors

/-! ## Lists of patterns -/

namespace PatternList

/-- What is wrong with a text that is to become a pattern. -/
def flaw? (text : String) : Option PatternError :=
  if text = "" then some .empty
  else if Pattern.ofText? text = none then some (.invalid text)
  else none

theorem error?_compile (text : String) : error? (compile text) = flaw? text := by
  rw [compile, flaw?]
  by_cases blank : text = ""
  · rw [if_pos blank, if_pos (String.isEmpty_iff.mpr blank)]
    rfl
  · rw [if_neg blank, if_neg (mt String.isEmpty_iff.mp blank)]
    cases Pattern.ofText? text with
    | none => rfl
    | some pattern => rfl

/-- The first text with a flaw decides. -/
theorem error?_ofTexts (texts : List String) : error? (ofTexts texts) = texts.findSome? flaw? := by
  rw [ofTexts_eq, error?_map, error?_mapM]
  simp only [error?_compile]

theorem flaw?_isSome_iff (text : String) :
    (flaw? text).isSome = true ↔ text = "" ∨ Pattern.ofText? text = none := by
  rw [flaw?]
  split
  · simp [*]
  · split
    · simp [*]
    · simp [*]

instance (text : String) : Decidable (IsPattern text) :=
  inferInstanceAs (Decidable (_ ∧ _))

/-- A list of patterns made of some texts. -/
structure Holds (list : PatternList) (texts : List String) : Prop where
  /-- The patterns have the texts, in their order. -/
  texts_eq : list.patterns.map (·.text) = texts
  /-- A name matches if the leftmost match of one of the patterns leads from its start to its
  end. -/
  matchesWhole_iff : ∀ name, list.matchesWhole name = true ↔
    ∃ text ∈ texts, ∃ pattern, Pattern.ofText? text = some pattern ∧
      pattern.MatchesFirst name 0 name.length

theorem compile_eq_ok_iff {text : String} {pattern : Pattern} :
    compile text = .ok pattern ↔ text ≠ "" ∧ Pattern.ofText? text = some pattern := by
  rw [compile]
  by_cases blank : text = ""
  · simp [blank]
  · rw [if_neg (mt String.isEmpty_iff.mp blank)]
    cases Pattern.ofText? text with
    | none => simp
    | some found => simp [blank]

/-- Patterns remember their texts. -/
theorem text_of_ofText? {text : String} {pattern : Pattern}
    (found : Pattern.ofText? text = some pattern) : pattern.text = text := by
  rw [Pattern.ofText?] at found
  split at found
  · cases found
  · split at found
    · cases found
      rfl
    · cases found

section Compiled

variable {texts : List String} {patterns : List Pattern}

theorem map_text_of_compiled
    (compiled : List.Forall₂ (fun text pattern => compile text = .ok pattern) texts patterns) :
    patterns.map (·.text) = texts := by
  induction compiled with
  | nil => rfl
  | cons head tail inductionHypothesis =>
      rw [List.map_cons, inductionHypothesis, text_of_ofText? (compile_eq_ok_iff.mp head).2]

theorem exists_mem_of_compiled
    (compiled : List.Forall₂ (fun text pattern => compile text = .ok pattern) texts patterns)
    (condition : Pattern → Prop) :
    (∃ pattern ∈ patterns, condition pattern) ↔
      ∃ text ∈ texts, ∃ pattern, Pattern.ofText? text = some pattern ∧ condition pattern := by
  induction compiled with
  | nil => simp
  | cons head tail inductionHypothesis =>
      rw [List.exists_mem_cons_iff, List.exists_mem_cons_iff, inductionHypothesis,
        (compile_eq_ok_iff.mp head).2]
      simp

end Compiled

theorem holds_of_ofTexts {texts : List String} {list : PatternList}
    (read : ofTexts texts = .ok list) : list.Holds texts := by
  have compiled := mapM_eq_ok_iff.mp (mapM_compile_of_ofTexts read)
  constructor
  · exact map_text_of_compiled compiled
  · intro name
    rw [matchesWhole, List.any_eq_true]
    simp only [Pattern.matchesWhole_iff]
    exact exists_mem_of_compiled compiled _

/-! ## Patterns added one by one -/

theorem offer_of_compile {list : PatternList} {text : String} {pattern : Pattern}
    (compiled : compile text = .ok pattern) :
    list.offer text = (.ok (), ⟨list.patterns ++ [pattern]⟩) := by
  rw [offer, compiled]

theorem offer_of_compile_error {list : PatternList} {text : String} {cause : PatternError}
    (refused : compile text = .error cause) :
    list.offer text = (.error cause, list) := by
  rw [offer, refused]

/-- An offer is refused for what is wrong with its text, whatever the list. -/
theorem error?_offer (list : PatternList) (text : String) :
    error? (list.offer text).1 = flaw? text := by
  rw [← error?_compile]
  cases compiled : compile text with
  | error cause => rw [offer_of_compile_error compiled]; rfl
  | ok pattern => rw [offer_of_compile compiled]; rfl

/-- An offer that is refused leaves the list as it was. -/
theorem offer_unchanged_of_refused {list : PatternList} {text : String}
    (refused : (flaw? text).isSome = true) : (list.offer text).2 = list := by
  obtain ⟨cause, flawed⟩ := Option.isSome_iff_exists.mp refused
  rw [← error?_compile, error?_eq_some_iff] at flawed
  rw [offer_of_compile_error flawed]

theorem not_isPattern_iff (text : String) : ¬ IsPattern text ↔ (flaw? text).isSome = true := by
  rw [flaw?_isSome_iff, IsPattern, ← Option.ne_none_iff_isSome]
  tauto

/-- The list after some offers, whatever came of each. -/
def offerAll (list : PatternList) (texts : List String) : PatternList :=
  texts.foldl (fun standing text => (standing.offer text).2) list

theorem offerAll_cons (list : PatternList) (text : String) (further : List String) :
    list.offerAll (text :: further) = (list.offer text).2.offerAll further :=
  rfl

/-- Texts that are refused might as well not have been offered. -/
theorem offerAll_eq_filter (texts : List String) (list : PatternList) :
    list.offerAll texts = list.offerAll (texts.filter (IsPattern ·)) := by
  induction texts generalizing list with
  | nil => rfl
  | cons text further inductionHypothesis =>
      rw [offerAll_cons, inductionHypothesis]
      by_cases valid : IsPattern text
      · rw [List.filter_cons_of_pos (by simpa using valid), offerAll_cons]
      · rw [List.filter_cons_of_neg (by simpa using valid),
          offer_unchanged_of_refused ((not_isPattern_iff text).mp valid)]

/-- Patterns are added behind those that are there, in the order of their texts. -/
theorem patterns_offerAll {texts : List String} {patterns : List Pattern}
    (compiled : List.Forall₂ (fun text pattern => compile text = .ok pattern) texts patterns)
    (list : PatternList) :
    (list.offerAll texts).patterns = list.patterns ++ patterns := by
  induction compiled generalizing list with
  | nil => exact (List.append_nil _).symm
  | cons head tail inductionHypothesis =>
      rw [offerAll_cons, inductionHypothesis, offer_of_compile head, List.append_assoc]
      rfl

/-- Offering texts one by one, where some are refused, makes the list of the valid ones. -/
theorem ofTexts_filter (texts : List String) :
    ofTexts (texts.filter (IsPattern ·)) = .ok (empty.offerAll texts) := by
  have allValid : ∀ text ∈ texts.filter (IsPattern ·), IsPattern text := by
    intro text member
    simpa using (List.mem_filter.mp member).2
  obtain ⟨list, read⟩ := ofTexts_succeeds_iff.mpr allValid
  have compiled := mapM_eq_ok_iff.mp (mapM_compile_of_ofTexts read)
  have samePatterns := patterns_offerAll compiled empty
  rw [read, offerAll_eq_filter]
  exact congrArg (fun patterns => Except.ok (PatternList.mk patterns)) samePatterns.symm

end PatternList

/-! ## Configurations -/

/-- The lists of strings in a configuration that are compiled. -/
inductive ConfigList where
  | includes
  | excludes
  | allowEmptyIncludes
  | excludedFiles
  deriving DecidableEq, Repr

def ConfigList.flaw? : ConfigList → String → Option ConfigError
  | includes, text => (PatternList.flaw? text).map .includes
  | excludes, text => (PatternList.flaw? text).map .excludes
  | allowEmptyIncludes, text => (PatternList.flaw? text).map .allowEmpty
  | excludedFiles, text => if Glob.ofText? text = none then some (.excludedFiles text) else none

def PatternError.pattern : PatternError → String
  | empty => ""
  | invalid pattern => pattern

def ConfigError.list : ConfigError → ConfigList
  | includes _ => .includes
  | excludes _ => .excludes
  | allowEmpty _ => .allowEmptyIncludes
  | excludedFiles _ => .excludedFiles

def ConfigError.pattern : ConfigError → String
  | includes cause => cause.pattern
  | excludes cause => cause.pattern
  | allowEmpty cause => cause.pattern
  | excludedFiles globs => globs

namespace Configuration

/-- The strings of a configuration that are compiled, in their order, each with its list. -/
def listed (configuration : Configuration) : List (ConfigList × String) :=
  configuration.includes.map (.includes, ·) ++ configuration.excludes.map (.excludes, ·) ++
    configuration.allowEmptyIncludes.map (.allowEmptyIncludes, ·) ++
    configuration.excludedFiles.map (.excludedFiles, ·)

/-- The globs of a configuration can be built together if each one of them is valid. -/
def GlobsBuild (configuration : Configuration) : Prop :=
  ∀ globs, List.Forall₂ (fun text glob => Glob.ofText? text = some glob)
      configuration.excludedFiles globs →
    (GlobSet.ofGlobs? globs).isSome = true

def flaw? (entry : ConfigList × String) : Option ConfigError :=
  entry.1.flaw? entry.2

theorem pattern_of_flaw? {text : String} {cause : PatternError}
    (flawed : PatternList.flaw? text = some cause) : cause.pattern = text := by
  rw [PatternList.flaw?] at flawed
  split at flawed
  · rename_i blank
    cases flawed
    exact blank.symm
  · split at flawed
    · cases flawed
      rfl
    · cases flawed

/-- An error names the list and the string that it is about. -/
theorem eq_of_flaw? {entry : ConfigList × String} {cause : ConfigError}
    (flawed : flaw? entry = some cause) : entry = (cause.list, cause.pattern) := by
  obtain ⟨list, text⟩ := entry
  cases list with
  | excludedFiles =>
      change (if Glob.ofText? text = none then some (.excludedFiles text) else none) =
        some cause at flawed
      split at flawed
      · cases flawed
        rfl
      · cases flawed
  | includes | excludes | allowEmptyIncludes =>
      obtain ⟨found, flawedText, rfl⟩ := Option.map_eq_some_iff.mp flawed
      exact congrArg (Prod.mk _) (pattern_of_flaw? flawedText).symm

theorem findSome?_map_flaw? (list : ConfigList) (texts : List String) :
    (texts.map (list, ·)).findSome? flaw? = texts.findSome? list.flaw? := by
  rw [List.findSome?_map]
  rfl

theorem error?_compilePatterns (texts : List String) (wrap : PatternError → ConfigError) :
    error? ((PatternList.ofTexts texts).mapError wrap) =
      texts.findSome? fun text => (PatternList.flaw? text).map wrap := by
  rw [error?_mapError, PatternList.error?_ofTexts, List.map_findSome?]
  rfl

theorem error?_readGlob (text : String) :
    error? (readGlob text) = ConfigList.flaw? .excludedFiles text := by
  rw [readGlob, ConfigList.flaw?]
  cases Glob.ofText? text with
  | none => rfl
  | some glob => rfl

theorem error?_compileGlobs {configuration : Configuration} (build : configuration.GlobsBuild) :
    error? (compileGlobs configuration.excludedFiles) =
      configuration.excludedFiles.findSome? (ConfigList.flaw? .excludedFiles) := by
  refine (@error?_bind _ _ _ _ _ none fun globs read => ?_).trans ?_
  · simp only [mapM_eq_ok_iff, readGlob_eq_ok_iff] at read
    obtain ⟨set, ready⟩ := Option.isSome_iff_exists.mp (build globs read)
    rw [ready]
    rfl
  · rw [Option.or_none, error?_mapM]
    simp only [error?_readGlob]

/-- The first flaw in the order of the lists is reported. -/
theorem error?_prepare {configuration : Configuration} (build : configuration.GlobsBuild) :
    error? configuration.prepare = configuration.listed.findSome? flaw? := by
  have afterPatterns {alpha : Type} (settings : GlobSet → alpha) :
      error? (compileGlobs configuration.excludedFiles >>= fun set => pure (settings set)) =
        configuration.excludedFiles.findSome? (ConfigList.flaw? .excludedFiles) := by
    rw [← error?_compileGlobs build]
    cases compileGlobs configuration.excludedFiles with
    | error cause => rfl
    | ok set => rfl
  rw [listed, List.findSome?_append, List.findSome?_append, List.findSome?_append,
    Option.or_assoc, Option.or_assoc, findSome?_map_flaw?, findSome?_map_flaw?,
    findSome?_map_flaw?, findSome?_map_flaw?]
  refine (error?_bind fun includes _ => error?_bind fun excludes _ =>
    error?_bind fun allowEmptyPatterns _ => afterPatterns _).trans ?_
  rw [error?_compilePatterns, error?_compilePatterns, error?_compilePatterns]
  rfl

theorem exists_listed_iff (list : ConfigList) (texts : List String) :
    (∃ entry ∈ texts.map (list, ·), (flaw? entry).isSome = true) ↔
      ∃ text ∈ texts, (list.flaw? text).isSome = true := by
  simp [flaw?]

theorem prepare_fails_iff {configuration : Configuration} (build : configuration.GlobsBuild) :
    (∃ cause, configuration.prepare = .error cause) ↔
      (∃ text ∈ configuration.includes ++ configuration.excludes ++
          configuration.allowEmptyIncludes, text = "" ∨ Pattern.ofText? text = none) ∨
        ∃ text ∈ configuration.excludedFiles, Glob.ofText? text = none := by
  have fails : (∃ cause, configuration.prepare = .error cause) ↔
      ∃ entry ∈ configuration.listed, (flaw? entry).isSome = true := by
    rw [← List.findSome?_isSome_iff, ← error?_prepare build, Option.isSome_iff_exists]
    simp only [error?_eq_some_iff]
  have globFlaw (text : String) :
      (ConfigList.flaw? .excludedFiles text).isSome = true ↔ Glob.ofText? text = none := by
    simp [ConfigList.flaw?]
  rw [fails, listed]
  simp only [List.mem_append, or_and_right, exists_or, exists_listed_iff, globFlaw]
  simp only [ConfigList.flaw?, Option.isSome_map, PatternList.flaw?_isSome_iff]

/-- A configuration can be prepared unless one of its strings has a flaw, where globs that are valid
can be built together. The error names the first string with a flaw, and its list. Prepared lists
hold the strings in their order, and match the names that the leftmost match of one of the patterns
takes up. Patterns that are offered one by one make the same list, whatever offers are refused
between; an offer is refused for the flaw of its text, and leaves the list unchanged. -/
theorem prepare_reports_first_flaw {configuration : Configuration}
    (build : configuration.GlobsBuild) :
    ((∃ cause, configuration.prepare = .error cause) ↔
      (∃ text ∈ configuration.includes ++ configuration.excludes ++
          configuration.allowEmptyIncludes, text = "" ∨ Pattern.ofText? text = none) ∨
        ∃ text ∈ configuration.excludedFiles, Glob.ofText? text = none) ∧
    (∀ cause, configuration.prepare = .error cause ↔
      ∃ before after, configuration.listed = before ++ (cause.list, cause.pattern) :: after ∧
        flaw? (cause.list, cause.pattern) = some cause ∧
        ∀ earlier ∈ before, flaw? earlier = none) ∧
    (∀ settings, configuration.prepare = .ok settings →
      settings.includes.Holds configuration.includes ∧
      settings.excludes.Holds configuration.excludes ∧
      settings.allowEmptyPatterns.Holds configuration.allowEmptyIncludes) ∧
    (∀ texts : List String, PatternList.ofTexts (texts.filter (PatternList.IsPattern ·)) =
      .ok (PatternList.empty.offerAll texts)) ∧
    ∀ (list : PatternList) (text : String),
      error? (list.offer text).1 = PatternList.flaw? text ∧
        ((PatternList.flaw? text).isSome = true → (list.offer text).2 = list) := by
  refine ⟨prepare_fails_iff build, ?_, ?_, PatternList.ofTexts_filter, fun list text =>
    ⟨list.error?_offer text, PatternList.offer_unchanged_of_refused⟩⟩
  · intro cause
    rw [← error?_eq_some_iff, error?_prepare build, List.findSome?_eq_some_iff]
    constructor
    · rintro ⟨before, entry, after, order, flawed, noneBefore⟩
      rw [eq_of_flaw? flawed] at order flawed
      exact ⟨before, after, order, flawed, noneBefore⟩
    · rintro ⟨before, after, order, flawed, noneBefore⟩
      exact ⟨before, _, after, order, flawed, noneBefore⟩
  · intro settings prepared
    have held := preparedAs_of_prepare prepared
    exact ⟨PatternList.holds_of_ofTexts held.includes, PatternList.holds_of_ofTexts held.excludes,
      PatternList.holds_of_ofTexts held.allowEmptyPatterns⟩

/-- A configuration with a flaw in its second list, and another one in its third list. -/
def flawedConfiguration : Configuration :=
  { standard with
    includes := ["Foo"]
    excludes := ["Bar", "", "["]
    allowEmptyIncludes := ["["]
    excludedFiles := ["*.pb.go"] }

theorem globsBuild_flawedConfiguration : flawedConfiguration.GlobsBuild := by
  intro globs read
  obtain ⟨glob, rest, head, tail, rfl⟩ := List.forall₂_cons_left_iff.mp read
  cases tail
  cases head
  decide

/-- Of two flaws, the one in the list that comes first is reported. -/
theorem prepare_flawedConfiguration :
    flawedConfiguration.GlobsBuild ∧
      flawedConfiguration.prepare = .error (.excludes .empty) := by
  obtain ⟨-, reports, -, -, -⟩ := prepare_reports_first_flaw globsBuild_flawedConfiguration
  refine ⟨globsBuild_flawedConfiguration, (reports _).mpr ⟨[(.includes, "Foo"),
    (.excludes, "Bar")], [(.excludes, "["), (.allowEmptyIncludes, "["),
    (.excludedFiles, "*.pb.go")], rfl, rfl, ?_⟩⟩
  decide +kernel

end Configuration

end LiteralAudit
