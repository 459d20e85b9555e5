import LiteralAudit.Proofs.Audit.Coverage
import LiteralAudit.Proofs.Audit.Rearrangement
import LiteralAudit.Proofs.Policy.Narrowing
import Mathlib.Data.List.Flatten

/-!
# Configurations that only suppress

A program that is checked with a narrower configuration has some of the diagnostics that it has with
the wider one, and no others. Every literal has the same verdict or none any more: files are left out
as a whole, by their path, so that the comments of the other paths come from the same files as before.
-/

namespace LiteralAudit

namespace Visit

/-- Narrower settings excuse whatever wider ones do. -/
theorem isExcused_of_narrows {narrow wide : Settings} (narrows : narrow.Narrows wide)
    {visit : Visit} {info : StructInfo} (excused : visit.isExcused wide info = true) :
    visit.isExcused narrow info = true := by
  simp only [isExcused, Bool.and_eq_true, Bool.or_eq_true] at excused ⊢
  obtain ⟨empty, (exempt | context) | type⟩ := excused
  · exact ⟨empty, Or.inl (Or.inl exempt)⟩
  · exact ⟨empty, Or.inl (Or.inr (narrows.contexts _ context))⟩
  · exact ⟨empty, Or.inr (narrows.emptyTypes _ type)⟩

/-- Narrower settings look at no literal that wider ones pass over. -/
theorem isAudited_of_narrows {narrow wide : Settings} (narrows : narrow.Narrows wide)
    {visit : Visit} {info : StructInfo} (audited : visit.isAudited narrow info = true) :
    visit.isAudited wide info = true := by
  have sameDirective : visit.directive narrow info = visit.directive wide info := by
    rw [directive, directive, narrows.directives]
  unfold isAudited at *
  rw [← sameDirective]
  cases found : visit.directive narrow info with
  | ignore =>
      rw [found] at audited
      cases audited
  | enforce => rfl
  | unspecified =>
      rw [found] at audited
      exact narrows.types _ audited

/-- Narrower settings keep the verdict on a literal or drop it. -/
theorem verdict_of_narrows {narrow wide : Settings} (narrows : narrow.Narrows wide)
    (types : TypeTable) (visit : Visit) :
    visit.verdict narrow types = none ∨
      visit.verdict narrow types = visit.verdict wide types := by
  unfold verdict
  cases visit.record? types with
  | none => exact Or.inl rfl
  | some record =>
      simp only [Option.bind_some, verdictOn]
      by_cases excused : visit.isExcused narrow (.ofRecord record) = true
      · exact Or.inl (if_pos excused)
      · have notExcused : ¬ visit.isExcused wide (.ofRecord record) = true :=
          mt (isExcused_of_narrows narrows) excused
        rw [if_neg excused, if_neg notExcused]
        by_cases audited : visit.isAudited narrow (.ofRecord record) = true
        · rw [if_pos audited, if_pos (isAudited_of_narrows narrows audited)]
          exact Or.inr rfl
        · exact Or.inl (if_neg audited)

end Visit

/-! ## Files -/

namespace ScannedFile

theorem among_of_narrows {narrow wide : Settings} (narrows : narrow.Narrows wide)
    (packagePath : String) (files : List SourceFile) :
    among narrow packagePath files =
      (among wide packagePath files).filter fun scanned =>
        !narrow.isFileExcluded scanned.file.path := by
  rw [among, among, List.filter_map, List.filter_filter]
  congr 1
  apply List.filter_congr
  intro file _
  cases excluded : wide.isFileExcluded file.path with
  | true => simp [narrows.files file.path excluded]
  | false => simp

end ScannedFile

namespace Program

theorem scannedFiles_of_narrows {narrow wide : Settings} (narrows : narrow.Narrows wide)
    (program : Program) :
    program.scannedFiles narrow =
      (program.scannedFiles wide).filter fun scanned =>
        !narrow.isFileExcluded scanned.file.path := by
  rw [scannedFiles, scannedFiles, List.filter_flatMap]
  apply List.flatMap_congr
  intro package _
  exact ScannedFile.among_of_narrows narrows package.path package.files

theorem readComments_of_narrows {narrow wide : Settings} (narrows : narrow.Narrows wide)
    (file : SourceFile) (tree : FileTree) (root : Option String) :
    file.readComments narrow tree root = file.readComments wide tree root := by
  rw [SourceFile.readComments, SourceFile.readComments, narrows.directives]

/-- A path that is not left out has the comments of the same file as before. -/
theorem commentsAt_of_narrows {narrow wide : Settings} (narrows : narrow.Narrows wide)
    (program : Program) (tree : FileTree) (root : Option String) {path : String}
    (included : narrow.isFileExcluded path = false) :
    program.commentsAt narrow tree root path = program.commentsAt wide tree root path := by
  have sameFile :
      ((program.scannedFiles narrow).find? fun scanned => scanned.file.path == path) =
        (program.scannedFiles wide).find? fun scanned => scanned.file.path == path := by
    rw [scannedFiles_of_narrows narrows, List.find?_filter]
    congr 1
    funext scanned
    by_cases same : scanned.file.path = path
    · simp [same, included]
    · simp [same]
  rw [commentsAt, commentsAt, ScannedFile.commentsAt?, ScannedFile.commentsAt?, sameFile]
  simp only [readComments_of_narrows narrows]

/-- What narrower settings visit, the wider ones visit with the same comments. -/
theorem visits_sublist_of_narrows {narrow wide : Settings} (narrows : narrow.Narrows wide)
    (program : Program) (tree : FileTree) (root : Option String) :
    (program.visits narrow tree root).Sublist (program.visits wide tree root) := by
  have sameComments :
      program.visits narrow tree root =
        (program.scannedFiles narrow).flatMap fun scanned =>
          scanned.visits (program.commentsAt wide tree root scanned.file.path) := by
    apply List.flatMap_congr
    intro scanned member
    rw [scannedFiles_of_narrows narrows, List.mem_filter, Bool.not_eq_true'] at member
    rw [commentsAt_of_narrows narrows program tree root member.2]
  rw [sameComments, scannedFiles_of_narrows narrows]
  exact List.filter_sublist.flatMap _

end Program

theorem filterMap_sublist_of_forall
    {alpha beta : Type} {pick pickMore : alpha → Option beta}
    (each : ∀ item, pick item = none ∨ pick item = pickMore item) (items : List alpha) :
    (items.filterMap pick).Sublist (items.filterMap pickMore) := by
  induction items with
  | nil => exact List.Sublist.refl _
  | cons item further inductionHypothesis =>
      rcases each item with dropped | kept
      · rw [List.filterMap_cons_none dropped]
        refine inductionHypothesis.trans ?_
        cases more : pickMore item with
        | none => rw [List.filterMap_cons_none more]
        | some found =>
            rw [List.filterMap_cons_some more]
            exact List.sublist_cons_self _ _
      · cases more : pickMore item with
        | none =>
            rw [List.filterMap_cons_none (kept.trans more), List.filterMap_cons_none more]
            exact inductionHypothesis
        | some found =>
            rw [List.filterMap_cons_some (kept.trans more), List.filterMap_cons_some more]
            exact inductionHypothesis.cons_cons found

/-! ## Results -/

/-- Sorting keeps equal diagnostics in their order, so fewer of them stay fewer. -/
theorem CheckResult.sort_diagnostics_sublist {left right : CheckResult}
    (fewer : left.diagnostics.Sublist right.diagnostics) :
    left.sort.diagnostics.Sublist right.sort.diagnostics := by
  have antisymmetric :
      Std.Antisymm fun earlier later : Diagnostic => earlier.key ≤ later.key :=
    ⟨fun _ _ first second => Diagnostic.key_injective (first.antisymm second)⟩
  have contained : left.sort.diagnostics.Subperm right.sort.diagnostics :=
    (left.sort_diagnostics_perm.subperm.trans fewer.subperm).trans
      right.sort_diagnostics_perm.symm.subperm
  exact List.sublist_of_subperm_of_pairwise contained left.sort_diagnostics_pairwise
    right.sort_diagnostics_pairwise

namespace Settings

theorem Narrows.checkProgram_sublist {narrow wide : Settings} (narrows : narrow.Narrows wide)
    (tree : FileTree) (root : Option String) (program : Program) :
    (narrow.checkProgram tree root program).value.diagnostics.Sublist
      (wide.checkProgram tree root program).value.diagnostics := by
  rw [checkProgram_value, checkProgram_value]
  apply CheckResult.sort_diagnostics_sublist
  exact ((program.visits_sublist_of_narrows narrows tree root).filterMap _).trans
    (filterMap_sublist_of_forall (Visit.verdict_of_narrows narrows program.typeTable) _)

end Settings

namespace Configuration

/-- A narrower configuration only suppresses diagnostics. So do arguments that neither ask for types
nor switch directives off, and further patterns of types to check only add diagnostics where there
were patterns before. -/
theorem checkProgram_diagnostics_sublist
    {base other : Configuration} {baseSettings otherSettings : Settings}
    (basePrepared : base.prepare = .ok baseSettings)
    (otherPrepared : other.prepare = .ok otherSettings)
    (tree : FileTree) (root : Option String) (program : Program) :
    (other.Narrows base →
      (otherSettings.checkProgram tree root program).value.diagnostics.Sublist
        (baseSettings.checkProgram tree root program).value.diagnostics) ∧
      (∀ arguments : CheckArguments, arguments.includes = [] → arguments.noDirectives = false →
        other = arguments.apply base →
          (otherSettings.checkProgram tree root program).value.diagnostics.Sublist
            (baseSettings.checkProgram tree root program).value.diagnostics) ∧
      (base.includes ≠ [] → ∀ added : List String,
        other = { base with includes := base.includes ++ added } →
          (baseSettings.checkProgram tree root program).value.diagnostics.Sublist
            (otherSettings.checkProgram tree root program).value.diagnostics) := by
  have baseHolds := preparedAs_of_prepare basePrepared
  have otherHolds := preparedAs_of_prepare otherPrepared
  refine ⟨?_, ?_, ?_⟩
  · intro narrows
    exact (narrows.settings baseHolds otherHolds).checkProgram_sublist tree root program
  · intro arguments noIncludes directives applied
    have narrows : other.Narrows base := by
      rw [applied]
      exact apply_narrows noIncludes directives base
    exact (narrows.settings baseHolds otherHolds).checkProgram_sublist tree root program
  · intro some added more
    have narrows : base.Narrows other := by
      rw [more]
      exact narrows_append_includes some added
    exact (narrows.settings otherHolds baseHolds).checkProgram_sublist tree root program

/-- A configuration that checks the literals of one type. -/
def pairsOnly : Configuration :=
  { standard with includes := ["example\\.com/p\\.Pair"] }

/-- The configuration that leaves out a file and the literals of another type, too. -/
def fewerPairs : Configuration :=
  { pairsOnly with
    excludes := ["example\\.com/p\\.Triple"],
    allowEmptyIncludes := ["example\\.com/p\\.Single"],
    allowEmptyReturns := true,
    excludedFiles := ["more*.go"] }

theorem fewerPairs_narrows : fewerPairs.Narrows pairsOnly where
  includes := Or.inl rfl
  excludes := List.nil_prefix
  allowEmpty := id
  allowEmptyIncludes := List.nil_prefix
  allowEmptyReturns := fun _ => rfl
  allowEmptyDeclarations := id
  directives := rfl
  excludedFiles := List.nil_prefix

theorem exists_settings {configuration : Configuration}
    (valid : configuration.prepare.isOk = true) :
    ∃ settings, configuration.prepare = .ok settings := by
  cases prepared : configuration.prepare with
  | ok settings => exact ⟨settings, rfl⟩
  | error _ =>
      rw [prepared] at valid
      cases valid

/-- A configuration that leaves out more in four ways at once. -/
theorem checkProgram_fewerPairs :
    ∃ baseSettings otherSettings,
      pairsOnly.prepare = .ok baseSettings ∧ fewerPairs.prepare = .ok otherSettings ∧
        (otherSettings.checkProgram ⟨.folder [], []⟩ none
            Settings.sharedFileProgram).value.diagnostics.Sublist
          (baseSettings.checkProgram ⟨.folder [], []⟩ none
            Settings.sharedFileProgram).value.diagnostics := by
  have pairsValid : pairsOnly.prepare.isOk = true := by decide +kernel
  have fewerValid : fewerPairs.prepare.isOk = true := by decide +kernel
  obtain ⟨baseSettings, basePrepared⟩ := exists_settings pairsValid
  obtain ⟨otherSettings, otherPrepared⟩ := exists_settings fewerValid
  refine ⟨baseSettings, otherSettings, basePrepared, otherPrepared, ?_⟩
  exact (checkProgram_diagnostics_sublist basePrepared otherPrepared ⟨.folder [], []⟩ none
    Settings.sharedFileProgram).1 fewerPairs_narrows

end Configuration

end LiteralAudit
