import LiteralAudit.Proofs.Audit.Suppression

/-!
# Files that are left out

A set of globs matches a path when one of the globs does by itself. The check of a program that
leaves out the files with such paths is the check of the program from which these files were
removed: a file that is left out is passed over before its comments are read and before anything is
counted, so that no later file and no literal can tell whether it was there.
-/

namespace LiteralAudit

/-! ## Globs by themselves -/

theorem any_eq_of_forall₂
    {alpha beta : Type} {related : alpha → beta → Prop} {accepts : beta → Bool}
    {acceptsSource : alpha → Bool} {items : List alpha} {found : List beta}
    (pairs : List.Forall₂ related items found)
    (each : ∀ item answer, related item answer → accepts answer = acceptsSource item) :
    found.any accepts = items.any acceptsSource := by
  induction pairs with
  | nil => rfl
  | cons head _ inductionHypothesis =>
      rw [List.any_cons, List.any_cons, each _ _ head, inductionHypothesis]

namespace Glob

def machineMatches (glob : Glob) (path : String) : Bool :=
  (expr? glob.tokens).any fun expr =>
    GlobSet.isAsked (requiredExtension? glob.tokens) (Utf8.encode path) &&
      (Regex.Machine.ofExpr expr).matchesWhole ((Utf8.encode path).map UInt8.toNat)

/-- Whether the glob by itself matches a path: by its form, or else by its machine. -/
def isMatch (glob : Glob) (path : String) : Bool :=
  match Form.ofTokens? glob.tokens with
  | some form => form.isMatch (Utf8.encode path)
  | none => glob.machineMatches path

end Glob

namespace GlobSet

/-- A set of globs asks machines, each of which matches the paths that its glob matches. -/
theorem any_machines {globs : List Glob} {exprs : List (Option (List UInt8) × Regex.Expr)}
    (found : globs.mapM (fun glob =>
      (Glob.expr? glob.tokens).map (Glob.requiredExtension? glob.tokens, ·)) = some exprs)
    (path : String) :
    ((exprs.map fun (extension, expr) => (extension, Regex.Machine.ofExpr expr)).any
        fun (extension, machine) =>
          isAsked extension (Utf8.encode path) &&
            machine.matchesWhole ((Utf8.encode path).map UInt8.toNat)) =
      globs.any (·.machineMatches path) := by
  rw [List.any_map]
  refine any_eq_of_forall₂ (mapM_eq_some_iff.mp found) ?_
  intro glob answer read
  obtain ⟨expr, known, rfl⟩ := Option.map_eq_some_iff.mp read
  rw [Glob.machineMatches, known]
  rfl

/-- A set of globs matches what one of the globs matches by itself. -/
theorem isMatch_ofGlobs? {globs : List Glob} {set : GlobSet} (ready : ofGlobs? globs = some set)
    (path : String) :
    set.isMatch path = globs.any (·.isMatch path) := by
  obtain ⟨exprs, general, forms, machines⟩ := ofGlobs?_eq_some ready
  have byMachine := any_machines general path
  rw [isMatch, forms, machines]
  dsimp only at byMachine ⊢
  rw [byMachine, List.any_filter, List.any_filterMap]
  clear byMachine general forms machines ready
  -- Each glob stands in one of the two lists: by its form, or else by its machine.
  induction globs with
  | nil => rfl
  | cons glob further inductionHypothesis =>
      rw [List.any_cons, List.any_cons, List.any_cons, ← inductionHypothesis, Glob.isMatch]
      cases Glob.Form.ofTokens? glob.tokens with
      | some form => simp [Bool.or_assoc]
      | none => simp [Bool.or_left_comm]

end GlobSet

/-! ## Configurations and settings -/

namespace Settings

/-- The settings under which no file is left out. -/
def withAllFiles (settings : Settings) : Settings :=
  { settings with excludedFiles := .empty }

@[simp]
theorem isFileExcluded_withAllFiles (settings : Settings) (path : String) :
    settings.withAllFiles.isFileExcluded path = false := by
  rfl

end Settings

namespace Configuration

/-- Whether one of the globs of the files to leave out matches a path. -/
def leavesOut (configuration : Configuration) (path : String) : Bool :=
  configuration.excludedFiles.any fun text => (Glob.ofText? text).any (·.isMatch path)

def withAllFiles (configuration : Configuration) : Configuration :=
  { configuration with excludedFiles := [] }

/-- A set matches the paths that one of its globs matches alone. -/
theorem isMatch_of_compileGlobs {texts : List String} {set : GlobSet}
    (compiled : compileGlobs texts = .ok set) (path : String) :
    set.isMatch path = texts.any fun text => (Glob.ofText? text).any (·.isMatch path) := by
  obtain ⟨globs, read, ready⟩ := compileGlobs_eq_ok_iff.mp compiled
  rw [GlobSet.isMatch_ofGlobs? ready]
  refine any_eq_of_forall₂ (mapM_eq_ok_iff.mp read) ?_
  intro text glob readText
  rw [readGlob_eq_ok_iff.mp readText]
  rfl

namespace PreparedAs

variable {configuration : Configuration} {settings : Settings}

theorem isFileExcluded_eq (prepared : configuration.PreparedAs settings) :
    (settings.isFileExcluded ·) = configuration.leavesOut := by
  funext path
  exact isMatch_of_compileGlobs prepared.excludedFiles path

theorem withAllFiles (prepared : configuration.PreparedAs settings) :
    configuration.withAllFiles.PreparedAs settings.withAllFiles :=
  { prepared with excludedFiles := rfl }

end PreparedAs

end Configuration

/-! ## Programs -/

def Package.withoutFiles (package : Package) (leftOut : String → Bool) : Package :=
  { package with files := package.files.filter fun file => !leftOut file.path }

/-- The program without the files whose paths are left out. -/
def Program.withoutFiles (program : Program) (leftOut : String → Bool) : Program :=
  { program with packages := program.packages.map (·.withoutFiles leftOut) }

theorem ScannedFile.ofPackage_withoutFiles (settings : Settings) (package : Package) :
    ofPackage settings.withAllFiles (package.withoutFiles settings.isFileExcluded) =
      ofPackage settings package := by
  rw [ofPackage, ofPackage, among, among, Package.withoutFiles, List.filter_filter]
  simp

/-- The files that are looked at are the same if the others were never there. -/
theorem Program.scannedFiles_withoutFiles (program : Program) (settings : Settings) :
    (program.withoutFiles settings.isFileExcluded).scannedFiles settings.withAllFiles =
      program.scannedFiles settings := by
  rw [scannedFiles, withoutFiles, List.flatMap_map]
  apply List.flatMap_congr
  intro package _
  exact ScannedFile.ofPackage_withoutFiles settings package

namespace Settings

/-- No verdict depends on the files that are left out. -/
theorem checkProgram_value_withoutFiles
    (settings : Settings) (tree : FileTree) (root : Option String) (program : Program) :
    (settings.withAllFiles.checkProgram tree root
        (program.withoutFiles settings.isFileExcluded)).value =
      (settings.checkProgram tree root program).value := by
  have sameFiles := program.scannedFiles_withoutFiles settings
  have sameComments :
      (program.withoutFiles settings.isFileExcluded).commentsAt settings.withAllFiles tree root =
        program.commentsAt settings tree root := by
    funext path
    rw [Program.commentsAt, sameFiles]
    rfl
  rw [checkProgram_value, checkProgram_value, sameFiles, sameComments]
  rfl

end Settings

namespace Configuration

/-- The check with a configuration that leaves files out is the check with the configuration that
does not, for the program from which the files were removed whose paths one of the globs matches. -/
theorem checkProgram_value_eq_of_files_removed
    {configuration : Configuration} {settings : Settings}
    (prepared : configuration.prepare = .ok settings)
    (tree : FileTree) (root : Option String) (program : Program) :
    ∃ bare, configuration.withAllFiles.prepare = .ok bare ∧
      (settings.checkProgram tree root program).value =
        (bare.checkProgram tree root (program.withoutFiles configuration.leavesOut)).value := by
  have holds := preparedAs_of_prepare prepared
  refine ⟨settings.withAllFiles, holds.withAllFiles.prepare_eq, ?_⟩
  rw [← holds.isFileExcluded_eq]
  exact (settings.checkProgram_value_withoutFiles tree root program).symm

/-- A configuration that leaves out one of the shared files and folders of generated ones. -/
def withoutMore : Configuration :=
  { standard with excludedFiles := ["more*.go", "**/generated/*"] }

/-- One of two files is left out, or was never there. -/
theorem checkProgram_withoutMore :
    ∃ settings, withoutMore.prepare = .ok settings ∧
      withoutMore.leavesOut "more.go" = true ∧ withoutMore.leavesOut "pair.go" = false ∧
      ∃ bare, withoutMore.withAllFiles.prepare = .ok bare ∧
        (settings.checkProgram ⟨.folder [], []⟩ none Settings.sharedFileProgram).value =
          (bare.checkProgram ⟨.folder [], []⟩ none
            (Settings.sharedFileProgram.withoutFiles withoutMore.leavesOut)).value := by
  have valid : withoutMore.prepare.isOk = true := by decide +kernel
  obtain ⟨settings, prepared⟩ := exists_settings valid
  refine ⟨settings, prepared, by decide +kernel, by decide +kernel, ?_⟩
  exact checkProgram_value_eq_of_files_removed prepared ⟨.folder [], []⟩ none
    Settings.sharedFileProgram

end Configuration

end LiteralAudit
