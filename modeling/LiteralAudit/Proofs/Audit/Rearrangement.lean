import LiteralAudit.Proofs.Audit.Coverage
import Mathlib.Data.List.Forall2
import Mathlib.Data.List.Perm.Basic

/-!
# Programs in another order

Packages, the files of a package and the literals of a file can stand in any order. As long as files
with the same path bring the same comments along, the check of a program does not depend on it: the
comments of a path are then those of any file with this path, the visits are the same up to their
order, and sorted diagnostics forget the order in which they were found.
-/

namespace LiteralAudit

/-- Two lists hold related items, in some order. -/
def PermUpTo {alpha beta : Type} (related : alpha → beta → Prop)
    (left : List alpha) (right : List beta) : Prop :=
  ∃ middle, left.Perm middle ∧ List.Forall₂ related middle right

namespace PermUpTo

variable {alpha beta gamma delta : Type} {related : alpha → beta → Prop}
  {left : List alpha} {right : List beta}

theorem length_eq (permuted : PermUpTo related left right) :
    left.length = right.length := by
  obtain ⟨middle, permutation, pairs⟩ := permuted
  exact permutation.length_eq.trans pairs.length_eq

theorem exists_mem_left (permuted : PermUpTo related left right)
    {item : beta} (member : item ∈ right) :
    ∃ source ∈ left, related source item := by
  obtain ⟨middle, permutation, pairs⟩ := permuted
  suffices found : ∃ source ∈ middle, related source item by
    obtain ⟨source, sourceMember, sourceRelated⟩ := found
    exact ⟨source, permutation.mem_iff.mpr sourceMember, sourceRelated⟩
  clear permutation
  induction pairs with
  | nil => cases member
  | cons head _ inductionHypothesis =>
      rcases List.mem_cons.mp member with rfl | later
      · exact ⟨_, List.mem_cons_self, head⟩
      · obtain ⟨source, sourceMember, sourceRelated⟩ := inductionHypothesis later
        exact ⟨source, List.mem_cons_of_mem _ sourceMember, sourceRelated⟩

theorem append {left' : List alpha} {right' : List beta}
    (first : PermUpTo related left right) (second : PermUpTo related left' right') :
    PermUpTo related (left ++ left') (right ++ right') := by
  obtain ⟨middle, permutation, pairs⟩ := first
  obtain ⟨middle', permutation', pairs'⟩ := second
  exact ⟨middle ++ middle', permutation.append permutation', List.rel_append pairs pairs'⟩

/-- Items that are related up to order make lists that are related up to order. -/
theorem flatMap {images : gamma → delta → Prop} {source : alpha → List gamma}
    {target : beta → List delta} (permuted : PermUpTo related left right)
    (each : ∀ item other, related item other → PermUpTo images (source item) (target other)) :
    PermUpTo images (left.flatMap source) (right.flatMap target) := by
  obtain ⟨middle, permutation, pairs⟩ := permuted
  have rest : PermUpTo images (middle.flatMap source) (right.flatMap target) := by
    clear permutation
    induction pairs with
    | nil => exact ⟨[], List.Perm.refl [], List.Forall₂.nil⟩
    | cons head _ inductionHypothesis =>
        rw [List.flatMap_cons, List.flatMap_cons]
        exact (each _ _ head).append inductionHypothesis
  obtain ⟨images', permutation', pairs'⟩ := rest
  exact ⟨images', (permutation.flatMap_right source).trans permutation', pairs'⟩

theorem perm {left right : List alpha} (permuted : PermUpTo Eq left right) :
    left.Perm right := by
  obtain ⟨middle, permutation, pairs⟩ := permuted
  rw [List.forall₂_eq_eq_eq] at pairs
  exact pairs ▸ permutation

theorem of_perm {left right : List alpha} (permutation : left.Perm right) :
    PermUpTo Eq left right :=
  ⟨right, permutation, List.forall₂_refl right⟩

end PermUpTo

/-! ## Rearranged programs -/

/-- The same file, with its literals in some order. -/
structure SourceFile.Rearranged (left right : SourceFile) : Prop where
  path : left.path = right.path
  comments : left.comments = right.comments
  literals : left.literals.Perm right.literals

structure Package.Rearranged (left right : Package) : Prop where
  name : left.name = right.name
  path : left.path = right.path
  files : PermUpTo SourceFile.Rearranged left.files right.files

/-- The same program, with its packages, their files and the literals of these in some order. -/
structure Program.Rearranged (left right : Program) : Prop where
  types : left.types = right.types
  packages : PermUpTo Package.Rearranged left.packages right.packages

structure ScannedFile.Rearranged (left right : ScannedFile) : Prop where
  packagePath : left.packagePath = right.packagePath
  file : left.file.Rearranged right.file

/-- What the comments of a path are does not depend on which of the files with this path is
asked. -/
def Program.CommentsAgree (program : Program) : Prop :=
  ∀ left ∈ program.packages.flatMap (·.files), ∀ right ∈ program.packages.flatMap (·.files),
    left.path = right.path → left.comments = right.comments

namespace SourceFile

theorem readComments_eq
    {left right : SourceFile} (path : left.path = right.path)
    (comments : left.comments = right.comments) (settings : Settings) (tree : FileTree)
    (root : Option String) :
    left.readComments settings tree root = right.readComments settings tree root := by
  simp only [readComments, path, comments]

end SourceFile

namespace ScannedFile

theorem among_eq_flatMap
    (settings : Settings) (packagePath : String) (files : List SourceFile) :
    among settings packagePath files =
      files.flatMap fun file =>
        if settings.isFileExcluded file.path then [] else [⟨packagePath, file⟩] := by
  induction files with
  | nil => rfl
  | cons file further inductionHypothesis =>
      rw [List.flatMap_cons, ← inductionHypothesis]
      cases included : settings.isFileExcluded file.path with
      | true => exact among_cons_of_excluded included packagePath further
      | false => exact among_cons_of_not_excluded included packagePath further

theorem among_rearranged
    {left right : List SourceFile} (files : PermUpTo SourceFile.Rearranged left right)
    (settings : Settings) (packagePath : String) :
    PermUpTo Rearranged (among settings packagePath left)
      (among settings packagePath right) := by
  rw [among_eq_flatMap, among_eq_flatMap]
  apply files.flatMap
  intro file other rearranged
  rw [rearranged.path]
  cases settings.isFileExcluded other.path with
  | true => exact ⟨[], List.Perm.refl [], List.Forall₂.nil⟩
  | false =>
      have pair : Rearranged ⟨packagePath, file⟩ ⟨packagePath, other⟩ := ⟨rfl, rearranged⟩
      exact ⟨_, List.Perm.refl _, List.Forall₂.cons pair List.Forall₂.nil⟩

theorem Rearranged.visits_perm
    {left right : ScannedFile} (rearranged : left.Rearranged right) (comments : CommentIndex) :
    (left.visits comments).Perm (right.visits comments) := by
  simp only [visits, rearranged.packagePath, rearranged.file.path]
  exact rearranged.file.literals.map _

end ScannedFile

namespace Program

/-- The visits of a file with the comments that are read for this very file. -/
def ownVisits (settings : Settings) (tree : FileTree) (root : Option String)
    (scanned : ScannedFile) : List Visit :=
  scanned.visits (scanned.file.readComments settings tree root).1

theorem mem_files_of_mem_scannedFiles
    {program : Program} {settings : Settings} {scanned : ScannedFile}
    (member : scanned ∈ program.scannedFiles settings) :
    scanned.file ∈ program.packages.flatMap (·.files) := by
  simp only [scannedFiles, ScannedFile.ofPackage, ScannedFile.among, List.mem_flatMap,
    List.mem_map, List.mem_filter] at member
  obtain ⟨package, packageMember, file, ⟨fileMember, _⟩, rfl⟩ := member
  exact List.mem_flatMap.mpr ⟨package, packageMember, fileMember⟩

/-- Where files of one path have the same comments, each file is judged by its own ones. -/
theorem CommentsAgree.commentsAt_eq
    {program : Program} (agree : program.CommentsAgree) {settings : Settings}
    {scanned : ScannedFile} (member : scanned ∈ program.scannedFiles settings)
    (tree : FileTree) (root : Option String) :
    program.commentsAt settings tree root scanned.file.path =
      (scanned.file.readComments settings tree root).1 := by
  unfold commentsAt ScannedFile.commentsAt?
  cases found : (program.scannedFiles settings).find? fun other =>
      other.file.path == scanned.file.path with
  | none =>
      have different := List.find?_eq_none.mp found scanned member
      exact absurd BEq.rfl different
  | some first =>
      have accepted := List.find?_some found
      have samePath : first.file.path = scanned.file.path := eq_of_beq accepted
      have sameComments : first.file.comments = scanned.file.comments :=
        agree first.file (mem_files_of_mem_scannedFiles (List.mem_of_find?_eq_some found))
          scanned.file (mem_files_of_mem_scannedFiles member) samePath
      rw [Option.map_some, SourceFile.readComments_eq samePath sameComments]
      rfl

theorem CommentsAgree.visits_eq
    {program : Program} (agree : program.CommentsAgree) (settings : Settings) (tree : FileTree)
    (root : Option String) :
    program.visits settings tree root =
      (program.scannedFiles settings).flatMap (ownVisits settings tree root) := by
  apply List.flatMap_congr
  intro scanned member
  rw [agree.commentsAt_eq member tree root]
  rfl

namespace Rearranged

variable {program other : Program}

theorem scannedFiles (rearranged : program.Rearranged other) (settings : Settings) :
    PermUpTo ScannedFile.Rearranged (program.scannedFiles settings)
      (other.scannedFiles settings) := by
  apply rearranged.packages.flatMap
  intro package image same
  unfold ScannedFile.ofPackage
  rw [same.path]
  exact ScannedFile.among_rearranged same.files settings image.path

theorem exists_mem_files
    (rearranged : program.Rearranged other) {file : SourceFile}
    (member : file ∈ other.packages.flatMap (·.files)) :
    ∃ source ∈ program.packages.flatMap (·.files), source.Rearranged file := by
  have files : PermUpTo SourceFile.Rearranged (program.packages.flatMap (·.files))
      (other.packages.flatMap (·.files)) :=
    rearranged.packages.flatMap fun _ _ same => same.files
  exact files.exists_mem_left member

theorem commentsAgree
    (rearranged : program.Rearranged other) (agree : program.CommentsAgree) :
    other.CommentsAgree := by
  intro left leftMember right rightMember samePath
  obtain ⟨leftSource, leftSourceMember, leftSame⟩ :=
    rearranged.exists_mem_files leftMember
  obtain ⟨rightSource, rightSourceMember, rightSame⟩ :=
    rearranged.exists_mem_files rightMember
  have sourcePath : leftSource.path = rightSource.path := by
    rw [leftSame.path, samePath, rightSame.path]
  rw [← leftSame.comments, ← rightSame.comments]
  exact agree leftSource leftSourceMember rightSource rightSourceMember sourcePath

/-- The same literals are visited with the same comments, in some other order. -/
theorem visits_perm
    (rearranged : program.Rearranged other) (agree : program.CommentsAgree)
    (settings : Settings) (tree : FileTree) (root : Option String) :
    (program.visits settings tree root).Perm (other.visits settings tree root) := by
  rw [agree.visits_eq, (rearranged.commentsAgree agree).visits_eq]
  apply PermUpTo.perm
  apply (rearranged.scannedFiles settings).flatMap
  intro scanned image same
  apply PermUpTo.of_perm
  rw [ownVisits, ownVisits, SourceFile.readComments_eq same.file.path same.file.comments]
  exact same.visits_perm _

end Rearranged

theorem length_visits
    (program : Program) (settings : Settings) (tree : FileTree) (root : Option String) :
    (program.visits settings tree root).length =
      ((program.scannedFiles settings).map (·.file.literals.length)).sum := by
  simp [visits, ScannedFile.visits, List.length_flatMap]

end Program

namespace Settings

/-- The order of packages, files and literals does not matter to the check of a program in which
files with the same path have the same comments. -/
theorem checkProgram_value_eq_of_rearranged
    (settings : Settings) (tree : FileTree) (root : Option String) {program other : Program}
    (agree : program.CommentsAgree) (rearranged : program.Rearranged other) :
    (settings.checkProgram tree root program).value =
      (settings.checkProgram tree root other).value := by
  have visits := rearranged.visits_perm agree settings tree root
  have files := rearranged.scannedFiles settings
  have sameTable : program.typeTable = other.typeTable := by
    rw [Program.typeTable, rearranged.types]
    rfl
  rw [checkProgram_value, checkProgram_value, sameTable]
  apply CheckResult.sort_eq_of_perm
  · exact visits.filterMap _
  · exact files.length_eq
  · have lengths := visits.length_eq
    rw [Program.length_visits, Program.length_visits] at lengths
    exact lengths

/-- Two packages that share a file, as a package and its test variant do. -/
def sharedFileProgram : Program where
  types := [⟨some "Pair", "p", "example.com/p", [⟨"First", ""⟩, ⟨"Second", ""⟩], []⟩]
  packages := [
    ⟨"p", "example.com/p", [
      ⟨"pair.go", none, [⟨3, .onLine 6 6 12, some 0, [], []⟩, ⟨5, .onLine 9 6 12, some 0, [], []⟩]⟩,
      ⟨"more.go", some [.ofLine "//exhaustruct:ignore" 3 2],
        [⟨7, .onLine 4 6 12, some 0, [], []⟩]⟩]⟩,
    ⟨"p_test", "example.com/p_test", [⟨"pair.go", none, [⟨3, .onLine 6 6 12, some 0, [], []⟩]⟩]⟩]

/-- The program with packages, files and literals the other way round. -/
def sharedFileProgramReversed : Program where
  types := sharedFileProgram.types
  packages := [
    ⟨"p_test", "example.com/p_test", [⟨"pair.go", none, [⟨3, .onLine 6 6 12, some 0, [], []⟩]⟩]⟩,
    ⟨"p", "example.com/p", [
      ⟨"more.go", some [.ofLine "//exhaustruct:ignore" 3 2],
        [⟨7, .onLine 4 6 12, some 0, [], []⟩]⟩,
      ⟨"pair.go", none,
        [⟨5, .onLine 9 6 12, some 0, [], []⟩, ⟨3, .onLine 6 6 12, some 0, [], []⟩]⟩]⟩]

theorem commentsAgree_sharedFileProgram : sharedFileProgram.CommentsAgree := by
  unfold Program.CommentsAgree
  decide

theorem sharedFileProgram_rearranged :
    sharedFileProgram.Rearranged sharedFileProgramReversed where
  types := rfl
  packages := by
    refine ⟨_, List.Perm.swap _ _ [], ?_⟩
    refine List.Forall₂.cons ⟨rfl, rfl, ?_⟩
      (List.Forall₂.cons ⟨rfl, rfl, ?_⟩ List.Forall₂.nil)
    · exact ⟨_, List.Perm.refl _,
        List.Forall₂.cons ⟨rfl, rfl, List.Perm.refl _⟩ List.Forall₂.nil⟩
    · refine ⟨_, List.Perm.swap _ _ [], ?_⟩
      exact List.Forall₂.cons ⟨rfl, rfl, List.Perm.refl _⟩
        (List.Forall₂.cons ⟨rfl, rfl, List.Perm.swap _ _ []⟩ List.Forall₂.nil)

/-- Two packages share a file, and everything is turned round. -/
theorem checkProgram_sharedFileProgram :
    sharedFileProgram.CommentsAgree ∧
      sharedFileProgram.Rearranged sharedFileProgramReversed ∧
      (standard.checkProgram ⟨.folder [], []⟩ none sharedFileProgram).value =
        (standard.checkProgram ⟨.folder [], []⟩ none sharedFileProgramReversed).value :=
  ⟨commentsAgree_sharedFileProgram, sharedFileProgram_rearranged,
    checkProgram_value_eq_of_rearranged standard ⟨.folder [], []⟩ none
      commentsAgree_sharedFileProgram sharedFileProgram_rearranged⟩

end Settings

end LiteralAudit
