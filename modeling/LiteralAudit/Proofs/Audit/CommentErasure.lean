import LiteralAudit.Proofs.Audit.Coverage
import LiteralAudit.Proofs.Audit.Rearrangement
import LiteralAudit.Proofs.Source.Directive

/-!
# Programs without their comments

Comments reach a verdict in two ways only: through the directive that a literal finds in the
comments of its file, and through the directive of the declaration of its type. Settings that do not
use directives close both ways, so that a check finds the same in a program with all its comments,
with others, or with none. A directive that a literal finds for itself closes the second way
alone.
-/

namespace LiteralAudit

def RecordType.withoutComments (record : RecordType) : RecordType :=
  { record with comments := [] }

def TypeTable.withoutComments (types : TypeTable) : TypeTable :=
  ⟨types.types.map (·.withoutComments)⟩

/-- The file without its comments, as if they had to be read from the source. -/
def SourceFile.withoutComments (file : SourceFile) : SourceFile :=
  { file with comments := none }

/-- The package without the comments of its files. -/
def Package.withoutComments (package : Package) : Package :=
  { package with files := package.files.map (·.withoutComments) }

/-- The program without any comments. Programs differ only in comments when they are the same
without them. -/
def Program.withoutComments (program : Program) : Program where
  types := program.types.map (·.withoutComments)
  packages := program.packages.map (·.withoutComments)

theorem TypeTable.get?_withoutComments (types : TypeTable) (index : Nat) :
    types.withoutComments.get? index = (types.get? index).map (·.withoutComments) := by
  rw [get?, get?, withoutComments, List.getElem?_map]

/-! ## Verdicts -/

namespace Visit

theorem directive_of_noDirectives {settings : Settings}
    (noDirectives : settings.useDirectives = false) (visit : Visit) (info : StructInfo) :
    visit.directive settings info = .unspecified := by
  rw [directive, noDirectives]
  rfl

/-- Without directives the patterns of types alone decide. -/
theorem isAudited_of_noDirectives {settings : Settings}
    (noDirectives : settings.useDirectives = false) (visit : Visit) (info : StructInfo) :
    visit.isAudited settings info = settings.selects info.name.matchingKey := by
  rw [isAudited, directive_of_noDirectives noDirectives]

/-- Nobody asks for the directive of the type: directives do not count, or the literal has one of
its own. -/
def IgnoresDeclaration (visit : Visit) (settings : Settings) : Prop :=
  settings.useDirectives = false ∨
    (resolveDirective visit.site visit.comments).isSpecified = true

theorem IgnoresDeclaration.directive_eq {visit : Visit} {settings : Settings}
    (ignores : visit.IgnoresDeclaration settings) (info other : StructInfo) :
    visit.directive settings info = visit.directive settings other := by
  rcases ignores with noDirectives | specified
  · rw [directive_of_noDirectives noDirectives, directive_of_noDirectives noDirectives]
  · rw [directive, directive, Directive.orElse_of_isSpecified specified,
      Directive.orElse_of_isSpecified specified]

theorem IgnoresDeclaration.verdictOn_eq {visit : Visit} {settings : Settings}
    (ignores : visit.IgnoresDeclaration settings) (record : RecordType) :
    visit.verdictOn settings (.ofRecord record.withoutComments) =
      visit.verdictOn settings (.ofRecord record) := by
  have excused :
      visit.isExcused settings (.ofRecord record.withoutComments) =
        visit.isExcused settings (.ofRecord record) := rfl
  have audited :
      visit.isAudited settings (.ofRecord record.withoutComments) =
        visit.isAudited settings (.ofRecord record) := by
    rw [isAudited, isAudited, ignores.directive_eq _ (.ofRecord record)]
    rfl
  have diagnosed :
      visit.diagnose (.ofRecord record.withoutComments) = visit.diagnose (.ofRecord record) := rfl
  rw [verdictOn, verdictOn, excused, audited, diagnosed]

/-- The comments of declarations can be erased where no directive is taken from them. -/
theorem IgnoresDeclaration.verdict_eq {visit : Visit} {settings : Settings}
    (ignores : visit.IgnoresDeclaration settings) (types : TypeTable) :
    visit.verdict settings types.withoutComments = visit.verdict settings types := by
  unfold verdict record?
  cases visit.site.type with
  | none => rfl
  | some type =>
      rw [Option.bind_some, Option.bind_some, TypeTable.get?_withoutComments]
      cases types.get? type with
      | none => rfl
      | some record => exact ignores.verdictOn_eq record

/-- Without directives the comments of the file and those of the declarations make no difference. -/
theorem verdict_of_noDirectives {settings : Settings}
    (noDirectives : settings.useDirectives = false) (packagePath file : String)
    (site : LiteralSite) (comments others : CommentIndex) (types : TypeTable) :
    verdict ⟨packagePath, file, site, comments⟩ settings types =
      verdict ⟨packagePath, file, site, others⟩ settings types := by
  unfold verdict verdictOn
  simp only [isAudited_of_noDirectives noDirectives]
  rfl

end Visit

/-! ## Files and programs -/

namespace ScannedFile

def withoutComments (scanned : ScannedFile) : ScannedFile :=
  ⟨scanned.packagePath, scanned.file.withoutComments⟩

theorem among_withoutComments
    (settings : Settings) (packagePath : String) (files : List SourceFile) :
    among settings packagePath (files.map (·.withoutComments)) =
      (among settings packagePath files).map (·.withoutComments) := by
  rw [among, among, List.filter_map, List.map_map, List.map_map]
  rfl

/-- Where directives do not count, the files have the same result with any comments. -/
theorem result_withoutComments {settings : Settings}
    (noDirectives : settings.useDirectives = false) (types : TypeTable)
    (comments others : String → CommentIndex) (files : List ScannedFile) :
    result settings types.withoutComments others (files.map (·.withoutComments)) =
      result settings types comments files := by
  induction files with
  | nil => rfl
  | cons scanned further inductionHypothesis =>
      have first :
          result settings types.withoutComments others [scanned.withoutComments] =
            result settings types comments [scanned] := by
        simp only [result, visits, List.flatMap_singleton, List.filterMap_map]
        congr 1
        apply List.filterMap_congr
        intro site _
        have ignores : Visit.IgnoresDeclaration
            ⟨scanned.packagePath, scanned.file.path, site, others scanned.file.path⟩ settings :=
          Or.inl noDirectives
        exact (ignores.verdict_eq types).trans
          (Visit.verdict_of_noDirectives noDirectives _ _ site _ _ types)
      calc
        result settings types.withoutComments others
              (scanned.withoutComments :: further.map (·.withoutComments)) =
            (result settings types.withoutComments others [scanned.withoutComments]).merge
              (result settings types.withoutComments others
                (further.map (·.withoutComments))) := result_append _ _ _ [_] _
        _ = (result settings types comments [scanned]).merge
              (result settings types comments further) := by rw [first, inductionHypothesis]
        _ = result settings types comments (scanned :: further) :=
              (result_append _ _ _ [scanned] further).symm

end ScannedFile

theorem Program.scannedFiles_withoutComments (settings : Settings) (program : Program) :
    program.withoutComments.scannedFiles settings =
      (program.scannedFiles settings).map (·.withoutComments) := by
  rw [scannedFiles, scannedFiles, withoutComments, List.flatMap_map, List.map_flatMap]
  apply List.flatMap_congr
  intro package _
  exact ScannedFile.among_withoutComments settings package.path package.files

namespace Settings

/-- Erasing all comments, and looking for sources elsewhere, does not change the result. -/
theorem checkProgram_value_withoutComments {settings : Settings}
    (noDirectives : settings.useDirectives = false) (program : Program)
    (tree tree' : FileTree) (root root' : Option String) :
    (settings.checkProgram tree' root' program.withoutComments).value =
      (settings.checkProgram tree root program).value := by
  rw [checkProgram_value, checkProgram_value, Program.scannedFiles_withoutComments]
  congr 1
  exact ScannedFile.result_withoutComments noDirectives program.typeTable _ _ _

/-- Where directives do not count, programs that differ only in comments have the same result, on
whatever files and wherever their sources are looked for. -/
theorem checkProgram_value_eq_of_withoutComments_eq {settings : Settings}
    (noDirectives : settings.useDirectives = false) {left right : Program}
    (same : left.withoutComments = right.withoutComments)
    (tree tree' : FileTree) (root root' : Option String) :
    (settings.checkProgram tree root left).value =
      (settings.checkProgram tree' root' right).value := by
  have erasedLeft := checkProgram_value_withoutComments noDirectives left tree tree root root
  have erasedRight := checkProgram_value_withoutComments noDirectives right tree' tree root' root
  rw [← erasedLeft, ← erasedRight, same]

/-- The shared file with a directive in its comments, and another one at the declaration of the
type. -/
def silencedFileProgram : Program where
  types := [⟨some "Pair", "p", "example.com/p", [⟨"First", ""⟩, ⟨"Second", ""⟩],
    [.ofLine "//exhaustruct:enforce" 3 1]⟩]
  packages := [
    ⟨"p", "example.com/p", [
      ⟨"pair.go", some [.ofLine "//exhaustruct:ignore" 5 2],
        [⟨3, .onLine 6 6 12, some 0, [], []⟩, ⟨5, .onLine 9 6 12, some 0, [], []⟩]⟩,
      ⟨"more.go", none, [⟨7, .onLine 4 6 12, some 0, [], []⟩]⟩]⟩,
    ⟨"p_test", "example.com/p_test", [
      ⟨"pair.go", some [], [⟨3, .onLine 6 6 12, some 0, [], []⟩]⟩]⟩]

/-- Files of which one holds a directive above the literal on its fourth line. -/
def directiveTree : FileTree :=
  ⟨.folder [("more.go",
      .file (Utf8.encode "package p\n\n//exhaustruct:ignore\nvar _ = Pair\x7b\x7d\n"))],
    []⟩

/-- The standard settings without directives. -/
def undirected : Settings :=
  { standard with useDirectives := false }

/-- In one program a comment silences the literal, in the other one there is none; without
directives they have the same result. -/
theorem checkProgram_silencedFileProgram :
    undirected.useDirectives = false ∧
      sharedFileProgram.withoutComments = silencedFileProgram.withoutComments ∧
      (undirected.checkProgram ⟨.folder [], []⟩ none sharedFileProgram).value =
        (undirected.checkProgram directiveTree none silencedFileProgram).value := by
  have noDirectives : undirected.useDirectives = false := rfl
  have same : sharedFileProgram.withoutComments = silencedFileProgram.withoutComments := rfl
  exact ⟨noDirectives, same,
    checkProgram_value_eq_of_withoutComments_eq noDirectives same _ _ _ _⟩

end Settings

end LiteralAudit
