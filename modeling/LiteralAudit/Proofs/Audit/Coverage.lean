import LiteralAudit.Audit.Run
import LiteralAudit.Proofs.Audit.DiagnosticOrder
import LiteralAudit.Proofs.Audit.Transparency
import Mathlib.Algebra.Ring.Nat

/-!
# What the check of a program covers

The check of a program looks at the files that are not left out, in the order of the program. Its
result is that of the verdicts on all their literals, where the comments of a path are those of the
first file with this path. The session that runs through the files keeps two facts: its memos are
faithful, and its memo of comments holds exactly the comments of the files that came before.
-/

namespace LiteralAudit

theorem CheckResult.empty_merge (result : CheckResult) :
    CheckResult.empty.merge result = result := by
  simp [merge, empty]

/-! ## Where comments come from -/

/-- The comments that a file is read with, and the notes that are made for them. Those that come
with the file count first; its source is looked at for them only where directives count. -/
inductive SourceFile.ReadFrom (file : SourceFile) (settings : Settings) (tree : FileTree)
    (root : Option String) : CommentIndex → List Note → Prop where
  | embedded {groups : List CommentGroup} (held : file.comments = some groups) :
      ReadFrom file settings tree root (.ofGroups groups) []
  | unused (unheld : file.comments = none) (off : settings.useDirectives = false) :
      ReadFrom file settings tree root .empty []
  | source {content : List UInt8} (unheld : file.comments = none)
      (used : settings.useDirectives = true)
      (read : tree.read (locate file.path root) = .ok content) :
      ReadFrom file settings tree root (.ofGroups (CommentGroup.ofSource content)) []
  | unreadable {fault : FileFault} (unheld : file.comments = none)
      (used : settings.useDirectives = true)
      (unread : tree.read (locate file.path root) = .error fault) :
      ReadFrom file settings tree root .empty
        [.commentsUnread file.path (locate file.path root) fault]

/-- There is just one way in which a file is read. -/
theorem SourceFile.readComments_of_readFrom
    {file : SourceFile} {settings : Settings} {tree : FileTree} {root : Option String}
    {index : CommentIndex} {notes : List Note}
    (origin : file.ReadFrom settings tree root index notes) :
    file.readComments settings tree root = (index, notes) := by
  cases origin with
  | embedded held => simp [readComments, held]
  | unused unheld off => simp [readComments, unheld, off]
  | source unheld used read => simp [readComments, unheld, used, read]
  | unreadable unheld used unread => simp [readComments, unheld, used, unread]

theorem SourceFile.exists_readFrom
    (file : SourceFile) (settings : Settings) (tree : FileTree) (root : Option String) :
    ∃ index notes, file.ReadFrom settings tree root index notes := by
  cases held : file.comments with
  | some groups => exact ⟨_, _, .embedded held⟩
  | none =>
      cases used : settings.useDirectives with
      | false => exact ⟨_, _, .unused held used⟩
      | true =>
          cases read : tree.read (locate file.path root) with
          | ok content => exact ⟨_, _, .source held used read⟩
          | error fault => exact ⟨_, _, .unreadable held used read⟩

theorem SourceFile.readComments_eq_iff
    {file : SourceFile} {settings : Settings} {tree : FileTree} {root : Option String}
    {index : CommentIndex} {notes : List Note} :
    file.readComments settings tree root = (index, notes) ↔
      file.ReadFrom settings tree root index notes := by
  constructor
  · intro read
    obtain ⟨found, made, origin⟩ := file.exists_readFrom settings tree root
    rw [readComments_of_readFrom origin] at read
    cases read
    exact origin
  · exact readComments_of_readFrom

/-! ## Files that are looked at -/

/-- A file that a check looks at, with the path of its package. -/
structure ScannedFile where
  packagePath : String
  file : SourceFile

namespace ScannedFile

/-- Those of some files of a package that are not left out. -/
def among (settings : Settings) (packagePath : String) (files : List SourceFile) :
    List ScannedFile :=
  (files.filter fun file => !settings.isFileExcluded file.path).map (⟨packagePath, ·⟩)

/-- The files of a package that are not left out. -/
def ofPackage (settings : Settings) (package : Package) : List ScannedFile :=
  among settings package.path package.files

theorem among_cons_of_excluded
    {settings : Settings} {file : SourceFile}
    (excluded : settings.isFileExcluded file.path = true)
    (packagePath : String) (further : List SourceFile) :
    among settings packagePath (file :: further) = among settings packagePath further := by
  simp [among, excluded]

theorem among_cons_of_not_excluded
    {settings : Settings} {file : SourceFile}
    (included : settings.isFileExcluded file.path = false)
    (packagePath : String) (further : List SourceFile) :
    among settings packagePath (file :: further) =
      ⟨packagePath, file⟩ :: among settings packagePath further := by
  simp [among, included]

/-- The comments of a path: those of the first of some files with this path. -/
def commentsAt? (settings : Settings) (tree : FileTree) (root : Option String)
    (files : List ScannedFile) (path : String) : Option CommentIndex :=
  (files.find? fun scanned => scanned.file.path == path).map fun scanned =>
    (scanned.file.readComments settings tree root).1

/-- Files that are looked at later do not change the comments of a path that is already known. -/
theorem commentsAt?_append
    (settings : Settings) (tree : FileTree) (root : Option String)
    (before after : List ScannedFile) (path : String) :
    commentsAt? settings tree root (before ++ after) path =
      (commentsAt? settings tree root before path).or
        (commentsAt? settings tree root after path) := by
  rw [commentsAt?, List.find?_append, Option.map_or]
  rfl

theorem commentsAt?_singleton
    (settings : Settings) (tree : FileTree) (root : Option String)
    (scanned : ScannedFile) (path : String) :
    commentsAt? settings tree root [scanned] path =
      if path == scanned.file.path then
        some (scanned.file.readComments settings tree root).1
      else none := by
  rw [commentsAt?, List.find?_singleton, BEq.comm]
  cases path == scanned.file.path with
  | true => rfl
  | false => rfl

/-- The comments of every path are known by a function, as far as some files have the path. -/
def Resolves (settings : Settings) (tree : FileTree) (root : Option String)
    (comments : String → CommentIndex) (files : List ScannedFile) : Prop :=
  ∀ path index, commentsAt? settings tree root files path = some index → comments path = index

theorem Resolves.of_append_left
    {settings : Settings} {tree : FileTree} {root : Option String}
    {comments : String → CommentIndex} {before after : List ScannedFile}
    (resolves : Resolves settings tree root comments (before ++ after)) :
    Resolves settings tree root comments before := by
  intro path index known
  apply resolves path index
  rw [commentsAt?_append, known]
  rfl

def visits (comments : CommentIndex) (scanned : ScannedFile) : List Visit :=
  scanned.file.literals.map fun site => ⟨scanned.packagePath, scanned.file.path, site, comments⟩

/-- The result that the verdicts on all literals of some files make up. -/
def result (settings : Settings) (types : TypeTable) (comments : String → CommentIndex)
    (files : List ScannedFile) : CheckResult where
  diagnostics :=
    (files.flatMap fun scanned => scanned.visits (comments scanned.file.path)).filterMap
      (·.verdict settings types)
  filesScanned := files.length
  literalsVisited := (files.map (·.file.literals.length)).sum

theorem result_append
    (settings : Settings) (types : TypeTable) (comments : String → CommentIndex)
    (before after : List ScannedFile) :
    result settings types comments (before ++ after) =
      (result settings types comments before).merge
        (result settings types comments after) := by
  simp [result, CheckResult.merge]

end ScannedFile

/-! ## What a session keeps -/

namespace Session

/-! No part of a visit touches the comments. -/

theorem comments_info? (session : Session) (type : Nat) :
    (session.info? type).2.comments = session.comments := by
  rfl

theorem comments_selectsType (session : Session) (name : TypeName) :
    (session.selectsType name).2.comments = session.comments := by
  unfold selectsType
  split
  · rfl
  · rfl

theorem comments_allowsEmpty (session : Session) (name : TypeName) (site : LiteralSite) :
    (session.allowsEmpty name site).2.comments = session.comments := by
  unfold allowsEmpty
  split
  · rfl
  · split
    · rfl
    · rfl

theorem comments_excuses (session : Session) (info : StructInfo) (visit : Visit) :
    (session.excuses info visit).2.comments = session.comments := by
  unfold excuses
  split
  · rfl
  · split
    · rfl
    · exact session.comments_allowsEmpty info.name visit.site

theorem comments_judge (session : Session) (info : StructInfo) (visit : Visit) :
    (session.judge info visit).session.comments = session.comments := by
  unfold judge
  split
  · rfl
  · rfl
  · exact session.comments_selectsType info.name

theorem comments_visitType (session : Session) (type : Nat) (visit : Visit) :
    (session.visitType type visit).session.comments = session.comments := by
  have looked := session.comments_info? type
  unfold visitType
  generalize session.info? type = answered at looked ⊢
  obtain ⟨answer, after⟩ := answered
  rw [← looked]
  cases answer with
  | none => rfl
  | some info =>
      have decided := after.comments_excuses info visit
      dsimp only
      split
      · exact decided
      · exact (comments_judge _ info visit).trans decided

theorem comments_visit (session : Session) (visit : Visit) :
    (session.visit visit).session.comments = session.comments := by
  unfold Session.visit
  split
  · rfl
  · exact session.comments_visitType _ visit

/-- Literals are decided without any effect on the memo of comments. -/
theorem comments_checkLiterals
    (session : Session) (packagePath file : String) (comments : CommentIndex)
    (literals : List LiteralSite) :
    (session.checkLiterals packagePath file comments literals).session.comments =
      session.comments := by
  induction literals generalizing session with
  | nil => rfl
  | cons site further inductionHypothesis =>
      exact (inductionHypothesis _).trans (session.comments_visit _)

/-- A session that is faithful and knows the comments of exactly the files that it has looked
at. -/
structure Tracks (session : Session) (settings : Settings) (types : TypeTable) (tree : FileTree)
    (root : Option String) (before : List ScannedFile) : Prop
    extends session.Faithful settings types where
  known :
    ∀ path, session.comments.find? path =
      ScannedFile.commentsAt? settings tree root before path

theorem tracks_new
    (settings : Settings) (types : TypeTable) (tree : FileTree) (root : Option String) :
    (new settings types).Tracks settings types tree root [] where
  toFaithful := faithful_new settings types
  known := fun _ => rfl

namespace Tracks

variable {session : Session} {settings : Settings} {types : TypeTable} {tree : FileTree}
  {root : Option String} {before : List ScannedFile}

theorem of_comments_eq
    (tracks : session.Tracks settings types tree root before) {after : Session}
    (faithful : after.Faithful settings types)
    (sameComments : after.comments = session.comments) :
    after.Tracks settings types tree root before where
  toFaithful := faithful
  known := by
    rw [sameComments]
    exact tracks.known

/-- The step answers with the comments of the first file that has the path, be it this one or an
earlier one. -/
theorem commentsOf_value
    (tracks : session.Tracks settings types tree root before) (scanned : ScannedFile) :
    ScannedFile.commentsAt? settings tree root (before ++ [scanned]) scanned.file.path =
      some (session.commentsOf tree root scanned.file).value := by
  have known := tracks.known scanned.file.path
  rw [ScannedFile.commentsAt?_append, ScannedFile.commentsAt?_singleton, if_pos BEq.rfl, ← known]
  unfold Session.commentsOf
  cases session.comments.find? scanned.file.path with
  | some index => rfl
  | none =>
      rw [tracks.sameSettings]
      rfl

/-- Reading the comments of a file puts the file behind those that came before. -/
theorem commentsOf
    (tracks : session.Tracks settings types tree root before) (scanned : ScannedFile) :
    (session.commentsOf tree root scanned.file).session.Tracks settings types tree root
      (before ++ [scanned]) where
  toFaithful := tracks.toFaithful.commentsOf tree root scanned.file
  known := by
    intro path
    have known := tracks.known path
    rw [ScannedFile.commentsAt?_append, ScannedFile.commentsAt?_singleton, ← known]
    unfold Session.commentsOf
    cases found : session.comments.find? scanned.file.path with
    | some index =>
        dsimp only
        rw [Memo.find?_hit]
        split
        · next same =>
            rw [eq_of_beq same, found]
            rfl
        · rw [Option.or_none]
    | none =>
        dsimp only
        rw [Memo.find?_keep, Memo.find?_miss, tracks.sameSettings]
        split
        · next same =>
            rw [eq_of_beq same, found]
            rfl
        · rw [Option.or_none]

/-! ## Files and packages -/

theorem checkFile_of_excluded
    (tracks : session.Tracks settings types tree root before) {file : SourceFile}
    (excluded : settings.isFileExcluded file.path = true) (packagePath : String) :
    session.checkFile tree root packagePath file =
      ⟨.empty, session, [.fileExcluded file.path]⟩ := by
  obtain rfl := tracks.sameSettings
  rw [Session.checkFile, if_pos excluded]

theorem checkFile_of_not_excluded
    (tracks : session.Tracks settings types tree root before) (scanned : ScannedFile)
    (included : settings.isFileExcluded scanned.file.path = false) :
    (session.checkFile tree root scanned.packagePath scanned.file).session.Tracks
      settings types tree root (before ++ [scanned]) := by
  have loaded := tracks.commentsOf scanned
  have checked := tracks.toFaithful.checkFile tree root scanned.packagePath scanned.file
  refine loaded.of_comments_eq checked ?_
  rw [Session.checkFile, tracks.sameSettings, if_neg (Bool.eq_false_iff.mp included)]
  exact comments_checkLiterals _ _ _ _ _

theorem checkFile_value
    (tracks : session.Tracks settings types tree root before) (scanned : ScannedFile)
    (included : settings.isFileExcluded scanned.file.path = false)
    {comments : String → CommentIndex}
    (resolves : ScannedFile.Resolves settings tree root comments (before ++ [scanned])) :
    (session.checkFile tree root scanned.packagePath scanned.file).value =
      ScannedFile.result settings types comments [scanned] := by
  have loaded := tracks.toFaithful.commentsOf tree root scanned.file
  have sameIndex := resolves _ _ (tracks.commentsOf_value scanned)
  rw [Session.checkFile, tracks.sameSettings, if_neg (Bool.eq_false_iff.mp included)]
  dsimp only
  rw [loaded.checkLiterals_value, ← sameIndex]
  simp [ScannedFile.result, ScannedFile.visits, List.filterMap_map]

/-- The files of a package come behind those that came before, less the ones that are left out. -/
theorem checkFiles
    (tracks : session.Tracks settings types tree root before) (packagePath : String)
    (files : List SourceFile) :
    (session.checkFiles tree root packagePath files).session.Tracks settings types tree root
      (before ++ ScannedFile.among settings packagePath files) := by
  induction files generalizing session before with
  | nil =>
      rw [Session.checkFiles]
      simpa [ScannedFile.among] using tracks
  | cons file further inductionHypothesis =>
      rw [Session.checkFiles]
      cases included : settings.isFileExcluded file.path with
      | true =>
          rw [tracks.checkFile_of_excluded included, ScannedFile.among_cons_of_excluded included]
          exact inductionHypothesis tracks
      | false =>
          have first := tracks.checkFile_of_not_excluded ⟨packagePath, file⟩ included
          rw [ScannedFile.among_cons_of_not_excluded included, List.append_cons]
          exact inductionHypothesis first

theorem checkFiles_value
    (tracks : session.Tracks settings types tree root before) (packagePath : String)
    (files : List SourceFile) {comments : String → CommentIndex}
    (resolves :
      ScannedFile.Resolves settings tree root comments
        (before ++ ScannedFile.among settings packagePath files)) :
    (session.checkFiles tree root packagePath files).value =
      ScannedFile.result settings types comments
        (ScannedFile.among settings packagePath files) := by
  induction files generalizing session before with
  | nil => rfl
  | cons file further inductionHypothesis =>
      rw [Session.checkFiles]
      cases included : settings.isFileExcluded file.path with
      | true =>
          rw [ScannedFile.among_cons_of_excluded included] at resolves ⊢
          rw [tracks.checkFile_of_excluded included, CheckResult.empty_merge]
          exact inductionHypothesis tracks resolves
      | false =>
          rw [ScannedFile.among_cons_of_not_excluded included] at resolves ⊢
          rw [List.append_cons] at resolves
          have first := tracks.checkFile_of_not_excluded ⟨packagePath, file⟩ included
          have found :=
            tracks.checkFile_value ⟨packagePath, file⟩ included resolves.of_append_left
          have rest := inductionHypothesis first resolves
          rw [← List.singleton_append, ScannedFile.result_append, ← found, ← rest]

/-- Packages are joined in their order, each one with the session that the packages before it left.
-/
theorem checkPackages_value
    (tracks : session.Tracks settings types tree root before) (packages : List Package)
    {comments : String → CommentIndex}
    (resolves :
      ScannedFile.Resolves settings tree root comments
        (before ++ packages.flatMap (ScannedFile.ofPackage settings))) :
    (session.checkPackages tree root packages).value =
      ScannedFile.result settings types comments
        (packages.flatMap (ScannedFile.ofPackage settings)) := by
  induction packages generalizing session before with
  | nil => rfl
  | cons package further inductionHypothesis =>
      rw [List.flatMap_cons, ← List.append_assoc] at resolves
      have first := tracks.checkFiles_value package.path package.files resolves.of_append_left
      have rest := inductionHypothesis (tracks.checkFiles package.path package.files) resolves
      rw [Session.checkPackages, Session.checkPackage, List.flatMap_cons,
        ScannedFile.result_append, rest, first]
      rfl

end Tracks

end Session

/-! ## Programs -/

namespace Program

/-- The files of a program that are not left out. -/
def scannedFiles (program : Program) (settings : Settings) : List ScannedFile :=
  program.packages.flatMap (ScannedFile.ofPackage settings)

def commentsAt (program : Program) (settings : Settings) (tree : FileTree) (root : Option String)
    (path : String) : CommentIndex :=
  (ScannedFile.commentsAt? settings tree root (program.scannedFiles settings) path).getD .empty

/-- The visits of all literals of a program that are in files that are not left out. -/
def visits (program : Program) (settings : Settings) (tree : FileTree) (root : Option String) :
    List Visit :=
  (program.scannedFiles settings).flatMap fun scanned =>
    scanned.visits (program.commentsAt settings tree root scanned.file.path)

theorem resolves_commentsAt
    (program : Program) (settings : Settings) (tree : FileTree) (root : Option String) :
    ScannedFile.Resolves settings tree root (program.commentsAt settings tree root)
      (program.scannedFiles settings) := by
  intro path index known
  rw [commentsAt, known]
  rfl

/-- The comments of the first file with a path are those of the path. -/
theorem commentsAt_eq_of_first
    {program : Program} {settings : Settings} {before after : List ScannedFile}
    {first : ScannedFile}
    (order : program.scannedFiles settings = before ++ first :: after)
    (noneBefore : ∀ earlier ∈ before, earlier.file.path ≠ first.file.path)
    (tree : FileTree) (root : Option String) :
    program.commentsAt settings tree root first.file.path =
      (first.file.readComments settings tree root).1 := by
  have notBefore :
      ScannedFile.commentsAt? settings tree root before first.file.path = none := by
    rw [ScannedFile.commentsAt?, Option.map_eq_none_iff, List.find?_eq_none]
    intro earlier member
    simpa using noneBefore earlier member
  rw [commentsAt, order, List.append_cons, ScannedFile.commentsAt?_append,
    ScannedFile.commentsAt?_append, notBefore, ScannedFile.commentsAt?_singleton,
    if_pos BEq.rfl]
  rfl

/-- The verdicts on the literals of a path go by the comments that come with the first file with this
path, or else by those in its source. -/
theorem readFrom_commentsAt
    {program : Program} {settings : Settings} {before after : List ScannedFile}
    {first : ScannedFile}
    (order : program.scannedFiles settings = before ++ first :: after)
    (noneBefore : ∀ earlier ∈ before, earlier.file.path ≠ first.file.path)
    (tree : FileTree) (root : Option String) :
    ∃ notes, first.file.ReadFrom settings tree root
      (program.commentsAt settings tree root first.file.path) notes := by
  rw [commentsAt_eq_of_first order noneBefore tree root]
  exact ⟨_, SourceFile.readComments_eq_iff.mp rfl⟩

end Program

namespace Settings

/-- The memos of the session leave no trace in the result. -/
theorem checkProgram_value
    (settings : Settings) (tree : FileTree) (root : Option String) (program : Program) :
    (settings.checkProgram tree root program).value =
      (ScannedFile.result settings program.typeTable (program.commentsAt settings tree root)
        (program.scannedFiles settings)).sort := by
  have fresh := Session.tracks_new settings program.typeTable tree root
  have checked := fresh.checkPackages_value program.packages
    (program.resolves_commentsAt settings tree root)
  rw [checkProgram, checked]
  rfl

/-- The check of a program finds the verdicts on all its literals, sorted, and counts the files and
the literals that it looked at. The comments of a path are those of the first file with it. -/
theorem checkProgram_covers_program
    (settings : Settings) (tree : FileTree) (root : Option String) (program : Program) :
    (settings.checkProgram tree root program).value.diagnostics.Pairwise
        (fun earlier later => earlier.key ≤ later.key) ∧
      (settings.checkProgram tree root program).value.diagnostics.Perm
        ((program.visits settings tree root).filterMap
          (·.verdict settings program.typeTable)) ∧
      (∀ before first after,
        program.scannedFiles settings = before ++ first :: after →
          (∀ earlier ∈ before, earlier.file.path ≠ first.file.path) →
            program.commentsAt settings tree root first.file.path =
              (first.file.readComments settings tree root).1) ∧
      (settings.checkProgram tree root program).value.filesScanned =
        (program.scannedFiles settings).length ∧
      (settings.checkProgram tree root program).value.literalsVisited =
        ((program.scannedFiles settings).map (·.file.literals.length)).sum := by
  refine ⟨?_, ?_, ?_, ?_, ?_⟩
  · rw [checkProgram_value]
    exact CheckResult.sort_diagnostics_pairwise _
  · rw [checkProgram_value]
    exact CheckResult.sort_diagnostics_perm _
  · intro before first after order noneBefore
    exact Program.commentsAt_eq_of_first order noneBefore tree root
  · rw [checkProgram_value]
    rfl
  · rw [checkProgram_value]
    rfl

end Settings

end LiteralAudit
