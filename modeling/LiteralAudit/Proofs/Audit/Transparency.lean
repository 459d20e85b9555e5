import LiteralAudit.Audit.Session
import LiteralAudit.Proofs.Audit.MemoAgreement
import LiteralAudit.Proofs.Audit.Verdict

/-!
# Memos change no answer

A session is faithful to settings and struct types when its memos hold nothing but what these
decide. A new session is faithful, every step keeps it so, and a faithful session answers a visit
with the verdict, which asks no memo. So the answer to a visit does not depend on what the session
did before.

The comments of files are kept apart from this: a visit brings its comments along, and no part of a
visit touches the memo of comments.
-/

namespace LiteralAudit

namespace PatternList

theorem matchesWhole_of_isEmpty
    {list : PatternList} (noPatterns : list.isEmpty = true) (name : String) :
    list.matchesWhole name = false := by
  rw [matchesWhole, List.isEmpty_iff.mp noPatterns]
  rfl

end PatternList

namespace Settings

/-- Without any pattern of types, all types are asked for. -/
theorem selects_of_not_filtersTypes
    {settings : Settings} (unfiltered : settings.filtersTypes = false) (name : String) :
    settings.selects name = true := by
  simp only [filtersTypes, Bool.or_eq_false_iff, Bool.not_eq_false'] at unfiltered
  obtain ⟨noIncludes, noExcludes⟩ := unfiltered
  rw [selects, noIncludes, PatternList.matchesWhole_of_isEmpty noExcludes]
  rfl

end Settings

namespace Session

/-- The memos of a session hold nothing but what settings and struct types decide. -/
structure Faithful (session : Session) (settings : Settings) (types : TypeTable) : Prop where
  sameSettings : session.settings = settings
  sameTypes : session.types = types
  infos : session.infos.Agrees fun type => (types.get? type).map .ofRecord
  selections : session.selections.Agrees fun name => some (settings.selects name)
  allowances :
    session.allowances.Agrees fun name =>
      some (settings.allowEmptyPatterns.matchesWhole name)

theorem faithful_new (settings : Settings) (types : TypeTable) :
    (new settings types).Faithful settings types where
  sameSettings := rfl
  sameTypes := rfl
  infos := Memo.agrees_empty _
  selections := Memo.agrees_empty _
  allowances := Memo.agrees_empty _

namespace Faithful

variable {session : Session} {settings : Settings} {types : TypeTable}

/-! ## The parts of a visit -/

/-- A memo answers what the table does. -/
theorem info?_value (faithful : session.Faithful settings types) (type : Nat) :
    (session.info? type).1 = (types.get? type).map .ofRecord := by
  obtain rfl := faithful.sameTypes
  exact faithful.infos.fetch?_value type

theorem info? (faithful : session.Faithful settings types) (type : Nat) :
    (session.info? type).2.Faithful settings types := by
  obtain rfl := faithful.sameTypes
  exact { faithful with infos := faithful.infos.fetch? type }

theorem selectsType_value (faithful : session.Faithful settings types) (name : TypeName) :
    (session.selectsType name).1 = settings.selects name.matchingKey := by
  obtain rfl := faithful.sameSettings
  unfold Session.selectsType
  by_cases filtered : session.settings.filtersTypes = true
  · rw [if_pos filtered]
    exact faithful.selections.fetch_value name.matchingKey
  · rw [if_neg filtered]
    exact (Settings.selects_of_not_filtersTypes (Bool.eq_false_iff.mpr filtered) _).symm

theorem selectsType (faithful : session.Faithful settings types) (name : TypeName) :
    (session.selectsType name).2.Faithful settings types := by
  obtain rfl := faithful.sameSettings
  unfold Session.selectsType
  split
  · exact { faithful with selections := faithful.selections.fetch name.matchingKey }
  · exact faithful

theorem allowsEmpty_value
    (faithful : session.Faithful settings types) (name : TypeName) (site : LiteralSite) :
    (session.allowsEmpty name site).1 =
      (settings.allowsEmptyIn (.ofSite site) ||
        settings.allowEmptyPatterns.matchesWhole name.matchingKey) := by
  obtain rfl := faithful.sameSettings
  unfold Session.allowsEmpty
  by_cases allowed : session.settings.allowsEmptyIn (.ofSite site) = true
  · rw [if_pos allowed, allowed, Bool.true_or]
  · rw [if_neg allowed, Bool.eq_false_iff.mpr allowed, Bool.false_or]
    by_cases noPatterns : session.settings.allowEmptyPatterns.isEmpty = true
    · rw [if_pos noPatterns]
      exact (PatternList.matchesWhole_of_isEmpty noPatterns _).symm
    · rw [if_neg noPatterns]
      exact faithful.allowances.fetch_value name.matchingKey

theorem allowsEmpty
    (faithful : session.Faithful settings types) (name : TypeName) (site : LiteralSite) :
    (session.allowsEmpty name site).2.Faithful settings types := by
  obtain rfl := faithful.sameSettings
  unfold Session.allowsEmpty
  split
  · exact faithful
  · split
    · exact faithful
    · exact { faithful with allowances := faithful.allowances.fetch name.matchingKey }

/-- A session excuses the literals that the settings alone excuse. -/
theorem excuses_value
    (faithful : session.Faithful settings types) (info : StructInfo) (visit : Visit) :
    (session.excuses info visit).1 = visit.isExcused settings info := by
  unfold Session.excuses Visit.isExcused
  cases visit.shape.isEmpty with
  | false => rfl
  | true =>
      cases visit.site.isExemptReturn with
      | true => rfl
      | false => exact faithful.allowsEmpty_value info.name visit.site

theorem excuses
    (faithful : session.Faithful settings types) (info : StructInfo) (visit : Visit) :
    (session.excuses info visit).2.Faithful settings types := by
  unfold Session.excuses
  split
  · exact faithful
  · split
    · exact faithful
    · exact faithful.allowsEmpty info.name visit.site

/-- A session decides a literal as its directive and the settings do. -/
theorem judge_value
    (faithful : session.Faithful settings types) (info : StructInfo) (visit : Visit) :
    (session.judge info visit).value =
      if visit.isAudited settings info then visit.diagnose info else none := by
  obtain rfl := faithful.sameSettings
  unfold Session.judge Visit.isAudited
  cases visit.directive session.settings info with
  | ignore => rfl
  | enforce => rfl
  | unspecified =>
      dsimp only
      rw [faithful.selectsType_value]

theorem judge
    (faithful : session.Faithful settings types) (info : StructInfo) (visit : Visit) :
    (session.judge info visit).session.Faithful settings types := by
  unfold Session.judge
  split
  · exact faithful
  · exact faithful
  · exact faithful.selectsType info.name

/-! ## Visits -/

theorem visitType_value
    (faithful : session.Faithful settings types) (type : Nat) (visit : Visit) :
    (session.visitType type visit).value =
      (types.get? type).bind fun record => visit.verdictOn settings (.ofRecord record) := by
  have found := faithful.info?_value type
  have looked := faithful.info? type
  unfold Session.visitType
  generalize session.info? type = answered at found looked ⊢
  obtain ⟨answer, after⟩ := answered
  obtain rfl : answer = (types.get? type).map .ofRecord := found
  replace looked : after.Faithful settings types := looked
  cases types.get? type with
  | none => rfl
  | some record =>
      have excused := looked.excuses_value (.ofRecord record) visit
      have decided := looked.excuses (.ofRecord record) visit
      simp only [Option.map_some, Option.bind_some, Visit.verdictOn, excused]
      cases visit.isExcused settings (.ofRecord record) with
      | true => rfl
      | false => exact decided.judge_value (.ofRecord record) visit

theorem visitType
    (faithful : session.Faithful settings types) (type : Nat) (visit : Visit) :
    (session.visitType type visit).session.Faithful settings types := by
  have looked := faithful.info? type
  unfold Session.visitType
  generalize session.info? type = answered at looked ⊢
  obtain ⟨answer, after⟩ := answered
  cases answer with
  | none => exact looked
  | some info =>
      have decided := looked.excuses info visit
      dsimp only
      split
      · exact decided
      · exact decided.judge info visit

/-- A visit in a faithful session gives the verdict, which knows no memo. -/
theorem visit_value (faithful : session.Faithful settings types) (visit : Visit) :
    (session.visit visit).value = visit.verdict settings types := by
  unfold Session.visit Visit.verdict Visit.record?
  cases visit.site.type with
  | none => rfl
  | some type => exact faithful.visitType_value type visit

/-- A visit keeps the session faithful. -/
theorem visit (faithful : session.Faithful settings types) (visit : Visit) :
    (session.visit visit).session.Faithful settings types := by
  unfold Session.visit
  cases visit.site.type with
  | none => exact faithful
  | some type => exact faithful.visitType type visit

/-! ## Files and packages -/

theorem commentsOf
    (faithful : session.Faithful settings types) (tree : FileTree) (root : Option String)
    (file : SourceFile) :
    (session.commentsOf tree root file).session.Faithful settings types := by
  unfold Session.commentsOf
  split
  · exact { faithful with }
  · exact { faithful with }

theorem checkLiterals
    (faithful : session.Faithful settings types) (packagePath file : String)
    (comments : CommentIndex) (literals : List LiteralSite) :
    (session.checkLiterals packagePath file comments literals).session.Faithful settings types := by
  induction literals generalizing session with
  | nil => exact faithful
  | cons site further inductionHypothesis =>
      exact inductionHypothesis (faithful.visit ⟨packagePath, file, site, comments⟩)

theorem checkLiterals_value
    (faithful : session.Faithful settings types) (packagePath file : String)
    (comments : CommentIndex) (literals : List LiteralSite) :
    (session.checkLiterals packagePath file comments literals).value =
      literals.filterMap fun site =>
        Visit.verdict ⟨packagePath, file, site, comments⟩ settings types := by
  induction literals generalizing session with
  | nil => rfl
  | cons site further inductionHypothesis =>
      have first := faithful.visit_value ⟨packagePath, file, site, comments⟩
      have rest := inductionHypothesis (faithful.visit ⟨packagePath, file, site, comments⟩)
      rw [Session.checkLiterals, first, rest, List.filterMap_cons]
      cases Visit.verdict ⟨packagePath, file, site, comments⟩ settings types with
      | none => rfl
      | some diagnostic => rfl

theorem checkFile
    (faithful : session.Faithful settings types) (tree : FileTree) (root : Option String)
    (packagePath : String) (file : SourceFile) :
    (session.checkFile tree root packagePath file).session.Faithful settings types := by
  unfold Session.checkFile
  split
  · exact faithful
  · exact (faithful.commentsOf tree root file).checkLiterals packagePath file.path _ _

theorem checkFiles
    (faithful : session.Faithful settings types) (tree : FileTree) (root : Option String)
    (packagePath : String) (files : List SourceFile) :
    (session.checkFiles tree root packagePath files).session.Faithful settings types := by
  induction files generalizing session with
  | nil => exact faithful
  | cons file further inductionHypothesis =>
      exact inductionHypothesis (faithful.checkFile tree root packagePath file)

theorem checkPackage
    (faithful : session.Faithful settings types) (tree : FileTree) (root : Option String)
    (package : Package) :
    (session.checkPackage tree root package).session.Faithful settings types :=
  faithful.checkFiles tree root package.path package.files

end Faithful

/-! ## Sequences of calls -/

/-- What can be asked of a session. The files and the root may be others each time. -/
inductive Call where
  | visit (literal : Visit)
  | checkPackage (tree : FileTree) (root : Option String) (package : Package)
  | statistics

def perform (session : Session) : Call → Session
  | .visit literal => (session.visit literal).session
  | .checkPackage tree root package => (session.checkPackage tree root package).session
  | .statistics => session

def performAll (session : Session) (calls : List Call) : Session :=
  calls.foldl perform session

theorem Faithful.perform {session : Session} {settings : Settings} {types : TypeTable}
    (faithful : session.Faithful settings types) (call : Call) :
    (session.perform call).Faithful settings types := by
  cases call with
  | visit literal => exact faithful.visit literal
  | checkPackage tree root package => exact faithful.checkPackage tree root package
  | statistics => exact faithful

/-- Whatever calls came before, a session stays faithful. -/
theorem Faithful.performAll {session : Session} {settings : Settings} {types : TypeTable}
    (faithful : session.Faithful settings types) (calls : List Call) :
    (session.performAll calls).Faithful settings types := by
  induction calls generalizing session with
  | nil => exact faithful
  | cons call further inductionHypothesis =>
      exact inductionHypothesis (faithful.perform call)

/-- What the literals before were leaves no trace in an answer. -/
theorem visit_performAll_value
    (settings : Settings) (types : TypeTable) (calls : List Call) (literal : Visit) :
    (((new settings types).performAll calls).visit literal).value =
      literal.verdict settings types :=
  ((faithful_new settings types).performAll calls).visit_value literal

end Session

end LiteralAudit
