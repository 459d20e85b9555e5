import LiteralAudit.Proofs.Audit.Coverage
import LiteralAudit.Proofs.Audit.MemoAccounting

/-!
# What the statistics of a check say

A visit asks each memo of its session for one key at most: that of struct types for the index of its
literal, that of patterns for the name of the type if no directive settles the matter, and that of
empty literals for the same name if nothing else excuses the literal. A check asks the memo of
comments once for each file that it looks at. The counters of the memos are those of these lookups.
-/

namespace LiteralAudit

namespace Memo

variable {key value : Type}

/-- The memo after an answer was fetched for a key, if for any. -/
def fetched [BEq key] (memo : Memo key value) (sought : Option key) (compute : key → value) :
    Memo key value :=
  match sought with
  | none => memo
  | some name => (memo.fetch name fun _ => compute name).2

/-- Some lookups, each answered by a function. -/
def answered (compute : key → value) (sought : List key) : List (key × Option value) :=
  sought.map fun name => (name, some (compute name))

/-- Fetching for another name, if for any, keeps the memo that of all names so far. -/
theorem Accounts.fetched [BEq key] [LawfulBEq key] {memo : Memo key value} {compute : key → value}
    {names : List key} (accounts : memo.Accounts (answered compute names))
    (agrees : memo.Agrees fun name => some (compute name)) (sought : Option key) :
    (memo.fetched sought compute).Accounts (answered compute (names ++ sought.toList)) := by
  cases sought with
  | none => simpa [Memo.fetched] using accounts
  | some name =>
      have counted := accounts.fetch name fun _ => compute name
      rw [agrees.fetch_value] at counted
      simpa [Memo.fetched, answered] using counted

section Answered

variable {memo : Memo key value} {compute : key → value} {names : List key}

theorem Accounts.size_of_answered (accounts : memo.Accounts (answered compute names)) :
    memo.size = {name | name ∈ names}.ncard := by
  have size := accounts.size_eq
  simpa [answered] using size

/-- Where every lookup has an answer, each miss makes an entry. -/
theorem Accounts.misses_of_answered (accounts : memo.Accounts (answered compute names)) :
    memo.misses = memo.size := by
  have noneFailed : (answered compute names).countP (·.2.isNone) = 0 := by
    simp [answered, List.countP_map, Function.comp_def]
  rw [accounts.misses, noneFailed, Nat.add_zero]

end Answered

end Memo

/-! ## What a visit asks for -/

namespace Visit

/-- The name that the patterns of empty literals are asked for, if they are. -/
def allowanceKeyOn? (visit : Visit) (settings : Settings) (info : StructInfo) : Option String :=
  if visit.shape.isEmpty && !visit.site.isExemptReturn &&
      !settings.allowsEmptyIn (.ofSite visit.site) && !settings.allowEmptyPatterns.isEmpty then
    some info.name.matchingKey
  else none

/-- The name that the patterns of types are asked for, if they are. -/
def selectionKeyOn? (visit : Visit) (settings : Settings) (info : StructInfo) : Option String :=
  if !visit.isExcused settings info && visit.directive settings info == .unspecified &&
      settings.filtersTypes then
    some info.name.matchingKey
  else none

end Visit

namespace Session

theorem allowsEmpty_session (session : Session) (name : TypeName) (site : LiteralSite) :
    (session.allowsEmpty name site).2 =
      { session with
        allowances := session.allowances.fetched
          (if session.settings.allowsEmptyIn (.ofSite site) ||
              session.settings.allowEmptyPatterns.isEmpty then none
            else some name.matchingKey)
          session.settings.allowEmptyPatterns.matchesWhole } := by
  unfold allowsEmpty
  by_cases allowed : session.settings.allowsEmptyIn (.ofSite site) = true
  · simp [allowed, Memo.fetched]
  · by_cases noPatterns : session.settings.allowEmptyPatterns.isEmpty = true
    · simp [allowed, noPatterns, Memo.fetched]
    · simp [allowed, noPatterns, Memo.fetched]

theorem excuses_session (session : Session) (info : StructInfo) (visit : Visit) :
    (session.excuses info visit).2 =
      { session with
        allowances := session.allowances.fetched (visit.allowanceKeyOn? session.settings info)
          session.settings.allowEmptyPatterns.matchesWhole } := by
  unfold excuses Visit.allowanceKeyOn?
  by_cases empty : visit.shape.isEmpty = true
  · by_cases exempt : visit.site.isExemptReturn = true
    · simp [empty, exempt, Memo.fetched]
    · simp only [empty, exempt, Bool.not_true, Bool.false_eq_true, if_false, Bool.not_false,
        Bool.true_and]
      rw [allowsEmpty_session]
      cases session.settings.allowsEmptyIn (.ofSite visit.site) with
      | true => rfl
      | false =>
          cases session.settings.allowEmptyPatterns.isEmpty with
          | true => rfl
          | false => rfl
  · simp [empty, Memo.fetched]

/-- Deciding a literal touches the memo of the patterns of types and no other one. -/
theorem judge_session {session : Session} {info : StructInfo} {visit : Visit}
    (notExcused : visit.isExcused session.settings info = false) :
    (session.judge info visit).session =
      { session with
        selections := session.selections.fetched (visit.selectionKeyOn? session.settings info)
          session.settings.selects } := by
  unfold judge Visit.selectionKeyOn?
  rw [notExcused]
  cases visit.directive session.settings info with
  | ignore => rfl
  | enforce => rfl
  | unspecified =>
      dsimp only
      unfold selectsType
      by_cases filtered : session.settings.filtersTypes = true
      · simp [filtered, Memo.fetched]
      · simp [filtered, Memo.fetched]

namespace Faithful

variable {session : Session} {settings : Settings} {types : TypeTable}

theorem visitType_session (faithful : session.Faithful settings types) (type : Nat)
    (visit : Visit) :
    (session.visitType type visit).session =
      { session with
        infos := (session.info? type).2.infos
        allowances := session.allowances.fetched
          ((types.get? type).bind fun record => visit.allowanceKeyOn? settings (.ofRecord record))
          settings.allowEmptyPatterns.matchesWhole
        selections := session.selections.fetched
          ((types.get? type).bind fun record => visit.selectionKeyOn? settings (.ofRecord record))
          settings.selects } := by
  have found := faithful.info?_value type
  have looked := faithful.info? type
  obtain rfl := faithful.sameSettings
  unfold Session.visitType
  unfold Session.info? at found looked ⊢
  generalize (session.infos.fetch? type fun _ =>
    (session.types.get? type).map StructInfo.ofRecord) = fetched at found looked ⊢
  obtain ⟨answer, infos⟩ := fetched
  obtain rfl : answer = (types.get? type).map .ofRecord := found
  cases types.get? type with
  | none => rfl
  | some record =>
      have excused := looked.excuses_value (.ofRecord record) visit
      have decided := excuses_session { session with infos } (.ofRecord record) visit
      dsimp only [Option.map_some, Option.bind_some] at excused decided ⊢
      rw [excused, decided]
      by_cases settled : visit.isExcused session.settings (.ofRecord record) = true
      · rw [if_pos settled]
        simp [Visit.selectionKeyOn?, settled, Memo.fetched]
      · rw [if_neg settled]
        exact judge_session (Bool.eq_false_iff.mpr settled)

end Faithful

end Session

namespace Visit

variable (visit : Visit) (settings : Settings) (types : TypeTable)

/-- The index that the literal is looked up by, with what the table says of it. -/
def lookup? : Option (Nat × Option StructInfo) :=
  visit.site.type.map fun type => (type, (types.get? type).map .ofRecord)

/-- The name that the literal is looked up by among the patterns of empty literals. -/
def allowanceKey? : Option String :=
  (visit.record? types).bind fun record => visit.allowanceKeyOn? settings (.ofRecord record)

/-- The name that the literal is looked up by among the patterns of types. -/
def selectionKey? : Option String :=
  (visit.record? types).bind fun record => visit.selectionKeyOn? settings (.ofRecord record)

end Visit

namespace Session

/-- What a visit does to a session. -/
theorem Faithful.visit_session {session : Session} {settings : Settings} {types : TypeTable}
    (faithful : session.Faithful settings types) (visit : Visit) :
    (session.visit visit).session =
      { session with
        infos := (visit.site.type.map fun type => (session.info? type).2.infos).getD session.infos
        allowances := session.allowances.fetched (visit.allowanceKey? settings types)
          settings.allowEmptyPatterns.matchesWhole
        selections := session.selections.fetched (visit.selectionKey? settings types)
          settings.selects } := by
  unfold Session.visit Visit.allowanceKey? Visit.selectionKey? Visit.record?
  cases visit.site.type with
  | none => rfl
  | some type => exact faithful.visitType_session type visit

/-! ## What a check asks for -/

/-- To look for the comments of a file touches no other memo. -/
theorem commentsOf_session (session : Session) (tree : FileTree) (root : Option String)
    (file : SourceFile) :
    (session.commentsOf tree root file).session =
      { session with comments := (session.commentsOf tree root file).session.comments } := by
  unfold commentsOf
  split
  · rfl
  · rfl

/-- A session whose memos account for the lookups of some visits, and of the comments of some
files. -/
structure Accounted (session : Session) (settings : Settings) (types : TypeTable)
    (tree : FileTree) (root : Option String) (comments : String → CommentIndex)
    (files : List ScannedFile) (visits : List Visit) : Prop
    extends session.Tracks settings types tree root files where
  lookedUp : session.infos.Accounts (visits.filterMap (·.lookup? types))
  commented : session.comments.Accounts (Memo.answered comments (files.map (·.file.path)))
  selected :
    session.selections.Accounts
      (Memo.answered settings.selects (visits.filterMap (·.selectionKey? settings types)))
  allowed :
    session.allowances.Accounts
      (Memo.answered settings.allowEmptyPatterns.matchesWhole
        (visits.filterMap (·.allowanceKey? settings types)))

theorem accounted_new (settings : Settings) (types : TypeTable) (tree : FileTree)
    (root : Option String) (comments : String → CommentIndex) :
    (new settings types).Accounted settings types tree root comments [] [] where
  toTracks := tracks_new settings types tree root
  lookedUp := Memo.accounts_empty
  commented := Memo.accounts_empty
  selected := Memo.accounts_empty
  allowed := Memo.accounts_empty

namespace Accounted

variable {session : Session} {settings : Settings} {types : TypeTable} {tree : FileTree}
  {root : Option String} {comments : String → CommentIndex} {files : List ScannedFile}
  {visits : List Visit}

/-- A visit adds its own lookups to those that the memos account for. -/
theorem visit (accounted : session.Accounted settings types tree root comments files visits)
    (visit : Visit) :
    (session.visit visit).session.Accounted settings types tree root comments files
      (visits ++ [visit]) where
  toTracks :=
    accounted.toTracks.of_comments_eq (accounted.toFaithful.visit visit)
      (session.comments_visit visit)
  lookedUp := by
    have lookups : [visit].filterMap (·.lookup? types) = (visit.lookup? types).toList := rfl
    rw [accounted.visit_session visit, List.filterMap_append, lookups, Visit.lookup?]
    cases visit.site.type with
    | none => simpa using accounted.lookedUp
    | some type =>
        have counted := accounted.lookedUp.fetch? type fun _ =>
          (types.get? type).map .ofRecord
        rw [accounted.infos.fetch?_value] at counted
        rw [Option.map_some, Option.getD_some, info?, accounted.sameTypes]
        exact counted
  commented := by
    rw [session.comments_visit]
    exact accounted.commented
  selected := by
    rw [accounted.visit_session visit, List.filterMap_append]
    exact accounted.selected.fetched accounted.selections (visit.selectionKey? settings types)
  allowed := by
    rw [accounted.visit_session visit, List.filterMap_append]
    exact accounted.allowed.fetched accounted.allowances (visit.allowanceKey? settings types)

theorem checkLiterals
    (accounted : session.Accounted settings types tree root comments files visits)
    (packagePath file : String) (index : CommentIndex) (literals : List LiteralSite) :
    (session.checkLiterals packagePath file index literals).session.Accounted
      settings types tree root comments files
      (visits ++ literals.map fun site => ⟨packagePath, file, site, index⟩) := by
  induction literals generalizing session visits with
  | nil => simpa [Session.checkLiterals] using accounted
  | cons site further inductionHypothesis =>
      rw [List.map_cons, List.append_cons]
      exact inductionHypothesis (accounted.visit ⟨packagePath, file, site, index⟩)

theorem commentsOf
    (accounted : session.Accounted settings types tree root comments files visits)
    (scanned : ScannedFile)
    (resolves : ScannedFile.Resolves settings tree root comments (files ++ [scanned])) :
    (session.commentsOf tree root scanned.file).session.Accounted settings types tree root
      comments (files ++ [scanned]) visits where
  toTracks := accounted.toTracks.commentsOf scanned
  lookedUp := by
    rw [commentsOf_session]
    exact accounted.lookedUp
  commented := by
    have sameIndex := resolves _ _ (accounted.commentsOf_value scanned)
    rw [List.map_append, List.map_singleton, Memo.answered, List.map_append, List.map_singleton,
      sameIndex]
    unfold Session.commentsOf
    cases known : session.comments.find? scanned.file.path with
    | some index => exact accounted.commented.hit (Memo.mem_keys_of_find? known) index
    | none => exact accounted.commented.keep (Memo.notMem_keys_of_find? known) _
  selected := by
    rw [commentsOf_session]
    exact accounted.selected
  allowed := by
    rw [commentsOf_session]
    exact accounted.allowed

theorem checkFile_of_not_excluded
    (accounted : session.Accounted settings types tree root comments files visits)
    (scanned : ScannedFile) (included : settings.isFileExcluded scanned.file.path = false)
    (resolves : ScannedFile.Resolves settings tree root comments (files ++ [scanned])) :
    (session.checkFile tree root scanned.packagePath scanned.file).session.Accounted
      settings types tree root comments (files ++ [scanned])
      (visits ++ scanned.visits (comments scanned.file.path)) := by
  have sameIndex := resolves _ _ (accounted.commentsOf_value scanned)
  have loaded := accounted.commentsOf scanned resolves
  rw [Session.checkFile, accounted.sameSettings, if_neg (Bool.eq_false_iff.mp included),
    sameIndex]
  exact loaded.checkLiterals scanned.packagePath scanned.file.path _ scanned.file.literals

theorem checkFiles
    (accounted : session.Accounted settings types tree root comments files visits)
    (packagePath : String) (sources : List SourceFile)
    (resolves : ScannedFile.Resolves settings tree root comments
      (files ++ ScannedFile.among settings packagePath sources)) :
    (session.checkFiles tree root packagePath sources).session.Accounted settings types tree root
      comments (files ++ ScannedFile.among settings packagePath sources)
      (visits ++ (ScannedFile.among settings packagePath sources).flatMap fun scanned =>
        scanned.visits (comments scanned.file.path)) := by
  induction sources generalizing session files visits with
  | nil => simpa [Session.checkFiles, ScannedFile.among] using accounted
  | cons source further inductionHypothesis =>
      rw [Session.checkFiles]
      cases included : settings.isFileExcluded source.path with
      | true =>
          rw [ScannedFile.among_cons_of_excluded included] at resolves ⊢
          rw [accounted.checkFile_of_excluded included]
          exact inductionHypothesis accounted resolves
      | false =>
          rw [ScannedFile.among_cons_of_not_excluded included] at resolves ⊢
          rw [List.append_cons] at resolves
          have first := accounted.checkFile_of_not_excluded ⟨packagePath, source⟩ included
            resolves.of_append_left
          rw [List.append_cons, List.flatMap_cons, ← List.append_assoc]
          exact inductionHypothesis first resolves

/-- The memos account for every file and every visit of some packages. -/
theorem checkPackages
    (accounted : session.Accounted settings types tree root comments files visits)
    (packages : List Package)
    (resolves : ScannedFile.Resolves settings tree root comments
      (files ++ packages.flatMap (ScannedFile.ofPackage settings))) :
    (session.checkPackages tree root packages).session.Accounted settings types tree root
      comments (files ++ packages.flatMap (ScannedFile.ofPackage settings))
      (visits ++ (packages.flatMap (ScannedFile.ofPackage settings)).flatMap fun scanned =>
        scanned.visits (comments scanned.file.path)) := by
  induction packages generalizing session files visits with
  | nil => simpa [Session.checkPackages] using accounted
  | cons package further inductionHypothesis =>
      rw [List.flatMap_cons, ← List.append_assoc] at resolves
      have first := accounted.checkFiles package.path package.files resolves.of_append_left
      rw [Session.checkPackages, List.flatMap_cons, List.flatMap_append, ← List.append_assoc,
        ← List.append_assoc]
      exact inductionHypothesis first resolves

end Accounted

end Session

/-! ## Programs -/

namespace Visit

/-- The patterns of types decide on the literal: it is not excused, no directive counts for it, and
there are patterns. -/
structure IsLeftToPatterns (visit : Visit) (settings : Settings) (record : RecordType) :
    Prop where
  notExcused :
    ¬ (visit.site.elements = [] ∧
      (visit.site.isExemptReturn = true ∨
        settings.AllowsEmptyOf (.ofRecord record) visit.site))
  undirected : visit.directive settings (.ofRecord record) = .unspecified
  somePattern : settings.includes.isEmpty = false ∨ settings.excludes.isEmpty = false

/-- The literal is empty, and nothing excuses it unless the patterns of empty literals do. -/
structure NeedsAllowance (visit : Visit) (settings : Settings) : Prop where
  empty : visit.site.elements = []
  notExempt : visit.site.isExemptReturn = false
  notEverywhere : settings.allowEmpty = false
  notReturned :
    ¬ (LiteralContext.ofSite visit.site = .returned ∧ settings.allowEmptyReturns = true)
  notDeclared :
    ¬ (LiteralContext.ofSite visit.site = .declaration ∧
      settings.allowEmptyDeclarations = true)
  somePattern : settings.allowEmptyPatterns.isEmpty = false

variable {visit : Visit} {settings : Settings} {record : RecordType} {name : String}

theorem selectionKeyOn?_eq_some_iff :
    visit.selectionKeyOn? settings (.ofRecord record) = some name ↔
      visit.IsLeftToPatterns settings record ∧
        name = (TypeName.ofRecord record).matchingKey := by
  have excused := visit.isExcused_ofRecord_iff settings record
  rw [selectionKeyOn?, Option.ite_none_right_eq_some, Bool.and_eq_true, Bool.and_eq_true,
    Bool.not_eq_true', ← Bool.not_eq_true, excused, beq_iff_eq, Settings.filtersTypes,
    Bool.or_eq_true, Bool.not_eq_true', Bool.not_eq_true', Option.some.injEq, eq_comm (b := name)]
  constructor
  · rintro ⟨⟨⟨notExcused, undirected⟩, somePattern⟩, same⟩
    exact ⟨⟨notExcused, undirected, somePattern⟩, same⟩
  · rintro ⟨left, same⟩
    exact ⟨⟨⟨left.notExcused, left.undirected⟩, left.somePattern⟩, same⟩

theorem allowanceKeyOn?_eq_some_iff :
    visit.allowanceKeyOn? settings (.ofRecord record) = some name ↔
      visit.NeedsAllowance settings ∧ name = (TypeName.ofRecord record).matchingKey := by
  have allowed := settings.allowsEmptyIn_ofSite_iff visit.site
  rw [allowanceKeyOn?, Option.ite_none_right_eq_some, Bool.and_eq_true, Bool.and_eq_true,
    Bool.and_eq_true, shape_isEmpty_iff, Bool.not_eq_true', Bool.not_eq_true', Bool.not_eq_true',
    ← Bool.not_eq_true (settings.allowsEmptyIn _), allowed, not_or, not_or, Bool.not_eq_true,
    Option.some.injEq, eq_comm (b := name)]
  constructor
  · rintro ⟨⟨⟨⟨empty, notExempt⟩, notEverywhere, notReturned, notDeclared⟩, somePattern⟩, same⟩
    exact ⟨⟨empty, notExempt, notEverywhere, notReturned, notDeclared, somePattern⟩, same⟩
  · rintro ⟨needs, same⟩
    exact ⟨⟨⟨⟨needs.empty, needs.notExempt⟩, needs.notEverywhere, needs.notReturned,
      needs.notDeclared⟩, needs.somePattern⟩, same⟩

/-! ## All visits -/

variable {types : TypeTable} {visits : List Visit}

/-- An index has an answer if the table reaches it and some visit asks for it. -/
theorem mem_lookups_iff {type : Nat} :
    (∃ info, (type, some info) ∈ visits.filterMap (·.lookup? types)) ↔
      type < types.size ∧ ∃ visit ∈ visits, visit.site.type = some type := by
  have known : type < types.size ↔ ∃ record, types.get? type = some record := by
    rw [← not_le, ← TypeTable.get?_eq_none_iff, ← ne_eq,
      Option.ne_none_iff_exists']
  simp only [known, List.mem_filterMap, lookup?, Option.map_eq_some_iff, Prod.mk.injEq]
  constructor
  · rintro ⟨_, visit, member, _, sameType, rfl, record, found, -⟩
    exact ⟨⟨record, found⟩, visit, member, sameType⟩
  · rintro ⟨⟨record, found⟩, visit, member, sameType⟩
    exact ⟨_, visit, member, type, sameType, rfl, record, found, rfl⟩

theorem length_lookups :
    (visits.filterMap (·.lookup? types)).length = visits.countP (·.site.type.isSome) := by
  rw [List.length_filterMap_eq_countP]
  simp only [lookup?, Option.isSome_map]

/-- The lookups without an answer are those of indices behind the table. -/
theorem countP_lookups :
    (visits.filterMap (·.lookup? types)).countP (·.2.isNone) =
      visits.countP (·.site.type.any (types.size ≤ ·)) := by
  rw [List.countP_filterMap]
  refine List.countP_congr fun visit _ => ?_
  rw [lookup?]
  cases visit.site.type with
  | none => rfl
  | some type => simp [TypeTable.get?_eq_none_iff]

theorem mem_selectionKeys_iff :
    name ∈ visits.filterMap (·.selectionKey? settings types) ↔
      ∃ visit ∈ visits, ∃ record, visit.record? types = some record ∧
        visit.IsLeftToPatterns settings record ∧
        name = (TypeName.ofRecord record).matchingKey := by
  simp only [List.mem_filterMap, selectionKey?, Option.bind_eq_some_iff,
    selectionKeyOn?_eq_some_iff]

/-- Without patterns of types, none is asked. -/
theorem selectionKeys_of_not_filtersTypes (unfiltered : settings.filtersTypes = false) :
    visits.filterMap (·.selectionKey? settings types) = [] := by
  rw [List.filterMap_eq_nil_iff]
  intro visit _
  simp [selectionKey?, selectionKeyOn?, unfiltered]

theorem mem_allowanceKeys_iff :
    name ∈ visits.filterMap (·.allowanceKey? settings types) ↔
      ∃ visit ∈ visits, ∃ record, visit.record? types = some record ∧
        visit.NeedsAllowance settings ∧
        name = (TypeName.ofRecord record).matchingKey := by
  simp only [List.mem_filterMap, allowanceKey?, Option.bind_eq_some_iff,
    allowanceKeyOn?_eq_some_iff]

end Visit

namespace Settings

/-- A check ends with its statistics. The facts of a struct type are kept once for each index that
the table knows, every other visit of such an index is a hit, and every visit of an index that the
table does not know is a miss. Comments are read once for each path, and decisions of patterns are
made once for each name of a type for which a literal needs them. -/
theorem checkProgram_statistics (settings : Settings) (tree : FileTree) (root : Option String)
    (program : Program) :
    ∃ notes infos infoHits infoMisses commentHits commentMisses selections allowances,
      (settings.checkProgram tree root program).notes = notes ++ [
        .infoStatistics infos infoHits infoMisses,
        .commentStatistics commentHits commentMisses,
        .decisionStatistics selections allowances] ∧
      infos =
        {type | type < program.types.length ∧
          ∃ visit ∈ program.visits settings tree root, visit.site.type = some type}.ncard ∧
      infoHits + infoMisses =
        (program.visits settings tree root).countP (·.site.type.isSome) ∧
      infoMisses =
        infos + (program.visits settings tree root).countP
          (·.site.type.any (program.types.length ≤ ·)) ∧
      commentMisses =
        {path | ∃ scanned ∈ program.scannedFiles settings, scanned.file.path = path}.ncard ∧
      commentHits + commentMisses =
        (settings.checkProgram tree root program).value.filesScanned ∧
      selections =
        {name | ∃ visit ∈ program.visits settings tree root, ∃ record,
          visit.record? program.typeTable = some record ∧
          visit.IsLeftToPatterns settings record ∧
          name = (TypeName.ofRecord record).matchingKey}.ncard ∧
      (settings.filtersTypes = true ∨ selections = 0) ∧
      allowances =
        {name | ∃ visit ∈ program.visits settings tree root, ∃ record,
          visit.record? program.typeTable = some record ∧
          visit.NeedsAllowance settings ∧
          name = (TypeName.ofRecord record).matchingKey}.ncard := by
  have fresh := Session.accounted_new settings program.typeTable tree root
    (program.commentsAt settings tree root)
  have accounted := fresh.checkPackages program.packages
    (program.resolves_commentsAt settings tree root)
  rw [List.nil_append, List.nil_append] at accounted
  refine ⟨_, _, _, _, _, _, _, _, rfl, ?infos, ?lookups, ?failures, ?paths, ?files, ?selections,
    ?unfiltered, ?allowances⟩
  case infos =>
    simp only [accounted.lookedUp.size_eq, Visit.mem_lookups_iff]
    rfl
  case lookups =>
    rw [accounted.lookedUp.total, Visit.length_lookups]
    rfl
  case failures =>
    rw [accounted.lookedUp.misses, Visit.countP_lookups]
    rfl
  case paths =>
    rw [accounted.commented.misses_of_answered, accounted.commented.size_of_answered]
    simp only [List.mem_map]
    rfl
  case files =>
    rw [accounted.commented.total, checkProgram_value, Memo.answered, List.length_map,
      List.length_map]
    rfl
  case selections =>
    rw [accounted.selected.size_of_answered]
    simp only [Visit.mem_selectionKeys_iff]
    rfl
  case unfiltered =>
    by_cases filtered : settings.filtersTypes = true
    · exact Or.inl filtered
    · right
      rw [accounted.selected.size_of_answered,
        Visit.selectionKeys_of_not_filtersTypes (Bool.eq_false_iff.mpr filtered)]
      simp
  case allowances =>
    rw [accounted.allowed.size_of_answered]
    simp only [Visit.mem_allowanceKeys_iff]
    rfl

end Settings

end LiteralAudit
