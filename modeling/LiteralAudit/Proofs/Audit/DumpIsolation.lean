import LiteralAudit.Audit.Run
import LiteralAudit.Proofs.Audit.Joining
import LiteralAudit.Proofs.Program.Document
import LiteralAudit.Proofs.Success
import LiteralAudit.Proofs.Text.Encoding

/-!
# Each dump is a run of its own

A run reads one dump after the other and checks each program in a session of its own, so that what
is found in one dump depends on no other. A run that succeeds joins the results of its dumps; it
does not matter in which order they stand, or whether they are checked in one run or in several.
-/

namespace LiteralAudit

open CheckResult (mergeAll)

namespace Settings

variable (settings : Settings) (tree : FileTree) (sourceRoot : Option String)

/-! ## One dump -/

theorem readDump_eq_ok_iff {tree : FileTree} {dump : String} {program : Program} :
    readDump tree dump = .ok program ↔
      ∃ content, tree.readText dump = .ok content ∧ Program.ofText content = .ok program := by
  unfold readDump
  cases read : tree.readText dump with
  | error fault => exact ⟨nofun, nofun⟩
  | ok content =>
      constructor
      · exact fun succeeds => ⟨content, rfl, mapError_eq_ok succeeds⟩
      · rintro ⟨_, ⟨⟩, parsed⟩
        exact congrArg (Except.mapError _) parsed

/-- A program that is written in a file is read from it. -/
theorem readDump_of_read {tree : FileTree} {dump : String} {program : Program}
    (fits : program.Fits) (written : tree.read dump = .ok (Utf8.encode program.text)) :
    readDump tree dump = .ok program := by
  have readText : tree.readText dump = .ok program.text := by
    rw [FileTree.readText, written]
    simp only [bind, Except.bind, Utf8.decode?_encode, String.ofList_toList]
    rfl
  exact readDump_eq_ok_iff.mpr ⟨program.text, readText, Program.ofText_text_of_fits fits⟩

/-- What is found in one dump, in a session that knows no other. -/
def checkAlone (dump : String) : Except RunError CheckResult :=
  (readDump tree dump).map fun program =>
    (settings.checkProgram tree (rootOf sourceRoot dump) program).value

variable {settings tree sourceRoot}

theorem checkAlone_eq_ok_iff {dump : String} {result : CheckResult} :
    settings.checkAlone tree sourceRoot dump = .ok result ↔
      ∃ program, readDump tree dump = .ok program ∧
        (settings.checkProgram tree (rootOf sourceRoot dump) program).value = result :=
  map_eq_ok_iff

theorem checkAlone_eq_error_iff {dump : String} {cause : RunError} :
    settings.checkAlone tree sourceRoot dump = .error cause ↔
      readDump tree dump = .error cause :=
  map_eq_error_iff

theorem checkAlone_succeeds_iff {dump : String} :
    (∃ result, settings.checkAlone tree sourceRoot dump = .ok result) ↔
      ∃ program, readDump tree dump = .ok program := by
  simp only [checkAlone_eq_ok_iff]
  constructor
  · rintro ⟨_, program, read, _⟩
    exact ⟨program, read⟩
  · rintro ⟨program, read⟩
    exact ⟨_, program, read, rfl⟩

/-! ## All dumps -/

variable (settings tree sourceRoot)

/-- Each dump is checked as if it were alone, up to the first one that cannot be read. -/
theorem checkDumps_value (dumps : List String) :
    (settings.checkDumps tree sourceRoot dumps).value =
      (dumps.mapM (settings.checkAlone tree sourceRoot)).map mergeAll := by
  -- The run stops where `mapM` does, and merges the results on its way back.
  induction dumps with
  | nil => rfl
  | cons dump further inductionHypothesis =>
      rw [checkDumps, List.mapM_cons, checkAlone]
      cases readDump tree dump with
      | error cause => rfl
      | ok program =>
          dsimp only
          rw [inductionHypothesis]
          cases further.mapM (settings.checkAlone tree sourceRoot) with
          | error cause => rfl
          | ok results => rfl

theorem run_value (dumps : List String) :
    (settings.run tree sourceRoot dumps).value =
      (dumps.mapM (settings.checkAlone tree sourceRoot)).map fun results =>
        (mergeAll results).sort := by
  rw [run, checkDumps_value]
  cases dumps.mapM (settings.checkAlone tree sourceRoot) with
  | error cause => rfl
  | ok results => rfl

variable {settings tree sourceRoot} {dumps : List String}

theorem run_value_eq_ok_iff {result : CheckResult} :
    (settings.run tree sourceRoot dumps).value = .ok result ↔
      ∃ results, List.Forall₂
          (fun dump alone => settings.checkAlone tree sourceRoot dump = .ok alone) dumps results ∧
        CheckResult.Joins results result := by
  simp only [run_value, map_eq_ok_iff, mapM_eq_ok_iff, CheckResult.joins_iff]

/-- The error of a run is that of the first dump that cannot be read. -/
theorem run_value_eq_error_iff {cause : RunError} :
    (settings.run tree sourceRoot dumps).value = .error cause ↔
      ∃ before dump after, dumps = before ++ dump :: after ∧
        (∀ earlier ∈ before, ∃ program, readDump tree earlier = .ok program) ∧
        readDump tree dump = .error cause := by
  rw [run_value, map_eq_error_iff, mapM_eq_error_iff]
  simp only [checkAlone_succeeds_iff, checkAlone_eq_error_iff]

/-- A run succeeds if every dump can be read, whatever the dumps hold. -/
theorem run_succeeds_iff :
    (∃ result, (settings.run tree sourceRoot dumps).value = .ok result) ↔
      ∀ dump ∈ dumps, ∃ program, readDump tree dump = .ok program := by
  rw [run_value, map_succeeds_iff, mapM_succeeds_iff]
  simp only [checkAlone_succeeds_iff]

theorem run_value_eq_ok_of_perm {others : List String} (permuted : dumps.Perm others)
    {result : CheckResult} (succeeds : (settings.run tree sourceRoot dumps).value = .ok result) :
    (settings.run tree sourceRoot others).value = .ok result := by
  obtain ⟨results, alone, joins⟩ := run_value_eq_ok_iff.mp succeeds
  obtain ⟨middle, aloneOthers, resultsPermuted⟩ :=
    List.perm_comp_forall₂ permuted.symm alone
  exact run_value_eq_ok_iff.mpr ⟨middle, aloneOthers, joins.of_perm resultsPermuted.symm⟩

/-- Dumps can be split between two runs whose results are joined. -/
theorem run_value_append (further : List String) :
    (settings.run tree sourceRoot (dumps ++ further)).value = do
      let first ← (settings.run tree sourceRoot dumps).value
      let second ← (settings.run tree sourceRoot further).value
      return (first.merge second).sort := by
  rw [run_value, run_value, run_value, List.mapM_append]
  cases dumps.mapM (settings.checkAlone tree sourceRoot) with
  | error cause => rfl
  | ok first =>
      cases further.mapM (settings.checkAlone tree sourceRoot) with
      | error cause => rfl
      | ok second =>
          have joined : CheckResult.Joins (first ++ second)
              (((mergeAll first).sort.merge (mergeAll second).sort).sort) :=
            (CheckResult.joins_sort_mergeAll first).sort_merge
              (CheckResult.joins_sort_mergeAll second)
          exact congrArg Except.ok (CheckResult.joins_iff.mp joined)

/-- A run succeeds if all dumps can be read, and otherwise fails as the first one does that cannot
be read. It joins what is found in each dump alone, so that it gives the same in any order, and in
several runs whose results are joined. -/
theorem run_isolates_dumps (settings : Settings) (tree : FileTree) (sourceRoot : Option String)
    (dumps : List String) :
    ((∃ result, (settings.run tree sourceRoot dumps).value = .ok result) ↔
      ∀ dump ∈ dumps, ∃ content program,
        tree.readText dump = .ok content ∧ Program.ofText content = .ok program) ∧
    (∀ cause, (settings.run tree sourceRoot dumps).value = .error cause ↔
      ∃ before dump after, dumps = before ++ dump :: after ∧
        (∀ earlier ∈ before, ∃ program, readDump tree earlier = .ok program) ∧
        readDump tree dump = .error cause) ∧
    (∀ result, (settings.run tree sourceRoot dumps).value = .ok result ↔
      ∃ results, List.Forall₂
          (fun dump alone => ∃ program, readDump tree dump = .ok program ∧
            (settings.checkProgram tree (sourceRoot.or (Path.parent? dump)) program).value = alone)
          dumps results ∧
        CheckResult.Joins results result) ∧
    (∀ others, dumps.Perm others → ∀ result,
      (settings.run tree sourceRoot others).value = .ok result ↔
        (settings.run tree sourceRoot dumps).value = .ok result) ∧
    ∀ further, (settings.run tree sourceRoot (dumps ++ further)).value = do
      let first ← (settings.run tree sourceRoot dumps).value
      let second ← (settings.run tree sourceRoot further).value
      return (first.merge second).sort := by
  refine ⟨?succeeds, ?fails, ?joins, ?permuted, ?appended⟩
  case succeeds =>
    refine run_succeeds_iff.trans (forall₂_congr fun dump _ => ?_)
    simp only [readDump_eq_ok_iff]
    exact exists_comm
  case fails =>
    intro cause
    exact run_value_eq_error_iff
  case joins =>
    intro result
    simp only [run_value_eq_ok_iff, checkAlone_eq_ok_iff]
    rfl
  case permuted =>
    intro others permuted result
    exact ⟨run_value_eq_ok_of_perm permuted.symm, run_value_eq_ok_of_perm permuted⟩
  case appended => exact run_value_append

/-- A program with an empty literal of a type `Pair` in a file `pair.go`. -/
def pairProgram (field : String) : Program where
  types := [⟨some "Pair", "p", "example.com/p", [⟨field, ""⟩], []⟩]
  packages := [⟨"p", "example.com/p",
    [⟨"pair.go", none, [⟨1, .onLine 2 9 15, some 0, [], []⟩]⟩]⟩]

/-- Two dumps with files, types and literals of the same names and indices, where only one finds the
source, in which the literal is to be ignored. -/
def pairsTree : FileTree where
  root := .folder [
    ("one", .folder [("dump.json", .file (Utf8.encode (pairProgram "First").text))]),
    ("two", .folder [
      ("dump.json", .file (Utf8.encode (pairProgram "Second").text)),
      ("pair.go", .file (Utf8.encode "//exhaustruct:ignore\nvar _ = Pair{}\n"))])]
  here := []

theorem readDump_pairsTree :
    readDump pairsTree "one/dump.json" = .ok (pairProgram "First") ∧
      readDump pairsTree "two/dump.json" = .ok (pairProgram "Second") :=
  ⟨readDump_of_read (by decide) rfl, readDump_of_read (by decide) rfl⟩

/-- Two dumps that call different types by the same name, in either order. -/
theorem run_isolates_dumps_pairsTree :
    ["one/dump.json", "two/dump.json"].Perm ["two/dump.json", "one/dump.json"] ∧
      ∃ result,
        (standard.run pairsTree none ["one/dump.json", "two/dump.json"]).value = .ok result ∧
        (standard.run pairsTree none ["two/dump.json", "one/dump.json"]).value = .ok result := by
  obtain ⟨succeeds, _, _, permuted, _⟩ :=
    run_isolates_dumps standard pairsTree none ["one/dump.json", "two/dump.json"]
  have swapped : ["one/dump.json", "two/dump.json"].Perm ["two/dump.json", "one/dump.json"] :=
    List.Perm.swap _ _ []
  have readable : ∀ dump ∈ ["one/dump.json", "two/dump.json"], ∃ content program,
      pairsTree.readText dump = .ok content ∧ Program.ofText content = .ok program := by
    obtain ⟨one, two⟩ := readDump_pairsTree
    obtain ⟨firstContent, first⟩ := readDump_eq_ok_iff.mp one
    obtain ⟨secondContent, second⟩ := readDump_eq_ok_iff.mp two
    rw [List.forall_mem_cons, List.forall_mem_singleton]
    exact ⟨⟨firstContent, _, first⟩, ⟨secondContent, _, second⟩⟩
  obtain ⟨result, found⟩ := succeeds.mpr readable
  exact ⟨swapped, result, found, (permuted _ swapped result).mpr found⟩

end Settings

end LiteralAudit
