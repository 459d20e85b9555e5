import LiteralAudit.Proofs.Files.PathBase
import LiteralAudit.Report.Sarif

/-!
# Where the results of a report point to

A report has one result for each diagnostic, in their order, and each result points to one place.
With a base, the file of a place is named by the components that lead from the base to it, or by its
own path if it does not stand below the base, and never with a backslash. Without a base it keeps
its name, and the backslashes in it.
-/

namespace LiteralAudit

namespace Json

def member? (name : String) : Json → Option Json
  | .object members => members.lookup name
  | _ => none

/-- The only item of a list. -/
def onlyItem? : Json → Option Json
  | .list [item] => some item
  | _ => none

end Json

namespace Report.Sarif

structure Place where
  uri : String
  line : Nat
  column : Nat
  deriving DecidableEq, Repr

/-- The place that a result points to, if it points to one. -/
def place? (result : Json) : Option Place := do
  let location ← (← result.member? "locations").onlyItem?
  let physical ← location.member? "physicalLocation"
  let artifact ← physical.member? "artifactLocation"
  let region ← physical.member? "region"
  match artifact.member? "uri", region.member? "startLine", region.member? "startColumn" with
  | some (.text uri), some (.number line), some (.number column) => some ⟨uri, line, column⟩
  | _, _, _ => none

/-- The places that the results of a report point to, in their order. -/
def places? (document : Json) : Option (List Place) := do
  let run ← (← document.member? "runs").onlyItem?
  match run.member? "results" with
  | some (.list results) => results.mapM place?
  | _ => none

/-- How the results of a report name their files. -/
def uris? (document : Json) : Option (List String) :=
  (places? document).map fun places => places.map Place.uri

/-- The place of a diagnostic: lines and columns count from one. -/
def placeOf (base : String) (diagnostic : Diagnostic) : Place where
  uri := uri base diagnostic.file
  line := max diagnostic.line 1
  column := max diagnostic.column 1

theorem place?_resultJson (base : String) (diagnostic : Diagnostic) :
    place? (resultJson base diagnostic) = some (placeOf base diagnostic) := rfl

/-- The report has a place for every diagnostic, in their order. -/
theorem places?_eq (base : String) (result : CheckResult) :
    places? (document base result) = some (result.diagnostics.map (placeOf base)) := by
  show (result.diagnostics.map (resultJson base)).mapM place? = _
  induction result.diagnostics with
  | nil => rfl
  | cons diagnostic further inductionHypothesis =>
      rw [List.map_cons, List.mapM_cons, place?_resultJson, inductionHypothesis]
      rfl

theorem uris?_eq (base : String) (result : CheckResult) :
    uris? (document base result) =
      some (result.diagnostics.map fun diagnostic => uri base diagnostic.file) := by
  rw [uris?, places?_eq, Option.map_some, List.map_map]
  rfl

/-! ## Names of files -/

theorem backslash_notMem_withSlashes (path : List Char) : '\\' ∉ withSlashes path := by
  intro member
  obtain ⟨character, -, same⟩ := List.mem_map.mp member
  by_cases isBackslash : character = '\\'
  · rw [if_pos isBackslash] at same
    cases same
  · rw [if_neg isBackslash] at same
    exact isBackslash same

/-- Only backslashes are replaced. -/
theorem withSlashes_eq_self_iff {path : List Char} :
    withSlashes path = path ↔ '\\' ∉ path := by
  constructor
  · intro same
    rw [← same]
    exact backslash_notMem_withSlashes path
  · intro noBackslash
    have kept : ∀ character ∈ path, (if character = '\\' then '/' else character) = character := by
      intro character member
      apply if_neg
      rintro rfl
      exact noBackslash member
    exact (List.map_congr_left kept).trans (List.map_id' path)

/-- Without a base, files are named as they are. -/
theorem uri_without_base (file : String) : uri "" file = file := rfl

variable {base file : String}

theorem uri_of_ne_empty (hasBase : base ≠ "") (file : String) :
    uri base file =
      String.ofList (withSlashes ((Path.stripPrefix? base.toList file.toList).getD file.toList)) :=
  if_neg (by simpa using hasBase)

/-- With a base, no name of a file has a backslash. -/
theorem backslash_notMem_uri (hasBase : base ≠ "") (file : String) :
    '\\' ∉ (uri base file).toList := by
  rw [uri_of_ne_empty hasBase, String.toList_ofList]
  exact backslash_notMem_withSlashes _

theorem toList_ne_nil (hasBase : base ≠ "") : base.toList ≠ [] :=
  fun isEmpty => hasBase (String.toList_eq_nil_iff.mp isEmpty)

/-- Outside its base, a file keeps its path, but for the backslashes. -/
theorem uri_of_outside (hasBase : base ≠ "")
    (outside : ¬ Path.components base.toList <+: Path.components file.toList) :
    uri base file = String.ofList (withSlashes file.toList) := by
  have missing := (Path.stripPrefix?_eq_none_iff (toList_ne_nil hasBase)).mpr outside
  rw [uri_of_ne_empty hasBase, missing, Option.getD_none]

/-- Below its base, a file is named by the components that lead from the base to it. -/
theorem components_uri (hasBase : base ≠ "") (noBackslash : '\\' ∉ file.toList)
    (below : Path.components base.toList <+: Path.components file.toList) :
    Path.components base.toList ++ Path.components (uri base file).toList =
      Path.components file.toList := by
  cases found : Path.stripPrefix? base.toList file.toList with
  | none =>
      exact absurd below ((Path.stripPrefix?_eq_none_iff (toList_ne_nil hasBase)).mp found)
  | some name =>
      have noBackslashBelow : '\\' ∉ name := by
        intro member
        rcases Path.mem_of_stripPrefix? found member with slash | inFile
        · cases slash
        · exact noBackslash inFile
      rw [uri_of_ne_empty hasBase, found, Option.getD_some, String.toList_ofList,
        withSlashes_eq_self_iff.mpr noBackslashBelow, Path.components_of_stripPrefix? found]

/-- A report points to the place of each diagnostic, in their order, but to no line or column below
the first. A base that is not empty, and a file without backslashes, are told apart by components:
the file is named by those behind the base if the base comes first in it, and else by its path. -/
theorem places?_document (base : String) (result : CheckResult) :
    places? (document base result) = some (result.diagnostics.map fun diagnostic =>
        ⟨uri base diagnostic.file, max diagnostic.line 1, max diagnostic.column 1⟩) ∧
      ∀ file : String, base ≠ "" → '\\' ∉ file.toList →
        (Path.components base.toList <+: Path.components file.toList →
          Path.components base.toList ++ Path.components (uri base file).toList =
            Path.components file.toList) ∧
        (¬ Path.components base.toList <+: Path.components file.toList → uri base file = file) := by
  refine ⟨places?_eq base result, ?_⟩
  intro file hasBase noBackslash
  refine ⟨components_uri hasBase noBackslash, ?_⟩
  intro outside
  rw [uri_of_outside hasBase outside, withSlashes_eq_self_iff.mpr noBackslash,
    String.ofList_toList]

/-- Files below `/work/pkg` and beside it. -/
def workResult : CheckResult where
  diagnostics := [⟨"/work//./pkg/a/../b.go/", 0, 7, ""⟩, ⟨"/work/pkgs/c.go", 3, 0, ""⟩]
  filesScanned := 2
  literalsVisited := 2

/-- Files below the base and beside it, by paths that take detours. -/
theorem places?_workResult :
    places? (document "/work/pkg/." workResult) =
        some [⟨"a/../b.go", 1, 7⟩, ⟨"/work/pkgs/c.go", 3, 1⟩] ∧
      Path.components "/work/pkg/.".toList ++ Path.components "a/../b.go".toList =
        Path.components "/work//./pkg/a/../b.go/".toList ∧
      uri "/work/pkg/." "/work/pkgs/c.go" = "/work/pkgs/c.go" := by
  obtain ⟨places, names⟩ := places?_document "/work/pkg/." workResult
  have first : uri "/work/pkg/." "/work//./pkg/a/../b.go/" = "a/../b.go" := by decide
  have below := (names "/work//./pkg/a/../b.go/" (by decide) (by decide)).1 (by decide)
  have beside := (names "/work/pkgs/c.go" (by decide) (by decide)).2 (by decide)
  rw [first] at below
  refine ⟨?_, below, beside⟩
  rw [places]
  simp [workResult, first, beside]

/-! ## Backslashes -/

/-- Outside their base, the names of files change exactly by their backslashes. -/
theorem map_uri_eq_iff (hasBase : base ≠ "") {diagnostics : List Diagnostic}
    (outside : ∀ diagnostic ∈ diagnostics,
      ¬ Path.components base.toList <+: Path.components diagnostic.file.toList) :
    diagnostics.map (fun diagnostic => uri base diagnostic.file) =
        diagnostics.map (fun diagnostic => uri "" diagnostic.file) ↔
      ∀ diagnostic ∈ diagnostics, '\\' ∉ diagnostic.file.toList := by
  rw [List.map_inj_left]
  apply forall₂_congr
  intro diagnostic member
  rw [uri_of_outside hasBase (outside diagnostic member), uri_without_base,
    ← String.toList_inj, String.toList_ofList]
  exact withSlashes_eq_self_iff

/-- No file is named with a backslash exactly when there is a base, or when no path has one. With a
base outside which all files stand, they are named as without a base exactly when no path has a
backslash. -/
theorem uris?_without_backslash_iff (base : String) (result : CheckResult) :
    ∃ uris plain, uris? (document base result) = some uris ∧
      uris? (document "" result) = some plain ∧
      ((∀ uri ∈ uris, '\\' ∉ uri.toList) ↔
        base ≠ "" ∨ ∀ diagnostic ∈ result.diagnostics, '\\' ∉ diagnostic.file.toList) ∧
      (base ≠ "" →
        (∀ diagnostic ∈ result.diagnostics,
          ¬ Path.components base.toList <+: Path.components diagnostic.file.toList) →
        (uris = plain ↔
          ∀ diagnostic ∈ result.diagnostics, '\\' ∉ diagnostic.file.toList)) := by
  refine ⟨_, _, uris?_eq base result, uris?_eq "" result, ?_,
    fun hasBase outside => map_uri_eq_iff hasBase outside⟩
  rw [List.forall_mem_map]
  by_cases hasBase : base = ""
  · subst hasBase
    simp only [uri_without_base, ne_eq, not_true_eq_false, false_or]
  · constructor
    · intro _
      exact .inl hasBase
    · intro _ diagnostic _
      exact backslash_notMem_uri hasBase diagnostic.file

/-- A file whose folder is set off by a backslash. -/
def backslashResult : CheckResult where
  diagnostics := [⟨"pkg\\a.go", 4, 6, "p.Pair is missing fields First, Second"⟩]
  filesScanned := 1
  literalsVisited := 1

/-- Without a base its name keeps the backslash, and a base outside which it stands changes it. -/
theorem uris?_backslashResult_ne :
    (¬ ∃ uris, uris? (document "" backslashResult) = some uris ∧
        ∀ uri ∈ uris, '\\' ∉ uri.toList) ∧
      (∀ diagnostic ∈ backslashResult.diagnostics,
        ¬ Path.components "/work".toList <+: Path.components diagnostic.file.toList) ∧
      uris? (document "/work" backslashResult) ≠ uris? (document "" backslashResult) := by
  have plain : uris? (document "" backslashResult) = some ["pkg\\a.go"] := by decide
  have named : uris? (document "/work" backslashResult) = some ["pkg/a.go"] := by decide
  refine ⟨?_, by decide, ?_⟩
  · rintro ⟨uris, found, noBackslash⟩
    rw [plain] at found
    obtain rfl := Option.some.inj found
    exact noBackslash "pkg\\a.go" List.mem_cons_self (by decide)
  · rw [plain, named]
    decide

end Report.Sarif

end LiteralAudit
