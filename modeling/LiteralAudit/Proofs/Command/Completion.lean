import LiteralAudit.Command.Check
import LiteralAudit.Proofs.Audit.DumpIsolation
import LiteralAudit.Proofs.Policy.Preparation
import LiteralAudit.Proofs.Report.Summary

/-!
# A check reports as a whole or not at all

A check needs a format, a configuration with valid patterns and globs, a path that leads somewhere,
and programs in all dumps that the path stands for. If any of these cannot be had, nothing is
written, and this is told apart from a check without dumps by the way in which the check ends. If
they all can be had, one report is written, and the check ends as the report says.
-/

namespace LiteralAudit

/-- Words for formats are taken as they are written. -/
theorem ReportFormat.ofWord_fails_iff {word : String} :
    (∃ error, ofWord word = .error error) ↔ word ∉ ["pretty", "json", "sarif"] := by
  rw [ofWord]
  split_ifs with isPretty isJson isSarif
  · simp [isPretty]
  · simp [isJson]
  · simp [isSarif]
  · simp [isPretty, isJson, isSarif]

theorem FileTree.readConfiguration_fails_iff {tree : FileTree} {path : String} :
    (∃ error, tree.readConfiguration path = .error error) ↔
      ∀ content, tree.readText path = .ok content → Configuration.ofText? content = none := by
  rw [readConfiguration]
  cases tree.readText path with
  | error fault => simp
  | ok content =>
      cases held : Configuration.ofText? content with
      | none => simp [held]
      | some configuration => simp [held]

/-! ## Reports for readers -/

namespace Report.Terminal

/-- Lines that tell a reader all of a result: the checker with its version, the path that was
checked, both counters, the diagnostics in their order, each one with its place and its message,
and the verdict. The number of diagnostics stands above these, unless there is none. -/
def TellAll (colored : Bool) (path : String) (result : CheckResult) (lines : List String) : Prop :=
  ∃ heading verdict,
    (result.diagnostics = [] → heading = [] ∧ verdict = Style.green.apply colored "✓ PASS") ∧
    (result.diagnostics ≠ [] →
      heading = ["  " ++ Style.bold.apply colored "Diagnostics" ++ " (" ++
        toString result.diagnostics.length ++ "):", ""] ∧
      verdict = Style.red.apply colored "✗ FAIL") ∧
    lines =
      ["", "  " ++ Style.boldCyan.apply colored "exhaustruct" ++ " v" ++ version, "",
        "  " ++ Style.dim.apply colored "Checking: " ++ path,
        "  " ++ Style.dim.apply colored (toString result.filesScanned ++ " files, " ++
          toString result.literalsVisited ++ " literals"), ""] ++
      heading ++
      result.diagnostics.flatMap (fun diagnostic =>
        ["    " ++ Style.red.apply colored "ERROR" ++ " " ++
            Style.blue.apply colored diagnostic.file ++
            Style.dim.apply colored
              (":" ++ toString diagnostic.line ++ ":" ++ toString diagnostic.column),
          "          " ++ diagnostic.message, ""]) ++
      ["  " ++ verdict, ""]

theorem tellAll_lines (colored : Bool) (path : String) (result : CheckResult) :
    TellAll colored path result (lines colored path result) := by
  have passes := passed_iff result
  rw [TellAll, lines, diagnosticsLines, verdict]
  cases found : result.diagnostics with
  | nil =>
      rw [if_pos (passes.mpr found)]
      exact ⟨[], _, fun _ => ⟨rfl, rfl⟩, fun present => absurd rfl present, rfl⟩
  | cons diagnostic further =>
      have fails : ¬ result.passed = true := by
        rw [passes, found]
        exact List.cons_ne_nil _ _
      rw [if_neg fails, List.isEmpty_cons, if_neg Bool.false_ne_true]
      refine ⟨_, _, nofun, fun _ => ⟨rfl, rfl⟩, ?_⟩
      simp only [List.append_assoc]
      rfl

end Report.Terminal

namespace CheckArguments

variable (arguments : CheckArguments) (tree : FileTree) (colored : Bool)

/-! ## What a check needs -/

/-- The file with the configuration: the one that is named, or else the one that is found. -/
def configurationPath? : Option String :=
  arguments.configPath.or (tree.configurationIn? ".")

/-- A configuration that is named or found has to be read; if there is none, none is missed. -/
theorem loadConfiguration_fails_iff :
    (∃ error, (arguments.loadConfiguration tree).value = .error error) ↔
      ∃ path, arguments.configurationPath? tree = some path ∧
        ∀ content, tree.readText path = .ok content → Configuration.ofText? content = none := by
  simp only [← FileTree.readConfiguration_fails_iff]
  rw [loadConfiguration, configurationPath?]
  cases arguments.configPath with
  | some path => simp
  | none =>
      cases tree.configurationIn? "." with
      | some path => simp
      | none => simp

/-- Something that a check needs cannot be had. Each case stands for itself, whatever else is
wrong. -/
inductive Fault : Prop where
  | format (unknown : arguments.format ∉ ["pretty", "json", "sarif"])
  | configuration {path : String} (found : arguments.configurationPath? tree = some path)
      (unread : ∀ content, tree.readText path = .ok content →
        Configuration.ofText? content = none)
  | settings {configuration : Configuration}
      (loaded : (arguments.loadConfiguration tree).value = .ok configuration)
      (invalid : ¬ (arguments.apply configuration).IsValid)
  | path {fault : FileFault} (inaccessible : tree.canonical arguments.path = .error fault)
  | folder {path : String} {error : SearchError}
      (canonical : tree.canonical arguments.path = .ok path)
      (unlisted : tree.dumps path = .error error)
  | dump {path dump : String} {dumps : List String}
      (canonical : tree.canonical arguments.path = .ok path)
      (listed : tree.dumps path = .ok dumps) (member : dump ∈ dumps)
      (unread : ∀ content program, tree.readText dump = .ok content →
        Program.ofText content ≠ .ok program)

/-- All that a check needs before it reads the first dump. -/
structure Ready (format : ReportFormat) (settings : Settings) (dumps : List String) : Prop where
  format : ReportFormat.ofWord arguments.format = .ok format
  settings : ∃ configuration, (arguments.loadConfiguration tree).value = .ok configuration ∧
    (arguments.apply configuration).prepare = .ok settings
  dumps : ∃ path, tree.canonical arguments.path = .ok path ∧ tree.dumps path = .ok dumps

def FindsNoDump : Prop :=
  ∃ format settings, arguments.Ready tree format settings []

/-- The check has a result, which is to be reported in a format. -/
def Reports (format : ReportFormat) (result : CheckResult) : Prop :=
  ∃ settings dumps, arguments.Ready tree format settings dumps ∧ dumps ≠ [] ∧
    (settings.run tree arguments.sourceRoot dumps).value = .ok result

variable {arguments tree} {format other : ReportFormat} {settings : Settings}
  {dumps : List String} {result : CheckResult}

/-- The arguments and the files settle what a check gets ready. -/
theorem Ready.unique {settings' : Settings} {dumps' : List String}
    (first : arguments.Ready tree format settings dumps)
    (second : arguments.Ready tree other settings' dumps') :
    format = other ∧ settings = settings' ∧ dumps = dumps' := by
  obtain ⟨configuration, loaded, prepared⟩ := first.settings
  obtain ⟨configuration', loaded', prepared'⟩ := second.settings
  obtain ⟨path, canonical, listed⟩ := first.dumps
  obtain ⟨path', canonical', listed'⟩ := second.dumps
  obtain rfl : configuration = configuration' := Except.ok.inj (loaded.symm.trans loaded')
  obtain rfl : path = path' := Except.ok.inj (canonical.symm.trans canonical')
  exact ⟨Except.ok.inj (first.format.symm.trans second.format),
    Except.ok.inj (prepared.symm.trans prepared'), Except.ok.inj (listed.symm.trans listed')⟩

theorem Reports.unique {result' : CheckResult}
    (first : arguments.Reports tree format result)
    (second : arguments.Reports tree other result') :
    format = other ∧ result = result' := by
  obtain ⟨settings, dumps, ready, -, ran⟩ := first
  obtain ⟨settings', dumps', ready', -, ran'⟩ := second
  obtain ⟨rfl, rfl, rfl⟩ := ready.unique ready'
  exact ⟨rfl, Except.ok.inj (ran.symm.trans ran')⟩

theorem FindsNoDump.not_reports (findsNone : arguments.FindsNoDump tree) :
    ¬ arguments.Reports tree format result := by
  rintro ⟨settings, dumps, ready, present, -⟩
  obtain ⟨_, _, empty⟩ := findsNone
  exact present (ready.unique empty).2.2

/-- In a check that is ready, only a dump can be at fault. -/
theorem Fault.exists_dump (fault : arguments.Fault tree)
    (ready : arguments.Ready tree format settings dumps) :
    ∃ dump ∈ dumps, ¬ ∃ program, Settings.readDump tree dump = .ok program := by
  obtain ⟨found, loaded, prepared⟩ := ready.settings
  obtain ⟨place, canonical, listed⟩ := ready.dumps
  -- Every other fault contradicts a step that has succeeded.
  cases fault with
  | format unknown =>
      obtain ⟨error, fails⟩ := ReportFormat.ofWord_fails_iff.mpr unknown
      rw [ready.format] at fails
      cases fails
  | configuration named unread =>
      obtain ⟨error, fails⟩ := (loadConfiguration_fails_iff arguments tree).mpr ⟨_, named, unread⟩
      rw [loaded] at fails
      cases fails
  | settings loaded' invalid =>
      rw [loaded] at loaded'
      cases loaded'
      exact absurd (Configuration.prepare_succeeds_iff.mp ⟨settings, prepared⟩) invalid
  | path inaccessible =>
      rw [canonical] at inaccessible
      cases inaccessible
  | folder canonical' unlisted =>
      rw [canonical] at canonical'
      cases canonical'
      rw [listed] at unlisted
      cases unlisted
  | dump canonical' listed' member unread =>
      rw [canonical] at canonical'
      cases canonical'
      rw [listed] at listed'
      cases listed'
      refine ⟨_, member, ?_⟩
      rintro ⟨program, read⟩
      obtain ⟨content, text, parsed⟩ := Settings.readDump_eq_ok_iff.mp read
      exact unread content program text parsed

theorem Fault.not_findsNoDump (fault : arguments.Fault tree) :
    ¬ arguments.FindsNoDump tree := by
  rintro ⟨format, settings, ready⟩
  obtain ⟨dump, member, -⟩ := fault.exists_dump ready
  cases member

theorem Fault.not_reports (fault : arguments.Fault tree) :
    ¬ arguments.Reports tree format result := by
  rintro ⟨settings, dumps, ready, -, ran⟩
  obtain ⟨dump, member, unread⟩ := fault.exists_dump ready
  exact unread (Settings.run_succeeds_iff.mp ⟨result, ran⟩ dump member)

/-! ## How a check ends -/

/-- The courses that a check can take, each with what it leaves behind. -/
inductive Course (arguments : CheckArguments) (tree : FileTree) (colored : Bool) :
    Outcome → Prop where
  | refused (fault : arguments.Fault tree) (notes : List Note) (message : String) :
      Course arguments tree colored (.refuse tree notes message)
  | stopped (fault : arguments.Fault tree) (notes : List Note) (message : String) :
      Course arguments tree colored ⟨.failed message, "", "", notes, tree⟩
  | idle (findsNone : arguments.FindsNoDump tree) (notes : List Note) :
      Course arguments tree colored ⟨.exit Outcome.success, "", "", notes, tree⟩
  | reported {format : ReportFormat} {result : CheckResult}
      (reports : arguments.Reports tree format result) (notes : List Note) :
      Course arguments tree colored
        ⟨.exit (if result.passed then Outcome.success else Outcome.findings),
          arguments.report colored format result, "", notes, tree⟩

variable {colored}

section Steps

variable (known : ReportFormat.ofWord arguments.format = .ok format)
  (prepared : ∃ configuration, (arguments.loadConfiguration tree).value = .ok configuration ∧
    (arguments.apply configuration).prepare = .ok settings)
  (notes : List Note)

include known prepared

theorem course_checkPath {path : String} (canonical : tree.canonical arguments.path = .ok path) :
    Course arguments tree colored
      (arguments.checkPath tree colored format settings notes path) := by
  rw [checkPath]
  cases listed : tree.dumps path with
  | error error => exact .stopped (.folder canonical listed) _ _
  | ok dumps =>
      have ready : arguments.Ready tree format settings dumps :=
        ⟨known, prepared, path, canonical, listed⟩
      cases dumps with
      | nil => exact .idle ⟨format, settings, ready⟩ _
      | cons dump further =>
          dsimp only
          cases ran : (settings.run tree arguments.sourceRoot (dump :: further)).value with
          | error error =>
              -- The run has stopped at some dump, wherever it stands in the list.
              obtain ⟨before, faulty, after, split, -, unread⟩ :=
                Settings.run_value_eq_error_iff.mp ran
              have member : faulty ∈ dump :: further := by
                rw [split]
                exact List.mem_append_right before List.mem_cons_self
              refine .stopped (.dump canonical listed member ?_) _ _
              intro content program text parsed
              rw [Settings.readDump_eq_ok_iff.mpr ⟨content, text, parsed⟩] at unread
              cases unread
          | ok result =>
              exact .reported ⟨settings, _, ready, List.cons_ne_nil _ _, ran⟩ _

theorem course_checkPrepared :
    Course arguments tree colored
      (arguments.checkPrepared tree colored format notes settings) := by
  rw [checkPrepared.eq_def]
  cases canonical : tree.canonical arguments.path with
  | error fault => exact .refused (.path canonical) _ _
  | ok path => exact course_checkPath known prepared notes canonical

end Steps

/-- Every check takes one of the courses. -/
theorem course_run : Course arguments tree colored (arguments.run tree colored) := by
  rw [run]
  cases known : ReportFormat.ofWord arguments.format with
  | error error =>
      exact .refused (.format (ReportFormat.ofWord_fails_iff.mp ⟨error, known⟩)) _ _
  | ok format =>
      dsimp only
      cases loaded : (arguments.loadConfiguration tree).value with
      | error error =>
          obtain ⟨path, found, unread⟩ :=
            (loadConfiguration_fails_iff arguments tree).mp ⟨error, loaded⟩
          exact .refused (.configuration found unread) _ _
      | ok configuration =>
          dsimp only
          cases prepared : (arguments.apply configuration).prepare with
          | error error =>
              have invalid := fails_iff.mp ⟨error, prepared⟩
              rw [Configuration.prepare_succeeds_iff] at invalid
              exact .refused (.settings loaded invalid) _ _
          | ok settings =>
              exact course_checkPrepared known ⟨configuration, loaded, prepared⟩ _

/-! ## What a check writes -/

/-- A text is a complete report: the lines that tell a reader all of the result, or one document,
which nothing but the end of its last line follows. -/
def IsComplete (arguments : CheckArguments) (colored : Bool) (result : CheckResult) :
    ReportFormat → String → Prop
  | .pretty, output => ∃ lines, Report.Terminal.TellAll colored arguments.path result lines ∧
      output = String.join (lines.map (· ++ "\n"))
  | .json, output => ∃ text, output = String.ofList text ++ "\n" ∧
      Json.Spells (Report.Summary.toJson (.ofResult arguments.path result)) text
  | .sarif, output => ∃ text, output = String.ofList text ++ "\n" ∧
      Json.Spells (Report.Sarif.document (arguments.sourceRoot.getD "") result) text

theorem isComplete_report (arguments : CheckArguments) (colored : Bool) (format : ReportFormat)
    (result : CheckResult) :
    arguments.IsComplete colored result format (arguments.report colored format result) := by
  cases format with
  | pretty => exact ⟨_, Report.Terminal.tellAll_lines colored arguments.path result, rfl⟩
  | json => exact ⟨_, rfl, Json.spells_layOut 0 _⟩
  | sarif => exact ⟨_, rfl, Json.spells_layOut 0 _⟩

theorem report_ne_empty (arguments : CheckArguments) (colored : Bool) (format : ReportFormat)
    (result : CheckResult) :
    arguments.report colored format result ≠ "" := by
  cases format with
  | pretty =>
      rw [report, Report.Terminal.text, Report.Terminal.lines]
      simp [String.join_cons]
  | json => simp [report, Report.summaryText, Report.documentText]
  | sarif => simp [report, Report.documentText]

namespace Course

variable {outcome : Outcome}

theorem of_reports (course : Course arguments tree colored outcome)
    (reports : arguments.Reports tree format result) :
    outcome.output = arguments.report colored format result ∧
      (outcome.ending = .exit Outcome.findings ↔ result.diagnostics ≠ []) ∧
      (outcome.ending = .exit Outcome.success ↔ result.diagnostics = []) := by
  cases course with
  | refused fault => exact absurd reports fault.not_reports
  | stopped fault => exact absurd reports fault.not_reports
  | idle findsNone => exact absurd reports findsNone.not_reports
  | reported reports' =>
      obtain ⟨rfl, rfl⟩ := reports.unique reports'
      refine ⟨rfl, ?_⟩
      rw [ne_eq, ← Report.passed_iff]
      cases result.passed with
      | true => simp [Outcome.success, Outcome.findings]
      | false => simp [Outcome.success, Outcome.findings]

theorem of_findsNoDump (course : Course arguments tree colored outcome)
    (findsNone : arguments.FindsNoDump tree) :
    outcome.output = "" ∧ outcome.ending = .exit Outcome.success := by
  cases course with
  | refused fault => exact absurd findsNone fault.not_findsNoDump
  | stopped fault => exact absurd findsNone fault.not_findsNoDump
  | idle => exact ⟨rfl, rfl⟩
  | reported reports => exact absurd reports findsNone.not_reports

/-- A fault leaves no report behind, be it found before the run or in its last dump. -/
theorem of_fault (course : Course arguments tree colored outcome)
    (fault : arguments.Fault tree) :
    outcome.output = "" ∧
      (outcome.ending = .exit Outcome.refused ∨
        ∃ message, outcome.ending = .failed message) := by
  cases course with
  | refused => exact ⟨rfl, Or.inl rfl⟩
  | stopped _ notes message => exact ⟨rfl, Or.inr ⟨message, rfl⟩⟩
  | idle findsNone => exact absurd findsNone fault.not_findsNoDump
  | reported reports => exact absurd reports fault.not_reports

/-- A fault, no dump, or a report: there is nothing else. -/
theorem exhaustive (course : Course arguments tree colored outcome) :
    arguments.Fault tree ∨ arguments.FindsNoDump tree ∨
      ∃ format result, arguments.Reports tree format result := by
  cases course with
  | refused fault => exact Or.inl fault
  | stopped fault => exact Or.inl fault
  | idle findsNone => exact Or.inr (Or.inl findsNone)
  | reported reports => exact Or.inr (Or.inr ⟨_, _, reports⟩)

theorem not_fault (course : Course arguments tree colored outcome) {code : Nat}
    (ends : outcome.ending = .exit code) (run : code ≠ Outcome.refused) :
    ¬ arguments.Fault tree := by
  intro fault
  rcases (course.of_fault fault).2 with refused | ⟨message, stopped⟩
  · exact run (Ending.exit.inj (ends.symm.trans refused))
  · cases ends.symm.trans stopped

/-- Only a report with a diagnostic makes a check end so. -/
theorem ending_eq_findings_iff (course : Course arguments tree colored outcome) :
    outcome.ending = .exit Outcome.findings ↔
      ∃ format result, arguments.Reports tree format result ∧ result.diagnostics ≠ [] ∧
        outcome.output = arguments.report colored format result := by
  constructor
  · intro ends
    rcases course.exhaustive with fault | findsNone | ⟨format, result, reports⟩
    · exact absurd fault (course.not_fault ends (by decide))
    · cases ends.symm.trans (course.of_findsNoDump findsNone).2
    · obtain ⟨written, found, -⟩ := course.of_reports reports
      exact ⟨format, result, reports, found.mp ends, written⟩
  · rintro ⟨format, result, reports, found, -⟩
    exact (course.of_reports reports).2.1.mpr found

theorem ending_eq_success_iff (course : Course arguments tree colored outcome) :
    outcome.ending = .exit Outcome.success ↔
      (∃ format result, arguments.Reports tree format result ∧ result.diagnostics = [] ∧
        outcome.output = arguments.report colored format result) ∨
      (arguments.FindsNoDump tree ∧ outcome.output = "") := by
  constructor
  · intro ends
    rcases course.exhaustive with fault | findsNone | ⟨format, result, reports⟩
    · exact absurd fault (course.not_fault ends (by decide))
    · exact Or.inr ⟨findsNone, (course.of_findsNoDump findsNone).1⟩
    · obtain ⟨written, -, passed⟩ := course.of_reports reports
      exact Or.inl ⟨format, result, reports, passed.mp ends, written⟩
  · rintro (⟨format, result, reports, clean, -⟩ | ⟨findsNone, -⟩)
    · exact (course.of_reports reports).2.2.mpr clean
    · exact (course.of_findsNoDump findsNone).2

theorem fault_iff (course : Course arguments tree colored outcome) :
    arguments.Fault tree ↔
      (outcome.ending = .exit Outcome.refused ∨
        ∃ message, outcome.ending = .failed message) := by
  constructor
  · intro fault
    exact (course.of_fault fault).2
  · intro ends
    cases course with
    | refused fault => exact fault
    | stopped fault => exact fault
    | idle => simp [Outcome.success, Outcome.refused] at ends
    | reported reports =>
        split_ifs at ends <;> simp [Outcome.success, Outcome.findings, Outcome.refused] at ends

/-- Either the report of the result is written, or there is no result and nothing is written. -/
theorem output_eq (course : Course arguments tree colored outcome) :
    (∃ format result, arguments.Reports tree format result ∧
        outcome.output = arguments.report colored format result ∧
        arguments.IsComplete colored result format outcome.output ∧ outcome.output ≠ "") ∨
      (∀ format result, ¬ arguments.Reports tree format result) ∧ outcome.output = "" := by
  cases course with
  | refused fault => exact Or.inr ⟨fun _ _ => fault.not_reports, rfl⟩
  | stopped fault => exact Or.inr ⟨fun _ _ => fault.not_reports, rfl⟩
  | idle findsNone => exact Or.inr ⟨fun _ _ => findsNone.not_reports, rfl⟩
  | reported reports =>
      exact Or.inl ⟨_, _, reports, rfl, isComplete_report arguments colored _ _,
        report_ne_empty arguments colored _ _⟩

/-- A summary is written that says of itself how the check ends. -/
theorem of_reports_json (course : Course arguments tree colored outcome)
    (reports : arguments.Reports tree .json result) :
    ∃ summary text, outcome.output = String.ofList text ++ "\n" ∧
      Json.Spells (Report.Summary.toJson summary) text ∧
      (result.Fits → Report.Summary.ofText outcome.output = .ok summary) ∧
      (summary.passed = true ↔ outcome.ending = .exit Outcome.success) := by
  obtain ⟨written, -, passed⟩ := course.of_reports reports
  refine ⟨.ofResult arguments.path result, _, written, Json.spells_layOut 0 _, ?_, ?_⟩
  · intro fits
    rw [written]
    exact Report.Summary.ofText_documentText
      (Report.Summary.decodes_ofResult arguments.path fits) (by decide)
  · exact (Report.passed_iff result).trans passed.symm

end Course

/-- A check that has a result writes its report, as a whole, and ends as the result says; a summary
says so itself. A check without dumps ends well and writes nothing. If anything that it needs cannot
be had, be it the program in the last of its dumps, a check is refused or fails and has written
nothing. -/
theorem run_reports_or_writes_nothing (arguments : CheckArguments) (tree : FileTree)
    (colored : Bool) :
    (arguments.Fault tree ∨ arguments.FindsNoDump tree ∨
      ∃ format result, arguments.Reports tree format result) ∧
    ((∃ format result, arguments.Reports tree format result ∧
        (arguments.run tree colored).output = arguments.report colored format result ∧
        arguments.IsComplete colored result format (arguments.run tree colored).output ∧
        (arguments.run tree colored).output ≠ "") ∨
      (∀ format result, ¬ arguments.Reports tree format result) ∧
        (arguments.run tree colored).output = "") ∧
    ((arguments.run tree colored).ending = .exit Outcome.findings ↔
      ∃ format result, arguments.Reports tree format result ∧ result.diagnostics ≠ [] ∧
        (arguments.run tree colored).output = arguments.report colored format result) ∧
    ((arguments.run tree colored).ending = .exit Outcome.success ↔
      (∃ format result, arguments.Reports tree format result ∧ result.diagnostics = [] ∧
        (arguments.run tree colored).output = arguments.report colored format result) ∨
      (arguments.FindsNoDump tree ∧ (arguments.run tree colored).output = "")) ∧
    (arguments.Fault tree ↔
      ((arguments.run tree colored).ending = .exit Outcome.refused ∨
        ∃ message, (arguments.run tree colored).ending = .failed message)) ∧
    (arguments.Fault tree → (arguments.run tree colored).output = "") ∧
    ∀ result, arguments.Reports tree .json result →
      ∃ summary text, (arguments.run tree colored).output = String.ofList text ++ "\n" ∧
        Json.Spells (Report.Summary.toJson summary) text ∧
        (result.Fits →
          Report.Summary.ofText (arguments.run tree colored).output = .ok summary) ∧
        (summary.passed = true ↔
          (arguments.run tree colored).ending = .exit Outcome.success) := by
  have course : Course arguments tree colored (arguments.run tree colored) := course_run
  refine ⟨course.exhaustive, course.output_eq, course.ending_eq_findings_iff,
    course.ending_eq_success_iff, course.fault_iff, ?_, ?_⟩
  · intro fault
    exact (course.of_fault fault).1
  · intro result reports
    exact course.of_reports_json reports

-- A folder without dumps passes.
example :
    let arguments : CheckArguments :=
      ⟨"/", none, [], [], false, [], false, false, false, none, "json"⟩
    let outcome := arguments.run ⟨.folder [], []⟩ false
    outcome.ending = .exit Outcome.success ∧ outcome.output = "" := by
  decide +kernel

end CheckArguments

end LiteralAudit
