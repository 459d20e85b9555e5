import LiteralAudit.Proofs.Json.Decoding
import LiteralAudit.Report.Summary

/-!
# Summaries are written and read

The summary of a result is written as one document, laid out over lines, and a line feed. A reader
of summaries finds in it what the result holds, whatever characters stand in the path, the files and
the messages, and up to the greatest counts, lines and columns.
-/

namespace LiteralAudit

open Json

/-- Line and column have 64 bits. -/
def Diagnostic.Fits (diagnostic : Diagnostic) : Prop :=
  diagnostic.line < UInt64.size ∧ diagnostic.column < UInt64.size

instance (diagnostic : Diagnostic) : Decidable diagnostic.Fits :=
  inferInstanceAs (Decidable (_ ∧ _))

/-- All counts, lines and columns have 64 bits. -/
def CheckResult.Fits (result : CheckResult) : Prop :=
  (∀ diagnostic ∈ result.diagnostics, diagnostic.Fits) ∧
    result.filesScanned < UInt64.size ∧ result.literalsVisited < UInt64.size

instance (result : CheckResult) : Decidable result.Fits :=
  inferInstanceAs (Decidable ((∀ diagnostic ∈ result.diagnostics, diagnostic.Fits) ∧ _ ∧ _))

namespace Report

theorem RuledDiagnostic.decodes {ruled : RuledDiagnostic} (fits : ruled.diagnostic.Fits) :
    Decodes shape.decode 1 ruled.toJson ruled := by
  obtain ⟨lineFits, columnFits⟩ := fits
  have fills : shape.Fills 0 [] shape.blank
      [("rule", .text ruled.rule), ("file", .text ruled.diagnostic.file),
        ("line", .number ruled.diagnostic.line), ("column", .number ruled.diagnostic.column),
        ("message", .text ruled.diagnostic.message)]
      ["message", "column", "line", "file", "rule"] ruled :=
    .cons rfl rfl (decodes_string ruled.rule)
      (.cons rfl rfl (decodes_string ruled.diagnostic.file)
        (.cons rfl rfl (decodes_count lineFits)
          (.cons rfl rfl (decodes_count columnFits)
            (.cons rfl rfl (decodes_string ruled.diagnostic.message) (.nil _ _)))))
  exact fills.decodes rfl

namespace Summary

theorem decodes {summary : Summary}
    (diagnosticsFit : ∀ ruled ∈ summary.diagnostics, ruled.diagnostic.Fits)
    (filesFit : summary.filesScanned < UInt64.size)
    (literalsFit : summary.literalsVisited < UInt64.size) :
    Decodes shape.decode 3 summary.toJson summary := by
  have diagnostics : Decodes (Decoder.list RuledDiagnostic.shape.decode) 2
      (.list (summary.diagnostics.map RuledDiagnostic.toJson)) summary.diagnostics :=
    decodes_list fun ruled member => RuledDiagnostic.decodes (diagnosticsFit ruled member)
  have fills : shape.Fills 2 [] shape.blank
      [("version", .text summary.version), ("path", .text summary.path),
        ("passed", .bool summary.passed), ("files_scanned", .number summary.filesScanned),
        ("literals_visited", .number summary.literalsVisited),
        ("diagnostics", .list (summary.diagnostics.map RuledDiagnostic.toJson))]
      ["diagnostics", "literals_visited", "files_scanned", "passed", "path", "version"]
      summary :=
    .cons rfl rfl (decodes_string summary.version)
      (.cons rfl rfl (decodes_string summary.path)
        (.cons rfl rfl (decodes_boolean summary.passed)
          (.cons rfl rfl (decodes_count filesFit)
            (.cons rfl rfl (decodes_count literalsFit)
              (.cons rfl rfl diagnostics (.nil _ _))))))
  exact fills.decodes rfl

theorem decodes_ofResult (path : String) {result : CheckResult} (fits : result.Fits) :
    Decodes shape.decode 3 (ofResult path result).toJson (ofResult path result) := by
  obtain ⟨diagnosticsFit, filesFit, literalsFit⟩ := fits
  refine decodes ?_ filesFit literalsFit
  intro ruled member
  obtain ⟨diagnostic, found, rfl⟩ := List.mem_map.mp member
  exact diagnosticsFit diagnostic found

/-- The text of a document that is decoded holds a summary. -/
theorem ofText_documentText {document : Json} {depth : Nat} {summary : Summary}
    (decodes : Decodes shape.decode depth document summary)
    (shallow : depth ≤ Reading.greatestDepth) :
    ofText (documentText document) = .ok summary := by
  have lineFeed : IsGap ['\n'] := isGap_newLine 0
  have read := decodes.decodeText_eq shallow (spells_layOut 0 document) isGap_nil lineFeed
  rw [List.nil_append] at read
  rw [ofText, documentText, pretty, String.toList_append, String.toList_ofList]
  exact read

end Summary

theorem passed_iff (result : CheckResult) : result.passed = true ↔ result.diagnostics = [] :=
  List.isEmpty_iff

theorem diagnostics_ofResult (path : String) (result : CheckResult) :
    (Summary.ofResult path result).diagnostics.map (·.diagnostic) = result.diagnostics := by
  rw [Summary.ofResult, List.map_map]
  exact List.map_id result.diagnostics

/-- The text of a result is one document and a line feed, and what is read from it is the result: the
path and the counts, that nothing was found if that is so, and the diagnostics in their order, each
with the only rule. -/
theorem ofText_summaryText (path : String) {result : CheckResult} (fits : result.Fits) :
    (∃ text, Spells (Summary.ofResult path result).toJson text ∧
        summaryText path result = String.ofList text ++ "\n") ∧
      ∃ summary, Summary.ofText (summaryText path result) = .ok summary ∧
        summary.path = path ∧
        summary.filesScanned = result.filesScanned ∧
        summary.literalsVisited = result.literalsVisited ∧
        (summary.passed = true ↔ result.diagnostics = []) ∧
        summary.diagnostics.map (·.diagnostic) = result.diagnostics ∧
        ∀ ruled ∈ summary.diagnostics, ruled.rule = checkerName := by
  have read := Summary.ofText_documentText (Summary.decodes_ofResult path fits) (by decide)
  refine ⟨⟨_, spells_layOut 0 _, rfl⟩, Summary.ofResult path result, read, rfl, rfl, rfl,
    passed_iff result, diagnostics_ofResult path result, ?_⟩
  intro ruled member
  obtain ⟨diagnostic, -, rfl⟩ := List.mem_map.mp member
  rfl

/-- A result with characters of all sorts in its texts, and with the greatest numbers. -/
def manyCharactersResult : CheckResult where
  diagnostics := [
    ⟨"😀 \"é\\.go", 0xFFFFFFFFFFFFFFFF, 0, "\u0000\u0008\t\n\u000c\r\u001f\u007f/"⟩,
    ⟨"", 1, 0xFFFFFFFFFFFFFFFF, "p.Pair is missing fields First, Second"⟩]
  filesScanned := 0xFFFFFFFFFFFFFFFF
  literalsVisited := 0

/-- Quotes, backslashes, line feeds and characters behind the first plane are read back. -/
theorem ofText_summaryText_manyCharacters :
    manyCharactersResult.Fits ∧
      ∃ summary, Summary.ofText (summaryText "\"\\\n😀" manyCharactersResult) = .ok summary ∧
        summary.path = "\"\\\n😀" ∧ ¬ summary.passed = true ∧
        summary.diagnostics.map (·.diagnostic) = manyCharactersResult.diagnostics := by
  have fits : manyCharactersResult.Fits := by decide
  obtain ⟨-, summary, read, path, -, -, passed, diagnostics, -⟩ :=
    ofText_summaryText "\"\\\n😀" fits
  refine ⟨fits, summary, read, path, ?_, diagnostics⟩
  rw [passed]
  exact List.cons_ne_nil _ _

end Report

end LiteralAudit
