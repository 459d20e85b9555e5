import LiteralAudit.Audit.Diagnostic
import LiteralAudit.Audit.Document
import LiteralAudit.Audit.Memo
import LiteralAudit.Audit.Note
import LiteralAudit.Audit.Run
import LiteralAudit.Audit.Session
import LiteralAudit.Audit.Visit
import LiteralAudit.Command.Arguments
import LiteralAudit.Command.Check
import LiteralAudit.Command.Help
import LiteralAudit.Command.Init
import LiteralAudit.Command.Outcome
import LiteralAudit.Command.Template
import LiteralAudit.Command.Usage
import LiteralAudit.Files.Path
import LiteralAudit.Files.Search
import LiteralAudit.Files.Tree
import LiteralAudit.Glob.Expression
import LiteralAudit.Glob.Form
import LiteralAudit.Glob.Matching
import LiteralAudit.Glob.Token
import LiteralAudit.Json.Basic
import LiteralAudit.Json.Decode
import LiteralAudit.Json.Numeral
import LiteralAudit.Json.Reading
import LiteralAudit.Json.Token
import LiteralAudit.Literal.Document
import LiteralAudit.Literal.Exemption
import LiteralAudit.Literal.Gap
import LiteralAudit.Literal.Resolution
import LiteralAudit.Literal.Site
import LiteralAudit.Main
import LiteralAudit.Number.Binary64
import LiteralAudit.Policy.Configuration
import LiteralAudit.Policy.Document
import LiteralAudit.Policy.PatternList
import LiteralAudit.Policy.Written
import LiteralAudit.Program.Basic
import LiteralAudit.Program.Document
import LiteralAudit.Proofs.Audit.CommentErasure
import LiteralAudit.Proofs.Audit.Coverage
import LiteralAudit.Proofs.Audit.DiagnosticOrder
import LiteralAudit.Proofs.Audit.DumpIsolation
import LiteralAudit.Proofs.Audit.FileRemoval
import LiteralAudit.Proofs.Audit.GrowingTable
import LiteralAudit.Proofs.Audit.InnermostFunction
import LiteralAudit.Proofs.Audit.Joining
import LiteralAudit.Proofs.Audit.MemoAccounting
import LiteralAudit.Proofs.Audit.MemoAgreement
import LiteralAudit.Proofs.Audit.Override
import LiteralAudit.Proofs.Audit.Rearrangement
import LiteralAudit.Proofs.Audit.Relabelling
import LiteralAudit.Proofs.Audit.Repair
import LiteralAudit.Proofs.Audit.Statistics
import LiteralAudit.Proofs.Audit.Suppression
import LiteralAudit.Proofs.Audit.Transparency
import LiteralAudit.Proofs.Audit.Verdict
import LiteralAudit.Proofs.Command.Completion
import LiteralAudit.Proofs.Files.DumpSearch
import LiteralAudit.Proofs.Files.PathBase
import LiteralAudit.Proofs.Files.PathOrder
import LiteralAudit.Proofs.Json.Decoding
import LiteralAudit.Proofs.Json.DocumentReading
import LiteralAudit.Proofs.Json.NumberReading
import LiteralAudit.Proofs.Json.Spelling
import LiteralAudit.Proofs.Json.TextReading
import LiteralAudit.Proofs.Json.Yielding
import LiteralAudit.Proofs.Literal.Chain
import LiteralAudit.Proofs.Literal.Document
import LiteralAudit.Proofs.Literal.Gap
import LiteralAudit.Proofs.Literal.ReturnedError
import LiteralAudit.Proofs.Literal.Trailing
import LiteralAudit.Proofs.Policy.FirstFlaw
import LiteralAudit.Proofs.Policy.Narrowing
import LiteralAudit.Proofs.Policy.Preparation
import LiteralAudit.Proofs.Program.Document
import LiteralAudit.Proofs.Record.Document
import LiteralAudit.Proofs.Record.EncodedTag
import LiteralAudit.Proofs.Record.SettledTag
import LiteralAudit.Proofs.Record.Tag
import LiteralAudit.Proofs.Regex.Backtracking
import LiteralAudit.Proofs.Regex.Compilation
import LiteralAudit.Proofs.Regex.Matching
import LiteralAudit.Proofs.Regex.Passage
import LiteralAudit.Proofs.Regex.Reaching
import LiteralAudit.Proofs.Report.Sarif
import LiteralAudit.Proofs.Report.Summary
import LiteralAudit.Proofs.Source.Adjacency
import LiteralAudit.Proofs.Source.Binding
import LiteralAudit.Proofs.Source.CommentForm
import LiteralAudit.Proofs.Source.Directive
import LiteralAudit.Proofs.Source.DirectiveForm
import LiteralAudit.Proofs.Source.Document
import LiteralAudit.Proofs.Source.Extent
import LiteralAudit.Proofs.Source.GroupOrder
import LiteralAudit.Proofs.Source.Grouping
import LiteralAudit.Proofs.Source.Index
import LiteralAudit.Proofs.Source.LatestDirective
import LiteralAudit.Proofs.Source.Lexing
import LiteralAudit.Proofs.Source.LineAbove
import LiteralAudit.Proofs.Source.LineOrder
import LiteralAudit.Proofs.Source.Padding
import LiteralAudit.Proofs.Source.Replacement
import LiteralAudit.Proofs.Source.TrailingBlanks
import LiteralAudit.Proofs.Success
import LiteralAudit.Proofs.Text.ByteOrder
import LiteralAudit.Proofs.Text.Cut
import LiteralAudit.Proofs.Text.LossyDecoding
import LiteralAudit.Record.Document
import LiteralAudit.Record.RecordType
import LiteralAudit.Record.StructInfo
import LiteralAudit.Record.Tag
import LiteralAudit.Regex.Bracket
import LiteralAudit.Regex.ByteRanges
import LiteralAudit.Regex.Escape
import LiteralAudit.Regex.Expr
import LiteralAudit.Regex.Footprint.Basic
import LiteralAudit.Regex.Footprint.Class
import LiteralAudit.Regex.Footprint.Pattern
import LiteralAudit.Regex.Footprint.Text
import LiteralAudit.Regex.Lowering
import LiteralAudit.Regex.Machine
import LiteralAudit.Regex.Pattern
import LiteralAudit.Regex.Reader
import LiteralAudit.Regex.Syntax
import LiteralAudit.Report.Format
import LiteralAudit.Report.Sarif
import LiteralAudit.Report.Summary
import LiteralAudit.Report.Terminal
import LiteralAudit.Source.Comment
import LiteralAudit.Source.CommentIndex
import LiteralAudit.Source.Directive
import LiteralAudit.Source.Document
import LiteralAudit.Source.Grouping
import LiteralAudit.Source.Position
import LiteralAudit.Source.Segment
import LiteralAudit.Text.Blank
import LiteralAudit.Text.Digits
import LiteralAudit.Text.Quoted
import LiteralAudit.Text.Utf8
import LiteralAudit.Unicode.Age
import LiteralAudit.Unicode.CaseFolding
import LiteralAudit.Unicode.Category
import LiteralAudit.Unicode.CharProperty
import LiteralAudit.Unicode.CharSet
import LiteralAudit.Unicode.LaterVersion
import LiteralAudit.Unicode.Script
import LiteralAudit.Unicode.Segmentation
import LiteralAudit.Yaml.Cursor
import LiteralAudit.Yaml.Node
import LiteralAudit.Yaml.Scalar
import LiteralAudit.Yaml.Tag
import LiteralAudit.Yaml.Token
