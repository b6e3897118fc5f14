import BranchFold.Command.Blocks
import BranchFold.Command.Help
import BranchFold.Command.Invocation
import BranchFold.Command.Options
import BranchFold.Command.Outcome
import BranchFold.Command.Resemblance
import BranchFold.Command.Run
import BranchFold.Command.Scan
import BranchFold.Command.Settings
import BranchFold.Command.Usage
import BranchFold.Document.Block
import BranchFold.Document.Lines
import BranchFold.Files.Collect
import BranchFold.Files.Path
import BranchFold.Files.Read
import BranchFold.Files.Tree
import BranchFold.FoldRange
import BranchFold.Json.Bytes
import BranchFold.Json.Reader
import BranchFold.Json.Value
import BranchFold.Json.Writer
import BranchFold.Language
import BranchFold.Main
import BranchFold.Number.Binary64
import BranchFold.Number.Shortest
import BranchFold.Pattern.Basic
import BranchFold.Pattern.CharClass
import BranchFold.Pattern.Meaning
import BranchFold.Pattern.Search
import BranchFold.Report.Record
import BranchFold.Report.Text
import BranchFold.Rule.Basic
import BranchFold.Rule.Builtin.Exits
import BranchFold.Rule.Builtin.Guards
import BranchFold.Rule.Builtin.Reports
import BranchFold.Rule.Builtin.Table
import BranchFold.Rule.Builtin.Vocabulary
import BranchFold.Scan.Batch
import BranchFold.Scan.Progress
import BranchFold.Scan.File
import BranchFold.Schema.Check
import BranchFold.Schema.Numeral
import BranchFold.Schema.Problem
import BranchFold.Service.Address
import BranchFold.Service.App
import BranchFold.Service.Exposition
import BranchFold.Service.Metrics
import BranchFold.Service.Request
import BranchFold.Service.Shutdown
import BranchFold.Settings.Environment
import BranchFold.Settings.LogLevel
import BranchFold.Text.Blank
import BranchFold.Text.CodeRange
import BranchFold.Text.ControlSequence
import BranchFold.Text.Digit
import BranchFold.Text.Letter
import BranchFold.Text.Numeral
import BranchFold.Text.Order
import BranchFold.Text.PrintableTable
import BranchFold.Text.Quoted
import BranchFold.Text.UpperTable
import BranchFold.Text.Utf8
import BranchFold.Text.Word
import BranchFold.Text.WordTable
import BranchFold.Verdict
import BranchFold.Version
import BranchFold.Proofs.Matching
import BranchFold.Proofs.Levels
import BranchFold.Proofs.LineEnds
import BranchFold.Proofs.WholeSums
import BranchFold.Proofs.FoldFamily
import BranchFold.Proofs.Reasons
import BranchFold.Proofs.Tallies
import BranchFold.Proofs.Reconciliation
import BranchFold.Proofs.Encoding
import BranchFold.Proofs.Collected
import BranchFold.Proofs.Evidence
import BranchFold.Proofs.AnyBlock
import BranchFold.Proofs.DepthGate
import BranchFold.Proofs.RuleChanges
import BranchFold.Proofs.Insertion
import BranchFold.Proofs.Reindentation
import BranchFold.Proofs.ScanOrder
import BranchFold.Proofs.Overrides
import BranchFold.Proofs.Numerals
import BranchFold.Proofs.JsonReading
import BranchFold.Proofs.HostReports
import BranchFold.Proofs.HostAgreement
import BranchFold.Proofs.PlainOutput
import BranchFold.Proofs.Concatenation
import BranchFold.Proofs.NormalPaths
import BranchFold.Proofs.Resolution
import BranchFold.Proofs.FolderFiles
import BranchFold.Proofs.ListingOrder
import BranchFold.Proofs.CollectedUnion
import BranchFold.Proofs.TextReport
import BranchFold.Proofs.Words
import BranchFold.Proofs.Languages
import BranchFold.Proofs.FailingExits
import BranchFold.Proofs.ReturnedFailures
import BranchFold.Proofs.GuardContext
import BranchFold.Proofs.AbsentComparisons
import BranchFold.Proofs.Literals
import BranchFold.Proofs.ReportNames
import BranchFold.Proofs.SpokenErrors
import BranchFold.Proofs.Labels
