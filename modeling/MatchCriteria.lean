import MatchCriteria.CommandLine.Argument
import MatchCriteria.CommandLine.Command
import MatchCriteria.CommandLine.Fault
import MatchCriteria.CommandLine.Parameter
import MatchCriteria.CommandLine.Reading
import MatchCriteria.CommandLine.Usage
import MatchCriteria.Error
import MatchCriteria.Json.Fault
import MatchCriteria.Json.Field
import MatchCriteria.Json.Printer
import MatchCriteria.Json.Reader
import MatchCriteria.Json.Value
import MatchCriteria.Log.Directive
import MatchCriteria.Log.Event
import MatchCriteria.Log.Filter
import MatchCriteria.Log.Instant
import MatchCriteria.Main
import MatchCriteria.Matcher
import MatchCriteria.Number.Hex
import MatchCriteria.Number.Int128
import MatchCriteria.Number.Matcher
import MatchCriteria.Number.Operator
import MatchCriteria.Number.Shortest
import MatchCriteria.Outcome
import MatchCriteria.Pattern.Compile
import MatchCriteria.Pattern.Cursor
import MatchCriteria.Pattern.Diagnostic
import MatchCriteria.Pattern.Elaboration
import MatchCriteria.Pattern.Expr
import MatchCriteria.Pattern.Grammar
import MatchCriteria.Pattern.LiteralTree
import MatchCriteria.Pattern.NormalForm
import MatchCriteria.Pattern.Plan
import MatchCriteria.Pattern.Size
import MatchCriteria.Pattern.Tree
import MatchCriteria.Pattern.Utf8Range
import MatchCriteria.Report.Document
import MatchCriteria.Report.Text
import MatchCriteria.Run
import MatchCriteria.Text.Blank
import MatchCriteria.Text.Controls
import MatchCriteria.Text.Lines
import MatchCriteria.Text.Quoted
import MatchCriteria.Text.Similarity
import MatchCriteria.Text.Style
import MatchCriteria.Text.Utf8
import MatchCriteria.TextMatcher
import MatchCriteria.Unicode.AgeTable
import MatchCriteria.Unicode.Case
import MatchCriteria.Unicode.CaseFoldingTable
import MatchCriteria.Unicode.CaseRun
import MatchCriteria.Unicode.CategoryTable
import MatchCriteria.Unicode.CodePointSet
import MatchCriteria.Unicode.LowercaseTable
import MatchCriteria.Unicode.Property
import MatchCriteria.Unicode.PropertyTable
import MatchCriteria.Unicode.ScriptTable
import MatchCriteria.Unicode.SegmentationTable
import MatchCriteria.Proofs.Number.Hex
import MatchCriteria.Proofs.Number.Grammar
import MatchCriteria.Proofs.Json.Strings
import MatchCriteria.Proofs.Json.Numbers
import MatchCriteria.Proofs.Json.Parts
import MatchCriteria.Proofs.Json.RoundTrip
import MatchCriteria.Proofs.TextMatcher.Encoding
import MatchCriteria.Proofs.Number.Encoding
import MatchCriteria.Proofs.Outcome
import MatchCriteria.Proofs.Stages
import MatchCriteria.Proofs.Text.Lines
import MatchCriteria.Proofs.CommandLine.Reading
import MatchCriteria.Proofs.Observations
import MatchCriteria.Proofs.Environment
import MatchCriteria.Proofs.Formats
import MatchCriteria.Proofs.TextMatcher.Structured
import MatchCriteria.Proofs.Text.Boundary
import MatchCriteria.Proofs.TextMatcher.Literal
import MatchCriteria.Proofs.Json.Refusal
import MatchCriteria.Proofs.Json.Streaming
import MatchCriteria.Proofs.JsonMatchers
import MatchCriteria.Proofs.CommandLine.Spelling
import MatchCriteria.Proofs.CommandLine.Order
import MatchCriteria.Proofs.CommandLine.Interleaving
import MatchCriteria.Proofs.CommandLine.JsonFlag
import MatchCriteria.Proofs.JsonArgument
import MatchCriteria.Proofs.Number.Equivalence
import MatchCriteria.Proofs.Number.Observation
import MatchCriteria.Proofs.Number.Evaluation
import MatchCriteria.Proofs.Pattern.Plain
import MatchCriteria.Proofs.TextMatcher.Plain
import MatchCriteria.Proofs.Json.LineFeeds
import MatchCriteria.Proofs.Report.Json
import MatchCriteria.Proofs.Report.Rows
import MatchCriteria.Proofs.Report.Pieces
import MatchCriteria.Proofs.TextMatcher.Rendering
import MatchCriteria.Proofs.TextMatcher.Keyword
import MatchCriteria.Proofs.TextMatcher.Inclusion
import MatchCriteria.Proofs.Json.Members
import MatchCriteria.Proofs.Json.Decimal
import MatchCriteria.Proofs.Number.Integers
import MatchCriteria.Proofs.TextMatcher.Fields
