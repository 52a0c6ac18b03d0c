import EscapeAudit.Audit
import EscapeAudit.Batch.Basic
import EscapeAudit.Batch.Results
import EscapeAudit.Batch.Run
import EscapeAudit.Check.Basic
import EscapeAudit.Check.Load
import EscapeAudit.Command.Arguments
import EscapeAudit.Command.Instant
import EscapeAudit.Command.Run
import EscapeAudit.Command.Trace
import EscapeAudit.Decimal.Binary
import EscapeAudit.Decimal.Fixed
import EscapeAudit.Decimal.Shortest
import EscapeAudit.Diagnostic
import EscapeAudit.Edit.Basic
import EscapeAudit.Edit.Draft
import EscapeAudit.Event.Basic
import EscapeAudit.Event.Code
import EscapeAudit.Event.Collector
import EscapeAudit.Event.Journal
import EscapeAudit.Event.Told
import EscapeAudit.FileTree
import EscapeAudit.Json
import EscapeAudit.Legacy
import EscapeAudit.Lexer.Character
import EscapeAudit.Lexer.Fault
import EscapeAudit.Lexer.Heredoc
import EscapeAudit.Lexer.Literal
import EscapeAudit.Lexer.Metrics
import EscapeAudit.Lexer.Operator
import EscapeAudit.Lexer.Scan
import EscapeAudit.Lexer.Tag
import EscapeAudit.Lexer.Tokenize
import EscapeAudit.Limits
import EscapeAudit.Main
import EscapeAudit.Output.Gate
import EscapeAudit.Output.Markup
import EscapeAudit.Output.Remedy
import EscapeAudit.Output.Scope
import EscapeAudit.Output.Split
import EscapeAudit.Output.Statement
import EscapeAudit.Output.Verdict
import EscapeAudit.Path
import EscapeAudit.Pattern.Basic
import EscapeAudit.Pattern.Bracket
import EscapeAudit.Pattern.Bytes
import EscapeAudit.Pattern.Escape
import EscapeAudit.Pattern.Fault
import EscapeAudit.Pattern.Group
import EscapeAudit.Pattern.Leading
import EscapeAudit.Pattern.Machine
import EscapeAudit.Pattern.Meaning
import EscapeAudit.Pattern.Normal
import EscapeAudit.Pattern.OfText
import EscapeAudit.Pattern.Place
import EscapeAudit.Pattern.Property
import EscapeAudit.Pattern.Reader
import EscapeAudit.Pattern.Test
import EscapeAudit.Pattern.Tree
import EscapeAudit.Pattern.Written
import EscapeAudit.Position
import EscapeAudit.Queue
import EscapeAudit.Report
import EscapeAudit.RuleSet
import EscapeAudit.Settings.Basic
import EscapeAudit.Settings.Decode
import EscapeAudit.SourceMap
import EscapeAudit.Text.AgeTable
import EscapeAudit.Text.Basic
import EscapeAudit.Text.Blank
import EscapeAudit.Text.CaseTable
import EscapeAudit.Text.Category
import EscapeAudit.Text.CategoryTable
import EscapeAudit.Text.CharSet
import EscapeAudit.Text.Fold
import EscapeAudit.Text.Lowercase
import EscapeAudit.Text.Printable
import EscapeAudit.Text.Property
import EscapeAudit.Text.PropertyTable
import EscapeAudit.Text.Quoted
import EscapeAudit.Text.Ranges
import EscapeAudit.Text.ScriptTable
import EscapeAudit.Text.Segment
import EscapeAudit.Token.Kind
import EscapeAudit.Token.Search
import EscapeAudit.Token.Stream
import EscapeAudit.Token.Word
import EscapeAudit.Toml.Blank
import EscapeAudit.Toml.Datum
import EscapeAudit.Toml.Document
import EscapeAudit.Toml.Number
import EscapeAudit.Toml.Quoted
import EscapeAudit.Toml.Reader
import EscapeAudit.Toml.Section
import EscapeAudit.Proofs.Accounting
import EscapeAudit.Proofs.Anchors
import EscapeAudit.Proofs.BlockCalls
import EscapeAudit.Proofs.CleanExit
import EscapeAudit.Proofs.CodeRegion
import EscapeAudit.Proofs.Collecting
import EscapeAudit.Proofs.Commitment
import EscapeAudit.Proofs.Convergence
import EscapeAudit.Proofs.Distribution
import EscapeAudit.Proofs.Draining
import EscapeAudit.Proofs.Faults
import EscapeAudit.Proofs.Grammar
import EscapeAudit.Proofs.Heredocs
import EscapeAudit.Proofs.Independence
import EscapeAudit.Proofs.Joining
import EscapeAudit.Proofs.KindContext
import EscapeAudit.Proofs.Languages
import EscapeAudit.Proofs.Layout
import EscapeAudit.Proofs.Marks
import EscapeAudit.Proofs.MarkupContext
import EscapeAudit.Proofs.Migration
import EscapeAudit.Proofs.Nesting
import EscapeAudit.Proofs.Pairing
import EscapeAudit.Proofs.Relaxation
import EscapeAudit.Proofs.Rendering
import EscapeAudit.Proofs.Reporting
import EscapeAudit.Proofs.Scope
import EscapeAudit.Proofs.SecondRun
import EscapeAudit.Proofs.Snippets
import EscapeAudit.Proofs.SplitTree
import EscapeAudit.Proofs.Truncation
