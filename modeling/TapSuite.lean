import TapSuite.Case
import TapSuite.Cli.Arguments
import TapSuite.Cli.Grammar
import TapSuite.Cli.Help
import TapSuite.Cli.Language
import TapSuite.Cli.Reader
import TapSuite.Cli.Rich
import TapSuite.Cli.Run
import TapSuite.Cli.Stop
import TapSuite.Command.Expand
import TapSuite.Command.Line
import TapSuite.Command.Quote
import TapSuite.Command.Words
import TapSuite.Config.Basic
import TapSuite.Config.Decode
import TapSuite.Config.Load
import TapSuite.Config.Printer
import TapSuite.Console.Controls
import TapSuite.Console.Lines
import TapSuite.Console.Plain
import TapSuite.Console.Style
import TapSuite.Decimal.Binary
import TapSuite.Decimal.Shortest
import TapSuite.Engine.Basic
import TapSuite.Engine.Command
import TapSuite.Engine.Schedule
import TapSuite.Engine.Suite
import TapSuite.Fault
import TapSuite.Html.Entity
import TapSuite.Html.Escape
import TapSuite.Html.Markup
import TapSuite.Html.Sheet
import TapSuite.Html.Token
import TapSuite.Json.Parser
import TapSuite.Json.Printer
import TapSuite.Json.Value
import TapSuite.Locale.Basic
import TapSuite.Locale.Catalog
import TapSuite.Locale.Message
import TapSuite.Locale.System
import TapSuite.Main
import TapSuite.Path.Basic
import TapSuite.Process.Capture
import TapSuite.Process.Launch
import TapSuite.Proofs.Cli.Language
import TapSuite.Proofs.Command.Quote
import TapSuite.Proofs.Config.Entries
import TapSuite.Proofs.Config.ExitCode
import TapSuite.Proofs.Config.Layers
import TapSuite.Proofs.Config.RoundTrip
import TapSuite.Proofs.Console.Plain
import TapSuite.Proofs.Engine.Failures
import TapSuite.Proofs.Engine.Figures
import TapSuite.Proofs.Engine.Noise
import TapSuite.Proofs.Engine.Order
import TapSuite.Proofs.Engine.Outcome
import TapSuite.Proofs.Engine.Schedule
import TapSuite.Proofs.Html.Cut
import TapSuite.Proofs.Html.Escape
import TapSuite.Proofs.Html.Markup
import TapSuite.Proofs.Json.RoundTrip
import TapSuite.Proofs.Json.Text
import TapSuite.Proofs.Locale.Message
import TapSuite.Proofs.Path.Join
import TapSuite.Proofs.Path.Spelling
import TapSuite.Proofs.Process.Capture
import TapSuite.Proofs.Process.Transcript
import TapSuite.Proofs.Report.Console
import TapSuite.Proofs.Report.Html
import TapSuite.Proofs.Report.Json
import TapSuite.Proofs.Report.Plain
import TapSuite.Proofs.Results
import TapSuite.Proofs.Run.Contents
import TapSuite.Proofs.Run.Course
import TapSuite.Proofs.Run.Language
import TapSuite.Proofs.Run.Lines
import TapSuite.Proofs.Run.Reporting
import TapSuite.Proofs.Run.Settings
import TapSuite.Proofs.Run.Setup
import TapSuite.Proofs.Run.Steps
import TapSuite.Proofs.Run.Verdict
import TapSuite.Proofs.Suite.Counts
import TapSuite.Proofs.Suite.Discovery
import TapSuite.Proofs.Suite.Registry
import TapSuite.Proofs.Tap.Comment
import TapSuite.Proofs.Tap.Concatenation
import TapSuite.Proofs.Tap.Directive
import TapSuite.Proofs.Tap.Escape
import TapSuite.Proofs.Tap.Forest
import TapSuite.Proofs.Tap.HiddenBlock
import TapSuite.Proofs.Tap.Layout
import TapSuite.Proofs.Tap.Line
import TapSuite.Proofs.Tap.Noise
import TapSuite.Proofs.Tap.Offset
import TapSuite.Proofs.Tap.OpenBlock
import TapSuite.Proofs.Tap.PointText
import TapSuite.Proofs.Tap.Printed
import TapSuite.Proofs.Tap.RoundTrip
import TapSuite.Proofs.Tap.Step
import TapSuite.Proofs.Text.Decode
import TapSuite.Proofs.Text.Digits
import TapSuite.Proofs.Text.Lacks
import TapSuite.Proofs.Text.Layout
import TapSuite.Proofs.Text.LineEnd
import TapSuite.Proofs.Text.Offset
import TapSuite.Proofs.Text.Segments
import TapSuite.Proofs.Text.Trim
import TapSuite.Proofs.Text.Utf8
import TapSuite.Proofs.Toml.Document
import TapSuite.Proofs.Toml.Keys
import TapSuite.Proofs.Toml.Number
import TapSuite.Proofs.Toml.Quotes
import TapSuite.Proofs.Workspace.Contents
import TapSuite.Proofs.Workspace.Follow
import TapSuite.Proofs.Workspace.Join
import TapSuite.Report.Artifact
import TapSuite.Report.Assets
import TapSuite.Report.Console
import TapSuite.Report.Html
import TapSuite.Report.Json
import TapSuite.Report.JsonReader
import TapSuite.Report.Reporter
import TapSuite.Report.Status
import TapSuite.Run.Command
import TapSuite.Run.Init
import TapSuite.Run.Pipeline
import TapSuite.Run.Stages
import TapSuite.Sandbox.Arithmetic
import TapSuite.Sandbox.Condition
import TapSuite.Sandbox.Execution
import TapSuite.Sandbox.Format
import TapSuite.Sandbox.Launcher
import TapSuite.Sandbox.Output
import TapSuite.Sandbox.Program
import TapSuite.Sandbox.Refusal
import TapSuite.Sandbox.Script
import TapSuite.Sandbox.ScriptParser
import TapSuite.Sandbox.ScriptToken
import TapSuite.Sandbox.Shell
import TapSuite.SetupError
import TapSuite.Suite.Discovery
import TapSuite.Suite.ExitStatus
import TapSuite.Suite.File
import TapSuite.Suite.Registry
import TapSuite.Suite.Result
import TapSuite.Suite.Summary
import TapSuite.Tap.Basic
import TapSuite.Tap.Block
import TapSuite.Tap.Offset
import TapSuite.Tap.Parser
import TapSuite.Tap.Point
import TapSuite.Tap.Printer
import TapSuite.Tap.Subtest
import TapSuite.Text.Alphanumeric
import TapSuite.Text.Blank
import TapSuite.Text.Lines
import TapSuite.Text.Merge
import TapSuite.Text.Offset
import TapSuite.Text.Pad
import TapSuite.Text.Quoted
import TapSuite.Text.Similarity
import TapSuite.Text.Utf8
import TapSuite.Time.Date
import TapSuite.Time.Span
import TapSuite.Time.Timestamp
import TapSuite.Toml.Line
import TapSuite.Toml.Moment
import TapSuite.Toml.Number
import TapSuite.Toml.Parser
import TapSuite.Toml.Printer
import TapSuite.Toml.Scope
import TapSuite.Toml.Text
import TapSuite.Toml.Token
import TapSuite.Toml.Value
import TapSuite.Workspace.Basic
import TapSuite.Workspace.Files
import TapSuite.Workspace.Resolve
