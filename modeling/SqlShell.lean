import SqlShell.Text.Alphanumeric
import SqlShell.Text.Blank
import SqlShell.Text.CodeSet
import SqlShell.Text.LetterCase
import SqlShell.Text.Lines
import SqlShell.Text.Printable
import SqlShell.Text.Quoted
import SqlShell.Text.Utf8
import SqlShell.Number.Binary64.Basic
import SqlShell.Number.Binary64.Printer
import SqlShell.Number.Binary64.Reader
import SqlShell.Number.Decimal
import SqlShell.Number.Digits
import SqlShell.Value.Basic
import SqlShell.Value.Calendar
import SqlShell.Value.Cell
import SqlShell.Value.Entries
import SqlShell.Value.Json
import SqlShell.Value.Literal
import SqlShell.Failure
import SqlShell.Given
import SqlShell.Result
import SqlShell.Statement.Buffer
import SqlShell.Statement.ScanMode
import SqlShell.Output.ClosingLine
import SqlShell.Output.DelimitedLines
import SqlShell.Output.Format
import SqlShell.Output.JsonLines
import SqlShell.Output.Production
import SqlShell.Output.Settings
import SqlShell.Output.TableDrawing
import SqlShell.Output.Writer
import SqlShell.Execution.Attendance
import SqlShell.Execution.Cancellation
import SqlShell.Execution.Engine
import SqlShell.Execution.Execution
import SqlShell.Execution.Outcome
import SqlShell.Execution.Running
import SqlShell.Database.Connection
import SqlShell.Database.Fault
import SqlShell.Database.Query
import SqlShell.Database.Session
import SqlShell.Files.FileTree
import SqlShell.Files.Path
import SqlShell.Session.Basic
import SqlShell.Session.Command
import SqlShell.Session.Console
import SqlShell.Session.Events
import SqlShell.Session.Notice
import SqlShell.Session.Presentation
import SqlShell.Session.Run
import SqlShell.Session.Shell
import SqlShell.Launch.CommandLine
import SqlShell.Launch.Help
import SqlShell.Launch.Option
import SqlShell.Launch.Script
import SqlShell.Launch.Start
import SqlShell.Main
import SqlShell.Proofs.Execution.Run
import SqlShell.Proofs.Execution.Pipeline
import SqlShell.Proofs.Execution.Delivery
import SqlShell.Proofs.Execution.Attending
import SqlShell.Proofs.Execution.Cancelling
import SqlShell.Proofs.Execution.Timing
import SqlShell.Proofs.Execution.Progress
import SqlShell.Proofs.Execution.Termination
import SqlShell.Proofs.Output.Production
import SqlShell.Proofs.Output.Sheet
import SqlShell.Proofs.Output.Merging
import SqlShell.Proofs.Output.Fitting
import SqlShell.Proofs.Session.Action
import SqlShell.Proofs.Session.Following
import SqlShell.Proofs.Session.Presenting
import SqlShell.Proofs.Session.Ledger
import SqlShell.Proofs.Session.Awaiting
import SqlShell.Proofs.Text.Trimming
import SqlShell.Proofs.Text.LineBreaks
import SqlShell.Proofs.Text.LowerCase
import SqlShell.Proofs.Statement.Reading
import SqlShell.Proofs.Statement.Assembly
import SqlShell.Proofs.Statement.Stability
import SqlShell.Proofs.Statement.Tokens
import SqlShell.Proofs.Session.Input
import SqlShell.Proofs.Session.Submission
import SqlShell.Proofs.Execution.Completion
import SqlShell.Proofs.Execution.Undisturbed
import SqlShell.Proofs.Session.Trace
import SqlShell.Proofs.Session.Course
import SqlShell.Proofs.Session.Enduring
import SqlShell.Proofs.Session.Winding
import SqlShell.Proofs.Session.Requests
import SqlShell.Proofs.Session.Unfolding
import SqlShell.Proofs.Session.Looping
import SqlShell.Proofs.Session.Closing
import SqlShell.Proofs.Session.Refusing
import SqlShell.Proofs.Session.ExitCode
import SqlShell.Proofs.Session.Interruption
import SqlShell.Proofs.Session.Showing
import SqlShell.Proofs.Session.Breakdown
import SqlShell.Proofs.Session.Commanding
import SqlShell.Proofs.Session.Isolation
import SqlShell.Proofs.Session.Rendering
import SqlShell.Proofs.Launch.Framing
import SqlShell.Proofs.Launch.Opening
import SqlShell.Proofs.Launch.Sources
import SqlShell.Proofs.Launch.Ways
import SqlShell.Proofs.Output.ClosedForm
import SqlShell.Proofs.Output.Rectangle
import SqlShell.Proofs.Output.Unbroken
import SqlShell.Proofs.Session.Playback
import SqlShell.Proofs.Session.Buffering
import SqlShell.Proofs.Statement.Commands
import SqlShell.Proofs.Statement.IdleText
import SqlShell.Proofs.Statement.Coherence
import SqlShell.Proofs.Statement.Schedules
import SqlShell.Proofs.Session.Decoration
import SqlShell.Proofs.Session.Recognition
import SqlShell.Proofs.Session.Planning
import SqlShell.Proofs.Session.WithoutRows
import SqlShell.Proofs.Output.Records
import SqlShell.Proofs.Output.FieldsReadBack
import SqlShell.Proofs.Output.ColumnNames
import SqlShell.Proofs.Value.JsonReading
import SqlShell.Proofs.Value.JsonRoundTrip
import SqlShell.Proofs.Value.JsonGrammar
import SqlShell.Proofs.Value.JsonPrinting
import SqlShell.Proofs.Output.JsonReadBack
import SqlShell.Proofs.Output.JsonDocuments
import SqlShell.Proofs.Session.Saving
import SqlShell.Proofs.Session.Replaying
import SqlShell.Proofs.Database.Fetching
import SqlShell.Proofs.Database.Sessions
