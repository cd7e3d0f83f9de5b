import DrainGuard.Backup.Agent
import DrainGuard.Backup.Outcome
import DrainGuard.CommandLine.Help
import DrainGuard.CommandLine.Launch
import DrainGuard.CommandLine.Options
import DrainGuard.CommandLine.Reading
import DrainGuard.CommandLine.Refusal
import DrainGuard.Console.LineBuffer
import DrainGuard.Console.Message
import DrainGuard.Console.Mock
import DrainGuard.Console.Tmux
import DrainGuard.Decimal.Read
import DrainGuard.Decimal.Shortest
import DrainGuard.Entries
import DrainGuard.Failure
import DrainGuard.Host.Files
import DrainGuard.Host.Locks
import DrainGuard.Host.Machine
import DrainGuard.Host.Program
import DrainGuard.Host.Station
import DrainGuard.Host.Surroundings
import DrainGuard.Json.Cursor
import DrainGuard.Json.Reader
import DrainGuard.Json.Value
import DrainGuard.Json.Writer
import DrainGuard.Lifecycle.Drain
import DrainGuard.Lifecycle.Phase
import DrainGuard.Lifecycle.Progress
import DrainGuard.Lifecycle.Report
import DrainGuard.Lifecycle.Session
import DrainGuard.Lock.Protocol
import DrainGuard.Lock.Record
import DrainGuard.Main
import DrainGuard.Mode
import DrainGuard.Notice.Basic
import DrainGuard.Notice.Calendar
import DrainGuard.Notice.Moment
import DrainGuard.Notice.Rfc3339
import DrainGuard.Proofs.Lifecycle.Act
import DrainGuard.Settings.Basic
import DrainGuard.Settings.Decode
import DrainGuard.Settings.Layer
import DrainGuard.Settings.Load
import DrainGuard.Settings.Node
import DrainGuard.Settings.Path
import DrainGuard.Settings.Render
import DrainGuard.Settings.Strict
import DrainGuard.Shell.Parser
import DrainGuard.Shell.Pattern
import DrainGuard.Shell.Run
import DrainGuard.Shell.Syntax
import DrainGuard.Shell.Tools
import DrainGuard.Station
import DrainGuard.Text.Blank
import DrainGuard.Text.Quoted
import DrainGuard.Text.Shown
import DrainGuard.Text.Similar
import DrainGuard.Text.Utf8
import DrainGuard.Toml.Moment
import DrainGuard.Toml.Number
import DrainGuard.Toml.Printer
import DrainGuard.Toml.Reader
import DrainGuard.Toml.Text
import DrainGuard.Toml.Value
import DrainGuard.Watch.Daemon
import DrainGuard.Watch.Poller
import DrainGuard.Watch.Source
import DrainGuard.Proofs.Lifecycle.Step
import DrainGuard.Proofs.Lifecycle.Course
import DrainGuard.Proofs.Lifecycle.Log
import DrainGuard.Proofs.Lifecycle.Backup
import DrainGuard.Proofs.Lifecycle.History
import DrainGuard.Proofs.Lifecycle.Commands
import DrainGuard.Proofs.Lock.Exclusion
import DrainGuard.Proofs.Console.Lines
import DrainGuard.Proofs.Lifecycle.Mirror
import DrainGuard.Proofs.Lifecycle.Messages
import DrainGuard.Proofs.Watch.Timeline
import DrainGuard.Proofs.Watch.Handoff
import DrainGuard.Proofs.Json.Reads
import DrainGuard.Proofs.Console.Urgent
import DrainGuard.Proofs.Lifecycle.Account
import DrainGuard.Proofs.Lifecycle.Scheduled
import DrainGuard.Proofs.Lifecycle.Timetable
import DrainGuard.Proofs.Lifecycle.Trigger
import DrainGuard.Proofs.Text.Utf8
import DrainGuard.Proofs.Json.Numbers
import DrainGuard.Proofs.Json.Cut
import DrainGuard.Proofs.Json.Records
import DrainGuard.Proofs.Json.Nested
import DrainGuard.Proofs.Lock.Record
import DrainGuard.Proofs.Lock.Refusal
import DrainGuard.Proofs.Lock.Holding
import DrainGuard.Proofs.Watch.Ending
import DrainGuard.Proofs.Toml.Texts
import DrainGuard.Proofs.Toml.Numbers
import DrainGuard.Proofs.Toml.Documents
import DrainGuard.Proofs.Toml.Keys
import DrainGuard.Proofs.Settings.Entries
import DrainGuard.Proofs.Settings.Decode
import DrainGuard.Proofs.Settings.Layers
import DrainGuard.Proofs.Settings.Sources
import DrainGuard.Proofs.Settings.RoundTrip
import DrainGuard.Proofs.Settings.Precedence
import DrainGuard.Proofs.Lifecycle.Forward
import DrainGuard.Proofs.Console.OneLine
import DrainGuard.Proofs.Json.Grammar
import DrainGuard.Proofs.Json.Strings
import DrainGuard.Proofs.Json.Scalars
import DrainGuard.Proofs.Json.Ignored
import DrainGuard.Proofs.Json.Fields
import DrainGuard.Proofs.Notice.Document
import DrainGuard.Proofs.Lock.Release
import DrainGuard.Proofs.CommandLine.Exits
import DrainGuard.Proofs.Watch.Cadence
import DrainGuard.Proofs.Lifecycle.Exit
import DrainGuard.Proofs.Notice.Calendar
import DrainGuard.Proofs.Notice.Instants
import DrainGuard.Proofs.Notice.RoundTrip
import DrainGuard.Proofs.Settings.Overrides
import DrainGuard.Proofs.Settings.Agreement
import DrainGuard.Proofs.Notice.Countdown
import DrainGuard.Proofs.Calls
import DrainGuard.Proofs.Watch.Exchanges
import DrainGuard.Proofs.Text.Words
import DrainGuard.Proofs.Text.Lines
import DrainGuard.Proofs.Console.Process
import DrainGuard.Proofs.Backup.Outcome
import DrainGuard.Proofs.Lock.Retries
import DrainGuard.Proofs.Console.Mock
