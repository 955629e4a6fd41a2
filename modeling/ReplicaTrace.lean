import ReplicaTrace.Artifacts
import ReplicaTrace.Association
import ReplicaTrace.Calendar.Date
import ReplicaTrace.Calendar.Timestamp
import ReplicaTrace.Checker.Basic
import ReplicaTrace.Checker.Status
import ReplicaTrace.CommandLine
import ReplicaTrace.Datum
import ReplicaTrace.Event.Basic
import ReplicaTrace.Event.OfLine
import ReplicaTrace.History.Digest
import ReplicaTrace.History.Replay
import ReplicaTrace.History.Snapshot
import ReplicaTrace.Host.Basic
import ReplicaTrace.Host.Disk
import ReplicaTrace.Host.Sandbox
import ReplicaTrace.Log.Contents
import ReplicaTrace.Log.Fields
import ReplicaTrace.Log.Line
import ReplicaTrace.Main
import ReplicaTrace.Path
import ReplicaTrace.Program
import ReplicaTrace.Report.Basic
import ReplicaTrace.Report.Json
import ReplicaTrace.Run.Analysis
import ReplicaTrace.Run.Basic
import ReplicaTrace.Run.Ledger
import ReplicaTrace.Run.SourceReport
import ReplicaTrace.Server.Id
import ReplicaTrace.Server.Registry
import ReplicaTrace.Settings.Basic
import ReplicaTrace.Settings.Constants
import ReplicaTrace.Settings.Load
import ReplicaTrace.Settings.OfDatum
import ReplicaTrace.Stream
import ReplicaTrace.Tally
import ReplicaTrace.Text.Blank
import ReplicaTrace.Text.Decimal
import ReplicaTrace.Text.Invisible
import ReplicaTrace.Text.Order
import ReplicaTrace.Text.Quoted
import ReplicaTrace.Text.Utf8
import ReplicaTrace.Tla.ModelConfig
import ReplicaTrace.Tla.TraceModule
import ReplicaTrace.Tla.Value
import ReplicaTrace.Toml.Document
import ReplicaTrace.Toml.Moment
import ReplicaTrace.Toml.Number
import ReplicaTrace.Toml.Quotation
import ReplicaTrace.Toml.Reader
import ReplicaTrace.Toml.Tree
import ReplicaTrace.Proofs.Calendar.Days
import ReplicaTrace.Proofs.Calendar.Moments
import ReplicaTrace.Proofs.History.ClosedForm
import ReplicaTrace.Proofs.History.Snapshots
import ReplicaTrace.Proofs.History.SourceOrder
import ReplicaTrace.Proofs.History.Violations
import ReplicaTrace.Proofs.Log.Contents
import ReplicaTrace.Proofs.Log.Fields
import ReplicaTrace.Proofs.Log.Reading
import ReplicaTrace.Proofs.Log.Records
import ReplicaTrace.Proofs.Log.Relevance
import ReplicaTrace.Proofs.Log.Written
import ReplicaTrace.Proofs.Merge
import ReplicaTrace.Proofs.Results
import ReplicaTrace.Proofs.Run.Accounts
import ReplicaTrace.Proofs.Run.Balance
import ReplicaTrace.Proofs.Run.Reference
import ReplicaTrace.Proofs.Run.Stages
import ReplicaTrace.Proofs.Run.WrittenFile
import ReplicaTrace.Proofs.Settings.Rules
import ReplicaTrace.Proofs.StableSort
import ReplicaTrace.Proofs.Stream
import ReplicaTrace.Proofs.Text.Encoding
import ReplicaTrace.Proofs.Text.Numbers
import ReplicaTrace.Proofs.Text.Pieces
import ReplicaTrace.Proofs.Tla.Columns
import ReplicaTrace.Proofs.Tla.Conjuncts
import ReplicaTrace.Proofs.Tla.Definitions
import ReplicaTrace.Proofs.Tla.Lines
import ReplicaTrace.Proofs.Tla.Reading
import ReplicaTrace.Proofs.Tla.Replay
import ReplicaTrace.Proofs.Log.RoundTrip
import ReplicaTrace.Proofs.History.Rejection
import ReplicaTrace.Proofs.History.Decreases
import ReplicaTrace.Proofs.Run.Verdict
import ReplicaTrace.Proofs.Host.Following
import ReplicaTrace.Proofs.Host.Routes
import ReplicaTrace.Proofs.Run.Launch
import ReplicaTrace.Proofs.History.Ascent
import ReplicaTrace.Proofs.Tla.Names
import ReplicaTrace.Proofs.Run.Failure
import ReplicaTrace.Proofs.Run.Gathering
import ReplicaTrace.Proofs.Server.Indices
import ReplicaTrace.Proofs.Server.NaturalOrder
import ReplicaTrace.Proofs.Server.Discovery
import ReplicaTrace.Proofs.Run.Admission
import ReplicaTrace.Proofs.Tla.UniqueReading
import ReplicaTrace.Proofs.GreedyMerge
import ReplicaTrace.Proofs.TimeOrder
import ReplicaTrace.Proofs.Log.LineEndings
import ReplicaTrace.Proofs.Log.Independence
import ReplicaTrace.Proofs.Text.Occurrence
import ReplicaTrace.Proofs.Log.Marked
import ReplicaTrace.Proofs.Tla.Zones
import ReplicaTrace.Proofs.Tla.Containment
import ReplicaTrace.Proofs.Event.Numerals
import ReplicaTrace.Proofs.Event.FirstFault
import ReplicaTrace.Proofs.Host.Programs
import ReplicaTrace.Proofs.Log.LastValues
import ReplicaTrace.Proofs.Calendar.Order
import ReplicaTrace.Proofs.Checker.Output
import ReplicaTrace.Proofs.Run.SpecFile
import ReplicaTrace.Proofs.History.Ranges
import ReplicaTrace.Proofs.Settings.Assignments
import ReplicaTrace.Proofs.Tla.Configuration
import ReplicaTrace.Proofs.Settings.Documents
import ReplicaTrace.Proofs.Settings.Layers
import ReplicaTrace.Proofs.Calendar.Signs
import ReplicaTrace.Proofs.Log.MarkerWords
