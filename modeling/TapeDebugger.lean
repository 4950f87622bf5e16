import TapeDebugger.Backend.Basic
import TapeDebugger.Backend.Local
import TapeDebugger.Backend.Registry
import TapeDebugger.Binary64
import TapeDebugger.CommandLine
import TapeDebugger.Context
import TapeDebugger.Decimal.Integer
import TapeDebugger.Decimal.Literal
import TapeDebugger.Decimal.Notation
import TapeDebugger.Decimal.Shortest
import TapeDebugger.Executor.Basic
import TapeDebugger.Executor.Chain
import TapeDebugger.Executor.Documentation
import TapeDebugger.Executor.Index
import TapeDebugger.FileTree
import TapeDebugger.Instruction
import TapeDebugger.Json.Parse
import TapeDebugger.Json.Render
import TapeDebugger.Json.Value
import TapeDebugger.Launch
import TapeDebugger.Logging.JournalKey
import TapeDebugger.Logging.Level
import TapeDebugger.Logging.Record
import TapeDebugger.Machine.Basic
import TapeDebugger.Machine.Execution
import TapeDebugger.Machine.Snapshot
import TapeDebugger.Main
import TapeDebugger.NameMap
import TapeDebugger.Program
import TapeDebugger.Proofs.Machine.Calls
import TapeDebugger.Proofs.Machine.Execution
import TapeDebugger.Proofs.Machine.Structured
import TapeDebugger.Proofs.Program.Nesting
import TapeDebugger.Server.Basic
import TapeDebugger.Server.Protocol
import TapeDebugger.Session.Basic
import TapeDebugger.Session.Config
import TapeDebugger.Session.Fault
import TapeDebugger.Session.Record
import TapeDebugger.Session.Report
import TapeDebugger.Settings.Assignment
import TapeDebugger.Settings.Schema
import TapeDebugger.Settings.Token
import TapeDebugger.Status
import TapeDebugger.Tape
import TapeDebugger.Text.Blank
import TapeDebugger.Text.BreakClass
import TapeDebugger.Text.Case
import TapeDebugger.Text.Cased
import TapeDebugger.Text.CharRange
import TapeDebugger.Text.Hex
import TapeDebugger.Text.Letter
import TapeDebugger.Text.Printable
import TapeDebugger.Text.Quoted
import TapeDebugger.Text.Title
import TapeDebugger.Text.TitleForm
import TapeDebugger.Text.Utf8
import TapeDebugger.Text.WordPart
import TapeDebugger.Text.Words
import TapeDebugger.Tool.Argument
import TapeDebugger.Tool.Catalog
import TapeDebugger.Tool.Datum
import TapeDebugger.Tool.Definition
import TapeDebugger.Tool.Fault
import TapeDebugger.Tool.Identifier
import TapeDebugger.Tool.Tag
import TapeDebugger.Tool.Value
import TapeDebugger.Proofs.Machine.Suspension
import TapeDebugger.Proofs.Machine.CellBounds
import TapeDebugger.Proofs.Session.Reachable
import TapeDebugger.Proofs.Session.ChunkedRun
import TapeDebugger.Proofs.Machine.Integrity
import TapeDebugger.Proofs.Machine.CheckedAccess
import TapeDebugger.Proofs.Machine.StatusMeaning
import TapeDebugger.Proofs.Machine.Stepping
import TapeDebugger.Proofs.Session.Cancellation
import TapeDebugger.Proofs.Session.Answers
import TapeDebugger.Proofs.Session.Transcript
import TapeDebugger.Proofs.Session.Observation
import TapeDebugger.Proofs.Session.FreshStart
import TapeDebugger.Proofs.Executor.Routing
import TapeDebugger.Proofs.Executor.Reachable
import TapeDebugger.Proofs.Session.Failure
import TapeDebugger.Proofs.Executor.FailedCalls
import TapeDebugger.Proofs.Executor.Chains
import TapeDebugger.Proofs.Session.Deeds
import TapeDebugger.Proofs.Session.Journal
import TapeDebugger.Proofs.Session.LoadedFlag
import TapeDebugger.Proofs.NameMap
import TapeDebugger.Proofs.Backend.Operations
import TapeDebugger.Proofs.Backend.Lifecycle
import TapeDebugger.Proofs.Binary64
import TapeDebugger.Proofs.Decimal.Numeral
import TapeDebugger.Proofs.Decimal.AsDouble
import TapeDebugger.Proofs.Decimal.AsInteger
import TapeDebugger.Proofs.Executor.NumberSpelling
import TapeDebugger.Proofs.Program.Unmatched
import TapeDebugger.Proofs.Executor.Identifiers
import TapeDebugger.Proofs.Settings.Acceptance
import TapeDebugger.Proofs.Json.Literals
import TapeDebugger.Proofs.Json.RoundTrip
import TapeDebugger.Proofs.Executor.StateText
import TapeDebugger.Proofs.Program.Partners
import TapeDebugger.Proofs.Machine.Budget
import TapeDebugger.Proofs.Machine.Window
import TapeDebugger.Proofs.Machine.Output
import TapeDebugger.Proofs.Machine.Echo
import TapeDebugger.Proofs.Tool.IntegerArgument
import TapeDebugger.Proofs.Session.Loading
import TapeDebugger.Proofs.Session.Summary
import TapeDebugger.Proofs.Text.ByteOrder
import TapeDebugger.Proofs.Backend.StartOrder
import TapeDebugger.Proofs.Backend.Listing
import TapeDebugger.Proofs.Program.Comments
