import SctpConformance.Library.Runs
import SctpConformance.Library.Slots
import SctpConformance.Library.Interleaving
import SctpConformance.Library.TwoRuns
import SctpConformance.Library.Custody
import SctpConformance.Library.Locks
import SctpConformance.Library.Utf8
import SctpConformance.Library.Json
import SctpConformance.Library.EventStream
import SctpConformance.Library.Raising
import SctpConformance.Library.Checklist
import SctpConformance.Library.Filling
import SctpConformance.Library.Solo
import SctpConformance.Library.HttpMessage
import SctpConformance.Library.CommandLine
import SctpConformance.Library.ShellWords
import SctpConformance.Library.Logging
import SctpConformance.Server.Data
import SctpConformance.Server.JsonEncode
import SctpConformance.Server.JsonDecode
import SctpConformance.Server.Sockets
import SctpConformance.Server.Workers
import SctpConformance.Server.Executions
import SctpConformance.Server.Views
import SctpConformance.Server.Concurrent
import SctpConformance.Server.Sequential
import SctpConformance.Server.Routing
import SctpConformance.Json.Grammar
import SctpConformance.Json.Strings
import SctpConformance.Json.Reading
import SctpConformance.Json.Standard
import SctpConformance.Json.Emitted
import SctpConformance.Json.Contract
import SctpConformance.Json.Views
import SctpConformance.Json.Valid
import SctpConformance.Json.Kept
import SctpConformance.Json.Quoted
import SctpConformance.Concurrency.Effects
import SctpConformance.Concurrency.Threads
import SctpConformance.Concurrency.Activation
import SctpConformance.Concurrency.Verdicts
import SctpConformance.Concurrency.Earned
import SctpConformance.Concurrency.Custody
import SctpConformance.Concurrency.Leaks
import SctpConformance.Concurrency.Reuse
import SctpConformance.Concurrency.LockOrder
import SctpConformance.Concurrency.StoredTexts
import SctpConformance.Concurrency.Summaries
import SctpConformance.Concurrency.SummaryStream
import SctpConformance.Sequential.Effects
import SctpConformance.Sequential.Invariant
import SctpConformance.Sequential.Handlers
import SctpConformance.Sequential.Runs
import SctpConformance.Sequential.Expiry
import SctpConformance.Sequential.Observers
import SctpConformance.Sequential.Course
import SctpConformance.Sequential.PartialReliability
import SctpConformance.Sequential.Refusals
import SctpConformance.Sequential.AssociationIds
import SctpConformance.Sequential.Views
import SctpConformance.Concurrency.Serial
import SctpConformance.Concurrency.Simulation
import SctpConformance.Concurrency.Answers
import SctpConformance.Concurrency.Progress
import SctpConformance.Workers.Receive
import SctpConformance.Workers.MultiTarget
import SctpConformance.Workers.Fragments
import SctpConformance.Workers.PartiallyReliable
import SctpConformance.Workers.Trigger
import SctpConformance.Workers.Payloads
import SctpConformance.Http.Request
import SctpConformance.Http.SummaryEvents
import SctpConformance.Http.Cuts
import SctpConformance.Http.Segmentation
import SctpConformance.Http.RoundTrip
import SctpConformance.Http.Server
import SctpConformance.Http.Readable
import SctpConformance.Http.Limits
import SctpConformance.Http.Queries
import SctpConformance.Http.IndexPage
import SctpConformance.Http.IndexCards
import SctpConformance.Http.Response
import SctpConformance.Runner.Process
import SctpConformance.Runner.World
import SctpConformance.Runner.Evaluation
import SctpConformance.Runner.Scenario
import SctpConformance.Runner.JsonLoads
import SctpConformance.Runner.Lines
import SctpConformance.Runner.HelperOutput
import SctpConformance.Runner.Execution
import SctpConformance.Runner.ExitCodes
import SctpConformance.Runner.Reports
import SctpConformance.Runner.Suite
import SctpConformance.Runner.ZeroExit
import SctpConformance.Runner.Remote
import SctpConformance.Runner.JsonWritten
import SctpConformance.Helpers.ClientMessages
import SctpConformance.Helpers.GoMessages
import SctpConformance.Helpers.Addresses
import SctpConformance.Helpers.Options
import SctpConformance.Helpers.GoOptions
import SctpConformance.Helpers.Events
import SctpConformance.Helpers.Programs
import SctpConformance.Helpers.Reports
import SctpConformance.Helpers.ScenarioRuns
import SctpConformance.Helpers.Descriptors
import SctpConformance.Helpers.Transfers
