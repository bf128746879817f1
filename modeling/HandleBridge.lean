import HandleBridge.Bridge.Action
import HandleBridge.Bridge.Log
import HandleBridge.Bridge.Object
import HandleBridge.Bridge.Registry
import HandleBridge.Bridge.Scratch
import HandleBridge.Bridge.State
import HandleBridge.Bridge.Table
import HandleBridge.Cancellation
import HandleBridge.Config
import HandleBridge.Context
import HandleBridge.Diagnostic
import HandleBridge.Duration
import HandleBridge.Environment
import HandleBridge.Failure
import HandleBridge.Handle
import HandleBridge.Identity
import HandleBridge.Job
import HandleBridge.Json.Record
import HandleBridge.Json.Token
import HandleBridge.Json.Value
import HandleBridge.Kind
import HandleBridge.Limits
import HandleBridge.Logger
import HandleBridge.Manager
import HandleBridge.Native.Direct
import HandleBridge.Native.EntryPoints
import HandleBridge.Native.Library
import HandleBridge.Native.Symbol
import HandleBridge.NativeCall
import HandleBridge.Observation
import HandleBridge.Operation
import HandleBridge.Race
import HandleBridge.Resource
import HandleBridge.Sharing
import HandleBridge.Simulation.Faults
import HandleBridge.Simulation.Files
import HandleBridge.Simulation.Images
import HandleBridge.Simulation.Jobs
import HandleBridge.Simulation.Library
import HandleBridge.Simulation.Logger
import HandleBridge.Simulation.Memory
import HandleBridge.Simulation.Reports
import HandleBridge.Status
import HandleBridge.Teardown
import HandleBridge.Text.Blank
import HandleBridge.Text.CString
import HandleBridge.Text.Extending
import HandleBridge.Text.Hex
import HandleBridge.Text.Printable
import HandleBridge.Text.Quoted
import HandleBridge.Text.Utf8
import HandleBridge.Tracing
import HandleBridge.Proofs.Quiet
import HandleBridge.Proofs.Conversing
import HandleBridge.Proofs.Carving
import HandleBridge.Proofs.Asking
import HandleBridge.Proofs.QuietCalls
import HandleBridge.Proofs.Run
import HandleBridge.Proofs.Lifecycle
import HandleBridge.Proofs.Release
import HandleBridge.Proofs.Evolution
import HandleBridge.Proofs.TameCalls
import HandleBridge.Proofs.Registration
import HandleBridge.Proofs.NativeAnswer
import HandleBridge.Proofs.Reported
import HandleBridge.Proofs.Adoption
import HandleBridge.Proofs.Wrappers
import HandleBridge.Proofs.ExactlyOnce
import HandleBridge.Proofs.Accounting
import HandleBridge.Proofs.Closing
import HandleBridge.Proofs.Refusal
import HandleBridge.Proofs.Consumption
import HandleBridge.Proofs.Deregistration
import HandleBridge.Proofs.Completion
import HandleBridge.Proofs.SimulatedCalls
import HandleBridge.Proofs.Growth
import HandleBridge.Proofs.SimulatedJob
import HandleBridge.Proofs.SimulatedTakes
import HandleBridge.Proofs.ClosedContexts
import HandleBridge.Proofs.Driving
import HandleBridge.Proofs.Probes
import HandleBridge.Proofs.ResultProtocol
import HandleBridge.Proofs.CancelProtocol
import HandleBridge.Proofs.Steps
import HandleBridge.Proofs.Walks
import HandleBridge.Proofs.Routine
import HandleBridge.Proofs.Terminal
import HandleBridge.Proofs.Statuses
import HandleBridge.Proofs.Slots
import HandleBridge.Proofs.Apart
import HandleBridge.Proofs.Alongside
import HandleBridge.Proofs.Spelling
import HandleBridge.Proofs.Snapshots
import HandleBridge.Proofs.Told
import HandleBridge.Proofs.Telling
import HandleBridge.Proofs.Holding
import HandleBridge.Proofs.Agreement
import HandleBridge.Proofs.Timing
import HandleBridge.Proofs.Hex
import HandleBridge.Proofs.Scanning
import HandleBridge.Proofs.Parsing
import HandleBridge.Proofs.RoundTrip
import HandleBridge.Proofs.Guises
import HandleBridge.Proofs.Mirrored
import HandleBridge.Proofs.Keeping
import HandleBridge.Proofs.OneShot
import HandleBridge.Proofs.Slotted
import HandleBridge.Proofs.Polls
import HandleBridge.Proofs.ClosingJobs
import HandleBridge.Proofs.Diagnosing
import HandleBridge.Proofs.Surfacing
import HandleBridge.Proofs.FailedReleases
import HandleBridge.Proofs.Grammar
import HandleBridge.Proofs.Documents
import HandleBridge.Proofs.FailureTrees
import HandleBridge.Proofs.Precedence
import HandleBridge.Proofs.Retaining
import HandleBridge.Proofs.Surrendering
import HandleBridge.Proofs.Regions
import HandleBridge.Proofs.Buffers
import HandleBridge.Proofs.Recalling
import HandleBridge.Proofs.Complaints
import HandleBridge.Proofs.Labels
import HandleBridge.Proofs.StatusNames
import HandleBridge.Proofs.NamedFailures
