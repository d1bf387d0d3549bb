import NetSwitch.CommandLine.Help
import NetSwitch.CommandLine.Parameter
import NetSwitch.CommandLine.Parse
import NetSwitch.CommandLine.Run
import NetSwitch.CommandLine.UsageError
import NetSwitch.Device
import NetSwitch.Double
import NetSwitch.Errno
import NetSwitch.Error
import NetSwitch.Handle
import NetSwitch.Json.Number
import NetSwitch.Json.Reader
import NetSwitch.Json.Scan
import NetSwitch.Json.Shape
import NetSwitch.Json.Skip
import NetSwitch.Json.Text
import NetSwitch.Json.Wire
import NetSwitch.Json.Writer
import NetSwitch.Kernel
import NetSwitch.Kernel.Call
import NetSwitch.Kernel.Syscall
import NetSwitch.Kernel.World
import NetSwitch.Log
import NetSwitch.Log.Filter
import NetSwitch.Log.Record
import NetSwitch.Machine
import NetSwitch.Main
import NetSwitch.Namespace
import NetSwitch.Plugin.Command
import NetSwitch.Plugin.Configuration
import NetSwitch.Plugin.Error
import NetSwitch.Plugin.Invocation
import NetSwitch.Plugin.Protocol
import NetSwitch.Plugin.Report
import NetSwitch.Plugin.Request
import NetSwitch.Proofs.Blind
import NetSwitch.Proofs.Calls
import NetSwitch.Proofs.Calm
import NetSwitch.Proofs.CommandLine.Carried
import NetSwitch.Proofs.CommandLine.Environment
import NetSwitch.Proofs.CommandLine.Ignored
import NetSwitch.Proofs.CommandLine.Output
import NetSwitch.Proofs.CommandLine.Version
import NetSwitch.Proofs.Device
import NetSwitch.Proofs.Device.Asked
import NetSwitch.Proofs.Device.Field
import NetSwitch.Proofs.Device.Naming
import NetSwitch.Proofs.Device.Settled
import NetSwitch.Proofs.Handle
import NetSwitch.Proofs.Handle.Classification
import NetSwitch.Proofs.Handle.Missing
import NetSwitch.Proofs.Identity
import NetSwitch.Proofs.Json.Accepted
import NetSwitch.Proofs.Json.Cut
import NetSwitch.Proofs.Json.Exact
import NetSwitch.Proofs.Json.Flawed
import NetSwitch.Proofs.Json.Found
import NetSwitch.Proofs.Json.Grammar
import NetSwitch.Proofs.Json.Reader
import NetSwitch.Proofs.Json.Skip
import NetSwitch.Proofs.Json.Skipped
import NetSwitch.Proofs.Json.Text
import NetSwitch.Proofs.Json.Writer
import NetSwitch.Proofs.Kernel.Extends
import NetSwitch.Proofs.Kernel.Flags
import NetSwitch.Proofs.Kernel.Ledger
import NetSwitch.Proofs.Mirror.Kernel
import NetSwitch.Proofs.Mirror.Plugin
import NetSwitch.Proofs.Mirror.Scenario
import NetSwitch.Proofs.Mirror.Session
import NetSwitch.Proofs.Mirror.Switch
import NetSwitch.Proofs.Ownership
import NetSwitch.Proofs.Plugin.Configuration
import NetSwitch.Proofs.Plugin.Confinement
import NetSwitch.Proofs.Plugin.Excursion
import NetSwitch.Proofs.Plugin.Orderly
import NetSwitch.Proofs.Plugin.Ownership
import NetSwitch.Proofs.Plugin.Refusal
import NetSwitch.Proofs.Plugin.RoundTrip
import NetSwitch.Proofs.Plugin.Run
import NetSwitch.Proofs.Plugin.Sequence
import NetSwitch.Proofs.Plugin.Spelling
import NetSwitch.Proofs.Plugin.Stranding
import NetSwitch.Proofs.Plugin.Telling
import NetSwitch.Proofs.Plugin.Tolerance
import NetSwitch.Proofs.Plugin.Truncation
import NetSwitch.Proofs.Plugin.Truth
import NetSwitch.Proofs.Plugin.Unknown
import NetSwitch.Proofs.Scenario.Descriptors
import NetSwitch.Proofs.Scenario.Development
import NetSwitch.Proofs.Scenario.History
import NetSwitch.Proofs.Scenario.Ending
import NetSwitch.Proofs.Scenario.Homecoming
import NetSwitch.Proofs.Scenario.Homed
import NetSwitch.Proofs.Scenario.Isolation
import NetSwitch.Proofs.Scenario.Origin
import NetSwitch.Proofs.Scenario.Ownership
import NetSwitch.Proofs.Scenario.Refusal
import NetSwitch.Proofs.Scenario.Registry
import NetSwitch.Proofs.Scenario.Return
import NetSwitch.Proofs.Scenario.Run
import NetSwitch.Proofs.Scenario.Scene
import NetSwitch.Proofs.Scenario.Slots
import NetSwitch.Proofs.Scenario.Stage
import NetSwitch.Proofs.Scenario.Steady
import NetSwitch.Proofs.Scenario.Succession
import NetSwitch.Proofs.Scenario.Taint
import NetSwitch.Proofs.Scenario.Telling
import NetSwitch.Proofs.Scenario.Worker
import NetSwitch.Proofs.Switch.Arrival
import NetSwitch.Proofs.Switch.Closing
import NetSwitch.Proofs.Switch.Course
import NetSwitch.Proofs.Switch.Exit
import NetSwitch.Proofs.Switch.Guard
import NetSwitch.Proofs.Switch.Mark
import NetSwitch.Proofs.Switch.Obstacle
import NetSwitch.Proofs.Switch.Ownership
import NetSwitch.Proofs.Switch.Passage
import NetSwitch.Proofs.Switch.Refusal
import NetSwitch.Proofs.Switch.Run
import NetSwitch.Proofs.Switch.Visit
import NetSwitch.Proofs.Switch.Way
import NetSwitch.Proofs.Syscall
import NetSwitch.Proofs.Text.Utf8
import NetSwitch.Scenario.Answer
import NetSwitch.Scenario.Program
import NetSwitch.Scenario.Registry
import NetSwitch.Scenario.Run
import NetSwitch.Switch
import NetSwitch.Switch.Outcome
import NetSwitch.Switch.Passage
import NetSwitch.Text.Bytes
import NetSwitch.Text.Plain
import NetSwitch.Text.Quoted
import NetSwitch.Text.Similarity
import NetSwitch.Text.Visible
