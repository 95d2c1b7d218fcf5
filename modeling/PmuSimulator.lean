import PmuSimulator.Foundation.Machine
import PmuSimulator.Foundation.OrderedMap
import PmuSimulator.Foundation.TwoStep
import PmuSimulator.Foundation.Framer
import PmuSimulator.Platform
import PmuSimulator.Config
import PmuSimulator.Scenario.Catalog
import PmuSimulator.Scenario.Controller
import PmuSimulator.Scenario.Transition
import PmuSimulator.Scenario.Invariant
import PmuSimulator.Scenario.Provenance
import PmuSimulator.Scenario.Window
import PmuSimulator.Wire.Frame
import PmuSimulator.Wire.V2
import PmuSimulator.Wire.V3
import PmuSimulator.Wire.Checksum
import PmuSimulator.Wire.Commands
import PmuSimulator.Server.ReceiveBuffer
import PmuSimulator.Server.Reassembly
import PmuSimulator.Foundation.Attempt
import PmuSimulator.Management.Connection
import PmuSimulator.Management.Console
import PmuSimulator.Server.EventLoop
import PmuSimulator.Server.Moves
import PmuSimulator.Foundation.Components
import PmuSimulator.Foundation.Ledger
import PmuSimulator.Scenario.Revision
import PmuSimulator.Server.Core
import PmuSimulator.Server.Atomicity
import PmuSimulator.Server.Delivery
import PmuSimulator.Server.Backlog
import PmuSimulator.Server.Draining
import PmuSimulator.Server.Emission
import PmuSimulator.Server.TimeQuality
import PmuSimulator.Server.Timing
import PmuSimulator.Server.Routing
import PmuSimulator.Server.Wakeups
import PmuSimulator.Server.Segmentation
import PmuSimulator.Server.HalfClose
import PmuSimulator.Server.Requests
import PmuSimulator.Server.Alignment
import PmuSimulator.Scenario.Headroom
import PmuSimulator.Foundation.Success
import PmuSimulator.Server.Isolation
import PmuSimulator.Server.Failures
import PmuSimulator.Foundation.Observer
import PmuSimulator.Server.Noninterference
import PmuSimulator.Config.Magnitude
import PmuSimulator.Console.EndpointView
import PmuSimulator.Console.Extraction
import PmuSimulator.Foundation.Cursor
import PmuSimulator.Probe.Agreement
import PmuSimulator.Probe.Completion
