import SledServer.Core.Run
import SledServer.Core.Link
import SledServer.Core.FourPhase
import SledServer.Machines.Body
import SledServer.Interface
import SledServer.Machines.Sdo
import SledServer.Sdo.Runs
import SledServer.Sdo.Order
import SledServer.Sdo.Reports
import SledServer.Machines.Motion
import SledServer.Sled.Profile
import SledServer.Sled.Visits
import SledServer.Machines.Net
import SledServer.Machines.Intf
import SledServer.Sled.Events
import SledServer.Sled.Frame
import SledServer.Sled.Steps
import SledServer.Sled.Coupling
import SledServer.Sled.Halts
import SledServer.Sdo.Queue
import SledServer.Sled.Upload
import SledServer.Sled.Changes
import SledServer.Drive.Late
import SledServer.Drive.Recovery
import SledServer.Drive.Tasks
import SledServer.Drive.Agreement
import SledServer.Server.ProfileSet
import SledServer.Sled.Sinusoid
import SledServer.Drive.Quiet
import SledServer.Drive.Stop
import SledServer.Server.Packets
import SledServer.Server.Streams
import SledServer.Sled.Steering
import SledServer.Sled.Enabled
import SledServer.Sled.Epochs
import SledServer.Drive.Handshake
import SledServer.Core.Lr
import SledServer.Server.Grammar
import SledServer.Core.Lex
import SledServer.Server.Scanner
import SledServer.Server.Sentences
import SledServer.Server.Parsing
import SledServer.Server.Printing
import SledServer.Server.ParseString
import SledServer.Server.Service
import SledServer.Server.Subscriptions
import SledServer.Server.Mapping
import SledServer.Server.Replies
import SledServer.Server.Positions
import SledServer.Core.Endian
import SledServer.Server.Sending
import SledServer.Server.Connections
import SledServer.Server.Readiness
import SledServer.Core.Blind
import SledServer.Sled.Mask
import SledServer.Sled.Memory
import SledServer.Sled.Inside
import SledServer.Sled.Device
import SledServer.Core.Walk
import SledServer.Sled.Chains
import SledServer.Core.Trunc
import SledServer.Server.Representable
import SledServer.Sled.Status
import SledServer.Core.Expedited
import SledServer.Sled.Codec
import SledServer.Sdo.Delivery
import SledServer.Server.Orders
import SledServer.Plc.Sinusoid
import SledServer.Tools.Profiles
import SledServer.Drive.Lockstep
import SledServer.Core.FirstFit
import SledServer.Core.Transducer
import SledServer.Server.Wire
import SledServer.Server.Dialogue
import SledServer.Drive.Commissioning
import SledServer.Drive.Contact
import SledServer.Sled.Shape
import SledServer.Sled.Allocation
import SledServer.Core.Backlog
import SledServer.Drive.Vocabulary
import SledServer.Drive.Draining
import SledServer.Server.Delegation
