import SpwBridge.Library.Words
import SpwBridge.Library.Effect
import SpwBridge.Library.Projection
import SpwBridge.Library.Framing
import SpwBridge.Library.Runs
import SpwBridge.Library.Strings
import SpwBridge.Library.Handles
import SpwBridge.Library.Cancellation
import SpwBridge.Library.Completion
import SpwBridge.Library.ShiftRegister
import SpwBridge.Library.Metered
import SpwBridge.Library.Masks
import SpwBridge.Library.Ranges
import SpwBridge.Library.Latest
import SpwBridge.Library.Table
import SpwBridge.Library.Ownership
import SpwBridge.Rmap.Decode
import SpwBridge.Rmap.Setters
import SpwBridge.Rmap.RoundTrip
import SpwBridge.Rmap.Crc
import SpwBridge.Rmap.Crc8
import SpwBridge.Rmap.Parse
import SpwBridge.Rmap.Bounds
import SpwBridge.Rmap.Printout
import SpwBridge.Rmap.Reencode
import SpwBridge.Rmap.SizeQuery
import SpwBridge.Rmap.Refusals
import SpwBridge.Net.Sequence
import SpwBridge.World
import SpwBridge.Gresb
import SpwBridge.Spw.Transmit
import SpwBridge.Net.Service
import SpwBridge.Net.Served
import SpwBridge.Net.Framers
import SpwBridge.Net.Forward
import SpwBridge.Net.Handlers
import SpwBridge.Net.Reply
import SpwBridge.Net.Relay
import SpwBridge.Net.Stream
import SpwBridge.Net.Tcp
import SpwBridge.Net.Boundaries
import SpwBridge.Net.GresbAgreement
import SpwBridge.Net.Delivery
import SpwBridge.Net.Rounds
import SpwBridge.Options
import SpwBridge.OptionOrder
import SpwBridge.Settings
import SpwBridge.Net.Threads
import SpwBridge.Net.Endpoints
import SpwBridge.Net.Interleaving
import SpwBridge.Net.Reuse
import SpwBridge.Net.Recheck
import SpwBridge.Startup
import SpwBridge.Bridge
import SpwBridge.Monitor
import SpwBridge.Net.PseudoRmap
import SpwBridge.Net.Encapsulation
import SpwBridge.Net.Datagram
import SpwBridge.Net.UdpPeers
import SpwBridge.Net.ClientStreams
import SpwBridge.Net.Symmetry
import SpwBridge.Net.Routing
import SpwBridge.Net.Answers
import SpwBridge.Net.Peers
import SpwBridge.Net.Frames
import SpwBridge.Net.Traffic
import SpwBridge.Net.Tunnel
import SpwBridge.Net.Unreliable
import SpwBridge.Net.UdpRuns
import SpwBridge.Client
import SpwBridge.Shutdown
import SpwBridge.ShutdownCompletes
import SpwBridge.Spw.Operations
import SpwBridge.Spw.Disposal
import SpwBridge.Spw.StopPoll
import SpwBridge.Spw.ReceiveLoop
import SpwBridge.Spw.Device
import SpwBridge.Spw.DeviceRuns
import SpwBridge.Ecss.Crc16
import SpwBridge.Ecss.Sliced
import SpwBridge.Ecss.SpacePacket
import SpwBridge.Ecss.Bitman
import SpwBridge.Ecss.BitCopy
import SpwBridge.Ecss.Packet
import SpwBridge.Ecss.Setters
import SpwBridge.Ecss.Refusals
import SpwBridge.Ecss.Sizes
import SpwBridge.DebugPrint
