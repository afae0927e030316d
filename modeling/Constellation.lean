import Constellation.Concurrency.LoggerShutdown
import Constellation.Concurrency.MessageQueue
import Constellation.Concurrency.Progress
import Constellation.Concurrency.Threads
import Constellation.Downlink.AckCycle
import Constellation.Downlink.PacketTotals
import Constellation.Downlink.Pipeline
import Constellation.Downlink.Recorder
import Constellation.Downlink.Recovery
import Constellation.Downlink.System
import Constellation.Downlink.Telemetry
import Constellation.Downlink.TornDumps
import Constellation.Effect
import Constellation.GroundControl.AddressBook
import Constellation.GroundControl.Admission
import Constellation.GroundControl.Answers
import Constellation.GroundControl.Boot
import Constellation.GroundControl.Connection
import Constellation.GroundControl.ControlRoom
import Constellation.GroundControl.Display
import Constellation.GroundControl.GCConnectionHandler
import Constellation.GroundControl.Launch
import Constellation.GroundControl.Ledger
import Constellation.GroundControl.Operator
import Constellation.GroundControl.Parser
import Constellation.GroundControl.Process
import Constellation.GroundControl.Ranges
import Constellation.GroundControl.Receiver
import Constellation.GroundControl.Reconnects
import Constellation.GroundControl.SatelliteData
import Constellation.GroundControl.Shutdown
import Constellation.GroundControl.SocketSafety
import Constellation.GroundControl.Status
import Constellation.GroundControl.Terminal
import Constellation.Lib.Census
import Constellation.Lib.Descriptors
import Constellation.Lib.Detector
import Constellation.Lib.Ether
import Constellation.Lib.File
import Constellation.Lib.Image
import Constellation.Lib.Keepalive
import Constellation.Lib.Numeral
import Constellation.Lib.Passes
import Constellation.Lib.Pattern
import Constellation.Lib.Quiescence
import Constellation.Lib.Retries
import Constellation.Lib.Run
import Constellation.Lib.Table
import Constellation.Network.Acquaintance
import Constellation.Network.Descriptors
import Constellation.Network.Emissions
import Constellation.Network.GivingUp
import Constellation.Network.Mission
import Constellation.Network.Provenance
import Constellation.Network.Quiescence
import Constellation.Network.Roster
import Constellation.Network.Silence
import Constellation.Network.System
import Constellation.Network.Timeouts
import Constellation.Protocol.Admission
import Constellation.Protocol.Layout
import Constellation.Protocol.Receive
import Constellation.Protocol.Reencode
import Constellation.Protocol.Residue
import Constellation.Protocol.Serializer
import Constellation.Protocol.Server
import Constellation.Satellite.AddressBook
import Constellation.Satellite.Admission
import Constellation.Satellite.CommandAck
import Constellation.Satellite.ConnectionHandler
import Constellation.Satellite.DataDump
import Constellation.Satellite.DumpCycle
import Constellation.Satellite.Lines
import Constellation.Satellite.LogErasure
import Constellation.Satellite.Logger
import Constellation.Satellite.Motion
import Constellation.Satellite.OpenChannels
import Constellation.Satellite.PeerArguments
import Constellation.Satellite.PeerConnection
import Constellation.Satellite.Process
import Constellation.Satellite.Satellite
import Constellation.Satellite.Threads
