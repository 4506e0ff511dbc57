import StupidSimple.Bbr.BogusAck
import StupidSimple.Bbr.Bookkeeping
import StupidSimple.Bbr.Cluster
import StupidSimple.Bbr.ClusterTrace
import StupidSimple.Bbr.Ledger
import StupidSimple.Bbr.LedgerInvariant
import StupidSimple.Bbr.Platform
import StupidSimple.Bbr.Packets
import StupidSimple.Bbr.Pacing
import StupidSimple.Bbr.Conformance
import StupidSimple.Bbr.Control
import StupidSimple.Bbr.FinishedClusters
import StupidSimple.Bbr.GainCycle
import StupidSimple.Bbr.MinRtt
import StupidSimple.Bbr.PacingRate
import StupidSimple.Bbr.PacketMaps
import StupidSimple.Bbr.VideoApp
import StupidSimple.Bbr.HeaderRoundTrip
import StupidSimple.Bbr.LossRecord
import StupidSimple.Bbr.Ingestion
import StupidSimple.Bbr.ProbeRtt
import StupidSimple.Bbr.Rate
import StupidSimple.Bbr.SampleExact
import StupidSimple.Bbr.SampleLoss
import StupidSimple.Bbr.Sender
import StupidSimple.Bbr.Simulation
import StupidSimple.Bbr.Trace
import StupidSimple.Library.BigEndian
import StupidSimple.Library.ByteStream
import StupidSimple.Library.Heap
import StupidSimple.Library.Interaction
import StupidSimple.Library.LinkedSegment
import StupidSimple.Library.Machine
import StupidSimple.Library.OrderedMap
import StupidSimple.Library.Pacer
import StupidSimple.Library.Pieces
import StupidSimple.Library.Refinement
import StupidSimple.Library.ShiftRegister
import StupidSimple.Library.Tape
import StupidSimple.Library.VarInt
import StupidSimple.Mininet.BodyDecode
import StupidSimple.Mininet.CodecRoundTrip
import StupidSimple.Mininet.Corruption
import StupidSimple.Mininet.Crc32
import StupidSimple.Mininet.Delivery
import StupidSimple.Mininet.Endpoint
import StupidSimple.Mininet.FrameSplit
import StupidSimple.Mininet.Garbage
import StupidSimple.Mininet.HeaderBounds
import StupidSimple.Mininet.PacerOrder
import StupidSimple.Mininet.PacketSizes
import StupidSimple.Mininet.PendingBuffer
import StupidSimple.Mininet.Proto
import StupidSimple.Mininet.Receiver
import StupidSimple.Mininet.RttReports
import StupidSimple.Mininet.Sender
import StupidSimple.Mininet.SenderSteps
import StupidSimple.Mininet.Stream
import StupidSimple.Mininet.StreamTape
import StupidSimple.Quic.DataIo
import StupidSimple.Quic.Framer
import StupidSimple.Quic.FramerRun
import StupidSimple.Quic.AckRejection
import StupidSimple.Quic.AckCompletion
import StupidSimple.Quic.SenderCalls
import StupidSimple.Quic.AckRoundTrip
import StupidSimple.Quic.AckBlocks
import StupidSimple.Quic.AckEncode
import StupidSimple.Quic.AckRanges
import StupidSimple.Quic.Frames
import StupidSimple.Quic.FrameWindow
import StupidSimple.Quic.AckArithmetic
import StupidSimple.Quic.Sender
import StupidSimple.Quic.Packets
import StupidSimple.Quic.PlainSender
import StupidSimple.Quic.Receiver
import StupidSimple.Quic.DelayedAck
import StupidSimple.Quic.OnewayDelay
import StupidSimple.Quic.VideoSender
import StupidSimple.Quic.VideoSource
import StupidSimple.Quic.ManagerLaws
import StupidSimple.Quic.Retransmission
import StupidSimple.Quic.ChunkLedger
import StupidSimple.Quic.AckLayout
import StupidSimple.Library.Network
import StupidSimple.Mininet.Session
import StupidSimple.Bbr.Session
import StupidSimple.Library.Epoch
import StupidSimple.Quic.AckHonesty
import StupidSimple.Quic.AckRoom
import StupidSimple.Quic.DataPackets
import StupidSimple.Quic.FrameSizes
import StupidSimple.Quic.HeaderExchange
import StupidSimple.Quic.PacketExchange
import StupidSimple.Quic.PacketRuns
import StupidSimple.Quic.VersionNegotiation
import StupidSimple.Quic.KeySwitch
import StupidSimple.Quic.IetfFrames
import StupidSimple.Quic.IetfRoundTrip
import StupidSimple.Quic.IetfAck
import StupidSimple.Quic.Session
