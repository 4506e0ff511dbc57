import StupidSimple.Library.OrderedMap
import StupidSimple.Quic.AckLayout

/-!
Owns the incoming half of `MyQuicSender` and `MyQuicVideoSender`: `OnIncomingData`
and the ack callbacks.

`QuicSentPacketManager` is not part of the repository. A sender keeps the calls
it has made to its manager, and the manager is what it answers behind some
calls; no law is assumed here.
-/

namespace StupidSimple.Quic

open StupidSimple.Library

/-! ### The packet manager -/

structure SerializedPacket where
  packetNumber : Nat
  packetNumberLength : QuicPacketNumberLength
  encryptedLength : Nat
  retransmittableFrames : List QuicStreamFrame
deriving DecidableEq, Repr

inductive TransmissionType where
  | notRetransmission
  | lossRetransmission
deriving DecidableEq, Repr

/-- A call that changes the manager. -/
inductive ManagerCall where
  | onAckFrameStart (largestAcked : Nat) (ackDelayTime : Option Nat) (ackReceiveTime : Nat)
  | onAckRange (start stop : Nat)
  | onAckFrameEnd (ackReceiveTime : Nat)
  | onPacketSent (packet : SerializedPacket) (originalPacketNumber sentTime : Nat)
      (transmissionType : TransmissionType) (hasRetransmittableData : Bool)
deriving DecidableEq, Repr

structure QuicPendingRetransmission where
  packetNumber : Nat
  retransmittableFrames : List QuicStreamFrame
deriving DecidableEq, Repr

/-- The answers of a manager behind the calls made to it. The wait of
`timeUntilSend` is in microseconds, an infinite one is `none`. -/
structure QuicSentPacketManager where
  getLeastUnacked : List ManagerCall → Nat
  timeUntilSend : List ManagerCall → Nat → Option Nat
  hasPendingRetransmissions : List ManagerCall → Bool
  nextPendingRetransmission : List ManagerCall → QuicPendingRetransmission
  /-- `GetSendAlgorithm()->ShouldSendProbingPacket()`. -/
  shouldSendProbingPacket : List ManagerCall → Bool

/-! ### Ack callbacks -/

/-- The members that both senders have and the ack callbacks use. The manager is
represented by the calls made to it. -/
structure AckState where
  sentPacketManager : List ManagerCall
  timeOfLastReceivedPacket : Nat
  largestAcked : Nat
  stopWaitingCount : Nat

namespace AckState

variable (manager : QuicSentPacketManager)

def postProcessAfterAckFrame (sendStopWaiting : Bool) (state : AckState) : AckState :=
  { state with stopWaitingCount := if sendStopWaiting then state.stopWaitingCount + 1 else 0 }

def onAckFrameStart (largestAcked : Nat) (ackDelayTime : Option Nat) (state : AckState) :
    AckState :=
  { state with
    sentPacketManager := state.sentPacketManager ++
      [.onAckFrameStart largestAcked ackDelayTime state.timeOfLastReceivedPacket]
    largestAcked :=
      if state.largestAcked ≤ largestAcked then largestAcked else state.largestAcked }

/-- The manager's part of `OnAckRange`. -/
def onAckRange (start stop : Nat) (lastRange : Bool) (state : AckState) : AckState :=
  let told := { state with
    sentPacketManager := state.sentPacketManager ++ [.onAckRange start stop] }
  if lastRange then
    let ended := { told with
      sentPacketManager := told.sentPacketManager ++
        [ManagerCall.onAckFrameEnd told.timeOfLastReceivedPacket] }
    ended.postProcessAfterAckFrame (start < manager.getLeastUnacked ended.sentPacketManager)
  else told

/-- The ack callbacks; `AbstractQuicFramerVisitor` ignores all other frames. -/
def onCall (call : VisitorCall) (state : AckState) : AckState :=
  match call with
  | .onAckFrameStart largestAcked ackDelayTime => state.onAckFrameStart largestAcked ackDelayTime
  | .onAckRange start stop lastRange => state.onAckRange manager start stop lastRange
  | _ => state

end AckState

/-! ### The plain sender -/

/-- The members of `MyQuicSender`, but for the clock, the log and the time to stop. -/
structure MyQuicSender where
  acks : AckState
  /-- A `uint32_t`. -/
  seq : Nat

namespace MyQuicSender

/-- A visitor that goes on after every frame. -/
def visitor (manager : QuicSentPacketManager) : Visitor MyQuicSender where
  call call sender := (true, { sender with acks := sender.acks.onCall manager call })
  onError _ sender := sender

end MyQuicSender

/-! ### The video sender -/

/-- The members of `MyQuicVideoSender`, but for the clock, the log and the video
source. -/
structure MyQuicVideoSender where
  acks : AckState
  seq : Nat
  pendingQueue : List Nat
  sentQueue : OrderedMap Nat Nat

namespace MyQuicVideoSender

def removeAckedPacket (seq : Nat) (sentQueue : OrderedMap Nat Nat) : OrderedMap Nat Nat :=
  if sentQueue.find? seq ≠ none then sentQueue.erase seq else sentQueue

/-- The loop of `OnAckRange` over `count` numbers from `start`. -/
def removeAckedPackets : (count start : Nat) → OrderedMap Nat Nat → OrderedMap Nat Nat
  | 0, _, sentQueue => sentQueue
  | count + 1, start, sentQueue =>
      removeAckedPackets count (start + 1) (removeAckedPacket start sentQueue)

def onAckRange (manager : QuicSentPacketManager) (start stop : Nat) (lastRange : Bool)
    (sender : MyQuicVideoSender) : MyQuicVideoSender :=
  { sender with
    acks := sender.acks.onAckRange manager start stop lastRange
    sentQueue := removeAckedPackets (stop - start) start sender.sentQueue }

def onCall (manager : QuicSentPacketManager) (call : VisitorCall) (sender : MyQuicVideoSender) :
    MyQuicVideoSender :=
  match call with
  | .onAckRange start stop lastRange => sender.onAckRange manager start stop lastRange
  | _ => { sender with acks := sender.acks.onCall manager call }

def visitor (manager : QuicSentPacketManager) : Visitor MyQuicVideoSender where
  call call sender := (true, sender.onCall manager call)
  onError _ sender := sender

end MyQuicVideoSender

/-! ### Incoming data -/

def kPublicHeaderSequenceNumberShift : Nat := 4

/-- What `OnIncomingData` passes to the framer: the bytes behind the public flags
and the packet number. It is undefined for a datagram that overruns the copy of
`kMaxPacketSize` bytes, or that is shorter than its own header. -/
def framePayload (data : List UInt8) : Option (List UInt8) :=
  let publicFlags := (data.headD 0).toNat
  let seqLen := readSequenceNumberLength (publicFlags >>> kPublicHeaderSequenceNumberShift)
  let headerLen := 1 + seqLen.bytes
  if data.length ≤ kMaxPacketSize ∧ headerLen ≤ data.length then some (data.drop headerLen)
  else none

/-- What the framer is created with, and the library values it depends on. -/
structure FramerEnv where
  io : QuicData
  limits : ErrorLimits
  /-- The packet header that is passed and not filled in. -/
  header : QuicPacketHeader

namespace FramerEnv

variable (env : FramerEnv)

def processFrame (frameType : Nat) : RaisingFramer Bool :=
  MyQuicFramer.processFrame env.io.kUFloat16MaxValue env.limits env.header frameType

def processFrames (bound : Nat) : RaisingFramer Unit :=
  MyQuicFramer.processFrames env.io.kUFloat16MaxValue env.limits env.header bound

def processFrameData : RaisingFramer Unit :=
  MyQuicFramer.processFrameData env.io.kUFloat16MaxValue env.limits env.header

end FramerEnv

namespace MyQuicSender

/-- The time of the packet is taken before it is read. -/
def received (now : Nat) (sender : MyQuicSender) : MyQuicSender :=
  { sender with acks := { sender.acks with timeOfLastReceivedPacket := now } }

/-- `OnIncomingData` at a time, with what `ProcessFrameData` returned. -/
def onIncomingData (env : FramerEnv) (manager : QuicSentPacketManager) (now : Nat)
    (data : List UInt8) (sender : MyQuicSender) :
    Option (Except (QuicErrorCode × String) Unit × MyQuicSender) := do
  let frames ← framePayload data
  let outcome := env.processFrameData.run (framerHandler env.io (visitor manager))
    ⟨frames, sender.received now⟩
  pure (outcome.1, outcome.2.visitor)

end MyQuicSender

namespace MyQuicVideoSender

/-- The time of the packet is taken before it is read. -/
def received (now : Nat) (sender : MyQuicVideoSender) : MyQuicVideoSender :=
  { sender with acks := { sender.acks with timeOfLastReceivedPacket := now } }

/-- `OnIncomingData` at a time, with what `ProcessFrameData` returned. -/
def onIncomingData (env : FramerEnv) (manager : QuicSentPacketManager) (now : Nat)
    (data : List UInt8) (sender : MyQuicVideoSender) :
    Option (Except (QuicErrorCode × String) Unit × MyQuicVideoSender) := do
  let frames ← framePayload data
  let outcome := env.processFrameData.run (framerHandler env.io (visitor manager))
    ⟨frames, sender.received now⟩
  pure (outcome.1, outcome.2.visitor)

end MyQuicVideoSender

/-! ### Both senders tolerate every frame -/

theorem MyQuicSender.visitor_tolerant (manager : QuicSentPacketManager) :
    (MyQuicSender.visitor manager).Tolerant where
  goesOn _ _ := rfl
  ignoresErrors _ _ := rfl

theorem MyQuicVideoSender.visitor_tolerant (manager : QuicSentPacketManager) :
    (MyQuicVideoSender.visitor manager).Tolerant where
  goesOn _ _ := rfl
  ignoresErrors _ _ := rfl

end StupidSimple.Quic
