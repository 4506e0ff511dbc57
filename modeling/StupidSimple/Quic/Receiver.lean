import StupidSimple.Library.Machine
import StupidSimple.Quic.AckEncode
import StupidSimple.Quic.Packets

/-!
Owns `MyQuicReceiver` and its alarm: reading packets, the decision when to send an
ack, and `Process`.

`QuicReceivedPacketManager` is not part of the repository. A receiver keeps the
calls it has made to its manager, and the manager is what it answers behind them.
The log files, the address of the peer and the time to stop are left out.
-/

namespace StupidSimple.Quic

open StupidSimple.Library

def mMinReceivedBeforeAckDecimation : Nat := 100
def mMaxRetransmittablePacketsBeforeAck : Nat := 10
def mMaxDelayedAckTimeMs : Nat := 25
def mMinRetransmissionTimeMs : Nat := 200

/-! ### The alarm -/

/-- `MyQuicAlarm`; a deadline of zero is not set. -/
structure MyQuicAlarm where
  deadline : Nat
deriving DecidableEq, Repr

namespace MyQuicAlarm

def IsSet (alarm : MyQuicAlarm) : Prop := 0 < alarm.deadline

instance (alarm : MyQuicAlarm) : Decidable alarm.IsSet := Nat.decLt _ _

/-- Whether the alarm has expired; one that has is not set any more. -/
def isExpired (now : Nat) (alarm : MyQuicAlarm) : Bool × MyQuicAlarm :=
  if alarm.IsSet then
    if alarm.deadline ≤ now then (true, ⟨0⟩) else (false, alarm)
  else (false, alarm)

def update (newDeadline : Nat) (_ : MyQuicAlarm) : MyQuicAlarm := ⟨newDeadline⟩

end MyQuicAlarm

/-! ### The packet manager -/

/-- A call that changes the manager. -/
inductive ReceivedCall where
  | recordPacketReceived (packetNumber receiptTime : Nat)
  | dontWaitForPacketsBefore (leastUnacked : Nat)
  | getUpdatedAckFrame (approximateNow : Nat)
deriving DecidableEq, Repr

/-- The answers of a manager behind the calls made to it. -/
structure QuicReceivedPacketManager where
  ackFrameUpdated : List ReceivedCall → Bool
  /-- The frame that the last call returns. -/
  updatedAckFrame : List ReceivedCall → QuicAckFrame

/-! ### The receiver -/

structure MyQuicReceiver where
  recvPacketManager : List ReceivedCall
  seq : Nat
  baseSeq : Nat
  ackAlarm : MyQuicAlarm
  received : Nat
  numPacketsReceivedSinceLastAckSent : Nat

/-- What is logged or sent. An ack is `none` when its frame cannot be written. -/
inductive ReceiverEvent where
  | onewayDelay (seq owd : Nat)
  | loss (seq : Nat)
  | ack (datagram : Option (List UInt8))
deriving DecidableEq, Repr

namespace MyQuicReceiver

def create : MyQuicReceiver where
  recvPacketManager := []
  seq := 1
  baseSeq := 0
  ackAlarm := ⟨0⟩
  received := 0
  numPacketsReceivedSinceLastAckSent := 0

section Reading

variable (io : QuicData)

/-- The length of the packet number, the number, the type and what follows. A
read that fails leaves zero and nothing to read. -/
def readPacket (data : List UInt8) : QuicPacketNumberLength × Nat × Nat × List UInt8 :=
  let publicFlags := (data.headD 0).toNat
  let seqLen := readSequenceNumberLength (publicFlags >>> kPublicHeaderSequenceNumberShift)
  match io.readBytesToUInt64 seqLen.bytes data.tail with
  | none => (seqLen, 0, 0, [])
  | some (seq, []) => (seqLen, seq, 0, [])
  | some (seq, type :: rest) => (seqLen, seq, type.toNat, rest)

/-- The integer of `count` bytes, or zero when they are not there. -/
def readOrZero (count : Nat) (bytes : List UInt8) : Nat :=
  match io.readBytesToUInt64 count bytes with
  | none => 0
  | some (value, _) => value

/-- `recv_ts - sent_ts` in `uint32_t`. -/
def onewayDelay (now : Nat) (rest : List UInt8) : Nat :=
  let recvTs := timestamp now
  let sentTs := readOrZero io 4 rest
  (recvTs + 2 ^ 32 - sentTs) % 2 ^ 32

end Reading

section Process

variable (io : QuicData) (manager : QuicReceivedPacketManager)

def sendAck (now : Nat) (receiver : MyQuicReceiver) : MyQuicReceiver × List ReceiverEvent :=
  let calls := receiver.recvPacketManager ++ [.getUpdatedAckFrame now]
  let frame := manager.updatedAckFrame calls
  ({ receiver with recvPacketManager := calls, numPacketsReceivedSinceLastAckSent := 0 },
    [.ack ((Quic.sendAck io receiver.seq frame).map (writeHeader io receiver.seq ++ ·))])

def maybeSendAck (now : Nat) (receiver : MyQuicReceiver) : MyQuicReceiver × List ReceiverEvent :=
  if receiver.received < mMinReceivedBeforeAckDecimation then receiver.sendAck io manager now
  else if mMaxRetransmittablePacketsBeforeAck ≤ receiver.numPacketsReceivedSinceLastAckSent then
    receiver.sendAck io manager now
  else if ¬receiver.ackAlarm.IsSet then
    let ackDelay := min mMaxDelayedAckTimeMs (mMinRetransmissionTimeMs / 2)
    ({ receiver with ackAlarm := receiver.ackAlarm.update (now + clockTime ackDelay) }, [])
  else (receiver, [])

/-- What `OnIncomingData` records of a stream packet. -/
def recordPacket (now seq : Nat) (receiver : MyQuicReceiver) : MyQuicReceiver :=
  { receiver with
    recvPacketManager := receiver.recvPacketManager ++ [.recordPacketReceived seq now]
    baseSeq := if receiver.baseSeq + 1 ≤ seq then seq else receiver.baseSeq
    numPacketsReceivedSinceLastAckSent := receiver.numPacketsReceivedSinceLastAckSent + 1
    received := receiver.received + 1 }

/-- The branch of `OnIncomingData` for stream packets. -/
def onStreamPacket (now seq : Nat) (rest : List UInt8) (receiver : MyQuicReceiver) :
    MyQuicReceiver × List ReceiverEvent :=
  let missing := List.range' (receiver.baseSeq + 1) (seq - (receiver.baseSeq + 1))
  let logged := .onewayDelay seq (onewayDelay io now rest) :: missing.map .loss
  let recorded := receiver.recordPacket now seq
  if manager.ackFrameUpdated recorded.recvPacketManager then
    let (answered, sent) := recorded.maybeSendAck io manager now
    (answered, logged ++ sent)
  else (recorded, logged)

def onIncomingData (now : Nat) (data : List UInt8) (receiver : MyQuicReceiver) :
    MyQuicReceiver × List ReceiverEvent :=
  let (seqLen, seq, type, rest) := readPacket io data
  if type = streamFrame then receiver.onStreamPacket io manager now seq rest
  else if type = stopWaitingFrame then
    ({ receiver with
        recvPacketManager := receiver.recvPacketManager ++
          [.dontWaitForPacketsBefore (readOrZero io seqLen.bytes rest)] }, [])
  else (receiver, [])

def receive (now : Nat) (data : List UInt8) (receiver : MyQuicReceiver) :
    MyQuicReceiver × List ReceiverEvent :=
  if data = [] then (receiver, []) else receiver.onIncomingData io manager now data

/-- The end of `Process`. -/
def checkAlarm (now : Nat) (receiver : MyQuicReceiver) : MyQuicReceiver × List ReceiverEvent :=
  let (expired, ackAlarm) := receiver.ackAlarm.isExpired now
  let checked := { receiver with ackAlarm := ackAlarm }
  if expired then checked.sendAck io manager now else (checked, [])

/-- `Process`, with one reading of the clock. Nothing is received as no bytes. -/
def process (now : Nat) (data : List UInt8) (receiver : MyQuicReceiver) :
    MyQuicReceiver × List ReceiverEvent :=
  let (informed, answers) := receiver.receive io manager now data
  let (final, acks) := informed.checkAlarm io manager now
  (final, answers ++ acks)

end Process

end MyQuicReceiver

/-- Calls of `Process` at some times, each with what is received. -/
def receiverMachine (io : QuicData) (manager : QuicReceivedPacketManager) :
    Machine MyQuicReceiver (Nat × List UInt8) (List ReceiverEvent) where
  step receiver call := some (receiver.process io manager call.1 call.2)

end StupidSimple.Quic
