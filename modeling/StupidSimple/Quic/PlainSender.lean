import StupidSimple.Library.Machine
import StupidSimple.Quic.Packets

/-!
Owns the sending half of `MyQuicSender` and the machine of the activities of its
`Process`. Its stream packets carry the time at which they are sent.
-/

namespace StupidSimple.Quic

open StupidSimple.Library

namespace MyQuicSender

/-- The constructor, at a time. -/
def create (now : Nat) : MyQuicSender where
  acks := ⟨[], now, 1, 0⟩
  seq := 1

section Sending

variable (io : QuicData)

/-- The packet of a whole `kMaxPacketSize`, with the time behind its type. -/
def streamPacket (seq now : Nat) : List UInt8 :=
  packetBuffer kMaxPacketSize (writeStreamHeader io seq ++ io.writeBytesToUInt64 4 (timestamp now))

/-- The length that `OnPacketSent` is told. -/
def payload (seq : Nat) : Nat := kMaxPacketSize - (1 + (getMinSeqLength seq).bytes + 1)

def nextSeq (seq : Nat) : Nat := (seq + 1) % 2 ^ 32

def sendFakePacket (now : Nat) (sender : MyQuicSender) : MyQuicSender × List Transmission :=
  let seq := sender.seq
  let info := ⟨seq, getMinSeqLength seq, payload seq, [⟨0, false, 0, [], 0⟩]⟩
  ({ sender with
      acks := { sender.acks with
        sentPacketManager := sender.acks.sentPacketManager ++
          [.onPacketSent info 0 now .notRetransmission true] }
      seq := nextSeq seq },
    [.stream (.data kMaxPacketSize) seq now (streamPacket io seq now)])

def onRetransPacket (pending : QuicPendingRetransmission) (now : Nat) (sender : MyQuicSender) :
    MyQuicSender × List Transmission :=
  let seq := sender.seq
  let oldSeq := pending.packetNumber
  let info := ⟨seq, getMinSeqLength seq, payload seq, pending.retransmittableFrames⟩
  ({ sender with
      acks := { sender.acks with
        sentPacketManager := sender.acks.sentPacketManager ++
          [.onPacketSent info oldSeq now .lossRetransmission true] }
      seq := nextSeq seq },
    [.stream (.retransmission oldSeq kMaxPacketSize) seq now (streamPacket io seq now)])

def sendStopWaitingFrame (manager : QuicSentPacketManager) (sender : MyQuicSender) :
    MyQuicSender × List Transmission :=
  let unackSeq := manager.getLeastUnacked sender.acks.sentPacketManager
  ({ sender with acks := { sender.acks with stopWaitingCount := 0 } },
    [.stopWaiting sender.seq unackSeq (stopWaitingPacket io sender.seq unackSeq)])

end Sending

/-! ### Activities of `Process` -/

section Activities

variable (env : FramerEnv) (manager : QuicSentPacketManager)

def sendIfDue (now sentAt : Nat) (sender : MyQuicSender) : MyQuicSender × List Transmission :=
  if manager.timeUntilSend sender.acks.sentPacketManager now = some 0 then
    sender.sendFakePacket env.io sentAt
  else (sender, [])

/-- `OnIncomingData`, where something is received. -/
def receive (now : Nat) (data : List UInt8) (sender : MyQuicSender) :
    Option (MyQuicSender × List Transmission) :=
  if data = [] then some (sender, [])
  else do
    let (_, after) ← sender.onIncomingData env manager now data
    some (after, [])

/-- One round of the loop of `SendRetransmission`. -/
def retransmitIfDue (now sentAt : Nat) (sender : MyQuicSender) :
    MyQuicSender × List Transmission :=
  if manager.timeUntilSend sender.acks.sentPacketManager now = some 0 ∧
      manager.hasPendingRetransmissions sender.acks.sentPacketManager = true then
    sender.onRetransPacket env.io
      (manager.nextPendingRetransmission sender.acks.sentPacketManager) sentAt
  else (sender, [])

def stopWaitingIfDue (sender : MyQuicSender) : MyQuicSender × List Transmission :=
  if 2 < sender.acks.stopWaitingCount then sender.sendStopWaitingFrame env.io manager
  else (sender, [])

end Activities

end MyQuicSender

/-- One activity of `Process`. -/
inductive SenderActivity where
  | send (now sentAt : Nat)
  | receive (now : Nat) (data : List UInt8)
  | retransmission (now sentAt : Nat)
  | stopWaiting
deriving DecidableEq, Repr

/-- The activities in any order. -/
def senderMachine (env : FramerEnv) (manager : QuicSentPacketManager) :
    Machine MyQuicSender SenderActivity (List Transmission) where
  step sender
    | .send now sentAt => some (sender.sendIfDue env manager now sentAt)
    | .receive now data => sender.receive env manager now data
    | .retransmission now sentAt => some (sender.retransmitIfDue env manager now sentAt)
    | .stopWaiting => some (sender.stopWaitingIfDue env manager)

end StupidSimple.Quic
