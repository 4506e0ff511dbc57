import StupidSimple.Library.Machine
import StupidSimple.Quic.Packets

/-!
Owns the packets of the BBR test protocol and `MyBbrReceiverApp`, which answers
every stream or padding packet with an ack of its number. The log files, the
address of the peer and the time to stop are left out.
-/

namespace StupidSimple.Bbr

open StupidSimple.Library StupidSimple.Quic

/-- `TestProto`, the type in the low bits of the public flags. -/
inductive TestProto where
  | stream
  | padding
  | ack
deriving DecidableEq, Repr

def TestProto.code : TestProto → Nat
  | stream => 0
  | padding => 1
  | ack => 2

/-- `MaxPacketSize` of the apps. -/
def maxPacketSize : Nat := 1400

/-! ### Writing and reading -/

section Io

variable (io : QuicData)

def writePacketHeader (type : TestProto) (seq : Nat) : List UInt8 :=
  let seqLen := getMinSeqLength seq
  UInt8.ofNat (getPacketNumberFlags seqLen <<< kPublicHeaderSequenceNumberShift ||| type.code) ::
    io.writeBytesToUInt64 seqLen.bytes seq

/-- The datagram of `SendFakePacket` and `SendPaddingPacket`. The apps send more
bytes than their buffer has; `beyond` is what lies behind it. -/
def sentPacket (type : TestProto) (seq : Nat) (beyond : List UInt8) : List UInt8 :=
  packetBuffer maxPacketSize (writePacketHeader io type seq) ++
    beyond.take (kMaxPacketSize - maxPacketSize)

/-- The type and the number of a packet; a number that is cut is read as zero. -/
def readPacket (data : List UInt8) : Nat × Nat :=
  let publicFlags := (data.headD 0).toNat
  let seqLen := readSequenceNumberLength (publicFlags >>> kPublicHeaderSequenceNumberShift)
  let seq :=
    match io.readBytesToUInt64 seqLen.bytes data.tail with
    | none => 0
    | some (seq, _) => seq
  (publicFlags &&& 0x0F, seq)

/-- The number that `ProcessAckFrame` of both apps passes to `OnCongestionEvent`, if
any. It is undefined for a datagram that overruns the copy of `MaxPacketSize` bytes. -/
def ackedNumber (data : List UInt8) : Option (Option Nat) :=
  if data.length ≤ maxPacketSize then
    let (type, num) := readPacket io data
    some (if type = TestProto.ack.code then some num else none)
  else none

end Io

/-! ### The receiver -/

structure MyBbrReceiverApp where
  baseSeq : Nat
  recvByte : Nat

/-- What is sent or logged. -/
inductive ReceiverAppEvent where
  | ack (datagram : List UInt8)
  | loss (seq : Nat)
deriving DecidableEq, Repr

namespace MyBbrReceiverApp

variable (io : QuicData)

def create : MyBbrReceiverApp where
  baseSeq := 0
  recvByte := 0

def sendAck (packetNumber : Nat) : ReceiverAppEvent := .ack (writePacketHeader io .ack packetNumber)

def onIncomingData (data : List UInt8) (app : MyBbrReceiverApp) :
    MyBbrReceiverApp × List ReceiverAppEvent :=
  let counted := { app with recvByte := app.recvByte + data.length }
  let (type, seq) := readPacket io data
  if type = TestProto.stream.code ∨ type = TestProto.padding.code then
    let missing := List.range' (counted.baseSeq + 1) (seq - (counted.baseSeq + 1))
    ({ counted with
        baseSeq := if counted.baseSeq + 1 ≤ seq then seq else counted.baseSeq },
      sendAck io seq :: missing.map .loss)
  else (counted, [])

/-- `Process`. Nothing is received as no bytes. -/
def process (data : List UInt8) (app : MyBbrReceiverApp) :
    MyBbrReceiverApp × List ReceiverAppEvent :=
  if data = [] then (app, []) else app.onIncomingData io data

end MyBbrReceiverApp

/-- Calls of `Process`, each with what is received. -/
def receiverAppMachine (io : QuicData) :
    Machine MyBbrReceiverApp (List UInt8) (List ReceiverAppEvent) where
  step app data := some (app.process io data)

end StupidSimple.Bbr
