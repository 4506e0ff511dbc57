import StupidSimple.Quic.Sender

/-!
Owns the packets of `MyQuicSender` and `MyQuicVideoSender`: the header that both
write by hand, and what a sender hands to its socket.
-/

namespace StupidSimple.Quic

/-- `STREAM_FRAME`, the type behind the regular frames of `QuicFrameType`. -/
def streamFrame : Nat := 8

/-- A buffer of `size` zeros with some bytes written to its front. -/
def packetBuffer (size : Nat) (written : List UInt8) : List UInt8 :=
  written ++ List.replicate (size - written.length) 0

/-- `FromMilliseconds`; `MyQuicClock` reads whole milliseconds. -/
def clockTime (ms : Nat) : Nat := ms * 1000

/-- `ToMilliseconds` of a time since zero, cut to `uint32_t`. -/
def timestamp (now : Nat) : Nat := now / 1000 % 2 ^ 32

section Writing

variable (io : QuicData)

/-- The public flags and the packet number. -/
def writeHeader (seq : Nat) : List UInt8 :=
  let seqLen := getMinSeqLength seq
  UInt8.ofNat (getPacketNumberFlags seqLen <<< kPublicHeaderSequenceNumberShift) ::
    io.writeBytesToUInt64 seqLen.bytes seq

/-- The header of a stream packet and its type. -/
def writeStreamHeader (seq : Nat) : List UInt8 :=
  writeHeader io seq ++ [UInt8.ofNat streamFrame]

/-- `SendStopWaitingFrame`, the same in both senders. The least unacked number is
written with the length of the packet's own number. -/
def stopWaitingPacket (seq unackSeq : Nat) : List UInt8 :=
  writeHeader io seq ++ [UInt8.ofNat stopWaitingFrame] ++
    io.writeBytesToUInt64 (getMinSeqLength seq).bytes unackSeq

end Writing

/-- Why a stream packet is sent. -/
inductive Purpose where
  | data (chunk : Nat)
  | padding
  | retransmission (oldSeq chunk : Nat)
deriving DecidableEq, Repr

/-- A datagram that is handed to the socket. -/
inductive Transmission where
  | stream (purpose : Purpose) (seq time : Nat) (datagram : List UInt8)
  | stopWaiting (seq unackSeq : Nat) (datagram : List UInt8)
deriving DecidableEq, Repr

@[simp] theorem length_writeHeader (io : QuicData) (seq : Nat) :
    (writeHeader io seq).length = 1 + (getMinSeqLength seq).bytes := by
  have narrow := bytes_le_eight (getMinSeqLength seq)
  simp [writeHeader, io.writeBytesToUInt64_eq _ _ narrow, Nat.add_comm]

end StupidSimple.Quic
