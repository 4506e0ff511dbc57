import StupidSimple.Quic.Framer

/-!
Owns the writing half of `MyQuicFramer` for ack frames, `AppendAckFrameAndTypeByte`,
and `MyQuicReceiver::SendAck`, which calls it. The version is `QUIC_VERSION_43`
and acks are processed incrementally, so that time stamps are not written.
-/

namespace StupidSimple.Quic

open StupidSimple.Library

/-! ### Received packets -/

/-- An interval of `PacketNumberQueue`; `max` is not in it. -/
structure Interval where
  min : Nat
  max : Nat
  min_lt_max : min < max
deriving DecidableEq, Repr

def Interval.length (interval : Interval) : Nat := interval.max - interval.min

/-- `PacketNumberQueue`: disjoint intervals in ascending order that do not touch. -/
structure PacketNumberQueue where
  intervals : List Interval
  ascending : intervals.Pairwise fun lower upper => lower.max < upper.min

namespace PacketNumberQueue

/-- The intervals from the last one to the first one. -/
def descending (packets : PacketNumberQueue) : List Interval := packets.intervals.reverse

def Holds (packets : PacketNumberQueue) (packetNumber : Nat) : Prop :=
  ∃ interval ∈ packets.intervals, interval.min ≤ packetNumber ∧ packetNumber < interval.max

end PacketNumberQueue

structure QuicAckFrame where
  largestAcked : Nat
  /-- An infinite delay is `none`. -/
  ackDelayTime : Option Nat
  packets : PacketNumberQueue

/-! ### The frame's outline -/

structure AckFrameInfo where
  maxBlockLength : Nat
  firstBlockLength : Nat
  numAckBlocks : Nat
deriving DecidableEq, Repr

/-- The largest value of a `uint8_t`. -/
def maxUInt8 : Nat := 255

/-- The blocks that a gap takes. -/
def numEncodedGaps (totalGap : Nat) : Nat := (totalGap + maxUInt8 - 1) / maxUInt8

/-- The loop of `GetAckFrameInfo` over the intervals behind the top one. It stops
when no more blocks can be encoded. -/
def scanIntervals : List Interval → (previousStart : Nat) → AckFrameInfo → AckFrameInfo
  | [], _, info => info
  | interval :: rest, previousStart, info =>
      if info.numAckBlocks < maxUInt8 then
        scanIntervals rest interval.min
          { info with
            numAckBlocks := info.numAckBlocks + numEncodedGaps (previousStart - interval.max)
            maxBlockLength := max info.maxBlockLength interval.length }
      else info

def getAckFrameInfo (frame : QuicAckFrame) : AckFrameInfo :=
  match frame.packets.descending with
  | [] => ⟨0, 0, 0⟩
  | top :: rest => scanIntervals rest top.min ⟨top.length, top.length, 0⟩

/-! ### Writing -/

def kQuicFrameTypeSize : Nat := 1
def kQuicDeltaTimeLargestObservedSize : Nat := 2
def kQuicNumTimestampsSize : Nat := 1
def kNumberOfAckBlocksSize : Nat := 1

def getMinAckFrameSize (largestObservedLength : QuicPacketNumberLength) : Nat :=
  kQuicFrameTypeSize + largestObservedLength.bytes + kQuicDeltaTimeLargestObservedSize +
    kQuicNumTimestampsSize

/-- `SetBit` and `SetBits` on a type byte of zeros. -/
def ackTypeByte (hasAckBlocks : Bool) (largestAckedLength ackBlockLength : QuicPacketNumberLength) :
    Nat :=
  (if hasAckBlocks then 1 else 0) <<< kQuicHasMultipleAckBlocksOffsetPre40 |||
    getPacketNumberFlags largestAckedLength <<< kLargestAckedOffset |||
    getPacketNumberFlags ackBlockLength <<< kActBlockLengthOffset |||
    kQuicFrameTypeAckMaskPre40

section Writing

variable (io : QuicData)

def appendPacketNumber (packetNumberLength : QuicPacketNumberLength) (packetNumber : Nat) :
    QuicDataWriter → Option QuicDataWriter :=
  QuicDataWriter.writeBytes (io.writeBytesToUInt64 packetNumberLength.bytes packetNumber)

def writeUInt8 (value : Nat) : QuicDataWriter → Option QuicDataWriter :=
  QuicDataWriter.writeBytes [UInt8.ofNat value]

def appendAckBlock (gap : Nat) (lengthLength : QuicPacketNumberLength) (length : Nat)
    (writer : QuicDataWriter) : Option QuicDataWriter := do
  let writer ← writeUInt8 gap writer
  appendPacketNumber io lengthLength length writer

/-- The loop over the blocks without packets of one gap, `count` of them, of
which no more than `room` are written. The result has the room that is left. -/
def appendEmptyBlocks (ackBlockLength : QuicPacketNumberLength) :
    (count room : Nat) → QuicDataWriter → Option (Nat × QuicDataWriter)
  | 0, room, writer => some (room, writer)
  | _ + 1, 0, writer => some (0, writer)
  | count + 1, room + 1, writer => do
      let writer ← appendAckBlock io maxUInt8 ackBlockLength 0 writer
      appendEmptyBlocks ackBlockLength count room writer

/-- The loop over the intervals behind the top one; `room` is what
`num_ack_blocks` leaves behind the blocks written. -/
def appendAckBlocks (ackBlockLength : QuicPacketNumberLength) :
    List Interval → (previousStart room : Nat) → QuicDataWriter → Option QuicDataWriter
  | [], _, _, writer => some writer
  | _ :: _, _, 0, writer => some writer
  | interval :: rest, previousStart, room + 1, writer => do
      let totalGap := previousStart - interval.max
      let (roomLeft, writer) ← appendEmptyBlocks io ackBlockLength (numEncodedGaps totalGap - 1)
        (room + 1) writer
      match roomLeft with
      | 0 => some writer
      | roomLeft + 1 => do
          let lastGap := totalGap - (numEncodedGaps totalGap - 1) * maxUInt8
          let writer ← appendAckBlock io lastGap ackBlockLength interval.length writer
          appendAckBlocks ackBlockLength rest interval.min roomLeft writer

def appendNumAckBlocks (numAckBlocks : Nat) (writer : QuicDataWriter) : Option QuicDataWriter :=
  if 0 < numAckBlocks then writeUInt8 numAckBlocks writer else some writer

/-- The blocks behind the top interval. -/
def appendIntervals (ackBlockLength : QuicPacketNumberLength) (descending : List Interval)
    (numAckBlocks : Nat) (writer : QuicDataWriter) : Option QuicDataWriter :=
  match descending with
  | [] => some writer
  | top :: rest => appendAckBlocks io ackBlockLength rest top.min numAckBlocks writer

/-- The writes of `AppendAckFrameAndTypeByte`, with the lengths and the number of
blocks that it has computed. -/
def appendAckFields (hasAckBlocks : Bool)
    (largestAckedLength ackBlockLength : QuicPacketNumberLength)
    (numAckBlocks firstBlockLength : Nat) (frame : QuicAckFrame) (writer : QuicDataWriter) :
    Option QuicDataWriter := do
  let writer ← writeUInt8 (ackTypeByte hasAckBlocks largestAckedLength ackBlockLength) writer
  let writer ← appendPacketNumber io largestAckedLength frame.largestAcked writer
  let ackDelayTimeUs := frame.ackDelayTime.getD io.kUFloat16MaxValue
  let writer ← writer.writeBytes (io.uFloat16Bytes ackDelayTimeUs)
  let writer ← appendNumAckBlocks numAckBlocks writer
  let writer ← appendPacketNumber io ackBlockLength firstBlockLength writer
  let writer ← appendIntervals io ackBlockLength frame.packets.descending numAckBlocks writer
  -- No time stamps follow.
  writeUInt8 0 writer

/-- `AppendAckFrameAndTypeByte`; it fails where the source returns false. The
available bytes are not negative, as the source asserts. -/
def appendAckFrameAndTypeByte (frame : QuicAckFrame) (writer : QuicDataWriter) :
    Option QuicDataWriter :=
  let newAckInfo := getAckFrameInfo frame
  let largestAckedLength := getMinSeqLength frame.largestAcked
  let ackBlockLength := getMinSeqLength newAckInfo.maxBlockLength
  let availableTimestampAndAckBlockBytes :=
    writer.capacity - writer.bytes.length - ackBlockLength.bytes -
      getMinAckFrameSize largestAckedLength -
      (if newAckInfo.numAckBlocks ≠ 0 then kNumberOfAckBlocksSize else 0)
  let maxNumAckBlocks := availableTimestampAndAckBlockBytes / (ackBlockLength.bytes + 1)
  let numAckBlocks := min (min newAckInfo.numAckBlocks maxNumAckBlocks) maxUInt8
  appendAckFields io (newAckInfo.numAckBlocks ≠ 0) largestAckedLength ackBlockLength numAckBlocks
    newAckInfo.firstBlockLength frame writer

end Writing

/-! ### Sending an ack -/

/-- The room of the writer that `SendAck` makes behind its header. -/
def ackWriter (seq : Nat) : QuicDataWriter where
  capacity := kMaxPacketSize - (1 + (getMinSeqLength seq).bytes)
  bytes := []

/-- The bytes that `SendAck` writes behind its header for a packet number. -/
def sendAck (io : QuicData) (seq : Nat) (frame : QuicAckFrame) : Option (List UInt8) := do
  let writer ← appendAckFrameAndTypeByte io frame (ackWriter seq)
  pure writer.bytes

end StupidSimple.Quic
