import StupidSimple.Quic.AckEncode

/-!
Owns the writing half of `MyQuicFramer` for all frames, the loop of `BuildDataPacket` and
the sizes that the framer computes for frames before it writes them. The version is
`QUIC_VERSION_43`; stream data comes from the frame, not from a data producer.
-/

namespace StupidSimple.Quic

open StupidSimple.Library

def kQuicErrorCodeSize : Nat := 4
def kQuicErrorDetailsLengthSize : Nat := 2
def kQuicMaxStreamIdSize : Nat := 4
def kQuicMaxStreamOffsetSize : Nat := 8
def kQuicStreamPayloadLengthSize : Nat := 2
def kMaxAckBlocks : Nat := 255
def kMaxErrorStringLength : Nat := 256

/-- `QuicFrame`. -/
inductive QuicFrame where
  /-- `-1` stands for all bytes that are left. -/
  | padding (numPaddingBytes : Int)
  | rstStream (streamId byteOffset errorCode : Nat)
  | connectionClose (errorCode : Nat) (errorDetails : List UInt8)
  | goAway (errorCode lastGoodStreamId : Nat) (reasonPhrase : List UInt8)
  | windowUpdate (streamId byteOffset : Nat)
  | blocked (streamId : Nat)
  | stopWaiting (leastUnacked : Nat)
  | ping
  | stream (frame : QuicStreamFrame)
  | ack (frame : QuicAckFrame)
  | mtuDiscovery

/-! ### Sizes of fields -/

/-- The loop that takes a byte off a value until nothing is left, at most `rounds` times;
`size` is what it returns after the first one. -/
def shiftedSize : (rounds size value : Nat) → Option Nat
  | 0, _, _ => none
  | rounds + 1, size, value =>
      if value >>> 8 = 0 then some size else shiftedSize rounds (size + 1) (value >>> 8)

def getStreamIdSize (streamId : Nat) : Nat := (shiftedSize 4 1 streamId).getD 4

def getStreamOffsetSize (offset : Nat) : Nat :=
  if offset = 0 then 0 else (shiftedSize 7 2 (offset >>> 8)).getD 8

def truncateErrorString (error : List UInt8) : List UInt8 :=
  if error.length ≤ kMaxErrorStringLength then error else error.take kMaxErrorStringLength

/-! ### Sizes of frames -/

def getMinStreamFrameSize (streamId offset : Nat) (lastFrameInPacket : Bool) : Nat :=
  kQuicFrameTypeSize + getStreamIdSize streamId + getStreamOffsetSize offset +
    (if lastFrameInPacket then 0 else kQuicStreamPayloadLengthSize)

def getStopWaitingFrameSize (packetNumberLength : QuicPacketNumberLength) : Nat :=
  kQuicFrameTypeSize + packetNumberLength.bytes

def getRstStreamFrameSize : Nat :=
  kQuicFrameTypeSize + kQuicMaxStreamIdSize + kQuicMaxStreamOffsetSize + kQuicErrorCodeSize

def getMinConnectionCloseFrameSize : Nat :=
  kQuicFrameTypeSize + kQuicErrorCodeSize + kQuicErrorDetailsLengthSize

def getMinGoAwayFrameSize : Nat :=
  kQuicFrameTypeSize + kQuicErrorCodeSize + kQuicErrorDetailsLengthSize + kQuicMaxStreamIdSize

def getWindowUpdateFrameSize : Nat :=
  kQuicFrameTypeSize + kQuicMaxStreamIdSize + kQuicMaxStreamOffsetSize

def getBlockedFrameSize : Nat := kQuicFrameTypeSize + kQuicMaxStreamIdSize

/-- `GetAckFrameSize`, without time stamps. -/
def getAckFrameSize (ack : QuicAckFrame) : Nat :=
  let ackInfo := getAckFrameInfo ack
  let largestAckedLength := getMinSeqLength ack.largestAcked
  let ackBlockLength := getMinSeqLength ackInfo.maxBlockLength
  getMinAckFrameSize largestAckedLength + ackBlockLength.bytes +
    (if ackInfo.numAckBlocks ≠ 0 then
      kNumberOfAckBlocksSize +
        min ackInfo.numAckBlocks kMaxAckBlocks * (ackBlockLength.bytes + 1)
    else 0)

/-- `ComputeFrameLength`; a padding frame has no length of its own. -/
def computeFrameLength (lastFrameInPacket : Bool) (packetNumberLength : QuicPacketNumberLength) :
    QuicFrame → Nat
  | .stream frame =>
      getMinStreamFrameSize frame.streamId frame.offset lastFrameInPacket + frame.dataLength
  | .ack frame => getAckFrameSize frame
  | .stopWaiting _ => getStopWaitingFrameSize packetNumberLength
  | .mtuDiscovery | .ping => kQuicFrameTypeSize
  | .rstStream _ _ _ => getRstStreamFrameSize
  | .connectionClose _ errorDetails =>
      getMinConnectionCloseFrameSize + (truncateErrorString errorDetails).length
  | .goAway _ _ reasonPhrase =>
      getMinGoAwayFrameSize + (truncateErrorString reasonPhrase).length
  | .windowUpdate _ _ => getWindowUpdateFrameSize
  | .blocked _ => getBlockedFrameSize
  | .padding _ => 0

def QuicFrame.isAck : QuicFrame → Bool
  | .ack _ => true
  | _ => false

/-- `GetSerializedFrameLength`; zero says that the frame does not fit. -/
def getSerializedFrameLength (frame : QuicFrame) (freeBytes : Nat) (firstFrame lastFrame : Bool)
    (packetNumberLength : QuicPacketNumberLength) : Nat :=
  match frame with
  | .padding numPaddingBytes =>
      if numPaddingBytes = -1 then freeBytes
      -- The comparison is one of `size_t`.
      else if freeBytes < (numPaddingBytes % 2 ^ 64).toNat then freeBytes
      else (numPaddingBytes % 2 ^ 64).toNat
  | frame =>
      let frameLen := computeFrameLength lastFrame packetNumberLength frame
      if frameLen ≤ freeBytes then frameLen
      else if ¬firstFrame then 0
      else if frame.isAck ∧ getMinAckFrameSize .packet6Byte ≤ freeBytes then freeBytes
      else 0

/-! ### Writing -/

namespace QuicDataWriter

def remaining (writer : QuicDataWriter) : Nat := writer.capacity - writer.bytes.length

/-- `WritePadding`: zeros up to the end. -/
def writePadding (writer : QuicDataWriter) : QuicDataWriter :=
  { writer with bytes := writer.bytes ++ List.replicate writer.remaining 0 }

def writePaddingBytes (count : Nat) : QuicDataWriter → Option QuicDataWriter :=
  writeBytes (List.replicate count 0)

end QuicDataWriter

section Writing

variable (io : QuicData)

def writeUInt16 (value : Nat) : QuicDataWriter → Option QuicDataWriter :=
  QuicDataWriter.writeBytes (io.writeBytesToUInt64 2 value)

def writeUInt32 (value : Nat) : QuicDataWriter → Option QuicDataWriter :=
  QuicDataWriter.writeBytes (io.writeBytesToUInt64 4 value)

def writeUInt64 (value : Nat) : QuicDataWriter → Option QuicDataWriter :=
  QuicDataWriter.writeBytes (io.writeBytesToUInt64 8 value)

def writeStringPiece16 (text : List UInt8) (writer : QuicDataWriter) : Option QuicDataWriter :=
  if text.length < 2 ^ 16 then do
    let writer ← writeUInt16 io text.length writer
    writer.writeBytes text
  else none

/-- The type byte of a stream frame, from left to right: the flag of stream frames, fin,
data length, offset and stream id. -/
def streamTypeByte (frame : QuicStreamFrame) (noStreamFrameLength : Bool) : Nat :=
  let fin := if frame.fin then kQuicStreamFinMaskPre40 else 0
  let withLength := (fin <<< kQuicStreamDataLengthShiftPre40) |||
    (if noStreamFrameLength then 0 else kQuicStreamDataLengthMaskPre40)
  let offsetLen := getStreamOffsetSize frame.offset
  let withOffset := (withLength <<< kQuicStreamShiftPre40) |||
    (if 0 < offsetLen then offsetLen - 1 else 0)
  ((withOffset <<< kQuicStreamIdShiftPre40) ||| (getStreamIdSize frame.streamId - 1)) |||
    kQuicFrameTypeStreamMaskPre40

/-- `AppendTypeByte`; that of an ack frame is written with the frame. -/
def appendTypeByte (noStreamFrameLength : Bool) (frame : QuicFrame) (writer : QuicDataWriter) :
    Option QuicDataWriter :=
  match frame with
  | .stream frame => writeUInt8 (streamTypeByte frame noStreamFrameLength) writer
  | .ack _ => some writer
  | .mtuDiscovery => writeUInt8 pingFrame writer
  | .padding _ => writeUInt8 paddingFrame writer
  | .rstStream _ _ _ => writeUInt8 rstStreamFrame writer
  | .connectionClose _ _ => writeUInt8 connectionCloseFrame writer
  | .goAway _ _ _ => writeUInt8 goAwayFrame writer
  | .windowUpdate _ _ => writeUInt8 windowUpdateFrame writer
  | .blocked _ => writeUInt8 blockedFrame writer
  | .stopWaiting _ => writeUInt8 stopWaitingFrame writer
  | .ping => writeUInt8 pingFrame writer

def appendStreamId (streamIdLength streamId : Nat) (writer : QuicDataWriter) :
    Option QuicDataWriter :=
  if streamIdLength = 0 ∨ 4 < streamIdLength then none
  else writer.writeBytes (io.writeBytesToUInt64 streamIdLength streamId)

def appendStreamOffset (offsetLength offset : Nat) (writer : QuicDataWriter) :
    Option QuicDataWriter :=
  if offsetLength = 1 ∨ 8 < offsetLength then none
  else writer.writeBytes (io.writeBytesToUInt64 offsetLength offset)

def appendDataLength (noStreamFrameLength : Bool) (dataLength : Nat) (writer : QuicDataWriter) :
    Option QuicDataWriter :=
  if noStreamFrameLength then some writer
  else if 2 ^ 16 ≤ dataLength then none
  else writeUInt16 io dataLength writer

def appendStreamFrame (frame : QuicStreamFrame) (noStreamFrameLength : Bool)
    (writer : QuicDataWriter) : Option QuicDataWriter := do
  let writer ← appendStreamId io (getStreamIdSize frame.streamId) frame.streamId writer
  let writer ← appendStreamOffset io (getStreamOffsetSize frame.offset) frame.offset writer
  let writer ← appendDataLength io noStreamFrameLength frame.dataLength writer
  writer.writeBytes (frame.data.take frame.dataLength)

/-- `AppendStopWaitingFrame`; the difference is one of `uint64_t`. -/
def appendStopWaitingFrame (header : QuicPacketHeader) (leastUnacked : Nat)
    (writer : QuicDataWriter) : Option QuicDataWriter :=
  let leastUnackedDelta := (header.packetNumber + 2 ^ 64 - leastUnacked) % 2 ^ 64
  let lengthShift := header.packetNumberLength.bytes * 8
  if 0 < leastUnackedDelta >>> lengthShift then none
  else appendPacketNumber io header.packetNumberLength leastUnackedDelta writer

def appendRstStreamFrame (streamId byteOffset errorCode : Nat) (writer : QuicDataWriter) :
    Option QuicDataWriter := do
  let writer ← writeUInt32 io streamId writer
  let writer ← writeUInt64 io byteOffset writer
  writeUInt32 io errorCode writer

def appendConnectionCloseFrame (errorCode : Nat) (errorDetails : List UInt8)
    (writer : QuicDataWriter) : Option QuicDataWriter := do
  let writer ← writeUInt32 io errorCode writer
  writeStringPiece16 io (truncateErrorString errorDetails) writer

def appendGoAwayFrame (errorCode lastGoodStreamId : Nat) (reasonPhrase : List UInt8)
    (writer : QuicDataWriter) : Option QuicDataWriter := do
  let writer ← writeUInt32 io errorCode writer
  let writer ← writeUInt32 io lastGoodStreamId writer
  writeStringPiece16 io (truncateErrorString reasonPhrase) writer

def appendWindowUpdateFrame (streamId byteOffset : Nat) (writer : QuicDataWriter) :
    Option QuicDataWriter := do
  let writer ← writeUInt32 io streamId writer
  writeUInt64 io byteOffset writer

def appendBlockedFrame (streamId : Nat) : QuicDataWriter → Option QuicDataWriter :=
  writeUInt32 io streamId

/-- `AppendPaddingFrame`; the type byte is one of the bytes of padding. -/
def appendPaddingFrame (numPaddingBytes : Int) (writer : QuicDataWriter) : Option QuicDataWriter :=
  if numPaddingBytes = 0 then none
  else if numPaddingBytes < 0 then some writer.writePadding
  else writer.writePaddingBytes (numPaddingBytes - 1).toNat

variable (header : QuicPacketHeader)

/-- The payload of a frame, behind its type byte. -/
def appendFramePayload (noStreamFrameLength : Bool) (frame : QuicFrame) (writer : QuicDataWriter) :
    Option QuicDataWriter :=
  match frame with
  | .padding numPaddingBytes => appendPaddingFrame numPaddingBytes writer
  | .stream frame => appendStreamFrame io frame noStreamFrameLength writer
  | .ack frame => appendAckFrameAndTypeByte io frame writer
  | .stopWaiting leastUnacked => appendStopWaitingFrame io header leastUnacked writer
  | .mtuDiscovery | .ping => some writer
  | .rstStream streamId byteOffset errorCode =>
      appendRstStreamFrame io streamId byteOffset errorCode writer
  | .connectionClose errorCode errorDetails =>
      appendConnectionCloseFrame io errorCode errorDetails writer
  | .goAway errorCode lastGoodStreamId reasonPhrase =>
      appendGoAwayFrame io errorCode lastGoodStreamId reasonPhrase writer
  | .windowUpdate streamId byteOffset => appendWindowUpdateFrame io streamId byteOffset writer
  | .blocked streamId => appendBlockedFrame io streamId writer

/-- The body of the loop of `BuildDataPacket`. -/
def appendFrame (noStreamFrameLength : Bool) (frame : QuicFrame) (writer : QuicDataWriter) :
    Option QuicDataWriter := do
  let writer ← appendTypeByte noStreamFrameLength frame writer
  appendFramePayload io header noStreamFrameLength frame writer

/-- The loop of `BuildDataPacket`; the last frame has no length. -/
def appendFrames : List QuicFrame → QuicDataWriter → Option QuicDataWriter
  | [], writer => some writer
  | frame :: rest, writer => do
      let writer ← appendFrame io header rest.isEmpty frame writer
      appendFrames rest writer

end Writing

end StupidSimple.Quic
