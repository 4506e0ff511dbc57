import StupidSimple.Library.Interaction
import StupidSimple.Quic.DataIo

/-!
Owns the reading half of `MyQuicFramer`: `ProcessFrameData` and the function of
each frame, as both endpoints configure it. The version is `QUIC_VERSION_43` and
acks are processed incrementally; the branches of other versions and of
`OnAckFrame` are left out.

A framer function is a program that reads from its reader and calls its visitor.
It fails where the source returns false, with the text of `detailed_error_`.
-/

namespace StupidSimple.Quic

open StupidSimple.Library

/-! ### Frame types -/

def kQuicFrameTypeSpecialMask : Nat := 0b11100000
def kQuicFrameTypeStreamMaskPre40 : Nat := 0b10000000
def kQuicFrameTypeStreamMask : Nat := 0b11000000
def kQuicFrameTypeAckMaskPre40 : Nat := 0b01000000
def kQuicFrameTypeAckMask : Nat := 0b10100000

def kQuicStreamIdShiftPre40 : Nat := 2
def kQuicStreamIDLengthMaskPre40 : Nat := 0b00000011
def kQuicStreamShiftPre40 : Nat := 3
def kQuicStreamOffsetMaskPre40 : Nat := 0b00000111
def kQuicStreamDataLengthShiftPre40 : Nat := 1
def kQuicStreamDataLengthMaskPre40 : Nat := 0b00000001
def kQuicStreamFinShiftPre40 : Nat := 1
def kQuicStreamFinMaskPre40 : Nat := 0b00000001

def kQuicSequenceNumberLengthNumBits : Nat := 2
def kActBlockLengthOffset : Nat := 0
def kLargestAckedOffset : Nat := 2
def kQuicHasMultipleAckBlocksOffsetPre40 : Nat := 5

/-- `QuicFrameType`, as far as it names a regular frame. -/
def paddingFrame : Nat := 0
def rstStreamFrame : Nat := 1
def connectionCloseFrame : Nat := 2
def goAwayFrame : Nat := 3
def windowUpdateFrame : Nat := 4
def blockedFrame : Nat := 5
def stopWaitingFrame : Nat := 6
def pingFrame : Nat := 7

/-- A mask of the last `numBits` bits. -/
def getMaskFromNumBits (numBits : Nat) : Nat := (1 <<< numBits) - 1

def extractBits (flags numBits offset : Nat) : Nat := (flags >>> offset) &&& getMaskFromNumBits numBits

def extractBit (flags offset : Nat) : Bool := (flags >>> offset) &&& getMaskFromNumBits 1 ≠ 0

/-! ### Frames and calls -/

inductive QuicErrorCode where
  | missingPayload
  | invalidFrameData
  | invalidStreamData
  | invalidAckData
  | invalidRstStreamData
  | invalidConnectionCloseData
  | invalidGoawayData
  | invalidWindowUpdateData
  | invalidBlockedData
  | invalidStopWaitingData
deriving DecidableEq, Repr

/-- The part of a packet header that a frame depends on. -/
structure QuicPacketHeader where
  packetNumberLength : QuicPacketNumberLength
  packetNumber : Nat

structure QuicStreamFrame where
  streamId : Nat
  fin : Bool
  offset : Nat
  data : List UInt8
  dataLength : Nat
deriving DecidableEq, Repr

/-- A call of the visitor, with the frame or the part of it that it reports. An
infinite delay is `none`. -/
inductive VisitorCall where
  | onStreamFrame (frame : QuicStreamFrame)
  | onAckFrameStart (largestAcked : Nat) (ackDelayTime : Option Nat)
  | onAckRange (start stop : Nat) (lastRange : Bool)
  | onPaddingFrame (numPaddingBytes : Nat)
  | onRstStreamFrame (streamId byteOffset errorCode : Nat)
  | onConnectionCloseFrame (errorCode : Nat) (errorDetails : List UInt8)
  | onGoAwayFrame (errorCode lastGoodStreamId : Nat) (reasonPhrase : List UInt8)
  | onWindowUpdateFrame (streamId byteOffset : Nat)
  | onBlockedFrame (streamId : Nat)
  | onStopWaitingFrame (leastUnacked : Nat)
  | onPingFrame
deriving DecidableEq, Repr

/-- `MyQuicFramerVisitorInterface`: each call says whether to go on. -/
structure Visitor (σ : Type) where
  call : VisitorCall → σ → Bool × σ
  onError : QuicErrorCode → σ → σ

/-- The last values of two enumerations of the library: larger error codes are
read as these. -/
structure ErrorLimits where
  quicLastError : Nat
  quicStreamLastError : Nat

inductive FramerQuery where
  | isDoneReading
  | bytesRemaining
  | peekByte
  | readBytesToUInt64 (count : Nat)
  | readUFloat16
  | readStringPiece (length : Nat)
  | visit (call : VisitorCall)
  | onError (code : QuicErrorCode)

def FramerQuery.Answer : FramerQuery → Type
  | isDoneReading => Bool
  | bytesRemaining => Nat
  | peekByte => Nat
  | readBytesToUInt64 _ => Option Nat
  | readUFloat16 => Option Nat
  | readStringPiece _ => Option (List UInt8)
  | visit _ => Bool
  | onError _ => Unit

/-- A reader and the visitor's state. -/
structure Parsing (σ : Type) where
  reader : List UInt8
  visitor : σ
deriving DecidableEq

/-- A failed read moves the reader to its end. -/
def Parsing.read {σ α : Type} (state : Parsing σ) :
    Option (α × List UInt8) → Option α × Parsing σ
  | some (value, rest) => (some value, { state with reader := rest })
  | none => (none, { state with reader := [] })

def framerHandler {σ : Type} (io : QuicData) (visitor : Visitor σ) :
    Handler FramerQuery FramerQuery.Answer (Parsing σ)
  | .isDoneReading, state => (state.reader.isEmpty, state)
  | .bytesRemaining, state => (state.reader.length, state)
  | .peekByte, state => ((state.reader.headD 0).toNat, state)
  | .readBytesToUInt64 count, state => state.read (io.readBytesToUInt64 count state.reader)
  | .readUFloat16, state => state.read (io.readUFloat16 state.reader)
  | .readStringPiece length, state => state.read (QuicData.readStringPiece length state.reader)
  | .visit call, state =>
      ((visitor.call call state.visitor).1,
        { state with visitor := (visitor.call call state.visitor).2 })
  | .onError code, state => ((), { state with visitor := visitor.onError code state.visitor })

/-! ### Reading -/

namespace Framer

section Queries

variable {ε : Type}

def isDoneReading : Interaction FramerQuery FramerQuery.Answer ε Bool := .query FramerQuery.isDoneReading

def bytesRemaining : Interaction FramerQuery FramerQuery.Answer ε Nat := .query FramerQuery.bytesRemaining

def peekByte : Interaction FramerQuery FramerQuery.Answer ε Nat := .query FramerQuery.peekByte

def tryReadBytesToUInt64 (count : Nat) :
    Interaction FramerQuery FramerQuery.Answer ε (Option Nat) :=
  .query (FramerQuery.readBytesToUInt64 count)

def tryReadUFloat16 : Interaction FramerQuery FramerQuery.Answer ε (Option Nat) :=
  .query FramerQuery.readUFloat16

def tryReadStringPiece (length : Nat) :
    Interaction FramerQuery FramerQuery.Answer ε (Option (List UInt8)) :=
  .query (FramerQuery.readStringPiece length)

def visit (call : VisitorCall) : Interaction FramerQuery FramerQuery.Answer ε Bool :=
  .query (FramerQuery.visit call)

def onError (code : QuicErrorCode) : Interaction FramerQuery FramerQuery.Answer ε Unit :=
  .query (FramerQuery.onError code)

end Queries

end Framer

/-- A framer function that returns false, with a detailed error, where it fails. -/
abbrev Framer (α : Type) := Interaction FramerQuery FramerQuery.Answer String α

namespace Framer

/-- A read, or the error of a failed one. -/
def orFail {α : Type} (detail : String) : Option α → Framer α
  | some value => pure value
  | none => .fail detail

def readBytesToUInt64 (count : Nat) (detail : String) : Framer Nat := do
  orFail detail (← tryReadBytesToUInt64 count)

def readUInt8 (detail : String) : Framer Nat := readBytesToUInt64 1 detail
def readUInt16 (detail : String) : Framer Nat := readBytesToUInt64 2 detail
def readUInt32 (detail : String) : Framer Nat := readBytesToUInt64 4 detail
def readUInt64 (detail : String) : Framer Nat := readBytesToUInt64 8 detail

def readUFloat16 (detail : String) : Framer Nat := do
  orFail detail (← tryReadUFloat16)

def readStringPiece (length : Nat) (detail : String) : Framer (List UInt8) := do
  orFail detail (← tryReadStringPiece length)

/-- A string behind its length. -/
def readStringPiece16 (detail : String) : Framer (List UInt8) := do
  let length ← readUInt16 detail
  readStringPiece length detail

/-- The error of a visitor that ends an ack frame. -/
def suppressed : String := "Visitor suppresses further processing of ack frame."

/-- A call within an ack frame, which the visitor may end. -/
def visitAck (call : VisitorCall) : Framer Unit := do
  if ← visit call then pure () else .fail suppressed

end Framer

/-! ### Frames -/

namespace MyQuicFramer

open Framer Interaction

/-- The data of a stream frame: behind its length, or all that is left. -/
def readStreamData (hasDataLength : Bool) : Framer (List UInt8) :=
  if hasDataLength then readStringPiece16 "Unable to read frame data."
  else do
    let remaining ← bytesRemaining
    readStringPiece remaining "Unable to read frame data."

def processStreamFrame (frameType : Nat) : Framer QuicStreamFrame := do
  -- From right to left: stream id, offset, data length, fin.
  let streamFlags := frameType &&& (255 - kQuicFrameTypeStreamMaskPre40)
  let streamIdLength := (streamFlags &&& kQuicStreamIDLengthMaskPre40) + 1
  let offsetFlags := streamFlags >>> kQuicStreamIdShiftPre40
  let offsetBits := offsetFlags &&& kQuicStreamOffsetMaskPre40
  let offsetLength := if 0 < offsetBits then offsetBits + 1 else offsetBits
  let lengthFlags := offsetFlags >>> kQuicStreamShiftPre40
  let hasDataLength : Bool :=
    lengthFlags &&& kQuicStreamDataLengthMaskPre40 = kQuicStreamDataLengthMaskPre40
  let finFlags := lengthFlags >>> kQuicStreamDataLengthShiftPre40
  let fin : Bool := finFlags &&& kQuicStreamFinMaskPre40 = kQuicStreamFinShiftPre40
  let streamId ← readBytesToUInt64 streamIdLength "Unable to read stream_id."
  let offset ← readBytesToUInt64 offsetLength "Unable to read offset."
  let data ← readStreamData hasDataLength
  pure ⟨streamId % 2 ^ 32, fin, offset, data, data.length % 2 ^ 16⟩

/-- The loop over the blocks after the first: `remaining` are still to come and
`firstReceived` is the least number acked so far. -/
def processAckBlocks (ackBlockLength : QuicPacketNumberLength) :
    (remaining firstReceived : Nat) → Framer Unit
  | 0, _ => pure ()
  | remaining + 1, firstReceived => do
      let gap ← readUInt8 "Unable to read gap to next ack block."
      let currentBlockLength ←
        readBytesToUInt64 ackBlockLength.bytes "Unable to ack block length."
      if firstReceived < gap + currentBlockLength then
        -- The text shows a difference of unsigned 64-bit integers.
        let endOfBlock := (firstReceived + 2 ^ 64 - gap) % 2 ^ 64
        fail s!"Underflow with ack block length {currentBlockLength}, end of block is {endOfBlock}."
      else do
        let nextReceived := firstReceived - (gap + currentBlockLength)
        if 0 < currentBlockLength then
          visitAck (.onAckRange nextReceived (nextReceived + currentBlockLength) (remaining = 0))
        processAckBlocks ackBlockLength remaining nextReceived

/-- The loop over the time stamps after the first. The stamps themselves go to
the frame, which incremental processing drops. -/
def processIncrementalTimestamps : Nat → Framer Unit
  | 0 => pure ()
  | remaining + 1 => do
      let _ ← readUInt8 "Unable to read sequence delta in received packets."
      let _ ← readUFloat16 "Unable to read incremental time delta in received packets."
      processIncrementalTimestamps remaining

def processTimestampsInAckFrame (numReceivedPackets : Nat) : Framer Unit := do
  if 0 < numReceivedPackets then
    let _ ← readUInt8 "Unable to read sequence delta in received packets."
    let _ ← readUInt32 "Unable to read time delta in received packets."
    processIncrementalTimestamps (numReceivedPackets - 1)

/-- The part of `ProcessAckFrame` that follows the number of ack blocks. -/
def processAckRanges (ackBlockLength : QuicPacketNumberLength) (hasAckBlocks : Bool)
    (largestAcked numAckBlocks : Nat) : Framer Unit := do
  let firstBlockLength ←
    readBytesToUInt64 ackBlockLength.bytes "Unable to read first ack block length."
  if firstBlockLength = 0 ∧ (largestAcked ≠ 0 ∨ numAckBlocks ≠ 0) then
    fail s!"First block length is zero but ACK is not empty. largest acked is {largestAcked}, num ack blocks is {numAckBlocks}."
  else if largestAcked + 1 < firstBlockLength then
    fail s!"Underflow with first ack block length {firstBlockLength} largest acked is {largestAcked}."
  else do
    let firstReceived := largestAcked + 1 - firstBlockLength
    visitAck (.onAckRange firstReceived (largestAcked + 1) (!hasAckBlocks))
    processAckBlocks ackBlockLength numAckBlocks firstReceived
    let numReceivedPackets ← readUInt8 "Unable to read num received packets."
    processTimestampsInAckFrame numReceivedPackets

/-- `has_ack_blocks`, `ack_block_length` and `largest_acked_length` of a type byte. -/
def hasAckBlocks (frameType : Nat) : Bool :=
  extractBit frameType kQuicHasMultipleAckBlocksOffsetPre40

def ackBlockLength (frameType : Nat) : QuicPacketNumberLength :=
  readSequenceNumberLength
    (extractBits frameType kQuicSequenceNumberLengthNumBits kActBlockLengthOffset)

def largestAckedLength (frameType : Nat) : QuicPacketNumberLength :=
  readSequenceNumberLength
    (extractBits frameType kQuicSequenceNumberLengthNumBits kLargestAckedOffset)

/-- The delay that a frame reports: its largest value stands for an infinite one. -/
def ackDelayTime (kUFloat16MaxValue ackDelayTimeUs : Nat) : Option Nat :=
  if ackDelayTimeUs = kUFloat16MaxValue then none else some ackDelayTimeUs

/-- The number of blocks behind the first; it is absent when there are none. -/
def readNumAckBlocks (hasAckBlocks : Bool) : Framer Nat :=
  if hasAckBlocks then readUInt8 "Unable to read num of ack blocks." else pure 0

def processAckFrame (kUFloat16MaxValue frameType : Nat) : Framer Unit := do
  let largestAcked ←
    readBytesToUInt64 (largestAckedLength frameType).bytes "Unable to read largest acked."
  let ackDelayTimeUs ← readUFloat16 "Unable to read ack delay time."
  visitAck (.onAckFrameStart largestAcked (ackDelayTime kUFloat16MaxValue ackDelayTimeUs))
  let numAckBlocks ← readNumAckBlocks (hasAckBlocks frameType)
  processAckRanges (ackBlockLength frameType) (hasAckBlocks frameType) largestAcked numAckBlocks

def processStopWaitingFrame (header : QuicPacketHeader) : Framer Nat := do
  let leastUnackedDelta ← readBytesToUInt64 header.packetNumberLength.bytes
    "Unable to read least unacked delta."
  if header.packetNumber < leastUnackedDelta then fail "Invalid unacked delta."
  else pure (header.packetNumber - leastUnackedDelta)

def processRstStreamFrame (limits : ErrorLimits) : Framer VisitorCall := do
  let streamId ← readUInt32 "Unable to read stream_id."
  let byteOffset ← readUInt64 "Unable to read rst stream sent byte offset."
  let errorCode ← readUInt32 "Unable to read rst stream error code."
  pure (.onRstStreamFrame streamId byteOffset (min errorCode limits.quicStreamLastError))

def processConnectionCloseFrame (limits : ErrorLimits) : Framer VisitorCall := do
  let errorCode ← readUInt32 "Unable to read connection close error code."
  let errorDetails ← readStringPiece16 "Unable to read connection close error details."
  pure (.onConnectionCloseFrame (min errorCode limits.quicLastError) errorDetails)

def processGoAwayFrame (limits : ErrorLimits) : Framer VisitorCall := do
  let errorCode ← readUInt32 "Unable to read go away error code."
  let lastGoodStreamId ← readUInt32 "Unable to read last good stream id."
  let reasonPhrase ← readStringPiece16 "Unable to read goaway reason."
  pure (.onGoAwayFrame (min errorCode limits.quicLastError) lastGoodStreamId reasonPhrase)

def processWindowUpdateFrame : Framer VisitorCall := do
  let streamId ← readUInt32 "Unable to read stream_id."
  let byteOffset ← readUInt64 "Unable to read window byte_offset."
  pure (.onWindowUpdateFrame streamId byteOffset)

def processBlockedFrame : Framer VisitorCall := do
  let streamId ← readUInt32 "Unable to read stream_id."
  pure (.onBlockedFrame streamId)

/-- The loop over zero bytes; `bound` is the number of bytes left. -/
def skipPadding : (bound numPaddingBytes : Nat) → Framer Nat
  | 0, numPaddingBytes => pure numPaddingBytes
  | bound + 1, numPaddingBytes => do
      if ← isDoneReading then pure numPaddingBytes
      else if (← peekByte) = 0 then do
        let _ ← tryReadBytesToUInt64 1
        skipPadding bound (numPaddingBytes + 1)
      else pure numPaddingBytes

/-- The type byte has been read. -/
def processPaddingFrame : Framer Nat := do
  let remaining ← bytesRemaining
  skipPadding remaining 1

end MyQuicFramer

/-! ### Frame data -/

/-- A framer function that raises an error where it fails. -/
abbrev RaisingFramer (α : Type) :=
  Interaction FramerQuery FramerQuery.Answer (QuicErrorCode × String) α

namespace MyQuicFramer

open Framer Interaction

/-- `RaiseError` on the failure of a frame. -/
def raiseError {α : Type} (code : QuicErrorCode) (program : Framer α) : RaisingFramer α :=
  program.rescue fun detail => do
    onError code
    fail (code, detail)

def isStreamFrame (frameType : Nat) : Bool :=
  frameType &&& kQuicFrameTypeStreamMaskPre40 ≠ 0 ∨
    frameType &&& kQuicFrameTypeStreamMask = kQuicFrameTypeStreamMask

def isAckFrame (frameType : Nat) : Bool :=
  frameType &&& kQuicFrameTypeAckMaskPre40 ≠ 0 ∨
    frameType &&& kQuicFrameTypeSpecialMask = kQuicFrameTypeAckMask

/-- Read a frame, then report it; the visitor says whether to go on. -/
def report (code : QuicErrorCode) (program : Framer VisitorCall) : RaisingFramer Bool := do
  let call ← raiseError code program
  visit call

/-- One frame behind its type byte. The result says whether to go on. -/
def processFrame (kUFloat16MaxValue : Nat) (limits : ErrorLimits) (header : QuicPacketHeader)
    (frameType : Nat) : RaisingFramer Bool :=
  if frameType &&& kQuicFrameTypeSpecialMask ≠ 0 then
    if isStreamFrame frameType then
      report .invalidStreamData (.onStreamFrame <$> processStreamFrame frameType)
    else if isAckFrame frameType then do
      raiseError .invalidAckData (processAckFrame kUFloat16MaxValue frameType)
      pure true
    else raiseError .invalidFrameData (fail "Illegal frame type.")
  else if frameType = paddingFrame then
    report .invalidFrameData (.onPaddingFrame <$> processPaddingFrame)
  else if frameType = rstStreamFrame then
    report .invalidRstStreamData (processRstStreamFrame limits)
  else if frameType = connectionCloseFrame then
    report .invalidConnectionCloseData (processConnectionCloseFrame limits)
  else if frameType = goAwayFrame then
    report .invalidGoawayData (processGoAwayFrame limits)
  else if frameType = windowUpdateFrame then
    report .invalidWindowUpdateData processWindowUpdateFrame
  else if frameType = blockedFrame then
    report .invalidBlockedData processBlockedFrame
  else if frameType = stopWaitingFrame then
    report .invalidStopWaitingData (.onStopWaitingFrame <$> processStopWaitingFrame header)
  else if frameType = pingFrame then visit .onPingFrame
  else raiseError .invalidFrameData (fail "Illegal frame type.")

/-- The loop over frames. Every frame takes its type byte from the reader, so
`bound`, the number of bytes left, is enough. -/
def processFrames (kUFloat16MaxValue : Nat) (limits : ErrorLimits) (header : QuicPacketHeader) :
    (bound : Nat) → RaisingFramer Unit
  | 0 => pure ()
  | bound + 1 => do
      if ← isDoneReading then pure ()
      else do
        let frameType ← raiseError .invalidFrameData (readUInt8 "Unable to read frame type.")
        if ← processFrame kUFloat16MaxValue limits header frameType then
          processFrames kUFloat16MaxValue limits header bound

def processFrameData (kUFloat16MaxValue : Nat) (limits : ErrorLimits) (header : QuicPacketHeader) :
    RaisingFramer Unit := do
  if ← isDoneReading then raiseError .missingPayload (fail "Packet has no frames.")
  else do
    let remaining ← bytesRemaining
    processFrames kUFloat16MaxValue limits header remaining

end MyQuicFramer

end StupidSimple.Quic
