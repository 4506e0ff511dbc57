import StupidSimple.Library.VarInt
import StupidSimple.Quic.FrameEncode

/-!
Owns the frames of the IETF format in `MyQuicFramer`: for each kind a function that appends
it, its type byte included, and one that reads it behind its type byte. Nothing in the framer
chooses among these functions. Stream data comes from the frame, not from a data producer.

Integers of variable length and the values of the enumerations are not part of the
repository. What a frame holds after a read that has failed is left out.
-/

namespace StupidSimple.Quic

open StupidSimple.Library

def kIetfAckTimestampShift : Nat := 3

/-- What the functions take from the library: integers of 62 bits, and as stream ids those of
32 bits, `QuicIetfFrameType`, the flags in the type of a stream frame and the size of a path
frame. -/
structure IetfEnv where
  io : QuicData
  readVarInt62 : List UInt8 → Option (Nat × List UInt8)
  readVarIntStreamId : List UInt8 → Option (Nat × List UInt8)
  writeVarInt62 : Nat → Option (List UInt8)
  ietfRstStream : UInt8
  ietfConnectionClose : UInt8
  ietfApplicationClose : UInt8
  ietfMaxData : UInt8
  ietfMaxStreamData : UInt8
  ietfMaxStreamId : UInt8
  ietfBlocked : UInt8
  ietfStreamBlocked : UInt8
  ietfStreamIdBlocked : UInt8
  ietfStopSending : UInt8
  ietfAck : UInt8
  ietfPathChallenge : UInt8
  ietfPathResponse : UInt8
  ietfStream : UInt8
  ietfStreamFrameFinBit : UInt8
  ietfStreamFrameLenBit : UInt8
  ietfStreamFrameOffBit : UInt8
  kQuicPathFrameBufferSize : Nat
  writeVarInt62_some : ∀ value, value < 2 ^ 62 → ∃ bytes, writeVarInt62 value = some bytes
  readVarInt62_written : ∀ value bytes rest, writeVarInt62 value = some bytes →
    readVarInt62 (bytes ++ rest) = some (value, rest)
  readVarIntStreamId_eq : ∀ bytes value rest, readVarInt62 bytes = some (value, rest) →
    value < 2 ^ 32 → readVarIntStreamId bytes = some (value, rest)
  fin_ne_zero : ietfStreamFrameFinBit ≠ 0
  len_ne_zero : ietfStreamFrameLenBit ≠ 0
  off_ne_zero : ietfStreamFrameOffBit ≠ 0
  fin_len : ietfStreamFrameFinBit &&& ietfStreamFrameLenBit = 0
  fin_off : ietfStreamFrameFinBit &&& ietfStreamFrameOffBit = 0
  len_off : ietfStreamFrameLenBit &&& ietfStreamFrameOffBit = 0
  stream_fin : ietfStream &&& ietfStreamFrameFinBit = 0
  stream_len : ietfStream &&& ietfStreamFrameLenBit = 0
  stream_off : ietfStream &&& ietfStreamFrameOffBit = 0

/-! ### Writing -/

/-- A function that returns false where it fails. `detailed_error_` is `none` where it stays
as it was. -/
abbrev IetfAppend := QuicDataWriter → Except (Option String) QuicDataWriter

/-- Some writes, each with the detailed error of its failure. -/
def appendFields : List (String × (QuicDataWriter → Option QuicDataWriter)) → IetfAppend
  | [], writer => .ok writer
  | (detail, write) :: rest, writer =>
      match write writer with
      | some after => appendFields rest after
      | none => .error (some detail)

section Writing

variable (env : IetfEnv)

def writeVarInt62 (value : Nat) (writer : QuicDataWriter) : Option QuicDataWriter := do
  let bytes ← env.writeVarInt62 value
  writer.writeBytes bytes

/-- `WriteUInt8` of a type byte. -/
def writeType (frameType : UInt8) : QuicDataWriter → Option QuicDataWriter :=
  QuicDataWriter.writeBytes [frameType]

/-- The type byte of a stream frame. -/
def ietfStreamType (fin hasOffset hasLength : Bool) : UInt8 :=
  env.ietfStream ||| (if fin then env.ietfStreamFrameFinBit else 0) |||
    (if hasOffset then env.ietfStreamFrameOffBit else 0) |||
    (if hasLength then env.ietfStreamFrameLenBit else 0)

def appendIetfStreamFrame (frame : QuicStreamFrame) (lastFrameInPacket : Bool) : IetfAppend :=
  let frameType := ietfStreamType env frame.fin (frame.offset ≠ 0) (!lastFrameInPacket)
  appendFields <|
    [("Unable to write frame-type.", writeType frameType),
      ("Writing stream id failed.", writeVarInt62 env frame.streamId)] ++
    (if frameType &&& env.ietfStreamFrameOffBit ≠ 0 then
      [("Writing data offset failed.", writeVarInt62 env frame.offset)] else []) ++
    (if frameType &&& env.ietfStreamFrameLenBit ≠ 0 then
      [("Writing data length failed.", writeVarInt62 env frame.dataLength)] else []) ++
    [("Writing frame data failed.",
      QuicDataWriter.writeBytes (frame.data.take frame.dataLength))]

/-- The loop over the intervals behind the top one. -/
def appendIetfAckBlocks : List Interval → (previousAckEnd : Nat) → IetfAppend
  | [], _, writer => .ok writer
  | interval :: rest, previousAckEnd, writer => do
      let gap := previousAckEnd - interval.max - 1
      let writer ← appendFields
        [("No room for gap block in ack frame", writeVarInt62 env gap)] writer
      if interval.length = 0 then .error none
      else do
        let writer ← appendFields [("No room for nth ack block in ack frame",
          writeVarInt62 env (interval.length - 1))] writer
        appendIetfAckBlocks rest interval.min writer

/-- `AppendIetfAckFrame`; it fails without a detailed error where there is nothing to ack and
where the delay is infinite. -/
def appendIetfAckFrame (frame : QuicAckFrame) : IetfAppend := fun writer => do
  let writer ← appendFields
    [("No room for frame-type", writeType env.ietfAck),
      ("No room for largest-acked in ack frame", writeVarInt62 env frame.largestAcked)] writer
  match frame.ackDelayTime with
  | none => .error none
  | some ackDelayTimeUs => do
      let writer ← appendFields [("No room for ack-delay in ack frame",
        writeVarInt62 env (ackDelayTimeUs >>> kIetfAckTimestampShift))] writer
      match frame.packets.descending with
      | [] => .error none
      | top :: rest => do
          let writer ← appendFields
            [("No room for ack block count in ack frame", writeVarInt62 env rest.length)] writer
          if top.length = 0 then .error none
          else do
            let writer ← appendFields [("No room for first ack block in ack frame",
              writeVarInt62 env (top.length - 1))] writer
            appendIetfAckBlocks env rest top.min writer

/-- `AppendIetfCloseFrame`. -/
def appendIetfCloseFrame (frameType : UInt8) (code : Nat) (phrase : List UInt8) : IetfAppend :=
  appendFields <|
    [("Can not write close frame type byte", writeType frameType),
      ("Can not write close frame code", writeUInt16 env.io code),
      ("Can not write phrase-length", writeVarInt62 env phrase.length)] ++
    (if phrase = [] then [] else [("Can not write phrase", QuicDataWriter.writeBytes phrase)])

def appendIetfConnectionCloseFrame (errorCode : Nat) (errorDetails : List UInt8) : IetfAppend :=
  appendIetfCloseFrame env env.ietfConnectionClose (errorCode % 2 ^ 16) errorDetails

def appendIetfApplicationCloseFrame (errorCode : Nat) (errorDetails : List UInt8) : IetfAppend :=
  appendIetfCloseFrame env env.ietfApplicationClose (errorCode % 2 ^ 16) errorDetails

/-- `AppendIetfPaddingFrame`; `AppendPaddingFrame` fails without a detailed error. -/
def appendIetfPaddingFrame (numPaddingBytes : Int) : IetfAppend := fun writer => do
  let writer ← appendFields [("Can not write close frame type byte", writeType 0)] writer
  match appendPaddingFrame numPaddingBytes writer with
  | some after => .ok after
  | none => .error none

def appendIetfPathChallengeFrame (dataBuffer : List UInt8) : IetfAppend :=
  appendFields
    [("Can not write Path Challenge frame type byte", writeType env.ietfPathChallenge),
      ("Writing Path Challenge data failed.", QuicDataWriter.writeBytes dataBuffer)]

def appendIetfPathResponseFrame (dataBuffer : List UInt8) : IetfAppend :=
  appendFields
    [("Can not write Path Response frame type byte", writeType env.ietfPathResponse),
      ("Writing Path Response data failed.", QuicDataWriter.writeBytes dataBuffer)]

def appendIetfResetStreamFrame (streamId byteOffset errorCode : Nat) : IetfAppend :=
  appendFields
    [("Unable to write reset-stream frame-type.", writeType env.ietfRstStream),
      ("Writing reset-stream stream id failed.", writeVarInt62 env streamId),
      ("Writing reset-stream error code failed.", writeUInt16 env.io (errorCode % 2 ^ 16)),
      ("Writing reset-stream final-offset failed.", writeVarInt62 env byteOffset)]

def appendIetfStopSendingFrame (streamId applicationErrorCode : Nat) : IetfAppend :=
  appendFields
    [("Can not write stop sending frame type byte", writeType env.ietfStopSending),
      ("Can not write stop sending stream id", writeVarInt62 env streamId),
      ("Can not write application error code", writeUInt16 env.io applicationErrorCode)]

def appendIetfMaxDataFrame (byteOffset : Nat) : IetfAppend :=
  appendFields
    [("Can not write IETF_MAX_DATA frame type byte", writeType env.ietfMaxData),
      ("Can not write IETF_MAX_DATA byte-offset", writeVarInt62 env byteOffset)]

def appendIetfMaxStreamDataFrame (streamId byteOffset : Nat) : IetfAppend :=
  appendFields
    [("Can not write IETF_MAX_STREAM_DATA frame type byte", writeType env.ietfMaxStreamData),
      ("Can not write IETF_MAX_STREAM_DATA stream id", writeVarInt62 env streamId),
      ("Can not write IETF_MAX_STREAM_DATA byte-offset", writeVarInt62 env byteOffset)]

def appendIetfMaxStreamIdFrame (maxStreamId : Nat) : IetfAppend :=
  appendFields
    [("Can not write IETF_MAX_STREAM_ID frame type byte", writeType env.ietfMaxStreamId),
      ("Can not write IETF_MAX_STREAM_ID stream id", writeVarInt62 env maxStreamId)]

def appendIetfBlockedFrame (offset : Nat) : IetfAppend :=
  appendFields
    [("Can not write IETF_BLOCKED frame type byte", writeType env.ietfBlocked),
      ("Can not write IETF_BLOCKED offset", writeVarInt62 env offset)]

def appendIetfStreamBlockedFrame (streamId byteOffset : Nat) : IetfAppend :=
  appendFields
    [("Can not write IETF_STREAM_BLOCKED frame type byte", writeType env.ietfStreamBlocked),
      ("Can not write IETF_STREAM_BLOCKED stream id", writeVarInt62 env streamId),
      ("Can not write IETF_STREAM_BLOCKED offset", writeVarInt62 env byteOffset)]

def appendIetfStreamIdBlockedFrame (streamId : Nat) : IetfAppend :=
  appendFields
    [("Can not write IETF_STREAM_ID_BLOCKED frame type byte", writeType env.ietfStreamIdBlocked),
      ("Can not write IETF_STREAM_ID_BLOCKED stream id", writeVarInt62 env streamId)]

end Writing

/-! ### Reading -/

/-- A function that returns false, with a detailed error, where it fails. -/
abbrev IetfReader := StateT (List UInt8) (Except String)

/-- A read, or the error of a failed one. -/
def readOr {α : Type} (detail : String) (read : List UInt8 → Option (α × List UInt8)) :
    IetfReader α := fun bytes =>
  match read bytes with
  | some result => .ok result
  | none => .error detail

/-- A difference of `uint64_t`. -/
def minus64 (left right : Nat) : Nat := (left + 2 ^ 64 - right % 2 ^ 64) % 2 ^ 64

/-- What `ProcessIetfAckFrame` leaves in a frame, with the calls of `AddRange` in order. An
infinite delay is `none`. -/
structure IetfAck where
  largestAcked : Nat
  ackDelayTime : Option Nat
  ranges : List (Nat × Nat)
deriving DecidableEq, Repr

section Reading

variable (env : IetfEnv)

def readVarInt62 (detail : String) : IetfReader Nat := readOr detail env.readVarInt62

def readVarIntStreamId (detail : String) : IetfReader Nat := readOr detail env.readVarIntStreamId

def readUInt16Ietf (detail : String) : IetfReader Nat :=
  readOr detail (env.io.readBytesToUInt64 2)

def readBytes (length : Nat) (detail : String) : IetfReader (List UInt8) :=
  readOr detail (QuicData.readStringPiece length)

def readStreamOffset (hasOffset : Bool) : IetfReader Nat :=
  if hasOffset then readVarInt62 env "Unable to read stream data offset." else pure 0

/-- The length of the data of a stream frame: as it is written, or all that is left. -/
def readStreamLength (hasLength : Bool) : IetfReader Nat :=
  if hasLength then do
    let length ← readVarInt62 env "Unable to read stream data length."
    if 0xffff < length then throw "Stream data length is too large." else pure length
  else do
    let remaining ← get
    pure (remaining.length % 2 ^ 16)

def processIetfStreamFrame (frameType : UInt8) : IetfReader QuicStreamFrame := do
  let streamId ← readVarIntStreamId env "Unable to read stream_id."
  let offset ← readStreamOffset env (frameType &&& env.ietfStreamFrameOffBit ≠ 0)
  let dataLength ← readStreamLength env (frameType &&& env.ietfStreamFrameLenBit ≠ 0)
  let fin : Bool := frameType &&& env.ietfStreamFrameFinBit ≠ 0
  let data ← readBytes dataLength "Unable to read frame data."
  pure ⟨streamId, fin, offset, data, data.length % 2 ^ 16⟩

/-- The loop over the blocks behind the first. -/
def processIetfAckBlocks : (ackBlockCount blockLow blockHigh : Nat) → IetfReader (List (Nat × Nat))
  | 0, _, _ => pure []
  | ackBlockCount + 1, blockLow, blockHigh => do
      let gapBlockValue ← readVarInt62 env "Unable to read gap block value."
      let ackBlockValue ← readVarInt62 env "Unable to read gap block value."
      let nextHigh := minus64 blockHigh (ackBlockValue + gapBlockValue + 2)
      let nextLow := minus64 blockLow (ackBlockValue + gapBlockValue + 2)
      let ranges ← processIetfAckBlocks ackBlockCount nextLow nextHigh
      pure ((nextLow, nextHigh) :: ranges)

/-- The delay of a frame; one value stands for an infinite one. -/
def ietfAckDelayTime (written : Nat) : Option Nat :=
  let ackDelayTimeInUs := (written <<< kIetfAckTimestampShift) % 2 ^ 64
  if ackDelayTimeInUs = 0x3ffffffffff8 then none else some ackDelayTimeInUs

def processIetfAckFrame : IetfReader IetfAck := do
  let largestAcked ← readVarInt62 env "Unable to read largest acked."
  let ackDelay ← readVarInt62 env "Unable to read ack-delay-time."
  let ackBlockCount ← readVarInt62 env "Unable to ack block count."
  let ackBlockValue ← readVarInt62 env "Unable to read first ack block value."
  let blockHigh := (largestAcked + 1) % 2 ^ 64
  let blockLow := minus64 largestAcked ackBlockValue
  let ranges ← processIetfAckBlocks env ackBlockCount blockLow blockHigh
  pure ⟨largestAcked, ietfAckDelayTime ackDelay, (blockLow, blockHigh) :: ranges⟩

/-- `ProcessIetfCloseFrame`, which reads both kinds. -/
def processIetfCloseFrame : IetfReader (Nat × List UInt8) := do
  let code ← readUInt16Ietf env "Unable to read close frame code."
  let phraseLength ← readVarInt62 env "Unable to read phrase length"
  let phrase ← readBytes phraseLength "Can not read extended close information phrase"
  pure (code, phrase)

/-- `ProcessIetfPaddingFrame`: the type byte and the zeros behind it. -/
def processIetfPaddingFrame : IetfReader Int := do
  let bytes ← get
  set (bytes.dropWhile (· = 0))
  pure (1 + (bytes.takeWhile (· = 0)).length)

def processIetfPathChallengeFrame : IetfReader (List UInt8) :=
  readBytes env.kQuicPathFrameBufferSize "Can not read path Challenge data"

def processIetfPathResponseFrame : IetfReader (List UInt8) :=
  readBytes env.kQuicPathFrameBufferSize "Can not read path Response data"

/-- The stream id, the offset and the error code. -/
def processIetfResetStreamFrame : IetfReader (Nat × Nat × Nat) := do
  let streamId ← readVarIntStreamId env "Reading reset-stream stream id failed."
  let errorCode ← readUInt16Ietf env "Reading reset-stream error code failed."
  let byteOffset ← readVarInt62 env "Reading reset-stream final-offset failed."
  pure (streamId, byteOffset, errorCode)

def processIetfStopSendingFrame : IetfReader (Nat × Nat) := do
  let streamId ← readVarIntStreamId env "Unable to read stream id"
  let applicationErrorCode ← readUInt16Ietf env "Unable to read application error code."
  pure (streamId, applicationErrorCode)

/-- `ProcessIetfMaxDataFrame`; the stream id of the frame is zero. -/
def processIetfMaxDataFrame : IetfReader (Nat × Nat) := do
  let byteOffset ← readVarInt62 env "Can not read IETF_MAX_DATA byte-offset"
  pure (0, byteOffset)

def processIetfMaxStreamDataFrame : IetfReader (Nat × Nat) := do
  let streamId ← readVarIntStreamId env "Can not read IETF_MAX_STREAM_DATA stream id"
  let byteOffset ← readVarInt62 env "Can not read IETF_MAX_STREAM_DATA byte-count"
  pure (streamId, byteOffset)

def processIetfMaxStreamIdFrame : IetfReader Nat :=
  readVarIntStreamId env "Can not read IETF_MAX_STREAM_ID stream id"

def processIetfBlockedFrame : IetfReader Nat :=
  readVarInt62 env "Can not read IETF_BLOCKED offset"

def processIetfStreamBlockedFrame : IetfReader (Nat × Nat) := do
  let streamId ← readVarIntStreamId env "Can not read IETF_STREAM_BLOCKED stream id"
  let byteOffset ← readVarInt62 env "Can not read IETF_STREAM_BLOCKED offset"
  pure (streamId, byteOffset)

def processIetfStreamIdBlockedFrame : IetfReader Nat :=
  readVarIntStreamId env "Can not read IETF_STREAM_ID_BLOCKED stream id"

end Reading

end StupidSimple.Quic
