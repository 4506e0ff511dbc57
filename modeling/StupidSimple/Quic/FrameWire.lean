import StupidSimple.Quic.AckRoundTrip
import StupidSimple.Quic.FrameEncode
import StupidSimple.Quic.Writing

/-!
Owns the bytes of a frame: `appendFrame` writes them as a whole, or fails when they do not
fit. Only padding and acks depend on the room that is left.
-/

namespace StupidSimple.Quic

open StupidSimple.Library

/-! ### Sizes of fields -/

/-- The size is the least one that holds the value, from the first size on. -/
theorem shiftedSize_eq_some {rounds : Nat} :
    ∀ {size value result : Nat}, shiftedSize rounds size value = some result →
      size ≤ result ∧ result < size + rounds ∧ value < 256 ^ (result - size + 1) := by
  induction rounds with
  | zero =>
      intro size value result found
      cases found
  | succ rounds inductionHypothesis =>
      intro size value result found
      rw [shiftedSize, Nat.shiftRight_eq_div_pow] at found
      split_ifs at found with small
      · obtain rfl := Option.some.inj found
        have bound : value < 256 := by simpa [Nat.div_eq_zero_iff] using small
        exact ⟨Nat.le_refl _, by omega, by simpa using bound⟩
      · have ⟨above, below, fits⟩ := inductionHypothesis found
        refine ⟨by omega, by omega, ?_⟩
        have split : result - size + 1 = result - (size + 1) + 1 + 1 := by omega
        rw [split, Nat.pow_succ]
        exact (Nat.div_lt_iff_lt_mul (by decide)).mp fits

theorem shiftedSize_eq_none {rounds : Nat} :
    ∀ {size value : Nat}, shiftedSize rounds size value = none → 0 < rounds →
      256 ^ rounds ≤ value := by
  induction rounds with
  | zero =>
      intro size value _ positive
      cases positive
  | succ rounds inductionHypothesis =>
      intro size value failed _
      rw [shiftedSize, Nat.shiftRight_eq_div_pow] at failed
      split_ifs at failed with small
      rcases Nat.eq_zero_or_pos rounds with none | positive
      · subst none
        have bound : ¬value < 256 := by simpa [Nat.div_eq_zero_iff] using small
        exact Nat.le_of_not_lt bound
      · rw [Nat.pow_succ]
        exact (Nat.le_div_iff_mul_le (by decide)).mp (inductionHypothesis failed positive)

theorem getStreamIdSize_spec {streamId : Nat} (narrow : streamId < 2 ^ 32) :
    1 ≤ getStreamIdSize streamId ∧ getStreamIdSize streamId ≤ 4 ∧
      streamId < 256 ^ getStreamIdSize streamId := by
  unfold getStreamIdSize
  cases found : shiftedSize 4 1 streamId with
  | none => exact absurd (shiftedSize_eq_none found (by decide)) (Nat.not_le_of_lt narrow)
  | some size =>
      have ⟨above, below, fits⟩ := shiftedSize_eq_some found
      rw [Option.getD_some]
      refine ⟨above, by omega, ?_⟩
      rwa [Nat.sub_add_cancel above] at fits

theorem getStreamOffsetSize_spec {offset : Nat} (narrow : offset < 2 ^ 64) :
    getStreamOffsetSize offset ≠ 1 ∧ getStreamOffsetSize offset ≤ 8 ∧
      offset < 256 ^ getStreamOffsetSize offset := by
  unfold getStreamOffsetSize
  split_ifs with zero
  · exact ⟨by decide, by decide, by rw [zero]; decide⟩
  · rw [Nat.shiftRight_eq_div_pow]
    cases found : shiftedSize 7 2 (offset / 2 ^ 8) with
    | none =>
        have large := shiftedSize_eq_none found (by decide)
        omega
    | some size =>
        have ⟨above, below, fits⟩ := shiftedSize_eq_some found
        rw [Option.getD_some]
        refine ⟨by omega, by omega, ?_⟩
        have split : size = size - 2 + 1 + 1 := by omega
        rw [split, Nat.pow_succ]
        exact (Nat.div_lt_iff_lt_mul (by decide)).mp fits

theorem length_truncateErrorString (error : List UInt8) :
    (truncateErrorString error).length < 2 ^ 16 := by
  unfold truncateErrorString kMaxErrorStringLength
  split_ifs with short
  · omega
  · rw [List.length_take]
    omega

/-! ### Bytes of a frame -/

/-- The bytes of a padding frame, its type byte among them. -/
def paddingSize (room : Nat) (numPaddingBytes : Int) : Nat :=
  if numPaddingBytes < 0 then max room 1 else numPaddingBytes.toNat

/-- The blocks that some room takes behind the other fields of an ack frame. -/
def ackBlockRoom (room : Nat) (frame : QuicAckFrame) : Nat :=
  let ackBlockLength := getMinSeqLength (getAckFrameInfo frame).maxBlockLength
  let available := room - ackBlockLength.bytes -
    getMinAckFrameSize (getMinSeqLength frame.largestAcked) -
    (if (getAckFrameInfo frame).numAckBlocks ≠ 0 then kNumberOfAckBlocksSize else 0)
  available / (ackBlockLength.bytes + 1)

/-- The number of blocks that an ack frame gets. -/
def ackBlockCount (room : Nat) (frame : QuicAckFrame) : Nat :=
  min (min (getAckFrameInfo frame).numAckBlocks (ackBlockRoom room frame)) maxUInt8

/-- The blocks below the top interval. -/
def blocksBelowTop : List Interval → List AckBlock
  | [] => []
  | top :: rest => gapBlocks top.min rest

section Wire

variable (io : QuicData)

/-- The fields of an ack frame that has `count` blocks. -/
def ackFieldsWire (count : Nat) (frame : QuicAckFrame) : List UInt8 :=
  let largestAckedLength := getMinSeqLength frame.largestAcked
  let ackBlockLength := getMinSeqLength (getAckFrameInfo frame).maxBlockLength
  BigEndian.encode largestAckedLength.bytes frame.largestAcked ++
    (io.uFloat16Bytes (frame.ackDelayTime.getD io.kUFloat16MaxValue) ++
      ((if 0 < count then BigEndian.encode 1 count else []) ++
        (BigEndian.encode ackBlockLength.bytes (getAckFrameInfo frame).firstBlockLength ++
          (((blocksBelowTop frame.packets.descending).take count).flatMap
            (AckBlock.wire ackBlockLength) ++ BigEndian.encode 1 0))))

def ackFrameType (frame : QuicAckFrame) : Nat :=
  ackTypeByte ((getAckFrameInfo frame).numAckBlocks ≠ 0) (getMinSeqLength frame.largestAcked)
    (getMinSeqLength (getAckFrameInfo frame).maxBlockLength)

def textWire (text : List UInt8) : List UInt8 := BigEndian.encode 2 text.length ++ text

def streamWire (noStreamFrameLength : Bool) (frame : QuicStreamFrame) : List UInt8 :=
  BigEndian.encode (getStreamIdSize frame.streamId) frame.streamId ++
    (BigEndian.encode (getStreamOffsetSize frame.offset) frame.offset ++
      ((if noStreamFrameLength then [] else BigEndian.encode 2 frame.dataLength) ++
        frame.data.take frame.dataLength))

variable (header : QuicPacketHeader)

/-- The type byte of a frame, and the bytes behind it. -/
def frameWire (room : Nat) (noStreamFrameLength : Bool) : QuicFrame → Nat × List UInt8
  | .padding numPaddingBytes =>
      (paddingFrame, List.replicate (paddingSize room numPaddingBytes - 1) 0)
  | .rstStream streamId byteOffset errorCode =>
      (rstStreamFrame, BigEndian.encode 4 streamId ++
        (BigEndian.encode 8 byteOffset ++ BigEndian.encode 4 errorCode))
  | .connectionClose errorCode errorDetails =>
      (connectionCloseFrame, BigEndian.encode 4 errorCode ++
        textWire (truncateErrorString errorDetails))
  | .goAway errorCode lastGoodStreamId reasonPhrase =>
      (goAwayFrame, BigEndian.encode 4 errorCode ++ (BigEndian.encode 4 lastGoodStreamId ++
        textWire (truncateErrorString reasonPhrase)))
  | .windowUpdate streamId byteOffset =>
      (windowUpdateFrame, BigEndian.encode 4 streamId ++ BigEndian.encode 8 byteOffset)
  | .blocked streamId => (blockedFrame, BigEndian.encode 4 streamId)
  | .stopWaiting leastUnacked =>
      (stopWaitingFrame, BigEndian.encode header.packetNumberLength.bytes
        (header.packetNumber - leastUnacked))
  | .ping | .mtuDiscovery => (pingFrame, [])
  | .stream frame =>
      (streamTypeByte frame noStreamFrameLength, streamWire noStreamFrameLength frame)
  | .ack frame => (ackFrameType frame, ackFieldsWire io (ackBlockCount room frame) frame)

/-- All bytes of a frame. -/
def frameBytes (room : Nat) (noStreamFrameLength : Bool) (frame : QuicFrame) : List UInt8 :=
  BigEndian.encode 1 (frameWire io header room noStreamFrameLength frame).1 ++
    (frameWire io header room noStreamFrameLength frame).2

end Wire

/-- The values of a frame are within its fields. A stop waiting frame has no number of eight
bytes, for which the source shifts by the width of the type. -/
def QuicFrame.WellFormed (header : QuicPacketHeader) : QuicFrame → Prop
  | .padding numPaddingBytes =>
      numPaddingBytes = -1 ∨ (0 < numPaddingBytes ∧ numPaddingBytes < 2 ^ 31)
  | .rstStream streamId byteOffset errorCode =>
      streamId < 2 ^ 32 ∧ byteOffset < 2 ^ 64 ∧ errorCode < 2 ^ 32
  | .connectionClose errorCode _ => errorCode < 2 ^ 32
  | .goAway errorCode lastGoodStreamId _ => errorCode < 2 ^ 32 ∧ lastGoodStreamId < 2 ^ 32
  | .windowUpdate streamId byteOffset => streamId < 2 ^ 32 ∧ byteOffset < 2 ^ 64
  | .blocked streamId => streamId < 2 ^ 32
  | .stopWaiting leastUnacked => leastUnacked ≤ header.packetNumber ∧
      header.packetNumber < 2 ^ 64 ∧ header.packetNumberLength ≠ .packet8Byte ∧
      header.packetNumber - leastUnacked < 256 ^ header.packetNumberLength.bytes
  | .ping | .mtuDiscovery => True
  | .stream frame => frame.streamId < 2 ^ 32 ∧ frame.offset < 2 ^ 64 ∧
      frame.dataLength = frame.data.length ∧ frame.data.length < 2 ^ 16
  | .ack frame => frame.WellFormed

theorem padding_ne_zero {header : QuicPacketHeader} {numPaddingBytes : Int}
    (wellFormed : (QuicFrame.padding numPaddingBytes).WellFormed header) : numPaddingBytes ≠ 0 := by
  rcases wellFormed with toEnd | ⟨positive, _⟩
  · rw [toEnd]
    decide
  · exact positive.ne'

/-! ### Writing a frame -/

section Writing

variable (io : QuicData)

theorem writes_writeUInt16 (value : Nat) :
    Writes (writeUInt16 io value) (BigEndian.encode 2 value) :=
  writes_bytesToUInt64 io (by decide) value

theorem writes_writeUInt32 (value : Nat) :
    Writes (writeUInt32 io value) (BigEndian.encode 4 value) :=
  writes_bytesToUInt64 io (by decide) value

theorem writes_writeUInt64 (value : Nat) :
    Writes (writeUInt64 io value) (BigEndian.encode 8 value) :=
  writes_bytesToUInt64 io (by decide) value

theorem writes_writeStringPiece16 {text : List UInt8} (short : text.length < 2 ^ 16) :
    Writes (writeStringPiece16 io text) (textWire text) := by
  intro writer sound
  unfold writeStringPiece16
  rw [if_pos short]
  exact (writes_writeUInt16 io text.length).bind (writes_writeBytes text) writer sound

theorem writes_appendStreamId {streamId : Nat} (narrow : streamId < 2 ^ 32) :
    Writes (appendStreamId io (getStreamIdSize streamId) streamId)
      (BigEndian.encode (getStreamIdSize streamId) streamId) := by
  have ⟨positive, short, _⟩ := getStreamIdSize_spec narrow
  intro writer sound
  unfold appendStreamId
  rw [if_neg (by omega)]
  exact writes_bytesToUInt64 io (by omega) streamId writer sound

theorem writes_appendStreamOffset {offset : Nat} (narrow : offset < 2 ^ 64) :
    Writes (appendStreamOffset io (getStreamOffsetSize offset) offset)
      (BigEndian.encode (getStreamOffsetSize offset) offset) := by
  have ⟨notOne, short, _⟩ := getStreamOffsetSize_spec narrow
  intro writer sound
  unfold appendStreamOffset
  rw [if_neg (by omega)]
  exact writes_bytesToUInt64 io short offset writer sound

theorem writes_appendDataLength (noStreamFrameLength : Bool) {dataLength : Nat}
    (short : dataLength < 2 ^ 16) :
    Writes (appendDataLength io noStreamFrameLength dataLength)
      (if noStreamFrameLength then [] else BigEndian.encode 2 dataLength) := by
  intro writer sound
  unfold appendDataLength
  split_ifs with last long
  · exact writes_nothing writer sound
  · omega
  · exact writes_writeUInt16 io dataLength writer sound

theorem writes_appendStreamFrame {frame : QuicStreamFrame} (header : QuicPacketHeader)
    (wellFormed : (QuicFrame.stream frame).WellFormed header) (noStreamFrameLength : Bool) :
    Writes (appendStreamFrame io frame noStreamFrameLength)
      (streamWire noStreamFrameLength frame) := by
  have ⟨idNarrow, offsetNarrow, sameLength, short⟩ := wellFormed
  apply (writes_appendStreamId io idNarrow).bind
  apply (writes_appendStreamOffset io offsetNarrow).bind
  apply (writes_appendDataLength io noStreamFrameLength (sameLength ▸ short)).bind
  exact writes_writeBytes _

theorem writes_appendStopWaitingFrame {header : QuicPacketHeader} {leastUnacked : Nat}
    (wellFormed : (QuicFrame.stopWaiting leastUnacked).WellFormed header) :
    Writes (appendStopWaitingFrame io header leastUnacked)
      (BigEndian.encode header.packetNumberLength.bytes (header.packetNumber - leastUnacked)) := by
  have ⟨below, narrow, _, fits⟩ := wellFormed
  have delta : (header.packetNumber + 2 ^ 64 - leastUnacked) % 2 ^ 64 =
      header.packetNumber - leastUnacked := by omega
  have shifted : (header.packetNumber - leastUnacked) >>>
      (header.packetNumberLength.bytes * 8) = 0 := by
    rw [Nat.shiftRight_eq_div_pow, Nat.mul_comm, Nat.pow_mul]
    exact Nat.div_eq_of_lt fits
  intro writer sound
  unfold appendStopWaitingFrame
  simp only [delta, shifted]
  exact writes_appendPacketNumber io _ _ writer sound

/-! ### Acks -/

theorem appendIntervals_zero (blockLength : QuicPacketNumberLength) (descending : List Interval) :
    appendIntervals io blockLength descending 0 = some := by
  funext writer
  cases descending with
  | nil => rfl
  | cons top rest => cases rest <;> rfl

theorem ackFieldsWire_zero (frame : QuicAckFrame) :
    ackFieldsWire io 0 frame =
      BigEndian.encode (getMinSeqLength frame.largestAcked).bytes frame.largestAcked ++
        (io.uFloat16Bytes (frame.ackDelayTime.getD io.kUFloat16MaxValue) ++ ([] ++
          (BigEndian.encode (getMinSeqLength (getAckFrameInfo frame).maxBlockLength).bytes
            (getAckFrameInfo frame).firstBlockLength ++ ([] ++ BigEndian.encode 1 0)))) := rfl

/-- A frame without blocks is written as a whole, or not at all. -/
theorem writes_appendAckFields_zero (hasBlocks : Bool) (frame : QuicAckFrame) :
    Writes (appendAckFields io hasBlocks (getMinSeqLength frame.largestAcked)
        (getMinSeqLength (getAckFrameInfo frame).maxBlockLength) 0
        (getAckFrameInfo frame).firstBlockLength frame)
      (BigEndian.encode 1 (ackTypeByte hasBlocks (getMinSeqLength frame.largestAcked)
        (getMinSeqLength (getAckFrameInfo frame).maxBlockLength)) ++ ackFieldsWire io 0 frame) := by
  rw [ackFieldsWire_zero]
  apply (writes_writeUInt8 _).bind
  apply (writes_appendPacketNumber io _ _).bind
  apply (writes_writeBytes _).bind
  apply writes_nothing.bind
  apply (writes_appendPacketNumber io _ _).bind
  rw [appendIntervals_zero]
  exact writes_nothing.bind (writes_writeUInt8 0)

theorem ackBlockCount_of_nil {frame : QuicAckFrame} (none : frame.packets.descending = [])
    (room : Nat) : ackBlockCount room frame = 0 := by
  have noInfo : getAckFrameInfo frame = ⟨0, 0, 0⟩ := by
    rw [getAckFrameInfo, none]
  simp [ackBlockCount, noInfo]

/-- Blocks are written only where all of them fit. -/
theorem ackBlockCount_fits {frame : QuicAckFrame} {room : Nat}
    (some : 0 < ackBlockCount room frame) :
    4 + (getMinSeqLength frame.largestAcked).bytes +
      (getMinSeqLength (getAckFrameInfo frame).maxBlockLength).bytes + 1 +
      ackBlockCount room frame *
        ((getMinSeqLength (getAckFrameInfo frame).maxBlockLength).bytes + 1) ≤ room := by
  have blocks : (getAckFrameInfo frame).numAckBlocks ≠ 0 := by
    intro none
    simp [ackBlockCount, none] at some
  let width := (getMinSeqLength (getAckFrameInfo frame).maxBlockLength).bytes + 1
  let available := room - (getMinSeqLength (getAckFrameInfo frame).maxBlockLength).bytes -
    getMinAckFrameSize (getMinSeqLength frame.largestAcked) - 1
  have few : ackBlockCount room frame ≤ available / width := by
    have limited : ackBlockCount room frame ≤ ackBlockRoom room frame :=
      (Nat.min_le_left _ _).trans (Nat.min_le_right _ _)
    unfold ackBlockRoom at limited
    rwa [if_pos blocks] at limited
  have fit : ackBlockCount room frame * width ≤ available :=
    (Nat.le_div_iff_mul_le (Nat.succ_pos _)).mp few
  have positive : 0 < ackBlockCount room frame * width := Nat.mul_pos some (Nat.succ_pos _)
  have least : getMinAckFrameSize (getMinSeqLength frame.largestAcked) =
    4 + (getMinSeqLength frame.largestAcked).bytes := by
    simp only [getMinAckFrameSize, kQuicFrameTypeSize, kQuicDeltaTimeLargestObservedSize,
      kQuicNumTimestampsSize]
    omega
  change ackBlockCount room frame * width ≤ room - _ - _ - 1 at fit
  change _ + ackBlockCount room frame * width ≤ room
  omega

theorem length_ackFieldsWire (count : Nat) (frame : QuicAckFrame) :
    (ackFieldsWire io count frame).length ≤
      3 + (getMinSeqLength frame.largestAcked).bytes +
        (getMinSeqLength (getAckFrameInfo frame).maxBlockLength).bytes +
        (if 0 < count then 1 else 0) +
        count * ((getMinSeqLength (getAckFrameInfo frame).maxBlockLength).bytes + 1) := by
  have countLength : (if 0 < count then BigEndian.encode 1 count else []).length =
      if 0 < count then 1 else 0 := by
    split_ifs
    · exact BigEndian.length_encode 1 count
    · rfl
  have delayLength := io.length_uFloat16Bytes (frame.ackDelayTime.getD io.kUFloat16MaxValue)
  have blocksLength : ((blocksBelowTop frame.packets.descending).take count).length ≤ count :=
    List.length_take_le _ _
  have blocksRoom := Nat.mul_le_mul_right
    ((getMinSeqLength (getAckFrameInfo frame).maxBlockLength).bytes + 1) blocksLength
  simp only [ackFieldsWire, List.length_append, BigEndian.length_encode, delayLength, countLength,
    length_blocksWire, Nat.add_comm 1]
  omega

theorem appendAckFrame_eq {writer : QuicDataWriter} (sound : writer.Sound) (frame : QuicAckFrame) :
    appendAckFrameAndTypeByte io frame writer =
      writer.writeBytes (BigEndian.encode 1 (ackFrameType frame) ++
        ackFieldsWire io (ackBlockCount writer.remaining frame) frame) := by
  have fields : appendAckFrameAndTypeByte io frame writer =
      appendAckFields io ((getAckFrameInfo frame).numAckBlocks ≠ 0)
        (getMinSeqLength frame.largestAcked)
        (getMinSeqLength (getAckFrameInfo frame).maxBlockLength)
        (ackBlockCount writer.remaining frame) (getAckFrameInfo frame).firstBlockLength frame
        writer := rfl
  rw [fields]
  rcases Nat.eq_zero_or_pos (ackBlockCount writer.remaining frame) with none | some
  · rw [none]
    exact writes_appendAckFields_zero io _ frame writer sound
  · cases split : frame.packets.descending with
    | nil => exact absurd (ackBlockCount_of_nil split _) some.ne'
    | cons top rest =>
        have fits := ackBlockCount_fits some
        have room : writer.bytes.length + writer.remaining = writer.capacity :=
          Nat.add_sub_of_le sound
        have written := appendAckFields_eq split io ((getAckFrameInfo frame).numAckBlocks ≠ 0)
          (getMinSeqLength frame.largestAcked)
          (getMinSeqLength (getAckFrameInfo frame).maxBlockLength)
          (ackBlockCount writer.remaining frame) (getAckFrameInfo frame).firstBlockLength writer
          (by rw [if_pos some]; omega)
        rw [written, QuicDataWriter.writeBytes_eq]
        · simp only [ackFrameType, ackFieldsWire, split, blocksBelowTop]
        · have bound := length_ackFieldsWire io (ackBlockCount writer.remaining frame) frame
          rw [if_pos some] at bound
          rw [List.length_append, BigEndian.length_encode]
          omega

/-- Padding to the end takes all the room, of which its type byte needs one. -/
theorem writePadding_eq {writer : QuicDataWriter} (sound : writer.Sound) :
    (writeUInt8 paddingFrame writer).map QuicDataWriter.writePadding =
      writer.writeBytes (BigEndian.encode 1 paddingFrame ++
        List.replicate (max writer.remaining 1 - 1) 0) := by
  have room : writer.bytes.length + writer.remaining = writer.capacity := Nat.add_sub_of_le sound
  rcases Nat.eq_zero_or_pos writer.remaining with none | some
  · have full : ∀ data : List UInt8, data.length = 1 → writer.writeBytes data = Option.none := by
      intro data one
      rw [QuicDataWriter.writeBytes, one]
      exact if_neg (by omega)
    rw [none, writeUInt8, full _ rfl, full]
    · rfl
    · simp
  · have written : writeUInt8 paddingFrame writer =
        Option.some (writer.append (BigEndian.encode 1 paddingFrame)) := writeUInt8_eq (by omega)
    have left : (writer.append (BigEndian.encode 1 paddingFrame)).remaining =
        writer.remaining - 1 := by
      unfold QuicDataWriter.remaining
      rw [QuicDataWriter.append_capacity, QuicDataWriter.length_append, BigEndian.length_encode]
      omega
    rw [written, Option.map_some, Nat.max_eq_left some, QuicDataWriter.writeBytes_eq]
    · rw [QuicDataWriter.writePadding, left, ← QuicDataWriter.append_append]
      rfl
    · rw [List.length_append, BigEndian.length_encode, List.length_replicate]
      omega

theorem appendPadding_eq {header : QuicPacketHeader} {numPaddingBytes : Int}
    {noStreamFrameLength : Bool} {writer : QuicDataWriter} (sound : writer.Sound)
    (some : numPaddingBytes ≠ 0) :
    appendFrame io header noStreamFrameLength (.padding numPaddingBytes) writer =
      writer.writeBytes (frameBytes io header writer.remaining noStreamFrameLength
        (.padding numPaddingBytes)) := by
  show (writeUInt8 paddingFrame writer).bind (appendPaddingFrame numPaddingBytes) =
    writer.writeBytes (BigEndian.encode 1 paddingFrame ++
      List.replicate (paddingSize writer.remaining numPaddingBytes - 1) 0)
  by_cases toEnd : numPaddingBytes < 0
  · have fills : appendPaddingFrame numPaddingBytes =
        fun writer => Option.some writer.writePadding := by
      funext writer
      rw [appendPaddingFrame, if_neg some, if_pos toEnd]
    rw [fills, paddingSize, if_pos toEnd, ← writePadding_eq sound, Option.map_eq_bind]
    rfl
  · have counts : appendPaddingFrame numPaddingBytes =
        QuicDataWriter.writePaddingBytes (numPaddingBytes - 1).toNat := by
      funext writer
      rw [appendPaddingFrame, if_neg some, if_neg toEnd]
    have same : (numPaddingBytes - 1).toNat = numPaddingBytes.toNat - 1 := by omega
    rw [counts, paddingSize, if_neg toEnd, same]
    exact (writes_writeUInt8 _).bind (writes_writeBytes _) writer sound

/-- A frame is written as a whole, or not at all. -/
theorem appendFrame_eq {header : QuicPacketHeader} {frame : QuicFrame}
    (wellFormed : frame.WellFormed header) (noStreamFrameLength : Bool) {writer : QuicDataWriter}
    (sound : writer.Sound) :
    appendFrame io header noStreamFrameLength frame writer =
      writer.writeBytes (frameBytes io header writer.remaining noStreamFrameLength frame) := by
  have typed : ∀ {type : Nat} {payload : QuicDataWriter → Option QuicDataWriter}
      {bytes : List UInt8}, Writes payload bytes →
      (writeUInt8 type writer >>= payload) =
        writer.writeBytes (BigEndian.encode 1 type ++ bytes) := fun writes =>
    (writes_writeUInt8 _).bind writes writer sound
  cases frame with
  | padding numPaddingBytes => exact appendPadding_eq io sound (padding_ne_zero wellFormed)
  | rstStream streamId byteOffset errorCode =>
      exact typed ((writes_writeUInt32 io _).bind
        ((writes_writeUInt64 io _).bind (writes_writeUInt32 io _)))
  | connectionClose errorCode errorDetails =>
      exact typed ((writes_writeUInt32 io _).bind
        (writes_writeStringPiece16 io (length_truncateErrorString errorDetails)))
  | goAway errorCode lastGoodStreamId reasonPhrase =>
      exact typed ((writes_writeUInt32 io _).bind ((writes_writeUInt32 io _).bind
        (writes_writeStringPiece16 io (length_truncateErrorString reasonPhrase))))
  | windowUpdate streamId byteOffset =>
      exact typed ((writes_writeUInt32 io _).bind (writes_writeUInt64 io _))
  | blocked streamId => exact typed (writes_writeUInt32 io _)
  | stopWaiting leastUnacked => exact typed (writes_appendStopWaitingFrame io wellFormed)
  | ping => exact typed writes_nothing
  | stream frame => exact typed (writes_appendStreamFrame io header wellFormed _)
  | ack frame => exact appendAckFrame_eq io sound frame
  | mtuDiscovery => exact typed writes_nothing

/-! ### Frames in order -/

variable (header : QuicPacketHeader)

/-- The bytes of some frames, of which each one takes from the room of the others. -/
def framesBytes : (room : Nat) → List QuicFrame → List UInt8
  | _, [] => []
  | room, frame :: rest =>
      let bytes := frameBytes io header room rest.isEmpty frame
      bytes ++ framesBytes (room - bytes.length) rest

variable {io header}

theorem QuicDataWriter.remaining_append (writer : QuicDataWriter) (data : List UInt8) :
    (writer.append data).remaining = writer.remaining - data.length := by
  unfold QuicDataWriter.remaining
  rw [QuicDataWriter.append_capacity, QuicDataWriter.length_append]
  omega

/-- The frames are written as a whole, or not at all. -/
theorem appendFrames_eq {frames : List QuicFrame} :
    ∀ {writer : QuicDataWriter}, writer.Sound → (∀ frame ∈ frames, frame.WellFormed header) →
      appendFrames io header frames writer =
        writer.writeBytes (framesBytes io header writer.remaining frames) := by
  induction frames with
  | nil =>
      intro writer sound _
      exact writes_nothing writer sound
  | cons frame rest inductionHypothesis =>
      intro writer sound wellFormed
      have ⟨own, others⟩ := List.forall_mem_cons.mp wellFormed
      show (appendFrame io header rest.isEmpty frame writer).bind (appendFrames io header rest) = _
      rw [appendFrame_eq io own rest.isEmpty sound, framesBytes,
        ← QuicDataWriter.writeBytes_bind]
      apply Option.bind_congr
      intro after written
      have afterSound := QuicDataWriter.sound_of_writeBytes written
      obtain ⟨_, rfl⟩ := QuicDataWriter.writeBytes_cases written
      rw [inductionHypothesis afterSound others, QuicDataWriter.remaining_append]

end Writing

end StupidSimple.Quic
