import StupidSimple.Quic.FrameWire

/-!
Owns the exchange of frames: what the loop of `BuildDataPacket` writes is read back by
`ProcessFrameData` frame by frame. Padding that stands side by side is reported as one
frame, texts are cut, error codes are bounded, and acks list what there was room for.
-/

namespace StupidSimple.Quic

open StupidSimple.Library MyQuicFramer Interaction

/-! ### Reading strings -/

section Strings

variable (io : QuicData)

theorem record_readStringPiece (detail : String) (text rest : List UInt8) :
    record io (Framer.readStringPiece text.length detail) (text ++ rest) =
      (.ok text, ⟨rest, []⟩) := by
  change Interaction.run _ (Framer.orFail detail
    (Parsing.read ⟨text ++ rest, []⟩ (QuicData.readStringPiece text.length (text ++ rest))).1)
    (Parsing.read ⟨text ++ rest, []⟩ (QuicData.readStringPiece text.length (text ++ rest))).2 = _
  have read : QuicData.readStringPiece text.length (text ++ rest) = some (text, rest) := by
    rw [QuicData.readStringPiece, if_pos (by simp), List.take_left, List.drop_left]
  rw [read]
  rfl

theorem record_readStringPiece16 (detail : String) {text : List UInt8}
    (short : text.length < 2 ^ 16) (rest : List UInt8) :
    record io (Framer.readStringPiece16 detail) (textWire text ++ rest) =
      (.ok text, ⟨rest, []⟩) := by
  have length := Framer.record_readBytesToUInt64_encode io (by decide : 2 ≤ 8)
    (short : text.length < 256 ^ 2) detail (text ++ rest)
  rw [textWire, List.append_assoc, Framer.readStringPiece16, Framer.readUInt16,
    record_bind_ok io length, prepend_nil]
  exact record_readStringPiece io detail text rest

end Strings

/-! ### Type bytes of stream frames -/

section TypeByte

/-- The type byte, as a function of what it encodes. -/
def streamTypeByteOf (fin noStreamFrameLength : Bool) (offsetLen streamIdLen : Nat) : Nat :=
  ((((((if fin then kQuicStreamFinMaskPre40 else 0) <<< kQuicStreamDataLengthShiftPre40) |||
    (if noStreamFrameLength then 0 else kQuicStreamDataLengthMaskPre40)) <<<
      kQuicStreamShiftPre40) ||| (if 0 < offsetLen then offsetLen - 1 else 0)) <<<
        kQuicStreamIdShiftPre40 ||| (streamIdLen - 1)) ||| kQuicFrameTypeStreamMaskPre40

/-- What a reader makes of a type byte. -/
structure ReadsTypeByte (fin noStreamFrameLength : Bool) (offsetLen streamIdLen type : Nat) :
    Prop where
  isByte : type < 256
  special : type &&& kQuicFrameTypeSpecialMask ≠ 0
  stream : isStreamFrame type = true
  streamId : (type &&& (255 - kQuicFrameTypeStreamMaskPre40) &&& kQuicStreamIDLengthMaskPre40) + 1 =
    streamIdLen
  offset : (let bits := (type &&& (255 - kQuicFrameTypeStreamMaskPre40)) >>>
      kQuicStreamIdShiftPre40 &&& kQuicStreamOffsetMaskPre40
    if 0 < bits then bits + 1 else bits) = offsetLen
  dataLength : decide ((type &&& (255 - kQuicFrameTypeStreamMaskPre40)) >>>
      kQuicStreamIdShiftPre40 >>> kQuicStreamShiftPre40 &&& kQuicStreamDataLengthMaskPre40 =
    kQuicStreamDataLengthMaskPre40) = !noStreamFrameLength
  fin : decide ((type &&& (255 - kQuicFrameTypeStreamMaskPre40)) >>>
      kQuicStreamIdShiftPre40 >>> kQuicStreamShiftPre40 >>> kQuicStreamDataLengthShiftPre40 &&&
    kQuicStreamFinMaskPre40 = kQuicStreamFinShiftPre40) = fin

instance (fin noStreamFrameLength : Bool) (offsetLen streamIdLen type : Nat) :
    Decidable (ReadsTypeByte fin noStreamFrameLength offsetLen streamIdLen type) :=
  decidable_of_iff (type < 256 ∧ type &&& kQuicFrameTypeSpecialMask ≠ 0 ∧
    isStreamFrame type = true ∧ _ = streamIdLen ∧ _ = offsetLen ∧
      _ = (!noStreamFrameLength) ∧ _ = fin)
    ⟨fun ⟨a, b, c, d, e, f, g⟩ => ⟨a, b, c, d, e, f, g⟩,
      fun ⟨a, b, c, d, e, f, g⟩ => ⟨a, b, c, d, e, f, g⟩⟩

theorem readsTypeByte {fin noStreamFrameLength : Bool} {offsetLen streamIdLen : Nat}
    (offset : offsetLen ≠ 1 ∧ offsetLen ≤ 8) (streamId : 1 ≤ streamIdLen ∧ streamIdLen ≤ 4) :
    ReadsTypeByte fin noStreamFrameLength offsetLen streamIdLen
      (streamTypeByteOf fin noStreamFrameLength offsetLen streamIdLen) := by
  have all : ∀ fin noStreamFrameLength : Bool, ∀ offsetLen < 9, ∀ streamIdLen < 5,
      offsetLen ≠ 1 → 1 ≤ streamIdLen →
      ReadsTypeByte fin noStreamFrameLength offsetLen streamIdLen
        (streamTypeByteOf fin noStreamFrameLength offsetLen streamIdLen) := by
    decide +kernel
  exact all fin noStreamFrameLength offsetLen (by omega) streamIdLen (by omega) offset.1 streamId.1

end TypeByte

/-! ### Reading a frame -/

section Reading

variable (env : FramerEnv)

/-- What stands behind a type byte is read as a frame, up to whatever follows it. -/
def ReadsBack (frameType : Nat) (payload rest : List UInt8) (calls : List VisitorCall) : Prop :=
  record env.io (env.processFrame frameType) (payload ++ rest) = (.ok true, ⟨rest, calls⟩)

theorem record_report (code : QuicErrorCode) {program : Framer VisitorCall} {call : VisitorCall}
    {bytes rest : List UInt8} (read : record env.io program bytes = (.ok call, ⟨rest, []⟩)) :
    record env.io (report code program) bytes = (.ok true, ⟨rest, [call]⟩) := by
  have raised : record env.io (raiseError code program) bytes = (.ok call, ⟨rest, []⟩) := by
    rw [record_raiseError, read]
    rfl
  rw [report, record_bind_ok env.io raised]
  rfl

theorem readsBack_of_report (code : QuicErrorCode) {frameType : Nat} {program : Framer VisitorCall}
    {call : VisitorCall} {payload rest : List UInt8}
    (dispatch : env.processFrame frameType = report code program)
    (read : record env.io program (payload ++ rest) = (.ok call, ⟨rest, []⟩)) :
    ReadsBack env frameType payload rest [call] := by
  rw [ReadsBack, dispatch]
  exact record_report env code read

theorem readsBack_ping (rest : List UInt8) : ReadsBack env pingFrame [] rest [.onPingFrame] := rfl

theorem record_map {α β : Type} (f : α → β) {program : Framer α} {value : α}
    {bytes rest : List UInt8}
    (read : record env.io program bytes = (.ok value, ⟨rest, []⟩)) :
    record env.io (f <$> program) bytes = (.ok (f value), ⟨rest, []⟩) := by
  show record env.io (program >>= fun value => pure (f value)) bytes = _
  rw [record_bind_ok env.io read]
  rfl

variable {env} {rest : List UInt8}

theorem record_processStreamFrame {frame : QuicStreamFrame} {header : QuicPacketHeader}
    (wellFormed : (QuicFrame.stream frame).WellFormed header) {noStreamFrameLength : Bool}
    (last : noStreamFrameLength = true → rest = []) :
    record env.io (processStreamFrame (streamTypeByte frame noStreamFrameLength))
      (streamWire noStreamFrameLength frame ++ rest) = (.ok frame, ⟨rest, []⟩) := by
  have ⟨idNarrow, offsetNarrow, sameLength, short⟩ := wellFormed
  have ⟨idPositive, idShort, idFits⟩ := getStreamIdSize_spec idNarrow
  have ⟨offsetNotOne, offsetShort, offsetFits⟩ := getStreamOffsetSize_spec offsetNarrow
  have typed : ReadsTypeByte frame.fin noStreamFrameLength (getStreamOffsetSize frame.offset)
      (getStreamIdSize frame.streamId) (streamTypeByte frame noStreamFrameLength) :=
    readsTypeByte ⟨offsetNotOne, offsetShort⟩ ⟨idPositive, idShort⟩
  have whole : frame.data.take frame.dataLength = frame.data :=
    List.take_of_length_le sameLength.ge
  have dataRead : record env.io (readStreamData (!noStreamFrameLength))
      ((if noStreamFrameLength then [] else BigEndian.encode 2 frame.dataLength) ++ frame.data ++
        rest) = (.ok frame.data, ⟨rest, []⟩) := by
    cases noStreamFrameLength with
    | true =>
        obtain rfl := last rfl
        have counted : record env.io (Framer.bytesRemaining : Framer Nat) (frame.data ++ []) =
            (.ok frame.data.length, ⟨frame.data ++ [], []⟩) := by
          rw [List.append_nil]
          rfl
        show record env.io (Framer.bytesRemaining >>= fun remaining =>
          Framer.readStringPiece remaining "Unable to read frame data.") (frame.data ++ []) = _
        rw [record_bind_ok env.io counted, prepend_nil]
        exact record_readStringPiece env.io _ frame.data []
    | false =>
        rw [sameLength]
        exact record_readStringPiece16 env.io "Unable to read frame data." short rest
  have idRead := Framer.record_readBytesToUInt64_encode env.io (by omega : _ ≤ 8) idFits
    "Unable to read stream_id."
  have offsetRead := Framer.record_readBytesToUInt64_encode env.io offsetShort offsetFits
    "Unable to read offset."
  unfold processStreamFrame
  simp only [typed.streamId, typed.offset, typed.dataLength, typed.fin]
  rw [streamWire, whole, List.append_assoc, record_bind_ok env.io (idRead _), prepend_nil,
    List.append_assoc, record_bind_ok env.io (offsetRead _), prepend_nil,
    record_bind_ok env.io dataRead, prepend_nil, record_pure]
  rw [Nat.mod_eq_of_lt idNarrow, Nat.mod_eq_of_lt short, ← sameLength]

theorem record_processRstStreamFrame {streamId byteOffset errorCode : Nat}
    (idNarrow : streamId < 2 ^ 32) (offsetNarrow : byteOffset < 2 ^ 64)
    (codeNarrow : errorCode < 2 ^ 32) (rest : List UInt8) :
    record env.io (processRstStreamFrame env.limits)
      (BigEndian.encode 4 streamId ++ (BigEndian.encode 8 byteOffset ++
        BigEndian.encode 4 errorCode) ++ rest) =
      (.ok (.onRstStreamFrame streamId byteOffset (min errorCode env.limits.quicStreamLastError)),
        ⟨rest, []⟩) := by
  rw [processRstStreamFrame, Framer.readUInt32, List.append_assoc, record_bind_ok env.io
    (Framer.record_readBytesToUInt64_encode env.io (by decide) idNarrow _ _), prepend_nil,
    Framer.readUInt64, List.append_assoc, record_bind_ok env.io
    (Framer.record_readBytesToUInt64_encode env.io (by decide) offsetNarrow _ _), prepend_nil,
    Framer.readUInt32, record_bind_ok env.io
    (Framer.record_readBytesToUInt64_encode env.io (by decide) codeNarrow _ _), prepend_nil]
  rfl

theorem record_processConnectionCloseFrame {errorCode : Nat} (codeNarrow : errorCode < 2 ^ 32)
    (errorDetails rest : List UInt8) :
    record env.io (processConnectionCloseFrame env.limits)
      (BigEndian.encode 4 errorCode ++ textWire (truncateErrorString errorDetails) ++ rest) =
      (.ok (.onConnectionCloseFrame (min errorCode env.limits.quicLastError)
        (truncateErrorString errorDetails)), ⟨rest, []⟩) := by
  rw [processConnectionCloseFrame, Framer.readUInt32, List.append_assoc, record_bind_ok env.io
    (Framer.record_readBytesToUInt64_encode env.io (by decide) codeNarrow _ _), prepend_nil,
    record_bind_ok env.io (record_readStringPiece16 env.io _
      (length_truncateErrorString errorDetails) rest), prepend_nil]
  rfl

theorem record_processGoAwayFrame {errorCode lastGoodStreamId : Nat}
    (codeNarrow : errorCode < 2 ^ 32) (idNarrow : lastGoodStreamId < 2 ^ 32)
    (reasonPhrase rest : List UInt8) :
    record env.io (processGoAwayFrame env.limits)
      (BigEndian.encode 4 errorCode ++ (BigEndian.encode 4 lastGoodStreamId ++
        textWire (truncateErrorString reasonPhrase)) ++ rest) =
      (.ok (.onGoAwayFrame (min errorCode env.limits.quicLastError) lastGoodStreamId
        (truncateErrorString reasonPhrase)), ⟨rest, []⟩) := by
  rw [processGoAwayFrame, Framer.readUInt32, List.append_assoc, record_bind_ok env.io
    (Framer.record_readBytesToUInt64_encode env.io (by decide) codeNarrow _ _), prepend_nil,
    Framer.readUInt32, List.append_assoc, record_bind_ok env.io
    (Framer.record_readBytesToUInt64_encode env.io (by decide) idNarrow _ _), prepend_nil,
    record_bind_ok env.io (record_readStringPiece16 env.io _
      (length_truncateErrorString reasonPhrase) rest), prepend_nil]
  rfl

theorem record_processWindowUpdateFrame {streamId byteOffset : Nat}
    (idNarrow : streamId < 2 ^ 32) (offsetNarrow : byteOffset < 2 ^ 64) (rest : List UInt8) :
    record env.io processWindowUpdateFrame
      (BigEndian.encode 4 streamId ++ BigEndian.encode 8 byteOffset ++ rest) =
      (.ok (.onWindowUpdateFrame streamId byteOffset), ⟨rest, []⟩) := by
  rw [processWindowUpdateFrame, Framer.readUInt32, List.append_assoc, record_bind_ok env.io
    (Framer.record_readBytesToUInt64_encode env.io (by decide) idNarrow _ _), prepend_nil,
    Framer.readUInt64, record_bind_ok env.io
    (Framer.record_readBytesToUInt64_encode env.io (by decide) offsetNarrow _ _), prepend_nil]
  rfl

theorem record_processBlockedFrame {streamId : Nat} (idNarrow : streamId < 2 ^ 32)
    (rest : List UInt8) :
    record env.io processBlockedFrame (BigEndian.encode 4 streamId ++ rest) =
      (.ok (.onBlockedFrame streamId), ⟨rest, []⟩) := by
  rw [processBlockedFrame, Framer.readUInt32, record_bind_ok env.io
    (Framer.record_readBytesToUInt64_encode env.io (by decide) idNarrow _ _), prepend_nil]
  rfl

theorem record_processStopWaitingFrame {leastUnacked : Nat}
    (wellFormed : (QuicFrame.stopWaiting leastUnacked).WellFormed env.header)
    (rest : List UInt8) :
    record env.io (processStopWaitingFrame env.header)
      (BigEndian.encode env.header.packetNumberLength.bytes
        (env.header.packetNumber - leastUnacked) ++ rest) = (.ok leastUnacked, ⟨rest, []⟩) := by
  have ⟨below, _, _, fits⟩ := wellFormed
  have restored : env.header.packetNumber - (env.header.packetNumber - leastUnacked) =
      leastUnacked := by omega
  rw [processStopWaitingFrame, record_bind_ok env.io
    (Framer.record_readBytesToUInt64_encode env.io (bytes_le_eight _) fits _ _), prepend_nil,
    if_neg (by omega), restored]
  rfl

/-! ### Padding -/

/-- The loop takes zeros up to a byte that is none. -/
theorem record_skipPadding (stops : rest.head? ≠ some 0) (count : Nat) :
    ∀ bound numPaddingBytes, count + rest.length ≤ bound →
      record env.io (skipPadding bound numPaddingBytes) (List.replicate count 0 ++ rest) =
        (.ok (numPaddingBytes + count), ⟨rest, []⟩) := by
  induction count with
  | zero =>
      intro bound numPaddingBytes enough
      cases rest with
      | nil => cases bound <;> rfl
      | cons byte rest =>
          rw [List.length_cons] at enough
          obtain ⟨fuel, rfl⟩ := Nat.exists_eq_succ_of_ne_zero (by omega : bound ≠ 0)
          have notZero : ¬byte.toNat = 0 := by
            intro zero
            have same : byte = 0 := UInt8.toNat_inj.mp zero
            exact stops (congrArg some same)
          have peeked : record env.io (Framer.peekByte : Framer Nat) (byte :: rest) =
              (.ok byte.toNat, ⟨byte :: rest, []⟩) := rfl
          rw [skipPadding, List.replicate_zero, List.nil_append,
            record_bind_ok env.io (record_isDoneReading env.io (byte :: rest)), prepend_nil]
          simp only [List.isEmpty_cons, Bool.false_eq_true, if_false]
          rw [record_bind_ok env.io peeked, prepend_nil, if_neg notZero]
          rfl
  | succ count inductionHypothesis =>
      intro bound numPaddingBytes enough
      obtain ⟨fuel, rfl⟩ := Nat.exists_eq_succ_of_ne_zero (by omega : bound ≠ 0)
      have peeked : record env.io (Framer.peekByte : Framer Nat)
          (0 :: (List.replicate count 0 ++ rest)) =
            (.ok 0, ⟨0 :: (List.replicate count 0 ++ rest), []⟩) := rfl
      have taken : record env.io (Framer.tryReadBytesToUInt64 1 : Framer (Option Nat))
          (0 :: (List.replicate count 0 ++ rest)) =
            (.ok (some 0), ⟨List.replicate count 0 ++ rest, []⟩) := by
        have answered := env.io.readBytesToUInt64_eq 1 (0 :: (List.replicate count 0 ++ rest))
          (by decide)
        change (Except.ok (Parsing.read ⟨_, []⟩ (env.io.readBytesToUInt64 1 _)).1,
          (Parsing.read ⟨_, []⟩ (env.io.readBytesToUInt64 1 _)).2) = _
        rw [answered]
        rfl
      rw [List.replicate_succ, List.cons_append, skipPadding,
        record_bind_ok env.io (record_isDoneReading env.io _), prepend_nil]
      simp only [List.isEmpty_cons, Bool.false_eq_true, if_false]
      rw [record_bind_ok env.io peeked, prepend_nil, if_pos rfl, record_bind_ok env.io taken,
        prepend_nil, inductionHypothesis fuel (numPaddingBytes + 1) (by omega)]
      simp only [Nat.add_assoc, Nat.add_comm 1]

variable (env) in
theorem readsBack_padding (stops : rest.head? ≠ some 0) (count : Nat) :
    ReadsBack env paddingFrame (List.replicate count 0) rest [.onPaddingFrame (count + 1)] := by
  have read : record env.io processPaddingFrame (List.replicate count 0 ++ rest) =
      (.ok (count + 1), ⟨rest, []⟩) := by
    have counted : record env.io (Framer.bytesRemaining : Framer Nat)
        (List.replicate count 0 ++ rest) = (.ok (count + rest.length),
          ⟨List.replicate count 0 ++ rest, []⟩) := by
      have length : (List.replicate count (0 : UInt8) ++ rest).length = count + rest.length := by
        simp
      rw [← length]
      rfl
    rw [processPaddingFrame, record_bind_ok env.io counted, prepend_nil,
      record_skipPadding stops count _ _ (Nat.le_refl _), Nat.add_comm 1]
  exact readsBack_of_report env .invalidFrameData rfl (record_map env _ read)

/-! ### Acks -/

/-- The number of blocks is written exactly where the type byte announces it. -/
def AckMarked (room : Nat) (frame : QuicAckFrame) : Prop :=
  (getAckFrameInfo frame).numAckBlocks ≠ 0 → 0 < ackBlockCount room frame

/-- The blocks that a frame may have: 255, or those that there is room for. -/
def ackBudget (room : Nat) (frame : QuicAckFrame) : Nat := min maxUInt8 (ackBlockRoom room frame)

theorem largestAckedLength_ackFrameType (frame : QuicAckFrame) :
    largestAckedLength (ackFrameType frame) = getMinSeqLength frame.largestAcked :=
  largestAckedLength_ackTypeByte (flagged_getMinSeqLength _)

theorem ackBlockLength_ackFrameType (frame : QuicAckFrame) :
    ackBlockLength (ackFrameType frame) = getMinSeqLength (getAckFrameInfo frame).maxBlockLength :=
  ackBlockLength_ackTypeByte (flagged_getMinSeqLength _)

theorem exists_ack_of_room (io : QuicData) {frame : QuicAckFrame} (wellFormed : frame.WellFormed)
    {room : Nat} (marked : AckMarked room frame) :
    ∃ ack : AckPrefix (ackFrameType frame), ack.Complete ∧
      ack.largestAcked = frame.largestAcked ∧
      ackFieldsWire io (ackBlockCount room frame) frame = ack.wire ++ BigEndian.encode 1 0 ∧
      ackRanges ack.ranges = (reportedIntervals (ackBudget room frame)
        frame.packets.descending).map Interval.range := by
  have ⟨top, below, split, topMax⟩ := top_of_isGreatest wellFormed.largest
  have descending := descending_intervals split
  have ⟨ack, largest, delay, first, count, blocks, complete⟩ := exists_ackOfBudget wellFormed split
    (io.uFloat16Bytes (frame.ackDelayTime.getD io.kUFloat16MaxValue))
    (io.length_uFloat16Bytes _) (Nat.min_le_left maxUInt8 (ackBlockRoom room frame))
  have nonempty := top.min_lt_max
  have topStart : ack.firstReceived = top.min := by
    rw [AckPrefix.firstReceived, largest, first, Interval.length]
    omega
  have counted : ackBlockCount room frame = ack.numAckBlocks :=
    (min_numAckBlocks_eq split (ackBlockRoom room frame)).trans count.symm
  have outline : (getAckFrameInfo frame).firstBlockLength = ack.firstBlockLength := by
    rw [first, getAckFrameInfo, split]
    exact scanIntervals_firstBlockLength below _ _
  have countWire : (if 0 < ack.numAckBlocks then BigEndian.encode 1 ack.numAckBlocks else []) =
      ack.countWire := by
    have iff : 0 < ack.numAckBlocks ↔ (getAckFrameInfo frame).numAckBlocks ≠ 0 := by
      constructor
      · intro positive none
        rw [← counted, ackBlockCount, none, Nat.zero_min, Nat.zero_min] at positive
        exact Nat.lt_irrefl 0 positive
      · exact fun some => counted ▸ marked some
    unfold AckPrefix.countWire
    rw [hasAckBlocks_ackTypeByte]
    simp only [decide_eq_true_eq, iff]
  have reported : ackRanges ack.ranges = (reportedIntervals (ackBudget room frame)
      frame.packets.descending).map Interval.range := by
    rw [ackRanges_ranges, topStart, blocks, ackRanges_take_gapBlocks descending, count, split,
      reportedIntervals, blocksNeeded, fitting_min descending, List.map_cons, Interval.range,
      topMax, largest]
    rfl
  refine ⟨ack, complete, largest, ?_, reported⟩
  simp only [ackFieldsWire, counted, countWire, split, blocksBelowTop, ← blocks, ← delay, outline,
    AckPrefix.wire, AckPrefix.blocksWire, List.append_assoc, largest,
    largestAckedLength_ackFrameType, ackBlockLength_ackFrameType]
  rfl

theorem readsBack_ack {frame : QuicAckFrame} {ack : AckPrefix (ackFrameType frame)}
    (complete : ack.Complete) :
    ReadsBack env (ackFrameType frame) (ack.wire ++ BigEndian.encode 1 0) rest
      (ack.calls env.io) := by
  have read := record_complete env.io complete rest
  have starts : StartsAckFrame (ackFrameType frame) := startsAckFrame_ackTypeByte
  unfold ReadsBack
  rw [record_processFrame_ack env starts, List.append_assoc, read]
  rfl

variable (env)

/-- What is reported of a frame that is no padding, and that had some room. -/
inductive Reported (room : Nat) : QuicFrame → List VisitorCall → Prop
  | rstStream (streamId byteOffset errorCode : Nat) :
      Reported room (.rstStream streamId byteOffset errorCode)
        [.onRstStreamFrame streamId byteOffset (min errorCode env.limits.quicStreamLastError)]
  | connectionClose (errorCode : Nat) (errorDetails : List UInt8) :
      Reported room (.connectionClose errorCode errorDetails)
        [.onConnectionCloseFrame (min errorCode env.limits.quicLastError)
          (truncateErrorString errorDetails)]
  | goAway (errorCode lastGoodStreamId : Nat) (reasonPhrase : List UInt8) :
      Reported room (.goAway errorCode lastGoodStreamId reasonPhrase)
        [.onGoAwayFrame (min errorCode env.limits.quicLastError) lastGoodStreamId
          (truncateErrorString reasonPhrase)]
  | windowUpdate (streamId byteOffset : Nat) :
      Reported room (.windowUpdate streamId byteOffset) [.onWindowUpdateFrame streamId byteOffset]
  | blocked (streamId : Nat) : Reported room (.blocked streamId) [.onBlockedFrame streamId]
  | stopWaiting (leastUnacked : Nat) :
      Reported room (.stopWaiting leastUnacked) [.onStopWaitingFrame leastUnacked]
  | ping : Reported room .ping [.onPingFrame]
  | stream (frame : QuicStreamFrame) : Reported room (.stream frame) [.onStreamFrame frame]
  | ack (frame : QuicAckFrame) (delay : Option Nat) {ranges : List VisitorCall}
      (all : ∀ call ∈ ranges, call.IsAckRange)
      (reported : ackRanges ranges = (reportedIntervals (ackBudget room frame)
        frame.packets.descending).map Interval.range) :
      Reported room (.ack frame) (.onAckFrameStart frame.largestAcked delay :: ranges)
  | mtuDiscovery : Reported room .mtuDiscovery [.onPingFrame]

/-- Room in which an ack frame is not spoiled; other frames need none. -/
def QuicFrame.Marked (room : Nat) : QuicFrame → Prop
  | .ack frame => AckMarked room frame
  | _ => True

def QuicFrame.IsPadding : QuicFrame → Prop
  | .padding _ => True
  | _ => False

/-- A frame that is no padding is read as it was written, whatever follows it. -/
theorem exists_reported {frame : QuicFrame} (wellFormed : frame.WellFormed env.header)
    (other : ¬frame.IsPadding) {room : Nat} (marked : frame.Marked room)
    (noStreamFrameLength : Bool) :
    ∃ calls, Reported env room frame calls ∧ ∀ rest, (noStreamFrameLength = true → rest = []) →
      ReadsBack env (frameWire env.io env.header room noStreamFrameLength frame).1
        (frameWire env.io env.header room noStreamFrameLength frame).2 rest calls := by
  cases frame with
  | padding numPaddingBytes => exact absurd trivial other
  | rstStream streamId byteOffset errorCode =>
      have ⟨idNarrow, offsetNarrow, codeNarrow⟩ := wellFormed
      refine ⟨_, .rstStream _ _ _, fun rest _ => ?_⟩
      dsimp only [frameWire]
      exact readsBack_of_report env .invalidRstStreamData rfl
        (record_processRstStreamFrame idNarrow offsetNarrow codeNarrow rest)
  | connectionClose errorCode errorDetails =>
      refine ⟨_, .connectionClose _ _, fun rest _ => ?_⟩
      dsimp only [frameWire]
      exact readsBack_of_report env .invalidConnectionCloseData rfl
        (record_processConnectionCloseFrame wellFormed errorDetails rest)
  | goAway errorCode lastGoodStreamId reasonPhrase =>
      refine ⟨_, .goAway _ _ _, fun rest _ => ?_⟩
      dsimp only [frameWire]
      exact readsBack_of_report env .invalidGoawayData rfl
        (record_processGoAwayFrame wellFormed.1 wellFormed.2 reasonPhrase rest)
  | windowUpdate streamId byteOffset =>
      refine ⟨_, .windowUpdate _ _, fun rest _ => ?_⟩
      dsimp only [frameWire]
      exact readsBack_of_report env .invalidWindowUpdateData rfl
        (record_processWindowUpdateFrame wellFormed.1 wellFormed.2 rest)
  | blocked streamId =>
      refine ⟨_, .blocked _, fun rest _ => ?_⟩
      dsimp only [frameWire]
      exact readsBack_of_report env .invalidBlockedData rfl (record_processBlockedFrame wellFormed rest)
  | stopWaiting leastUnacked =>
      refine ⟨_, .stopWaiting _, fun rest _ => ?_⟩
      dsimp only [frameWire]
      exact readsBack_of_report env .invalidStopWaitingData rfl
        (record_map env _ (record_processStopWaitingFrame wellFormed rest))
  | ping => exact ⟨_, .ping, fun rest _ => readsBack_ping env rest⟩
  | stream frame =>
      refine ⟨_, .stream frame, fun rest last => ?_⟩
      have typed : ReadsTypeByte frame.fin noStreamFrameLength (getStreamOffsetSize frame.offset)
          (getStreamIdSize frame.streamId) (streamTypeByte frame noStreamFrameLength) := by
        have ⟨idPositive, idShort, _⟩ := getStreamIdSize_spec wellFormed.1
        have ⟨offsetNotOne, offsetShort, _⟩ := getStreamOffsetSize_spec wellFormed.2.1
        exact readsTypeByte ⟨offsetNotOne, offsetShort⟩ ⟨idPositive, idShort⟩
      have dispatch : env.processFrame (streamTypeByte frame noStreamFrameLength) =
          report .invalidStreamData
            (.onStreamFrame <$> processStreamFrame (streamTypeByte frame noStreamFrameLength)) := by
        rw [FramerEnv.processFrame, processFrame, if_pos typed.special, if_pos typed.stream]
      dsimp only [frameWire]
      exact readsBack_of_report env .invalidStreamData dispatch
        (record_map env _ (record_processStreamFrame wellFormed last))
  | ack frame =>
      have ⟨ack, complete, largest, wire, reported⟩ :=
        exists_ack_of_room env.io wellFormed marked
      refine ⟨ack.calls env.io, ?_, fun rest _ => ?_⟩
      · rw [AckPrefix.calls, AckPrefix.startCall, largest]
        exact .ack frame _ (isAckRange_of_mem_ranges ack) reported
      · rw [frameWire, wire]
        exact readsBack_ack complete
  | mtuDiscovery => exact ⟨_, .mtuDiscovery, fun rest _ => readsBack_ping env rest⟩

/-! ### Frames in order -/

/-- The report of some bytes of padding. -/
def paddingReport (pending : Nat) : List VisitorCall :=
  if pending = 0 then [] else [.onPaddingFrame pending]

/-- What is reported of some frames, behind `pending` bytes of padding. -/
inductive ReportedFrames : (room pending : Nat) → List QuicFrame → List VisitorCall → Prop
  | done (room pending : Nat) : ReportedFrames room pending [] (paddingReport pending)
  | padding {room pending : Nat} {numPaddingBytes : Int} {rest : List QuicFrame}
      {calls : List VisitorCall}
      (later : ReportedFrames (room - paddingSize room numPaddingBytes)
        (pending + paddingSize room numPaddingBytes) rest calls) :
      ReportedFrames room pending (.padding numPaddingBytes :: rest) calls
  | frame {room pending : Nat} {frame : QuicFrame} {rest : List QuicFrame}
      {own calls : List VisitorCall} (other : ¬frame.IsPadding) (reported : Reported env room frame own)
      (later : ReportedFrames (room - (frameBytes env.io env.header room rest.isEmpty frame).length)
        0 rest calls) :
      ReportedFrames room pending (frame :: rest) (paddingReport pending ++ (own ++ calls))

/-- Each ack frame is left room in which it is not spoiled. -/
def FramesMarked (io : QuicData) (header : QuicPacketHeader) : (room : Nat) → List QuicFrame → Prop
  | _, [] => True
  | room, frame :: rest => frame.Marked room ∧
      FramesMarked io header (room - (frameBytes io header room rest.isEmpty frame).length) rest

theorem frameWire_type {frame : QuicFrame} (wellFormed : frame.WellFormed env.header)
    (other : ¬frame.IsPadding) (room : Nat) (noStreamFrameLength : Bool) :
    0 < (frameWire env.io env.header room noStreamFrameLength frame).1 ∧
      (frameWire env.io env.header room noStreamFrameLength frame).1 < 256 := by
  cases frame with
  | padding numPaddingBytes => exact absurd trivial other
  | stream frame =>
      have ⟨idPositive, idShort, _⟩ := getStreamIdSize_spec wellFormed.1
      have ⟨offsetNotOne, offsetShort, _⟩ := getStreamOffsetSize_spec wellFormed.2.1
      have typed : ReadsTypeByte frame.fin noStreamFrameLength (getStreamOffsetSize frame.offset)
          (getStreamIdSize frame.streamId) (streamTypeByte frame noStreamFrameLength) :=
        readsTypeByte ⟨offsetNotOne, offsetShort⟩ ⟨idPositive, idShort⟩
      constructor
      · apply Nat.pos_of_ne_zero
        intro zero
        have special := typed.special
        change streamTypeByte frame noStreamFrameLength = 0 at zero
        rw [zero] at special
        exact special rfl
      · exact typed.isByte
  | ack frame =>
      constructor
      · apply Nat.pos_of_ne_zero
        intro zero
        have starts : StartsAckFrame (ackFrameType frame) := startsAckFrame_ackTypeByte
        change ackFrameType frame = 0 at zero
        rw [zero] at starts
        exact starts.1 rfl
      · exact ackTypeByte_lt
  | _ => exact ⟨by dsimp only [frameWire]; decide, by dsimp only [frameWire]; decide⟩

/-- Padding in front of other frames is one frame. -/
theorem record_padding {rest : List UInt8} (stops : rest.head? ≠ some 0) (pending : Nat)
    {bound : Nat} (enough : pending + rest.length ≤ bound) :
    ∃ fuel, rest.length ≤ fuel ∧
      record env.io (env.processFrames bound) (List.replicate pending 0 ++ rest) =
        prepend (paddingReport pending) (record env.io (env.processFrames fuel) rest) := by
  cases pending with
  | zero => exact ⟨bound, by omega, rfl⟩
  | succ count =>
      obtain ⟨fuel, rfl⟩ := Nat.exists_eq_succ_of_ne_zero (by omega : bound ≠ 0)
      refine ⟨fuel, by omega, ?_⟩
      have read := readsBack_padding env stops count
      rw [ReadsBack] at read
      have typed : (0 : UInt8).toNat = paddingFrame := rfl
      rw [List.replicate_succ, List.cons_append, record_processFrames_cons, typed, read]
      rfl

/-- One frame behind some padding, in front of bytes that are read to their end. -/
theorem record_frame {frameType : Nat} (positive : 0 < frameType) (isByte : frameType < 256)
    {payload restBytes : List UInt8} {own calls : List VisitorCall}
    (ownRead : ReadsBack env frameType payload restBytes own)
    (restRead : ∀ bound, restBytes.length ≤ bound →
      record env.io (env.processFrames bound) restBytes = (.ok (), ⟨[], calls⟩))
    (pending : Nat) {bound : Nat}
    (enough : pending + (BigEndian.encode 1 frameType ++ payload ++ restBytes).length ≤ bound) :
    record env.io (env.processFrames bound)
      (List.replicate pending 0 ++ (BigEndian.encode 1 frameType ++ payload ++ restBytes)) =
        (.ok (), ⟨[], paddingReport pending ++ (own ++ calls)⟩) := by
  have typeByte : (UInt8.ofNat frameType).toNat = frameType := by
    rw [UInt8.toNat_ofNat']
    exact Nat.mod_eq_of_lt isByte
  have split : BigEndian.encode 1 frameType ++ payload ++ restBytes =
      UInt8.ofNat frameType :: (payload ++ restBytes) := by
    rw [BigEndian.encode_one, List.append_assoc]
    rfl
  rw [split] at enough ⊢
  have stops : (UInt8.ofNat frameType :: (payload ++ restBytes)).head? ≠ some 0 := by
    intro zero
    have same := congrArg UInt8.toNat (Option.some.inj zero)
    rw [typeByte] at same
    exact positive.ne' same
  have ⟨fuel, room, read⟩ := record_padding env stops pending enough
  rw [List.length_cons, List.length_append] at room
  obtain ⟨left, rfl⟩ := Nat.exists_eq_succ_of_ne_zero (by omega : fuel ≠ 0)
  rw [ReadsBack] at ownRead
  rw [read, record_processFrames_cons, typeByte, ownRead]
  dsimp only
  rw [restRead left (by omega)]
  rfl

theorem paddingSize_pos {numPaddingBytes : Int} (some : numPaddingBytes ≠ 0) (room : Nat) :
    0 < paddingSize room numPaddingBytes := by
  unfold paddingSize
  split_ifs <;> omega

theorem frameBytes_padding (io : QuicData) (header : QuicPacketHeader) {numPaddingBytes : Int}
    (some : numPaddingBytes ≠ 0) (room : Nat) (noStreamFrameLength : Bool) :
    frameBytes io header room noStreamFrameLength (.padding numPaddingBytes) =
      List.replicate (paddingSize room numPaddingBytes) 0 := by
  obtain ⟨count, size⟩ := Nat.exists_eq_succ_of_ne_zero (paddingSize_pos some room).ne'
  show BigEndian.encode 1 paddingFrame ++
    List.replicate (paddingSize room numPaddingBytes - 1) 0 = _
  rw [BigEndian.encode_one, size, List.replicate_succ]
  rfl

theorem exists_reportedFrames {frames : List QuicFrame} :
    ∀ {room : Nat}, (∀ frame ∈ frames, frame.WellFormed env.header) →
      FramesMarked env.io env.header room frames →
      ∀ pending, ∃ calls, ReportedFrames env room pending frames calls ∧
        ∀ bound, pending + (framesBytes env.io env.header room frames).length ≤ bound →
          record env.io (env.processFrames bound)
            (List.replicate pending 0 ++ framesBytes env.io env.header room frames) =
              (.ok (), ⟨[], calls⟩) := by
  induction frames with
  | nil =>
      intro room _ _ pending
      have noBytes : ([] : List UInt8).head? ≠ some 0 := by simp
      refine ⟨_, .done room pending, fun bound enough => ?_⟩
      obtain ⟨fuel, _, read⟩ := record_padding env noBytes pending enough
      rw [framesBytes, read, record_processFrames_nil]
      simp [prepend]
  | cons frame rest inductionHypothesis =>
      intro room wellFormed marked pending
      obtain ⟨own, others⟩ := List.forall_mem_cons.mp wellFormed
      by_cases isPadding : frame.IsPadding
      · cases frame with
        | padding numPaddingBytes =>
            have bytes := frameBytes_padding env.io env.header (padding_ne_zero own) room
              rest.isEmpty
            have markedRest := marked.2
            rw [bytes, List.length_replicate] at markedRest
            obtain ⟨calls, reported, read⟩ := inductionHypothesis others markedRest
              (pending + paddingSize room numPaddingBytes)
            refine ⟨calls, .padding reported, fun bound enough => ?_⟩
            rw [framesBytes, bytes, List.length_replicate] at enough ⊢
            rw [List.length_append, List.length_replicate] at enough
            rw [← List.append_assoc, List.replicate_append_replicate]
            exact read bound (by omega)
        | _ => cases isPadding
      · obtain ⟨ownCalls, ownReported, ownRead⟩ :=
          exists_reported env own isPadding marked.1 rest.isEmpty
        obtain ⟨calls, reported, read⟩ := inductionHypothesis others marked.2 0
        obtain ⟨positive, isByte⟩ := frameWire_type env own isPadding room rest.isEmpty
        refine ⟨_, .frame isPadding ownReported reported, fun bound enough => ?_⟩
        apply record_frame env positive isByte (ownRead _ ?_)
        · intro left room
          have later := read left
          rw [List.replicate_zero, List.nil_append, Nat.zero_add] at later
          exact later room
        · exact enough
        · intro last
          rw [List.isEmpty_iff.mp last]
          rfl

end Reading

end StupidSimple.Quic
