import StupidSimple.Quic.FrameRoundTrip
import StupidSimple.Quic.IetfFrames

/-!
Owns the exchange of frames in the IETF format. What an append function writes is read back
by the process function of its kind, whatever follows, and a frame that does not fit is not
written. Ack frames have a module of their own.
-/

namespace StupidSimple.Quic

open StupidSimple.Library

/-! ### Rules -/

/-- The function appends just these bytes, or fails when they do not fit. -/
def IetfWrites (append : IetfAppend) (bytes : List UInt8) : Prop :=
  ∀ writer : QuicDataWriter, writer.Sound → (append writer).toOption = writer.writeBytes bytes

/-- The function reads the bytes and leaves what follows. -/
def Reads {α : Type} (program : IetfReader α) (bytes rest : List UInt8) (value : α) : Prop :=
  program.run (bytes ++ rest) = .ok (value, rest)

section Rules

variable {front rest : List UInt8}

theorem ietfWrites_nothing : IetfWrites (appendFields []) [] := writes_nothing

theorem IetfWrites.bind {first second : IetfAppend} (writesFirst : IetfWrites first front)
    (writesSecond : IetfWrites second rest) :
    IetfWrites (fun writer => first writer >>= second) (front ++ rest) := by
  intro writer sound
  have split : (first writer >>= second).toOption =
      (first writer).toOption.bind fun after => (second after).toOption := by
    cases first writer <;> rfl
  rw [split, writesFirst writer sound, ← QuicDataWriter.writeBytes_bind]
  apply Option.bind_congr
  intro after written
  exact writesSecond after (QuicDataWriter.sound_of_writeBytes written)

theorem Writes.ietfField {write : QuicDataWriter → Option QuicDataWriter} {detail : String}
    {fields : List (String × (QuicDataWriter → Option QuicDataWriter))}
    (writesField : Writes write front) (writesRest : IetfWrites (appendFields fields) rest) :
    IetfWrites (appendFields ((detail, write) :: fields)) (front ++ rest) := by
  intro writer sound
  have split : (appendFields ((detail, write) :: fields) writer).toOption =
      (write writer).bind fun after => (appendFields fields after).toOption := by
    rw [appendFields]
    cases write writer <;> rfl
  rw [split, writesField writer sound, ← QuicDataWriter.writeBytes_bind]
  apply Option.bind_congr
  intro after written
  exact writesRest after (QuicDataWriter.sound_of_writeBytes written)

/-- The last field. -/
theorem IetfWrites.last {write : QuicDataWriter → Option QuicDataWriter} {detail : String}
    (writesField : Writes write front) : IetfWrites (appendFields [(detail, write)]) front := by
  have whole : IetfWrites (appendFields [(detail, write)]) (front ++ []) :=
    Writes.ietfField writesField ietfWrites_nothing
  rwa [List.append_nil] at whole

variable {α β : Type} {bytes right after : List UInt8} {value : α} {result : β}

theorem reads_pure (value : α) (rest : List UInt8) : Reads (pure value) [] rest value := rfl

theorem Reads.bind {program : IetfReader α} {next : α → IetfReader β}
    (readsFirst : Reads program bytes (right ++ after) value)
    (readsNext : Reads (next value) right after result) :
    Reads (program >>= next) (bytes ++ right) after result := by
  rw [Reads, List.append_assoc, StateT.run_bind, readsFirst]
  exact readsNext

/-- The last read, whose value is put into a frame. -/
theorem Reads.last {program : IetfReader α} (reads : Reads program bytes after value)
    (function : α → β) :
    Reads (program >>= fun value => pure (function value)) bytes after (function value) := by
  rw [Reads, StateT.run_bind, reads]
  rfl

theorem Reads.map {program : IetfReader α} (reads : Reads program bytes after value)
    (function : α → β) : Reads (function <$> program) bytes after (function value) := by
  rw [Reads, StateT.run_map, reads]
  rfl

theorem reads_readOr {detail : String} {read : List UInt8 → Option (α × List UInt8)}
    (found : read (bytes ++ after) = some (value, after)) :
    Reads (readOr detail read) bytes after value := by
  show readOr detail read (bytes ++ after) = _
  rw [readOr, found]

end Rules

/-! ### Fields -/

section Fields

variable (env : IetfEnv)

/-- The bytes of an integer of 62 bits. -/
def varIntWire (value : Nat) : List UInt8 := (env.writeVarInt62 value).getD []

variable {env} {value : Nat} (narrow : value < 2 ^ 62)

include narrow

theorem writeVarInt62_eq : env.writeVarInt62 value = some (varIntWire env value) := by
  have ⟨bytes, written⟩ := env.writeVarInt62_some value narrow
  rw [varIntWire, written]
  rfl

theorem writes_writeVarInt62 : Writes (writeVarInt62 env value) (varIntWire env value) := by
  intro writer _
  show (env.writeVarInt62 value).bind writer.writeBytes = _
  rw [writeVarInt62_eq narrow]
  rfl

theorem readVarInt62_wire (rest : List UInt8) :
    env.readVarInt62 (varIntWire env value ++ rest) = some (value, rest) :=
  env.readVarInt62_written value _ rest (writeVarInt62_eq narrow)

theorem reads_readVarInt62 (detail : String) (rest : List UInt8) :
    Reads (readVarInt62 env detail) (varIntWire env value) rest value :=
  reads_readOr (readVarInt62_wire narrow rest)

omit narrow

theorem lt_of_streamId (isStreamId : value < 2 ^ 32) : value < 2 ^ 62 :=
  isStreamId.trans (by decide)

theorem reads_readVarIntStreamId (isStreamId : value < 2 ^ 32) (detail : String)
    (rest : List UInt8) :
    Reads (readVarIntStreamId env detail) (varIntWire env value) rest value := by
  apply reads_readOr
  exact env.readVarIntStreamId_eq _ value rest (readVarInt62_wire (lt_of_streamId isStreamId) rest)
    isStreamId

theorem reads_readUInt16 (isShort : value < 2 ^ 16) (detail : String) (rest : List UInt8) :
    Reads (readUInt16Ietf env detail) (BigEndian.encode 2 value) rest value := by
  have length : (BigEndian.encode 2 value).length = 2 := BigEndian.length_encode 2 value
  have enough : 2 ≤ (BigEndian.encode 2 value ++ rest).length := by
    rw [List.length_append, length]
    exact Nat.le_add_right 2 _
  apply reads_readOr
  rw [env.io.readBytesToUInt64_eq 2 _ (by decide), if_pos enough, List.take_left' length,
    List.drop_left' length, BigEndian.decode_encode_of_lt isShort]

theorem reads_readBytes {text : List UInt8} {length : Nat} (same : text.length = length)
    (detail : String) (rest : List UInt8) : Reads (readBytes length detail) text rest text := by
  have enough : length ≤ (text ++ rest).length := by
    rw [List.length_append, same]
    exact Nat.le_add_right length _
  apply reads_readOr
  rw [QuicData.readStringPiece, if_pos enough, List.take_left' same, List.drop_left' same]

theorem writes_writeType (frameType : UInt8) : Writes (writeType frameType) [frameType] :=
  writes_writeBytes [frameType]

end Fields

/-! ### Types of stream frames -/

theorem or_and_distrib (left right mask : UInt8) :
    (left ||| right) &&& mask = (left &&& mask) ||| (right &&& mask) :=
  UInt8.toBitVec_inj.mp BitVec.and_or_distrib_right

section StreamType

variable (env : IetfEnv) (fin hasOffset hasLength : Bool)

theorem ietfStreamType_fin :
    ietfStreamType env fin hasOffset hasLength &&& env.ietfStreamFrameFinBit ≠ 0 ↔ fin = true := by
  have offFin := (UInt8.and_comm _ _).trans env.fin_off
  have lenFin := (UInt8.and_comm _ _).trans env.fin_len
  simp only [ietfStreamType, or_and_distrib, env.stream_fin]
  cases fin <;> cases hasOffset <;> cases hasLength <;>
    simp [offFin, lenFin, env.fin_ne_zero]

theorem ietfStreamType_off :
    ietfStreamType env fin hasOffset hasLength &&& env.ietfStreamFrameOffBit ≠ 0 ↔
      hasOffset = true := by
  simp only [ietfStreamType, or_and_distrib, env.stream_off]
  cases fin <;> cases hasOffset <;> cases hasLength <;>
    simp [env.fin_off, env.len_off, env.off_ne_zero]

theorem ietfStreamType_len :
    ietfStreamType env fin hasOffset hasLength &&& env.ietfStreamFrameLenBit ≠ 0 ↔
      hasLength = true := by
  have offLen := (UInt8.and_comm _ _).trans env.len_off
  simp only [ietfStreamType, or_and_distrib, env.stream_len]
  cases fin <;> cases hasOffset <;> cases hasLength <;>
    simp [env.fin_len, offLen, env.len_ne_zero]

end StreamType

/-! ### Frames -/

inductive IetfFrame where
  | stream (frame : QuicStreamFrame)
  | connectionClose (errorCode : Nat) (errorDetails : List UInt8)
  | applicationClose (errorCode : Nat) (errorDetails : List UInt8)
  | padding (numPaddingBytes : Int)
  | pathChallenge (dataBuffer : List UInt8)
  | pathResponse (dataBuffer : List UInt8)
  | resetStream (streamId byteOffset errorCode : Nat)
  | stopSending (streamId applicationErrorCode : Nat)
  | maxData (streamId byteOffset : Nat)
  | maxStreamData (streamId byteOffset : Nat)
  | maxStreamId (maxStreamId : Nat)
  | blocked (offset : Nat)
  | streamBlocked (streamId byteOffset : Nat)
  | streamIdBlocked (streamId : Nat)
deriving DecidableEq, Repr

namespace IetfFrame

/-- The values of a frame are within its fields. -/
def WellFormed (env : IetfEnv) : IetfFrame → Prop
  | stream frame => frame.streamId < 2 ^ 32 ∧ frame.offset < 2 ^ 62 ∧
      frame.dataLength = frame.data.length ∧ frame.data.length < 2 ^ 16
  | connectionClose _ errorDetails | applicationClose _ errorDetails =>
      errorDetails.length < 2 ^ 62
  | padding numPaddingBytes => numPaddingBytes ≠ 0
  | pathChallenge dataBuffer | pathResponse dataBuffer =>
      dataBuffer.length = env.kQuicPathFrameBufferSize
  | resetStream streamId byteOffset _ => streamId < 2 ^ 32 ∧ byteOffset < 2 ^ 62
  | stopSending streamId applicationErrorCode => streamId < 2 ^ 32 ∧ applicationErrorCode < 2 ^ 16
  | maxData _ byteOffset => byteOffset < 2 ^ 62
  | maxStreamData streamId byteOffset | streamBlocked streamId byteOffset =>
      streamId < 2 ^ 32 ∧ byteOffset < 2 ^ 62
  | maxStreamId streamId | streamIdBlocked streamId => streamId < 2 ^ 32
  | blocked offset => offset < 2 ^ 62

/-- What may follow a frame: nothing behind a stream frame without a length, and no further
padding behind padding. -/
def EndsBefore (lastFrameInPacket : Bool) (rest : List UInt8) : IetfFrame → Prop
  | stream _ => lastFrameInPacket = true → rest = []
  | padding _ => rest.head? ≠ some 0
  | _ => True

/-- What the other side makes of a frame: error codes have sixteen bits, and the stream of
`IETF_MAX_DATA` is the connection. -/
def received (room : Nat) : IetfFrame → IetfFrame
  | connectionClose errorCode errorDetails => connectionClose (errorCode % 2 ^ 16) errorDetails
  | applicationClose errorCode errorDetails => applicationClose (errorCode % 2 ^ 16) errorDetails
  | padding numPaddingBytes => padding (paddingSize room numPaddingBytes)
  | resetStream streamId byteOffset errorCode =>
      resetStream streamId byteOffset (errorCode % 2 ^ 16)
  | maxData _ byteOffset => maxData 0 byteOffset
  | frame => frame

section Functions

variable (env : IetfEnv)

/-- The append function of the frame's kind. -/
def append (lastFrameInPacket : Bool) : IetfFrame → IetfAppend
  | stream frame => appendIetfStreamFrame env frame lastFrameInPacket
  | connectionClose errorCode errorDetails =>
      appendIetfConnectionCloseFrame env errorCode errorDetails
  | applicationClose errorCode errorDetails =>
      appendIetfApplicationCloseFrame env errorCode errorDetails
  | padding numPaddingBytes => appendIetfPaddingFrame numPaddingBytes
  | pathChallenge dataBuffer => appendIetfPathChallengeFrame env dataBuffer
  | pathResponse dataBuffer => appendIetfPathResponseFrame env dataBuffer
  | resetStream streamId byteOffset errorCode =>
      appendIetfResetStreamFrame env streamId byteOffset errorCode
  | stopSending streamId applicationErrorCode =>
      appendIetfStopSendingFrame env streamId applicationErrorCode
  | maxData _ byteOffset => appendIetfMaxDataFrame env byteOffset
  | maxStreamData streamId byteOffset => appendIetfMaxStreamDataFrame env streamId byteOffset
  | maxStreamId streamId => appendIetfMaxStreamIdFrame env streamId
  | blocked offset => appendIetfBlockedFrame env offset
  | streamBlocked streamId byteOffset => appendIetfStreamBlockedFrame env streamId byteOffset
  | streamIdBlocked streamId => appendIetfStreamIdBlockedFrame env streamId

/-- The process function of the frame's kind; only the kind counts. -/
def process (frameType : UInt8) : IetfFrame → IetfReader IetfFrame
  | stream _ => stream <$> processIetfStreamFrame env frameType
  | connectionClose _ _ =>
      (fun close => connectionClose close.1 close.2) <$> processIetfCloseFrame env
  | applicationClose _ _ =>
      (fun close => applicationClose close.1 close.2) <$> processIetfCloseFrame env
  | padding _ => padding <$> processIetfPaddingFrame
  | pathChallenge _ => pathChallenge <$> processIetfPathChallengeFrame env
  | pathResponse _ => pathResponse <$> processIetfPathResponseFrame env
  | resetStream _ _ _ =>
      (fun reset => resetStream reset.1 reset.2.1 reset.2.2) <$> processIetfResetStreamFrame env
  | stopSending _ _ => (fun stop => stopSending stop.1 stop.2) <$> processIetfStopSendingFrame env
  | maxData _ _ => (fun data => maxData data.1 data.2) <$> processIetfMaxDataFrame env
  | maxStreamData _ _ =>
      (fun data => maxStreamData data.1 data.2) <$> processIetfMaxStreamDataFrame env
  | maxStreamId _ => maxStreamId <$> processIetfMaxStreamIdFrame env
  | blocked _ => blocked <$> processIetfBlockedFrame env
  | streamBlocked _ _ =>
      (fun blocked => streamBlocked blocked.1 blocked.2) <$> processIetfStreamBlockedFrame env
  | streamIdBlocked _ => streamIdBlocked <$> processIetfStreamIdBlockedFrame env

/-- The type byte of a frame and the bytes behind it. -/
def wire (lastFrameInPacket : Bool) (room : Nat) : IetfFrame → UInt8 × List UInt8
  | stream frame =>
      (ietfStreamType env frame.fin (frame.offset ≠ 0) (!lastFrameInPacket),
        varIntWire env frame.streamId ++
          ((if frame.offset ≠ 0 then varIntWire env frame.offset else []) ++
            ((if lastFrameInPacket = false then varIntWire env frame.dataLength else []) ++
              frame.data)))
  | connectionClose errorCode errorDetails =>
      (env.ietfConnectionClose, BigEndian.encode 2 (errorCode % 2 ^ 16) ++
        (varIntWire env errorDetails.length ++ errorDetails))
  | applicationClose errorCode errorDetails =>
      (env.ietfApplicationClose, BigEndian.encode 2 (errorCode % 2 ^ 16) ++
        (varIntWire env errorDetails.length ++ errorDetails))
  | padding numPaddingBytes => (0, List.replicate (paddingSize room numPaddingBytes - 1) 0)
  | pathChallenge dataBuffer => (env.ietfPathChallenge, dataBuffer)
  | pathResponse dataBuffer => (env.ietfPathResponse, dataBuffer)
  | resetStream streamId byteOffset errorCode =>
      (env.ietfRstStream, varIntWire env streamId ++
        (BigEndian.encode 2 (errorCode % 2 ^ 16) ++ varIntWire env byteOffset))
  | stopSending streamId applicationErrorCode =>
      (env.ietfStopSending, varIntWire env streamId ++ BigEndian.encode 2 applicationErrorCode)
  | maxData _ byteOffset => (env.ietfMaxData, varIntWire env byteOffset)
  | maxStreamData streamId byteOffset =>
      (env.ietfMaxStreamData, varIntWire env streamId ++ varIntWire env byteOffset)
  | maxStreamId streamId => (env.ietfMaxStreamId, varIntWire env streamId)
  | blocked offset => (env.ietfBlocked, varIntWire env offset)
  | streamBlocked streamId byteOffset =>
      (env.ietfStreamBlocked, varIntWire env streamId ++ varIntWire env byteOffset)
  | streamIdBlocked streamId => (env.ietfStreamIdBlocked, varIntWire env streamId)

end Functions

end IetfFrame

/-! ### Writing -/

section Writing

variable {env : IetfEnv}

/-- A field that a flag announces. -/
theorem IetfWrites.optional {condition : Prop} [Decidable condition] {detail : String}
    {write : QuicDataWriter → Option QuicDataWriter} {front rest : List UInt8}
    {fields : List (String × (QuicDataWriter → Option QuicDataWriter))}
    (writesField : condition → Writes write front)
    (writesRest : IetfWrites (appendFields fields) rest) :
    IetfWrites (appendFields ((if condition then [(detail, write)] else []) ++ fields))
      ((if condition then front else []) ++ rest) := by
  split_ifs with announced
  · exact Writes.ietfField (writesField announced) writesRest
  · exact writesRest

theorem ietfWrites_stream {frame : QuicStreamFrame}
    (wellFormed : (IetfFrame.stream frame).WellFormed env) (lastFrameInPacket : Bool) (room : Nat) :
    IetfWrites (appendIetfStreamFrame env frame lastFrameInPacket)
      ([((IetfFrame.stream frame).wire env lastFrameInPacket room).1] ++
        ((IetfFrame.stream frame).wire env lastFrameInPacket room).2) := by
  have ⟨idNarrow, offsetNarrow, sameLength, short⟩ := wellFormed
  have whole : frame.data.take frame.dataLength = frame.data :=
    List.take_of_length_le sameLength.ge
  have lengthNarrow : frame.dataLength < 2 ^ 62 := by omega
  unfold appendIetfStreamFrame
  simp only [ietfStreamType_off, ietfStreamType_len, decide_eq_true_eq, Bool.not_eq_true',
    List.append_assoc, whole]
  apply (writes_writeType _).ietfField
  apply (writes_writeVarInt62 (lt_of_streamId idNarrow)).ietfField
  apply IetfWrites.optional fun _ => writes_writeVarInt62 offsetNarrow
  apply IetfWrites.optional fun _ => writes_writeVarInt62 lengthNarrow
  exact IetfWrites.last (writes_writeBytes frame.data)

theorem ietfWrites_close (frameType : UInt8) (code : Nat) {phrase : List UInt8}
    (short : phrase.length < 2 ^ 62) :
    IetfWrites (appendIetfCloseFrame env frameType code phrase)
      ([frameType] ++
        (BigEndian.encode 2 code ++ (varIntWire env phrase.length ++ phrase))) := by
  have text : IetfWrites (appendFields (if phrase = [] then [] else
      [("Can not write phrase", QuicDataWriter.writeBytes phrase)])) phrase := by
    split_ifs with empty
    · rw [empty]
      exact ietfWrites_nothing
    · exact IetfWrites.last (writes_writeBytes phrase)
  apply (writes_writeType _).ietfField
  apply (writes_writeUInt16 env.io _).ietfField
  exact (writes_writeVarInt62 short).ietfField text

theorem appendIetfPaddingFrame_eq {numPaddingBytes : Int} (some : numPaddingBytes ≠ 0)
    {writer : QuicDataWriter} (sound : writer.Sound) (io : QuicData) (header : QuicPacketHeader) :
    (appendIetfPaddingFrame numPaddingBytes writer).toOption =
      writer.writeBytes (List.replicate (paddingSize writer.remaining numPaddingBytes) 0) := by
  have plain : (appendIetfPaddingFrame numPaddingBytes writer).toOption =
      appendFrame io header false (.padding numPaddingBytes) writer := by
    show (appendIetfPaddingFrame numPaddingBytes writer).toOption =
      (writeType 0 writer).bind (appendPaddingFrame numPaddingBytes)
    unfold appendIetfPaddingFrame
    rw [appendFields]
    cases writeType 0 writer with
    | none => rfl
    | some after =>
        dsimp only [appendFields, bind, Except.bind, Option.bind]
        cases appendPaddingFrame numPaddingBytes after <;> rfl
  rw [plain, appendPadding_eq io sound some, frameBytes_padding io header some]

theorem IetfFrame.append_eq {frame : IetfFrame} (wellFormed : frame.WellFormed env)
    (lastFrameInPacket : Bool) {writer : QuicDataWriter} (sound : writer.Sound) :
    (frame.append env lastFrameInPacket writer).toOption =
      writer.writeBytes ([(frame.wire env lastFrameInPacket writer.remaining).1] ++
        (frame.wire env lastFrameInPacket writer.remaining).2) := by
  have typed : ∀ {frameType : UInt8} {detail : String} {payload : List UInt8}
      {fields : List (String × (QuicDataWriter → Option QuicDataWriter))},
      IetfWrites (appendFields fields) payload →
      (appendFields ((detail, writeType frameType) :: fields) writer).toOption =
        writer.writeBytes ([frameType] ++ payload) := fun writes =>
    (writes_writeType _).ietfField writes writer sound
  cases frame with
  | stream frame => exact ietfWrites_stream wellFormed lastFrameInPacket _ writer sound
  | connectionClose errorCode errorDetails => exact ietfWrites_close _ _ wellFormed writer sound
  | applicationClose errorCode errorDetails => exact ietfWrites_close _ _ wellFormed writer sound
  | padding numPaddingBytes =>
      have header : QuicPacketHeader := ⟨.packet1Byte, 0⟩
      obtain ⟨count, size⟩ := Nat.exists_eq_succ_of_ne_zero
        (paddingSize_pos wellFormed writer.remaining).ne'
      show (appendIetfPaddingFrame numPaddingBytes writer).toOption = writer.writeBytes
        ([0] ++ List.replicate (paddingSize writer.remaining numPaddingBytes - 1) 0)
      rw [appendIetfPaddingFrame_eq wellFormed sound env.io header, size]
      rfl
  | pathChallenge dataBuffer => exact typed (IetfWrites.last (writes_writeBytes dataBuffer))
  | pathResponse dataBuffer => exact typed (IetfWrites.last (writes_writeBytes dataBuffer))
  | resetStream streamId byteOffset errorCode =>
      exact typed ((writes_writeVarInt62 (lt_of_streamId wellFormed.1)).ietfField
        ((writes_writeUInt16 env.io _).ietfField
          (IetfWrites.last (writes_writeVarInt62 wellFormed.2))))
  | stopSending streamId applicationErrorCode =>
      exact typed ((writes_writeVarInt62 (lt_of_streamId wellFormed.1)).ietfField
        (IetfWrites.last (writes_writeUInt16 env.io _)))
  | maxData streamId byteOffset =>
      exact typed (IetfWrites.last (writes_writeVarInt62 wellFormed))
  | maxStreamData streamId byteOffset =>
      exact typed ((writes_writeVarInt62 (lt_of_streamId wellFormed.1)).ietfField
        (IetfWrites.last (writes_writeVarInt62 wellFormed.2)))
  | maxStreamId streamId =>
      exact typed (IetfWrites.last (writes_writeVarInt62 (lt_of_streamId wellFormed)))
  | blocked offset => exact typed (IetfWrites.last (writes_writeVarInt62 wellFormed))
  | streamBlocked streamId byteOffset =>
      exact typed ((writes_writeVarInt62 (lt_of_streamId wellFormed.1)).ietfField
        (IetfWrites.last (writes_writeVarInt62 wellFormed.2)))
  | streamIdBlocked streamId =>
      exact typed (IetfWrites.last (writes_writeVarInt62 (lt_of_streamId wellFormed)))

end Writing

/-! ### Reading -/

section Reading

variable {env : IetfEnv} {rest : List UInt8}

theorem reads_readStreamOffset {offset : Nat} (narrow : offset < 2 ^ 62) :
    Reads (readStreamOffset env (offset ≠ 0)) (if offset ≠ 0 then varIntWire env offset else [])
      rest offset := by
  unfold readStreamOffset
  simp only [decide_eq_true_eq]
  split_ifs with given
  · exact reads_readVarInt62 narrow _ rest
  · rw [not_not.mp given]
    exact reads_pure 0 rest

theorem reads_readStreamLength {length : Nat} (short : length < 2 ^ 16) {hasLength : Bool}
    (remaining : hasLength = false → rest.length = length) :
    Reads (readStreamLength env hasLength)
      (if hasLength = true then varIntWire env length else []) rest length := by
  have narrow : length < 2 ^ 62 := short.trans (by decide)
  cases hasLength with
  | false =>
      show Except.ok (rest.length % 2 ^ 16, rest) = _
      rw [remaining rfl, Nat.mod_eq_of_lt short]
  | true =>
      have fits : ¬0xffff < length := by omega
      have checked : Reads (if 0xffff < length then throw "Stream data length is too large."
          else pure length : IetfReader Nat) [] rest length := by
        rw [if_neg fits]
        exact reads_pure length rest
      have whole : Reads (readStreamLength env true) (varIntWire env length ++ []) rest length :=
        (reads_readVarInt62 narrow _ ([] ++ rest)).bind checked
      rwa [List.append_nil] at whole

theorem reads_processIetfStreamFrame {frame : QuicStreamFrame}
    (wellFormed : (IetfFrame.stream frame).WellFormed env) {lastFrameInPacket : Bool}
    (last : lastFrameInPacket = true → rest = []) :
    Reads (processIetfStreamFrame env
        (ietfStreamType env frame.fin (frame.offset ≠ 0) (!lastFrameInPacket)))
      (varIntWire env frame.streamId ++
        ((if frame.offset ≠ 0 then varIntWire env frame.offset else []) ++
          ((if lastFrameInPacket = false then varIntWire env frame.dataLength else []) ++
            frame.data))) rest frame := by
  have ⟨idNarrow, offsetNarrow, sameLength, short⟩ := wellFormed
  have remaining : (!lastFrameInPacket) = false →
      (frame.data ++ rest).length = frame.dataLength := by
    intro isLast
    rw [last (by simpa using isLast), List.append_nil, sameLength]
  have restored : (⟨frame.streamId, frame.fin, frame.offset, frame.data,
      frame.data.length % 2 ^ 16⟩ : QuicStreamFrame) = frame := by
    rw [Nat.mod_eq_of_lt short, ← sameLength]
  have lengthRead : Reads (readStreamLength env (!lastFrameInPacket))
      (if (!lastFrameInPacket) = true then varIntWire env frame.dataLength else [])
      (frame.data ++ rest) frame.dataLength :=
    reads_readStreamLength (sameLength ▸ short) remaining
  have dataRead := (reads_readBytes sameLength.symm "Unable to read frame data." rest).last
    fun data => (⟨frame.streamId, frame.fin, frame.offset, data, data.length % 2 ^ 16⟩ :
      QuicStreamFrame)
  rw [restored] at dataRead
  unfold processIetfStreamFrame
  simp only [ietfStreamType_off, ietfStreamType_len, ietfStreamType_fin, decide_eq_true_eq,
    Bool.decide_eq_true]
  apply (reads_readVarIntStreamId idNarrow _ _).bind
  apply (reads_readStreamOffset offsetNarrow).bind
  simp only [Bool.not_eq_true'] at lengthRead
  exact lengthRead.bind dataRead

theorem reads_processIetfCloseFrame {code : Nat} (isShort : code < 2 ^ 16) {phrase : List UInt8}
    (narrow : phrase.length < 2 ^ 62) :
    Reads (processIetfCloseFrame env)
      (BigEndian.encode 2 code ++ (varIntWire env phrase.length ++ phrase)) rest
      (code, phrase) := by
  apply (reads_readUInt16 isShort _ _).bind
  apply (reads_readVarInt62 narrow _ _).bind
  exact (reads_readBytes rfl _ rest).last _

theorem reads_processIetfPaddingFrame (count : Nat) (stops : rest.head? ≠ some 0) :
    Reads processIetfPaddingFrame (List.replicate count 0) rest (1 + count) := by
  have zeros : ∀ byte ∈ List.replicate count (0 : UInt8), decide (byte = 0) = true := by
    intro byte member
    exact decide_eq_true (List.eq_of_mem_replicate member)
  have noneTaken : rest.takeWhile (· = 0) = [] ∧ rest.dropWhile (· = 0) = rest := by
    cases rest with
    | nil => exact ⟨rfl, rfl⟩
    | cons byte rest =>
        have other : ¬byte = 0 := fun zero => stops (congrArg some zero)
        rw [List.takeWhile_cons_of_neg (by simpa using other),
          List.dropWhile_cons_of_neg (by simpa using other)]
        exact ⟨rfl, rfl⟩
  show Except.ok (1 + (((List.replicate count 0 ++ rest).takeWhile (· = 0)).length : Int),
    (List.replicate count 0 ++ rest).dropWhile (· = 0)) = _
  rw [List.takeWhile_append_of_pos zeros, List.dropWhile_append_of_pos zeros, noneTaken.1,
    noneTaken.2, List.append_nil, List.length_replicate]

theorem IetfFrame.reads_process {frame : IetfFrame} (wellFormed : frame.WellFormed env)
    {lastFrameInPacket : Bool} (ends : frame.EndsBefore lastFrameInPacket rest) (room : Nat) :
    Reads (frame.process env (frame.wire env lastFrameInPacket room).1)
      (frame.wire env lastFrameInPacket room).2 rest (frame.received room) := by
  have halved : ∀ code : Nat, code % 2 ^ 16 < 2 ^ 16 := fun code => Nat.mod_lt _ (by decide)
  cases frame with
  | stream frame => exact (reads_processIetfStreamFrame wellFormed ends).map stream
  | connectionClose errorCode errorDetails =>
      exact (reads_processIetfCloseFrame (halved errorCode) wellFormed).map _
  | applicationClose errorCode errorDetails =>
      exact (reads_processIetfCloseFrame (halved errorCode) wellFormed).map _
  | padding numPaddingBytes =>
      have size := paddingSize_pos wellFormed room
      have whole : (1 + (paddingSize room numPaddingBytes - 1 : Nat) : Int) =
          paddingSize room numPaddingBytes := by omega
      have read := (reads_processIetfPaddingFrame (paddingSize room numPaddingBytes - 1)
        ends).map padding
      rw [whole] at read
      exact read
  | pathChallenge dataBuffer => exact (reads_readBytes wellFormed _ rest).map pathChallenge
  | pathResponse dataBuffer => exact (reads_readBytes wellFormed _ rest).map pathResponse
  | resetStream streamId byteOffset errorCode =>
      have read : Reads (processIetfResetStreamFrame env) (varIntWire env streamId ++
          (BigEndian.encode 2 (errorCode % 2 ^ 16) ++ varIntWire env byteOffset)) rest
            (streamId, byteOffset, errorCode % 2 ^ 16) := by
        apply (reads_readVarIntStreamId wellFormed.1 _ _).bind
        apply (reads_readUInt16 (halved errorCode) _ _).bind
        exact (reads_readVarInt62 wellFormed.2 _ rest).last _
      exact read.map _
  | stopSending streamId applicationErrorCode =>
      have read : Reads (processIetfStopSendingFrame env) (varIntWire env streamId ++
          BigEndian.encode 2 applicationErrorCode) rest (streamId, applicationErrorCode) := by
        apply (reads_readVarIntStreamId wellFormed.1 _ _).bind
        exact (reads_readUInt16 wellFormed.2 _ rest).last _
      exact read.map _
  | maxData streamId byteOffset =>
      exact ((reads_readVarInt62 wellFormed _ rest).last _).map _
  | maxStreamData streamId byteOffset =>
      have read : Reads (processIetfMaxStreamDataFrame env) (varIntWire env streamId ++
          varIntWire env byteOffset) rest (streamId, byteOffset) := by
        apply (reads_readVarIntStreamId wellFormed.1 _ _).bind
        exact (reads_readVarInt62 wellFormed.2 _ rest).last _
      exact read.map _
  | maxStreamId streamId => exact (reads_readVarIntStreamId wellFormed _ rest).map maxStreamId
  | blocked offset => exact (reads_readVarInt62 wellFormed _ rest).map blocked
  | streamBlocked streamId byteOffset =>
      have read : Reads (processIetfStreamBlockedFrame env) (varIntWire env streamId ++
          varIntWire env byteOffset) rest (streamId, byteOffset) := by
        apply (reads_readVarIntStreamId wellFormed.1 _ _).bind
        exact (reads_readVarInt62 wellFormed.2 _ rest).last _
      exact read.map _
  | streamIdBlocked streamId =>
      exact (reads_readVarIntStreamId wellFormed _ rest).map streamIdBlocked

end Reading

/-- A frame is written as a whole, or not at all, and the process function of its kind reads
it back: all its fields but the upper bits of error codes, which have sixteen bits. It reads
as much as was written, whatever follows. -/
theorem ietf_frames_round_trip (env : IetfEnv) {frame : IetfFrame}
    (wellFormed : frame.WellFormed env) (lastFrameInPacket : Bool) {writer : QuicDataWriter}
    (sound : writer.Sound) :
    ∃ (frameType : UInt8) (payload : List UInt8),
      (frame.append env lastFrameInPacket writer).toOption =
        writer.writeBytes (frameType :: payload) ∧
      ∀ rest, frame.EndsBefore lastFrameInPacket rest →
        (frame.process env frameType).run (payload ++ rest) =
          .ok (frame.received writer.remaining, rest) :=
  ⟨_, _, frame.append_eq wellFormed lastFrameInPacket sound,
    fun _ ends => frame.reads_process wellFormed ends writer.remaining⟩

/-- The library with integers of variable length, and the types of the format. -/
def plainIetfEnv : IetfEnv where
  io := .networkOrder
  readVarInt62 := VarInt.decode
  readVarIntStreamId bytes := (VarInt.decode bytes).filter fun read => read.1 < 2 ^ 32
  writeVarInt62 := VarInt.encode
  ietfRstStream := 0x01
  ietfConnectionClose := 0x02
  ietfApplicationClose := 0x03
  ietfMaxData := 0x04
  ietfMaxStreamData := 0x05
  ietfMaxStreamId := 0x06
  ietfBlocked := 0x08
  ietfStreamBlocked := 0x09
  ietfStreamIdBlocked := 0x0a
  ietfStopSending := 0x0c
  ietfAck := 0x0d
  ietfPathChallenge := 0x0e
  ietfPathResponse := 0x0f
  ietfStream := 0x10
  ietfStreamFrameFinBit := 0x01
  ietfStreamFrameLenBit := 0x02
  ietfStreamFrameOffBit := 0x04
  kQuicPathFrameBufferSize := 8
  writeVarInt62_some _ := VarInt.exists_encode
  readVarInt62_written _ _ rest written := VarInt.decode_encode written rest
  readVarIntStreamId_eq bytes value rest read isStreamId := by
    rw [read, Option.filter_some, if_pos (decide_eq_true isStreamId)]
  fin_ne_zero := by decide
  len_ne_zero := by decide
  off_ne_zero := by decide
  fin_len := by decide
  fin_off := by decide
  len_off := by decide
  stream_fin := by decide
  stream_len := by decide
  stream_off := by decide

/-- The end of a stream, behind a thousand bytes that were sent before. -/
def lastStreamFrame : IetfFrame := .stream ⟨5, true, 1000, [1, 2, 3], 3⟩

theorem ietf_frames_round_trip_lastStreamFrame :
    ∃ frameType payload,
      (lastStreamFrame.append plainIetfEnv false (.create 100)).toOption =
        (QuicDataWriter.create 100).writeBytes (frameType :: payload) ∧
      (lastStreamFrame.process plainIetfEnv frameType).run (payload ++ [7]) =
        .ok (lastStreamFrame, [7]) := by
  have wellFormed : lastStreamFrame.WellFormed plainIetfEnv := by
    exact ⟨by decide, by decide, rfl, by decide⟩
  have ⟨frameType, payload, written, read⟩ := ietf_frames_round_trip plainIetfEnv wellFormed false
    (QuicDataWriter.sound_create 100)
  exact ⟨frameType, payload, written, read [7] fun last => by cases last⟩

end StupidSimple.Quic
