import StupidSimple.Quic.FrameRoundTrip

/-!
Owns the sizes of frames: frames take as many bytes as the framer computes for them
before it writes them, so that frames that fit are written, and read back.
-/

namespace StupidSimple.Quic

open StupidSimple.Library

/-! ### The size of a frame -/

/-- What a frame takes: its own length, or that of its padding. -/
def frameLength (header : QuicPacketHeader) (room : Nat) (lastFrame : Bool) : QuicFrame → Nat
  | .padding numPaddingBytes => paddingSize room numPaddingBytes
  | frame => computeFrameLength lastFrame header.packetNumberLength frame

section Sizes

variable (io : QuicData) {header : QuicPacketHeader} {room : Nat}

/-- All blocks that can be counted are written where there is room for them. -/
theorem ackBlockCount_of_fits {frame : QuicAckFrame} (fits : getAckFrameSize frame ≤ room) :
    ackBlockCount room frame = min (getAckFrameInfo frame).numAckBlocks kMaxAckBlocks := by
  rcases Nat.eq_zero_or_pos (getAckFrameInfo frame).numAckBlocks with none | some
  · rw [ackBlockCount, none, Nat.zero_min, Nat.zero_min, Nat.zero_min]
  · have enough : min (getAckFrameInfo frame).numAckBlocks kMaxAckBlocks ≤
        ackBlockRoom room frame := by
      simp only [getAckFrameSize, if_pos some.ne'] at fits
      simp only [ackBlockRoom, if_pos some.ne']
      apply (Nat.le_div_iff_mul_le (Nat.succ_pos _)).mpr
      rw [Nat.succ_eq_add_one]
      omega
    have limit : maxUInt8 = kMaxAckBlocks := rfl
    rw [ackBlockCount, limit]
    omega

/-- The fields of an ack frame, whose blocks are all there. -/
theorem length_ackFieldsWire_eq {frame : QuicAckFrame} (wellFormed : frame.WellFormed) :
    (ackFieldsWire io (ackBlockCount room frame) frame).length =
      3 + (getMinSeqLength frame.largestAcked).bytes +
        (getMinSeqLength (getAckFrameInfo frame).maxBlockLength).bytes +
        (if 0 < ackBlockCount room frame then 1 else 0) +
        ackBlockCount room frame *
          ((getMinSeqLength (getAckFrameInfo frame).maxBlockLength).bytes + 1) := by
  have ⟨top, below, split, _⟩ := top_of_isGreatest wellFormed.largest
  have few : ackBlockCount room frame ≤ (gapBlocks top.min below).length := by
    have counted : ackBlockCount room frame =
        min (blocksNeeded (top :: below)) (min maxUInt8 (ackBlockRoom room frame)) :=
      min_numAckBlocks_eq split (ackBlockRoom room frame)
    rw [counted]
    exact Nat.min_le_left _ _
  have blocksLength : ((blocksBelowTop frame.packets.descending).take
      (ackBlockCount room frame)).length = ackBlockCount room frame := by
    rw [split]
    exact List.length_take_of_le few
  have countLength : (if 0 < ackBlockCount room frame then
      BigEndian.encode 1 (ackBlockCount room frame) else []).length =
        if 0 < ackBlockCount room frame then 1 else 0 := by
    split_ifs
    · exact BigEndian.length_encode 1 _
    · rfl
  have delayLength := io.length_uFloat16Bytes (frame.ackDelayTime.getD io.kUFloat16MaxValue)
  simp only [ackFieldsWire, List.length_append, BigEndian.length_encode, delayLength, countLength,
    length_blocksWire, blocksLength, Nat.add_comm 1]
  omega

theorem length_ackFrame {frame : QuicAckFrame} (wellFormed : frame.WellFormed)
    (fits : getAckFrameSize frame ≤ room) :
    1 + (ackFieldsWire io (ackBlockCount room frame) frame).length = getAckFrameSize frame := by
  have counted := ackBlockCount_of_fits fits
  rw [length_ackFieldsWire_eq io wellFormed, counted]
  simp only [getAckFrameSize, getMinAckFrameSize, kQuicFrameTypeSize, kNumberOfAckBlocksSize,
    kQuicDeltaTimeLargestObservedSize, kQuicNumTimestampsSize]
  have limit : 0 < kMaxAckBlocks := by decide
  by_cases none : (getAckFrameInfo frame).numAckBlocks = 0
  · rw [none, Nat.zero_min]
    simp
    omega
  · have some : 0 < min (getAckFrameInfo frame).numAckBlocks kMaxAckBlocks := by omega
    rw [if_pos some, if_pos none]
    omega

theorem length_frameBytes {frame : QuicFrame} (wellFormed : frame.WellFormed header)
    (lastFrame : Bool) (fits : frameLength header room lastFrame frame ≤ room) :
    (frameBytes io header room lastFrame frame).length = frameLength header room lastFrame frame := by
  cases frame with
  | padding numPaddingBytes =>
      rw [frameBytes_padding io header (padding_ne_zero wellFormed), List.length_replicate]
      rfl
  | ack frame =>
      show (BigEndian.encode 1 (ackFrameType frame) ++
        ackFieldsWire io (ackBlockCount room frame) frame).length = getAckFrameSize frame
      rw [List.length_append, BigEndian.length_encode]
      exact length_ackFrame io wellFormed fits
  | stream frame =>
      have ⟨_, _, sameLength, _⟩ := wellFormed
      simp only [frameBytes, frameWire, streamWire, frameLength, computeFrameLength,
        getMinStreamFrameSize, kQuicFrameTypeSize, kQuicStreamPayloadLengthSize,
        List.length_append, BigEndian.length_encode, List.length_take]
      cases lastFrame <;> simp <;> omega
  | _ =>
      simp [frameBytes, frameWire, frameLength, computeFrameLength, textWire,
        getRstStreamFrameSize, getMinConnectionCloseFrameSize, getMinGoAwayFrameSize,
        getWindowUpdateFrameSize, getBlockedFrameSize, getStopWaitingFrameSize,
        kQuicFrameTypeSize, kQuicErrorCodeSize, kQuicErrorDetailsLengthSize, kQuicMaxStreamIdSize,
        kQuicMaxStreamOffsetSize]
      try omega

/-- Every frame takes some bytes. -/
theorem frameLength_pos {frame : QuicFrame} (wellFormed : frame.WellFormed header)
    (lastFrame : Bool) : 0 < frameLength header room lastFrame frame := by
  cases frame with
  | padding numPaddingBytes => exact paddingSize_pos (padding_ne_zero wellFormed) room
  | _ =>
      simp only [frameLength, computeFrameLength, getAckFrameSize, getMinAckFrameSize,
        getMinStreamFrameSize, getRstStreamFrameSize, getMinConnectionCloseFrameSize,
        getMinGoAwayFrameSize, getWindowUpdateFrameSize, getBlockedFrameSize,
        getStopWaitingFrameSize, kQuicFrameTypeSize]
      omega

/-- The framer gives a frame that fits its own length, in any place. -/
theorem getSerializedFrameLength_eq {frame : QuicFrame} (wellFormed : frame.WellFormed header)
    (firstFrame lastFrame : Bool) (fits : frameLength header room lastFrame frame ≤ room) :
    getSerializedFrameLength frame room firstFrame lastFrame header.packetNumberLength =
      frameLength header room lastFrame frame := by
  cases frame with
  | padding numPaddingBytes =>
      change paddingSize room numPaddingBytes ≤ room at fits
      show (if numPaddingBytes = -1 then room else _) = paddingSize room numPaddingBytes
      rcases wellFormed with toEnd | ⟨positive, narrow⟩
      · rw [if_pos toEnd]
        rw [toEnd] at fits ⊢
        exact (Nat.le_antisymm fits (Nat.le_max_left room 1)).symm
      · have small : (numPaddingBytes % 2 ^ 64).toNat = numPaddingBytes.toNat := by omega
        rw [paddingSize, if_neg (by omega)] at fits ⊢
        rw [if_neg (by omega), small, if_neg (by omega)]
  | _ => exact if_pos fits

theorem frameMarked_of_fits {frame : QuicFrame} (lastFrame : Bool)
    (fits : frameLength header room lastFrame frame ≤ room) : frame.Marked room := by
  cases frame with
  | ack frame =>
      intro some
      have limit : 0 < kMaxAckBlocks := by decide
      rw [ackBlockCount_of_fits fits]
      omega
  | _ => trivial

end Sizes

/-! ### The size of some frames -/

/-- The sum of the lengths that the framer gives for some frames, one behind the other. -/
def serializedLength (packetNumberLength : QuicPacketNumberLength) :
    (firstFrame : Bool) → (freeBytes : Nat) → List QuicFrame → Nat
  | _, _, [] => 0
  | firstFrame, freeBytes, frame :: rest =>
      let length := getSerializedFrameLength frame freeBytes firstFrame rest.isEmpty packetNumberLength
      length + serializedLength packetNumberLength false (freeBytes - length) rest

/-- Each frame fits behind those in front of it, without being cut. -/
def FramesFit (header : QuicPacketHeader) : (room : Nat) → List QuicFrame → Prop
  | _, [] => True
  | room, frame :: rest => frameLength header room rest.isEmpty frame ≤ room ∧
      FramesFit header (room - frameLength header room rest.isEmpty frame) rest

section Fitting

variable (io : QuicData) {header : QuicPacketHeader} {frames : List QuicFrame}

theorem length_framesBytes :
    ∀ {room : Nat}, (∀ frame ∈ frames, frame.WellFormed header) → FramesFit header room frames →
      ∀ firstFrame, (framesBytes io header room frames).length =
          serializedLength header.packetNumberLength firstFrame room frames ∧
        (framesBytes io header room frames).length ≤ room ∧
        FramesMarked io header room frames := by
  induction frames with
  | nil => exact fun _ _ _ => ⟨rfl, Nat.zero_le _, trivial⟩
  | cons frame rest inductionHypothesis =>
      intro room wellFormed fits firstFrame
      have ⟨own, others⟩ := List.forall_mem_cons.mp wellFormed
      have ⟨ownFits, restFit⟩ := fits
      have bytes := length_frameBytes io own rest.isEmpty ownFits
      have ⟨same, within, marked⟩ := inductionHypothesis others restFit false
      rw [serializedLength, getSerializedFrameLength_eq own firstFrame rest.isEmpty ownFits,
        framesBytes, List.length_append, bytes, same]
      rw [same] at within
      refine ⟨rfl, by omega, frameMarked_of_fits rest.isEmpty ownFits, ?_⟩
      rw [bytes]
      exact marked

theorem framesBytes_ne_nil {room : Nat} (some : frames ≠ [])
    (wellFormed : ∀ frame ∈ frames, frame.WellFormed header)
    (fits : FramesFit header room frames) : framesBytes io header room frames ≠ [] := by
  cases frames with
  | nil => exact absurd rfl some
  | cons frame rest =>
      have own := wellFormed frame List.mem_cons_self
      have bytes := length_frameBytes io own rest.isEmpty fits.1
      have positive : 0 < frameLength header room rest.isEmpty frame :=
        frameLength_pos own rest.isEmpty
      intro none
      rw [framesBytes] at none
      rw [List.length_eq_zero_iff.mpr (List.append_eq_nil_iff.mp none).1] at bytes
      exact positive.ne bytes

end Fitting

/-! ### From frames to reports -/

section Reports

variable {frames : List QuicFrame}

/-- Frames that fit are written. -/
theorem appendFrames_of_fits (io : QuicData) {header : QuicPacketHeader}
    (wellFormed : ∀ frame ∈ frames, frame.WellFormed header) {writer : QuicDataWriter}
    (sound : writer.Sound) (fits : FramesFit header writer.remaining frames) :
    appendFrames io header frames writer =
      some (writer.append (framesBytes io header writer.remaining frames)) := by
  have ⟨_, within, _⟩ := length_framesBytes io wellFormed fits true
  have room : writer.bytes.length + writer.remaining = writer.capacity := Nat.add_sub_of_le sound
  rw [appendFrames_eq sound wellFormed, QuicDataWriter.writeBytes_eq]
  omega

/-- Frames that fit are reported. -/
theorem exists_record_framesBytes (env : FramerEnv) (some : frames ≠ [])
    (wellFormed : ∀ frame ∈ frames, frame.WellFormed env.header) {room : Nat}
    (fits : FramesFit env.header room frames) :
    ∃ calls, ReportedFrames env room 0 frames calls ∧
      record env.io env.processFrameData (framesBytes env.io env.header room frames) =
        (.ok (), ⟨[], calls⟩) := by
  have ⟨_, _, marked⟩ := length_framesBytes env.io wellFormed fits true
  have ⟨calls, reported, read⟩ := exists_reportedFrames env wellFormed marked 0
  refine ⟨calls, reported, ?_⟩
  have bytesRead := read (framesBytes env.io env.header room frames).length
    (Nat.le_of_eq (Nat.zero_add _))
  obtain ⟨type, rest, split⟩ :=
    List.exists_cons_of_ne_nil (framesBytes_ne_nil env.io some wellFormed fits)
  rw [List.replicate_zero, List.nil_append] at bytesRead
  rw [split] at bytesRead ⊢
  rw [record_processFrameData_cons]
  exact bytesRead

end Reports

/-- Frames that fit the packet are written in as many bytes as the framer computes for them,
and the other side reads the bytes to their end and reports the frames in order. -/
theorem frames_round_trip (env : FramerEnv) {frames : List QuicFrame} (some : frames ≠ [])
    (wellFormed : ∀ frame ∈ frames, frame.WellFormed env.header) {writer : QuicDataWriter}
    (sound : writer.Sound) (fits : FramesFit env.header writer.remaining frames)
    (firstFrame : Bool) :
    ∃ bytes calls,
      appendFrames env.io env.header frames writer = Option.some (writer.append bytes) ∧
      bytes.length =
        serializedLength env.header.packetNumberLength firstFrame writer.remaining frames ∧
      ReportedFrames env writer.remaining 0 frames calls ∧
      record env.io env.processFrameData bytes = (.ok (), ⟨[], calls⟩) := by
  have ⟨serialized, _, _⟩ := length_framesBytes env.io wellFormed fits firstFrame
  have ⟨calls, reported, read⟩ := exists_record_framesBytes env some wellFormed fits
  exact ⟨_, calls, appendFrames_of_fits env.io wellFormed sound fits, serialized, reported, read⟩

/-- An ack, padding between two streams, and padding up to the end. -/
def mixedFrames : List QuicFrame :=
  [.ack gapFrame, .stream ⟨5, false, 0, [1, 2, 3], 3⟩, .padding 2,
    .stream ⟨300, true, 70000, [4], 1⟩, .padding (-1)]

theorem mixedFrames_wellFormed : ∀ frame ∈ mixedFrames, frame.WellFormed plainEnv.header := by
  intro frame member
  simp only [mixedFrames, List.mem_cons, List.not_mem_nil, or_false] at member
  rcases member with rfl | rfl | rfl | rfl | rfl
  · exact gapFrame_wellFormed
  · exact ⟨by decide, by decide, rfl, by decide⟩
  · exact Or.inr ⟨by decide, by decide⟩
  · exact ⟨by decide, by decide, rfl, by decide⟩
  · exact Or.inl rfl

theorem frames_round_trip_mixedFrames :
    ∃ bytes calls,
      appendFrames plainEnv.io plainEnv.header mixedFrames ⟨64, []⟩ = some ⟨64, bytes⟩ ∧
      bytes.length = 64 ∧ ReportedFrames plainEnv 64 0 mixedFrames calls ∧
      record plainEnv.io plainEnv.processFrameData bytes = (.ok (), ⟨[], calls⟩) := by
  have sound : QuicDataWriter.Sound ⟨64, []⟩ := Nat.zero_le 64
  have ⟨bytes, calls, written, serialized, reported, read⟩ :=
    frames_round_trip plainEnv (by decide) mixedFrames_wellFormed sound
      ⟨by decide +kernel, by decide +kernel, by decide +kernel, by decide +kernel,
        by decide +kernel, trivial⟩ true
  exact ⟨bytes, calls, written, serialized.trans (by decide +kernel), reported, read⟩

end StupidSimple.Quic
