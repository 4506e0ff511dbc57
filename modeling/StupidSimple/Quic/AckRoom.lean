import StupidSimple.Quic.FrameRoundTrip

/-!
Owns the ack frames that `AppendAckFrameAndTypeByte` writes into little room. Where there
is no room for a block that the type byte announces, the number of blocks is left out of
the frame, and what is written is no ack frame.
-/

namespace StupidSimple.Quic

open StupidSimple.Library MyQuicFramer

/-! ### The least frame -/

section Accepted

variable (io : QuicData)

/-- The bytes that an ack frame has behind its type byte even without blocks. -/
def leastAckBytes (frameType : Nat) : Nat :=
  (largestAckedLength frameType).bytes + 2 + (if hasAckBlocks frameType then 1 else 0) +
    (ackBlockLength frameType).bytes + 1

theorem length_ackWire {frameType : Nat} (ack : AckPrefix frameType) :
    leastAckBytes frameType ≤ ack.wire.length + 1 := by
  have count : ack.countWire.length = if hasAckBlocks frameType then 1 else 0 := by
    unfold AckPrefix.countWire
    split_ifs
    · exact BigEndian.length_encode 1 _
    · rfl
  simp only [leastAckBytes, AckPrefix.wire, List.length_append, BigEndian.length_encode,
    ack.length_delay, count]
  omega

/-- The number of time stamps is never missing. -/
theorem processAfterBlocks_nil (width : QuicPacketNumberLength) (firstReceived : Nat) :
    ∃ detail,
      (record io (processAfterBlocks width 0 firstReceived) []).1 = .error detail := by
  have short : record io (Framer.readBytesToUInt64 1 "Unable to read num received packets.") [] =
      (.error "Unable to read num received packets.", ⟨[], []⟩) := by
    rw [Framer.record_readBytesToUInt64 io (by decide)]
    rfl
  exists "Unable to read num received packets."
  rw [processAfterBlocks, processAckBlocks, record_bind_ok io (record_pure io () _), prepend_nil]
  exact congrArg Prod.fst (record_bind_error io short)

/-- What is accepted as an ack frame has all of its fields. -/
theorem leastAckBytes_le_of_accepted {frameType : Nat} {bytes : List UInt8}
    (accepted :
      (record io (processAckFrame io.kUFloat16MaxValue frameType) bytes).1 = .ok ()) :
    leastAckBytes frameType ≤ bytes.length := by
  rcases processAckFrame_cases io frameType bytes with
    ⟨ack, rest, split, _, ended⟩ | ⟨calls, ⟨detail, unread, failed⟩, _⟩
  · rcases ended with complete | ⟨detail, failed⟩
    · have least := length_ackWire ack
      cases rest with
      | nil =>
          have noneLeft : ack.numAckBlocks - ack.blocks.length = 0 := by
            rw [complete, Nat.sub_self]
          have ⟨detail, failed⟩ := processAfterBlocks_nil io (ackBlockLength frameType)
            (lowestReceived ack.firstReceived ack.blocks)
          rw [split, record_wire, noneLeft, prepend, failed] at accepted
          cases accepted
      | cons byte rest =>
          rw [split, List.length_append, List.length_cons]
          omega
    · rw [failed] at accepted
      cases accepted
  · rw [failed] at accepted
    cases accepted

end Accepted

/-! ### Room for a frame -/

/-- An ack frame without blocks. -/
def leastAckFrameSize (frame : QuicAckFrame) : Nat :=
  getMinAckFrameSize (getMinSeqLength frame.largestAcked) +
    (getMinSeqLength (getAckFrameInfo frame).maxBlockLength).bytes

/-- There is room for the number of blocks and for one of them. -/
def BlockFits (room : Nat) (frame : QuicAckFrame) : Prop :=
  leastAckFrameSize frame + kNumberOfAckBlocksSize +
    ((getMinSeqLength (getAckFrameInfo frame).maxBlockLength).bytes + 1) ≤ room

instance (room : Nat) (frame : QuicAckFrame) : Decidable (BlockFits room frame) :=
  inferInstanceAs (Decidable (_ ≤ _))

section Room

variable {frame : QuicAckFrame} {room : Nat}

theorem ackBlockCount_pos_iff (some : (getAckFrameInfo frame).numAckBlocks ≠ 0) :
    0 < ackBlockCount room frame ↔ BlockFits room frame := by
  have positive : 0 < (getAckFrameInfo frame).numAckBlocks := Nat.pos_of_ne_zero some
  have limit : 0 < maxUInt8 := by decide
  simp only [ackBlockCount, lt_min_iff, positive, limit, true_and, and_true, ackBlockRoom,
    if_pos some, Nat.div_pos_iff, BlockFits, leastAckFrameSize, kNumberOfAckBlocksSize]
  omega

theorem ackMarked_iff :
    AckMarked room frame ↔ ((getAckFrameInfo frame).numAckBlocks ≠ 0 → BlockFits room frame) := by
  constructor
  · exact fun marked some => (ackBlockCount_pos_iff some).mp (marked some)
  · exact fun fits some => (ackBlockCount_pos_iff some).mpr (fits some)

theorem length_ackFrame_zero (io : QuicData) (frame : QuicAckFrame) :
    (BigEndian.encode 1 (ackFrameType frame) ++ ackFieldsWire io 0 frame).length =
      leastAckFrameSize frame := by
  simp only [ackFieldsWire_zero, List.length_append, BigEndian.length_encode,
    io.length_uFloat16Bytes, List.length_nil, leastAckFrameSize, getMinAckFrameSize,
    kQuicFrameTypeSize, kQuicDeltaTimeLargestObservedSize, kQuicNumTimestampsSize]
  omega

/-- A frame is written where there is room for one without blocks. -/
theorem length_ackFrame_le_iff (io : QuicData) :
    (BigEndian.encode 1 (ackFrameType frame) ++
      ackFieldsWire io (ackBlockCount room frame) frame).length ≤ room ↔
        leastAckFrameSize frame ≤ room := by
  rcases Nat.eq_zero_or_pos (ackBlockCount room frame) with none | some
  · rw [none, length_ackFrame_zero]
  · have fits := ackBlockCount_fits some
    have bound := length_ackFieldsWire io (ackBlockCount room frame) frame
    rw [if_pos some] at bound
    simp only [List.length_append, BigEndian.length_encode, leastAckFrameSize, getMinAckFrameSize,
      kQuicFrameTypeSize, kQuicDeltaTimeLargestObservedSize, kQuicNumTimestampsSize]
    constructor <;> intro <;> omega

/-- A frame whose type byte announces blocks, and that has none, is one byte short. -/
theorem length_spoiledAck (io : QuicData) (some : (getAckFrameInfo frame).numAckBlocks ≠ 0) :
    (ackFieldsWire io 0 frame).length < leastAckBytes (ackFrameType frame) := by
  have announced : hasAckBlocks (ackFrameType frame) = true := by
    rw [ackFrameType, hasAckBlocks_ackTypeByte]
    exact decide_eq_true some
  simp only [ackFieldsWire_zero, List.length_append, BigEndian.length_encode,
    io.length_uFloat16Bytes, List.length_nil, leastAckBytes, if_pos announced,
    largestAckedLength_ackFrameType, ackBlockLength_ackFrameType]
  omega

end Room

/-! ### The exchange -/

section Exchange

variable (env : FramerEnv) {frameType : Nat} {payload : List UInt8}

theorem record_processFrameData_frame (isByte : frameType < 256) :
    record env.io env.processFrameData (BigEndian.encode 1 frameType ++ payload) =
      match (record env.io (env.processFrame frameType) payload).1 with
      | .ok true => prepend (record env.io (env.processFrame frameType) payload).2.visitor
          (record env.io (env.processFrames payload.length)
            (record env.io (env.processFrame frameType) payload).2.reader)
      | .ok false => (.ok (), (record env.io (env.processFrame frameType) payload).2)
      | .error failure => (.error failure, (record env.io (env.processFrame frameType) payload).2) := by
  have typeByte : (UInt8.ofNat frameType).toNat = frameType := by
    rw [UInt8.toNat_ofNat']
    exact Nat.mod_eq_of_lt isByte
  have recorded := record_processFrames_cons env payload.length (UInt8.ofNat frameType) payload
  rw [typeByte] at recorded
  rw [BigEndian.encode_one, List.singleton_append, record_processFrameData_cons, List.length_cons]
  exact recorded

/-- Too few bytes for an ack frame are refused, whatever they are. -/
theorem ack_refused (isByte : frameType < 256) (starts : StartsAckFrame frameType)
    (short : payload.length < leastAckBytes frameType) :
    ∃ detail, (record env.io env.processFrameData (BigEndian.encode 1 frameType ++ payload)).1 =
      .error (.invalidAckData, detail) := by
  have read := record_processFrame_ack env starts payload
  rw [record_processFrameData_frame env isByte, read]
  cases outcome : (record env.io (processAckFrame env.io.kUFloat16MaxValue frameType) payload).1 with
  | ok value => exact absurd (leastAckBytes_le_of_accepted env.io outcome) (Nat.not_le_of_lt short)
  | error detail => exact ⟨detail, rfl⟩

end Exchange

end StupidSimple.Quic
