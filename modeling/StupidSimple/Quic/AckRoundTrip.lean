import StupidSimple.Quic.AckBlocks

/-!
Owns the exchange of an ack frame: what `SendAck` writes for the received packets
is read back by `ProcessFrameData` as the intervals of these packets from the top
downwards, as far as there was room for their blocks.
-/

namespace StupidSimple.Quic

open StupidSimple.Library MyQuicFramer

/-! ### The type byte -/

section TypeByte

variable {counted : Bool} {largestLength blockLength : QuicPacketNumberLength}

/-- A length that has flags of its own. -/
def Flagged (length : QuicPacketNumberLength) : Prop :=
  readSequenceNumberLength (getPacketNumberFlags length) = length

theorem flagged_getMinSeqLength (packetNumber : Nat) : Flagged (getMinSeqLength packetNumber) :=
  readSequenceNumberLength_flags packetNumber

theorem hasAckBlocks_ackTypeByte :
    hasAckBlocks (ackTypeByte counted largestLength blockLength) = counted := by
  cases counted <;> cases largestLength <;> cases blockLength <;> rfl

theorem ackBlockLength_ackTypeByte (flagged : Flagged blockLength) :
    ackBlockLength (ackTypeByte counted largestLength blockLength) = blockLength := by
  refine Eq.trans ?_ flagged
  cases counted <;> cases largestLength <;> cases blockLength <;> rfl

theorem largestAckedLength_ackTypeByte (flagged : Flagged largestLength) :
    largestAckedLength (ackTypeByte counted largestLength blockLength) = largestLength := by
  refine Eq.trans ?_ flagged
  cases counted <;> cases largestLength <;> cases blockLength <;> rfl

theorem startsAckFrame_ackTypeByte :
    StartsAckFrame (ackTypeByte counted largestLength blockLength) := by
  cases counted <;> cases largestLength <;> cases blockLength <;> decide

theorem ackTypeByte_lt : ackTypeByte counted largestLength blockLength < 256 := by
  cases counted <;> cases largestLength <;> cases blockLength <;> decide

end TypeByte

/-! ### The room for blocks -/

/-- The bytes that `AppendAckFrameAndTypeByte` leaves for blocks. -/
def ackBlockBytes (seq : Nat) (frame : QuicAckFrame) : Nat :=
  (ackWriter seq).capacity - (getMinSeqLength (getAckFrameInfo frame).maxBlockLength).bytes -
    getMinAckFrameSize (getMinSeqLength frame.largestAcked) -
    (if (getAckFrameInfo frame).numAckBlocks ≠ 0 then kNumberOfAckBlocksSize else 0)

/-- The block budget: the smaller of 255 and the blocks that the space left takes. -/
def ackBlockBudget (seq : Nat) (frame : QuicAckFrame) : Nat :=
  min maxUInt8 (ackBlockBytes seq frame /
    ((getMinSeqLength (getAckFrameInfo frame).maxBlockLength).bytes + 1))

/-- The intervals from the top downwards, down to the first one whose blocks no
longer fit. -/
def reportedIntervals (budget : Nat) : List Interval → List Interval
  | [] => []
  | top :: rest => top :: fitting budget top.min rest

/-- The blocks that the intervals below the top one take. -/
def blocksNeeded : List Interval → Nat
  | [] => 0
  | top :: rest => (gapBlocks top.min rest).length

/-! ### Intervals of a queue -/

theorem descending_of_pairwise {intervals : List Interval} :
    ∀ {previousStart}, (∀ interval ∈ intervals, interval.max < previousStart) →
      intervals.Pairwise (fun upper lower => lower.max < upper.min) →
      Descending previousStart intervals := by
  induction intervals with
  | nil =>
      intro previousStart _ _
      trivial
  | cons interval rest inductionHypothesis =>
      intro previousStart below ordered
      have ⟨head, tail⟩ := List.pairwise_cons.mp ordered
      exact ⟨below interval (by simp), inductionHypothesis head tail⟩

theorem descending_intervals {packets : PacketNumberQueue} {top : Interval}
    {rest : List Interval} (split : packets.descending = top :: rest) :
    Descending top.min rest := by
  have ordered : packets.descending.Pairwise fun upper lower => lower.max < upper.min :=
    List.pairwise_reverse.mpr packets.ascending
  rw [split] at ordered
  have ⟨head, tail⟩ := List.pairwise_cons.mp ordered
  exact descending_of_pairwise head tail

/-- The greatest number of a queue ends its top interval. -/
theorem top_of_isGreatest {packets : PacketNumberQueue} {largestAcked : Nat}
    (largest : IsGreatest {packetNumber | packets.Holds packetNumber} largestAcked) :
    ∃ top rest, packets.descending = top :: rest ∧ top.max = largestAcked + 1 := by
  have ⟨interval, member, within⟩ := largest.1
  have inDescending : interval ∈ packets.descending := List.mem_reverse.mpr member
  cases split : packets.descending with
  | nil =>
      rw [split] at inDescending
      cases inDescending
  | cons top rest =>
      refine ⟨top, rest, rfl, ?_⟩
      have ordered : packets.descending.Pairwise fun upper lower => lower.max < upper.min :=
        List.pairwise_reverse.mpr packets.ascending
      rw [split] at ordered inDescending
      have topMember : top ∈ packets.intervals := by
        apply List.mem_reverse.mp
        change top ∈ packets.descending
        rw [split]
        exact List.mem_cons_self
      have nonempty := top.min_lt_max
      have topHeld : packets.Holds (top.max - 1) := ⟨top, topMember, by omega, by omega⟩
      have upper := largest.2 topHeld
      have lower : largestAcked < top.max := by
        rcases List.mem_cons.mp inDescending with rfl | later
        · exact within.2
        · have := (List.pairwise_cons.mp ordered).1 interval later
          omega
      omega

/-! ### The frame that is written -/

/-- The packet numbers of a frame are those that six bytes hold, without zero, and
the largest one is the largest acked. -/
structure QuicAckFrame.WellFormed (frame : QuicAckFrame) : Prop where
  largest : IsGreatest {packetNumber | frame.packets.Holds packetNumber} frame.largestAcked
  positive : ∀ packetNumber, frame.packets.Holds packetNumber → 1 ≤ packetNumber
  bounded : ∀ packetNumber, frame.packets.Holds packetNumber → packetNumber < 2 ^ 48

/-- There is room for some blocks behind every header. -/
theorem le_ackBlockBytes (frame : QuicAckFrame) (seq : Nat) : 1428 ≤ ackBlockBytes seq frame := by
  have seqShort := getMinSeqLength_le_six seq
  have largestShort := getMinSeqLength_le_six frame.largestAcked
  have blockShort := getMinSeqLength_le_six (getAckFrameInfo frame).maxBlockLength
  simp only [ackBlockBytes, ackWriter, kMaxPacketSize, getMinAckFrameSize, kQuicFrameTypeSize,
    kQuicDeltaTimeLargestObservedSize, kQuicNumTimestampsSize, kNumberOfAckBlocksSize]
  split_ifs <;> omega

section Written

variable {frame : QuicAckFrame} (wellFormed : frame.WellFormed)

include wellFormed

theorem QuicAckFrame.WellFormed.length_lt {interval : Interval}
    (member : interval ∈ frame.packets.intervals) : interval.length < 2 ^ 48 := by
  have nonempty := interval.min_lt_max
  have low := wellFormed.positive interval.min ⟨interval, member, Nat.le_refl _, nonempty⟩
  have high := wellFormed.bounded (interval.max - 1)
    ⟨interval, member, Nat.le_sub_one_of_lt nonempty, by omega⟩
  unfold Interval.length
  omega

variable {top : Interval} {rest : List Interval} (split : frame.packets.descending = top :: rest)

include split

theorem QuicAckFrame.WellFormed.top_max : top.max = frame.largestAcked + 1 := by
  have ⟨other, others, splitAgain, max⟩ := top_of_isGreatest wellFormed.largest
  rw [split] at splitAgain
  cases splitAgain
  exact max

theorem QuicAckFrame.WellFormed.maxBlockLength_lt :
    (getAckFrameInfo frame).maxBlockLength < 2 ^ 48 := by
  have members : ∀ interval ∈ top :: rest, interval.length ≤ 2 ^ 48 - 1 := by
    intro interval member
    rw [← split] at member
    exact Nat.le_sub_one_of_lt (wellFormed.length_lt (List.mem_reverse.mp member))
  have bounded : (getAckFrameInfo frame).maxBlockLength ≤ 2 ^ 48 - 1 := by
    rw [getAckFrameInfo, split]
    exact scanIntervals_maxBlockLength_le
      (fun interval member => members interval (List.mem_cons_of_mem top member))
      (members top List.mem_cons_self)
  omega

omit wellFormed in
/-- The number of blocks that is written. -/
theorem min_numAckBlocks_eq (room : Nat) :
    min (min (getAckFrameInfo frame).numAckBlocks room) maxUInt8 =
      min (blocksNeeded (top :: rest)) (min maxUInt8 room) := by
  have outline : (getAckFrameInfo frame).numAckBlocks =
      (scanIntervals rest top.min ⟨top.length, top.length, 0⟩).numAckBlocks := by
    rw [getAckFrameInfo, split]
  have scanned : min (scanIntervals rest top.min ⟨top.length, top.length, 0⟩).numAckBlocks
      maxUInt8 = min (0 + (gapBlocks top.min rest).length) maxUInt8 :=
    scanIntervals_numAckBlocks (descending_intervals split)
  rw [← outline] at scanned
  change _ = min (gapBlocks top.min rest).length _
  omega

omit wellFormed in
/-- The written blocks fit into the width that the scan chose. -/
theorem length_lt_of_written {block : AckBlock} {count : Nat}
    (member : block ∈ (gapBlocks top.min rest).take count) (few : count ≤ maxUInt8) :
    block.length ≤ (getAckFrameInfo frame).maxBlockLength := by
  have early : block ∈ (gapBlocks top.min rest).take (maxUInt8 - 0) :=
    (List.take_prefix_take_left few).subset member
  rw [getAckFrameInfo, split]
  exact length_le_maxBlockLength (descending_intervals split) early

/-- The frame with as many of its blocks as a budget allows. -/
theorem exists_ackOfBudget (delay : List UInt8) (lengthDelay : delay.length = 2) {limit : Nat}
    (budget : limit ≤ maxUInt8) :
    ∃ ack : AckPrefix (ackTypeByte ((getAckFrameInfo frame).numAckBlocks ≠ 0)
        (getMinSeqLength frame.largestAcked)
        (getMinSeqLength (getAckFrameInfo frame).maxBlockLength)),
      ack.largestAcked = frame.largestAcked ∧ ack.delay = delay ∧
      ack.firstBlockLength = top.length ∧
      ack.numAckBlocks = min (blocksNeeded (top :: rest)) limit ∧
      ack.blocks = (gapBlocks top.min rest).take ack.numAckBlocks ∧ ack.Complete := by
  have nonempty := top.min_lt_max
  have largestFits : frame.largestAcked <
      256 ^ (getMinSeqLength frame.largestAcked).bytes :=
    lt_getMinSeqLength (wellFormed.bounded _ wellFormed.largest.1)
  have topLength : top.length ≤ (getAckFrameInfo frame).maxBlockLength := by
    rw [getAckFrameInfo, split]
    exact le_scanIntervals_maxBlockLength rest top.min ⟨top.length, top.length, 0⟩
  have maxFits : (getAckFrameInfo frame).maxBlockLength <
      256 ^ (getMinSeqLength (getAckFrameInfo frame).maxBlockLength).bytes :=
    lt_getMinSeqLength (wellFormed.maxBlockLength_lt split)
  have topMax := wellFormed.top_max split
  have topStart : frame.largestAcked + 1 - top.length = top.min := by
    unfold Interval.length
    omega
  let count := min (blocksNeeded (top :: rest)) limit
  have few : count ≤ maxUInt8 := (Nat.min_le_right _ _).trans budget
  have written : ((gapBlocks top.min rest).take count).length = count :=
    List.length_take_of_le (Nat.min_le_left _ _)
  have uncounted : (getAckFrameInfo frame).numAckBlocks = 0 → count = 0 := by
    intro zero
    have same := min_numAckBlocks_eq split limit
    rw [Nat.min_eq_right budget, zero, Nat.zero_min, Nat.zero_min] at same
    exact same.symm
  let ack : AckPrefix (ackTypeByte ((getAckFrameInfo frame).numAckBlocks ≠ 0)
      (getMinSeqLength frame.largestAcked)
      (getMinSeqLength (getAckFrameInfo frame).maxBlockLength)) :=
    { largestAcked := frame.largestAcked
      delay := delay
      numAckBlocks := count
      firstBlockLength := top.length
      blocks := (gapBlocks top.min rest).take count
      largestAcked_lt := by
        rw [largestAckedLength_ackTypeByte (flagged_getMinSeqLength _)]
        exact largestFits
      length_delay := lengthDelay
      numAckBlocks_lt := Nat.lt_of_le_of_lt few (by decide)
      numAckBlocks_eq_zero := by
        rw [hasAckBlocks_ackTypeByte]
        intro none
        exact uncounted (by simpa using none)
      firstBlockLength_lt := by
        rw [ackBlockLength_ackTypeByte (flagged_getMinSeqLength _)]
        exact Nat.lt_of_le_of_lt topLength maxFits
      acksSome := by
        intro zero
        unfold Interval.length at zero
        omega
      firstBlockLength_le := by
        unfold Interval.length
        omega
      length_blocks_le := written.le
      blocksFit := by
        rw [topStart, ackBlockLength_ackTypeByte (flagged_getMinSeqLength _)]
        refine blocksFit_iff.mpr ⟨?_, (blocksBelow_gapBlocks (descending_intervals split)).take _⟩
        intro block member
        have short := length_lt_of_written split member few
        exact ⟨gap_lt_of_mem_gapBlocks (descending_intervals split)
          ((List.take_sublist _ _).subset member), Nat.lt_of_le_of_lt short maxFits⟩ }
  exact ⟨ack, rfl, rfl, rfl, rfl, rfl, written⟩

/-- The frame that `SendAck` writes, with the blocks that there is room for. -/
theorem exists_writtenAck (delay : List UInt8) (lengthDelay : delay.length = 2) (seq : Nat) :
    ∃ ack : AckPrefix (ackTypeByte ((getAckFrameInfo frame).numAckBlocks ≠ 0)
        (getMinSeqLength frame.largestAcked)
        (getMinSeqLength (getAckFrameInfo frame).maxBlockLength)),
      ack.largestAcked = frame.largestAcked ∧ ack.delay = delay ∧
      ack.firstBlockLength = top.length ∧
      ack.numAckBlocks = min (blocksNeeded (top :: rest)) (ackBlockBudget seq frame) ∧
      ack.blocks = (gapBlocks top.min rest).take ack.numAckBlocks ∧ ack.Complete :=
  exists_ackOfBudget wellFormed split delay lengthDelay (Nat.min_le_left _ _)

omit wellFormed in
/-- Blocks are written where the frame is marked to have blocks. -/
theorem written_pos_iff (seq : Nat) :
    0 < min (blocksNeeded (top :: rest)) (ackBlockBudget seq frame) ↔
      (getAckFrameInfo frame).numAckBlocks ≠ 0 := by
  have blockShort := getMinSeqLength_le_six (getAckFrameInfo frame).maxBlockLength
  have space := le_ackBlockBytes frame seq
  have room : 0 < ackBlockBytes seq frame /
      ((getMinSeqLength (getAckFrameInfo frame).maxBlockLength).bytes + 1) :=
    Nat.div_pos (by omega) (by omega)
  have same := min_numAckBlocks_eq split (ackBlockBytes seq frame /
    ((getMinSeqLength (getAckFrameInfo frame).maxBlockLength).bytes + 1))
  have limit : maxUInt8 = 255 := rfl
  rw [ackBlockBudget, ← same]
  omega

omit wellFormed in
/-- The fields of a frame are written where they fit into the writer. -/
theorem appendAckFields_eq (io : QuicData) (hasBlocks : Bool)
    (largestLength blockLength : QuicPacketNumberLength) (numAckBlocks firstBlockLength : Nat)
    (writer : QuicDataWriter)
    (fits : writer.bytes.length + (4 + largestLength.bytes + blockLength.bytes +
      (if 0 < numAckBlocks then 1 else 0) + numAckBlocks * (blockLength.bytes + 1)) ≤
        writer.capacity) :
    appendAckFields io hasBlocks largestLength blockLength numAckBlocks firstBlockLength frame
        writer =
      some (writer.append (BigEndian.encode 1 (ackTypeByte hasBlocks largestLength blockLength) ++
        (BigEndian.encode largestLength.bytes frame.largestAcked ++
          (io.uFloat16Bytes (frame.ackDelayTime.getD io.kUFloat16MaxValue) ++
            ((if 0 < numAckBlocks then BigEndian.encode 1 numAckBlocks else []) ++
              (BigEndian.encode blockLength.bytes firstBlockLength ++
                (((gapBlocks top.min rest).take numAckBlocks).flatMap (AckBlock.wire blockLength) ++
                  BigEndian.encode 1 0))))))) := by
  have countWritten : ∀ writer : QuicDataWriter,
      writer.bytes.length + (if 0 < numAckBlocks then 1 else 0) ≤ writer.capacity →
      appendNumAckBlocks numAckBlocks writer =
        some (writer.append (if 0 < numAckBlocks then BigEndian.encode 1 numAckBlocks else [])) := by
    intro writer room
    unfold appendNumAckBlocks
    split_ifs at room ⊢
    · exact writeUInt8_eq room
    · rw [QuicDataWriter.append_nil]
  have countLength : (if 0 < numAckBlocks then BigEndian.encode 1 numAckBlocks else []).length =
      if 0 < numAckBlocks then 1 else 0 := by
    split_ifs
    · exact BigEndian.length_encode 1 numAckBlocks
    · rfl
  have blocksLength : (((gapBlocks top.min rest).take numAckBlocks).flatMap
      (AckBlock.wire blockLength)).length ≤ numAckBlocks * (blockLength.bytes + 1) := by
    rw [length_blocksWire, Nat.add_comm 1]
    exact Nat.mul_le_mul_right _ (List.length_take_le _ _)
  have delayLength := io.length_uFloat16Bytes (frame.ackDelayTime.getD io.kUFloat16MaxValue)
  simp only [appendAckFields, appendIntervals, split]
  rw [writeUInt8_eq (by omega), Option.bind_eq_bind, Option.bind_some,
    appendPacketNumber_eq io (by simp; omega), Option.bind_some,
    QuicDataWriter.writeBytes_eq (by simp [delayLength]; omega), Option.bind_some,
    countWritten _ (by simp [delayLength]; omega), Option.bind_some,
    appendPacketNumber_eq io (by simp [delayLength, countLength]; omega), Option.bind_some,
    appendAckBlocks_eq io rest _ _ _ (by
      simp [delayLength, countLength, Nat.add_comm 1]
      omega), Option.bind_some,
    writeUInt8_eq (by
      simp only [QuicDataWriter.length_append, QuicDataWriter.append_capacity,
        BigEndian.length_encode, delayLength, countLength]
      omega)]
  simp only [QuicDataWriter.append_append, List.append_assoc]

/-- `SendAck` writes a type byte, the frame with the blocks that there is room
for, and a last byte that announces no time stamps. -/
theorem sendAck_eq (io : QuicData) (seq : Nat) :
    ∃ ack : AckPrefix (ackTypeByte ((getAckFrameInfo frame).numAckBlocks ≠ 0)
        (getMinSeqLength frame.largestAcked)
        (getMinSeqLength (getAckFrameInfo frame).maxBlockLength)),
      ack.largestAcked = frame.largestAcked ∧ ack.firstReceived = top.min ∧
      ack.numAckBlocks = min (blocksNeeded (top :: rest)) (ackBlockBudget seq frame) ∧
      ack.blocks = (gapBlocks top.min rest).take ack.numAckBlocks ∧ ack.Complete ∧
      sendAck io seq frame = some (BigEndian.encode 1 (ackTypeByte
        ((getAckFrameInfo frame).numAckBlocks ≠ 0) (getMinSeqLength frame.largestAcked)
        (getMinSeqLength (getAckFrameInfo frame).maxBlockLength)) ++
          (ack.wire ++ BigEndian.encode 1 0)) := by
  have ⟨ack, largest, delay, first, count, blocks, complete⟩ := exists_writtenAck wellFormed split
    (io.uFloat16Bytes (frame.ackDelayTime.getD io.kUFloat16MaxValue))
    (io.length_uFloat16Bytes _) seq
  have topMax := wellFormed.top_max split
  have nonempty := top.min_lt_max
  refine ⟨ack, largest, ?_, count, blocks, complete, ?_⟩
  · rw [AckPrefix.firstReceived, largest, first, Interval.length]
    omega
  · have limited : min (min (getAckFrameInfo frame).numAckBlocks (ackBlockBytes seq frame /
        ((getMinSeqLength (getAckFrameInfo frame).maxBlockLength).bytes + 1))) maxUInt8 =
          ack.numAckBlocks := by
      rw [count, min_numAckBlocks_eq split, ackBlockBudget]
    have space : ack.numAckBlocks *
        ((getMinSeqLength (getAckFrameInfo frame).maxBlockLength).bytes + 1) ≤
          ackBlockBytes seq frame := by
      have bounded : ack.numAckBlocks ≤ ackBlockBytes seq frame /
          ((getMinSeqLength (getAckFrameInfo frame).maxBlockLength).bytes + 1) := by
        rw [← limited]
        omega
      exact (Nat.le_div_iff_mul_le (by omega)).mp bounded
    have fields : appendAckFrameAndTypeByte io frame (ackWriter seq) =
        appendAckFields io ((getAckFrameInfo frame).numAckBlocks ≠ 0)
          (getMinSeqLength frame.largestAcked)
          (getMinSeqLength (getAckFrameInfo frame).maxBlockLength) ack.numAckBlocks
          (getAckFrameInfo frame).firstBlockLength frame (ackWriter seq) := by
      unfold appendAckFrameAndTypeByte
      rw [← limited]
      rfl
    have outline : (getAckFrameInfo frame).firstBlockLength = ack.firstBlockLength := by
      rw [first, getAckFrameInfo, split]
      exact scanIntervals_firstBlockLength rest _ _
    have counted : (if 0 < ack.numAckBlocks then BigEndian.encode 1 ack.numAckBlocks else []) =
        ack.countWire := by
      have marked := written_pos_iff split seq
      rw [← count] at marked
      unfold AckPrefix.countWire
      rw [hasAckBlocks_ackTypeByte]
      simp only [decide_eq_true_eq, ← marked]
    have marked := written_pos_iff split seq
    rw [← count] at marked
    have enough := le_ackBlockBytes frame seq
    rw [sendAck, fields, appendAckFields_eq split io]
    · change some _ = _
      rw [counted, ← blocks, ← delay, outline]
      simp only [ackWriter, QuicDataWriter.append, List.nil_append, AckPrefix.wire,
        AckPrefix.blocksWire, List.append_assoc, largest,
        ackBlockLength_ackTypeByte (flagged_getMinSeqLength _),
        largestAckedLength_ackTypeByte (flagged_getMinSeqLength _)]
    · simp only [ackBlockBytes, getMinAckFrameSize, kQuicFrameTypeSize, kNumberOfAckBlocksSize,
        kQuicDeltaTimeLargestObservedSize, kQuicNumTimestampsSize, ← marked] at space enough
      change 0 + _ ≤ _
      split_ifs at space enough ⊢ <;> omega

end Written

/-! ### The exchange -/

/-- A complete frame is read to its end, when no time stamps follow it. -/
theorem record_complete (io : QuicData) {frameType : Nat} {ack : AckPrefix frameType}
    (complete : ack.Complete) (rest : List UInt8) :
    record io (processAckFrame io.kUFloat16MaxValue frameType)
        (ack.wire ++ (BigEndian.encode 1 0 ++ rest)) = (.ok (), ⟨rest, ack.calls io⟩) := by
  have noneLeft : ack.numAckBlocks - ack.blocks.length = 0 := by
    rw [complete, Nat.sub_self]
  have readStamps := Framer.record_readBytesToUInt64_encode io (by decide : 1 ≤ 8)
    (by decide : 0 < 256 ^ 1) "Unable to read num received packets." rest
  have after : record io (processAfterBlocks (ackBlockLength frameType) 0
      (lowestReceived ack.firstReceived ack.blocks)) (BigEndian.encode 1 0 ++ rest) =
        (.ok (), ⟨rest, []⟩) := by
    rw [processAfterBlocks, processAckBlocks, record_bind_ok io (record_pure io () _), prepend_nil,
      Framer.readUInt8, record_bind_ok io readStamps]
    rfl
  rw [record_wire, noneLeft, after]
  simp [prepend]

/-- A complete frame on its own is accepted to its end. -/
theorem record_processFrameData_ack (env : FramerEnv) {frameType : Nat} {ack : AckPrefix frameType}
    (isByte : frameType < 256) (starts : StartsAckFrame frameType) (complete : ack.Complete) :
    record env.io env.processFrameData
        (BigEndian.encode 1 frameType ++ (ack.wire ++ BigEndian.encode 1 0)) =
      (.ok (), ⟨[], ack.calls env.io⟩) := by
  have typeByte : (UInt8.ofNat frameType).toNat = frameType := by
    rw [UInt8.toNat_ofNat']
    exact Nat.mod_eq_of_lt isByte
  have frameRead : record env.io (env.processFrame frameType) (ack.wire ++ BigEndian.encode 1 0) =
      (.ok true, ⟨[], ack.calls env.io⟩) := by
    have read := record_complete env.io complete []
    rw [List.append_nil] at read
    rw [record_processFrame_ack env starts, read]
    rfl
  rw [BigEndian.encode_one, List.singleton_append, record_processFrameData_cons, List.length_cons,
    record_processFrames_cons, typeByte, frameRead]
  simp only [record_processFrames_nil, prepend, List.append_nil]

theorem ackRanges_ranges {frameType : Nat} (ack : AckPrefix frameType) :
    ackRanges ack.ranges = (ack.firstReceived, ack.largestAcked + 1) ::
      ackRanges (blockCalls ack.numAckBlocks ack.firstReceived ack.blocks) := rfl

theorem isAckRange_of_mem_blockCalls {blocks : List AckBlock} {call : VisitorCall} :
    ∀ {remaining firstReceived}, call ∈ blockCalls remaining firstReceived blocks →
      call.IsAckRange := by
  induction blocks with
  | nil =>
      intro remaining firstReceived member
      cases member
  | cons block blocks inductionHypothesis =>
      intro remaining firstReceived member
      rcases List.mem_append.mp member with own | later
      · unfold AckBlock.calls at own
        split_ifs at own
        · rw [List.mem_singleton.mp own]
          trivial
        · cases own
      · exact inductionHypothesis later

theorem isAckRange_of_mem_ranges {frameType : Nat} (ack : AckPrefix frameType) :
    ∀ call ∈ ack.ranges, call.IsAckRange := by
  intro call member
  rcases List.mem_cons.mp member with rfl | later
  · trivial
  · exact isAckRange_of_mem_blockCalls later

/-- Every ack frame that `SendAck` writes is accepted, to its end, and reports the
largest number and, from the top downwards, the intervals whose blocks fit into
the budget. When all blocks fit these are all intervals. -/
theorem ack_round_trip (env : FramerEnv) (seq : Nat) {frame : QuicAckFrame}
    (wellFormed : frame.WellFormed) :
    ∃ bytes delay ranges, sendAck env.io seq frame = some bytes ∧
      record env.io env.processFrameData bytes =
        (.ok (), ⟨[], .onAckFrameStart frame.largestAcked delay :: ranges⟩) ∧
      (∀ call ∈ ranges, call.IsAckRange) ∧
      ackRanges ranges = (reportedIntervals (ackBlockBudget seq frame)
        frame.packets.descending).map Interval.range ∧
      (blocksNeeded frame.packets.descending ≤ ackBlockBudget seq frame →
        ackRanges ranges = frame.packets.descending.map Interval.range) := by
  have ⟨top, rest, split, topMax⟩ := top_of_isGreatest wellFormed.largest
  have ⟨ack, largest, topStart, count, blocks, complete, written⟩ :=
    sendAck_eq wellFormed split env.io seq
  have descending := descending_intervals split
  have reported : ackRanges ack.ranges = (reportedIntervals (ackBlockBudget seq frame)
      frame.packets.descending).map Interval.range := by
    rw [ackRanges_ranges, topStart, blocks, ackRanges_take_gapBlocks descending, count, split,
      reportedIntervals, blocksNeeded, fitting_min descending, List.map_cons, Interval.range, topMax,
      largest]
  refine ⟨_, ackDelayTime env.io.kUFloat16MaxValue (env.io.uFloat16Value ack.delay), ack.ranges,
    written, ?_, isAckRange_of_mem_ranges ack, reported, ?_⟩
  · have read := record_processFrameData_ack env ackTypeByte_lt startsAckFrame_ackTypeByte complete
    rw [AckPrefix.calls, AckPrefix.startCall, largest] at read
    exact read
  · intro enough
    rw [reported, split, reportedIntervals]
    rw [split, blocksNeeded] at enough
    rw [fitting_eq_self descending enough]

/-- The library values of an endpoint with plain byte order. -/
def plainEnv : FramerEnv where
  io := .networkOrder
  limits := ⟨117, 40⟩
  header := ⟨.packet4Byte, 0⟩

/-- Packets 1 and 2, and 600 to 604 behind a gap of two blocks and more. -/
def gapFrame : QuicAckFrame where
  largestAcked := 604
  ackDelayTime := some 5
  packets := ⟨[⟨1, 3, by decide⟩, ⟨600, 605, by decide⟩], by decide⟩

theorem gapFrame_wellFormed : gapFrame.WellFormed := by
  have held : ∀ packetNumber, gapFrame.packets.Holds packetNumber ↔
      (1 ≤ packetNumber ∧ packetNumber < 3) ∨ (600 ≤ packetNumber ∧ packetNumber < 605) := by
    intro packetNumber
    simp [gapFrame, PacketNumberQueue.Holds]
  refine ⟨⟨?_, ?_⟩, ?_, ?_⟩
  · exact (held 604).mpr (by decide)
  · intro packetNumber member
    have := (held packetNumber).mp member
    change packetNumber ≤ 604
    omega
  · intro packetNumber member
    have := (held packetNumber).mp member
    omega
  · intro packetNumber member
    have := (held packetNumber).mp member
    omega

theorem ack_round_trip_gapFrame :
    ∃ bytes delay ranges, sendAck plainEnv.io 1 gapFrame = some bytes ∧
      record plainEnv.io plainEnv.processFrameData bytes =
        (.ok (), ⟨[], .onAckFrameStart 604 delay :: ranges⟩) ∧
      ackRanges ranges = [(600, 605), (1, 3)] := by
  have ⟨bytes, delay, ranges, written, read, _, _, all⟩ :=
    ack_round_trip plainEnv 1 gapFrame_wellFormed
  exact ⟨bytes, delay, ranges, written, read, all (by decide +kernel)⟩

end StupidSimple.Quic
