import StupidSimple.Quic.FramerRun

/-!
Owns the layout of an ack frame of version 43 behind its type byte, independent
of the code that reads it, and connects it to `processAckFrame`.

An `AckPrefix` is an ack frame up to some block. The reader completes every
prefix that its bytes begin with (`record_wire`), and whatever bytes it is given
it stops at the longest one (`processAckFrame_cases`).
-/

namespace StupidSimple.Quic

open StupidSimple.Library MyQuicFramer

/-! ### Blocks -/

/-- A block behind the first: packets not acked, then packets acked below them. -/
structure AckBlock where
  gap : Nat
  length : Nat
deriving DecidableEq, Repr

def AckBlock.wire (width : QuicPacketNumberLength) (block : AckBlock) : List UInt8 :=
  BigEndian.encode 1 block.gap ++ BigEndian.encode width.bytes block.length

/-- The blocks can be written, and lie one below the other under `firstReceived`. -/
def BlocksFit (width : QuicPacketNumberLength) : Nat → List AckBlock → Prop
  | _, [] => True
  | firstReceived, block :: blocks =>
      block.gap < 256 ∧ block.length < 256 ^ width.bytes ∧
        block.gap + block.length ≤ firstReceived ∧
        BlocksFit width (firstReceived - (block.gap + block.length)) blocks

/-- The least number acked after the blocks. -/
def lowestReceived : Nat → List AckBlock → Nat
  | firstReceived, [] => firstReceived
  | firstReceived, block :: blocks =>
      lowestReceived (firstReceived - (block.gap + block.length)) blocks

/-- The range of one block; a block without packets has none. -/
def AckBlock.calls (block : AckBlock) (nextReceived : Nat) (lastRange : Bool) : List VisitorCall :=
  if 0 < block.length then
    [.onAckRange nextReceived (nextReceived + block.length) lastRange]
  else []

/-- The ranges of the blocks, of which `remaining` and no more are to come. -/
def blockCalls : Nat → Nat → List AckBlock → List VisitorCall
  | _, _, [] => []
  | remaining, firstReceived, block :: blocks =>
      let nextReceived := firstReceived - (block.gap + block.length)
      block.calls nextReceived (remaining = 1) ++ blockCalls (remaining - 1) nextReceived blocks

/-! ### Frames -/

/-- An ack frame behind its type byte, up to and including some of its blocks. -/
structure AckPrefix (frameType : Nat) where
  largestAcked : Nat
  delay : List UInt8
  numAckBlocks : Nat
  firstBlockLength : Nat
  blocks : List AckBlock
  largestAcked_lt : largestAcked < 256 ^ (largestAckedLength frameType).bytes
  length_delay : delay.length = 2
  numAckBlocks_lt : numAckBlocks < 256
  numAckBlocks_eq_zero : hasAckBlocks frameType = false → numAckBlocks = 0
  firstBlockLength_lt : firstBlockLength < 256 ^ (ackBlockLength frameType).bytes
  acksSome : firstBlockLength = 0 → largestAcked = 0 ∧ numAckBlocks = 0
  firstBlockLength_le : firstBlockLength ≤ largestAcked + 1
  length_blocks_le : blocks.length ≤ numAckBlocks
  blocksFit : BlocksFit (ackBlockLength frameType) (largestAcked + 1 - firstBlockLength) blocks

namespace AckPrefix

variable {frameType : Nat} (ack : AckPrefix frameType)

/-- The number of blocks, where the frame has it. -/
def countWire : List UInt8 :=
  if hasAckBlocks frameType then BigEndian.encode 1 ack.numAckBlocks else []

def blocksWire : List UInt8 := ack.blocks.flatMap (AckBlock.wire (ackBlockLength frameType))

def wire : List UInt8 :=
  BigEndian.encode (largestAckedLength frameType).bytes ack.largestAcked ++
    (ack.delay ++ (ack.countWire ++
      (BigEndian.encode (ackBlockLength frameType).bytes ack.firstBlockLength ++ ack.blocksWire)))

/-- The least number of the first range. -/
def firstReceived : Nat := ack.largestAcked + 1 - ack.firstBlockLength

def topRange : VisitorCall :=
  .onAckRange ack.firstReceived (ack.largestAcked + 1) (!hasAckBlocks frameType)

/-- The ranges that the prefix reports, the top one first. -/
def ranges : List VisitorCall :=
  ack.topRange :: blockCalls ack.numAckBlocks ack.firstReceived ack.blocks

def startCall (io : QuicData) : VisitorCall :=
  .onAckFrameStart ack.largestAcked
    (ackDelayTime io.kUFloat16MaxValue (io.uFloat16Value ack.delay))

def calls (io : QuicData) : List VisitorCall := ack.startCall io :: ack.ranges

/-- Every block has been read. -/
def Complete : Prop := ack.blocks.length = ack.numAckBlocks

end AckPrefix

/-! ### Reading blocks -/

section Blocks

variable (io : QuicData) {width : QuicPacketNumberLength}

/-- The reader takes a block that fits, reports it and goes on. -/
theorem record_processAckBlocks_cons {block : AckBlock} {firstReceived : Nat}
    (gapFits : block.gap < 256) (lengthFits : block.length < 256 ^ width.bytes)
    (below : block.gap + block.length ≤ firstReceived) (remaining : Nat) (rest : List UInt8) :
    record io (processAckBlocks width (remaining + 1) firstReceived) (block.wire width ++ rest) =
      prepend (block.calls (firstReceived - (block.gap + block.length)) (remaining = 0))
        (record io (processAckBlocks width remaining
          (firstReceived - (block.gap + block.length))) rest) := by
  have readGap := Framer.record_readBytesToUInt64_encode io (by decide : 1 ≤ 8)
    (by simpa using gapFits) "Unable to read gap to next ack block."
    (BigEndian.encode width.bytes block.length ++ rest)
  have readLength := Framer.record_readBytesToUInt64_encode io (bytes_le_eight width) lengthFits
    "Unable to ack block length." rest
  rw [AckBlock.wire, List.append_assoc, processAckBlocks, Framer.readUInt8,
    record_bind_ok io readGap, record_bind_ok io readLength, if_neg (Nat.not_lt.mpr below)]
  by_cases acks : 0 < block.length
  · have visited := Framer.record_visitAck io (.onAckRange
      (firstReceived - (block.gap + block.length))
      (firstReceived - (block.gap + block.length) + block.length) (remaining = 0)) rest
    simp only [acks, if_true, record_bind_ok io visited, AckBlock.calls, prepend_nil]
  · simp only [acks, if_false, AckBlock.calls, prepend_nil]

/-- The reader takes all the blocks that its bytes begin with. -/
theorem record_processAckBlocks_append (blocks : List AckBlock) (remaining : Nat)
    (rest : List UInt8) :
    ∀ firstReceived, BlocksFit width firstReceived blocks →
      record io (processAckBlocks width (blocks.length + remaining) firstReceived)
          (blocks.flatMap (AckBlock.wire width) ++ rest) =
        prepend (blockCalls (blocks.length + remaining) firstReceived blocks)
          (record io (processAckBlocks width remaining
            (lowestReceived firstReceived blocks)) rest) := by
  induction blocks with
  | nil =>
      intro firstReceived fit
      simp [blockCalls, lowestReceived]
  | cons block blocks inductionHypothesis =>
      intro firstReceived fit
      have ⟨gapFits, lengthFits, below, othersFit⟩ := fit
      have count : (block :: blocks).length + remaining = blocks.length + remaining + 1 := by
        rw [List.length_cons]
        omega
      have last : decide (blocks.length + remaining + 1 = 1) =
          decide (blocks.length + remaining = 0) := by
        apply decide_eq_decide.mpr
        omega
      rw [count, List.flatMap_cons, List.append_assoc,
        record_processAckBlocks_cons io gapFits lengthFits below,
        inductionHypothesis _ othersFit, prepend_prepend]
      simp only [blockCalls, lowestReceived, last, Nat.add_sub_cancel]

variable (width)

/-- Either the bytes begin with a block that fits, or the loop fails at once. -/
theorem processAckBlocks_block_cases (remaining firstReceived : Nat) (bytes : List UInt8) :
    (∃ block rest, block.gap < 256 ∧ block.length < 256 ^ width.bytes ∧
      block.gap + block.length ≤ firstReceived ∧ bytes = AckBlock.wire width block ++ rest) ∨
    ∃ detail unread, record io (processAckBlocks width (remaining + 1) firstReceived) bytes =
      (.error detail, ⟨unread, []⟩) := by
  rw [processAckBlocks, Framer.readUInt8]
  rcases Framer.readBytesToUInt64_cases io (by decide : 1 ≤ 8)
    "Unable to read gap to next ack block." bytes with
    ⟨gap, afterGap, gapFits, rfl⟩ | noGap
  · have readGap := Framer.record_readBytesToUInt64_encode io (by decide : 1 ≤ 8) gapFits
      "Unable to read gap to next ack block." afterGap
    rw [record_bind_ok io readGap]
    rcases Framer.readBytesToUInt64_cases io (bytes_le_eight width)
      "Unable to ack block length." afterGap with
      ⟨length, rest, lengthFits, rfl⟩ | noLength
    · have readLength := Framer.record_readBytesToUInt64_encode io (bytes_le_eight width) lengthFits
        "Unable to ack block length." rest
      rw [record_bind_ok io readLength]
      by_cases underflow : firstReceived < gap + length
      · right
        rw [if_pos underflow]
        exact ⟨_, _, rfl⟩
      · left
        refine ⟨⟨gap, length⟩, rest, by simpa using gapFits, lengthFits,
          Nat.not_lt.mp underflow, ?_⟩
        rw [AckBlock.wire, List.append_assoc]
    · right
      rw [record_bind_error io noLength]
      exact ⟨_, _, rfl⟩
  · right
    rw [record_bind_error io noGap]
    exact ⟨_, _, rfl⟩

/-- The blocks that some bytes begin with, up to `remaining` of them. Behind
them the loop fails at once, unless they are all. -/
theorem exists_blocks (remaining : Nat) :
    ∀ (firstReceived : Nat) (bytes : List UInt8), ∃ blocks missing rest,
      BlocksFit width firstReceived blocks ∧ blocks.length + missing = remaining ∧
        bytes = blocks.flatMap (AckBlock.wire width) ++ rest ∧
        (missing = 0 ∨ ∃ detail unread,
          record io (processAckBlocks width missing (lowestReceived firstReceived blocks)) rest =
            (.error detail, ⟨unread, []⟩)) := by
  induction remaining with
  | zero =>
      intro firstReceived bytes
      exact ⟨[], 0, bytes, trivial, rfl, rfl, Or.inl rfl⟩
  | succ remaining inductionHypothesis =>
      intro firstReceived bytes
      rcases processAckBlocks_block_cases io width remaining firstReceived bytes with
        ⟨block, others, gapFits, lengthFits, below, rfl⟩ | failed
      · have ⟨blocks, missing, rest, fit, count, read, stops⟩ :=
          inductionHypothesis (firstReceived - (block.gap + block.length)) others
        refine ⟨block :: blocks, missing, rest, ⟨gapFits, lengthFits, below, fit⟩, ?_, ?_, stops⟩
        · rw [List.length_cons]
          omega
        · rw [read, List.flatMap_cons, List.append_assoc]
      · exact ⟨[], remaining + 1, bytes, trivial, Nat.zero_add _, rfl, Or.inr failed⟩

end Blocks

/-! ### Reading frames -/

/-- What the reader does behind some blocks. -/
def processAfterBlocks (width : QuicPacketNumberLength) (remaining firstReceived : Nat) :
    Framer Unit := do
  processAckBlocks width remaining firstReceived
  let numReceivedPackets ← Framer.readUInt8 "Unable to read num received packets."
  processTimestampsInAckFrame numReceivedPackets

section Frames

variable (io : QuicData)

theorem callsOnly_processIncrementalTimestamps {allowed : VisitorCall → Prop} (remaining : Nat) :
    CallsOnly allowed (fun _ => True) (processIncrementalTimestamps remaining) := by
  induction remaining with
  | zero => trivial
  | succ remaining inductionHypothesis =>
      apply Interaction.Meets.bind (Framer.callsOnly_readBytesToUInt64 (by decide) _)
      intro sequenceDelta _
      apply Interaction.Meets.bind (Framer.callsOnly_readUFloat16 _)
      intro timeDelta _
      exact inductionHypothesis

theorem callsOnly_processTimestampsInAckFrame {allowed : VisitorCall → Prop}
    (numReceivedPackets : Nat) :
    CallsOnly allowed (fun _ => True) (processTimestampsInAckFrame numReceivedPackets) := by
  unfold processTimestampsInAckFrame
  split_ifs
  · apply Interaction.Meets.bind (Framer.callsOnly_readBytesToUInt64 (by decide) _)
    intro sequenceDelta _
    apply Interaction.Meets.bind (Framer.callsOnly_readBytesToUInt64 (by decide) _)
    intro timeDelta _
    exact callsOnly_processIncrementalTimestamps _
  · trivial

/-- Behind the last block the reader makes no call. -/
theorem callsOnly_processAfterBlocks_zero {allowed : VisitorCall → Prop}
    (width : QuicPacketNumberLength) (firstReceived : Nat) :
    CallsOnly allowed (fun _ => True) (processAfterBlocks width 0 firstReceived) := by
  apply Interaction.Meets.bind (Framer.callsOnly_readBytesToUInt64 (by decide) _)
  intro numReceivedPackets _
  exact callsOnly_processTimestampsInAckFrame numReceivedPackets

variable {frameType : Nat}

theorem record_readNumAckBlocks (ack : AckPrefix frameType) (rest : List UInt8) :
    record io (readNumAckBlocks (hasAckBlocks frameType)) (ack.countWire ++ rest) =
      (.ok ack.numAckBlocks, ⟨rest, []⟩) := by
  unfold AckPrefix.countWire readNumAckBlocks
  by_cases counted : hasAckBlocks frameType = true
  · rw [if_pos counted, if_pos counted]
    exact Framer.record_readBytesToUInt64_encode io (by decide)
      (by simpa using ack.numAckBlocks_lt) _ rest
  · rw [if_neg counted, if_neg counted,
      ack.numAckBlocks_eq_zero (Bool.eq_false_iff.mpr counted)]
    rfl

theorem record_readUFloat16_delay (ack : AckPrefix frameType) (detail : String)
    (rest : List UInt8) :
    record io (Framer.readUFloat16 detail) (ack.delay ++ rest) =
      (.ok (io.uFloat16Value ack.delay), ⟨rest, []⟩) := by
  have enough : 2 ≤ (ack.delay ++ rest).length := by
    simp [ack.length_delay]
  rw [Framer.record_readUFloat16, if_pos enough, List.take_left' ack.length_delay,
    List.drop_left' ack.length_delay]

/-- The reader takes the blocks of a prefix, the first one included, reports them
and goes on. -/
theorem record_processAckRanges (ack : AckPrefix frameType) (rest : List UInt8) :
    record io (processAckRanges (ackBlockLength frameType) (hasAckBlocks frameType)
        ack.largestAcked ack.numAckBlocks)
        (BigEndian.encode (ackBlockLength frameType).bytes ack.firstBlockLength ++
          (ack.blocksWire ++ rest)) =
      prepend ack.ranges (record io (processAfterBlocks (ackBlockLength frameType)
        (ack.numAckBlocks - ack.blocks.length)
        (lowestReceived ack.firstReceived ack.blocks)) rest) := by
  have readFirst := Framer.record_readBytesToUInt64_encode io
    (bytes_le_eight (ackBlockLength frameType)) ack.firstBlockLength_lt
    "Unable to read first ack block length." (ack.blocksWire ++ rest)
  have acksSome : ¬(ack.firstBlockLength = 0 ∧
      (ack.largestAcked ≠ 0 ∨ ack.numAckBlocks ≠ 0)) := by
    rintro ⟨empty, others⟩
    have := ack.acksSome empty
    omega
  have visited := Framer.record_visitAck io (.onAckRange ack.firstReceived (ack.largestAcked + 1)
    (!hasAckBlocks frameType)) (ack.blocksWire ++ rest)
  have blocksRead := record_processAckBlocks_append io ack.blocks
    (ack.numAckBlocks - ack.blocks.length) rest ack.firstReceived ack.blocksFit
  rw [Nat.add_sub_cancel' ack.length_blocks_le] at blocksRead
  rw [processAckRanges, record_bind_ok io readFirst, if_neg acksSome,
    if_neg (Nat.not_lt.mpr ack.firstBlockLength_le)]
  change record io (Framer.visitAck (.onAckRange ack.firstReceived (ack.largestAcked + 1)
      (!hasAckBlocks frameType)) >>= fun _ =>
    processAfterBlocks (ackBlockLength frameType) ack.numAckBlocks ack.firstReceived) _ = _
  rw [record_bind_ok io visited, processAfterBlocks, AckPrefix.blocksWire,
    record_bind_prepend io blocksRead, prepend_prepend]
  rfl

/-- The reader takes a prefix of a frame that its bytes begin with, reports it
and goes on. -/
theorem record_wire (ack : AckPrefix frameType) (rest : List UInt8) :
    record io (processAckFrame io.kUFloat16MaxValue frameType) (ack.wire ++ rest) =
      prepend (ack.calls io) (record io (processAfterBlocks (ackBlockLength frameType)
        (ack.numAckBlocks - ack.blocks.length)
        (lowestReceived ack.firstReceived ack.blocks)) rest) := by
  have readLargest := Framer.record_readBytesToUInt64_encode io
    (bytes_le_eight (largestAckedLength frameType)) ack.largestAcked_lt
    "Unable to read largest acked."
    (ack.delay ++ (ack.countWire ++
      (BigEndian.encode (ackBlockLength frameType).bytes ack.firstBlockLength ++
        (ack.blocksWire ++ rest))))
  have readDelay := record_readUFloat16_delay io ack "Unable to read ack delay time."
    (ack.countWire ++ (BigEndian.encode (ackBlockLength frameType).bytes ack.firstBlockLength ++
      (ack.blocksWire ++ rest)))
  have visited := Framer.record_visitAck io (.onAckFrameStart ack.largestAcked
    (ackDelayTime io.kUFloat16MaxValue (io.uFloat16Value ack.delay)))
    (ack.countWire ++ (BigEndian.encode (ackBlockLength frameType).bytes ack.firstBlockLength ++
      (ack.blocksWire ++ rest)))
  have readCount := record_readNumAckBlocks io ack
    (BigEndian.encode (ackBlockLength frameType).bytes ack.firstBlockLength ++
      (ack.blocksWire ++ rest))
  simp only [AckPrefix.wire, List.append_assoc]
  rw [processAckFrame, record_bind_ok io readLargest, record_bind_ok io readDelay,
    record_bind_ok io visited, record_bind_ok io readCount, record_processAckRanges io ack rest]
  simp only [prepend_prepend]
  rfl

/-! ### Where the reader stops -/

/-- The program fails on the bytes, after some calls. -/
def FailsAfter {α : Type} (program : Framer α) (bytes : List UInt8) (calls : List VisitorCall) :
    Prop :=
  ∃ detail unread, record io program bytes = (.error detail, ⟨unread, calls⟩)

variable {io}

theorem FailsAfter.bind {α β : Type} {program : Framer α} {bytes : List UInt8}
    {calls : List VisitorCall} (fails : FailsAfter io program bytes calls) (next : α → Framer β) :
    FailsAfter io (program >>= next) bytes calls := by
  have ⟨detail, unread, failed⟩ := fails
  exact ⟨detail, unread, record_bind_error io failed⟩

theorem FailsAfter.behind {α : Type} {program other : Framer α} {bytes rest : List UInt8}
    {calls later : List VisitorCall}
    (reaches : record io program bytes = prepend calls (record io other rest))
    (fails : FailsAfter io other rest later) :
    FailsAfter io program bytes (calls ++ later) := by
  have ⟨detail, unread, failed⟩ := fails
  refine ⟨detail, unread, ?_⟩
  rw [reaches, failed]
  rfl

theorem failsAfter_read {count : Nat} {detail : String} {bytes : List UInt8}
    (short : record io (Framer.readBytesToUInt64 count detail) bytes =
      (.error detail, ⟨[], []⟩)) :
    FailsAfter io (Framer.readBytesToUInt64 count detail) bytes [] :=
  ⟨detail, [], short⟩

variable (io)

/-- The number of blocks, where the frame has it, or a failure. -/
theorem readNumAckBlocks_cases (counted : Bool) (bytes : List UInt8) :
    (∃ numAckBlocks rest, numAckBlocks < 256 ∧ (counted = false → numAckBlocks = 0) ∧
      bytes = (if counted then BigEndian.encode 1 numAckBlocks else []) ++ rest ∧
      record io (readNumAckBlocks counted) bytes = (.ok numAckBlocks, ⟨rest, []⟩)) ∨
    FailsAfter io (readNumAckBlocks counted) bytes [] := by
  cases counted with
  | false => exact Or.inl ⟨0, bytes, by decide, fun _ => rfl, rfl, rfl⟩
  | true =>
      rcases Framer.readBytesToUInt64_cases io (by decide : 1 ≤ 8)
        "Unable to read num of ack blocks." bytes with
        ⟨numAckBlocks, rest, fits, rfl⟩ | short
      · left
        exact ⟨numAckBlocks, rest, by simpa using fits, by simp, rfl,
          Framer.record_readBytesToUInt64_encode io (by decide) fits _ rest⟩
      · exact Or.inr (failsAfter_read short)

/-- The largest number, the delay and the number of blocks, which every frame
begins with, or a failure before any range. -/
theorem processAckFrame_head_cases (frameType : Nat) (bytes : List UInt8) :
    (∃ largestAcked delay numAckBlocks rest,
      largestAcked < 256 ^ (largestAckedLength frameType).bytes ∧ delay.length = 2 ∧
      numAckBlocks < 256 ∧ (hasAckBlocks frameType = false → numAckBlocks = 0) ∧
      bytes = BigEndian.encode (largestAckedLength frameType).bytes largestAcked ++
        (delay ++ ((if hasAckBlocks frameType then BigEndian.encode 1 numAckBlocks else []) ++
          rest)) ∧
      record io (processAckFrame io.kUFloat16MaxValue frameType) bytes =
        prepend [.onAckFrameStart largestAcked
          (ackDelayTime io.kUFloat16MaxValue (io.uFloat16Value delay))]
          (record io (processAckRanges (ackBlockLength frameType) (hasAckBlocks frameType)
            largestAcked numAckBlocks) rest)) ∨
    ∃ calls, FailsAfter io (processAckFrame io.kUFloat16MaxValue frameType) bytes calls ∧
      ∀ start stop last, .onAckRange start stop last ∉ calls := by
  rcases Framer.readBytesToUInt64_cases io (bytes_le_eight (largestAckedLength frameType))
    "Unable to read largest acked." bytes with
    ⟨largestAcked, afterLargest, largestFits, rfl⟩ | short
  · have readLargest := Framer.record_readBytesToUInt64_encode io
      (bytes_le_eight (largestAckedLength frameType)) largestFits "Unable to read largest acked."
      afterLargest
    have readDelay := Framer.record_readUFloat16 io "Unable to read ack delay time." afterLargest
    by_cases enough : 2 ≤ afterLargest.length
    · rw [if_pos enough] at readDelay
      have visited := Framer.record_visitAck io (.onAckFrameStart largestAcked
        (ackDelayTime io.kUFloat16MaxValue (io.uFloat16Value (afterLargest.take 2))))
        (afterLargest.drop 2)
      have reaches : record io (processAckFrame io.kUFloat16MaxValue frameType)
            (BigEndian.encode (largestAckedLength frameType).bytes largestAcked ++ afterLargest) =
          prepend [.onAckFrameStart largestAcked (ackDelayTime io.kUFloat16MaxValue
              (io.uFloat16Value (afterLargest.take 2)))]
            (record io (readNumAckBlocks (hasAckBlocks frameType) >>= fun numAckBlocks =>
              processAckRanges (ackBlockLength frameType) (hasAckBlocks frameType) largestAcked
                numAckBlocks) (afterLargest.drop 2)) := by
        rw [processAckFrame, record_bind_ok io readLargest, record_bind_ok io readDelay]
        exact record_bind_ok io visited
      rcases readNumAckBlocks_cases io (hasAckBlocks frameType) (afterLargest.drop 2) with
        ⟨numAckBlocks, rest, countFits, uncounted, split, readCount⟩ | failed
      · left
        refine ⟨largestAcked, afterLargest.take 2, numAckBlocks, rest, largestFits,
          List.length_take_of_le enough, countFits, uncounted, ?_, ?_⟩
        · rw [← split, List.take_append_drop]
        · rw [reaches, record_bind_ok io readCount]
          rfl
      · right
        exact ⟨_, FailsAfter.behind reaches (failed.bind _), by simp⟩
    · right
      rw [if_neg enough] at readDelay
      have fails : FailsAfter io (Framer.readUFloat16 "Unable to read ack delay time.")
          afterLargest [] := ⟨_, _, readDelay⟩
      exact ⟨_, FailsAfter.behind (record_bind_ok io readLargest) (fails.bind _), by simp⟩
  · right
    exact ⟨_, (failsAfter_read short).bind _, by simp⟩

/-- The first block and the blocks behind it that the bytes begin with, or a
failure before any range. -/
theorem processAckRanges_cases {frameType largestAcked numAckBlocks : Nat} {delay : List UInt8}
    (largestFits : largestAcked < 256 ^ (largestAckedLength frameType).bytes)
    (lengthDelay : delay.length = 2) (countFits : numAckBlocks < 256)
    (uncounted : hasAckBlocks frameType = false → numAckBlocks = 0) (bytes : List UInt8) :
    (∃ (ack : AckPrefix frameType) (rest : List UInt8),
      ack.largestAcked = largestAcked ∧ ack.delay = delay ∧ ack.numAckBlocks = numAckBlocks ∧
      bytes = BigEndian.encode (ackBlockLength frameType).bytes ack.firstBlockLength ++
        (ack.blocksWire ++ rest) ∧
      (ack.Complete ∨ FailsAfter io (processAfterBlocks (ackBlockLength frameType)
        (ack.numAckBlocks - ack.blocks.length)
        (lowestReceived ack.firstReceived ack.blocks)) rest [])) ∨
    FailsAfter io (processAckRanges (ackBlockLength frameType) (hasAckBlocks frameType)
      largestAcked numAckBlocks) bytes [] := by
  rcases Framer.readBytesToUInt64_cases io (bytes_le_eight (ackBlockLength frameType))
    "Unable to read first ack block length." bytes with
    ⟨firstBlockLength, afterFirst, firstFits, rfl⟩ | short
  · have readFirst := Framer.record_readBytesToUInt64_encode io
      (bytes_le_eight (ackBlockLength frameType)) firstFits
      "Unable to read first ack block length." afterFirst
    by_cases empty : firstBlockLength = 0 ∧ (largestAcked ≠ 0 ∨ numAckBlocks ≠ 0)
    · right
      unfold FailsAfter
      rw [processAckRanges, record_bind_ok io readFirst, if_pos empty]
      exact ⟨_, _, rfl⟩
    by_cases underflow : largestAcked + 1 < firstBlockLength
    · right
      unfold FailsAfter
      rw [processAckRanges, record_bind_ok io readFirst, if_neg empty, if_pos underflow]
      exact ⟨_, _, rfl⟩
    · left
      have ⟨blocks, missing, rest, fit, count, read, stops⟩ := exists_blocks io
        (ackBlockLength frameType) numAckBlocks (largestAcked + 1 - firstBlockLength) afterFirst
      have acksSome : firstBlockLength = 0 → largestAcked = 0 ∧ numAckBlocks = 0 := by
        intro zero
        by_contra others
        exact empty ⟨zero, by omega⟩
      let ack : AckPrefix frameType :=
        { largestAcked, delay, numAckBlocks, firstBlockLength, blocks
          largestAcked_lt := largestFits
          length_delay := lengthDelay
          numAckBlocks_lt := countFits
          numAckBlocks_eq_zero := uncounted
          firstBlockLength_lt := firstFits
          acksSome := acksSome
          firstBlockLength_le := Nat.not_lt.mp underflow
          length_blocks_le := by omega
          blocksFit := fit }
      refine ⟨ack, rest, rfl, rfl, rfl, congrArg _ read, ?_⟩
      have missing_eq : ack.numAckBlocks - ack.blocks.length = missing := by
        change numAckBlocks - blocks.length = missing
        omega
      rcases stops with none | ⟨detail, unread, failed⟩
      · left
        change blocks.length = numAckBlocks
        omega
      · right
        have fails : FailsAfter io (processAckBlocks (ackBlockLength frameType) missing
            (lowestReceived ack.firstReceived ack.blocks)) rest [] := ⟨detail, unread, failed⟩
        rw [missing_eq]
        exact fails.bind _
  · right
    exact (failsAfter_read short).bind _

/-- The reader stops at a prefix of the frame, or fails before any range. -/
theorem processAckFrame_cases (frameType : Nat) (bytes : List UInt8) :
    (∃ (ack : AckPrefix frameType) (rest : List UInt8), bytes = ack.wire ++ rest ∧
      (record io (processAckFrame io.kUFloat16MaxValue frameType) bytes).2.visitor =
        ack.calls io ∧
      (ack.Complete ∨ ∃ detail,
        (record io (processAckFrame io.kUFloat16MaxValue frameType) bytes).1 = .error detail)) ∨
    ∃ calls, FailsAfter io (processAckFrame io.kUFloat16MaxValue frameType) bytes calls ∧
      ∀ start stop last, .onAckRange start stop last ∉ calls := by
  rcases processAckFrame_head_cases io frameType bytes with
    ⟨largestAcked, delay, numAckBlocks, afterCount, largestFits, lengthDelay, countFits,
      uncounted, split, reaches⟩ | failed
  · rcases processAckRanges_cases io largestFits lengthDelay countFits uncounted afterCount with
      ⟨ack, rest, rfl, rfl, rfl, read, stops⟩ | failed
    · left
      have wired : bytes = ack.wire ++ rest := by
        simp only [split, read, AckPrefix.wire, AckPrefix.countWire, List.append_assoc]
      have recorded := record_wire io ack rest
      rw [← wired] at recorded
      refine ⟨ack, rest, wired, ?_, ?_⟩
      · rcases stops with complete | ⟨detail, unread, fails⟩
        · have noneLeft : ack.numAckBlocks - ack.blocks.length = 0 := by
            rw [complete, Nat.sub_self]
          rw [recorded, prepend, noneLeft,
            record_silent io (callsOnly_processAfterBlocks_zero _ _) rest, List.append_nil]
        · rw [recorded, fails]
          exact List.append_nil _
      · apply stops.imp_right
        rintro ⟨detail, unread, fails⟩
        refine ⟨detail, ?_⟩
        rw [recorded, fails]
        rfl
    · right
      exact ⟨_, FailsAfter.behind reaches failed, by simp⟩
  · exact Or.inr failed

end Frames

end StupidSimple.Quic
