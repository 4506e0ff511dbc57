import StupidSimple.Quic.AckEncode
import StupidSimple.Quic.AckRanges

/-!
Owns the blocks that stand for the intervals below the top one, as a list
(`gapBlocks`), and what the encoder and the decoder make of it: the encoder
writes as many of them as there is room for, and the decoder reports the
intervals whose blocks were all written (`fitting`).
-/

namespace StupidSimple.Quic

open StupidSimple.Library

/-! ### The list of blocks -/

/-- Blocks without packets, for a gap that is longer than one block can hold. -/
def emptyBlocks (count : Nat) : List AckBlock := List.replicate count ⟨maxUInt8, 0⟩

/-- The block for the rest of the gap, and the interval below it. -/
def lastBlock (previousStart count : Nat) (interval : Interval) : AckBlock :=
  ⟨previousStart - interval.max - count * maxUInt8, interval.length⟩

def intervalBlocks (previousStart : Nat) (interval : Interval) : List AckBlock :=
  let count := numEncodedGaps (previousStart - interval.max) - 1
  emptyBlocks count ++ [lastBlock previousStart count interval]

/-- The blocks of the intervals, from the top downwards. -/
def gapBlocks : (previousStart : Nat) → List Interval → List AckBlock
  | _, [] => []
  | previousStart, interval :: rest =>
      intervalBlocks previousStart interval ++ gapBlocks interval.min rest

/-- The intervals whose blocks all fit among the first `budget`. -/
def fitting : (budget previousStart : Nat) → List Interval → List Interval
  | _, _, [] => []
  | budget, previousStart, interval :: rest =>
      let needed := numEncodedGaps (previousStart - interval.max)
      if needed ≤ budget then interval :: fitting (budget - needed) interval.min rest else []

/-- The intervals lie below the number and below each other, with gaps. -/
def Descending : Nat → List Interval → Prop
  | _, [] => True
  | previousStart, interval :: rest => interval.max < previousStart ∧ Descending interval.min rest

theorem numEncodedGaps_pos {totalGap : Nat} (gap : 0 < totalGap) : 0 < numEncodedGaps totalGap := by
  unfold numEncodedGaps maxUInt8
  omega

theorem length_intervalBlocks {previousStart : Nat} {interval : Interval}
    (below : interval.max < previousStart) :
    (intervalBlocks previousStart interval).length =
      numEncodedGaps (previousStart - interval.max) := by
  have positive := numEncodedGaps_pos (Nat.sub_pos_of_lt below)
  rw [intervalBlocks, List.length_append, emptyBlocks, List.length_replicate,
    List.length_singleton]
  omega

/-- Every interval fits into the blocks of all of them. -/
theorem fitting_eq_self {budget previousStart : Nat} {intervals : List Interval}
    (descending : Descending previousStart intervals)
    (enough : (gapBlocks previousStart intervals).length ≤ budget) :
    fitting budget previousStart intervals = intervals := by
  induction intervals generalizing budget previousStart with
  | nil => rfl
  | cons interval rest inductionHypothesis =>
      rw [gapBlocks, List.length_append, length_intervalBlocks descending.1] at enough
      rw [fitting, if_pos (by omega), inductionHypothesis descending.2 (by omega)]

/-- A budget beyond the number of blocks changes nothing. -/
theorem fitting_min {budget previousStart : Nat} {intervals : List Interval}
    (descending : Descending previousStart intervals) :
    fitting (min (gapBlocks previousStart intervals).length budget) previousStart intervals =
      fitting budget previousStart intervals := by
  by_cases enough : (gapBlocks previousStart intervals).length ≤ budget
  · rw [Nat.min_eq_left enough, fitting_eq_self descending enough,
      fitting_eq_self descending (Nat.le_refl _)]
  · rw [Nat.min_eq_right (Nat.le_of_not_le enough)]

/-! ### Writing the blocks -/

namespace QuicDataWriter

def append (writer : QuicDataWriter) (data : List UInt8) : QuicDataWriter :=
  { writer with bytes := writer.bytes ++ data }

@[simp] theorem append_capacity (writer : QuicDataWriter) (data : List UInt8) :
    (writer.append data).capacity = writer.capacity := rfl

@[simp] theorem length_append (writer : QuicDataWriter) (data : List UInt8) :
    (writer.append data).bytes.length = writer.bytes.length + data.length :=
  List.length_append

theorem append_append (writer : QuicDataWriter) (first second : List UInt8) :
    (writer.append first).append second = writer.append (first ++ second) := by
  simp [append, List.append_assoc]

theorem writeBytes_eq {data : List UInt8} {writer : QuicDataWriter}
    (room : writer.bytes.length + data.length ≤ writer.capacity) :
    writer.writeBytes data = some (writer.append data) :=
  writeBytes_of_le room

@[simp] theorem append_nil (writer : QuicDataWriter) : writer.append [] = writer := by
  simp [append]

end QuicDataWriter

section Writing

variable (io : QuicData)

theorem writeUInt8_eq {value : Nat} {writer : QuicDataWriter}
    (room : writer.bytes.length + 1 ≤ writer.capacity) :
    writeUInt8 value writer = some (writer.append (BigEndian.encode 1 value)) := by
  rw [BigEndian.encode_one]
  exact QuicDataWriter.writeBytes_of_le room

theorem appendPacketNumber_eq {width : QuicPacketNumberLength} {value : Nat}
    {writer : QuicDataWriter} (room : writer.bytes.length + width.bytes ≤ writer.capacity) :
    appendPacketNumber io width value writer =
      some (writer.append (BigEndian.encode width.bytes value)) := by
  rw [appendPacketNumber, io.writeBytesToUInt64_eq _ _ (bytes_le_eight width)]
  exact QuicDataWriter.writeBytes_of_le (by simpa using room)

variable {width : QuicPacketNumberLength}

@[simp] theorem AckBlock.length_wire (block : AckBlock) :
    (block.wire width).length = 1 + width.bytes := by
  simp [AckBlock.wire]

theorem length_blocksWire (blocks : List AckBlock) :
    (blocks.flatMap (AckBlock.wire width)).length = blocks.length * (1 + width.bytes) := by
  induction blocks with
  | nil => simp
  | cons block blocks inductionHypothesis =>
      rw [List.flatMap_cons, List.length_append, inductionHypothesis, AckBlock.length_wire,
        List.length_cons, Nat.succ_mul, Nat.add_comm]

theorem appendAckBlock_eq (width : QuicPacketNumberLength) (block : AckBlock)
    (writer : QuicDataWriter)
    (room : writer.bytes.length + (1 + width.bytes) ≤ writer.capacity) :
    appendAckBlock io block.gap width block.length writer =
      some (writer.append (block.wire width)) := by
  rw [appendAckBlock, writeUInt8_eq (by omega)]
  have second : appendPacketNumber io width block.length
      (writer.append (BigEndian.encode 1 block.gap)) = some (writer.append (block.wire width)) := by
    rw [appendPacketNumber_eq io (by simp; omega), QuicDataWriter.append_append, AckBlock.wire]
  exact second

/-- The loop over blocks without packets writes them while there is room. -/
theorem appendEmptyBlocks_eq (count room : Nat) (writer : QuicDataWriter)
    (capacity : writer.bytes.length + room * (1 + width.bytes) ≤ writer.capacity) :
    appendEmptyBlocks io width count room writer =
      some (room - count, writer.append
        (((emptyBlocks count).take room).flatMap (AckBlock.wire width))) := by
  unfold emptyBlocks
  induction count generalizing room writer with
  | zero => simp [appendEmptyBlocks]
  | succ count inductionHypothesis =>
      cases room with
      | zero => simp [appendEmptyBlocks]
      | succ room =>
          rw [Nat.succ_mul] at capacity
          have written := appendAckBlock_eq io width ⟨maxUInt8, 0⟩ writer (by omega)
          rw [appendEmptyBlocks, written, Option.bind_eq_bind, Option.bind_some,
            inductionHypothesis room _ (by simp; omega), QuicDataWriter.append_append]
          simp [List.replicate_succ]

/-- The encoder writes the blocks of the intervals while there is room. -/
theorem appendAckBlocks_eq (intervals : List Interval) :
    ∀ (previousStart room : Nat) (writer : QuicDataWriter),
      writer.bytes.length + room * (1 + width.bytes) ≤ writer.capacity →
      appendAckBlocks io width intervals previousStart room writer =
        some (writer.append (((gapBlocks previousStart intervals).take room).flatMap
          (AckBlock.wire width))) := by
  induction intervals with
  | nil =>
      intro previousStart room writer capacity
      simp [appendAckBlocks, gapBlocks]
  | cons interval rest inductionHypothesis =>
      intro previousStart room writer capacity
      cases room with
      | zero => simp [appendAckBlocks]
      | succ room =>
          have empties := appendEmptyBlocks_eq io
            (numEncodedGaps (previousStart - interval.max) - 1) (room + 1) writer capacity
          rw [appendAckBlocks, empties]
          simp only [Option.bind_eq_bind, Option.bind_some]
          rw [gapBlocks, intervalBlocks, List.append_assoc]
          generalize numEncodedGaps (previousStart - interval.max) - 1 = count
          have length : (emptyBlocks count).length = count := List.length_replicate
          cases left : room + 1 - count with
          | zero =>
              -- The room ends among the blocks without packets.
              rw [List.take_append_of_le_length (by omega)]
          | succ roomLeft =>
              have split : room + 1 = count + (roomLeft + 1) := by omega
              have spent : (room + 1) * (1 + width.bytes) =
                  count * (1 + width.bytes) + (1 + width.bytes) +
                    roomLeft * (1 + width.bytes) := by
                rw [split]
                ring
              have full : (emptyBlocks count).take (room + 1) = emptyBlocks count :=
                List.take_of_length_le (by omega)
              have others : (emptyBlocks count ++ ([lastBlock previousStart count interval] ++
                    gapBlocks interval.min rest)).take (room + 1) =
                  emptyBlocks count ++ ([lastBlock previousStart count interval] ++
                    (gapBlocks interval.min rest).take roomLeft) := by
                rw [List.take_append, full, length, left]
                rfl
              have block := appendAckBlock_eq io width (lastBlock previousStart count interval)
                (writer.append ((emptyBlocks count).flatMap (AckBlock.wire width)))
                (by
                  rw [QuicDataWriter.length_append, length_blocksWire, length]
                  simp only [QuicDataWriter.append_capacity]
                  omega)
              simp only [lastBlock] at block others ⊢
              rw [full, block, others, Option.bind_some, inductionHypothesis]
              · simp [QuicDataWriter.append_append]
              · simp only [QuicDataWriter.length_append, QuicDataWriter.append_capacity,
                  length_blocksWire, AckBlock.length_wire, length]
                omega

end Writing

/-! ### Reading the blocks -/

/-- The blocks lie one below the other under the number. -/
def BlocksBelow : Nat → List AckBlock → Prop
  | _, [] => True
  | firstReceived, block :: blocks =>
      block.gap + block.length ≤ firstReceived ∧
        BlocksBelow (firstReceived - (block.gap + block.length)) blocks

theorem blocksFit_iff {width : QuicPacketNumberLength} {blocks : List AckBlock} :
    ∀ {firstReceived}, BlocksFit width firstReceived blocks ↔
      (∀ block ∈ blocks, block.gap < 256 ∧ block.length < 256 ^ width.bytes) ∧
        BlocksBelow firstReceived blocks := by
  induction blocks with
  | nil => simp [BlocksFit, BlocksBelow]
  | cons block blocks inductionHypothesis =>
      intro firstReceived
      simp only [BlocksFit, BlocksBelow, List.forall_mem_cons, inductionHypothesis]
      tauto

theorem BlocksBelow.append {first second : List AckBlock} :
    ∀ {firstReceived}, BlocksBelow firstReceived first →
      BlocksBelow (lowestReceived firstReceived first) second →
      BlocksBelow firstReceived (first ++ second) := by
  induction first with
  | nil =>
      intro firstReceived _ below
      exact below
  | cons block blocks inductionHypothesis =>
      intro firstReceived below others
      exact ⟨below.1, inductionHypothesis below.2 others⟩

theorem BlocksBelow.take {blocks : List AckBlock} :
    ∀ {firstReceived}, BlocksBelow firstReceived blocks →
      ∀ count, BlocksBelow firstReceived (blocks.take count) := by
  induction blocks with
  | nil =>
      intro firstReceived below count
      rw [List.take_nil]
      trivial
  | cons block blocks inductionHypothesis =>
      intro firstReceived below count
      cases count with
      | zero => trivial
      | succ count => exact ⟨below.1, inductionHypothesis below.2 count⟩

theorem lowestReceived_append (first second : List AckBlock) :
    ∀ firstReceived, lowestReceived firstReceived (first ++ second) =
      lowestReceived (lowestReceived firstReceived first) second := by
  induction first with
  | nil =>
      intro firstReceived
      rfl
  | cons block blocks inductionHypothesis =>
      intro firstReceived
      exact inductionHypothesis _

theorem emptyBlocks_succ (count : Nat) :
    emptyBlocks (count + 1) = ⟨maxUInt8, 0⟩ :: emptyBlocks count := rfl

theorem span_emptyBlock :
    AckBlock.gap ⟨maxUInt8, 0⟩ + AckBlock.length ⟨maxUInt8, 0⟩ = maxUInt8 := rfl

theorem lowestReceived_emptyBlocks (count : Nat) :
    ∀ firstReceived, lowestReceived firstReceived (emptyBlocks count) =
      firstReceived - count * maxUInt8 := by
  induction count with
  | zero =>
      intro firstReceived
      simp [emptyBlocks, lowestReceived]
  | succ count inductionHypothesis =>
      intro firstReceived
      rw [emptyBlocks_succ, lowestReceived, inductionHypothesis, span_emptyBlock, Nat.succ_mul]
      omega

theorem blocksBelow_emptyBlocks (count : Nat) :
    ∀ firstReceived, count * maxUInt8 ≤ firstReceived →
      BlocksBelow firstReceived (emptyBlocks count) := by
  induction count with
  | zero =>
      intro firstReceived _
      trivial
  | succ count inductionHypothesis =>
      intro firstReceived enough
      rw [Nat.succ_mul] at enough
      rw [emptyBlocks_succ, BlocksBelow, span_emptyBlock]
      exact ⟨by omega, inductionHypothesis _ (by omega)⟩

theorem blockCalls_emptyBlocks (count : Nat) :
    ∀ remaining firstReceived, blockCalls remaining firstReceived (emptyBlocks count) = [] := by
  induction count with
  | zero =>
      intro remaining firstReceived
      rfl
  | succ count inductionHypothesis =>
      intro remaining firstReceived
      rw [emptyBlocks_succ, blockCalls, inductionHypothesis]
      rfl

/-- The rest of a gap behind its empty blocks is what one block can hold. -/
theorem gap_rest {totalGap : Nat} (gap : 0 < totalGap) :
    (numEncodedGaps totalGap - 1) * maxUInt8 < totalGap ∧
      totalGap - (numEncodedGaps totalGap - 1) * maxUInt8 ≤ maxUInt8 := by
  unfold numEncodedGaps maxUInt8
  omega

section Interval

variable {previousStart : Nat} {interval : Interval} (below : interval.max < previousStart)

include below

theorem blocksBelow_intervalBlocks :
    BlocksBelow previousStart (intervalBlocks previousStart interval) := by
  have rest := gap_rest (Nat.sub_pos_of_lt below)
  have ordered := interval.min_lt_max
  apply BlocksBelow.append (blocksBelow_emptyBlocks _ _ (by omega))
  rw [lowestReceived_emptyBlocks]
  refine ⟨?_, trivial⟩
  simp only [lastBlock, Interval.length]
  omega

theorem lowestReceived_intervalBlocks :
    lowestReceived previousStart (intervalBlocks previousStart interval) = interval.min := by
  have rest := gap_rest (Nat.sub_pos_of_lt below)
  have ordered := interval.min_lt_max
  rw [intervalBlocks, lowestReceived_append, lowestReceived_emptyBlocks]
  simp only [lowestReceived, lastBlock, Interval.length]
  omega

theorem gap_lt_of_mem_intervalBlocks {block : AckBlock}
    (member : block ∈ intervalBlocks previousStart interval) : block.gap < 256 := by
  have rest := gap_rest (Nat.sub_pos_of_lt below)
  have small : maxUInt8 < 256 := by decide
  rcases List.mem_append.mp member with empty | last
  · rw [List.eq_of_mem_replicate empty]
    exact small
  · rw [List.mem_singleton.mp last]
    simp only [lastBlock]
    omega

end Interval

theorem blocksBelow_gapBlocks {intervals : List Interval} :
    ∀ {previousStart}, Descending previousStart intervals →
      BlocksBelow previousStart (gapBlocks previousStart intervals) := by
  induction intervals with
  | nil =>
      intro previousStart _
      trivial
  | cons interval rest inductionHypothesis =>
      intro previousStart descending
      apply BlocksBelow.append (blocksBelow_intervalBlocks descending.1)
      rw [lowestReceived_intervalBlocks descending.1]
      exact inductionHypothesis descending.2

theorem gap_lt_of_mem_gapBlocks {intervals : List Interval} {block : AckBlock} :
    ∀ {previousStart}, Descending previousStart intervals →
      block ∈ gapBlocks previousStart intervals → block.gap < 256 := by
  induction intervals with
  | nil =>
      intro previousStart _ member
      cases member
  | cons interval rest inductionHypothesis =>
      intro previousStart descending member
      rcases List.mem_append.mp member with own | later
      · exact gap_lt_of_mem_intervalBlocks descending.1 own
      · exact inductionHypothesis descending.2 later

/-- The ranges among some calls. -/
def ackRanges (calls : List VisitorCall) : List (Nat × Nat) :=
  calls.filterMap fun
    | .onAckRange start stop _ => some (start, stop)
    | _ => none

theorem ackRanges_append (first second : List VisitorCall) :
    ackRanges (first ++ second) = ackRanges first ++ ackRanges second :=
  List.filterMap_append

def Interval.range (interval : Interval) : Nat × Nat := (interval.min, interval.max)

theorem ackRanges_intervalBlocks {previousStart : Nat} {interval : Interval}
    (below : interval.max < previousStart) (remaining : Nat) :
    ackRanges (blockCalls remaining previousStart (intervalBlocks previousStart interval)) =
      [interval.range] := by
  have lowest := lowestReceived_intervalBlocks below
  have ordered := interval.min_lt_max
  rw [intervalBlocks, lowestReceived_append] at lowest
  rw [intervalBlocks, blockCalls_append, blockCalls_emptyBlocks, List.nil_append]
  simp only [lowestReceived] at lowest
  generalize count_eq : numEncodedGaps (previousStart - interval.max) - 1 = count at lowest ⊢
  have acks : 0 < (lastBlock previousStart count interval).length := Nat.sub_pos_of_lt ordered
  have stop : interval.min + (lastBlock previousStart count interval).length = interval.max :=
    Nat.add_sub_cancel' ordered.le
  rw [blockCalls, blockCalls, List.append_nil, AckBlock.calls, lowest, if_pos acks, stop]
  rfl

/-- The blocks of a budget report the intervals that fit into it. -/
theorem ackRanges_take_gapBlocks {intervals : List Interval} :
    ∀ {previousStart}, Descending previousStart intervals → ∀ budget remaining,
      ackRanges (blockCalls remaining previousStart
        ((gapBlocks previousStart intervals).take budget)) =
          (fitting budget previousStart intervals).map Interval.range := by
  induction intervals with
  | nil =>
      intro previousStart _ budget remaining
      simp [gapBlocks, blockCalls, fitting, ackRanges]
  | cons interval rest inductionHypothesis =>
      intro previousStart descending budget remaining
      have length := length_intervalBlocks descending.1
      rw [gapBlocks, fitting]
      by_cases fits : numEncodedGaps (previousStart - interval.max) ≤ budget
      · have whole : (intervalBlocks previousStart interval).take budget =
            intervalBlocks previousStart interval := List.take_of_length_le (by omega)
        rw [if_pos fits, List.take_append, whole, length, blockCalls_append, ackRanges_append,
          ackRanges_intervalBlocks descending.1, lowestReceived_intervalBlocks descending.1,
          inductionHypothesis descending.2]
        rfl
      · -- The budget ends among the empty blocks of the interval.
        have positive := numEncodedGaps_pos (Nat.sub_pos_of_lt descending.1)
        have empties : (intervalBlocks previousStart interval ++
            gapBlocks interval.min rest).take budget = emptyBlocks budget := by
          rw [List.take_append_of_le_length (by omega), intervalBlocks,
            List.take_append_of_le_length (by simp only [emptyBlocks, List.length_replicate]; omega),
            emptyBlocks, List.take_replicate, Nat.min_eq_left (by omega)]
          rfl
        rw [if_neg fits, empties, blockCalls_emptyBlocks]
        rfl

/-! ### The outline of a frame -/

theorem scanIntervals_numAckBlocks {intervals : List Interval} :
    ∀ {previousStart info}, Descending previousStart intervals →
      min (scanIntervals intervals previousStart info).numAckBlocks maxUInt8 =
        min (info.numAckBlocks + (gapBlocks previousStart intervals).length) maxUInt8 := by
  induction intervals with
  | nil =>
      intro previousStart info _
      rfl
  | cons interval rest inductionHypothesis =>
      intro previousStart info descending
      rw [scanIntervals]
      split_ifs with more
      · rw [inductionHypothesis descending.2, gapBlocks, List.length_append,
          length_intervalBlocks descending.1, Nat.add_assoc]
      · omega

theorem scanIntervals_firstBlockLength (intervals : List Interval) :
    ∀ previousStart info,
      (scanIntervals intervals previousStart info).firstBlockLength = info.firstBlockLength := by
  induction intervals with
  | nil =>
      intro previousStart info
      rfl
  | cons interval rest inductionHypothesis =>
      intro previousStart info
      rw [scanIntervals]
      split_ifs
      · exact inductionHypothesis _ _
      · rfl

theorem le_scanIntervals_maxBlockLength (intervals : List Interval) :
    ∀ previousStart info,
      info.maxBlockLength ≤ (scanIntervals intervals previousStart info).maxBlockLength := by
  induction intervals with
  | nil =>
      intro previousStart info
      exact Nat.le_refl _
  | cons interval rest inductionHypothesis =>
      intro previousStart info
      rw [scanIntervals]
      split_ifs
      · have kept := inductionHypothesis interval.min { info with
          numAckBlocks := info.numAckBlocks + numEncodedGaps (previousStart - interval.max)
          maxBlockLength := max info.maxBlockLength interval.length }
        exact (Nat.le_max_left _ _).trans kept
      · exact Nat.le_refl _

theorem scanIntervals_maxBlockLength_le {intervals : List Interval} {bound : Nat}
    (bounded : ∀ interval ∈ intervals, interval.length ≤ bound) :
    ∀ {previousStart info}, info.maxBlockLength ≤ bound →
      (scanIntervals intervals previousStart info).maxBlockLength ≤ bound := by
  induction intervals with
  | nil =>
      intro previousStart info small
      exact small
  | cons interval rest inductionHypothesis =>
      intro previousStart info small
      have own := bounded interval (by simp)
      rw [scanIntervals]
      split_ifs
      · apply inductionHypothesis fun other member => bounded other (by simp [member])
        exact Nat.max_le.mpr ⟨small, own⟩
      · exact small

/-- The scan sees every interval that has a block among those that can be
encoded, although it stops early. -/
theorem length_le_maxBlockLength {intervals : List Interval} {block : AckBlock} :
    ∀ {previousStart info}, Descending previousStart intervals →
      block ∈ (gapBlocks previousStart intervals).take (maxUInt8 - info.numAckBlocks) →
      block.length ≤ (scanIntervals intervals previousStart info).maxBlockLength := by
  induction intervals with
  | nil =>
      intro previousStart info _ member
      simp [gapBlocks] at member
  | cons interval rest inductionHypothesis =>
      intro previousStart info descending member
      rw [gapBlocks, List.take_append, length_intervalBlocks descending.1] at member
      rw [scanIntervals]
      split_ifs with more
      · rcases List.mem_append.mp member with own | later
        · have inInterval := (List.take_sublist _ _).subset own
          have short : block.length ≤ interval.length := by
            rcases List.mem_append.mp inInterval with empty | last
            · rw [List.eq_of_mem_replicate empty]
              exact Nat.zero_le _
            · rw [List.mem_singleton.mp last]
              exact Nat.le_refl _
          have kept := le_scanIntervals_maxBlockLength rest interval.min { info with
            numAckBlocks := info.numAckBlocks + numEncodedGaps (previousStart - interval.max)
            maxBlockLength := max info.maxBlockLength interval.length }
          exact (short.trans (Nat.le_max_right _ _)).trans kept
        · apply inductionHypothesis descending.2
          simpa [Nat.sub_sub] using later
      · have none : maxUInt8 - info.numAckBlocks = 0 := by omega
        simp [none] at member

end StupidSimple.Quic
