import StupidSimple.Quic.AckCompletion

/-!
Owns the arithmetic of `ProcessAckFrame` on hostile bytes: the ranges that a frame
reports, and whether an addition or a subtraction of `uint64_t` values wraps.

`Checked.processAckFrame` is `processAckFrame` with every such operation checked up
to the last range; what follows it, the time stamps, is left as it is. No operation on
the way to a range wraps. The difference in the text of an error, behind the last range
of a frame that is refused, does where a gap leads below packet 0.
-/

namespace StupidSimple.Quic

open StupidSimple.Library Interaction MyQuicFramer

/-! ### Ranges of a frame -/

/-- The ranges lie below the largest number and one below the other; only the
first one may be empty. -/
structure RangesSound (largestAcked : Nat) (ranges : List (Nat × Nat)) : Prop where
  within : ∀ range ∈ ranges, range.1 ≤ range.2 ∧ range.2 ≤ largestAcked + 1
  nonempty : ∀ range ∈ ranges.tail, range.1 < range.2
  descending : ranges.Pairwise fun previous next => next.2 ≤ previous.1

/-- The calls of one frame report no range, or sound ranges below the largest
number that they begin with. -/
def ReportsSound (calls : List VisitorCall) : Prop :=
  ackRanges calls = [] ∨ ∃ largestAcked ackDelayTime later,
    calls = .onAckFrameStart largestAcked ackDelayTime :: later ∧
      RangesSound largestAcked (ackRanges calls)

/-- The blocks under a number report ranges under it, each one below the last. -/
theorem ackRanges_blockCalls_sound {width : QuicPacketNumberLength} {blocks : List AckBlock} :
    ∀ {firstReceived}, BlocksFit width firstReceived blocks → ∀ remaining,
      (∀ range ∈ ackRanges (blockCalls remaining firstReceived blocks),
        range.1 < range.2 ∧ range.2 ≤ firstReceived) ∧
      (ackRanges (blockCalls remaining firstReceived blocks)).Pairwise
        fun previous next => next.2 ≤ previous.1 := by
  induction blocks with
  | nil =>
      intro firstReceived _ remaining
      exact ⟨by simp [blockCalls, ackRanges], .nil⟩
  | cons block blocks inductionHypothesis =>
      intro firstReceived fit remaining
      obtain ⟨_, _, below, othersFit⟩ := fit
      obtain ⟨under, descending⟩ := inductionHypothesis othersFit (remaining - 1)
      rw [blockCalls, ackRanges_append]
      by_cases acks : 0 < block.length
      · rw [AckBlock.calls, if_pos acks]
        constructor
        · intro range member
          rcases List.mem_cons.mp member with rfl | later
          · exact ⟨by simp only; omega, by simp only; omega⟩
          · have := under range later
            omega
        · exact .cons (fun range later => (under range later).2) descending
      · rw [AckBlock.calls, if_neg acks]
        refine ⟨?_, descending⟩
        intro range member
        have := under range member
        omega

/-- A prefix of a frame reports sound ranges. -/
theorem AckPrefix.rangesSound {frameType : Nat} (ack : AckPrefix frameType) :
    RangesSound ack.largestAcked (ackRanges ack.ranges) := by
  have ⟨under, descending⟩ := ackRanges_blockCalls_sound ack.blocksFit ack.numAckBlocks
  have firstBelow : ack.firstReceived ≤ ack.largestAcked + 1 := Nat.sub_le _ _
  rw [ackRanges_ranges]
  constructor
  · intro range member
    rcases List.mem_cons.mp member with rfl | later
    · exact ⟨firstBelow, Nat.le_refl _⟩
    · have ⟨nonempty, below⟩ := under range later
      exact ⟨nonempty.le, below.trans firstBelow⟩
  · intro range later
    exact (under range later).1
  · exact .cons (fun range later => (under range later).2) descending

/-- Whatever the bytes, the reader reports no range or sound ones. -/
theorem reportsSound_record (io : QuicData) (frameType : Nat) (bytes : List UInt8) :
    ReportsSound
      (record io (processAckFrame io.kUFloat16MaxValue frameType) bytes).2.visitor := by
  rcases processAckFrame_cases io frameType bytes with
    ⟨ack, rest, _, calls, _⟩ | ⟨calls, ⟨detail, unread, failed⟩, noRange⟩
  · right
    rw [calls]
    exact ⟨ack.largestAcked, _, ack.ranges, rfl, ack.rangesSound⟩
  · left
    rw [failed]
    apply List.filterMap_eq_nil_iff.mpr
    intro call member
    cases call with
    | onAckRange start stop last => exact absurd member (noRange start stop last)
    | _ => rfl

/-! ### Checked arithmetic -/

/-- Why a frame ends early: an operation wraps, one on the way to a range or the
one in the text of an error, or the source returns false. -/
inductive AckStop where
  | rangeWraps
  | textWraps
  | failed (detail : String)
deriving DecidableEq, Repr

/-- A framer function that ends where its arithmetic wraps. -/
abbrev CheckedFramer (α : Type) := Interaction FramerQuery FramerQuery.Answer AckStop α

namespace Checked

/-- A function without arithmetic. -/
def lift {α : Type} (program : Framer α) : CheckedFramer α :=
  program.rescue fun detail => .fail (.failed detail)

def add (first second : Nat) : CheckedFramer Nat :=
  if first + second < 2 ^ 64 then pure (first + second) else .fail .rangeWraps

def sub (stop : AckStop) (first second : Nat) : CheckedFramer Nat :=
  if second ≤ first then pure (first - second) else .fail stop

/-- `processAckBlocks`, at index `i` of `num_ack_blocks`. -/
def processAckBlocks (ackBlockLength : QuicPacketNumberLength) (numAckBlocks : Nat) :
    (remaining i firstReceived : Nat) → CheckedFramer Unit
  | 0, _, _ => pure ()
  | remaining + 1, i, firstReceived => do
      let gap ← lift (Framer.readUInt8 "Unable to read gap to next ack block.")
      let currentBlockLength ←
        lift (Framer.readBytesToUInt64 ackBlockLength.bytes "Unable to ack block length.")
      let needed ← add gap currentBlockLength
      if firstReceived < needed then
        let endOfBlock ← sub .textWraps firstReceived gap
        .fail (.failed s!"Underflow with ack block length {currentBlockLength}, end of block is {endOfBlock}.")
      else do
        let span ← add gap currentBlockLength
        let nextReceived ← sub .rangeWraps firstReceived span
        let next ← add i 1
        if 0 < currentBlockLength then
          let stop ← add nextReceived currentBlockLength
          lift (Framer.visitAck (.onAckRange nextReceived stop (next = numAckBlocks)))
        processAckBlocks ackBlockLength numAckBlocks remaining next nextReceived

/-- The checks end with the last range: the differences of the time stamps behind it are not
checked, and may wrap in a frame that is accepted. -/
def processAckRanges (ackBlockLength : QuicPacketNumberLength) (hasAckBlocks : Bool)
    (largestAcked numAckBlocks : Nat) : CheckedFramer Unit := do
  let firstBlockLength ←
    lift (Framer.readBytesToUInt64 ackBlockLength.bytes "Unable to read first ack block length.")
  if firstBlockLength = 0 ∧ (largestAcked ≠ 0 ∨ numAckBlocks ≠ 0) then
    .fail (.failed s!"First block length is zero but ACK is not empty. largest acked is {largestAcked}, num ack blocks is {numAckBlocks}.")
  else do
    let top ← add largestAcked 1
    if top < firstBlockLength then
      .fail (.failed s!"Underflow with first ack block length {firstBlockLength} largest acked is {largestAcked}.")
    else do
      let firstReceived ← sub .rangeWraps top firstBlockLength
      lift (Framer.visitAck (.onAckRange firstReceived top (!hasAckBlocks)))
      processAckBlocks ackBlockLength numAckBlocks numAckBlocks 0 firstReceived
      lift do
        let numReceivedPackets ← Framer.readUInt8 "Unable to read num received packets."
        processTimestampsInAckFrame numReceivedPackets

/-- `ProcessAckFrame` as far as the last range, whatever follows. -/
def processAckFrame (kUFloat16MaxValue frameType : Nat) : CheckedFramer Unit := do
  let largestAcked ← lift (Framer.readBytesToUInt64 (largestAckedLength frameType).bytes
    "Unable to read largest acked.")
  let ackDelayTimeUs ← lift (Framer.readUFloat16 "Unable to read ack delay time.")
  lift (Framer.visitAck
    (.onAckFrameStart largestAcked (ackDelayTime kUFloat16MaxValue ackDelayTimeUs)))
  let numAckBlocks ← lift (readNumAckBlocks (hasAckBlocks frameType))
  processAckRanges (ackBlockLength frameType) (hasAckBlocks frameType) largestAcked numAckBlocks

end Checked

/-! ### Gaps below packet 0 -/

/-- Behind some blocks the bytes hold a block whose gap leads below packet 0. -/
def PassesZero (width : QuicPacketNumberLength) (remaining firstReceived : Nat)
    (bytes : List UInt8) : Prop :=
  ∃ blocks block rest, blocks.length < remaining ∧ BlocksFit width firstReceived blocks ∧
    block.gap < 256 ∧ block.length < 256 ^ width.bytes ∧
    bytes = blocks.flatMap (AckBlock.wire width) ++ (AckBlock.wire width block ++ rest) ∧
    lowestReceived firstReceived blocks < block.gap

/-- The bytes begin with a frame up to some block, and the block behind that is in
the bytes and has a gap that leads below packet 0. -/
def GapPassesZero (frameType : Nat) (bytes : List UInt8) : Prop :=
  ∃ (ack : AckPrefix frameType) (block : AckBlock),
    ¬ack.Complete ∧ block.gap < 256 ∧ block.length < 256 ^ (ackBlockLength frameType).bytes ∧
    ack.wire ++ AckBlock.wire (ackBlockLength frameType) block <+: bytes ∧
    lowestReceived ack.firstReceived ack.blocks < block.gap

/-! ### Checked programs -/

/-- What came of a program, its failure as one of a checked program. -/
def mapFailed {α : Type} (outcome : Except String α × Parsing (List VisitorCall)) :
    Except AckStop α × Parsing (List VisitorCall) :=
  (outcome.1.mapError .failed, outcome.2)

namespace Checked

variable (io : QuicData)

theorem record_lift {α : Type} (program : Framer α) (bytes : List UInt8) :
    record io (lift program) bytes = mapFailed (record io program bytes) := by
  unfold record lift mapFailed
  rw [run_rescue]
  split
  · next value after completed =>
      rw [completed]
      rfl
  · next detail after failed =>
      rw [failed]
      rfl

section Bind

variable {io} {α β : Type} {program : Framer α} {bytes : List UInt8}
  (next : α → CheckedFramer β)

theorem record_lift_bind_ok {value : α} {rest : List UInt8} {calls : List VisitorCall}
    (first : record io program bytes = (.ok value, ⟨rest, calls⟩)) :
    record io (lift program >>= next) bytes = prepend calls (record io (next value) rest) := by
  have lifted := record_lift io program bytes
  rw [first] at lifted
  exact record_bind_ok io lifted

theorem record_lift_bind_error {detail : String} {after : Parsing (List VisitorCall)}
    (first : record io program bytes = (.error detail, after)) :
    record io (lift program >>= next) bytes = (.error (.failed detail), after) := by
  have lifted := record_lift io program bytes
  rw [first] at lifted
  exact record_bind_error io lifted

end Bind

theorem add_bind {α : Type} {first second : Nat} (fits : first + second < 2 ^ 64)
    (next : Nat → CheckedFramer α) : (add first second >>= next) = next (first + second) := by
  rw [add, if_pos fits]
  rfl

theorem sub_bind {α : Type} {first second : Nat} (stop : AckStop) (below : second ≤ first)
    (next : Nat → CheckedFramer α) : (sub stop first second >>= next) = next (first - second) := by
  rw [sub, if_pos below]
  rfl

/-- A number of a block has at most six bytes. -/
theorem lt_of_lt_pow {value : Nat} {width : QuicPacketNumberLength} (narrow : width.bytes ≤ 6)
    (fits : value < 256 ^ width.bytes) : value < 2 ^ 48 := by
  have := Nat.pow_le_pow_right (by decide : 0 < 256) narrow
  omega

/-! ### Checked blocks -/

section Blocks

variable {width : QuicPacketNumberLength} {numAckBlocks remaining i firstReceived : Nat}
  {block : AckBlock}

/-- The part of the loop behind the two reads of a block. -/
theorem record_processAckBlocks_read (gapFits : block.gap < 256)
    (lengthFits : block.length < 256 ^ width.bytes) (narrow : width.bytes ≤ 6)
    (rest : List UInt8) :
    record io (Checked.processAckBlocks width numAckBlocks (remaining + 1) i firstReceived)
        (block.wire width ++ rest) =
      record io (if firstReceived < block.gap + block.length then do
          let endOfBlock ← sub .textWraps firstReceived block.gap
          .fail (.failed s!"Underflow with ack block length {block.length}, end of block is {endOfBlock}.")
        else do
          let nextReceived ← sub .rangeWraps firstReceived (block.gap + block.length)
          let next ← add i 1
          if 0 < block.length then
            let stop ← add nextReceived block.length
            lift (Framer.visitAck (.onAckRange nextReceived stop (next = numAckBlocks)))
          Checked.processAckBlocks width numAckBlocks remaining next nextReceived) rest := by
  have readGap := Framer.record_readBytesToUInt64_encode io (by decide : 1 ≤ 8)
    (by simpa using gapFits) "Unable to read gap to next ack block."
    (BigEndian.encode width.bytes block.length ++ rest)
  have readLength := Framer.record_readBytesToUInt64_encode io (bytes_le_eight width) lengthFits
    "Unable to ack block length." rest
  have sumFits : block.gap + block.length < 2 ^ 64 := by
    have := lt_of_lt_pow narrow lengthFits
    omega
  rw [AckBlock.wire, List.append_assoc, Checked.processAckBlocks, Framer.readUInt8,
    record_lift_bind_ok _ readGap, record_lift_bind_ok _ readLength, add_bind sumFits,
    add_bind sumFits]
  simp only [prepend_nil]

/-- A block that fits wraps nothing. -/
theorem record_processAckBlocks_cons (gapFits : block.gap < 256)
    (lengthFits : block.length < 256 ^ width.bytes) (narrow : width.bytes ≤ 6)
    (below : block.gap + block.length ≤ firstReceived) (bounded : firstReceived ≤ 2 ^ 48)
    (index : i + (remaining + 1) = numAckBlocks) (few : numAckBlocks < 256) (rest : List UInt8) :
    record io (Checked.processAckBlocks width numAckBlocks (remaining + 1) i firstReceived)
        (block.wire width ++ rest) =
      prepend (block.calls (firstReceived - (block.gap + block.length)) (remaining = 0))
        (record io (Checked.processAckBlocks width numAckBlocks remaining (i + 1)
          (firstReceived - (block.gap + block.length))) rest) := by
  have last : decide (i + 1 = numAckBlocks) = decide (remaining = 0) := by
    apply decide_eq_decide.mpr
    omega
  rw [record_processAckBlocks_read io gapFits lengthFits narrow, if_neg (Nat.not_lt.mpr below),
    sub_bind _ below, add_bind (by omega)]
  by_cases acks : 0 < block.length
  · have visited := Framer.record_visitAck io (.onAckRange
      (firstReceived - (block.gap + block.length))
      (firstReceived - (block.gap + block.length) + block.length) (remaining = 0)) rest
    have stopFits : firstReceived - (block.gap + block.length) + block.length < 2 ^ 64 := by
      omega
    simp only [acks, if_true, last, AckBlock.calls]
    rw [add_bind stopFits, record_lift_bind_ok _ visited]
  · simp only [acks, if_false, AckBlock.calls, prepend_nil]

/-- A block that does not fit ends the loop. The text of the error wraps where the
gap alone leads below packet 0. -/
theorem record_processAckBlocks_stop (gapFits : block.gap < 256)
    (lengthFits : block.length < 256 ^ width.bytes) (narrow : width.bytes ≤ 6)
    (underflow : firstReceived < block.gap + block.length) (rest : List UInt8) :
    record io (Checked.processAckBlocks width numAckBlocks (remaining + 1) i firstReceived)
        (block.wire width ++ rest) =
      (.error (if firstReceived < block.gap then .textWraps
        else .failed s!"Underflow with ack block length {block.length}, end of block is {firstReceived - block.gap}."),
        ⟨rest, []⟩) := by
  rw [record_processAckBlocks_read io gapFits lengthFits narrow, if_pos underflow]
  by_cases passes : firstReceived < block.gap
  · rw [if_pos passes, sub, if_neg (Nat.not_le.mpr passes)]
    rfl
  · rw [if_neg passes, sub_bind _ (Nat.not_lt.mp passes)]
    rfl

/-- Behind blocks that fit, a gap below packet 0 wraps the text of the error. -/
theorem textWraps_of_passesZero (narrow : width.bytes ≤ 6) (few : numAckBlocks < 256)
    (blocks : List AckBlock) (gapFits : block.gap < 256)
    (lengthFits : block.length < 256 ^ width.bytes) (rest : List UInt8) :
    ∀ remaining i firstReceived, blocks.length < remaining → i + remaining = numAckBlocks →
      firstReceived ≤ 2 ^ 48 → BlocksFit width firstReceived blocks →
      lowestReceived firstReceived blocks < block.gap →
      (record io (Checked.processAckBlocks width numAckBlocks remaining i firstReceived)
        (blocks.flatMap (AckBlock.wire width) ++ (block.wire width ++ rest))).1 =
          .error .textWraps := by
  induction blocks with
  | nil =>
      intro remaining i firstReceived more _ _ _ passes
      obtain ⟨others, rfl⟩ := Nat.exists_eq_succ_of_ne_zero (Nat.ne_zero_of_lt more)
      have below : firstReceived < block.gap := passes
      rw [List.flatMap_nil, List.nil_append, record_processAckBlocks_stop io gapFits lengthFits
        narrow (by omega) rest, if_pos below]
  | cons first blocks inductionHypothesis =>
      intro remaining i firstReceived more index bounded fit passes
      obtain ⟨others, rfl⟩ := Nat.exists_eq_succ_of_ne_zero (Nat.ne_zero_of_lt more)
      have ⟨firstGap, firstLength, below, othersFit⟩ := fit
      have wraps := inductionHypothesis others (i + 1) (firstReceived - (first.gap + first.length))
        (by simpa using more) (by omega) (by omega) othersFit passes
      rw [List.flatMap_cons, List.append_assoc,
        record_processAckBlocks_cons io firstGap firstLength narrow below bounded index few]
      exact wraps

end Blocks

end Checked

/-! ### Checked and plain -/

/-- The checked program does as the plain one, or the plain one fails and the text
of its error wraps. -/
def Follows {α : Type} (wraps : Prop) (checked : Except AckStop α × Parsing (List VisitorCall))
    (plain : Except String α × Parsing (List VisitorCall)) : Prop :=
  checked = mapFailed plain ∨
    wraps ∧ (∃ detail, plain.1 = .error detail) ∧ checked = (.error .textWraps, plain.2)

section Follows

variable (io : QuicData) {α β : Type} {wraps : Prop}

theorem Follows.prepend {checked : Except AckStop α × Parsing (List VisitorCall)}
    {plain : Except String α × Parsing (List VisitorCall)} (follows : Follows wraps checked plain)
    (calls : List VisitorCall) : Follows wraps (prepend calls checked) (prepend calls plain) := by
  rcases follows with same | ⟨wrapped, failed, stopped⟩
  · left
    rw [same]
    rfl
  · right
    refine ⟨wrapped, failed, ?_⟩
    rw [stopped]
    rfl

theorem Follows.mono {checked : Except AckStop α × Parsing (List VisitorCall)}
    {plain : Except String α × Parsing (List VisitorCall)} {wrapsMore : Prop}
    (follows : Follows wraps checked plain) (more : wraps → wrapsMore) :
    Follows wrapsMore checked plain :=
  follows.imp_right fun stopped => ⟨more stopped.1, stopped.2⟩

/-- A part without arithmetic comes first. -/
theorem follows_lift_bind {program : Framer α} {nextChecked : α → CheckedFramer β}
    {next : α → Framer β} {bytes : List UInt8}
    (rest : ∀ value unread calls, record io program bytes = (.ok value, ⟨unread, calls⟩) →
      Follows wraps (record io (nextChecked value) unread) (record io (next value) unread)) :
    Follows wraps (record io (Checked.lift program >>= nextChecked) bytes)
      (record io (program >>= next) bytes) := by
  rcases first : record io program bytes with ⟨detail | value, unread, calls⟩
  · left
    rw [Checked.record_lift_bind_error _ first, record_bind_error io first]
    rfl
  · rw [Checked.record_lift_bind_ok _ first, record_bind_ok io first]
    exact (rest value unread calls first).prepend calls

/-- A part without arithmetic comes last. -/
theorem Follows.bind_lift {checked : CheckedFramer α} {plain : Framer α} {bytes : List UInt8}
    (follows : Follows wraps (record io checked bytes) (record io plain bytes))
    (next : α → Framer β) :
    Follows wraps (record io (checked >>= fun value => Checked.lift (next value)) bytes)
      (record io (plain >>= next) bytes) := by
  rcases follows with same | ⟨wrapped, ⟨detail, failed⟩, stopped⟩
  · left
    rcases first : record io plain bytes with ⟨detail | value, unread, calls⟩
    · rw [first] at same
      rw [record_bind_error io same, record_bind_error io first]
      rfl
    · rw [first] at same
      rw [record_bind_ok io same, record_bind_ok io first, Checked.record_lift]
      rfl
  · have first : record io plain bytes = (.error detail, (record io plain bytes).2) :=
      Prod.ext failed rfl
    right
    rw [record_bind_error io first, record_bind_error io stopped]
    exact ⟨wrapped, ⟨detail, rfl⟩, rfl⟩

end Follows

section Blocks

variable (io : QuicData) {width : QuicPacketNumberLength} {numAckBlocks : Nat}

theorem PassesZero.cons {remaining firstReceived : Nat} {bytes : List UInt8} {block : AckBlock}
    (gapFits : block.gap < 256) (lengthFits : block.length < 256 ^ width.bytes)
    (below : block.gap + block.length ≤ firstReceived)
    (passes : PassesZero width remaining (firstReceived - (block.gap + block.length)) bytes) :
    PassesZero width (remaining + 1) firstReceived (block.wire width ++ bytes) := by
  have ⟨blocks, last, rest, more, fit, lastGap, lastLength, split, lowest⟩ := passes
  refine ⟨block :: blocks, last, rest, ?_, ⟨gapFits, lengthFits, below, fit⟩, lastGap, lastLength,
    ?_, lowest⟩
  · simpa using more
  · rw [split, List.flatMap_cons, List.append_assoc]

/-- One block behind its reads, checked and plain. -/
theorem follows_block {block : AckBlock} {remaining i firstReceived : Nat}
    (gapFits : block.gap < 256) (lengthFits : block.length < 256 ^ width.bytes)
    (narrow : width.bytes ≤ 6) (few : numAckBlocks < 256)
    (index : i + (remaining + 1) = numAckBlocks) (bounded : firstReceived ≤ 2 ^ 48)
    (rest : List UInt8)
    (others : block.gap + block.length ≤ firstReceived →
      Follows (PassesZero width remaining (firstReceived - (block.gap + block.length)) rest)
        (record io (Checked.processAckBlocks width numAckBlocks remaining (i + 1)
          (firstReceived - (block.gap + block.length))) rest)
        (record io (processAckBlocks width remaining
          (firstReceived - (block.gap + block.length))) rest)) :
    Follows (PassesZero width (remaining + 1) firstReceived (block.wire width ++ rest))
      (record io (Checked.processAckBlocks width numAckBlocks (remaining + 1) i firstReceived)
        (block.wire width ++ rest))
      (record io (processAckBlocks width (remaining + 1) firstReceived)
        (block.wire width ++ rest)) := by
  rcases Nat.lt_or_ge firstReceived (block.gap + block.length) with underflow | below
  · have plainStops : record io (processAckBlocks width (remaining + 1) firstReceived)
          (block.wire width ++ rest) =
        (.error s!"Underflow with ack block length {block.length}, end of block is {(firstReceived + 2 ^ 64 - block.gap) % 2 ^ 64}.",
          ⟨rest, []⟩) := by
      have readGap := Framer.record_readBytesToUInt64_encode io (by decide : 1 ≤ 8)
        (by simpa using gapFits) "Unable to read gap to next ack block."
        (BigEndian.encode width.bytes block.length ++ rest)
      have readLength := Framer.record_readBytesToUInt64_encode io (bytes_le_eight width)
        lengthFits "Unable to ack block length." rest
      rw [AckBlock.wire, List.append_assoc, processAckBlocks, Framer.readUInt8,
        record_bind_ok io readGap, record_bind_ok io readLength, if_pos underflow]
      rfl
    rw [Checked.record_processAckBlocks_stop io gapFits lengthFits narrow underflow, plainStops]
    by_cases passes : firstReceived < block.gap
    · right
      rw [if_pos passes]
      exact ⟨⟨[], block, rest, Nat.succ_pos _, trivial, gapFits, lengthFits, rfl, passes⟩,
        ⟨_, rfl⟩, rfl⟩
    · have shown : (firstReceived + 2 ^ 64 - block.gap) % 2 ^ 64 = firstReceived - block.gap := by
        omega
      left
      rw [if_neg passes, shown]
      rfl
  · rw [Checked.record_processAckBlocks_cons io gapFits lengthFits narrow below bounded index few,
      record_processAckBlocks_cons io gapFits lengthFits below]
    exact ((others below).mono (.cons gapFits lengthFits below)).prepend _

/-- The checked loop follows the plain one on all bytes. -/
theorem follows_processAckBlocks (narrow : width.bytes ≤ 6) (few : numAckBlocks < 256)
    (remaining : Nat) :
    ∀ i firstReceived bytes, i + remaining = numAckBlocks → firstReceived ≤ 2 ^ 48 →
      Follows (PassesZero width remaining firstReceived bytes)
        (record io (Checked.processAckBlocks width numAckBlocks remaining i firstReceived) bytes)
        (record io (processAckBlocks width remaining firstReceived) bytes) := by
  induction remaining with
  | zero =>
      intro i firstReceived bytes _ _
      exact Or.inl rfl
  | succ remaining inductionHypothesis =>
      intro i firstReceived bytes index bounded
      rcases Framer.readBytesToUInt64_cases io (by decide : 1 ≤ 8)
        "Unable to read gap to next ack block." bytes with
        ⟨gap, afterGap, gapFits, rfl⟩ | noGap
      · rcases Framer.readBytesToUInt64_cases io (bytes_le_eight width)
          "Unable to ack block length." afterGap with
          ⟨length, rest, lengthFits, rfl⟩ | noLength
        · let block : AckBlock := ⟨gap, length⟩
          have gapNarrow : block.gap < 256 := by simpa using gapFits
          have follows := follows_block io gapNarrow lengthFits narrow few index bounded rest
            fun _ => inductionHypothesis (i + 1) _ rest (by omega) (by omega)
          rwa [AckBlock.wire, List.append_assoc] at follows
        · have readGap := Framer.record_readBytesToUInt64_encode io (by decide : 1 ≤ 8) gapFits
            "Unable to read gap to next ack block." afterGap
          left
          rw [Checked.processAckBlocks, processAckBlocks, Framer.readUInt8,
            Checked.record_lift_bind_ok _ readGap, record_bind_ok io readGap,
            Checked.record_lift_bind_error _ noLength, record_bind_error io noLength]
          rfl
      · left
        rw [Checked.processAckBlocks, processAckBlocks, Framer.readUInt8,
          Checked.record_lift_bind_error _ noGap, record_bind_error io noGap]
        rfl

end Blocks

section Frames

variable (io : QuicData)

/-- The checked ranges follow the plain ones behind the number of blocks. -/
theorem follows_processAckRanges {frameType largestAcked numAckBlocks : Nat} {delay : List UInt8}
    (largestFits : largestAcked < 256 ^ (largestAckedLength frameType).bytes)
    (lengthDelay : delay.length = 2) (countFits : numAckBlocks < 256)
    (uncounted : hasAckBlocks frameType = false → numAckBlocks = 0) (bytes : List UInt8) :
    Follows (∃ (ack : AckPrefix frameType) (block : AckBlock) (rest : List UInt8),
        ack.largestAcked = largestAcked ∧ ack.delay = delay ∧ ack.numAckBlocks = numAckBlocks ∧
        ¬ack.Complete ∧ block.gap < 256 ∧ block.length < 256 ^ (ackBlockLength frameType).bytes ∧
        bytes = BigEndian.encode (ackBlockLength frameType).bytes ack.firstBlockLength ++
          (ack.blocksWire ++ (block.wire (ackBlockLength frameType) ++ rest)) ∧
        lowestReceived ack.firstReceived ack.blocks < block.gap)
      (record io (Checked.processAckRanges (ackBlockLength frameType) (hasAckBlocks frameType)
        largestAcked numAckBlocks) bytes)
      (record io (processAckRanges (ackBlockLength frameType) (hasAckBlocks frameType)
        largestAcked numAckBlocks) bytes) := by
  have largestNarrow : largestAcked < 2 ^ 48 :=
    Checked.lt_of_lt_pow (readSequenceNumberLength_le_six _) largestFits
  rcases Framer.readBytesToUInt64_cases io (bytes_le_eight (ackBlockLength frameType))
    "Unable to read first ack block length." bytes with
    ⟨firstBlockLength, afterFirst, firstFits, rfl⟩ | short
  · have readFirst := Framer.record_readBytesToUInt64_encode io
      (bytes_le_eight (ackBlockLength frameType)) firstFits
      "Unable to read first ack block length." afterFirst
    rw [Checked.processAckRanges, processAckRanges, Checked.record_lift_bind_ok _ readFirst,
      record_bind_ok io readFirst, prepend_nil, prepend_nil]
    by_cases empty : firstBlockLength = 0 ∧ (largestAcked ≠ 0 ∨ numAckBlocks ≠ 0)
    · left
      rw [if_pos empty, if_pos empty]
      rfl
    rw [if_neg empty, if_neg empty, Checked.add_bind (by omega)]
    by_cases underflow : largestAcked + 1 < firstBlockLength
    · left
      rw [if_pos underflow, if_pos underflow]
      rfl
    · have firstBelow : firstBlockLength ≤ largestAcked + 1 := Nat.not_lt.mp underflow
      have acksSome : firstBlockLength = 0 → largestAcked = 0 ∧ numAckBlocks = 0 := by
        intro zero
        by_contra others
        exact empty ⟨zero, by omega⟩
      rw [if_neg underflow, if_neg underflow, Checked.sub_bind _ firstBelow]
      apply follows_lift_bind
      intro _ unread calls visited
      rw [Framer.record_visitAck] at visited
      cases visited
      have narrow : (ackBlockLength frameType).bytes ≤ 6 := readSequenceNumberLength_le_six _
      have follows := follows_processAckBlocks io narrow countFits numAckBlocks 0
        (largestAcked + 1 - firstBlockLength) afterFirst (Nat.zero_add _) (by omega)
      apply (follows.mono ?_).bind_lift
      rintro ⟨blocks, block, rest, more, fit, gapFits, lengthFits, split, passes⟩
      let ack : AckPrefix frameType :=
        { largestAcked, delay, numAckBlocks, firstBlockLength, blocks
          largestAcked_lt := largestFits
          length_delay := lengthDelay
          numAckBlocks_lt := countFits
          numAckBlocks_eq_zero := uncounted
          firstBlockLength_lt := firstFits
          acksSome := acksSome
          firstBlockLength_le := firstBelow
          length_blocks_le := Nat.le_of_lt more
          blocksFit := fit }
      exact ⟨ack, block, rest, rfl, rfl, rfl, Nat.ne_of_lt more, gapFits, lengthFits,
        congrArg _ split, passes⟩
  · left
    rw [Checked.processAckRanges, processAckRanges, Checked.record_lift_bind_error _ short,
      record_bind_error io short]
    rfl

/-- A number that is read was encoded in front of what is unread. -/
theorem eq_encode_of_read {count value : Nat} {detail : String} {bytes unread : List UInt8}
    {calls : List VisitorCall} (narrow : count ≤ 8)
    (completed : record io (Framer.readBytesToUInt64 count detail) bytes =
      (.ok value, ⟨unread, calls⟩)) :
    value < 256 ^ count ∧ bytes = BigEndian.encode count value ++ unread := by
  rcases Framer.readBytesToUInt64_cases io narrow detail bytes with
    ⟨found, rest, fits, rfl⟩ | short
  · rw [Framer.record_readBytesToUInt64_encode io narrow fits] at completed
    cases completed
    exact ⟨fits, rfl⟩
  · rw [short] at completed
    cases completed

theorem eq_delay_of_read {value : Nat} {detail : String} {bytes unread : List UInt8}
    {calls : List VisitorCall}
    (completed : record io (Framer.readUFloat16 detail) bytes = (.ok value, ⟨unread, calls⟩)) :
    ∃ delay, delay.length = 2 ∧ bytes = delay ++ unread := by
  rw [Framer.record_readUFloat16] at completed
  split_ifs at completed with enough
  · cases completed
    exact ⟨bytes.take 2, List.length_take_of_le enough, (List.take_append_drop 2 bytes).symm⟩
  · cases completed

theorem eq_count_of_read {counted : Bool} {numAckBlocks : Nat} {bytes unread : List UInt8}
    {calls : List VisitorCall}
    (completed : record io (readNumAckBlocks counted) bytes =
      (.ok numAckBlocks, ⟨unread, calls⟩)) :
    numAckBlocks < 256 ∧ (counted = false → numAckBlocks = 0) ∧
      bytes = (if counted then BigEndian.encode 1 numAckBlocks else []) ++ unread := by
  rcases readNumAckBlocks_cases io counted bytes with
    ⟨found, rest, fits, uncounted, split, read⟩ | ⟨detail, after, failed⟩
  · rw [read] at completed
    cases completed
    exact ⟨fits, uncounted, split⟩
  · rw [failed] at completed
    cases completed

/-- The checked frame follows the plain one on all bytes. -/
theorem follows_processAckFrame (frameType : Nat) (bytes : List UInt8) :
    Follows (GapPassesZero frameType bytes)
      (record io (Checked.processAckFrame io.kUFloat16MaxValue frameType) bytes)
      (record io (processAckFrame io.kUFloat16MaxValue frameType) bytes) := by
  unfold Checked.processAckFrame processAckFrame
  apply follows_lift_bind
  intro largestAcked afterLargest _ readLargest
  apply follows_lift_bind
  intro ackDelayTimeUs afterDelay _ readDelay
  apply follows_lift_bind
  intro _ _ _ visited
  rw [Framer.record_visitAck] at visited
  cases visited
  apply follows_lift_bind
  intro numAckBlocks afterCount _ readCount
  have ⟨largestFits, largestSplit⟩ := eq_encode_of_read io (bytes_le_eight _) readLargest
  have ⟨delay, lengthDelay, delaySplit⟩ := eq_delay_of_read io readDelay
  have ⟨countFits, uncounted, countSplit⟩ := eq_count_of_read io readCount
  apply (follows_processAckRanges io largestFits lengthDelay countFits uncounted afterCount).mono
  rintro ⟨ack, block, rest, rfl, rfl, rfl, incomplete, gapFits, lengthFits, split, passes⟩
  refine ⟨ack, block, incomplete, gapFits, lengthFits, ⟨rest, ?_⟩, passes⟩
  simp only [largestSplit, delaySplit, countSplit, split, AckPrefix.wire, AckPrefix.countWire,
    List.append_assoc]

/-- The checked reader takes the fields in front of the ranges of a prefix. -/
theorem record_checked_wire {frameType : Nat} (ack : AckPrefix frameType) (rest : List UInt8) :
    record io (Checked.processAckFrame io.kUFloat16MaxValue frameType) (ack.wire ++ rest) =
      prepend [ack.startCall io] (record io (Checked.processAckRanges (ackBlockLength frameType)
        (hasAckBlocks frameType) ack.largestAcked ack.numAckBlocks)
        (BigEndian.encode (ackBlockLength frameType).bytes ack.firstBlockLength ++
          (ack.blocksWire ++ rest))) := by
  have readLargest := Framer.record_readBytesToUInt64_encode io
    (bytes_le_eight (largestAckedLength frameType)) ack.largestAcked_lt
    "Unable to read largest acked."
    (ack.delay ++ (ack.countWire ++
      (BigEndian.encode (ackBlockLength frameType).bytes ack.firstBlockLength ++
        (ack.blocksWire ++ rest))))
  have readDelay := record_readUFloat16_delay io ack "Unable to read ack delay time."
    (ack.countWire ++ (BigEndian.encode (ackBlockLength frameType).bytes ack.firstBlockLength ++
      (ack.blocksWire ++ rest)))
  have visited := Framer.record_visitAck io (ack.startCall io)
    (ack.countWire ++ (BigEndian.encode (ackBlockLength frameType).bytes ack.firstBlockLength ++
      (ack.blocksWire ++ rest)))
  have readCount := record_readNumAckBlocks io ack
    (BigEndian.encode (ackBlockLength frameType).bytes ack.firstBlockLength ++
      (ack.blocksWire ++ rest))
  simp only [AckPrefix.wire, List.append_assoc]
  rw [Checked.processAckFrame, Checked.record_lift_bind_ok _ readLargest,
    Checked.record_lift_bind_ok _ readDelay]
  change prepend [] (prepend [] (record io (Checked.lift (Framer.visitAck (ack.startCall io)) >>=
    fun _ => Checked.lift (readNumAckBlocks (hasAckBlocks frameType)) >>= _) _)) = _
  rw [Checked.record_lift_bind_ok _ visited, Checked.record_lift_bind_ok _ readCount]
  simp only [prepend_nil]

/-- The checked ranges of a prefix whose next block has a gap below packet 0. -/
theorem textWraps_processAckRanges {frameType : Nat} {ack : AckPrefix frameType}
    {block : AckBlock} (incomplete : ¬ack.Complete) (gapFits : block.gap < 256)
    (lengthFits : block.length < 256 ^ (ackBlockLength frameType).bytes)
    (passes : lowestReceived ack.firstReceived ack.blocks < block.gap) (rest : List UInt8) :
    (record io (Checked.processAckRanges (ackBlockLength frameType) (hasAckBlocks frameType)
        ack.largestAcked ack.numAckBlocks)
      (BigEndian.encode (ackBlockLength frameType).bytes ack.firstBlockLength ++
        (ack.blocksWire ++ (block.wire (ackBlockLength frameType) ++ rest)))).1 =
      .error .textWraps := by
  have narrow : (ackBlockLength frameType).bytes ≤ 6 := readSequenceNumberLength_le_six _
  have largestNarrow : ack.largestAcked < 2 ^ 48 :=
    Checked.lt_of_lt_pow (readSequenceNumberLength_le_six _) ack.largestAcked_lt
  have more : ack.blocks.length < ack.numAckBlocks :=
    Nat.lt_of_le_of_ne ack.length_blocks_le incomplete
  have bounded : ack.firstReceived ≤ 2 ^ 48 := (Nat.sub_le _ _).trans largestNarrow
  have acksSome : ¬(ack.firstBlockLength = 0 ∧
      (ack.largestAcked ≠ 0 ∨ ack.numAckBlocks ≠ 0)) := by
    rintro ⟨empty, others⟩
    have := ack.acksSome empty
    omega
  have readFirst := Framer.record_readBytesToUInt64_encode io
    (bytes_le_eight (ackBlockLength frameType)) ack.firstBlockLength_lt
    "Unable to read first ack block length."
    (ack.blocksWire ++ (block.wire (ackBlockLength frameType) ++ rest))
  have visited := Framer.record_visitAck io ack.topRange
    (ack.blocksWire ++ (block.wire (ackBlockLength frameType) ++ rest))
  have wraps := Checked.textWraps_of_passesZero io narrow ack.numAckBlocks_lt ack.blocks gapFits
    lengthFits rest ack.numAckBlocks 0 ack.firstReceived more (Nat.zero_add _) bounded
    ack.blocksFit passes
  rw [Checked.processAckRanges, Checked.record_lift_bind_ok _ readFirst, if_neg acksSome,
    Checked.add_bind (by omega), if_neg (Nat.not_lt.mpr ack.firstBlockLength_le),
    Checked.sub_bind _ ack.firstBlockLength_le, prepend_nil]
  change (record io (Checked.lift (Framer.visitAck ack.topRange) >>= fun _ =>
    Checked.processAckBlocks (ackBlockLength frameType) ack.numAckBlocks ack.numAckBlocks 0
      ack.firstReceived >>= _) _).1 = _
  rw [Checked.record_lift_bind_ok _ visited, AckPrefix.blocksWire,
    record_bind_error io (Prod.ext wraps rfl)]
  rfl

/-- A gap below packet 0 wraps the text of the error. -/
theorem textWraps_of_gapPassesZero {frameType : Nat} {bytes : List UInt8}
    (passes : GapPassesZero frameType bytes) :
    (record io (Checked.processAckFrame io.kUFloat16MaxValue frameType) bytes).1 =
      .error .textWraps := by
  obtain ⟨ack, block, incomplete, gapFits, lengthFits, ⟨rest, rfl⟩, passes⟩ := passes
  rw [List.append_assoc, record_checked_wire]
  exact textWraps_processAckRanges io incomplete gapFits lengthFits passes rest

end Frames

/-! ### Frames of a datagram -/

variable (env : FramerEnv)

/-- For every byte string that a sender passes to `ProcessFrameData` and every ack
frame in it, the ranges that the sender is told are sound, and no operation on the
way to a range wraps, accepted or not. Up to the last range of a frame the checked
arithmetic differs from the plain one only where a block has a gap that leads below
packet 0: there the ranges have ended and the text of the error wraps. -/
theorem ranges_sound_iff {frames bytes : List UInt8} {before : List VisitorCall}
    {frameType : Nat} (found : FrameAt env frames before frameType bytes)
    (starts : StartsAckFrame frameType) :
    let plain := record env.io (processAckFrame env.io.kUFloat16MaxValue frameType) bytes
    let checked := record env.io (Checked.processAckFrame env.io.kUFloat16MaxValue frameType) bytes
    (ReportsSound plain.2.visitor ∧ checked.1 = plain.1.mapError .failed ↔
      ¬GapPassesZero frameType bytes) ∧
    ReportsSound plain.2.visitor ∧ checked.1 ≠ .error .rangeWraps ∧ checked.2 = plain.2 ∧
    ∃ later, ∀ manager,
      (∀ sender : MyQuicSender, (env.processFrameData.run
          (framerHandler env.io (MyQuicSender.visitor manager)) ⟨frames, sender⟩).2.visitor =
        (MyQuicSender.visitor manager).replay sender (before ++ (plain.2.visitor ++ later))) ∧
      ∀ sender : MyQuicVideoSender, (env.processFrameData.run
          (framerHandler env.io (MyQuicVideoSender.visitor manager)) ⟨frames, sender⟩).2.visitor =
        (MyQuicVideoSender.visitor manager).replay sender
          (before ++ (plain.2.visitor ++ later)) := by
  intro plain checked
  have sound : ReportsSound plain.2.visitor := reportsSound_record env.io frameType bytes
  have follows : Follows (GapPassesZero frameType bytes) checked plain :=
    follows_processAckFrame env.io frameType bytes
  have unfailed : plain.1.mapError AckStop.failed ≠ .error .textWraps ∧
      plain.1.mapError AckStop.failed ≠ .error .rangeWraps := by
    rcases plain.1 with detail | value <;> simp [Except.mapError]
  refine ⟨⟨?_, ?_⟩, sound, ?_, ?_, ?_⟩
  · rintro ⟨_, same⟩ passes
    exact unfailed.1 (same.symm.trans (textWraps_of_gapPassesZero env.io passes))
  · intro above
    rcases follows with same | ⟨passes, _⟩
    · exact ⟨sound, congrArg Prod.fst same⟩
    · exact absurd passes above
  · rcases follows with same | ⟨_, _, stopped⟩
    · rw [same]
      exact unfailed.2
    · simp [stopped]
  · rcases follows with same | ⟨_, _, stopped⟩
    · exact congrArg Prod.snd same
    · exact congrArg Prod.snd stopped
  · have ⟨later, split⟩ := exists_calls_split env found starts
    refine ⟨later, fun manager => ⟨?_, ?_⟩⟩
    · intro sender
      rw [run_eq_record env.io (MyQuicSender.visitor_tolerant manager)]
      exact congrArg _ split
    · intro sender
      rw [run_eq_record env.io (MyQuicVideoSender.visitor_tolerant manager)]
      exact congrArg _ split

/-- An ack of packet 1, and a block five packets below it. -/
def deepGap : List UInt8 := [1, 0, 5, 1, 1, 5, 0]

theorem deepGap_record :
    record plainEnv.io (processAckFrame plainEnv.io.kUFloat16MaxValue 0x60) deepGap =
      (.error "Underflow with ack block length 0, end of block is 18446744073709551612.",
        ⟨[], [.onAckFrameStart 1 (some 5), .onAckRange 1 2 false]⟩) := by
  decide +kernel

theorem deepGap_checked :
    (record plainEnv.io (Checked.processAckFrame plainEnv.io.kUFloat16MaxValue 0x60) deepGap).1 =
      .error .textWraps := by
  decide +kernel

/-- The text of the error shows 1 - 5. -/
theorem text_wraps_deepGap :
    framePayload (0 :: 1 :: 0x60 :: deepGap) = some (0x60 :: deepGap) ∧
    FrameAt plainEnv (0x60 :: deepGap) [] 0x60 deepGap ∧ StartsAckFrame 0x60 ∧
    (record plainEnv.io (processAckFrame plainEnv.io.kUFloat16MaxValue 0x60) deepGap).1 =
      .error "Underflow with ack block length 0, end of block is 18446744073709551612." ∧
    (record plainEnv.io (Checked.processAckFrame plainEnv.io.kUFloat16MaxValue 0x60) deepGap).1 =
      .error .textWraps :=
  ⟨by decide, .first 0x60 deepGap, by decide, by rw [deepGap_record], deepGap_checked⟩

theorem ranges_sound_iff_deepGap : GapPassesZero 0x60 deepGap := by
  have found : FrameAt plainEnv (0x60 :: deepGap) [] 0x60 deepGap := .first 0x60 deepGap
  have both := ranges_sound_iff plainEnv found (by decide)
  by_contra above
  have same := (both.1.mpr above).2
  rw [deepGap_checked, deepGap_record] at same
  cases same

end StupidSimple.Quic
