import StupidSimple.Quic.IetfRoundTrip

/-!
Owns the exchange of ack frames in the IETF format. The reader moves both ends of a block by
the length of the next one, so that each block it reports has the length of the first: the
least numbers come back, and all numbers do just when the blocks have one length.
-/

namespace StupidSimple.Quic

open StupidSimple.Library

/-- An ack frame that the format can carry: it acks something, its numbers have 62 bits, and
its delay is finite. -/
structure QuicAckFrame.IetfWellFormed (frame : QuicAckFrame) : Prop where
  largest : IsGreatest {packetNumber | frame.packets.Holds packetNumber} frame.largestAcked
  narrow : frame.largestAcked < 2 ^ 62
  delay : ∃ delay, frame.ackDelayTime = some delay ∧ delay < 2 ^ 63

/-- The ranges that the reader makes of some intervals. -/
def slidRanges (firstBlockLength : Nat) (intervals : List Interval) : List (Nat × Nat) :=
  intervals.map fun interval => (interval.min, interval.min + firstBlockLength)

/-- What the reader makes of a delay: it is rounded down to eight microseconds, and one delay
stands for an infinite one. -/
def slidDelay (delay : Nat) : Option Nat :=
  if delay / 8 = 0x7ffffffffff then none else some (delay / 8 * 8)

/-! ### The bytes of a frame -/

section Wire

variable (env : IetfEnv)

def ietfBlocksWire : (previousAckEnd : Nat) → List Interval → List UInt8
  | _, [] => []
  | previousAckEnd, interval :: rest =>
      varIntWire env (previousAckEnd - interval.max - 1) ++
        (varIntWire env (interval.length - 1) ++ ietfBlocksWire interval.min rest)

def ietfAckWire (largestAcked delay : Nat) (top : Interval) (rest : List Interval) : List UInt8 :=
  varIntWire env largestAcked ++ (varIntWire env (delay / 8) ++ (varIntWire env rest.length ++
    (varIntWire env (top.length - 1) ++ ietfBlocksWire env top.min rest)))

end Wire

theorem Interval.length_pos (interval : Interval) : 0 < interval.length :=
  Nat.sub_pos_of_lt interval.min_lt_max

theorem Interval.length_le_max (interval : Interval) : interval.length ≤ interval.max :=
  Nat.sub_le _ _

/-- There are no more intervals than numbers. -/
theorem length_le_of_descending {intervals : List Interval} :
    ∀ {previousStart}, Descending previousStart intervals → intervals.length ≤ previousStart := by
  induction intervals with
  | nil =>
      intro previousStart _
      exact Nat.zero_le _
  | cons interval rest inductionHypothesis =>
      intro previousStart descending
      have fewer := inductionHypothesis descending.2
      have below := descending.1
      have nonempty := interval.min_lt_max
      rw [List.length_cons]
      omega

/-! ### Writing -/

section Writing

variable {env : IetfEnv}

theorem ietfWrites_ackBlocks {intervals : List Interval} :
    ∀ {previousAckEnd}, previousAckEnd < 2 ^ 62 → Descending previousAckEnd intervals →
      IetfWrites (appendIetfAckBlocks env intervals previousAckEnd)
        (ietfBlocksWire env previousAckEnd intervals) := by
  induction intervals with
  | nil =>
      intro previousAckEnd _ _
      exact ietfWrites_nothing
  | cons interval rest inductionHypothesis =>
      intro previousAckEnd narrow descending
      have below := descending.1
      have nonempty := interval.min_lt_max
      have counted := interval.length_pos
      have short := interval.length_le_max
      have both : IetfWrites (fun writer => appendFields [("No room for gap block in ack frame",
            writeVarInt62 env (previousAckEnd - interval.max - 1))] writer >>= fun writer =>
          appendFields [("No room for nth ack block in ack frame",
            writeVarInt62 env (interval.length - 1))] writer >>=
              appendIetfAckBlocks env rest interval.min)
          (ietfBlocksWire env previousAckEnd (interval :: rest)) := by
        apply (IetfWrites.last (writes_writeVarInt62 (by omega))).bind
        apply (IetfWrites.last (writes_writeVarInt62 (by omega))).bind
        exact inductionHypothesis (by omega) descending.2
      intro writer sound
      rw [appendIetfAckBlocks]
      simp only [if_neg counted.ne']
      exact both writer sound

variable {frame : QuicAckFrame} (wellFormed : frame.IetfWellFormed) {delay : Nat}
  (finite : frame.ackDelayTime = some delay) (delayNarrow : delay < 2 ^ 63) {top : Interval}
  {rest : List Interval} (split : frame.packets.descending = top :: rest)

include wellFormed finite delayNarrow split

theorem ietfWrites_ackFrame :
    IetfWrites (appendIetfAckFrame env frame)
      ([env.ietfAck] ++ ietfAckWire env frame.largestAcked delay top rest) := by
  have narrow := wellFormed.narrow
  have ⟨topToo, restToo, splitToo, topMax⟩ := top_of_isGreatest wellFormed.largest
  rw [split] at splitToo
  cases splitToo
  have descending := descending_intervals split
  have few := length_le_of_descending descending
  have nonempty := top.min_lt_max
  have counted := top.length_pos
  have shift : delay >>> kIetfAckTimestampShift = delay / 8 := Nat.shiftRight_eq_div_pow delay 3
  unfold appendIetfAckFrame ietfAckWire
  simp only [finite, split, shift, if_neg counted.ne']
  rw [← List.append_assoc]
  apply IetfWrites.bind ((writes_writeType _).ietfField
    (IetfWrites.last (writes_writeVarInt62 narrow)))
  apply (IetfWrites.last (writes_writeVarInt62 (by omega))).bind
  apply (IetfWrites.last (writes_writeVarInt62 (by omega))).bind
  apply (IetfWrites.last (writes_writeVarInt62 (by have := top.length_le_max; omega))).bind
  exact ietfWrites_ackBlocks (by omega) descending

end Writing

/-! ### Reading -/

section Reading

variable {env : IetfEnv} {after : List UInt8}

theorem minus64_eq {left right : Nat} (below : right ≤ left) (narrow : left < 2 ^ 64) :
    minus64 left right = left - right := by
  unfold minus64
  omega

/-- The least number of each interval comes back, with the length of the first block. -/
theorem reads_processIetfAckBlocks {firstBlockLength : Nat} {intervals : List Interval} :
    ∀ {low}, low < 2 ^ 62 → low + firstBlockLength < 2 ^ 64 → Descending low intervals →
      Reads (processIetfAckBlocks env intervals.length low (low + firstBlockLength))
        (ietfBlocksWire env low intervals) after (slidRanges firstBlockLength intervals) := by
  induction intervals with
  | nil =>
      intro low _ _ _
      exact reads_pure [] after
  | cons interval rest inductionHypothesis =>
      intro low narrow highNarrow descending
      have below := descending.1
      have nonempty := interval.min_lt_max
      have counted := interval.length_pos
      have short := interval.length_le_max
      have moved : interval.length - 1 + (low - interval.max - 1) + 2 = low - interval.min := by
        unfold Interval.length
        omega
      have nextLow : minus64 low (interval.length - 1 + (low - interval.max - 1) + 2) =
          interval.min := by
        rw [moved, minus64_eq (by omega) (by omega)]
        omega
      have nextHigh : minus64 (low + firstBlockLength)
          (interval.length - 1 + (low - interval.max - 1) + 2) =
            interval.min + firstBlockLength := by
        rw [moved, minus64_eq (by omega) highNarrow]
        omega
      have later : Reads (processIetfAckBlocks env rest.length interval.min
            (interval.min + firstBlockLength)) (ietfBlocksWire env interval.min rest) after
          (slidRanges firstBlockLength rest) :=
        inductionHypothesis (by omega) (by omega) descending.2
      apply (reads_readVarInt62 (by omega) _ _).bind
      apply (reads_readVarInt62 (by omega) _ _).bind
      simp only [nextLow, nextHigh]
      exact later.last fun ranges => (interval.min, interval.min + firstBlockLength) :: ranges

theorem ietfAckDelayTime_eq {delay : Nat} (narrow : delay < 2 ^ 63) :
    ietfAckDelayTime (delay / 8) = slidDelay delay := by
  have shifted : ((delay / 8) <<< kIetfAckTimestampShift) % 2 ^ 64 = delay / 8 * 8 := by
    rw [Nat.shiftLeft_eq, kIetfAckTimestampShift]
    omega
  have infinite : delay / 8 * 8 = 0x3ffffffffff8 ↔ delay / 8 = 0x7ffffffffff := by omega
  unfold ietfAckDelayTime slidDelay
  simp only [shifted, infinite]

theorem reads_processIetfAckFrame {frame : QuicAckFrame} (wellFormed : frame.IetfWellFormed)
    {delay : Nat} (delayNarrow : delay < 2 ^ 63) {top : Interval} {rest : List Interval}
    (split : frame.packets.descending = top :: rest) :
    Reads (processIetfAckFrame env) (ietfAckWire env frame.largestAcked delay top rest) after
      ⟨frame.largestAcked, slidDelay delay, slidRanges top.length (top :: rest)⟩ := by
  have narrow := wellFormed.narrow
  have ⟨topToo, restToo, splitToo, topMax⟩ := top_of_isGreatest wellFormed.largest
  rw [split] at splitToo
  cases splitToo
  have descending := descending_intervals split
  have few := length_le_of_descending descending
  have nonempty := top.min_lt_max
  have whole : top.min + top.length = top.max := Nat.add_sub_cancel' nonempty.le
  have low : minus64 frame.largestAcked (top.length - 1) = top.min := by
    rw [minus64_eq (by omega) (by omega)]
    omega
  have high : (frame.largestAcked + 1) % 2 ^ 64 = top.min + top.length := by
    rw [Nat.mod_eq_of_lt (by omega)]
    omega
  have blocks : Reads (processIetfAckBlocks env rest.length top.min (top.min + top.length))
      (ietfBlocksWire env top.min rest) after (slidRanges top.length rest) :=
    reads_processIetfAckBlocks (by omega) (by omega) descending
  apply (reads_readVarInt62 narrow _ _).bind
  apply (reads_readVarInt62 (by omega) _ _).bind
  apply (reads_readVarInt62 (by omega) _ _).bind
  apply (reads_readVarInt62 (by omega) _ _).bind
  simp only [low, high, ietfAckDelayTime_eq delayNarrow]
  exact blocks.last _

end Reading

/-! ### What is reported -/

/-- Some range has the number. -/
def InRanges (ranges : List (Nat × Nat)) (packetNumber : Nat) : Prop :=
  ∃ range ∈ ranges, range.1 ≤ packetNumber ∧ packetNumber < range.2

section Reported

variable {packets : PacketNumberQueue} {firstBlockLength : Nat}

/-- Two intervals of a queue are the same, or a number lies between them. -/
theorem PacketNumberQueue.apart {one other : Interval} (oneMember : one ∈ packets.intervals)
    (otherMember : other ∈ packets.intervals) :
    one = other ∨ one.max < other.min ∨ other.max < one.min := by
  have symmetric : Std.Symm fun one other : Interval =>
      one.max < other.min ∨ other.max < one.min := ⟨fun _ _ => Or.symm⟩
  have ordered : packets.intervals.Pairwise fun one other =>
      one.max < other.min ∨ other.max < one.min := packets.ascending.imp Or.inl
  by_cases same : one = other
  · exact .inl same
  · exact .inr (ordered.forall oneMember otherMember same)

theorem inRanges_slidRanges_iff {packetNumber : Nat} :
    InRanges (slidRanges firstBlockLength packets.descending) packetNumber ↔
      ∃ interval ∈ packets.intervals,
        interval.min ≤ packetNumber ∧ packetNumber < interval.min + firstBlockLength := by
  simp only [InRanges, slidRanges, PacketNumberQueue.descending, List.mem_map, List.mem_reverse,
    exists_exists_and_eq_and]

/-- No number too many is reported just when no block is shorter than the first. -/
theorem reported_held_iff :
    (∀ packetNumber, InRanges (slidRanges firstBlockLength packets.descending) packetNumber →
      packets.Holds packetNumber) ↔
      ∀ interval ∈ packets.intervals, firstBlockLength ≤ interval.length := by
  simp only [inRanges_slidRanges_iff]
  constructor
  · intro held interval member
    by_contra shorter
    have nonempty := interval.min_lt_max
    have short : interval.max < interval.min + firstBlockLength := by
      unfold Interval.length at shorter
      omega
    -- The number behind the interval is reported, and no interval has it.
    obtain ⟨other, otherMember, above, below⟩ :=
      held interval.max ⟨interval, member, nonempty.le, short⟩
    rcases packets.apart member otherMember with rfl | before | behind <;> omega
  · rintro long packetNumber ⟨interval, member, above, below⟩
    have enough := long interval member
    have nonempty := interval.min_lt_max
    unfold Interval.length at enough
    exact ⟨interval, member, above, by omega⟩

/-- No number is lost just when no block is longer than the first. -/
theorem held_reported_iff :
    (∀ packetNumber, packets.Holds packetNumber →
      InRanges (slidRanges firstBlockLength packets.descending) packetNumber) ↔
      ∀ interval ∈ packets.intervals, interval.length ≤ firstBlockLength := by
  simp only [inRanges_slidRanges_iff]
  constructor
  · intro reported interval member
    by_contra longer
    have beyond : interval.min + firstBlockLength < interval.max := by
      unfold Interval.length at longer
      omega
    -- The first number that the slid block leaves out is in no other block.
    obtain ⟨other, otherMember, above, below⟩ := reported (interval.min + firstBlockLength)
      ⟨interval, member, Nat.le_add_right _ _, beyond⟩
    have otherNonempty := other.min_lt_max
    rcases packets.apart member otherMember with rfl | before | behind <;> omega
  · rintro short packetNumber ⟨interval, member, above, below⟩
    have enough := short interval member
    unfold Interval.length at enough
    exact ⟨interval, member, above, by omega⟩

end Reported

/-- An ack frame is written as a whole, or not at all, and the reader of the format takes it,
whatever follows. It reports the least number of each interval, and each interval with the
length of the top one: it acks a number that was not received just when some interval is
shorter than the top one, and loses a number just when some interval is longer. -/
theorem ietf_ack_frame (env : IetfEnv) {frame : QuicAckFrame} (wellFormed : frame.IetfWellFormed)
    {writer : QuicDataWriter} (sound : writer.Sound) :
    ∃ payload delay ranges, frame.ackDelayTime = some delay ∧
      (appendIetfAckFrame env frame writer).toOption =
        writer.writeBytes (env.ietfAck :: payload) ∧
      (∀ rest, (processIetfAckFrame env).run (payload ++ rest) =
        .ok (⟨frame.largestAcked, slidDelay delay, ranges⟩, rest)) ∧
      ranges.map Prod.fst = frame.packets.descending.map Interval.min ∧
      ((∀ packetNumber, InRanges ranges packetNumber → frame.packets.Holds packetNumber) ↔
        ∀ interval ∈ frame.packets.intervals,
          (getAckFrameInfo frame).firstBlockLength ≤ interval.length) ∧
      ((∀ packetNumber, frame.packets.Holds packetNumber → InRanges ranges packetNumber) ↔
        ∀ interval ∈ frame.packets.intervals,
          interval.length ≤ (getAckFrameInfo frame).firstBlockLength) := by
  have ⟨delay, finite, delayNarrow⟩ := wellFormed.delay
  have ⟨top, rest, split, _⟩ := top_of_isGreatest wellFormed.largest
  have first : (getAckFrameInfo frame).firstBlockLength = top.length := by
    rw [getAckFrameInfo, split]
    exact scanIntervals_firstBlockLength rest _ _
  have leastNumbers : (slidRanges top.length frame.packets.descending).map Prod.fst =
      frame.packets.descending.map Interval.min := by
    rw [slidRanges, List.map_map]
    rfl
  rw [first]
  refine ⟨ietfAckWire env frame.largestAcked delay top rest, delay,
    slidRanges top.length frame.packets.descending, finite, ?_, ?_, leastNumbers,
    reported_held_iff, held_reported_iff⟩
  · exact ietfWrites_ackFrame wellFormed finite delayNarrow split writer sound
  · intro after
    rw [split]
    exact reads_processIetfAckFrame wellFormed delayNarrow split

/-- Packets 1 to 5 are behind packet 10: of the five, only packet 1 is reported. -/
def longBlockFrame : QuicAckFrame where
  largestAcked := 10
  ackDelayTime := some 100
  packets := ⟨[⟨1, 6, by decide⟩, ⟨10, 11, by decide⟩], by decide⟩

theorem longBlockFrame_wellFormed : longBlockFrame.IetfWellFormed := by
  have held : ∀ packetNumber, longBlockFrame.packets.Holds packetNumber ↔
      (1 ≤ packetNumber ∧ packetNumber < 6) ∨ (10 ≤ packetNumber ∧ packetNumber < 11) := by
    intro packetNumber
    simp [longBlockFrame, PacketNumberQueue.Holds]
  refine ⟨⟨(held 10).mpr (by decide), ?_⟩, by decide, 100, rfl, by decide⟩
  intro packetNumber member
  have within := (held packetNumber).mp member
  change packetNumber ≤ 10
  omega

theorem ietf_ack_frame_longBlockFrame :
    ∃ payload delay ranges,
      (appendIetfAckFrame plainIetfEnv longBlockFrame (.create 100)).toOption =
        (QuicDataWriter.create 100).writeBytes (0x0d :: payload) ∧
      (processIetfAckFrame plainIetfEnv).run (payload ++ [9]) = .ok (⟨10, delay, ranges⟩, [9]) ∧
      ¬∀ packetNumber, longBlockFrame.packets.Holds packetNumber →
        InRanges ranges packetNumber := by
  have ⟨payload, delay, ranges, _, written, read, _, _, lost⟩ :=
    ietf_ack_frame plainIetfEnv longBlockFrame_wellFormed (QuicDataWriter.sound_create 100)
  exact ⟨payload, slidDelay delay, ranges, written, read [9], lost.not.mpr (by decide)⟩

end StupidSimple.Quic
