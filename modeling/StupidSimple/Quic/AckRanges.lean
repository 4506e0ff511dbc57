import StupidSimple.Quic.Frames

/-!
Owns what the bytes of an ack frame say, as far as they can be read: the packets
they list (`ListsPacket`) and whether they reach the range that ends the frame
(`EndsAck`). Both are properties of the bytes; `acked_record_iff` and
`hasLastRange_record_iff` connect them with the calls of `processAckFrame`.
-/

namespace StupidSimple.Quic

open StupidSimple.Library MyQuicFramer

/-- Some range of the calls holds the packet number. -/
def Acked (calls : List VisitorCall) (packetNumber : Nat) : Prop :=
  ∃ start stop last, .onAckRange start stop last ∈ calls ∧
    start ≤ packetNumber ∧ packetNumber < stop

/-- Some range of the calls is flagged as the last one. -/
def HasLastRange (calls : List VisitorCall) : Prop :=
  ∃ start stop, .onAckRange start stop true ∈ calls

/-- One range is flagged as the last one, and it is the last one. -/
def CompletesOnce (calls : List VisitorCall) : Prop :=
  ∃ before start stop after, calls = before ++ .onAckRange start stop true :: after ∧
    ¬HasLastRange before ∧ ∀ call ∈ after, ¬call.IsAckRange

/-! ### What the bytes say -/

section Bytes

variable (frameType : Nat) (bytes : List UInt8)

/-- The bytes begin with an ack frame up to some block, which lists the packet. -/
def ListsPacket (packetNumber : Nat) : Prop :=
  ∃ ack : AckPrefix frameType, ack.wire <+: bytes ∧ Acked ack.ranges packetNumber

/-- The prefix reaches the end of its ranges with a range that can be flagged:
the frame has no blocks behind the first, or the last of them acks packets. -/
def AckPrefix.EndsAck {frameType : Nat} (ack : AckPrefix frameType) : Prop :=
  hasAckBlocks frameType = false ∨
    ack.Complete ∧ ∃ block ∈ ack.blocks.getLast?, 0 < block.length

def EndsAck : Prop :=
  ∃ ack : AckPrefix frameType, ack.wire <+: bytes ∧ ack.EndsAck

end Bytes

/-! ### Flags of blocks -/

theorem blockCalls_append (first second : List AckBlock) :
    ∀ remaining firstReceived, blockCalls remaining firstReceived (first ++ second) =
      blockCalls remaining firstReceived first ++
        blockCalls (remaining - first.length) (lowestReceived firstReceived first) second := by
  induction first with
  | nil =>
      intro remaining firstReceived
      rfl
  | cons block blocks inductionHypothesis =>
      intro remaining firstReceived
      simp only [List.cons_append, blockCalls, lowestReceived, inductionHypothesis,
        List.append_assoc, List.length_cons]
      rw [show remaining - 1 - blocks.length = remaining - (blocks.length + 1) by omega]

theorem hasLastRange_append {first second : List VisitorCall} :
    HasLastRange (first ++ second) ↔ HasLastRange first ∨ HasLastRange second := by
  simp only [HasLastRange, List.mem_append]
  constructor
  · rintro ⟨start, stop, member | member⟩
    · exact Or.inl ⟨start, stop, member⟩
    · exact Or.inr ⟨start, stop, member⟩
  · rintro (⟨start, stop, member⟩ | ⟨start, stop, member⟩)
    · exact ⟨start, stop, Or.inl member⟩
    · exact ⟨start, stop, Or.inr member⟩

theorem hasLastRange_blockCalls_one {block : AckBlock} {remaining firstReceived : Nat} :
    HasLastRange (blockCalls remaining firstReceived [block]) ↔
      remaining = 1 ∧ 0 < block.length := by
  unfold HasLastRange
  simp only [blockCalls, AckBlock.calls, List.append_nil]
  split_ifs with acks
  · simp [acks]
  · simp [acks]

/-- No block before the last one is flagged. -/
theorem not_hasLastRange_blockCalls {blocks : List AckBlock} :
    ∀ {remaining firstReceived}, blocks.length < remaining →
      ¬HasLastRange (blockCalls remaining firstReceived blocks) := by
  induction blocks with
  | nil =>
      rintro remaining firstReceived _ ⟨start, stop, member⟩
      cases member
  | cons block blocks inductionHypothesis =>
      intro remaining firstReceived more
      rw [List.length_cons] at more
      have one := @hasLastRange_blockCalls_one block remaining firstReceived
      have rest : ¬HasLastRange (blockCalls (remaining - 1)
          (firstReceived - (block.gap + block.length)) blocks) :=
        inductionHypothesis (by omega)
      rw [show block :: blocks = [block] ++ blocks from rfl, blockCalls_append,
        hasLastRange_append, one]
      rintro (⟨single, -⟩ | later)
      · omega
      · exact rest later

/-! ### Calls of a frame -/

section Prefix

variable {frameType : Nat} (ack : AckPrefix frameType)

theorem acked_calls_iff (io : QuicData) (packetNumber : Nat) :
    Acked (ack.calls io) packetNumber ↔ Acked ack.ranges packetNumber := by
  simp [Acked, AckPrefix.calls, AckPrefix.startCall]

/-- A prefix that reaches the flagged range ends with it, and it is the only one. -/
theorem completesOnce_calls (io : QuicData) (ends : ack.EndsAck) :
    CompletesOnce (ack.calls io) := by
  rcases counted : hasAckBlocks frameType with _ | _
  · have noBlocks : ack.blocks = [] := by
      have bounded := ack.length_blocks_le
      rw [ack.numAckBlocks_eq_zero counted] at bounded
      exact List.length_eq_zero_iff.mp (Nat.le_zero.mp bounded)
    refine ⟨[ack.startCall io], ack.firstReceived, ack.largestAcked + 1, [], ?_, ?_, by simp⟩
    · rw [AckPrefix.calls, AckPrefix.ranges, AckPrefix.topRange, noBlocks, counted]
      rfl
    · simp [HasLastRange, AckPrefix.startCall]
  · rcases ends with uncounted | ⟨complete, block, last, acks⟩
    · rw [counted] at uncounted
      cases uncounted
    · have ⟨others, split⟩ := List.getLast?_eq_some_iff.mp last
      have count : ack.numAckBlocks = others.length + 1 := by
        rw [← complete, split, List.length_append, List.length_singleton]
      have noneFlagged : ¬HasLastRange (blockCalls ack.numAckBlocks ack.firstReceived others) :=
        not_hasLastRange_blockCalls (by omega)
      let lowest := lowestReceived ack.firstReceived others - (block.gap + block.length)
      refine ⟨ack.startCall io :: ack.topRange ::
        blockCalls ack.numAckBlocks ack.firstReceived others, lowest, lowest + block.length, [],
        ?_, ?_, by simp⟩
      · rw [AckPrefix.calls, AckPrefix.ranges, split, blockCalls_append, count,
          Nat.add_sub_cancel_left]
        simp only [blockCalls, AckBlock.calls, if_pos acks, decide_true, List.append_nil]
        rfl
      · rintro ⟨start, stop, member⟩
        simp only [AckPrefix.startCall, AckPrefix.topRange, counted, List.mem_cons] at member
        rcases member with impossible | impossible | later
        · cases impossible
        · cases impossible
        · exact noneFlagged ⟨start, stop, later⟩

theorem HasLastRange.of_completesOnce {calls : List VisitorCall} (once : CompletesOnce calls) :
    HasLastRange calls := by
  have ⟨before, start, stop, after, split, _⟩ := once
  exact ⟨start, stop, by simp [split]⟩

/-- The flagged range is reached only where the prefix says so. -/
theorem hasLastRange_calls_iff (io : QuicData) :
    HasLastRange (ack.calls io) ↔ ack.EndsAck := by
  constructor
  · rintro ⟨start, stop, member⟩
    by_contra unfinished
    have counted : hasAckBlocks frameType = true := by
      by_contra uncounted
      exact unfinished (Or.inl (Bool.eq_false_iff.mpr uncounted))
    have inBlocks : HasLastRange (blockCalls ack.numAckBlocks ack.firstReceived ack.blocks) := by
      refine ⟨start, stop, ?_⟩
      simpa [AckPrefix.calls, AckPrefix.startCall, AckPrefix.ranges, AckPrefix.topRange, counted]
        using member
    rcases List.eq_nil_or_concat ack.blocks with none | ⟨others, block, split⟩
    · have ⟨_, _, impossible⟩ := inBlocks
      rw [none] at impossible
      cases impossible
    · rw [List.concat_eq_append] at split
      have bounded := ack.length_blocks_le
      rw [split, List.length_append, List.length_singleton] at bounded
      rw [split, blockCalls_append, hasLastRange_append, hasLastRange_blockCalls_one] at inBlocks
      rcases inBlocks with early | ⟨single, acks⟩
      · exact not_hasLastRange_blockCalls (by omega) early
      · apply unfinished
        refine Or.inr ⟨?_, block, ?_, acks⟩
        · unfold AckPrefix.Complete
          rw [split, List.length_append, List.length_singleton]
          omega
        · rw [split, List.getLast?_append]
          rfl
  · intro ends
    exact .of_completesOnce (completesOnce_calls ack io ends)

end Prefix

/-! ### Calls of the reader -/

section Reader

variable (io : QuicData) (frameType : Nat) (bytes : List UInt8)

/-- The calls of the reader contain those of every prefix that its bytes begin with. -/
theorem calls_prefix_record {ack : AckPrefix frameType} (begins : ack.wire <+: bytes) :
    ack.calls io <+:
      (record io (processAckFrame io.kUFloat16MaxValue frameType) bytes).2.visitor := by
  have ⟨rest, wired⟩ := begins
  rw [← wired, record_wire]
  exact List.prefix_append _ _

/-- The reader acks exactly the packets that its bytes list. -/
theorem acked_record_iff (packetNumber : Nat) :
    Acked (record io (processAckFrame io.kUFloat16MaxValue frameType) bytes).2.visitor
      packetNumber ↔ ListsPacket frameType bytes packetNumber := by
  constructor
  · intro acked
    rcases processAckFrame_cases io frameType bytes with
      ⟨ack, rest, wired, calls, _⟩ | ⟨calls, ⟨detail, unread, failed⟩, noRange⟩
    · rw [calls, acked_calls_iff] at acked
      exact ⟨ack, ⟨rest, wired.symm⟩, acked⟩
    · have ⟨start, stop, last, member, _⟩ := acked
      rw [failed] at member
      exact absurd member (noRange start stop last)
  · rintro ⟨ack, begins, acked⟩
    have ⟨start, stop, last, member, within⟩ := (acked_calls_iff ack io packetNumber).mpr acked
    exact ⟨start, stop, last, (calls_prefix_record io frameType bytes begins).subset member, within⟩

/-- The reader flags a range as the last one exactly where its bytes reach one. -/
theorem hasLastRange_record_iff :
    HasLastRange (record io (processAckFrame io.kUFloat16MaxValue frameType) bytes).2.visitor ↔
      EndsAck frameType bytes := by
  constructor
  · rintro ⟨start, stop, member⟩
    rcases processAckFrame_cases io frameType bytes with
      ⟨ack, rest, wired, calls, _⟩ | ⟨calls, ⟨detail, unread, failed⟩, noRange⟩
    · rw [calls] at member
      exact ⟨ack, ⟨rest, wired.symm⟩, (hasLastRange_calls_iff ack io).mp ⟨start, stop, member⟩⟩
    · rw [failed] at member
      exact absurd member (noRange start stop true)
  · rintro ⟨ack, begins, ends⟩
    have ⟨start, stop, member⟩ := (hasLastRange_calls_iff ack io).mpr ends
    exact ⟨start, stop, (calls_prefix_record io frameType bytes begins).subset member⟩

/-- An accepted frame flags one range, its last one, exactly where its bytes
reach a range that can be flagged. -/
theorem completesOnce_record_iff
    (accepted : (record io (processAckFrame io.kUFloat16MaxValue frameType) bytes).1 = .ok ()) :
    CompletesOnce (record io (processAckFrame io.kUFloat16MaxValue frameType) bytes).2.visitor ↔
      EndsAck frameType bytes := by
  rcases processAckFrame_cases io frameType bytes with
    ⟨ack, rest, wired, calls, complete⟩ | ⟨calls, ⟨detail, unread, failed⟩, _⟩
  · constructor
    · intro once
      exact (hasLastRange_record_iff io frameType bytes).mp (.of_completesOnce once)
    · intro ends
      have flagged := (hasLastRange_record_iff io frameType bytes).mpr ends
      rw [calls] at flagged ⊢
      exact completesOnce_calls ack io ((hasLastRange_calls_iff ack io).mp flagged)
  · rw [failed] at accepted
    cases accepted

end Reader

end StupidSimple.Quic
