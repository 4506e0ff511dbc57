import Mathlib.Algebra.Order.BigOperators.Group.List
import Mathlib.Data.Nat.Cast.Order.Field
import StupidSimple.Bbr.SampleExact

/-!
Owns the comparison of bandwidth samples with the rate of the path. A path
delivers at `rate` when the bytes acked in any interval between two acks, open
on the left, are at most `rate` times its length. A sample divides the bytes of
all acks of a cluster, those of its first ack included, by the span from the
first to the last ack, and so counts one ack more than the span holds.
`samples_le_rate` says which traces do not show this: those whose windows are
within the rate with both of their ends.
-/

namespace StupidSimple.Bbr

open StupidSimple.Library

variable {Bandwidth Filter : Type}

/-! ### The rate of the path -/

/-- Bits per second that one byte per microsecond makes. -/
def bitsPerSecond : Nat := 8 * 1000000

/-- The accepted acks of a run, each with the packet of its number. -/
def acksOf : List Event → List AckRecord :=
  collect fun past event =>
    match event with
    | .packetSent _ _ _ => []
    | .ack time number _ =>
        if ∀ earlier ∈ past.filterMap Event.ackNumber, earlier < number then
          ((past.filterMap Event.sentRecord).filter fun packet => packet.number = number).map
            (AckRecord.mk time)
        else []

/-- The times of the calls of `OnAck`. -/
def ackTimes (events : List Event) : List QuicTime :=
  events.filterMap fun event => event.ackNumber.map fun _ => event.time

/-- The bytes of the packets acked after `start` and not after `stop`. -/
def deliveredBytes (start stop : QuicTime) (acks : List AckRecord) : Nat :=
  ackedBytes (acks.filter fun ack => start < ack.time ∧ ack.time ≤ stop)

section Rate

variable {Rate : Type*} [Field Rate] [LinearOrder Rate]

/-- Between any two acks the path delivers at most `rate` bits per second. -/
def Delivers (rate : Rate) (events : List Event) : Prop :=
  ∀ start ∈ ackTimes events, ∀ stop ∈ ackTimes events, start < stop →
    (deliveredBytes start stop (acksOf events) * bitsPerSecond : Rate) ≤
      rate * ((stop - start : Int) : Rate)

/-! ### Windows with both ends -/

/-- The packets that were sent. -/
def sendsOf (events : List Event) : List SentRecord := events.filterMap Event.sentRecord

/-- The bytes of the items from `start` to `stop`, those at both ends included. -/
def bytesBetween {α : Type*} (time : α → QuicTime) (bytes : α → Nat) (start stop : QuicTime)
    (items : List α) : Nat :=
  ((items.filter fun item => start ≤ time item ∧ time item ≤ stop).map bytes).sum

/-- The acks from one to another are within the rate. -/
def AcksWithin (rate : Rate) (events : List Event) (first last : AckRecord) : Prop :=
  (bytesBetween (·.time) (·.packet.bytes) first.time last.time (acksOf events) * bitsPerSecond :
      Rate) ≤
    rate * ((last.time - first.time : Int) : Rate)

/-- The packets from one to another are sent over some time, and within the rate. -/
def SendsWithin (rate : Rate) (events : List Event) (first last : SentRecord) : Prop :=
  first.time < last.time ∧
    (bytesBetween (·.time) (·.bytes) first.time last.time (sendsOf events) * bitsPerSecond :
        Rate) ≤
      rate * ((last.time - first.time : Int) : Rate)

/-- Whatever packets come between `first` and `last`: from one of their acks to another at a
later time the acks are within the rate, or from `first` to `last` the packets are. -/
def WindowsWithin (rate : Rate) (events : List Event) : Prop :=
  ∀ firstAck ∈ acksOf events, ∀ lastAck ∈ acksOf events, firstAck.time < lastAck.time →
    ∀ first ∈ sendsOf events, ∀ last ∈ sendsOf events,
      first.number ≤ firstAck.packet.number → lastAck.packet.number ≤ last.number →
        AcksWithin rate events firstAck lastAck ∨ SendsWithin rate events first last

end Rate

def ackSpan (acks : List AckRecord) : Delta := spanOf (acks.map (·.time))

def sendSpan (packets : List SentRecord) : Delta := spanOf (packets.map (·.time))

section Ends

variable {α : Type*} {time : α → QuicTime} {items : List α}

/-- Ordered items lie between the first and the last one. -/
theorem between_ends {κ : Type*} [Preorder κ] {key : α → κ}
    (ordered : (items.map key).Pairwise (· ≤ ·)) (nonempty : items ≠ []) {item : α}
    (member : item ∈ items) :
    key (items.head nonempty) ≤ key item ∧ key item ≤ key (items.getLast nonempty) := by
  have pairwise := List.pairwise_map.mp ordered
  exact ⟨pairwise.rel_head_of_rel_head_head member le_rfl,
    pairwise.rel_getLast_of_rel_getLast_getLast member le_rfl⟩

theorem spanOf_map (nonempty : items ≠ []) :
    spanOf (items.map time) = time (items.getLast nonempty) - time (items.head nonempty) := by
  rw [spanOf, List.getLastD_eq_getLast?, List.getLast?_map,
    List.getLast?_eq_getLast_of_ne_nil nonempty]
  cases items with
  | nil => exact absurd rfl nonempty
  | cons first rest => rfl

/-- The bytes of some items are those of a window, or fewer. -/
theorem bytes_le_bytesBetween {all : List α} (bytes : α → Nat) (inside : items.Sublist all)
    {start stop : QuicTime} (between : ∀ item ∈ items, start ≤ time item ∧ time item ≤ stop) :
    (items.map bytes).sum ≤ bytesBetween time bytes start stop all := by
  have kept : items.filter (fun item => start ≤ time item ∧ time item ≤ stop) = items :=
    List.filter_eq_self.mpr fun item member => decide_eq_true (between item member)
  have sublist := inside.filter fun item => decide (start ≤ time item ∧ time item ≤ stop)
  rw [kept] at sublist
  exact (sublist.map bytes).sum_le_sum fun _ _ => Nat.zero_le _

variable {Rate : Type*} [Field Rate] [LinearOrder Rate] [IsStrictOrderedRing Rate] {rate : Rate}

/-- Items of a window within the rate are within the rate over their own span. -/
theorem bytes_within_span {all : List α} (bytes : α → Nat) (inside : items.Sublist all)
    (ordered : (items.map time).Pairwise (· ≤ ·)) (nonempty : items ≠ [])
    (within : (bytesBetween time bytes (time (items.head nonempty))
        (time (items.getLast nonempty)) all * bitsPerSecond : Rate) ≤
      rate * ((time (items.getLast nonempty) - time (items.head nonempty) : Int) : Rate)) :
    ((items.map bytes).sum * bitsPerSecond : Rate) ≤ rate * (spanOf (items.map time) : Rate) := by
  have fewer := bytes_le_bytesBetween bytes inside fun _ => between_ends ordered nonempty
  have scale : (0 : Rate) ≤ (bitsPerSecond : Rate) := Nat.cast_nonneg _
  rw [spanOf_map nonempty]
  exact (mul_le_mul_of_nonneg_right (Nat.cast_le.mpr fewer) scale).trans within

end Ends

/-! ### Samples in bits per second -/

section Samples

variable [LinearOrder Bandwidth] {platform : Platform Bandwidth Filter} {bits : Bandwidth → Nat}

/-- `bits` reads a bandwidth in whole bits per second, and `FromBytesAndTimeDelta`
divides and rounds down. -/
structure RoundsDown (platform : Platform Bandwidth Filter) (bits : Bandwidth → Nat) : Prop where
  strictMono : StrictMono bits
  fromBytes : ∀ bytes delta, 0 < delta →
    bits (platform.fromBytesAndTimeDelta bytes delta) = bytes * bitsPerSecond / delta.toNat

variable {Rate : Type*} [Field Rate] [LinearOrder Rate] [IsStrictOrderedRing Rate] {rate : Rate}

theorem RoundsDown.le_rate (rounds : RoundsDown platform bits) {bytes : Nat} {delta : Delta}
    (positive : 0 < delta) (within : (bytes * bitsPerSecond : Rate) ≤ rate * (delta : Rate)) :
    (bits (platform.fromBytesAndTimeDelta bytes delta) : Rate) ≤ rate := by
  have length : ((delta.toNat : Nat) : Rate) = (delta : Rate) := by
    rw [← Int.cast_natCast, Int.toNat_of_nonneg positive.le]
  have divides : (0 : Rate) < (delta : Rate) := Int.cast_pos.mpr positive
  rw [rounds.fromBytes bytes delta positive]
  apply le_trans Nat.cast_div_le
  rw [length, div_le_iff₀ divides, Nat.cast_mul]
  exact within

variable {events : List Event}

theorem ackRate_le (rounds : RoundsDown platform bits) {acks : List AckRecord}
    (inside : acks.Sublist (acksOf events)) (ordered : (acks.map (·.time)).Pairwise (· ≤ ·))
    (nonempty : acks ≠ []) (spread : 0 < spanOf (acks.map (·.time)))
    (within : AcksWithin rate events (acks.head nonempty) (acks.getLast nonempty)) :
    (bits (referenceAckRate platform acks) : Rate) ≤ rate :=
  rounds.le_rate spread (bytes_within_span (·.packet.bytes) inside ordered nonempty within)

theorem sendRate_le (rounds : RoundsDown platform bits) {packets : List SentRecord}
    (inside : packets.Sublist (sendsOf events))
    (ordered : (packets.map (·.time)).Pairwise (· ≤ ·)) (nonempty : packets ≠ [])
    (within : SendsWithin rate events (packets.head nonempty) (packets.getLast nonempty)) :
    (bits (referenceSendRate platform packets) : Rate) ≤ rate := by
  have spread : 0 < spanOf (packets.map (·.time)) := by
    rw [spanOf_map nonempty]
    exact Int.sub_pos.mpr within.1
  rw [referenceSendRate, if_neg spread.ne']
  exact rounds.le_rate spread (bytes_within_span (·.bytes) inside ordered nonempty within.2)

end Samples

/-! ### What the path delivers to one cluster -/

theorem ackNumbers_eq (history : History Bandwidth) :
    ackNumbers history = (history.map Prod.fst).filterMap Event.ackNumber := by
  rw [List.filterMap_map]
  rfl

/-- The acks of a cluster are acks of the run. -/
theorem acksIn_sublist (ref : ClusterRef) (history : History Bandwidth) :
    (acksIn ref history).Sublist (acksOf (history.map Prod.fst)) := by
  induction history using List.reverseRecOn with
  | nil => exact List.Sublist.slnil
  | append_singleton history entry inductionHypothesis =>
      rcases entry with ⟨event, calls⟩
      rw [List.map_append, List.map_singleton, acksOf, collect_snoc]
      cases event with
      | packetSent time number bytes =>
          rw [acksIn_snoc_packetSent]
          exact inductionHypothesis.trans (List.sublist_append_left _ _)
      | ack time number draw =>
          rw [acksIn_snoc_ack, ackNumbers_eq]
          apply inductionHypothesis.append
          simp only
          split
          · exact ((sentIn_sublist ref history).filter _).map _
          · exact List.Sublist.refl []

/-- No time of an ordered list is after the last. -/
theorem le_getLastD {times : List QuicTime} (ordered : times.Pairwise (· ≤ ·)) {time : QuicTime}
    (member : time ∈ times) : time ≤ times.getLastD 0 := by
  rcases List.eq_nil_or_concat times with rfl | ⟨front, last, rfl⟩
  · simp at member
  · rw [List.concat_eq_append] at ordered member ⊢
    rw [List.getLastD_concat]
    rcases List.mem_append.mp member with early | same
    · exact (List.pairwise_append.mp ordered).2.2 time early last (by simp)
    · exact (List.mem_singleton.mp same).le

section Sample

variable [LinearOrder Bandwidth] {platform : Platform Bandwidth Filter} {bits : Bandwidth → Nat}
  {Rate : Type*} [Field Rate] [LinearOrder Rate] [IsStrictOrderedRing Rate] {rate : Rate}

/-- The sample of a cluster is at most the rate when the windows of the trace are: the window
of its acks bounds the rate of the acks, or that of its packets the rate of sending. -/
theorem referenceSample_le (rounds : RoundsDown platform bits) {ref : ClusterRef}
    {history : History Bandwidth} (clock : ClockOrdered (history.map Prod.fst))
    (numbers : NumbersConsecutive (history.map Prod.fst))
    (spread : 0 < spanOf ((acksIn ref history).map (·.time)))
    (windows : WindowsWithin rate (history.map Prod.fst)) :
    (bits (referenceSample platform ref history) : Rate) ≤ rate := by
  have acksNonempty : acksIn ref history ≠ [] := by
    intro empty
    rw [empty] at spread
    exact spread.false
  have packetOf : ∀ ack ∈ acksIn ref history, ack.packet ∈ sentIn ref history :=
    fun _ member => (mem_acksIn member).1
  have firstMember := List.head_mem acksNonempty
  have lastMember := List.getLast_mem acksNonempty
  have packetsNonempty : sentIn ref history ≠ [] :=
    List.ne_nil_of_mem (packetOf _ firstMember)
  have increase : ((sentIn ref history).map (·.number)).Pairwise (· ≤ ·) :=
    (numbers.increase.imp le_of_lt).sublist (sentIn_numbers_sublist ref history)
  have later := spread
  rw [spanOf_map acksNonempty] at later
  have window := windows _ ((acksIn_sublist ref history).subset firstMember) _
    ((acksIn_sublist ref history).subset lastMember) (Int.sub_pos.mp later)
    _ ((sentIn_sublist ref history).subset (List.head_mem packetsNonempty))
    _ ((sentIn_sublist ref history).subset (List.getLast_mem packetsNonempty))
    ((between_ends increase packetsNonempty (packetOf _ firstMember)).1)
    ((between_ends increase packetsNonempty (packetOf _ lastMember)).2)
  rw [referenceSample, rounds.strictMono.monotone.map_min, Nat.cast_min, min_le_iff]
  cases window with
  | inl acks =>
      exact Or.inr (ackRate_le rounds (acksIn_sublist ref history) (clock.acksIn_ordered ref)
        acksNonempty spread acks)
  | inr sends =>
      exact Or.inl (sendRate_le rounds (sentIn_sublist ref history) (clock.sentIn_ordered ref)
        packetsNonempty sends)

end Sample

/-! ### Whole runs -/

/-- The samples passed to `OnEstimateBandwidth`, each with its cluster. -/
def samplesOf (history : History Bandwidth) : List (ClusterRef × Bandwidth) :=
  (history.flatMap Prod.snd).filterMap fun call =>
    match call with
    | .estimateBandwidth ref _ bw => some (ref, bw)
    | _ => none

theorem mem_samplesOf {history : History Bandwidth} {ref : ClusterRef} {bw : Bandwidth} :
    (ref, bw) ∈ samplesOf history ↔ ∃ event calls id, (event, calls) ∈ history ∧
      Call.estimateBandwidth ref id bw ∈ calls := by
  constructor
  · intro member
    rcases List.mem_filterMap.mp member with ⟨call, inCalls, found⟩
    rcases List.mem_flatMap.mp inCalls with ⟨⟨event, calls⟩, inHistory, made⟩
    cases call with
    | estimateBandwidth cluster id sample =>
        obtain ⟨rfl, rfl⟩ := Prod.mk.inj (Option.some.inj found)
        exact ⟨event, calls, id, inHistory, made⟩
    | clusterPacketSent _ => contradiction
    | clusterInfoClear => contradiction
    | averageBandwidth _ _ _ => contradiction
  · rintro ⟨event, calls, id, inHistory, made⟩
    exact List.mem_filterMap.mpr
      ⟨_, List.mem_flatMap.mpr ⟨(event, calls), inHistory, made⟩, rfl⟩

section Runs

variable [LinearOrder Bandwidth] {platform : Platform Bandwidth Filter} {bits : Bandwidth → Nat}
  {Rate : Type*} [Field Rate] [LinearOrder Rate] [IsStrictOrderedRing Rate] {rate : Rate}

/-- In a run whose windows are within the rate with both of their ends, every sample is at
most the rate. That the path delivers at the rate is not enough. -/
theorem samples_le_rate (rounds : RoundsDown platform bits) (minBps startBps maxBps : Nat)
    {events : List Event} (clock : ClockOrdered events) (numbers : NumbersConsecutive events)
    (windows : WindowsWithin rate events) :
    ∃ final history,
      (bbrMachine platform).exec (.create platform minBps startBps maxBps) events =
        some (final, history) ∧
      ∀ sample ∈ samplesOf history, (bits sample.2 : Rate) ≤ rate := by
  rcases exists_tracked_run platform minBps startBps maxBps clock numbers with
    ⟨history, final, clusters, run, rfl, -, tracked⟩
  refine ⟨final, history, run.exec, ?_⟩
  rintro ⟨ref, bw⟩ member
  rcases mem_samplesOf.mp member with ⟨event, calls, id, inHistory, made⟩
  rcases List.append_of_mem inHistory with ⟨before, after, split⟩
  have closed := tracked.closed before event calls after ref id bw split made
  rw [show bw = referenceSample platform ref history from closed.sample]
  exact referenceSample_le rounds clock numbers closed.spread windows

theorem roundsDown_bits : RoundsDown Platform.bits id where
  strictMono := strictMono_id
  fromBytes bytes delta _ := by
    simp only [Platform.bits, bitsPerSecond, id, Nat.mul_assoc]

/-- In `twoClusterRun` the path delivers 1000 bytes a microsecond, the acks of
packets 2 and 3; the sample counts 2000 bytes for that microsecond. -/
theorem delivers_twoClusterRun : Delivers (8000000000 : ℚ) twoClusterRun := by
  have inBits : ∀ start ∈ ackTimes twoClusterRun, ∀ stop ∈ ackTimes twoClusterRun, start < stop →
      ((deliveredBytes start stop (acksOf twoClusterRun) * bitsPerSecond : Nat) : Int) ≤
        8000000000 * (stop - start) := by
    decide
  intro start started stop stopped later
  have inInt := inBits start started stop stopped later
  exact_mod_cast inInt

theorem sample_above_rate_twoClusterRun :
    ClockOrdered twoClusterRun ∧ NumbersConsecutive twoClusterRun ∧
      Delivers (8000000000 : ℚ) twoClusterRun ∧
      ∃ final history,
        (bbrMachine Platform.bits).exec (.create Platform.bits 1000 1000 1000) twoClusterRun =
          some (final, history) ∧
        ∃ sample ∈ samplesOf history, (8000000000 : ℚ) < (sample.2 : ℚ) := by
  refine ⟨⟨by decide, by decide⟩, ⟨by decide, by decide⟩, delivers_twoClusterRun, ?_⟩
  have samples : ((bbrMachine Platform.bits).exec (.create Platform.bits 1000 1000 1000)
      twoClusterRun).map (fun result => samplesOf result.2) = some [(0, 16000000000)] := by
    decide +kernel
  rcases Option.map_eq_some_iff.mp samples with ⟨⟨final, history⟩, executed, same⟩
  refine ⟨final, history, executed, (0, 16000000000), ?_, by norm_num⟩
  rw [same]
  exact List.mem_singleton_self _

theorem windows_twoClusterRun : WindowsWithin (16000000000 : ℚ) twoClusterRun := by
  have inBits : ∀ first ∈ acksOf twoClusterRun, ∀ last ∈ acksOf twoClusterRun,
      first.time < last.time →
        ((bytesBetween (·.time) (·.packet.bytes) first.time last.time (acksOf twoClusterRun) *
          bitsPerSecond : Nat) : Int) ≤ 16000000000 * (last.time - first.time) := by
    decide
  intro first firstMember last lastMember later _ _ _ _ _ _
  have inInt := inBits first firstMember last lastMember later
  left
  unfold AcksWithin
  exact_mod_cast inInt

/-- At twice the rate the windows of `twoClusterRun` are within it, and the sample is just that. -/
theorem samples_le_rate_twoClusterRun :
    (RoundsDown Platform.bits id ∧ ClockOrdered twoClusterRun ∧ NumbersConsecutive twoClusterRun ∧
      WindowsWithin (16000000000 : ℚ) twoClusterRun) ∧
    ∃ final history,
      (bbrMachine Platform.bits).exec (.create Platform.bits 1000 1000 1000) twoClusterRun =
        some (final, history) ∧
      ∀ sample ∈ samplesOf history, ((id sample.2 : Nat) : ℚ) ≤ 16000000000 :=
  have clock : ClockOrdered twoClusterRun := ⟨by decide, by decide⟩
  have numbers : NumbersConsecutive twoClusterRun := ⟨by decide, by decide⟩
  ⟨⟨roundsDown_bits, clock, numbers, windows_twoClusterRun⟩,
    samples_le_rate roundsDown_bits 1000 1000 1000 clock numbers windows_twoClusterRun⟩

end Runs

end StupidSimple.Bbr
