import StupidSimple.Bbr.Bookkeeping
import StupidSimple.Bbr.Trace

/-!
Owns the relation between one cluster object and its reference values:
`Matches packets acks cluster` says that the object holds what the trace gives
for it, and `Matches.sent`, `Matches.acked` and `Matches.sample_eq` are the two
updates and the sample. `NumbersConsecutive` is the numbering of the callers,
under which the offset lookup of `OnAck` finds the acked packet.
-/

namespace StupidSimple.Bbr

open StupidSimple.Library

variable {Bandwidth Filter : Type}

/-- The time of the ack of packet `number`, or zero. -/
def ackTimeOf (acks : List AckRecord) (number : Nat) : QuicTime :=
  ((acks.find? fun ack => ack.packet.number = number).map (·.time)).getD 0

/-- The entries of `packet_infos_` that a trace gives. -/
def infosOf (packets : List SentRecord) (acks : List AckRecord) : List SentPacketInfo :=
  packets.map fun packet =>
    ⟨packet.number, packet.time, ackTimeOf acks packet.number, packet.bytes⟩

/-- A cluster object holds what the trace says about it. -/
structure Matches (packets : List SentRecord) (acks : List AckRecord)
    (cluster : SentClusterInfo Bandwidth) : Prop where
  infos : cluster.packetInfos = infosOf packets acks
  sentPackets : cluster.sentPackets = sentBytes packets
  ackedPackets : cluster.ackedPackets = ackedBytes acks
  firstSendTs : cluster.firstSendTs = (packets.map (·.time)).headD 0
  lastSendTs : cluster.lastSendTs = (packets.map (·.time)).getLastD 0
  firstAckTs : cluster.firstAckTs = (acks.map (·.time)).headD 0
  lastAckTs : cluster.lastAckTs = (acks.map (·.time)).getLastD 0

/-- Packets with consecutive numbers. -/
def Consecutive (packets : List SentRecord) : Prop :=
  ∃ first, packets.map (·.number) = List.range' first packets.length

theorem Consecutive.snoc {packets : List SentRecord} {count : Nat}
    (consecutive : Consecutive packets)
    (last : (packets.map (·.number)).getLast? = some count) (time : QuicTime) (bytes : Nat) :
    Consecutive (packets ++ [⟨count + 1, time, bytes⟩]) := by
  rcases consecutive with ⟨first, numbers⟩
  rw [numbers, List.getLast?_range'] at last
  split at last
  · contradiction
  · have sameCount := Option.some.inj last
    refine ⟨first, ?_⟩
    rw [List.map_append, numbers, List.length_append, List.length_singleton, List.range'_1_concat]
    simp only [List.map_singleton]
    congr 2
    omega

/-- The span of ordered times is not negative. -/
theorem spanOf_nonneg {times : List QuicTime} (ordered : times.Pairwise (· ≤ ·)) :
    0 ≤ spanOf times := by
  cases times with
  | nil => simp [spanOf]
  | cons first rest =>
      have last : (first :: rest).getLastD 0 ∈ first :: rest := by
        rw [List.getLastD_eq_getLast?, List.getLast?_eq_getLast_of_ne_nil (by simp)]
        exact List.getLast_mem _
      rw [spanOf]
      rcases List.mem_cons.mp last with same | later
      · rw [same]
        simp
      · exact Int.sub_nonneg.mpr ((List.pairwise_cons.mp ordered).1 _ later)

namespace Matches

variable {packets : List SentRecord} {acks : List AckRecord} {cluster : SentClusterInfo Bandwidth}

theorem created (id : Nat) (zero : Bandwidth) : Matches [] [] (SentClusterInfo.create id zero) :=
  ⟨rfl, rfl, rfl, rfl, rfl, rfl, rfl⟩

theorem with_bw (matched : Matches packets acks cluster) (bw : Bandwidth) :
    Matches packets acks { cluster with bw := bw } :=
  ⟨matched.infos, matched.sentPackets, matched.ackedPackets, matched.firstSendTs,
    matched.lastSendTs, matched.firstAckTs, matched.lastAckTs⟩

theorem numbers (matched : Matches packets acks cluster) :
    cluster.numbers = packets.map (·.number) := by
  rw [SentClusterInfo.numbers, matched.infos, infosOf, List.map_map]
  rfl

/-- First and last of a list of positive times, one time longer. -/
private theorem stamps_snoc {times : List QuicTime} (positive : ∀ time ∈ times, 0 < time)
    (now : QuicTime) :
    (times ++ [now]).headD 0 = (if times.headD 0 = 0 then now else times.headD 0) ∧
      (times ++ [now]).getLastD 0 = now := by
  refine ⟨?_, List.getLastD_concat ..⟩
  cases times with
  | nil => simp
  | cons first rest =>
      have notZero : first ≠ 0 := (positive first (by simp)).ne'
      simp [notZero]

theorem sent (matched : Matches packets acks cluster) (positive : ∀ packet ∈ packets, 0 < packet.time)
    {number : Nat} (unacked : ∀ ack ∈ acks, ack.packet.number ≠ number) (now : QuicTime)
    (bytes : Nat) :
    Matches (packets ++ [⟨number, now, bytes⟩]) acks (cluster.onPacketSent now number bytes) := by
  have times : ∀ time ∈ packets.map (·.time), 0 < time := List.forall_mem_map.mpr positive
  have noAck : ackTimeOf acks number = 0 := by
    have absent : acks.find? (fun ack => ack.packet.number = number) = none := by
      apply List.find?_eq_none.mpr
      intro ack member
      simpa using unacked ack member
    rw [ackTimeOf, absent]
    rfl
  refine ⟨?_, ?_, matched.ackedPackets, ?_, ?_, matched.firstAckTs, matched.lastAckTs⟩
  · simp [SentClusterInfo.onPacketSent, matched.infos, infosOf, noAck]
  · simp [SentClusterInfo.onPacketSent, matched.sentPackets, sentBytes]
  · rw [List.map_append, List.map_singleton, (stamps_snoc times now).1, ← matched.firstSendTs]
    rfl
  · rw [List.map_append, List.map_singleton, (stamps_snoc times now).2]
    rfl

theorem ackTimeOf_snoc {time : QuicTime} {packet : SentRecord}
    (unacked : ∀ ack ∈ acks, ack.packet.number ≠ packet.number) (number : Nat) :
    ackTimeOf (acks ++ [⟨time, packet⟩]) number =
      if number = packet.number then time else ackTimeOf acks number := by
  rw [ackTimeOf, List.find?_append]
  by_cases same : number = packet.number
  · have absent : acks.find? (fun ack => ack.packet.number = number) = none := by
      apply List.find?_eq_none.mpr
      intro ack member
      simpa [same] using unacked ack member
    rw [absent, if_pos same]
    simp [same]
  · rw [if_neg same, ackTimeOf]
    have different : ¬packet.number = number := fun equal => same equal.symm
    simp [different]

theorem number_of_getElem {first index : Nat} {packet : SentRecord}
    (consecutive : packets.map (·.number) = List.range' first packets.length)
    (found : packets[index]? = some packet) : packet.number = first + index := by
  obtain ⟨below, rfl⟩ := List.getElem?_eq_some_iff.mp found
  have same := congrArg (fun numbers => numbers[index]?) consecutive
  simpa [below] using same

/-- The packet with a given number stands at its offset from the first one. -/
theorem getElem_of_number {first : Nat} {packet : SentRecord}
    (consecutive : packets.map (·.number) = List.range' first packets.length)
    (member : packet ∈ packets) :
    first ≤ packet.number ∧ packets[packet.number - first]? = some packet := by
  obtain ⟨index, found⟩ := List.mem_iff_getElem?.mp member
  have number := number_of_getElem consecutive found
  rw [number, Nat.add_sub_cancel_left]
  exact ⟨Nat.le_add_right first index, found⟩

/-- Recording the ack of the packet at one offset is one write to `packet_infos_`. -/
theorem infosOf_set {first : Nat} {time : QuicTime} {packet : SentRecord}
    (consecutive : packets.map (·.number) = List.range' first packets.length)
    (member : packet ∈ packets) (unacked : ∀ ack ∈ acks, ack.packet.number ≠ packet.number) :
    (infosOf packets acks).set (packet.number - first)
        ⟨packet.number, packet.time, time, packet.bytes⟩ =
      infosOf packets (acks ++ [⟨time, packet⟩]) := by
  obtain ⟨above, located⟩ := getElem_of_number consecutive member
  apply List.ext_getElem?
  intro index
  rw [List.getElem?_set]
  cases found : packets[index]? with
  | none =>
      have beyond : packets.length ≤ index := List.getElem?_eq_none_iff.mp found
      have inside : packet.number - first < packets.length :=
        (List.getElem?_eq_some_iff.mp located).1
      rw [if_neg (by omega)]
      simp [infosOf, found]
  | some other =>
      have otherNumber := number_of_getElem consecutive found
      by_cases here : packet.number - first = index
      · subst here
        obtain rfl := Option.some.inj (located.symm.trans found)
        have below : packet.number - first < (infosOf packets acks).length := by
          simpa [infosOf] using (List.getElem?_eq_some_iff.mp found).1
        rw [if_pos rfl, if_pos below]
        simp [infosOf, found, ackTimeOf_snoc unacked]
      · have different : other.number ≠ packet.number := by omega
        rw [if_neg here]
        simp [infosOf, found, ackTimeOf_snoc unacked, different]

theorem acked (matched : Matches packets acks cluster) (consecutive : Consecutive packets)
    {packet : SentRecord} (member : packet ∈ packets) (narrow : packet.number < 2 ^ 32)
    (positive : ∀ ack ∈ acks, 0 < ack.time)
    (unacked : ∀ ack ∈ acks, ack.packet.number ≠ packet.number) (now : QuicTime) :
    Matches packets (acks ++ [⟨now, packet⟩]) (cluster.acked now packet.number) := by
  obtain ⟨first, numbers⟩ := consecutive
  obtain ⟨above, located⟩ := getElem_of_number numbers member
  have times : ∀ time ∈ acks.map (·.time), 0 < time := List.forall_mem_map.mpr positive
  have headNumber : cluster.numbers.headD 0 = first := by
    rw [matched.numbers, numbers]
    cases packets with
    | nil => simp at member
    | cons head rest => simp [List.range'_succ]
  have offset : (packet.number - first) % 2 ^ 32 = packet.number - first :=
    Nat.mod_eq_of_lt (by omega)
  have target : cluster.packetInfos[packet.number - first]? =
      some ⟨packet.number, packet.time, ackTimeOf acks packet.number, packet.bytes⟩ := by
    simp [matched.infos, infosOf, located]
  have credited : cluster.acked now packet.number =
      { cluster.stampAck now with
        packetInfos := cluster.packetInfos.set (packet.number - first)
          ⟨packet.number, packet.time, now, packet.bytes⟩
        ackedPackets := cluster.ackedPackets + packet.bytes } := by
    rw [SentClusterInfo.acked, SentClusterInfo.creditAck, headNumber, if_pos above]
    simp only [offset, SentClusterInfo.stampAck, target]
  rw [credited]
  refine ⟨?_, matched.sentPackets, ?_, matched.firstSendTs, matched.lastSendTs, ?_, ?_⟩
  · rw [← infosOf_set numbers member unacked, ← matched.infos]
  · simp [matched.ackedPackets, ackedBytes]
  · rw [List.map_append, List.map_singleton, (stamps_snoc times now).1, ← matched.firstAckTs]
    rfl
  · rw [List.map_append, List.map_singleton, (stamps_snoc times now).2]
    rfl

/-- The first ack time tells whether there was an ack. -/
theorem firstAckTs_eq_zero (matched : Matches packets acks cluster)
    (positive : ∀ ack ∈ acks, 0 < ack.time) : cluster.firstAckTs = 0 ↔ acks = [] := by
  rw [matched.firstAckTs]
  cases acks with
  | nil => simp
  | cons first rest => simpa using (positive first List.mem_cons_self).ne'

/-- The sample of an object is the reference value of its trace. -/
theorem sample_eq [LinearOrder Bandwidth] (matched : Matches packets acks cluster)
    (ordered : (packets.map (·.time)).Pairwise (· ≤ ·)) (platform : Platform Bandwidth Filter) :
    cluster.sample platform =
      min (referenceSendRate platform packets) (referenceAckRate platform acks) := by
  have spanSent : cluster.lastSendTs - cluster.firstSendTs = spanOf (packets.map (·.time)) := by
    rw [matched.firstSendTs, matched.lastSendTs, spanOf]
  have spanAcked : cluster.lastAckTs - cluster.firstAckTs = spanOf (acks.map (·.time)) := by
    rw [matched.firstAckTs, matched.lastAckTs, spanOf]
  have nonnegative : 0 ≤ spanOf (packets.map (·.time)) := spanOf_nonneg ordered
  have positiveIff : cluster.firstSendTs < cluster.lastSendTs ↔ 0 < spanOf (packets.map (·.time)) := by
    rw [← spanSent]
    exact Int.sub_pos.symm
  have sendRate : cluster.sendRate platform = referenceSendRate platform packets := by
    rw [SentClusterInfo.sendRate, referenceSendRate, spanSent, matched.sentPackets]
    by_cases instant : spanOf (packets.map (·.time)) = 0
    · rw [if_pos instant, if_neg (fun later => (positiveIff.mp later).ne' instant)]
    · rw [if_neg instant, if_pos (positiveIff.mpr (lt_of_le_of_ne nonnegative (Ne.symm instant)))]
  rw [SentClusterInfo.sample, sendRate, SentClusterInfo.ackRate, spanAcked, matched.ackedPackets]
  rfl

end Matches

/-! ### Admissible traces -/

theorem sentNumbers_snoc_ack (history : History Bandwidth) (calls : List (Call Bandwidth))
    (time : QuicTime) (number draw : Nat) :
    ((history ++ [(Event.ack time number draw, calls)]).map Prod.fst).filterMap Event.sentNumber =
      (history.map Prod.fst).filterMap Event.sentNumber := by
  rw [List.map_append, List.filterMap_append]
  exact List.append_nil _

/-- The packets of a cluster are sent in the order of the clock. -/
theorem ClockOrdered.sentIn_ordered {history : History Bandwidth}
    (clock : ClockOrdered (history.map Prod.fst)) (ref : ClusterRef) :
    ((sentIn ref history).map (·.time)).Pairwise (· ≤ ·) :=
  (List.pairwise_map.mpr clock.monotone).sublist (sentIn_times_sublist ref history)

/-- The packets of a cluster are acked in the order of the clock. -/
theorem ClockOrdered.acksIn_ordered {history : History Bandwidth}
    (clock : ClockOrdered (history.map Prod.fst)) (ref : ClusterRef) :
    ((acksIn ref history).map (·.time)).Pairwise (· ≤ ·) := by
  induction history using List.reverseRecOn with
  | nil => exact List.Pairwise.nil
  | append_singleton history entry inductionHypothesis =>
      rcases entry with ⟨event, calls⟩
      rw [List.map_append, List.map_singleton] at clock
      have earlier := inductionHypothesis clock.restrict
      cases event with
      | packetSent time number bytes =>
          rw [acksIn_snoc_packetSent]
          exact earlier
      | ack time number draw =>
          rw [acksIn_snoc_ack, List.map_append, List.pairwise_append]
          have added : ∀ late ∈ (if ∀ earlier ∈ ackNumbers history, earlier < number then
              ((sentIn ref history).filter fun packet => packet.number = number).map
                (AckRecord.mk time)
            else []).map (·.time), late = time := by
            intro late member
            split at member
            · rcases List.mem_map.mp member with ⟨ack, inside, rfl⟩
              rcases List.mem_map.mp inside with ⟨packet, -, rfl⟩
              rfl
            · simp at member
          refine ⟨earlier, ?_, ?_⟩
          · apply List.pairwise_of_forall_mem_list
            intro left leftMember right rightMember
            rw [added left leftMember, added right rightMember]
          · intro before beforeMember late lateMember
            rw [added late lateMember]
            rcases List.mem_map.mp beforeMember with ⟨ack, inside, rfl⟩
            rcases (mem_acksIn inside).2.2 with ⟨entry, inHistory, sameTime⟩
            rw [← sameTime]
            exact (List.pairwise_append.mp clock.monotone).2.2 entry.1
              (List.mem_map_of_mem inHistory) _ (List.mem_singleton_self _)

/-- Packets are numbered 1, 2, 3, ... by a caller whose counter is a `uint32_t`. -/
structure NumbersConsecutive (events : List Event) : Prop where
  consecutive : events.filterMap Event.sentNumber =
    List.range' 1 (events.filterMap Event.sentNumber).length
  narrow : (events.filterMap Event.sentNumber).length < 2 ^ 32

namespace NumbersConsecutive

variable {events : List Event} {event : Event}

theorem increase (numbers : NumbersConsecutive events) : NumbersIncrease events := by
  rw [NumbersIncrease, numbers.consecutive]
  exact List.pairwise_lt_range'

/-- The number of a new packet follows the count of those before it. -/
theorem restrict_sent {time : QuicTime} {number bytes : Nat}
    (numbers : NumbersConsecutive (events ++ [.packetSent time number bytes])) :
    NumbersConsecutive events ∧ number = (events.filterMap Event.sentNumber).length + 1 := by
  rcases numbers with ⟨consecutive, narrow⟩
  have split : (events ++ [Event.packetSent time number bytes]).filterMap Event.sentNumber =
      events.filterMap Event.sentNumber ++ [number] := by
    simp [Event.sentNumber]
  rw [split, List.length_append, List.length_singleton] at narrow
  rw [split, List.length_append, List.length_singleton, List.range'_1_concat] at consecutive
  rcases List.append_inj' consecutive rfl with ⟨earlier, last⟩
  refine ⟨⟨earlier, by omega⟩, ?_⟩
  have := List.singleton_inj.mp last
  omega

theorem restrict (numbers : NumbersConsecutive (events ++ [event])) :
    NumbersConsecutive events := by
  cases event with
  | packetSent time number bytes => exact numbers.restrict_sent.1
  | ack time number draw =>
      rcases numbers with ⟨consecutive, narrow⟩
      have same : (events ++ [Event.ack time number draw]).filterMap Event.sentNumber =
          events.filterMap Event.sentNumber := by
        simp [Event.sentNumber]
      rw [same] at consecutive narrow
      exact ⟨consecutive, narrow⟩

/-- The packets of a cluster have distinct numbers, from 1 to the count sent. -/
theorem sentIn_number {history : History Bandwidth}
    (numbers : NumbersConsecutive (history.map Prod.fst)) {ref : ClusterRef} {packet : SentRecord}
    (member : packet ∈ sentIn ref history) : 1 ≤ packet.number ∧
      packet.number ≤ ((history.map Prod.fst).filterMap Event.sentNumber).length := by
  have inside := (sentIn_numbers_sublist ref history).subset (List.mem_map_of_mem member)
  rw [numbers.consecutive, List.mem_range'_1] at inside
  omega

/-- The packets with one number are one packet. -/
theorem filter_number {history : History Bandwidth}
    (numbers : NumbersConsecutive (history.map Prod.fst)) {ref : ClusterRef} {packet : SentRecord}
    (member : packet ∈ sentIn ref history) :
    ((sentIn ref history).filter fun other => other.number = packet.number) = [packet] := by
  have increasing := numbers.increase.sublist (sentIn_numbers_sublist ref history)
  rw [List.pairwise_map] at increasing
  rcases List.append_of_mem member with ⟨before, behind, split⟩
  rw [split, List.pairwise_append, List.pairwise_cons] at increasing
  rcases increasing with ⟨-, ⟨above, -⟩, below⟩
  have noneBefore : before.filter (fun other => other.number = packet.number) = [] := by
    apply List.filter_eq_nil_iff.mpr
    intro other early
    have := below other early packet (by simp)
    simp only [decide_eq_true_eq]
    omega
  have noneBehind : behind.filter (fun other => other.number = packet.number) = [] := by
    apply List.filter_eq_nil_iff.mpr
    intro other late
    have := above other late
    simp only [decide_eq_true_eq]
    omega
  rw [split, List.filter_append, noneBefore, List.filter_cons_of_pos (by simp), noneBehind]
  rfl

/-- Accepted acks have increasing numbers, so no packet is credited twice. -/
theorem acksIn_increasing {history : History Bandwidth}
    (numbers : NumbersConsecutive (history.map Prod.fst)) (ref : ClusterRef) :
    ((acksIn ref history).map (·.packet.number)).Pairwise (· < ·) := by
  induction history using List.reverseRecOn with
  | nil => exact List.Pairwise.nil
  | append_singleton history entry inductionHypothesis =>
      rcases entry with ⟨event, calls⟩
      rw [List.map_append, List.map_singleton] at numbers
      have earlier := inductionHypothesis numbers.restrict
      cases event with
      | packetSent time number bytes =>
          rw [acksIn_snoc_packetSent]
          exact earlier
      | ack time number draw =>
          rw [acksIn_snoc_ack]
          split
          · next newest =>
              rw [List.map_append, List.pairwise_append]
              refine ⟨earlier, ?_, ?_⟩
              · by_cases found : ∃ packet ∈ sentIn ref history, packet.number = number
                · rcases found with ⟨packet, sent, rfl⟩
                  rw [numbers.restrict.filter_number sent]
                  exact List.pairwise_singleton _ _
                · have none : (sentIn ref history).filter (fun packet => packet.number = number) =
                      [] := by
                    apply List.filter_eq_nil_iff.mpr
                    intro packet sent same
                    exact found ⟨packet, sent, by simpa using same⟩
                  rw [none]
                  exact List.Pairwise.nil
              · intro old oldMember last lastMember
                rcases List.mem_map.mp oldMember with ⟨ack, inside, rfl⟩
                rcases List.mem_map.mp lastMember with ⟨added, new, rfl⟩
                rcases List.mem_map.mp new with ⟨packet, sent, rfl⟩
                have same : packet.number = number := by simpa using (List.mem_filter.mp sent).2
                rw [same]
                exact newest _ (mem_acksIn inside).2.1
          · rw [List.append_nil]
            exact earlier

end NumbersConsecutive

end StupidSimple.Bbr
