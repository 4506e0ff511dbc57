import StupidSimple.Bbr.Sender

/-!
Owns the reference values of a cluster, read off the whole trace of a run and
not off the counters of the sender: the packets sent in it, the acks of those
packets that the sender accepts, and the bandwidth sample these determine.

An ack is accepted when its number is above that of every earlier ack. It is an
ack of a packet when the packet was sent before it.
-/

namespace StupidSimple.Bbr

open StupidSimple.Library

variable {Bandwidth Filter : Type}

/-- The events of a run, each with the calls it made. -/
abbrev History (Bandwidth : Type) := List (Event × List (Call Bandwidth))

/-- A packet as it was sent. -/
structure SentRecord where
  number : Nat
  time : QuicTime
  bytes : Nat
deriving DecidableEq, Repr

/-- The call hands a packet to the cluster at `ref`. -/
def Call.sendsIn (ref : ClusterRef) : Call Bandwidth → Bool
  | .clusterPacketSent cluster => cluster = ref
  | _ => false

/-- The packet that an event sends. -/
def Event.sentRecord : Event → Option SentRecord
  | packetSent time number bytes => some ⟨number, time, bytes⟩
  | ack _ _ _ => none

/-- The number that an event acks. -/
def Event.ackNumber : Event → Option Nat
  | packetSent _ _ _ => none
  | ack _ number _ => some number

/-- The packets sent in the cluster at `ref`, in order. -/
def sentIn (ref : ClusterRef) (history : History Bandwidth) : List SentRecord :=
  history.filterMap fun entry => if entry.2.any (Call.sendsIn ref) then entry.1.sentRecord else none

/-- The numbers of the acks of a run. -/
def ackNumbers (history : History Bandwidth) : List Nat :=
  history.filterMap fun entry => entry.1.ackNumber

/-- The ack of a packet: when it came, and the packet. -/
structure AckRecord where
  time : QuicTime
  packet : SentRecord
deriving DecidableEq, Repr

/-- The accepted acks of packets of the cluster at `ref`, in order. -/
def acksIn (ref : ClusterRef) : History Bandwidth → List AckRecord :=
  collect fun past entry =>
    match entry.1 with
    | .packetSent _ _ _ => []
    | .ack time number _ =>
        if ∀ earlier ∈ ackNumbers past, earlier < number then
          ((sentIn ref past).filter fun packet => packet.number = number).map (AckRecord.mk time)
        else []

/-- Bytes over a span of time that starts at the first and ends at the last of
these points. -/
def spanOf (times : List QuicTime) : Delta := times.getLastD 0 - times.headD 0

def sentBytes (packets : List SentRecord) : Nat := (packets.map (·.bytes)).sum

def ackedBytes (acks : List AckRecord) : Nat := (acks.map (·.packet.bytes)).sum

section Rates

variable (platform : Platform Bandwidth Filter)

/-- All bytes of a cluster over the time from its first to its last send. -/
def referenceSendRate (packets : List SentRecord) : Bandwidth :=
  if spanOf (packets.map (·.time)) = 0 then platform.infinite
  else platform.fromBytesAndTimeDelta (sentBytes packets) (spanOf (packets.map (·.time)))

/-- All acked bytes of a cluster over the time from its first to its last ack. -/
def referenceAckRate (acks : List AckRecord) : Bandwidth :=
  platform.fromBytesAndTimeDelta (ackedBytes acks) (spanOf (acks.map (·.time)))

/-- The reference value of a sample of the cluster at `ref`. -/
def referenceSample [LinearOrder Bandwidth] (ref : ClusterRef) (history : History Bandwidth) :
    Bandwidth :=
  min (referenceSendRate platform (sentIn ref history))
    (referenceAckRate platform (acksIn ref history))

end Rates

/-! ### One more event -/

section Snoc

variable (ref : ClusterRef) (history : History Bandwidth) (calls : List (Call Bandwidth))

@[simp] theorem sentIn_snoc_ack (time : QuicTime) (number draw : Nat) :
    sentIn ref (history ++ [(.ack time number draw, calls)]) = sentIn ref history := by
  simp [sentIn, Event.sentRecord]

theorem any_sendsIn (ref newest : ClusterRef) :
    ([.clusterPacketSent newest] : List (Call Bandwidth)).any (Call.sendsIn ref) =
      decide (newest = ref) := by
  simp [Call.sendsIn]

theorem sentIn_snoc_packetSent (time : QuicTime) (number bytes : Nat) :
    sentIn ref (history ++ [(.packetSent time number bytes, calls)]) =
      sentIn ref history ++
        if calls.any (Call.sendsIn ref) then [⟨number, time, bytes⟩] else [] := by
  rw [sentIn, List.filterMap_append]
  by_cases records : calls.any (Call.sendsIn ref)
  · simp only [List.filterMap_cons, if_pos records, Event.sentRecord, List.filterMap_nil]
    rfl
  · simp only [List.filterMap_cons, if_neg records, List.filterMap_nil]
    rfl

theorem sentIn_snoc_own (newest : ClusterRef) (time : QuicTime) (number bytes : Nat) :
    sentIn newest (history ++ [(.packetSent time number bytes, [.clusterPacketSent newest])]) =
      sentIn newest history ++ [⟨number, time, bytes⟩] := by
  rw [sentIn_snoc_packetSent, any_sendsIn, if_pos (by simp)]

theorem sentIn_snoc_other {newest ref : ClusterRef} (other : newest ≠ ref)
    (history : History Bandwidth) (time : QuicTime) (number bytes : Nat) :
    sentIn ref (history ++ [(.packetSent time number bytes, [.clusterPacketSent newest])]) =
      sentIn ref history := by
  rw [sentIn_snoc_packetSent, any_sendsIn, if_neg (by simpa using other), List.append_nil]

@[simp] theorem acksIn_snoc_packetSent (time : QuicTime) (number bytes : Nat) :
    acksIn ref (history ++ [(.packetSent time number bytes, calls)]) = acksIn ref history := by
  simp [acksIn, collect_snoc]

theorem acksIn_snoc_ack (time : QuicTime) (number draw : Nat) :
    acksIn ref (history ++ [(.ack time number draw, calls)]) =
      acksIn ref history ++
        if ∀ earlier ∈ ackNumbers history, earlier < number then
          ((sentIn ref history).filter fun packet => packet.number = number).map
            (AckRecord.mk time)
        else [] := by
  rw [acksIn, collect_snoc]

@[simp] theorem ackNumbers_snoc_packetSent (time : QuicTime) (number bytes : Nat) :
    ackNumbers (history ++ [(.packetSent time number bytes, calls)]) = ackNumbers history := by
  simp [ackNumbers, Event.ackNumber]

@[simp] theorem ackNumbers_snoc_ack (time : QuicTime) (number draw : Nat) :
    ackNumbers (history ++ [(.ack time number draw, calls)]) = ackNumbers history ++ [number] := by
  simp [ackNumbers, Event.ackNumber]

end Snoc

/-! ### Where the records come from -/

section Members

variable {ref : ClusterRef} {history : History Bandwidth}

theorem exists_of_mem_sentIn {packet : SentRecord} (member : packet ∈ sentIn ref history) :
    ∃ entry ∈ history, entry.1 = .packetSent packet.time packet.number packet.bytes := by
  rcases List.mem_filterMap.mp member with ⟨entry, inHistory, found⟩
  refine ⟨entry, inHistory, ?_⟩
  split at found
  · cases event : entry.1 with
    | packetSent time number bytes =>
        rw [event, Event.sentRecord, Option.some.injEq] at found
        rw [← found]
    | ack time number draw => simp [event, Event.sentRecord] at found
  · contradiction

theorem mem_acksIn {ack : AckRecord} (member : ack ∈ acksIn ref history) :
    ack.packet ∈ sentIn ref history ∧ ack.packet.number ∈ ackNumbers history ∧
      ∃ entry ∈ history, entry.1.time = ack.time := by
  induction history using List.reverseRecOn with
  | nil => simp [acksIn] at member
  | append_singleton history entry inductionHypothesis =>
      rcases entry with ⟨event, calls⟩
      have kept : ack ∈ acksIn ref history → ack.packet ∈ sentIn ref (history ++ [(event, calls)]) ∧
          ack.packet.number ∈ ackNumbers (history ++ [(event, calls)]) ∧
          ∃ entry ∈ history ++ [(event, calls)], entry.1.time = ack.time := by
        intro earlier
        rcases inductionHypothesis earlier with ⟨sent, number, entry, inHistory, sameTime⟩
        refine ⟨?_, ?_, entry, List.mem_append_left _ inHistory, sameTime⟩
        · rw [sentIn, List.filterMap_append]
          exact List.mem_append_left _ sent
        · rw [ackNumbers, List.filterMap_append]
          exact List.mem_append_left _ number
      cases event with
      | packetSent time number bytes =>
          rw [acksIn_snoc_packetSent] at member
          exact kept member
      | ack time number draw =>
          rw [acksIn_snoc_ack] at member
          rcases List.mem_append.mp member with earlier | new
          · exact kept earlier
          · split at new
            · rcases List.mem_map.mp new with ⟨packet, found, rfl⟩
              rcases List.mem_filter.mp found with ⟨sent, sameNumber⟩
              have same : packet.number = number := by simpa using sameNumber
              exact ⟨by simpa using sent, by simp [same], (.ack time number draw, calls), by simp,
                rfl⟩
            · simp at new

/-- A cluster without a packet has no ack. -/
theorem acksIn_eq_nil (empty : sentIn ref history = []) : acksIn ref history = [] := by
  apply List.eq_nil_iff_forall_not_mem.mpr
  intro ack member
  have sent := (mem_acksIn member).1
  rw [empty] at sent
  simp at sent

theorem sentIn_sublist (ref : ClusterRef) (history : History Bandwidth) :
    (sentIn ref history).Sublist ((history.map Prod.fst).filterMap Event.sentRecord) := by
  induction history using List.reverseRecOn with
  | nil => exact List.Sublist.slnil
  | append_singleton history entry inductionHypothesis =>
      rcases entry with ⟨event, calls⟩
      rw [List.map_append, List.filterMap_append]
      cases event with
      | ack time number draw =>
          rw [sentIn_snoc_ack]
          exact inductionHypothesis.trans (List.sublist_append_left _ _)
      | packetSent time number bytes =>
          rw [sentIn_snoc_packetSent]
          apply inductionHypothesis.append
          split
          · exact List.Sublist.refl _
          · exact List.nil_sublist _

theorem map_number_sentRecord (events : List Event) :
    (events.filterMap Event.sentRecord).map (·.number) = events.filterMap Event.sentNumber := by
  rw [List.map_filterMap]
  apply List.filterMap_congr
  intro event _
  cases event <;> rfl

theorem map_time_sentRecord_sublist (events : List Event) :
    ((events.filterMap Event.sentRecord).map (·.time)).Sublist (events.map Event.time) := by
  induction events with
  | nil => exact List.Sublist.slnil
  | cons event rest inductionHypothesis =>
      cases event with
      | packetSent time number bytes => exact inductionHypothesis.cons_cons time
      | ack time number draw => exact inductionHypothesis.cons time

theorem sentIn_numbers_sublist (ref : ClusterRef) (history : History Bandwidth) :
    ((sentIn ref history).map (·.number)).Sublist
      ((history.map Prod.fst).filterMap Event.sentNumber) := by
  rw [← map_number_sentRecord]
  exact (sentIn_sublist ref history).map _

theorem sentIn_times_sublist (ref : ClusterRef) (history : History Bandwidth) :
    ((sentIn ref history).map (·.time)).Sublist ((history.map Prod.fst).map Event.time) :=
  ((sentIn_sublist ref history).map _).trans (map_time_sentRecord_sublist _)

end Members

end StupidSimple.Bbr
