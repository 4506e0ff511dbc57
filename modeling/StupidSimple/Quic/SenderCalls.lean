import StupidSimple.Quic.AckRanges

/-!
Owns what the senders make of the calls of the framer: the calls they pass on to
their manager, and the entries that the video sender removes from `sent_queue_`.
`OnIncomingData` is the replay of the recorded calls of a datagram.
-/

namespace StupidSimple.Quic

open StupidSimple.Library MyQuicFramer

/-! ### Calls to the manager -/

/-- What a sender passes on to its manager, at the time of the last packet. -/
def managerCalls (ackReceiveTime : Nat) : List VisitorCall → List ManagerCall :=
  List.flatMap fun
    | .onAckFrameStart largestAcked ackDelayTime =>
        [.onAckFrameStart largestAcked ackDelayTime ackReceiveTime]
    | .onAckRange start stop lastRange =>
        .onAckRange start stop :: if lastRange then [.onAckFrameEnd ackReceiveTime] else []
    | _ => []

theorem managerCalls_append (ackReceiveTime : Nat) (first second : List VisitorCall) :
    managerCalls ackReceiveTime (first ++ second) =
      managerCalls ackReceiveTime first ++ managerCalls ackReceiveTime second :=
  List.flatMap_append

section Replay

variable (manager : QuicSentPacketManager)

/-- One call, as the manager sees it. -/
theorem AckState.onCall_sentPacketManager (call : VisitorCall) (state : AckState) :
    (state.onCall manager call).sentPacketManager =
        state.sentPacketManager ++ managerCalls state.timeOfLastReceivedPacket [call] ∧
      (state.onCall manager call).timeOfLastReceivedPacket = state.timeOfLastReceivedPacket := by
  cases call with
  | onAckFrameStart largestAcked ackDelayTime => exact ⟨rfl, rfl⟩
  | onAckRange start stop lastRange =>
      cases lastRange with
      | false => exact ⟨rfl, rfl⟩
      | true =>
          refine ⟨?_, rfl⟩
          simp [AckState.onCall, AckState.onAckRange, AckState.postProcessAfterAckFrame,
            managerCalls]
  | _ => exact ⟨(List.append_nil _).symm, rfl⟩

/-- Some calls, as the manager sees them. -/
theorem AckState.foldl_onCall (calls : List VisitorCall) (state : AckState) :
    let after := calls.foldl (fun state call => state.onCall manager call) state
    after.sentPacketManager =
        state.sentPacketManager ++ managerCalls state.timeOfLastReceivedPacket calls ∧
      after.timeOfLastReceivedPacket = state.timeOfLastReceivedPacket := by
  induction calls generalizing state with
  | nil => exact ⟨(List.append_nil _).symm, rfl⟩
  | cons call calls inductionHypothesis =>
      have ⟨told, sameTime⟩ := AckState.onCall_sentPacketManager manager call state
      have ⟨toldLater, sameTimeLater⟩ := inductionHypothesis (state.onCall manager call)
      rw [sameTime] at toldLater sameTimeLater
      refine ⟨?_, sameTimeLater⟩
      change (calls.foldl _ (state.onCall manager call)).sentPacketManager = _
      rw [toldLater, told, List.append_assoc, ← managerCalls_append, List.singleton_append]

theorem MyQuicSender.replay_acks (calls : List VisitorCall) (sender : MyQuicSender) :
    ((MyQuicSender.visitor manager).replay sender calls).acks =
      calls.foldl (fun state call => state.onCall manager call) sender.acks := by
  induction calls generalizing sender with
  | nil => rfl
  | cons call calls inductionHypothesis => exact inductionHypothesis _

theorem MyQuicVideoSender.onCall_acks (call : VisitorCall) (sender : MyQuicVideoSender) :
    (sender.onCall manager call).acks = sender.acks.onCall manager call := by
  cases call <;> rfl

theorem MyQuicVideoSender.replay_acks (calls : List VisitorCall) (sender : MyQuicVideoSender) :
    ((MyQuicVideoSender.visitor manager).replay sender calls).acks =
      calls.foldl (fun state call => state.onCall manager call) sender.acks := by
  induction calls generalizing sender with
  | nil => rfl
  | cons call calls inductionHypothesis =>
      rw [Visitor.replay_cons, inductionHypothesis]
      exact congrArg (calls.foldl _) (MyQuicVideoSender.onCall_acks manager call sender)

end Replay

/-! ### Entries that are removed -/

namespace MyQuicVideoSender

theorem mem_removeAckedPacket {seq : Nat} {sentQueue : OrderedMap Nat Nat} {entry : Nat × Nat} :
    entry ∈ (removeAckedPacket seq sentQueue).entries ↔
      entry ∈ sentQueue.entries ∧ entry.1 ≠ seq := by
  unfold removeAckedPacket
  split_ifs with stored
  · exact OrderedMap.mem_erase
  · have absent := OrderedMap.find?_eq_none.mp (not_not.mp stored)
    exact ⟨fun member => ⟨member, absent entry member⟩, And.left⟩

theorem mem_removeAckedPackets {count : Nat} {entry : Nat × Nat} :
    ∀ {start : Nat} {sentQueue : OrderedMap Nat Nat},
      entry ∈ (removeAckedPackets count start sentQueue).entries ↔
        entry ∈ sentQueue.entries ∧ ¬(start ≤ entry.1 ∧ entry.1 < start + count) := by
  induction count with
  | zero =>
      intro start sentQueue
      simp [removeAckedPackets]
  | succ count inductionHypothesis =>
      intro start sentQueue
      rw [removeAckedPackets, inductionHypothesis, mem_removeAckedPacket, and_assoc]
      have outside : (entry.1 ≠ start ∧ ¬(start + 1 ≤ entry.1 ∧ entry.1 < start + 1 + count)) ↔
          ¬(start ≤ entry.1 ∧ entry.1 < start + (count + 1)) := by omega
      rw [outside]

theorem acked_append {first second : List VisitorCall} {packetNumber : Nat} :
    Acked (first ++ second) packetNumber ↔
      Acked first packetNumber ∨ Acked second packetNumber := by
  simp only [Acked, List.mem_append]
  constructor
  · rintro ⟨start, stop, last, member | member, within⟩
    · exact Or.inl ⟨start, stop, last, member, within⟩
    · exact Or.inr ⟨start, stop, last, member, within⟩
  · rintro (⟨start, stop, last, member, within⟩ | ⟨start, stop, last, member, within⟩)
    · exact ⟨start, stop, last, Or.inl member, within⟩
    · exact ⟨start, stop, last, Or.inr member, within⟩

theorem acked_range {start stop : Nat} {last : Bool} {packetNumber : Nat} :
    Acked [.onAckRange start stop last] packetNumber ↔
      start ≤ packetNumber ∧ packetNumber < stop := by
  simp only [Acked, List.mem_singleton]
  constructor
  · rintro ⟨_, _, _, same, within⟩
    cases same
    exact within
  · intro within
    exact ⟨start, stop, last, rfl, within⟩

theorem not_acked_of_not_range {call : VisitorCall} (other : ¬call.IsAckRange)
    (packetNumber : Nat) : ¬Acked [call] packetNumber := by
  rintro ⟨start, stop, last, member, _⟩
  rw [← List.mem_singleton.mp member] at other
  exact other trivial

theorem mem_onCall_sentQueue (manager : QuicSentPacketManager) (call : VisitorCall)
    (sender : MyQuicVideoSender) (entry : Nat × Nat) :
    entry ∈ (sender.onCall manager call).sentQueue.entries ↔
      entry ∈ sender.sentQueue.entries ∧ ¬Acked [call] entry.1 := by
  by_cases range : call.IsAckRange
  · cases call with
    | onAckRange start stop last =>
        have removed : entry ∈
            (removeAckedPackets (stop - start) start sender.sentQueue).entries ↔ _ :=
          mem_removeAckedPackets
        rw [acked_range]
        refine removed.trans (and_congr_right fun _ => ?_)
        omega
    | _ => cases range
  · have kept : (sender.onCall manager call).sentQueue = sender.sentQueue := by
      cases call with
      | onAckRange start stop last => exact absurd trivial range
      | _ => rfl
    rw [kept]
    exact (and_iff_left (not_acked_of_not_range range entry.1)).symm

/-- The entries after some calls are those that no call acked. -/
theorem mem_replay_sentQueue (manager : QuicSentPacketManager) {calls : List VisitorCall}
    {entry : Nat × Nat} :
    ∀ {sender : MyQuicVideoSender},
      entry ∈ ((visitor manager).replay sender calls).sentQueue.entries ↔
        entry ∈ sender.sentQueue.entries ∧ ¬Acked calls entry.1 := by
  induction calls with
  | nil => simp [Acked]
  | cons call calls inductionHypothesis =>
      intro sender
      rw [Visitor.replay_cons, inductionHypothesis]
      change entry ∈ (sender.onCall manager call).sentQueue.entries ∧ _ ↔ _
      rw [mem_onCall_sentQueue, show call :: calls = [call] ++ calls from rfl, acked_append,
        not_or, and_assoc]

/-- A key is gone after some calls exactly when one of them acked it. -/
theorem find?_replay_sentQueue (manager : QuicSentPacketManager) {calls : List VisitorCall}
    {sender : MyQuicVideoSender} {packetNumber : Nat}
    (stored : sender.sentQueue.find? packetNumber ≠ none) :
    ((visitor manager).replay sender calls).sentQueue.find? packetNumber = none ↔
      Acked calls packetNumber := by
  have ⟨size, member⟩ := OrderedMap.find?_ne_none.mp stored
  constructor
  · intro gone
    by_contra unacked
    have kept := (mem_replay_sentQueue manager).mpr ⟨member, unacked⟩
    exact OrderedMap.find?_eq_none.mp gone _ kept rfl
  · intro acked
    apply OrderedMap.find?_eq_none.mpr
    rintro entry left rfl
    exact ((mem_replay_sentQueue manager).mp left).2 acked

/-- The queue is kept by calls that ack none of its keys, and only by them. -/
theorem replay_sentQueue_eq_iff (manager : QuicSentPacketManager) (calls : List VisitorCall)
    (sender : MyQuicVideoSender) :
    ((visitor manager).replay sender calls).sentQueue = sender.sentQueue ↔
      ∀ packetNumber, sender.sentQueue.find? packetNumber ≠ none → ¬Acked calls packetNumber := by
  constructor
  · intro kept packetNumber stored acked
    have ⟨size, member⟩ := OrderedMap.find?_ne_none.mp stored
    rw [← kept] at member
    exact ((mem_replay_sentQueue manager).mp member).2 acked
  · intro unacked
    apply OrderedMap.eq_of_mem_iff
    intro entry
    rw [mem_replay_sentQueue]
    refine and_iff_left_of_imp fun member => unacked entry.1 ?_
    exact OrderedMap.find?_ne_none.mpr ⟨entry.2, member⟩

end MyQuicVideoSender

/-! ### Incoming data -/

section Incoming

variable (env : FramerEnv) (manager : QuicSentPacketManager) (now : Nat) {data frames : List UInt8}

/-- The calls of a datagram, and what `ProcessFrameData` returns for it. -/
def recordFrames (frames : List UInt8) :
    Except (QuicErrorCode × String) Unit × Parsing (List VisitorCall) :=
  record env.io env.processFrameData frames

theorem MyQuicVideoSender.onIncomingData_eq (payload : framePayload data = some frames)
    (sender : MyQuicVideoSender) :
    sender.onIncomingData env manager now data =
      some ((recordFrames env frames).1,
        (visitor manager).replay (sender.received now) (recordFrames env frames).2.visitor) := by
  have run := run_eq_record env.io (visitor_tolerant manager) env.processFrameData
    ⟨frames, sender.received now⟩
  unfold onIncomingData
  rw [payload]
  change some (_, _) = _
  rw [run]
  rfl

theorem MyQuicSender.onIncomingData_eq (payload : framePayload data = some frames)
    (sender : MyQuicSender) :
    sender.onIncomingData env manager now data =
      some ((recordFrames env frames).1,
        (visitor manager).replay (sender.received now) (recordFrames env frames).2.visitor) := by
  have run := run_eq_record env.io (visitor_tolerant manager) env.processFrameData
    ⟨frames, sender.received now⟩
  unfold onIncomingData
  rw [payload]
  change some (_, _) = _
  rw [run]
  rfl

variable {now}

/-- Both senders pass the same calls on to their managers. -/
theorem MyQuicVideoSender.onIncomingData_sentPacketManager {sender after : MyQuicVideoSender}
    {result : Except (QuicErrorCode × String) Unit} (payload : framePayload data = some frames)
    (handled : sender.onIncomingData env manager now data = some (result, after)) :
    after.acks.sentPacketManager = sender.acks.sentPacketManager ++
      managerCalls now (recordFrames env frames).2.visitor := by
  rw [onIncomingData_eq env manager now payload] at handled
  cases handled
  rw [replay_acks]
  exact (AckState.foldl_onCall manager _ _).1

theorem MyQuicSender.onIncomingData_sentPacketManager {sender after : MyQuicSender}
    {result : Except (QuicErrorCode × String) Unit} (payload : framePayload data = some frames)
    (handled : sender.onIncomingData env manager now data = some (result, after)) :
    after.acks.sentPacketManager = sender.acks.sentPacketManager ++
      managerCalls now (recordFrames env frames).2.visitor := by
  rw [onIncomingData_eq env manager now payload] at handled
  cases handled
  rw [replay_acks]
  exact (AckState.foldl_onCall manager _ _).1

end Incoming

end StupidSimple.Quic
