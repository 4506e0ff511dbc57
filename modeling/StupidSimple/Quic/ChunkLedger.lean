import StupidSimple.Quic.AckRoundTrip
import StupidSimple.Quic.VideoSender

/-!
Owns the ledger of chunks of `MyQuicVideoSender`: whatever the order of its
activities, a chunk that was queued waits in `pending_queue_`, is stored in
`sent_queue_`, or has been removed by an ack, and never twice.
-/

namespace StupidSimple.Quic

open StupidSimple.Library

/-! ### Views of the events -/

def queuedChunks : List VideoEvent → List Nat :=
  List.filterMap fun
    | .queued chunk => some chunk
    | _ => none

def removedChunks : List VideoEvent → List Nat :=
  List.filterMap fun
    | .removed _ chunk => some chunk
    | _ => none

/-- The chunks that are transmitted for the first time. -/
def dataChunks : List VideoEvent → List Nat :=
  List.filterMap fun
    | .transmitted (.stream (.data chunk) _ _ _) => some chunk
    | _ => none

@[simp] theorem queuedChunks_append (first second : List VideoEvent) :
    queuedChunks (first ++ second) = queuedChunks first ++ queuedChunks second :=
  List.filterMap_append

@[simp] theorem removedChunks_append (first second : List VideoEvent) :
    removedChunks (first ++ second) = removedChunks first ++ removedChunks second :=
  List.filterMap_append

@[simp] theorem dataChunks_append (first second : List VideoEvent) :
    dataChunks (first ++ second) = dataChunks first ++ dataChunks second :=
  List.filterMap_append

@[simp] theorem queuedChunks_queued (chunks : List Nat) :
    queuedChunks (chunks.map .queued) = chunks := by
  rw [queuedChunks, List.filterMap_map]
  exact List.filterMap_some

@[simp] theorem removedChunks_queued (chunks : List Nat) :
    removedChunks (chunks.map .queued) = [] := by
  simp [removedChunks, List.filterMap_map]

@[simp] theorem dataChunks_queued (chunks : List Nat) : dataChunks (chunks.map .queued) = [] := by
  simp [dataChunks, List.filterMap_map]

/-- The events of entries that acks remove. -/
def removals (entries : List (Nat × Nat)) : List VideoEvent :=
  entries.map fun entry => .removed entry.1 entry.2

@[simp] theorem queuedChunks_removals (entries : List (Nat × Nat)) :
    queuedChunks (removals entries) = [] := by
  simp [removals, queuedChunks, List.filterMap_map]

@[simp] theorem removedChunks_removals (entries : List (Nat × Nat)) :
    removedChunks (removals entries) = entries.map Prod.snd := by
  rw [removals, removedChunks, List.filterMap_map, ← List.filterMap_eq_map]
  rfl

@[simp] theorem dataChunks_removals (entries : List (Nat × Nat)) :
    dataChunks (removals entries) = [] := by
  simp [removals, dataChunks, List.filterMap_map]

/-! ### The ledger -/

namespace MyQuicVideoSender

/-- The chunks that wait for an ack. -/
def sentChunks (sender : MyQuicVideoSender) : List Nat := sender.sentQueue.entries.map Prod.snd

/-- The events account for the chunks of a sender. -/
structure Conserved (events : List VideoEvent) (sender : MyQuicVideoSender) : Prop where
  chunks : (queuedChunks events).Perm
    (sender.pendingQueue ++ sender.sentChunks ++ removedChunks events)
  keys_lt : ∀ entry ∈ sender.sentQueue.entries, entry.1 < sender.seq
  in_order : queuedChunks events = dataChunks events ++ sender.pendingQueue

variable {events : List VideoEvent} {sender : MyQuicVideoSender}

theorem Conserved.initial (now : Nat) : Conserved [] (create now) where
  chunks := List.Perm.refl _
  keys_lt _ member := absurd member List.not_mem_nil
  in_order := rfl

/-- The number of the next packet is not in use. -/
theorem Conserved.fresh (conserved : Conserved events sender) :
    sender.sentQueue.find? sender.seq = none :=
  OrderedMap.find?_eq_none.mpr fun entry member => (conserved.keys_lt entry member).ne

/-- An activity that handles no chunk and does not reuse numbers. -/
theorem Conserved.of_untouched {after : MyQuicVideoSender} {later : List VideoEvent}
    (conserved : Conserved events sender) (samePending : after.pendingQueue = sender.pendingQueue)
    (sameSent : after.sentQueue = sender.sentQueue) (seq_le : sender.seq ≤ after.seq)
    (noneQueued : queuedChunks later = []) (noneRemoved : removedChunks later = [])
    (noneSent : dataChunks later = []) : Conserved (events ++ later) after where
  chunks := by
    have chunks := conserved.chunks
    rw [queuedChunks_append, removedChunks_append, noneQueued, noneRemoved, List.append_nil,
      List.append_nil, samePending, sentChunks, sameSent]
    exact chunks
  keys_lt := by
    rw [sameSent]
    exact fun entry member => (conserved.keys_lt entry member).trans_le seq_le
  in_order := by
    have in_order := conserved.in_order
    rw [queuedChunks_append, dataChunks_append, noneQueued, noneSent, List.append_nil,
      List.append_nil, samePending]
    exact in_order

/-! ### One activity -/

theorem Conserved.queueFrame {frameLen : Int} {after : MyQuicVideoSender}
    {later : List VideoEvent} (conserved : Conserved events sender)
    (stepped : sender.queueFrame frameLen = some (after, later)) :
    Conserved (events ++ later) after := by
  have ⟨chunks, _, same⟩ := Option.bind_eq_some_iff.mp stepped
  cases same
  constructor
  · have before := conserved.chunks
    rw [queuedChunks_append, removedChunks_append, queuedChunks_queued, removedChunks_queued,
      List.append_nil]
    have moved : ((sender.pendingQueue ++ sender.sentChunks ++ removedChunks events) ++
        chunks).Perm ((sender.pendingQueue ++ chunks) ++ sender.sentChunks ++
          removedChunks events) := by
      simp only [List.append_assoc]
      apply List.Perm.append_left
      rw [← List.append_assoc]
      exact List.perm_append_comm
    exact (before.append_right chunks).trans moved
  · exact conserved.keys_lt
  · have before := conserved.in_order
    rw [queuedChunks_append, dataChunks_append, queuedChunks_queued, dataChunks_queued,
      List.append_nil, before, List.append_assoc]

theorem Conserved.sendFakePacket (io : QuicData) (now : Nat)
    (conserved : Conserved events sender) :
    Conserved (events ++ (sender.sendFakePacket io now).2) (sender.sendFakePacket io now).1 := by
  unfold MyQuicVideoSender.sendFakePacket
  cases pending : sender.pendingQueue with
  | nil =>
      rw [List.append_nil]
      exact conserved
  | cons chunk rest =>
      have stored : ((sender.sentQueue.insert sender.seq chunk).entries.map Prod.snd).Perm
          (chunk :: sender.sentChunks) :=
        (OrderedMap.entries_insert_perm conserved.fresh).map Prod.snd
      have before := conserved.chunks
      have ordered := conserved.in_order
      rw [pending] at before ordered
      constructor
      · rw [queuedChunks_append, removedChunks_append]
        change (queuedChunks events ++ []).Perm
          (rest ++ (sender.sentQueue.insert sender.seq chunk).entries.map Prod.snd ++
            (removedChunks events ++ []))
        rw [List.append_nil, List.append_nil]
        have moved : (chunk :: rest ++ sender.sentChunks).Perm
            (rest ++ (sender.sentQueue.insert sender.seq chunk).entries.map Prod.snd) :=
          List.perm_middle.symm.trans (List.Perm.append_left rest stored.symm)
        exact before.trans (moved.append_right _)
      · intro entry member
        have either := OrderedMap.mem_insert.mp member
        change entry.1 < sender.seq + 1
        cases either with
        | inl old => exact Nat.lt_succ_of_lt (conserved.keys_lt entry old)
        | inr new =>
            rw [new.1]
            exact Nat.lt_succ_self _
      · rw [queuedChunks_append, dataChunks_append]
        change queuedChunks events ++ [] = (dataChunks events ++ [chunk]) ++ rest
        rw [List.append_nil, ordered, List.append_assoc]
        rfl

theorem Conserved.sendPaddingData (io : QuicData) (now : Nat)
    (conserved : Conserved events sender) :
    Conserved (events ++ (sender.sendPaddingData io now).2) (sender.sendPaddingData io now).1 :=
  conserved.of_untouched rfl rfl (Nat.le_succ _) rfl rfl rfl

theorem Conserved.onRetransPacket (io : QuicData) (pending : QuicPendingRetransmission) (now : Nat)
    (conserved : Conserved events sender) :
    Conserved (events ++ (sender.onRetransPacket io pending now).2)
      (sender.onRetransPacket io pending now).1 := by
  unfold MyQuicVideoSender.onRetransPacket
  cases found : sender.sentQueue.find? pending.packetNumber with
  | none =>
      simp only [found, List.append_nil]
      exact conserved
  | some chunk =>
      simp only [found]
      have erased := (OrderedMap.entries_erase_perm found).map Prod.snd
      have absent : (sender.sentQueue.erase pending.packetNumber).find? sender.seq = none := by
        apply OrderedMap.find?_eq_none.mpr
        intro entry member
        exact (conserved.keys_lt entry (OrderedMap.mem_erase.mp member).1).ne
      have stored : (((sender.sentQueue.erase pending.packetNumber).insert sender.seq
          chunk).entries.map Prod.snd).Perm
            (chunk :: (sender.sentQueue.erase pending.packetNumber).entries.map Prod.snd) :=
        (OrderedMap.entries_insert_perm absent).map Prod.snd
      constructor
      · have before := conserved.chunks
        rw [queuedChunks_append, removedChunks_append]
        change (queuedChunks events ++ []).Perm (sender.pendingQueue ++
          ((sender.sentQueue.erase pending.packetNumber).insert sender.seq chunk).entries.map
            Prod.snd ++ (removedChunks events ++ []))
        rw [List.append_nil, List.append_nil]
        have kept := erased.trans stored.symm
        exact before.trans ((kept.append_left _).append_right _)
      · intro entry member
        change entry.1 < sender.seq + 1
        cases OrderedMap.mem_insert.mp member with
        | inl old =>
            have below := conserved.keys_lt entry (OrderedMap.mem_erase.mp old).1
            exact Nat.lt_succ_of_lt below
        | inr new =>
            rw [new.1]
            exact Nat.lt_succ_self _
      · have before := conserved.in_order
        rw [queuedChunks_append, dataChunks_append]
        change queuedChunks events ++ [] = (dataChunks events ++ []) ++ sender.pendingQueue
        rw [List.append_nil, List.append_nil, before]

/-! ### Acks -/

theorem removeAckedPacket_perm (seq : Nat) (sentQueue : OrderedMap Nat Nat) :
    sentQueue.entries.Perm (((sentQueue.find? seq).map (Prod.mk seq)).toList ++
      (removeAckedPacket seq sentQueue).entries) := by
  unfold removeAckedPacket
  cases found : sentQueue.find? seq with
  | none => exact List.Perm.refl _
  | some chunk => exact OrderedMap.entries_erase_perm found

theorem removedEntries_perm (count start : Nat) (sentQueue : OrderedMap Nat Nat) :
    sentQueue.entries.Perm (removedEntries count start sentQueue ++
      (removeAckedPackets count start sentQueue).entries) := by
  induction count generalizing start sentQueue with
  | zero => exact List.Perm.refl _
  | succ count inductionHypothesis =>
      have first := removeAckedPacket_perm start sentQueue
      have later := inductionHypothesis (start + 1) (removeAckedPacket start sentQueue)
      rw [removedEntries, removeAckedPackets, List.append_assoc]
      exact first.trans (later.append_left _)

theorem onCall_unsent (manager : QuicSentPacketManager) (call : VisitorCall)
    (sender : MyQuicVideoSender) :
    (sender.onCall manager call).pendingQueue = sender.pendingQueue ∧
      (sender.onCall manager call).seq = sender.seq := by
  cases call <;> exact ⟨rfl, rfl⟩

theorem removedByCall_perm (manager : QuicSentPacketManager) (call : VisitorCall)
    (sender : MyQuicVideoSender) :
    sender.sentQueue.entries.Perm (removedByCall call sender ++
      (sender.onCall manager call).sentQueue.entries) := by
  cases call with
  | onAckRange start stop last => exact removedEntries_perm _ _ _
  | _ => exact List.Perm.refl _

/-- The calls of a datagram take entries out and touch nothing else. -/
theorem replay_removed (manager : QuicSentPacketManager) (calls : List VisitorCall)
    (sender : MyQuicVideoSender) :
    let after := (visitor manager).replay sender calls
    sender.sentQueue.entries.Perm (removedByCalls manager calls sender ++
        after.sentQueue.entries) ∧
      after.pendingQueue = sender.pendingQueue ∧ after.seq = sender.seq := by
  induction calls generalizing sender with
  | nil => exact ⟨List.Perm.refl _, rfl, rfl⟩
  | cons call calls inductionHypothesis =>
      have first := removedByCall_perm manager call sender
      have ⟨samePending, sameSeq⟩ := onCall_unsent manager call sender
      have ⟨later, laterPending, laterSeq⟩ := inductionHypothesis (sender.onCall manager call)
      refine ⟨?_, laterPending.trans samePending, laterSeq.trans sameSeq⟩
      rw [removedByCalls, List.append_assoc]
      exact first.trans (later.append_left _)

theorem Conserved.receive {env : FramerEnv} {manager : QuicSentPacketManager} {now : Nat}
    {data : List UInt8} {after : MyQuicVideoSender} {later : List VideoEvent}
    (conserved : Conserved events sender)
    (stepped : sender.receive env manager now data = some (after, later)) :
    Conserved (events ++ later) after := by
  unfold MyQuicVideoSender.receive at stepped
  split_ifs at stepped with empty
  · cases stepped
    rw [List.append_nil]
    exact conserved
  · have ⟨frames, payload, rest⟩ := Option.bind_eq_some_iff.mp stepped
    have ⟨handled, incoming, same⟩ := Option.bind_eq_some_iff.mp rest
    rw [onIncomingData_eq env manager now payload] at incoming
    cases incoming
    cases same
    have ⟨removed, samePending, sameSeq⟩ := replay_removed manager
      (recordFrames env frames).2.visitor (sender.received now)
    generalize calls_eq : (recordFrames env frames).2.visitor = calls at *
    change Conserved (events ++ removals (removedByCalls manager calls (sender.received now))) _
    constructor
    · have before := conserved.chunks
      rw [queuedChunks_append, removedChunks_append, queuedChunks_removals, removedChunks_removals,
        List.append_nil, samePending]
      have moved := removed.map Prod.snd
      rw [List.map_append] at moved
      have split := ((moved.trans List.perm_append_comm).append_left
        sender.pendingQueue).append_right (removedChunks events)
      refine before.trans (split.trans ?_)
      simp only [List.append_assoc]
      apply List.Perm.append_left
      apply List.Perm.append_left
      exact List.perm_append_comm
    · intro entry member
      rw [sameSeq]
      apply conserved.keys_lt
      exact removed.mem_iff.mpr (List.mem_append_right _ member)
    · have before := conserved.in_order
      rw [queuedChunks_append, dataChunks_append, queuedChunks_removals, dataChunks_removals,
        List.append_nil, List.append_nil, samePending]
      exact before

/-! ### Runs -/

section Runs

variable (env : FramerEnv) (manager : QuicSentPacketManager)

theorem Conserved.sendIfDue (now sentAt : Nat) (conserved : Conserved events sender) :
    Conserved (events ++ (sender.sendIfDue env manager now sentAt).2)
      (sender.sendIfDue env manager now sentAt).1 := by
  unfold MyQuicVideoSender.sendIfDue sendDataOrPadding
  split_ifs with due empty probing
  · exact conserved.sendPaddingData env.io sentAt
  · exact conserved.of_untouched rfl rfl (Nat.le_refl _) rfl rfl rfl
  · exact conserved.sendFakePacket env.io sentAt
  · exact conserved.of_untouched rfl rfl (Nat.le_refl _) rfl rfl rfl

theorem Conserved.stopWaitingIfDue (conserved : Conserved events sender) :
    Conserved (events ++ (sender.stopWaitingIfDue env manager).2)
      (sender.stopWaitingIfDue env manager).1 := by
  unfold MyQuicVideoSender.stopWaitingIfDue
  split_ifs with due
  · exact conserved.of_untouched rfl rfl (Nat.le_refl _) rfl rfl rfl
  · exact conserved.of_untouched rfl rfl (Nat.le_refl _) rfl rfl rfl

/-- Every activity keeps the ledger. -/
theorem Conserved.step {activity : VideoActivity} {after : MyQuicVideoSender}
    {later : List VideoEvent} (conserved : Conserved events sender)
    (stepped : (videoMachine env manager).step sender activity = some (after, later)) :
    Conserved (events ++ later) after := by
  cases activity with
  | frame frameLen => exact conserved.queueFrame stepped
  | send now sentAt =>
      have same := Prod.ext_iff.mp (Option.some.inj stepped)
      have kept := conserved.sendIfDue env manager now sentAt
      rw [same.1, same.2] at kept
      exact kept
  | receive now data => exact conserved.receive stepped
  | stopWaiting =>
      have same := Prod.ext_iff.mp (Option.some.inj stepped)
      have kept := conserved.stopWaitingIfDue env manager
      rw [same.1, same.2] at kept
      exact kept
  | retransmission now sentAt =>
      unfold videoMachine at stepped
      simp only at stepped
      split_ifs at stepped with due
      · have same := Prod.ext_iff.mp (Option.some.inj stepped)
        have kept := conserved.onRetransPacket env.io
          (manager.nextPendingRetransmission sender.acks.sentPacketManager) sentAt
        change Conserved (events ++ (sender.retransmitNext env manager sentAt).2)
          (sender.retransmitNext env manager sentAt).1 at kept
        rw [same.1, same.2] at kept
        exact kept
      · cases stepped
        exact conserved.of_untouched rfl rfl (Nat.le_refl _) rfl rfl rfl

end Runs

end MyQuicVideoSender

/-- In every run the chunks that were queued are those that wait, those that are
stored and those that acks removed. Keys stay below `seq_`, so that an insertion
finds its key free, and chunks are first sent in the order of the queue. -/
theorem chunks_conserved (env : FramerEnv) (manager : QuicSentPacketManager) {created : Nat}
    {history : List (VideoActivity × List VideoEvent)} {sender : MyQuicVideoSender}
    (run : (videoMachine env manager).Run (.create created) history sender) :
    sender.Conserved (history.flatMap Prod.snd) := by
  induction run with
  | nil => exact .initial created
  | snoc before stepped inductionHypothesis =>
      rw [List.flatMap_append, List.flatMap_singleton]
      exact inductionHypothesis.step env manager stepped

/-! ### A frame of three chunks -/

/-- A manager that lets everything out and has packet 1 retransmitted. -/
def busyManager : QuicSentPacketManager where
  getLeastUnacked _ := 1
  timeUntilSend _ _ := some 0
  hasPendingRetransmissions _ := true
  nextPendingRetransmission _ := ⟨1, []⟩
  shouldSendProbingPacket _ := true

/-- Two chunks are sent, the first of them again as packet 3, and packet 2 is
acked; the last chunk waits. -/
def threeChunkActivities : List VideoActivity :=
  [.frame 2500, .send 1000 1000, .send 2000 2000, .retransmission 3000 3000,
    .receive 4000 [0, 1, 0x40, 2, 0, 5, 1, 0]]

theorem chunks_conserved_threeChunks :
    ∃ history sender,
      (videoMachine plainEnv busyManager).Run (.create 0) history sender ∧
      history.map Prod.fst = threeChunkActivities ∧
      sender.pendingQueue = [500] ∧ sender.sentQueue.entries = [(3, 1000)] ∧
      removedChunks (history.flatMap Prod.snd) = [1000] ∧
      sender.Conserved (history.flatMap Prod.snd) := by
  have ⟨history, sender, run, sameEvents, checked⟩ :=
    (videoMachine plainEnv busyManager).exists_run_of_check (.create 0) threeChunkActivities
      (fun result => result.1.pendingQueue = [500] ∧ result.1.sentQueue.entries = [(3, 1000)] ∧
        removedChunks (result.2.flatMap Prod.snd) = [1000])
      (by decide +kernel)
  have ⟨pending, stored, removed⟩ := of_decide_eq_true checked
  exact ⟨history, sender, run, sameEvents, pending, stored, removed,
    chunks_conserved plainEnv busyManager run⟩

end StupidSimple.Quic
