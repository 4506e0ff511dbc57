import StupidSimple.Bbr.HeaderRoundTrip
import StupidSimple.Quic.AckHonesty
import StupidSimple.Quic.ChunkLedger

/-!
Owns sessions of `MyQuicVideoSender` with `MyQuicReceiver`, over a network that may lose,
repeat, delay and reorder datagrams: a chunk that the sender forgets has arrived.
-/

namespace StupidSimple.Quic

open StupidSimple.Library MyQuicVideoSender

/-! ### The sender as a party -/

def Transmission.datagram : Transmission → List UInt8
  | .stream _ _ _ datagram => datagram
  | .stopWaiting _ _ datagram => datagram

def VideoEvent.datagram : VideoEvent → Option (List UInt8)
  | .transmitted transmission => some transmission.datagram
  | _ => none

/-- The chunk that a packet is sent for. -/
def Purpose.chunk : Purpose → Option Nat
  | .data chunk => some chunk
  | .padding => none
  | .retransmission _ chunk => some chunk

def videoParty (env : FramerEnv) (manager : QuicSentPacketManager) :
    Party MyQuicVideoSender VideoActivity (List VideoEvent) (List UInt8) where
  machine := videoMachine env manager
  delivered
    | .receive _ data => if data = [] then [] else [data]
    | _ => []
  sent events := events.filterMap VideoEvent.datagram

/-! ### The number that arrives -/

section Arriving

variable (io : QuicData) {seq packetNumber : Nat}

theorem arrivingNumber_stream (narrow : seq < 2 ^ 48) (rest : List UInt8) :
    arrivingNumber io (writeStreamHeader io seq ++ rest) = some seq := by
  have some : writeStreamHeader io seq ++ rest ≠ [] :=
    List.append_ne_nil_of_left_ne_nil (List.cons_ne_nil _ _) rest
  unfold arrivingNumber Bbr.streamNumber
  rw [if_neg some, readPacket_writeStreamHeader, Bbr.mod_getMinSeqLength narrow]
  exact if_pos rfl

theorem arrivingNumber_stopWaiting (unackSeq : Nat) :
    arrivingNumber io (stopWaitingPacket io seq unackSeq) = none := by
  have layout : stopWaitingPacket io seq unackSeq = writeHeader io seq ++
      UInt8.ofNat stopWaitingFrame :: io.writeBytesToUInt64 (getMinSeqLength seq).bytes unackSeq :=
    List.append_assoc _ _ _
  have some : stopWaitingPacket io seq unackSeq ≠ [] := List.cons_ne_nil _ _
  unfold arrivingNumber Bbr.streamNumber
  rw [if_neg some, layout, readPacket_writeHeader io seq stopWaitingFrame (by decide)]
  exact if_neg (by decide)

end Arriving

/-! ### Effects of an activity -/

/-- What an activity does to the packet numbers, the stored entries and the network. -/
inductive Effect (io : QuicData) (sender : MyQuicVideoSender) :
    MyQuicVideoSender → List VideoEvent → Prop
  | quiet {after : MyQuicVideoSender} {events : List VideoEvent} (sameSeq : after.seq = sender.seq)
      (sameSent : after.sentQueue = sender.sentQueue)
      (silent : ∀ event ∈ events, (∃ chunk, event = .queued chunk) ∨
        ∃ unackSeq, event = .transmitted (.stopWaiting sender.seq unackSeq
          (stopWaitingPacket io sender.seq unackSeq))) : Effect io sender after events
  | stream {after : MyQuicVideoSender} {purpose : Purpose} {time : Nat} {datagram : List UInt8}
      (nextSeq : after.seq = sender.seq + 1) (rest : List UInt8)
      (layout : datagram = writeStreamHeader io sender.seq ++ rest)
      {kept : List (Nat × Nat)} (old : kept.Sublist sender.sentQueue.entries)
      (stored : after.sentQueue.entries.Perm
        ((purpose.chunk.map (Prod.mk sender.seq)).toList ++ kept)) :
      Effect io sender after [.transmitted (.stream purpose sender.seq time datagram)]
  | acked {after : MyQuicVideoSender} {entries : List (Nat × Nat)}
      (sameSeq : after.seq = sender.seq)
      (removed : sender.sentQueue.entries.Perm (entries ++ after.sentQueue.entries)) :
      Effect io sender after (removals entries)

section Effects

variable (env : FramerEnv) (manager : QuicSentPacketManager) {sender after : MyQuicVideoSender}
  {events : List VideoEvent}

theorem effect_nothing : Effect env.io sender sender [] :=
  .quiet rfl rfl fun _ member => absurd member List.not_mem_nil

theorem effect_sendFakePacket (fresh : sender.sentQueue.find? sender.seq = none) (now : Nat) :
    Effect env.io sender (sender.sendFakePacket env.io now).1
      (sender.sendFakePacket env.io now).2 := by
  unfold sendFakePacket
  cases sender.pendingQueue with
  | nil => exact effect_nothing env
  | cons chunk rest =>
      have ⟨count, layout⟩ := carriesZeros_chunkPacket env.io (.data chunk) sender.seq now chunk
      exact .stream rfl _ layout (List.Sublist.refl _) (OrderedMap.entries_insert_perm fresh)

theorem effect_onRetransPacket (below : ∀ entry ∈ sender.sentQueue.entries, entry.1 < sender.seq)
    (pending : QuicPendingRetransmission) (now : Nat) :
    Effect env.io sender (sender.onRetransPacket env.io pending now).1
      (sender.onRetransPacket env.io pending now).2 := by
  unfold onRetransPacket
  cases found : sender.sentQueue.find? pending.packetNumber with
  | none =>
      simp only [found]
      exact effect_nothing env
  | some chunk =>
      simp only [found]
      have ⟨count, layout⟩ := carriesZeros_chunkPacket env.io
        (.retransmission pending.packetNumber chunk) sender.seq now chunk
      have fresh : (sender.sentQueue.erase pending.packetNumber).find? sender.seq = none := by
        apply OrderedMap.find?_eq_none.mpr
        intro entry member
        exact (below entry (OrderedMap.mem_erase.mp member).1).ne
      exact .stream rfl _ layout List.filter_sublist (OrderedMap.entries_insert_perm fresh)

theorem effect_receive {now : Nat} {data : List UInt8}
    (received : sender.receive env manager now data = some (after, events)) :
    Effect env.io sender after events := by
  unfold receive at received
  split_ifs at received with empty
  · cases received
    exact effect_nothing env
  · have ⟨frames, payload, rest⟩ := Option.bind_eq_some_iff.mp received
    have ⟨handled, incoming, same⟩ := Option.bind_eq_some_iff.mp rest
    rw [onIncomingData_eq env manager now payload] at incoming
    cases incoming
    cases same
    have ⟨removed, _, sameSeq⟩ := replay_removed manager (recordFrames env frames).2.visitor
      (sender.received now)
    exact .acked sameSeq removed

theorem effect_sendIfDue (fresh : sender.sentQueue.find? sender.seq = none) (now sentAt : Nat) :
    Effect env.io sender (sender.sendIfDue env manager now sentAt).1
      (sender.sendIfDue env manager now sentAt).2 := by
  unfold sendIfDue sendDataOrPadding
  split_ifs
  · exact .stream rfl _ rfl (List.Sublist.refl _) (List.Perm.refl _)
  · exact effect_nothing env
  · exact effect_sendFakePacket env fresh sentAt
  · exact effect_nothing env

theorem effect_stopWaitingIfDue :
    Effect env.io sender (sender.stopWaitingIfDue env manager).1
      (sender.stopWaitingIfDue env manager).2 := by
  unfold stopWaitingIfDue
  split_ifs
  · exact .quiet rfl rfl fun event member => Or.inr ⟨_, List.mem_singleton.mp member⟩
  · exact effect_nothing env

/-- Every activity has an effect. -/
theorem effect_step {activity : VideoActivity}
    (below : ∀ entry ∈ sender.sentQueue.entries, entry.1 < sender.seq)
    (stepped : (videoMachine env manager).step sender activity = some (after, events)) :
    Effect env.io sender after events := by
  have fresh : sender.sentQueue.find? sender.seq = none :=
    OrderedMap.find?_eq_none.mpr fun entry member => (below entry member).ne
  cases activity with
  | frame frameLen =>
      have ⟨chunks, _, same⟩ := Option.bind_eq_some_iff.mp stepped
      cases same
      have silent : ∀ event ∈ chunks.map VideoEvent.queued, ∃ chunk, event = .queued chunk := by
        intro event member
        have ⟨chunk, _, queued⟩ := List.mem_map.mp member
        exact ⟨chunk, queued.symm⟩
      exact .quiet rfl rfl fun event member => Or.inl (silent event member)
  | send now sentAt =>
      obtain ⟨rfl, rfl⟩ : (sender.sendIfDue env manager now sentAt).1 = after ∧
          (sender.sendIfDue env manager now sentAt).2 = events :=
        Prod.ext_iff.mp (Option.some.inj stepped)
      exact effect_sendIfDue env manager fresh now sentAt
  | receive now data => exact effect_receive env manager stepped
  | stopWaiting =>
      obtain ⟨rfl, rfl⟩ : (sender.stopWaitingIfDue env manager).1 = after ∧
          (sender.stopWaitingIfDue env manager).2 = events :=
        Prod.ext_iff.mp (Option.some.inj stepped)
      exact effect_stopWaitingIfDue env manager
  | retransmission now sentAt =>
      unfold videoMachine at stepped
      simp only at stepped
      split_ifs at stepped
      · obtain ⟨rfl, rfl⟩ : (sender.retransmitNext env manager sentAt).1 = after ∧
            (sender.retransmitNext env manager sentAt).2 = events :=
          Prod.ext_iff.mp (Option.some.inj stepped)
        exact effect_onRetransPacket env below _ sentAt
      · cases stepped
        exact effect_nothing env

end Effects

/-! ### The record of packet numbers -/

/-- The entries that acks have removed. -/
def removedPackets : List VideoEvent → List (Nat × Nat) :=
  List.filterMap fun
    | .removed seq chunk => some (seq, chunk)
    | _ => none

@[simp] theorem removedPackets_append (first second : List VideoEvent) :
    removedPackets (first ++ second) = removedPackets first ++ removedPackets second :=
  List.filterMap_append

@[simp] theorem removedPackets_removals (entries : List (Nat × Nat)) :
    removedPackets (removals entries) = entries := by
  rw [removals, removedPackets, List.filterMap_map]
  exact List.filterMap_some

/-- The removed entries and those that are still stored. -/
def ledger (events : List VideoEvent) (sender : MyQuicVideoSender) : List (Nat × Nat) :=
  removedPackets events ++ sender.sentQueue.entries

/-- Each packet number is used once: by one packet, and by at most one entry, which has
the chunk of that packet. -/
structure Recorded (io : QuicData) (events : List VideoEvent) (sender : MyQuicVideoSender) :
    Prop where
  positive : 1 ≤ sender.seq
  numbered : ∀ {purpose seq time datagram},
    .transmitted (.stream purpose seq time datagram) ∈ events →
      1 ≤ seq ∧ seq < sender.seq ∧ ∃ rest, datagram = writeStreamHeader io seq ++ rest
  stopWaiting : ∀ {seq unackSeq datagram},
    .transmitted (.stopWaiting seq unackSeq datagram) ∈ events →
      datagram = stopWaitingPacket io seq unackSeq
  below : ∀ entry ∈ ledger events sender, entry.1 < sender.seq
  once : ((ledger events sender).map Prod.fst).Nodup
  carried : ∀ entry ∈ ledger events sender, ∀ {purpose time datagram},
    .transmitted (.stream purpose entry.1 time datagram) ∈ events → purpose.chunk = some entry.2

namespace Recorded

variable {io : QuicData} {events later : List VideoEvent} {sender after : MyQuicVideoSender}

theorem initial (now : Nat) : Recorded io [] (create now) where
  positive := Nat.le_refl 1
  numbered member := absurd member List.not_mem_nil
  stopWaiting member := absurd member List.not_mem_nil
  below _ member := absurd member List.not_mem_nil
  once := List.nodup_nil
  carried _ member := absurd member List.not_mem_nil

/-- An activity that sends no stream packet. -/
theorem of_perm (recorded : Recorded io events sender) (sameSeq : after.seq = sender.seq)
    (same : (ledger (events ++ later) after).Perm (ledger events sender))
    (noStream : ∀ purpose seq time datagram,
      .transmitted (.stream purpose seq time datagram) ∉ later)
    (stops : ∀ seq unackSeq datagram, .transmitted (.stopWaiting seq unackSeq datagram) ∈ later →
      datagram = stopWaitingPacket io seq unackSeq) : Recorded io (events ++ later) after where
  positive := sameSeq ▸ recorded.positive
  numbered member := by
    rw [sameSeq]
    exact recorded.numbered ((List.mem_append.mp member).resolve_right (noStream _ _ _ _))
  stopWaiting member := (List.mem_append.mp member).elim recorded.stopWaiting (stops _ _ _)
  below entry member := sameSeq ▸ recorded.below entry (same.mem_iff.mp member)
  once := (same.map Prod.fst).nodup_iff.mpr recorded.once
  carried entry member _ _ _ sent :=
    recorded.carried entry (same.mem_iff.mp member)
      ((List.mem_append.mp sent).resolve_right (noStream _ _ _ _))

theorem stream (recorded : Recorded io events sender) {purpose : Purpose} {time : Nat}
    {datagram rest : List UInt8} (nextSeq : after.seq = sender.seq + 1)
    (layout : datagram = writeStreamHeader io sender.seq ++ rest) {kept : List (Nat × Nat)}
    (old : kept.Sublist sender.sentQueue.entries)
    (stored : after.sentQueue.entries.Perm
      ((purpose.chunk.map (Prod.mk sender.seq)).toList ++ kept)) :
    Recorded io (events ++ [.transmitted (.stream purpose sender.seq time datagram)]) after := by
  have oldLedger : (removedPackets events ++ kept).Sublist (ledger events sender) :=
    old.append_left _
  have same : (ledger (events ++ [.transmitted (.stream purpose sender.seq time datagram)])
      after).Perm ((purpose.chunk.map (Prod.mk sender.seq)).toList ++
        (removedPackets events ++ kept)) := by
    have noneRemoved : removedPackets [.transmitted (.stream purpose sender.seq time datagram)] =
      [] := rfl
    rw [ledger, removedPackets_append, noneRemoved, List.append_nil, ← List.append_assoc]
    refine (stored.append_left _).trans ?_
    rw [← List.append_assoc]
    exact List.perm_append_comm.append_right _
  have entries : ∀ {entry}, entry ∈ ledger (events ++
      [.transmitted (.stream purpose sender.seq time datagram)]) after →
      (entry.1 = sender.seq ∧ purpose.chunk = some entry.2) ∨ entry ∈ ledger events sender := by
    intro entry member
    rcases List.mem_append.mp (same.mem_iff.mp member) with new | there
    · have ⟨chunk, isChunk, made⟩ := Option.map_eq_some_iff.mp (Option.mem_toList.mp new)
      rw [← made]
      exact Or.inl ⟨rfl, isChunk⟩
    · exact Or.inr (oldLedger.subset there)
  constructor
  · rw [nextSeq]
    exact Nat.succ_pos _
  · intro purpose' seq time' datagram' member
    rw [nextSeq]
    rcases List.mem_append.mp member with earlier | now
    · have ⟨positive, below, laidOut⟩ := recorded.numbered earlier
      exact ⟨positive, Nat.lt_succ_of_lt below, laidOut⟩
    · cases List.mem_singleton.mp now
      exact ⟨recorded.positive, Nat.lt_succ_self _, rest, layout⟩
  · intro seq unackSeq datagram' member
    rcases List.mem_append.mp member with earlier | now
    · exact recorded.stopWaiting earlier
    · cases List.mem_singleton.mp now
  · intro entry member
    rw [nextSeq]
    rcases entries member with ⟨own, _⟩ | there
    · exact own ▸ Nat.lt_succ_self _
    · exact Nat.lt_succ_of_lt (recorded.below entry there)
  · apply (same.map Prod.fst).nodup_iff.mpr
    have oldOnce := recorded.once.sublist (oldLedger.map Prod.fst)
    rcases purpose.chunk with _ | chunk
    · exact oldOnce
    · apply List.nodup_cons.mpr
      constructor
      · intro member
        have ⟨entry, there, own⟩ := List.mem_map.mp member
        exact (recorded.below entry (oldLedger.subset there)).ne own
      · exact oldOnce
  · intro entry member purpose' time' datagram' sent
    rcases List.mem_append.mp sent with earlier | now
    · rcases entries member with ⟨own, _⟩ | there
      · -- The number is new, so no packet had it.
        exact absurd own (recorded.numbered earlier).2.1.ne
      · exact recorded.carried entry there earlier
    · obtain ⟨samePurpose, own, _⟩ :=
        Transmission.stream.inj (VideoEvent.transmitted.inj (List.mem_singleton.mp now))
      rcases entries member with ⟨_, isChunk⟩ | there
      · exact samePurpose ▸ isChunk
      · exact absurd own (recorded.below entry there).ne

theorem step (recorded : Recorded io events sender) (effect : Effect io sender after later) :
    Recorded io (events ++ later) after := by
  cases effect with
  | quiet sameSeq sameSent silent =>
      apply recorded.of_perm sameSeq
      · have noneRemoved : removedPackets later = [] := by
          apply List.filterMap_eq_nil_iff.mpr
          intro event member
          rcases silent event member with ⟨chunk, rfl⟩ | ⟨unackSeq, rfl⟩
          · rfl
          · rfl
        rw [ledger, removedPackets_append, noneRemoved, List.append_nil, sameSent]
        exact List.Perm.refl _
      · intro purpose seq time datagram member
        rcases silent _ member with ⟨chunk, same⟩ | ⟨unackSeq, same⟩
        · cases same
        · cases same
      · intro seq unackSeq datagram member
        rcases silent _ member with ⟨chunk, same⟩ | ⟨_, same⟩
        · cases same
        · cases same
          rfl
  | stream nextSeq rest layout old stored => exact recorded.stream nextSeq layout old stored
  | @acked entries sameSeq removed =>
      have onlyRemovals : ∀ event ∈ removals entries, ∃ entry : Nat × Nat,
          event = .removed entry.1 entry.2 := by
        intro event member
        have ⟨entry, _, same⟩ := List.mem_map.mp member
        exact ⟨entry, same.symm⟩
      apply recorded.of_perm sameSeq
      · rw [ledger, removedPackets_append, removedPackets_removals, List.append_assoc]
        exact (removed.symm.append_left _)
      · intro purpose seq time datagram member
        have ⟨_, same⟩ := onlyRemovals _ member
        cases same
      · intro seq unackSeq datagram member
        have ⟨_, same⟩ := onlyRemovals _ member
        cases same

end Recorded

theorem recorded_of_run {env : FramerEnv} {manager : QuicSentPacketManager} {now : Nat}
    {history : List (VideoActivity × List VideoEvent)} {sender : MyQuicVideoSender}
    (run : (videoMachine env manager).Run (.create now) history sender) :
    sender.Conserved (history.flatMap Prod.snd) ∧
      Recorded env.io (history.flatMap Prod.snd) sender := by
  induction run with
  | nil => exact ⟨.initial now, .initial now⟩
  | snoc before stepped inductionHypothesis =>
      have ⟨conserved, recorded⟩ := inductionHypothesis
      rw [List.flatMap_append, List.flatMap_singleton]
      constructor
      · exact conserved.step env manager stepped
      · exact recorded.step (effect_step env manager conserved.keys_lt stepped)

/-! ### What acks remove -/

section Acks

variable {env : FramerEnv} {manager : QuicSentPacketManager}

theorem within_of_mem_removedEntries {count : Nat} {entry : Nat × Nat} :
    ∀ {start : Nat} {sentQueue : OrderedMap Nat Nat}, entry ∈ removedEntries count start sentQueue →
      start ≤ entry.1 ∧ entry.1 < start + count := by
  induction count with
  | zero =>
      intro start sentQueue member
      cases member
  | succ count inductionHypothesis =>
      intro start sentQueue member
      rw [removedEntries] at member
      rcases List.mem_append.mp member with first | later
      · obtain ⟨chunk, _, same⟩ := Option.map_eq_some_iff.mp (Option.mem_toList.mp first)
        rw [← same]
        exact ⟨Nat.le_refl _, Nat.lt_add_of_pos_right (Nat.succ_pos count)⟩
      · have within := inductionHypothesis later
        omega

theorem acked_of_mem_removedByCalls {calls : List VisitorCall} {entry : Nat × Nat} :
    ∀ {sender : MyQuicVideoSender}, entry ∈ removedByCalls manager calls sender →
      Acked calls entry.1 := by
  induction calls with
  | nil =>
      intro sender member
      cases member
  | cons call calls inductionHypothesis =>
      intro sender member
      rw [show call :: calls = [call] ++ calls from rfl, acked_append]
      rcases List.mem_append.mp member with now | later
      · left
        cases call with
        | onAckRange start stop last =>
            have within := within_of_mem_removedEntries now
            rw [acked_range]
            omega
        | _ => cases now
      · exact Or.inr (inductionHypothesis later)

theorem sendIfDue_removes_nothing (sender : MyQuicVideoSender) (now sentAt seq chunk : Nat) :
    .removed seq chunk ∉ (sender.sendIfDue env manager now sentAt).2 := by
  unfold sendIfDue sendDataOrPadding sendFakePacket
  intro member
  split_ifs at member with due empty
  · cases List.mem_singleton.mp member
  · cases member
  · cases pending : sender.pendingQueue with
    | nil => exact empty pending
    | cons chunk rest =>
        simp only [pending] at member
        cases List.mem_singleton.mp member
  · cases member

theorem onRetransPacket_removes_nothing (sender : MyQuicVideoSender)
    (pending : QuicPendingRetransmission) (now seq chunk : Nat) :
    .removed seq chunk ∉ (sender.onRetransPacket env.io pending now).2 := by
  unfold onRetransPacket
  intro member
  cases found : sender.sentQueue.find? pending.packetNumber with
  | none =>
      simp only [found] at member
      cases member
  | some chunk =>
      simp only [found] at member
      cases List.mem_singleton.mp member

/-- An entry is removed only by an ack that is delivered and lists it. -/
theorem acked_of_removed {sender after : MyQuicVideoSender} {activity : VideoActivity}
    {events : List VideoEvent} {seq chunk : Nat}
    (stepped : (videoMachine env manager).step sender activity = some (after, events))
    (member : .removed seq chunk ∈ events) :
    ∃ data ∈ (videoParty env manager).delivered activity, DatagramAcks env data seq := by
  cases activity with
  | receive now data =>
      change sender.receive env manager now data = some (after, events) at stepped
      unfold receive at stepped
      split_ifs at stepped with empty
      · cases stepped
        cases member
      · have ⟨frames, payload, rest⟩ := Option.bind_eq_some_iff.mp stepped
        have ⟨handled, _, same⟩ := Option.bind_eq_some_iff.mp rest
        cases same
        have ⟨entry, removed, own⟩ := List.mem_map.mp member
        obtain ⟨sameSeq, _⟩ := VideoEvent.removed.inj own
        have acked := acked_of_mem_removedByCalls removed
        refine ⟨data, ?_, frames, payload, sameSeq ▸ acked⟩
        show data ∈ if data = [] then [] else [data]
        rw [if_neg empty]
        exact List.mem_singleton_self data
  | frame frameLen =>
      have ⟨chunks, _, same⟩ := Option.bind_eq_some_iff.mp stepped
      cases same
      have ⟨chunk, _, queued⟩ := List.mem_map.mp member
      cases queued
  | send now sentAt =>
      have same : (sender.sendIfDue env manager now sentAt).2 = events :=
        congrArg Prod.snd (Option.some.inj stepped)
      exact absurd (same ▸ member) (sendIfDue_removes_nothing sender now sentAt seq chunk)
  | stopWaiting =>
      have same : (sender.stopWaitingIfDue env manager).2 = events :=
        congrArg Prod.snd (Option.some.inj stepped)
      rw [← same] at member
      unfold stopWaitingIfDue at member
      split_ifs at member
      · cases List.mem_singleton.mp member
      · cases member
  | retransmission now sentAt =>
      unfold videoMachine at stepped
      simp only at stepped
      split_ifs at stepped
      · have same : (sender.retransmitNext env manager sentAt).2 = events :=
          congrArg Prod.snd (Option.some.inj stepped)
        exact absurd (same ▸ member) (onRetransPacket_removes_nothing sender _ sentAt seq chunk)
      · cases stepped
        cases member

end Acks

/-! ### Sessions -/

section Sessions

variable {env : FramerEnv} {manager : QuicSentPacketManager}
  {received : QuicReceivedPacketManager} {now : Nat}

abbrev VideoSession : Type :=
  Session MyQuicVideoSender VideoActivity (List VideoEvent) MyQuicReceiver (Nat × List UInt8)
    (List ReceiverEvent)

/-- What the sender of a session has done. -/
def VideoSession.events (session : VideoSession) : List VideoEvent :=
  session.leftHistory.flatMap Prod.snd

/-- The datagrams that have reached the receiver. -/
def VideoSession.arrived (session : VideoSession) : List (List UInt8) :=
  session.rightHistory.flatMap fun entry => if entry.1.2 = [] then [] else [entry.1.2]

/-- The receiver has been handed a packet that was sent for the chunk under this number. -/
def VideoSession.HasArrived (session : VideoSession) (seq chunk : Nat) : Prop :=
  ∃ purpose time datagram,
    .transmitted (.stream purpose seq time datagram) ∈ session.events ∧
      purpose.chunk = some chunk ∧ datagram ∈ session.arrived

/-- What holds of the chunks of a session. -/
structure SoundVideoSession (session : VideoSession) : Prop where
  conserved : session.left.Conserved session.events
  once : ((removedPackets session.events).map Prod.fst).Nodup
  hasArrived : ∀ seq chunk, .removed seq chunk ∈ session.events → session.HasArrived seq chunk

/-- The number of a datagram of the sender is that of a stream packet. -/
theorem Recorded.stream_of_arrivingNumber {io : QuicData}
    {history : List (VideoActivity × List VideoEvent)} {sender : MyQuicVideoSender}
    (recorded : Recorded io (history.flatMap Prod.snd) sender) (narrow : sender.seq ≤ 2 ^ 48)
    {datagram : List UInt8} (sent : datagram ∈ (videoParty env manager).allSent history)
    {seq : Nat} (arrives : arrivingNumber io datagram = some seq) :
    ∃ purpose time, .transmitted (.stream purpose seq time datagram) ∈
      history.flatMap Prod.snd := by
  have ⟨entry, listed, own⟩ := List.mem_flatMap.mp sent
  have ⟨event, member, same⟩ := List.mem_filterMap.mp own
  have made : event ∈ history.flatMap Prod.snd := List.mem_flatMap.mpr ⟨entry, listed, member⟩
  cases event with
  | transmitted transmission =>
      obtain rfl := Option.some.inj same
      cases transmission with
      | stream purpose number time datagram =>
          have ⟨_, below, rest, layout⟩ := recorded.numbered made
          change arrivingNumber io datagram = some seq at arrives
          rw [layout, arrivingNumber_stream io (below.trans_le narrow)] at arrives
          obtain rfl := Option.some.inj arrives
          exact ⟨purpose, time, made⟩
      | stopWaiting number unackSeq datagram =>
          change arrivingNumber io datagram = some seq at arrives
          rw [recorded.stopWaiting made, arrivingNumber_stopWaiting] at arrives
          cases arrives
  | _ => cases same

theorem Effect.seq_le {io : QuicData} {sender after : MyQuicVideoSender} {events : List VideoEvent}
    (effect : Effect io sender after events) : sender.seq ≤ after.seq := by
  cases effect with
  | quiet sameSeq _ _ => exact sameSeq.ge
  | stream nextSeq _ _ _ _ => exact nextSeq ▸ Nat.le_succ _
  | acked sameSeq _ => exact sameSeq.ge

/-- One more step: what it removes has been acked by the receiver, which is honest. -/
theorem arrived_step (reports : ReportsRecorded received) {session after : VideoSession}
    {event : VideoActivity ⊕ (Nat × List UInt8)} {output : List VideoEvent ⊕ List ReceiverEvent}
    (faithful : session.Faithful (videoParty env manager) (receiverParty env.io received)
      (.create now) .create) (narrow : session.left.seq ≤ 2 ^ 48)
    (arrived : ∀ seq chunk, .removed seq chunk ∈ session.events →
      ∃ source ∈ session.arrived, arrivingNumber env.io source = some seq)
    (stepped : (network (videoParty env manager) (receiverParty env.io received)).step session
      event = some (after, output)) :
    ∀ seq chunk, .removed seq chunk ∈ after.events →
      ∃ source ∈ after.arrived, arrivingNumber env.io source = some seq := by
  intro seq chunk member
  cases event with
  | inl activity =>
      obtain ⟨authentic, left, events, moved, rfl⟩ := Session.actLeft_cases stepped
      have ⟨_, recorded⟩ := recorded_of_run faithful.runLeft
      rw [VideoSession.events, List.flatMap_append, List.flatMap_singleton] at member
      rcases List.mem_append.mp member with earlier | removed
      · exact arrived seq chunk earlier
      · have ⟨data, delivered, acks⟩ := acked_of_removed moved removed
        have genuine : ∀ datagram ∈ (videoParty env manager).allSent session.leftHistory,
            ∀ number, arrivingNumber env.io datagram = some number → 1 ≤ number := by
          intro datagram sent number arrives
          have ⟨purpose, time, made⟩ := recorded.stream_of_arrivingNumber narrow sent arrives
          exact (recorded.numbered made).1
        have ⟨source, _, sourceArrived, arrives⟩ := faithful.justified
          (receiverParty_honest reports) genuine (authentic data delivered) acks
        exact ⟨source, sourceArrived, arrives⟩
  | inr call =>
      obtain ⟨_, right, events, _, rfl⟩ := Session.actRight_cases stepped
      have ⟨source, sourceArrived, arrives⟩ := arrived seq chunk member
      refine ⟨source, ?_, arrives⟩
      rw [VideoSession.arrived, List.flatMap_append]
      exact List.mem_append_left _ sourceArrived

theorem arrived_of_run (reports : ReportsRecorded received)
    {history : List ((VideoActivity ⊕ (Nat × List UInt8)) ×
      (List VideoEvent ⊕ List ReceiverEvent))} {session : VideoSession}
    (run : (network (videoParty env manager) (receiverParty env.io received)).Run
      (.start (.create now) .create) history session) (narrow : session.left.seq ≤ 2 ^ 48) :
    ∀ seq chunk, .removed seq chunk ∈ session.events →
      ∃ source ∈ session.arrived, arrivingNumber env.io source = some seq := by
  induction run with
  | nil => exact fun _ _ member => absurd member List.not_mem_nil
  | @snoc history session after event output before stepped inductionHypothesis =>
      have faithful := Session.faithful_of_run before
      have seq_le : session.left.seq ≤ after.left.seq := by
        cases event with
        | inl activity =>
            obtain ⟨_, left, events, moved, rfl⟩ := Session.actLeft_cases stepped
            have ⟨conserved, _⟩ := recorded_of_run faithful.runLeft
            exact (effect_step env manager conserved.keys_lt moved).seq_le
        | inr call =>
            obtain ⟨_, right, events, _, rfl⟩ := Session.actRight_cases stepped
            exact Nat.le_refl _
      have earlier := seq_le.trans narrow
      exact arrived_step reports faithful earlier (inductionHypothesis earlier) stepped

end Sessions

/-- In every session every chunk that was queued waits, is stored, or has been removed, once,
and then the receiver has been handed a packet that carried it. The network may lose,
repeat, delay and reorder what it is given, and the managers answer as they like, but for
what `ReportsRecorded` says of ack frames. -/
theorem removed_chunks_arrived (env : FramerEnv) (manager : QuicSentPacketManager)
    {received : QuicReceivedPacketManager} (reports : ReportsRecorded received) (now : Nat)
    {history : List ((VideoActivity ⊕ (Nat × List UInt8)) ×
      (List VideoEvent ⊕ List ReceiverEvent))} {session : VideoSession}
    (run : (network (videoParty env manager) (receiverParty env.io received)).Run
      (.start (.create now) .create) history session) (narrow : session.left.seq ≤ 2 ^ 48) :
    SoundVideoSession session := by
  have faithful := Session.faithful_of_run run
  have ⟨conserved, recorded⟩ := recorded_of_run faithful.runLeft
  constructor
  · exact conserved
  · exact recorded.once.sublist ((List.sublist_append_left _ _).map Prod.fst)
  · intro seq chunk removed
    have ⟨datagram, arrived, arrives⟩ := arrived_of_run reports run narrow seq chunk removed
    have ⟨purpose, time, made⟩ := recorded.stream_of_arrivingNumber narrow
      (faithful.deliveredRight datagram arrived) arrives
    have listed : (seq, chunk) ∈ ledger session.events session.left :=
      List.mem_append_left _ (List.mem_filterMap.mpr ⟨_, removed, rfl⟩)
    exact ⟨purpose, time, datagram, made, recorded.carried (seq, chunk) listed made, arrived⟩

/-! ### Two chunks, the first of which is lost -/

/-- The last packet number that was recorded. -/
def lastReceived : List ReceivedCall → Nat
  | [] => 0
  | .recordPacketReceived packetNumber _ :: calls =>
      if lastReceived calls = 0 then packetNumber else lastReceived calls
  | _ :: calls => lastReceived calls

theorem noIntervals_ascending :
    ([] : List Interval).Pairwise fun lower upper => lower.max < upper.min := .nil

/-- A manager that acks one packet only. -/
def forgetfulManager : QuicReceivedPacketManager where
  ackFrameUpdated _ := true
  updatedAckFrame calls :=
    if 0 < lastReceived calls then
      ⟨lastReceived calls, some 0,
        ⟨[⟨lastReceived calls, lastReceived calls + 1, Nat.lt_succ_self _⟩],
          List.pairwise_singleton _ _⟩⟩
    else ⟨0, some 0, ⟨[], noIntervals_ascending⟩⟩

theorem recorded_lastReceived {calls : List ReceivedCall} (received : 0 < lastReceived calls) :
    ∃ receiptTime, .recordPacketReceived (lastReceived calls) receiptTime ∈ calls := by
  induction calls with
  | nil => cases received
  | cons call calls inductionHypothesis =>
      cases call with
      | recordPacketReceived packetNumber receiptTime =>
          rw [lastReceived] at received ⊢
          split_ifs at received ⊢ with none
          · exact ⟨receiptTime, List.mem_cons_self⟩
          · have ⟨time, member⟩ := inductionHypothesis received
            exact ⟨time, List.mem_cons_of_mem _ member⟩
      | _ =>
          have ⟨time, member⟩ := inductionHypothesis received
          exact ⟨time, List.mem_cons_of_mem _ member⟩

theorem intervals_of_none {calls : List ReceivedCall} (none : ¬0 < lastReceived calls) :
    (forgetfulManager.updatedAckFrame calls).packets.intervals = [] := by
  have frame : forgetfulManager.updatedAckFrame calls = ⟨0, some 0, ⟨[], noIntervals_ascending⟩⟩ :=
    if_neg none
  rw [frame]

theorem holds_forgetfulManager {calls : List ReceivedCall} (received : 0 < lastReceived calls)
    {packetNumber : Nat} : (forgetfulManager.updatedAckFrame calls).packets.Holds packetNumber ↔
      packetNumber = lastReceived calls := by
  simp only [PacketNumberQueue.Holds, forgetfulManager, if_pos received, List.mem_singleton,
    exists_eq_left]
  omega

theorem forgetfulManager_reports : ReportsRecorded forgetfulManager where
  recorded calls packetNumber holds := by
    by_cases received : 0 < lastReceived calls
    · rw [(holds_forgetfulManager received).mp holds]
      exact recorded_lastReceived received
    · obtain ⟨interval, member, _⟩ := holds
      rw [intervals_of_none received] at member
      cases member
  largest calls some := by
    by_cases received : 0 < lastReceived calls
    · have largest : (forgetfulManager.updatedAckFrame calls).largestAcked =
          lastReceived calls := by
        simp only [forgetfulManager, if_pos received]
      rw [largest]
      constructor
      · exact (holds_forgetfulManager received).mpr rfl
      · exact fun packetNumber holds => ((holds_forgetfulManager received).mp holds).le
    · exact absurd (intervals_of_none received) some

def lossyActivities : List (VideoActivity ⊕ (Nat × List UInt8)) :=
  [.inl (.frame 1500), .inl (.send 1000 1000), .inl (.send 2000 2000),
    .inr (3000, chunkPacket plainEnv.io 2 500), .inl (.receive 4000 [0, 1, 0x40, 2, 0, 0, 1, 0])]

/-- The chunk of packet 2 is forgotten; that of packet 1, which is lost, is not. -/
theorem removed_chunks_arrived_lossy :
    ∃ history session,
      (network (videoParty plainEnv busyManager) (receiverParty plainEnv.io forgetfulManager)).Run
        (.start (.create 0) .create) history session ∧
      removedPackets (VideoSession.events session) = [(2, 500)] ∧
      session.left.sentQueue.entries = [(1, 1000)] ∧ VideoSession.HasArrived session 2 500 := by
  have ⟨history, session, run, _, checked⟩ :=
    (network (videoParty plainEnv busyManager)
      (receiverParty plainEnv.io forgetfulManager)).exists_run_of_check
        (.start (.create 0) .create) lossyActivities
        (fun result => removedPackets (VideoSession.events result.1) = [(2, 500)] ∧
          result.1.left.sentQueue.entries = [(1, 1000)] ∧ result.1.left.seq ≤ 2 ^ 48 ∧
          .removed 2 500 ∈ VideoSession.events result.1)
        (by decide +kernel)
  have ⟨removed, stored, narrow, forgotten⟩ := of_decide_eq_true checked
  have sound := removed_chunks_arrived plainEnv busyManager forgetfulManager_reports 0 run narrow
  exact ⟨history, session, run, removed, stored, sound.hasArrived 2 500 forgotten⟩

end StupidSimple.Quic
