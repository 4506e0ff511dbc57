import StupidSimple.Quic.AckCompletion

/-!
Owns what an ack frame that `ProcessFrameData` rejects does to `sent_queue_`: the
video sender removes the packets of every range that is read before the place
where the frame fails.
-/

namespace StupidSimple.Quic

open StupidSimple.Library MyQuicFramer

variable (env : FramerEnv)

theorem startsAckFrame_of_range {frameType start stop : Nat} {last : Bool} {bytes : List UInt8}
    (called : .onAckRange start stop last ∈
      (record env.io (env.processFrame frameType) bytes).2.visitor) :
    StartsAckFrame frameType := by
  by_contra other
  have contract : CallsOnly (fun call => ¬call.IsAckRange) (fun _ => True)
      (env.processFrame frameType) :=
    callsOnly_processFrame env (fun _ => id) fun ack => absurd ack other
  exact (record_callsOnly env.io contract bytes).1.2 _ called trivial

theorem acked_processFrame {frameType packetNumber : Nat} {bytes : List UInt8}
    (acked : Acked (record env.io (env.processFrame frameType) bytes).2.visitor packetNumber) :
    StartsAckFrame frameType ∧ ListsPacket frameType bytes packetNumber := by
  have ⟨start, stop, last, member, _⟩ := acked
  have starts := startsAckFrame_of_range env member
  rw [record_processFrame_ack env starts] at acked
  exact ⟨starts, (acked_record_iff env.io frameType bytes packetNumber).mp acked⟩

/-- A datagram acks exactly the packets that one of its ack frames lists. -/
theorem acked_recordFrames_iff {frames : List UInt8} {packetNumber : Nat} :
    Acked (recordFrames env frames).2.visitor packetNumber ↔
      ∃ before frameType bytes, FrameAt env frames before frameType bytes ∧
        StartsAckFrame frameType ∧ ListsPacket frameType bytes packetNumber := by
  constructor
  · rintro ⟨start, stop, last, member, within⟩
    cases frames with
    | nil => cases member
    | cons type rest =>
        rw [recordFrames, record_processFrameData_cons] at member
        obtain ⟨before, frameType, bytes, found, called⟩ := exists_frame_of_call env member
        obtain ⟨starts, lists⟩ := acked_processFrame env ⟨start, stop, last, called, within⟩
        exact ⟨before, frameType, bytes, found, starts, lists⟩
  · rintro ⟨before, frameType, bytes, found, starts, lists⟩
    obtain ⟨later, split⟩ := exists_calls_split env found starts
    have own := (acked_record_iff env.io frameType bytes packetNumber).mpr lists
    rw [split]
    exact MyQuicVideoSender.acked_append.mpr (Or.inr
      (MyQuicVideoSender.acked_append.mpr (Or.inl own)))

theorem mem_frameEnd_iff {now : Nat} {calls : List VisitorCall} :
    ManagerCall.onAckFrameEnd now ∈ managerCalls now calls ↔ HasLastRange calls := by
  constructor
  · intro member
    by_contra unflagged
    exact absurd (count_frameEnd_of_not_hasLastRange now unflagged)
      (List.count_pos_iff.mpr member).ne'
  · rintro ⟨start, stop, member⟩
    exact List.mem_flatMap.mpr ⟨_, member, by simp⟩

/-- When a datagram is rejected in an ack frame, `sent_queue_` is as before if and
only if no ack frame of the datagram lists one of its keys, as far as the frame
can be read. And an ack frame that removes an entry reaches `OnAckFrameEnd` if and
only if it lists no key or its bytes reach a range that can be flagged as the last. -/
theorem rejected_ack_keeps_sentQueue_iff (manager : QuicSentPacketManager) {now : Nat}
    {data : List UInt8} {detail : String} {sender after : MyQuicVideoSender}
    (rejected : sender.onIncomingData env manager now data =
      some (.error (.invalidAckData, detail), after)) :
    ∃ frames, framePayload data = some frames ∧
      (after.sentQueue = sender.sentQueue ↔
        ∀ before frameType bytes, FrameAt env frames before frameType bytes →
          StartsAckFrame frameType → ∀ packetNumber,
            sender.sentQueue.find? packetNumber ≠ none →
              ¬ListsPacket frameType bytes packetNumber) ∧
      ∀ before frameType bytes, FrameAt env frames before frameType bytes →
        StartsAckFrame frameType →
        let calls := (record env.io (processAckFrame env.io.kUFloat16MaxValue frameType)
          bytes).2.visitor
        let start := (MyQuicVideoSender.visitor manager).replay (sender.received now) before
        let done := (MyQuicVideoSender.visitor manager).replay start calls
        ((∃ packetNumber, start.sentQueue.find? packetNumber ≠ none ∧
            done.sentQueue.find? packetNumber = none) →
          ManagerCall.onAckFrameEnd now ∈ managerCalls now calls) ↔
        ((∃ packetNumber, start.sentQueue.find? packetNumber ≠ none ∧
            ListsPacket frameType bytes packetNumber) →
          EndsAck frameType bytes) := by
  cases payload : framePayload data with
  | none => simp [MyQuicVideoSender.onIncomingData, payload] at rejected
  | some frames =>
      rw [MyQuicVideoSender.onIncomingData_eq env manager now payload] at rejected
      have replayed : after = (MyQuicVideoSender.visitor manager).replay (sender.received now)
          (recordFrames env frames).2.visitor :=
        (congrArg Prod.snd (Option.some.inj rejected)).symm
      refine ⟨frames, rfl, ?_, ?_⟩
      · rw [replayed]
        have kept := MyQuicVideoSender.replay_sentQueue_eq_iff manager
          (recordFrames env frames).2.visitor (sender.received now)
        refine kept.trans ?_
        constructor
        · intro unacked before frameType bytes found starts packetNumber stored lists
          exact unacked packetNumber stored ((acked_recordFrames_iff env).mpr
            ⟨before, frameType, bytes, found, starts, lists⟩)
        · intro unlisted packetNumber stored acked
          have ⟨before, frameType, bytes, found, starts, lists⟩ :=
            (acked_recordFrames_iff env).mp acked
          exact unlisted before frameType bytes found starts packetNumber stored lists
      · intro before frameType bytes found starts calls start done
        have ended : ManagerCall.onAckFrameEnd now ∈ managerCalls now calls ↔
            EndsAck frameType bytes :=
          mem_frameEnd_iff.trans (hasLastRange_record_iff env.io frameType bytes)
        have removed : ∀ packetNumber, start.sentQueue.find? packetNumber ≠ none →
            (done.sentQueue.find? packetNumber = none ↔
              ListsPacket frameType bytes packetNumber) := by
          intro packetNumber stored
          have gone : done.sentQueue.find? packetNumber = none ↔ Acked calls packetNumber :=
            MyQuicVideoSender.find?_replay_sentQueue manager stored
          exact gone.trans (acked_record_iff env.io frameType bytes packetNumber)
        rw [ended]
        refine imp_congr_left ?_
        refine exists_congr fun packetNumber => ?_
        exact and_congr_right fun stored => removed packetNumber stored

/-! ### A frame that is truncated -/

/-- A sender that waits for acks of packets 1 and 2. -/
def waitingSender : MyQuicVideoSender where
  acks := ⟨[], 0, 1, 0⟩
  seq := 3
  pendingQueue := []
  sentQueue := (OrderedMap.empty.insert 1 1000).insert 2 500

/-- An ack of packet 2, with a block announced that does not follow. -/
def truncatedAck : List UInt8 := [0, 1, 0x60, 2, 0, 5, 1, 1]

theorem truncatedAck_calls :
    recordFrames plainEnv [0x60, 2, 0, 5, 1, 1] =
      (.error (.invalidAckData, "Unable to read gap to next ack block."),
        ⟨[], [.onAckFrameStart 2 (some 5), .onAckRange 2 3 false]⟩) := by
  decide +kernel

theorem truncatedAck_payload :
    framePayload truncatedAck = some [0x60, 2, 0, 5, 1, 1] := by
  decide

/-- The sender behind the ack. -/
def ackedSender : MyQuicVideoSender :=
  (MyQuicVideoSender.visitor idleManager).replay (waitingSender.received 7)
    [.onAckFrameStart 2 (some 5), .onAckRange 2 3 false]

theorem waitingSender_onIncomingData :
    waitingSender.onIncomingData plainEnv idleManager 7 truncatedAck =
      some (.error (.invalidAckData, "Unable to read gap to next ack block."), ackedSender) := by
  rw [MyQuicVideoSender.onIncomingData_eq plainEnv idleManager 7 truncatedAck_payload,
    truncatedAck_calls]
  rfl

theorem ackedSender_sentQueue :
    waitingSender.sentQueue.find? 2 = some 500 ∧ ackedSender.sentQueue.find? 2 = none := by
  decide

/-- The ack is rejected, packet 2 is removed, and the manager never ends the frame. -/
theorem rejected_ack_removes_truncatedAck :
    ∃ after, waitingSender.onIncomingData plainEnv idleManager 7 truncatedAck =
        some (.error (.invalidAckData, "Unable to read gap to next ack block."), after) ∧
      after.sentQueue ≠ waitingSender.sentQueue ∧
      waitingSender.sentQueue.find? 2 = some 500 ∧ after.sentQueue.find? 2 = none ∧
      ManagerCall.onAckFrameEnd 7 ∉ after.acks.sentPacketManager := by
  have ⟨stored, gone⟩ := ackedSender_sentQueue
  refine ⟨ackedSender, waitingSender_onIncomingData, ?_, stored, gone, by decide⟩
  intro same
  rw [same, stored] at gone
  cases gone

theorem rejected_ack_keeps_sentQueue_iff_truncatedAck :
    ¬∀ before frameType bytes,
      FrameAt plainEnv [0x60, 2, 0, 5, 1, 1] before frameType bytes →
      StartsAckFrame frameType → ∀ packetNumber,
        waitingSender.sentQueue.find? packetNumber ≠ none →
          ¬ListsPacket frameType bytes packetNumber := by
  intro unlisted
  have ⟨frames, payload, kept, _⟩ :=
    rejected_ack_keeps_sentQueue_iff plainEnv idleManager waitingSender_onIncomingData
  rw [truncatedAck_payload] at payload
  cases payload
  have ⟨stored, gone⟩ := ackedSender_sentQueue
  rw [kept.mpr unlisted, stored] at gone
  cases gone

end StupidSimple.Quic
