import StupidSimple.Quic.AckRoundTrip
import StupidSimple.Quic.SenderCalls

/-!
Owns the completion of acks: which ack frames that `ProcessAckFrame` accepts make
the senders call `OnAckFrameEnd`, and how often.
-/

namespace StupidSimple.Quic

open StupidSimple.Library MyQuicFramer

/-! ### Ends of frames -/

theorem count_frameEnd_of_not_hasLastRange (now : Nat) {calls : List VisitorCall}
    (unflagged : ¬HasLastRange calls) :
    (managerCalls now calls).count (.onAckFrameEnd now) = 0 := by
  apply List.count_eq_zero.mpr
  intro member
  have ⟨call, called, passed⟩ := List.mem_flatMap.mp member
  cases call with
  | onAckRange start stop last =>
      cases last with
      | false => simp at passed
      | true => exact unflagged ⟨start, stop, called⟩
  | onAckFrameStart largestAcked ackDelayTime => simp at passed
  | _ => cases passed

theorem not_hasLastRange_of_not_range {calls : List VisitorCall}
    (others : ∀ call ∈ calls, ¬call.IsAckRange) : ¬HasLastRange calls := by
  rintro ⟨start, stop, member⟩
  exact others _ member trivial

/-- Calls with one flagged range end one frame. -/
theorem count_frameEnd_of_completesOnce {now : Nat} {calls : List VisitorCall}
    (once : CompletesOnce calls) : (managerCalls now calls).count (.onAckFrameEnd now) = 1 := by
  have ⟨before, start, stop, after, split, early, late⟩ := once
  have none := count_frameEnd_of_not_hasLastRange now early
  have noneLater := count_frameEnd_of_not_hasLastRange now
    (not_hasLastRange_of_not_range late)
  have one : managerCalls now (.onAckRange start stop true :: after) =
      [.onAckRange start stop, .onAckFrameEnd now] ++ managerCalls now after := rfl
  rw [split, managerCalls_append, List.count_append, none, one, List.count_append, noneLater]
  simp

/-! ### Frames of a datagram -/

variable (env : FramerEnv)

/-- The calls of a frame among those of its datagram. -/
theorem exists_calls_split {frames bytes : List UInt8} {before : List VisitorCall}
    {frameType : Nat} (found : FrameAt env frames before frameType bytes)
    (starts : StartsAckFrame frameType) :
    ∃ later, (recordFrames env frames).2.visitor =
      before ++ ((record env.io (processAckFrame env.io.kUFloat16MaxValue frameType)
        bytes).2.visitor ++ later) := by
  have ⟨later, split⟩ := found.processed env frames.length (Nat.le_refl _)
  rw [record_processFrame_ack env starts] at split
  refine ⟨later, ?_⟩
  cases frames with
  | nil => cases found
  | cons type rest =>
      rw [recordFrames, record_processFrameData_cons]
      exact split

/-- Both senders pass the calls of an accepted ack frame on to their managers, and
these end the frame once, in its last range, exactly where its bytes reach a range
that can be flagged: no block follows the first one, or the last block acks
packets. -/
theorem ack_completed_once_iff (manager : QuicSentPacketManager) (now : Nat)
    {data frames bytes : List UInt8} {before : List VisitorCall} {frameType : Nat}
    (payload : framePayload data = some frames)
    (found : FrameAt env frames before frameType bytes) (starts : StartsAckFrame frameType)
    (accepted : (record env.io (processAckFrame env.io.kUFloat16MaxValue frameType) bytes).1 =
      .ok ()) :
    let calls := (record env.io (processAckFrame env.io.kUFloat16MaxValue frameType)
      bytes).2.visitor
    (∃ later,
      (∀ sender : MyQuicSender, ∃ result after,
        sender.onIncomingData env manager now data = some (result, after) ∧
        after.acks.sentPacketManager = sender.acks.sentPacketManager ++
          (managerCalls now before ++ (managerCalls now calls ++ managerCalls now later))) ∧
      ∀ sender : MyQuicVideoSender, ∃ result after,
        sender.onIncomingData env manager now data = some (result, after) ∧
        after.acks.sentPacketManager = sender.acks.sentPacketManager ++
          (managerCalls now before ++ (managerCalls now calls ++ managerCalls now later))) ∧
    (CompletesOnce calls ∧ (managerCalls now calls).count (.onAckFrameEnd now) = 1 ↔
      EndsAck frameType bytes) := by
  intro calls
  have ⟨later, split⟩ := exists_calls_split env found starts
  have passed : managerCalls now (recordFrames env frames).2.visitor =
      managerCalls now before ++ (managerCalls now calls ++ managerCalls now later) := by
    rw [split, managerCalls_append, managerCalls_append]
  constructor
  · refine ⟨later, ?_, ?_⟩
    · intro sender
      have handled := MyQuicSender.onIncomingData_eq env manager now payload sender
      have told := MyQuicSender.onIncomingData_sentPacketManager env manager payload handled
      rw [passed] at told
      exact ⟨_, _, handled, told⟩
    · intro sender
      have handled := MyQuicVideoSender.onIncomingData_eq env manager now payload sender
      have told := MyQuicVideoSender.onIncomingData_sentPacketManager env manager payload handled
      rw [passed] at told
      exact ⟨_, _, handled, told⟩
  · have once := completesOnce_record_iff env.io frameType bytes accepted
    constructor
    · intro both
      exact once.mp both.1
    · intro ends
      have completes := once.mpr ends
      exact ⟨completes, count_frameEnd_of_completesOnce completes⟩

/-! ### A frame that is cut -/

/-- Packets 1 and 70000. The gap takes 275 blocks, so that the encoder stops among
the blocks without packets. -/
def cutFrame : QuicAckFrame where
  largestAcked := 70000
  ackDelayTime := some 5
  packets := ⟨[⟨1, 2, by decide⟩, ⟨70000, 70001, by decide⟩], by decide⟩

/-- A manager that has nothing to send or to retransmit. -/
def idleManager : QuicSentPacketManager where
  getLeastUnacked _ := 1
  timeUntilSend _ _ := none
  hasPendingRetransmissions _ := false
  nextPendingRetransmission _ := ⟨0, []⟩
  shouldSendProbingPacket _ := false

/-- What `SendAck` writes for `cutFrame` behind the type byte. -/
def cutBytes : List UInt8 :=
  [0, 1, 17, 112, 0, 5, 255, 1] ++ (List.replicate 255 [255, 0]).flatten ++ [0]

theorem cutFrame_calls :
    record plainEnv.io (processAckFrame plainEnv.io.kUFloat16MaxValue 104) cutBytes =
      (.ok (), ⟨[], [.onAckFrameStart 70000 (some 5), .onAckRange 70000 70001 false]⟩) := by
  decide +kernel

theorem cutFrame_unflagged : ¬HasLastRange
    [.onAckFrameStart 70000 (some 5), .onAckRange 70000 70001 false] := by
  simp [HasLastRange]

/-- `SendAck` writes a frame that is accepted and never ended. -/
theorem not_completed_once_cutFrame :
    sendAck plainEnv.io 1 cutFrame = some (104 :: cutBytes) ∧
    framePayload (0 :: 1 :: 104 :: cutBytes) = some (104 :: cutBytes) ∧
    (record plainEnv.io (processAckFrame plainEnv.io.kUFloat16MaxValue 104) cutBytes).1 = .ok () ∧
    ¬CompletesOnce (record plainEnv.io (processAckFrame plainEnv.io.kUFloat16MaxValue 104)
      cutBytes).2.visitor ∧
    (managerCalls 0 (record plainEnv.io (processAckFrame plainEnv.io.kUFloat16MaxValue 104)
      cutBytes).2.visitor).count (.onAckFrameEnd 0) = 0 := by
  refine ⟨by decide +kernel, by decide +kernel, ?_⟩
  rw [cutFrame_calls]
  exact ⟨rfl, fun once => cutFrame_unflagged (.of_completesOnce once),
    count_frameEnd_of_not_hasLastRange 0 cutFrame_unflagged⟩

theorem ack_completed_once_iff_cutFrame : ¬EndsAck 104 cutBytes := by
  intro ends
  have payload : framePayload (0 :: 1 :: 104 :: cutBytes) = some (104 :: cutBytes) := by
    decide +kernel
  have found : FrameAt plainEnv (104 :: cutBytes) [] 104 cutBytes := .first 104 cutBytes
  have accepted : (record plainEnv.io (processAckFrame plainEnv.io.kUFloat16MaxValue 104)
      cutBytes).1 = .ok () := by
    rw [cutFrame_calls]
  have both := (ack_completed_once_iff plainEnv idleManager 0 payload found (by decide)
    accepted).2.mpr ends
  have once := both.1
  rw [cutFrame_calls] at once
  exact cutFrame_unflagged (.of_completesOnce once)

end StupidSimple.Quic
