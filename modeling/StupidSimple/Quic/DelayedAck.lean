import StupidSimple.Quic.Receiver

/-!
Owns the bound on delayed acks of `MyQuicReceiver`. Acks are sent for the first
packets, for every tenth packet and when the alarm expires. An ack that is not sent
by the alarm leaves it set; such an alarm is early for later packets, never late.
-/

namespace StupidSimple.Quic

open StupidSimple.Library

namespace MyQuicReceiver

/-- The arrivals of the stream packets that no `SendAck` covers, oldest first. -/
def uncovered (calls : List ReceivedCall) : List Nat :=
  calls.foldl (fun arrivals call =>
    match call with
    | .recordPacketReceived _ receiptTime => arrivals ++ [receiptTime]
    | .getUpdatedAckFrame _ => []
    | .dontWaitForPacketsBefore _ => arrivals) []

@[simp] theorem uncovered_received (calls : List ReceivedCall) (seq now : Nat) :
    uncovered (calls ++ [.recordPacketReceived seq now]) = uncovered calls ++ [now] := by
  simp [uncovered]

@[simp] theorem uncovered_acked (calls : List ReceivedCall) (now : Nat) :
    uncovered (calls ++ [.getUpdatedAckFrame now]) = [] := by
  simp [uncovered]

@[simp] theorem uncovered_stopWaiting (calls : List ReceivedCall) (leastUnacked : Nat) :
    uncovered (calls ++ [.dontWaitForPacketsBefore leastUnacked]) = uncovered calls := by
  simp [uncovered]

/-- The longest delay of an ack. -/
def maxDelay : Nat := clockTime mMaxDelayedAckTimeMs

/-! ### The invariant -/

/-- The alarm is set for whatever is uncovered, at a time that is not too late. -/
structure Armed (now : Nat) (receiver : MyQuicReceiver) : Prop where
  counted : receiver.numPacketsReceivedSinceLastAckSent =
    (uncovered receiver.recvPacketManager).length
  deadline_le : receiver.ackAlarm.deadline ≤ now + maxDelay
  isSet : uncovered receiver.recvPacketManager ≠ [] → receiver.ackAlarm.IsSet
  few : receiver.numPacketsReceivedSinceLastAckSent < mMaxRetransmittablePacketsBeforeAck
  inTime : ∀ arrival ∈ uncovered receiver.recvPacketManager,
    receiver.ackAlarm.deadline ≤ arrival + maxDelay

/-- The alarm has not expired. -/
structure Timely (now : Nat) (receiver : MyQuicReceiver) : Prop extends Armed now receiver where
  ahead : receiver.ackAlarm.IsSet → now < receiver.ackAlarm.deadline

variable {now : Nat} {receiver : MyQuicReceiver}

theorem Armed.initial (now : Nat) : Armed now create where
  counted := rfl
  deadline_le := Nat.zero_le _
  isSet nonempty := absurd rfl nonempty
  few := by decide
  inTime arrival member := absurd member List.not_mem_nil

theorem Armed.later {after : Nat} (armed : Armed now receiver) (ordered : now ≤ after) :
    Armed after receiver :=
  { armed with deadline_le := armed.deadline_le.trans (Nat.add_le_add_right ordered _) }

section Process

variable (io : QuicData) (manager : QuicReceivedPacketManager)

/-- An ack covers everything. -/
theorem Armed.sendAck (deadline_le : receiver.ackAlarm.deadline ≤ now + maxDelay) :
    Armed now (receiver.sendAck io manager now).1 := by
  have covered : uncovered (receiver.sendAck io manager now).1.recvPacketManager = [] :=
    uncovered_acked _ _
  constructor
  · rw [covered]
    rfl
  · exact deadline_le
  · intro nonempty
    exact absurd covered nonempty
  · show 0 < mMaxRetransmittablePacketsBeforeAck
    decide
  · rw [covered]
    intro arrival member
    cases member

/-- The decision about an ack, when the packet that has just come is recorded. -/
theorem Armed.maybeSendAck {calls : List ReceivedCall}
    (counted : receiver.numPacketsReceivedSinceLastAckSent =
      (uncovered receiver.recvPacketManager).length)
    (deadline_le : receiver.ackAlarm.deadline ≤ now + maxDelay)
    (arrivals : uncovered receiver.recvPacketManager = uncovered calls ++ [now])
    (isSet : uncovered calls ≠ [] → receiver.ackAlarm.IsSet)
    (inTime : ∀ arrival ∈ uncovered calls, receiver.ackAlarm.deadline ≤ arrival + maxDelay) :
    Armed now (receiver.maybeSendAck io manager now).1 := by
  unfold MyQuicReceiver.maybeSendAck
  split_ifs with first tenth alarmed
  · exact .sendAck io manager deadline_le
  · exact .sendAck io manager deadline_le
  · constructor
    · exact counted
    · exact deadline_le
    · intro _
      exact alarmed
    · exact Nat.lt_of_not_le tenth
    · intro arrival member
      rw [arrivals] at member
      cases List.mem_append.mp member with
      | inl older => exact inTime arrival older
      | inr new =>
          rw [List.mem_singleton.mp new]
          exact deadline_le
  · have none : uncovered calls = [] := by
      by_contra nonempty
      exact alarmed (isSet nonempty)
    rw [none, List.nil_append] at arrivals
    have delay : clockTime (min mMaxDelayedAckTimeMs (mMinRetransmissionTimeMs / 2)) = maxDelay :=
      rfl
    constructor
    · exact counted
    · show now + clockTime _ ≤ now + maxDelay
      rw [delay]
    · intro _
      show 0 < now + clockTime _
      have : 0 < maxDelay := by decide
      omega
    · exact Nat.lt_of_not_le tenth
    · intro arrival member
      rw [arrivals, List.mem_singleton] at member
      show now + clockTime _ ≤ arrival + maxDelay
      rw [member, delay]

/-- The manager has a new ack frame once a packet is recorded. -/
def UpdatesAckFrame : Prop :=
  ∀ calls packetNumber receiptTime,
    manager.ackFrameUpdated (calls ++ [.recordPacketReceived packetNumber receiptTime]) = true

variable {manager}

theorem Armed.onIncomingData (updates : UpdatesAckFrame manager) (data : List UInt8)
    (armed : Armed now receiver) :
    Armed now (receiver.onIncomingData io manager now data).1 := by
  unfold MyQuicReceiver.onIncomingData
  split
  next seqLen seq type rest read =>
  split_ifs with stream stopWaiting
  · have updated : manager.ackFrameUpdated
        (receiver.recordPacket now seq).recvPacketManager = true := updates _ seq now
    have arrivals : uncovered (receiver.recordPacket now seq).recvPacketManager =
        uncovered receiver.recvPacketManager ++ [now] := uncovered_received _ seq now
    have counted : (receiver.recordPacket now seq).numPacketsReceivedSinceLastAckSent =
        (uncovered (receiver.recordPacket now seq).recvPacketManager).length := by
      rw [arrivals, List.length_append, ← armed.counted]
      rfl
    unfold onStreamPacket
    simp only [updated, if_true]
    exact .maybeSendAck io manager counted armed.deadline_le arrivals armed.isSet armed.inTime
  · have arrivals := uncovered_stopWaiting receiver.recvPacketManager
      (readOrZero io seqLen.bytes rest)
    constructor
    · rw [arrivals]
      exact armed.counted
    · exact armed.deadline_le
    · rw [arrivals]
      exact armed.isSet
    · exact armed.few
    · rw [arrivals]
      exact armed.inTime
  · exact armed

theorem Armed.receive (updates : UpdatesAckFrame manager) (data : List UInt8)
    (armed : Armed now receiver) : Armed now (receiver.receive io manager now data).1 := by
  unfold MyQuicReceiver.receive
  split_ifs with empty
  · exact armed
  · exact armed.onIncomingData io updates data

variable (manager)

theorem Timely.checkAlarm (armed : Armed now receiver) :
    Timely now (receiver.checkAlarm io manager now).1 := by
  unfold MyQuicReceiver.checkAlarm MyQuicAlarm.isExpired
  by_cases alarmed : receiver.ackAlarm.IsSet
  · by_cases expired : receiver.ackAlarm.deadline ≤ now
    · simp only [if_pos alarmed, if_pos expired, if_true]
      have cleared : Armed now (MyQuicReceiver.sendAck io manager now
          { receiver with ackAlarm := ⟨0⟩ }).1 := .sendAck io manager (Nat.zero_le _)
      exact { cleared with ahead := fun isSet => absurd isSet (Nat.lt_irrefl 0) }
    · simp only [if_pos alarmed, if_neg expired, Bool.false_eq_true, if_false]
      exact { armed with ahead := fun _ => Nat.lt_of_not_le expired }
  · simp only [if_neg alarmed, Bool.false_eq_true, if_false]
    exact { armed with ahead := fun isSet => absurd isSet alarmed }

variable {manager}

theorem Timely.process (updates : UpdatesAckFrame manager) (data : List UInt8)
    (armed : Armed now receiver) : Timely now (receiver.process io manager now data).1 :=
  .checkAlarm io manager (armed.receive io updates data)

end Process

/-! ### Runs -/

/-- The clock of the calls does not go back. -/
def ClockOrdered (calls : List (Nat × List UInt8)) : Prop :=
  calls.Pairwise fun earlier later => earlier.1 ≤ later.1

section Runs

variable {io : QuicData} {manager : QuicReceivedPacketManager}
  {history : List ((Nat × List UInt8) × List ReceiverEvent)}

theorem Timely.step (updates : UpdatesAckFrame manager) {call : Nat × List UInt8}
    {after : MyQuicReceiver} {events : List ReceiverEvent} (armed : Armed call.1 receiver)
    (stepped : (receiverMachine io manager).step receiver call = some (after, events)) :
    Timely call.1 after := by
  have same : (receiver.process io manager call.1 call.2).1 = after :=
    congrArg Prod.fst (Option.some.inj stepped)
  rw [← same]
  exact .process io updates call.2 armed

theorem Armed.run (updates : UpdatesAckFrame manager)
    (run : (receiverMachine io manager).Run .create history receiver)
    (clock : ClockOrdered (history.map Prod.fst)) {now : Nat}
    (past : ∀ call ∈ history.map Prod.fst, call.1 ≤ now) : Armed now receiver := by
  induction run generalizing now with
  | nil => exact .initial now
  | @snoc history state after call events before stepped inductionHypothesis =>
      rw [List.map_append] at clock past
      have ⟨earlier, _, ordered⟩ := List.pairwise_append.mp clock
      have armed : Armed call.1 state := inductionHypothesis earlier fun other member =>
        ordered other member call (List.mem_singleton_self _)
      have timely := Timely.step updates armed stepped
      exact timely.toArmed.later
        (past call (List.mem_append_right _ (List.mem_singleton_self _)))

theorem Timely.run (updates : UpdatesAckFrame manager)
    (run : (receiverMachine io manager).Run .create history receiver)
    (clock : ClockOrdered (history.map Prod.fst)) {now : Nat} {data : List UInt8}
    (last : (history.map Prod.fst).getLast? = some (now, data)) : Timely now receiver := by
  cases run with
  | nil => cases last
  | snoc before stepped =>
      rw [List.map_append, List.map_singleton, List.getLast?_concat] at last
      cases last
      rw [List.map_append] at clock
      have ⟨earlier, _, ordered⟩ := List.pairwise_append.mp clock
      have armed := Armed.run updates before earlier fun other member =>
        ordered other member _ (List.mem_singleton_self _)
      exact .step updates armed stepped

end Runs

end MyQuicReceiver

open MyQuicReceiver

/-- After each call of `Process` nothing awaits an ack, or at most nine packets do
and the alarm is set, later than the call and at most 25 ms behind the arrival of
each of them. So no packet awaits an ack 25 ms after its arrival. -/
theorem delayed_ack_bound (io : QuicData) {manager : QuicReceivedPacketManager}
    (updates : UpdatesAckFrame manager)
    {history : List ((Nat × List UInt8) × List ReceiverEvent)} {receiver : MyQuicReceiver}
    (run : (receiverMachine io manager).Run .create history receiver)
    (clock : ClockOrdered (history.map Prod.fst)) {now : Nat} {data : List UInt8}
    (last : (history.map Prod.fst).getLast? = some (now, data)) :
    (receiver.numPacketsReceivedSinceLastAckSent = 0 ∨
      receiver.numPacketsReceivedSinceLastAckSent ≤ 9 ∧ receiver.ackAlarm.IsSet ∧
        now < receiver.ackAlarm.deadline ∧
        ∃ oldest others, uncovered receiver.recvPacketManager = oldest :: others ∧
          receiver.ackAlarm.deadline ≤ oldest + clockTime 25) ∧
    ∀ arrival ∈ uncovered receiver.recvPacketManager, now < arrival + clockTime 25 := by
  have timely := Timely.run updates run clock last
  constructor
  · cases arrivals : uncovered receiver.recvPacketManager with
    | nil =>
        left
        rw [timely.counted, arrivals]
        rfl
    | cons oldest others =>
        right
        have isSet := timely.isSet (by simp [arrivals])
        refine ⟨Nat.le_of_lt_succ timely.few, isSet, timely.ahead isSet, oldest, others, rfl, ?_⟩
        exact timely.inTime oldest (by simp [arrivals])
  · intro arrival member
    have isSet := timely.isSet (List.ne_nil_of_mem member)
    exact (timely.ahead isSet).trans_le (timely.inTime arrival member)

/-! ### A hundred packets, one each millisecond -/

def largestReceived (calls : List ReceivedCall) : Nat :=
  calls.foldl (fun largest call =>
    match call with
    | .recordPacketReceived packetNumber _ => max largest packetNumber
    | _ => largest) 0

/-- A manager for packets that come in order from 1 on. -/
def inOrderManager : QuicReceivedPacketManager where
  ackFrameUpdated _ := true
  updatedAckFrame calls :=
    let largest := largestReceived calls
    if received : 0 < largest then
      ⟨largest, some 0, ⟨[⟨1, largest + 1, Nat.succ_lt_succ received⟩], by simp⟩⟩
    else ⟨0, some 0, ⟨[], by simp⟩⟩

def hundredPackets : List (Nat × List UInt8) :=
  (List.range 100).map fun i => (clockTime (i + 1), [0, UInt8.ofNat (i + 1), 8, 0, 0, 0, 0])

/-- The packet that is the first to wait for its ack. -/
theorem delayed_ack_bound_hundredPackets :
    ∃ history receiver,
      (receiverMachine .networkOrder inOrderManager).Run .create history receiver ∧
      history.map Prod.fst = hundredPackets ∧
      uncovered receiver.recvPacketManager = [clockTime 100] ∧
      ∀ arrival ∈ uncovered receiver.recvPacketManager, clockTime 100 < arrival + clockTime 25 := by
  have ⟨history, receiver, run, sameCalls, checked⟩ :=
    (receiverMachine .networkOrder inOrderManager).exists_run_of_check .create hundredPackets
      (fun result => uncovered result.1.recvPacketManager = [clockTime 100]) (by decide +kernel)
  refine ⟨history, receiver, run, sameCalls, of_decide_eq_true checked, ?_⟩
  have clock : ClockOrdered (history.map Prod.fst) := by
    rw [sameCalls]
    unfold ClockOrdered
    decide +kernel
  have last : (history.map Prod.fst).getLast? = some (clockTime 100, [0, 100, 8, 0, 0, 0, 0]) := by
    rw [sameCalls]
    decide +kernel
  exact (delayed_ack_bound .networkOrder (fun _ _ _ => rfl) run clock last).2

end StupidSimple.Quic
