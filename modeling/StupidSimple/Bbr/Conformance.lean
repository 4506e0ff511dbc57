import StupidSimple.Bbr.Pacing
import StupidSimple.Quic.AckRoundTrip

/-!
Owns the conformance of `MyBbrSenderApp` to its pacer: whatever rates the sender
returns, the packets of every run are departures of a pacer that is at most a
millisecond early.
-/

namespace StupidSimple.Bbr

open StupidSimple.Library StupidSimple.Quic

section Apps

variable {Bandwidth Filter : Type} (transferTime : Bandwidth → Nat → Delta)

/-- The packets that are sent, each with its transfer time at the rate in force. -/
def departures : List (AppEvent Bandwidth) → List (Departure QuicTime) :=
  List.filterMap fun
    | .sent _ _ time bytes rate _ => some ⟨time, transferTime rate bytes⟩
    | _ => none

@[simp] theorem departures_append (first second : List (AppEvent Bandwidth)) :
    departures transferTime (first ++ second) =
      departures transferTime first ++ departures transferTime second :=
  List.filterMap_append

/-- A packet is let out exactly when its ideal time is at most the granularity ahead. -/
theorem MyPacingSender.timeUntilSend_eq_zero {now : QuicTime} {pacing : MyPacingSender} :
    pacing.timeUntilSend now = 0 ↔ pacing.idealNextPacketSendTime ≤ now + alarmGranularity := by
  have granular : (0 : Int) ≤ alarmGranularity := by decide
  unfold timeUntilSend
  split_ifs with early
  · constructor
    · intro due
      rw [sub_eq_zero.mp due] at early
      exact absurd early (not_lt.mpr (le_add_of_nonneg_right granular))
    · intro late
      exact absurd early (not_lt.mpr late)
  · exact iff_of_true rfl (not_lt.mp early)

variable {io : QuicData} {platform : Platform Bandwidth Filter} {transferTime}

/-! ### One call -/

theorem PacedApp.sendPacket_paced {type : TestProto} {now : QuicTime} {beyond : List UInt8}
    {app after : PacedApp Bandwidth Filter} {events : List (AppEvent Bandwidth)}
    (sent : app.sendPacket io platform transferTime type now beyond = some (after, events)) :
    ∃ cost, departures transferTime events = [⟨now, cost⟩] ∧
      after.pacing.idealNextPacketSendTime =
        idealAfter app.pacing.idealNextPacketSendTime ⟨now, cost⟩ ∧
      ∃ rate bytes, cost = transferTime rate bytes := by
  have ⟨result, _, same⟩ := Option.bind_eq_some_iff.mp sent
  cases same
  exact ⟨_, rfl, rfl, _, _, rfl⟩

variable [LinearOrder Bandwidth]

theorem PacedApp.receive_unpaced {now : QuicTime} {data : List UInt8} {draw : Nat}
    {app after : PacedApp Bandwidth Filter} {events : List (AppEvent Bandwidth)}
    (received : app.receive io platform now data draw = some (after, events)) :
    departures transferTime events = [] ∧ after.pacing = app.pacing := by
  unfold PacedApp.receive at received
  split_ifs at received
  · cases received
    exact ⟨rfl, rfl⟩
  · have ⟨acked, _, rest⟩ := Option.bind_eq_some_iff.mp received
    cases acked with
    | none =>
        cases rest
        exact ⟨rfl, rfl⟩
    | some num =>
        have ⟨result, _, same⟩ := Option.bind_eq_some_iff.mp rest
        cases same
        exact ⟨rfl, rfl⟩

/-- A call of `Process` sends nothing, or a packet that is not too early. -/
theorem MyBbrSenderApp.process_paced {input : AppInput}
    {sender after : MyBbrSenderApp Bandwidth Filter} {events : List (AppEvent Bandwidth)}
    (processed : sender.process io platform transferTime input = some (after, events)) :
    let ideal := sender.app.pacing.idealNextPacketSendTime
    let idealNext := after.app.pacing.idealNextPacketSendTime
    (departures transferTime events = [] ∧ idealNext = ideal) ∨
      ∃ cost, departures transferTime events = [⟨input.now, cost⟩] ∧
        ideal ≤ input.now + MyPacingSender.alarmGranularity ∧
        idealNext = idealAfter ideal ⟨input.now, cost⟩ ∧
        ∃ rate bytes, cost = transferTime rate bytes := by
  intro ideal idealNext
  have ⟨served, serving, rest⟩ := Option.bind_eq_some_iff.mp processed
  have ⟨informed, acking, same⟩ := Option.bind_eq_some_iff.mp rest
  cases same
  have ⟨received, receiving, sameApp⟩ := Option.bind_eq_some_iff.mp acking
  cases sameApp
  have ⟨silent, kept⟩ : departures transferTime received.2 = [] ∧
      received.1.pacing = served.1.app.pacing := PacedApp.receive_unpaced receiving
  have idealKept : idealNext = served.1.app.pacing.idealNextPacketSendTime :=
    congrArg MyPacingSender.idealNextPacketSendTime kept
  rw [departures_append, silent, List.append_nil, idealKept]
  unfold sendIfDue at serving
  split_ifs at serving with due
  · have ⟨result, sending, sameSent⟩ := Option.bind_eq_some_iff.mp serving
    cases sameSent
    have ⟨cost, departs, moved, charged⟩ := PacedApp.sendPacket_paced sending
    exact Or.inr ⟨cost, departs, MyPacingSender.timeUntilSend_eq_zero.mp due, moved, charged⟩
  · cases serving
    exact Or.inl ⟨rfl, rfl⟩

/-! ### Runs -/

variable {start sender : MyBbrSenderApp Bandwidth Filter}
  {history : List (AppInput × List (AppEvent Bandwidth))}

/-- The packets of a run are those of a pacer. -/
theorem MyBbrSenderApp.run_paced
    (run : (senderAppMachine io platform transferTime).Run start history sender) :
    Paced MyPacingSender.alarmGranularity start.app.pacing.idealNextPacketSendTime
      (departures transferTime (history.flatMap Prod.snd))
      sender.app.pacing.idealNextPacketSendTime := by
  induction run with
  | nil => exact .nil
  | snoc before stepped inductionHypothesis =>
      rw [List.flatMap_append, List.flatMap_singleton, departures_append]
      cases MyBbrSenderApp.process_paced stepped with
      | inl silent =>
          rw [silent.1, silent.2, List.append_nil]
          exact inductionHypothesis
      | inr sends =>
          have ⟨cost, departs, admitted, moved, _⟩ := sends
          rw [departs, moved]
          exact inductionHypothesis.snoc admitted

theorem MyBbrSenderApp.ideal_le_step (nonneg : ∀ rate bytes, 0 ≤ transferTime rate bytes)
    {input : AppInput} {after : MyBbrSenderApp Bandwidth Filter}
    {events : List (AppEvent Bandwidth)}
    (stepped : (senderAppMachine io platform transferTime).step sender input =
      some (after, events)) :
    sender.app.pacing.idealNextPacketSendTime ≤ after.app.pacing.idealNextPacketSendTime := by
  cases MyBbrSenderApp.process_paced stepped with
  | inl silent => exact silent.2.ge
  | inr sends =>
      have ⟨cost, _, _, moved, rate, bytes, charged⟩ := sends
      have free : 0 ≤ cost := charged ▸ nonneg rate bytes
      rw [moved]
      exact le_idealAfter _ free

/-- In every run, whatever pace rates the sender returns, the packets before the last
of a window take no more time to transfer than the window lasts, and a millisecond.
The ideal time of the next packet never decreases. -/
theorem pacing_conforms (nonneg : ∀ rate bytes, 0 ≤ transferTime rate bytes)
    (run : (senderAppMachine io platform transferTime).Run start history sender) :
    (∀ before first middle last after,
      departures transferTime (history.flatMap Prod.snd) =
          before ++ first :: (middle ++ last :: after) →
        totalCost (first :: middle) ≤ last.time - first.time + Delta.fromMilliseconds 1) ∧
    ∀ transition ∈ (senderAppMachine io platform transferTime).transitions start
        (history.map Prod.fst),
      transition.before.app.pacing.idealNextPacketSendTime ≤
        transition.after.app.pacing.idealNextPacketSendTime := by
  constructor
  · intro before first middle last after split
    exact (MyBbrSenderApp.run_paced run).conforms split
  · induction run with
    | nil =>
        intro transition member
        cases member
    | snoc before stepped inductionHypothesis =>
        intro transition member
        rw [List.map_append, List.map_singleton, before.transitions_snoc stepped] at member
        cases List.mem_append.mp member with
        | inl older => exact inductionHypothesis transition older
        | inr new =>
            rw [List.mem_singleton.mp new]
            exact MyBbrSenderApp.ideal_le_step nonneg stepped

end Apps

/-! ### Three packets at a megabit per second -/

/-- The microseconds that some bytes take at a rate in bits per second. -/
def bitsTransferTime (rate bytes : Nat) : Delta := (bytes * 8 * 1000000 / rate : Nat)

/-- The second call is too early. The packets take 11184 us each. -/
def threePacketInputs : List AppInput :=
  [⟨1000, 0, [], 0, []⟩, ⟨5000, 0, [], 0, []⟩, ⟨12000, 0, [], 0, []⟩, ⟨24000, 0, [], 0, []⟩]

theorem pacing_conforms_threePackets :
    ∃ history sender,
      (senderAppMachine plainEnv.io Platform.bits bitsTransferTime).Run
        (.create Platform.bits 1000000 1000000 1000000) history sender ∧
      history.map Prod.fst = threePacketInputs ∧
      departures bitsTransferTime (history.flatMap Prod.snd) =
        [⟨1000, 11184⟩, ⟨12000, 11184⟩, ⟨24000, 11184⟩] ∧
      totalCost [(⟨1000, 11184⟩ : Departure QuicTime), ⟨12000, 11184⟩] ≤
        24000 - 1000 + Delta.fromMilliseconds 1 := by
  have ⟨history, sender, run, sameInputs, checked⟩ :=
    (senderAppMachine plainEnv.io Platform.bits bitsTransferTime).exists_run_of_check
      (.create Platform.bits 1000000 1000000 1000000) threePacketInputs
      (fun result => departures bitsTransferTime (result.2.flatMap Prod.snd) =
        [⟨1000, 11184⟩, ⟨12000, 11184⟩, ⟨24000, 11184⟩])
      (by decide +kernel)
  have sent := of_decide_eq_true checked
  have nonneg : ∀ rate bytes, 0 ≤ bitsTransferTime rate bytes := fun _ _ => Int.natCast_nonneg _
  have window := (pacing_conforms nonneg run).1 [] ⟨1000, 11184⟩ [⟨12000, 11184⟩] ⟨24000, 11184⟩ []
    sent
  exact ⟨history, sender, run, sameInputs, sent, window⟩

end StupidSimple.Bbr
