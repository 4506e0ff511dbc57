import StupidSimple.Bbr.Bookkeeping
import StupidSimple.Bbr.ProbeRtt
import StupidSimple.Bbr.Trace

/-!
Owns the effect of an ack of a packet that was never sent. `OnAck` raises
`last_ack_seq_` before it looks the packet up, so such an ack makes the sender
ignore every later ack of a packet up to its number.

`creditOf` is what `OnAck` does with an ack, accepted or not and credited to which
cluster; `Harmless` compares the run with and without the extra ack.
-/

namespace StupidSimple.Bbr

open StupidSimple.Library

variable {Bandwidth Filter : Type}

/-- What becomes of an ack. -/
structure Credit where
  accepted : Bool
  cluster : Option ClusterRef
deriving DecidableEq, Repr

namespace MyBbrSender

variable (platform : Platform Bandwidth Filter)

/-- The part of `OnAck` that precedes the pacing rate and the lookup of the packet. -/
def ackModes (eventTime : QuicTime) (packetNumber draw : Nat)
    (sender : MyBbrSender Bandwidth Filter) :
    Option (MyBbrSender Bandwidth Filter × List (Call Bandwidth)) :=
  let timed := updateRtt eventTime packetNumber { sender with lastAckSeq := packetNumber }
  let started :=
    if timed.mode = .startUp then enterProbeBandwidthMode eventTime draw timed else timed
  let minRttExpired := decide (started.minRttTimestamp + kMinRttExpiry < eventTime)
  maybeEnterOrExitProbeRtt platform eventTime minRttExpired draw started

/-- The cluster of a packet, where `OnAck` finds one. -/
def clusterOf (packetNumber : Nat) (sender : MyBbrSender Bandwidth Filter) : Option ClusterRef :=
  (sender.seqRoundMap.find? packetNumber).bind sender.connectionInfo.find?

/-- What `OnAck` does with an ack: a number up to `last_ack_seq_` is ignored, any
other is credited to the cluster found after the changes of mode. -/
def creditOf (eventTime : QuicTime) (packetNumber draw : Nat)
    (sender : MyBbrSender Bandwidth Filter) : Credit :=
  if packetNumber ≤ sender.lastAckSeq then ⟨false, none⟩
  else
    ⟨true, (sender.ackModes platform eventTime packetNumber draw).bind fun moded =>
      moded.1.clusterOf packetNumber⟩

variable [LinearOrder Bandwidth] {platform}

/-- The lookup of `OnAck` ends in `SentClusterInfo::OnAck` of the cluster, if any. -/
theorem creditAckedPacket_of_cluster {now : QuicTime} {packetNumber : Nat}
    {sender : MyBbrSender Bandwidth Filter} {cluster : ClusterRef}
    (found : sender.clusterOf packetNumber = some cluster) :
    sender.creditAckedPacket platform now packetNumber =
      clusterOnAck platform cluster packetNumber now
        { sender with seqRoundMap := sender.seqRoundMap.erase packetNumber } := by
  have ⟨round, located, held⟩ := Option.bind_eq_some_iff.mp found
  simp only [creditAckedPacket, located, held]

/-- An ack of a cluster's packet reaches the cluster. -/
theorem onAck_of_cluster {eventTime : QuicTime} {packetNumber draw : Nat}
    {sender : MyBbrSender Bandwidth Filter} {cluster : ClusterRef}
    (credited : (sender.creditOf platform eventTime packetNumber draw).cluster = some cluster) :
    ∃ moded cleared, sender.ackModes platform eventTime packetNumber draw = some (moded, cleared) ∧
      sender.onAck platform eventTime packetNumber draw =
        (clusterOnAck platform cluster packetNumber eventTime
          { moded.calculatePacingRate platform with
            seqRoundMap := moded.seqRoundMap.erase packetNumber }).bind fun acked =>
          (updateAverageBandwidth platform acked.1).bind fun averaged =>
            some (averaged.1, cleared ++ acked.2 ++ averaged.2) := by
  unfold creditOf at credited
  split at credited
  · contradiction
  · next new =>
      have ⟨⟨moded, cleared⟩, modes, found⟩ := Option.bind_eq_some_iff.mp credited
      have kept := keeps_calculatePacingRate platform moded
      have foundPaced : (moded.calculatePacingRate platform).clusterOf packetNumber = some cluster := by
        rw [clusterOf, kept.seqRoundMap, kept.connectionInfo]
        exact found
      refine ⟨moded, cleared, modes, ?_⟩
      rw [onAck, if_neg new]
      refine (congrArg (Option.bind · _) modes).trans ?_
      simp only [Option.bind_some]
      rw [creditAckedPacket_of_cluster foundPaced, kept.seqRoundMap]
      rfl

end MyBbrSender

/-! ### Runs with and without a bogus ack -/

/-- The numbers passed to `OnPacketSent`. -/
def numbersSent (events : List Event) : List Nat := events.filterMap Event.sentNumber

/-- Packets are numbered 1, 2, 3, ... -/
def SentConsecutively (events : List Event) : Prop :=
  numbersSent events = List.range' 1 (numbersSent events).length

variable [LinearOrder Bandwidth]

/-- After the `bogus` ack took `sender` to `tricked`, every later ack of a packet that
was sent has the credit that it has without it, whatever happens in between. -/
def Harmless (platform : Platform Bandwidth Filter) (events : List Event) (bogus : Event)
    (sender tricked : MyBbrSender Bandwidth Filter) : Prop :=
  ∀ rest time number draw,
    ClockOrdered (events ++ bogus :: (rest ++ [.ack time number draw])) →
    SentConsecutively (events ++ rest) → number ∈ numbersSent (events ++ rest) →
    ((bbrMachine platform).exec sender rest).map
        (fun result => result.1.creditOf platform time number draw) =
      ((bbrMachine platform).exec tricked rest).map
        fun result => result.1.creditOf platform time number draw

theorem SentConsecutively.increase {events : List Event} (consecutive : SentConsecutively events) :
    NumbersIncrease events := by
  rw [NumbersIncrease]
  show (numbersSent events).Pairwise _
  rw [consecutive]
  exact List.pairwise_lt_range'

theorem numbersSent_append (left right : List Event) :
    numbersSent (left ++ right) = numbersSent left ++ numbersSent right :=
  List.filterMap_append

section Sends

/-- Calls of `OnPacketSent` for the numbers from `first` on. -/
def sendsFrom (time : QuicTime) (first count : Nat) : List Event :=
  (List.range' first count).map fun number => .packetSent time number 0

theorem numbersSent_sendsFrom (time : QuicTime) (first count : Nat) :
    numbersSent (sendsFrom time first count) = List.range' first count := by
  rw [numbersSent, sendsFrom, List.filterMap_map]
  exact List.filterMap_some

variable {platform : Platform Bandwidth Filter}

/-- Sending does not touch `last_ack_seq_`. -/
theorem lastAckSeq_sendsFrom {time : QuicTime} {first count : Nat}
    {sender after : MyBbrSender Bandwidth Filter} {history : History Bandwidth}
    (executed : (bbrMachine platform).exec sender (sendsFrom time first count) =
      some (after, history)) : after.lastAckSeq = sender.lastAckSeq := by
  have run := Machine.exec_run executed
  have onlySends : ∀ entry ∈ history, ∃ number, entry.1 = .packetSent time number 0 := by
    intro entry member
    have inside : entry.1 ∈ sendsFrom time first count := by
      rw [← Machine.exec_events executed]
      exact List.mem_map_of_mem member
    have ⟨number, _, same⟩ := List.mem_map.mp inside
    exact ⟨number, same.symm⟩
  clear executed
  induction run with
  | nil => rfl
  | @snoc history middle last event calls before stepped inductionHypothesis =>
      have earlier := inductionHypothesis fun entry member =>
        onlySends entry (List.mem_append_left _ member)
      have ⟨number, same⟩ := onlySends (event, calls) (by simp)
      have step := MyBbrSender.timing_step platform stepped
      simp only at same
      rw [same] at step
      rw [← earlier]
      generalize timingAfter : last.timing = timing at step
      cases step
      exact (congrArg Timing.lastAckSeq timingAfter : last.lastAckSeq = _)

/-- Consecutive sends go on where the numbers end. -/
theorem SentConsecutively.append_sendsFrom {events : List Event}
    (consecutive : SentConsecutively events) (time : QuicTime) (count : Nat) :
    SentConsecutively (events ++ sendsFrom time ((numbersSent events).length + 1) count) := by
  have numbers : numbersSent (events ++ sendsFrom time ((numbersSent events).length + 1) count) =
      List.range' 1 ((numbersSent events).length + count) := by
    rw [numbersSent_append, numbersSent_sendsFrom]
    nth_rewrite 1 [consecutive]
    rw [Nat.add_comm (numbersSent events).length 1]
    exact List.range'_append_1 ..
  rw [SentConsecutively, numbers, List.length_range']

theorem ClockOrdered.append_sendsFrom {events : List Event} {event : Event}
    (clock : ClockOrdered (events ++ [event])) (first count : Nat) {last : Event}
    (sameTime : last.time = event.time) :
    ClockOrdered (events ++ event :: (sendsFrom event.time first count ++ [last])) := by
  have later : ∀ added ∈ event :: (sendsFrom event.time first count ++ [last]),
      added.time = event.time := by
    intro added member
    cases List.mem_cons.mp member with
    | inl same => rw [same]
    | inr rest =>
        cases List.mem_append.mp rest with
        | inl sent =>
            have ⟨number, _, same⟩ := List.mem_map.mp sent
            rw [← same]
            rfl
        | inr ack => rw [List.mem_singleton.mp ack, sameTime]
  have ordered := List.pairwise_append.mp clock.monotone
  constructor
  · intro added member
    cases List.mem_append.mp member with
    | inl older => exact clock.positive added (List.mem_append_left _ older)
    | inr new =>
        rw [later added new]
        exact clock.positive event (by simp)
  · apply List.pairwise_append.mpr
    refine ⟨ordered.1, ?_, ?_⟩
    · apply List.pairwise_of_forall_mem_list
      intro left leftMember right rightMember
      rw [later left leftMember, later right rightMember]
    · intro old oldMember added member
      rw [later added member]
      exact ordered.2.2 old oldMember event (by simp)

end Sends

/-- An ack passes no number to `OnPacketSent`. -/
theorem numbersIncrease_insert_ack {left right : List Event} {time : QuicTime} {number draw : Nat}
    (increase : NumbersIncrease (left ++ right)) :
    NumbersIncrease (left ++ .ack time number draw :: right) := by
  rw [NumbersIncrease, List.filterMap_append] at increase ⊢
  exact increase

/-- An accepted ack raises `last_ack_seq_`, whatever packet it names. -/
theorem lastAckSeq_ack {platform : Platform Bandwidth Filter} {time : QuicTime} {number draw : Nat}
    {sender after : MyBbrSender Bandwidth Filter} {calls : List (Call Bandwidth)}
    (stepped : (bbrMachine platform).step sender (.ack time number draw) = some (after, calls))
    (new : sender.lastAckSeq < number) : after.lastAckSeq = number := by
  have step := MyBbrSender.timing_step platform stepped
  show after.timing.lastAckSeq = number
  generalize after.timing = timing at step
  cases step with
  | ignored old => exact absurd new (not_lt.mpr old)
  | entered _ sampled _ _ => exact sampled.lastAckSeq
  | passed _ sampled _ => exact sampled.lastAckSeq

/-- Every admissible continuation of a run completes. -/
theorem exec_continues (platform : Platform Bandwidth Filter) {minBps startBps maxBps : Nat}
    {events rest : List Event} {sender : MyBbrSender Bandwidth Filter}
    {history : History Bandwidth}
    (executed : (bbrMachine platform).exec (.create platform minBps startBps maxBps) events =
      some (sender, history))
    (clock : ClockOrdered (events ++ rest)) (increase : NumbersIncrease (events ++ rest)) :
    ∃ final tail, (bbrMachine platform).exec sender rest = some (final, tail) := by
  have ⟨final, whole, both, _⟩ := bookkeeping_safe platform minBps startBps maxBps clock increase
  rw [Machine.exec_append, executed, Option.bind_some] at both
  have ⟨last, continued, _⟩ := Option.map_eq_some_iff.mp both
  exact ⟨last.1, last.2, continued⟩

/-- In every reachable state an ack of a packet that was never sent is harmless for
the credit of all later acks exactly when its number is at most `last_ack_seq_`. -/
theorem bogus_ack_harmless_iff (platform : Platform Bandwidth Filter)
    (minBps startBps maxBps : Nat) {events : List Event} {time : QuicTime} {number draw : Nat}
    (clock : ClockOrdered (events ++ [.ack time number draw]))
    (consecutive : SentConsecutively events) (unsent : number ∉ numbersSent events) :
    ∃ sender history tricked calls,
      (bbrMachine platform).exec (.create platform minBps startBps maxBps) events =
        some (sender, history) ∧
      (bbrMachine platform).step sender (.ack time number draw) = some (tricked, calls) ∧
      (Harmless platform events (.ack time number draw) sender tricked ↔
        number ≤ sender.lastAckSeq) := by
  have increase : NumbersIncrease (events ++ [.ack time number draw]) := by
    apply numbersIncrease_insert_ack
    rw [List.append_nil]
    exact consecutive.increase
  obtain ⟨sender, history, executed, _⟩ :=
    bookkeeping_safe platform minBps startBps maxBps clock.restrict consecutive.increase
  obtain ⟨tricked, tail, continued⟩ := exec_continues platform executed clock increase
  obtain ⟨calls, stepped⟩ : ∃ calls,
      (bbrMachine platform).step sender (.ack time number draw) = some (tricked, calls) := by
    rw [Machine.exec] at continued
    split at continued
    · contradiction
    · next after output taken =>
        have same : after = tricked := congrArg Prod.fst (Option.some.inj continued)
        exact ⟨output, same ▸ taken⟩
  refine ⟨sender, history, tricked, calls, executed, stepped, ?_⟩
  constructor
  · intro harmless
    by_contra above
    have new : sender.lastAckSeq < number := Nat.lt_of_not_le above
    -- Go on with the packets up to the bogus number, and its genuine ack.
    let count := (numbersSent events).length
    have beyond : count < number := by
      rw [consecutive, List.mem_range'_1] at unsent
      omega
    let sends := sendsFrom time (count + 1) (number - count)
    have numbered := consecutive.append_sendsFrom time (number - count)
    have clockAll : ClockOrdered (events ++ .ack time number draw ::
        (sends ++ [.ack time number draw])) :=
      clock.append_sendsFrom (count + 1) (number - count) rfl
    have sentNow : number ∈ numbersSent (events ++ sends) := by
      rw [numbersSent_append, numbersSent_sendsFrom, List.mem_append, List.mem_range'_1]
      omega
    have shorter : (events ++ sends).Sublist (events ++ .ack time number draw ::
        (sends ++ [.ack time number draw])) :=
      ((List.sublist_append_left sends _).cons _).append_left events
    obtain ⟨plain, plainTail, plainRun⟩ :=
      exec_continues platform executed (clockAll.sublist shorter) numbered.increase
    have longer : (events ++ .ack time number draw :: sends).Sublist (events ++
        .ack time number draw :: (sends ++ [.ack time number draw])) :=
      ((List.sublist_append_left sends _).cons_cons _).append_left events
    obtain ⟨misled, misledTail, whole⟩ := exec_continues platform executed (clockAll.sublist longer)
      (numbersIncrease_insert_ack numbered.increase)
    rw [Machine.exec, stepped] at whole
    obtain ⟨last, misledRun, _⟩ := Option.map_eq_some_iff.mp whole
    have same := harmless sends time number draw clockAll numbered sentNow
    rw [plainRun, misledRun] at same
    have same : plain.creditOf platform time number draw =
        last.1.creditOf platform time number draw := Option.some.inj same
    have plainLast : plain.lastAckSeq = sender.lastAckSeq := lastAckSeq_sendsFrom plainRun
    have misledLast : last.1.lastAckSeq = number :=
      (lastAckSeq_sendsFrom misledRun).trans (lastAckSeq_ack stepped new)
    rw [MyBbrSender.creditOf, MyBbrSender.creditOf, plainLast, misledLast, if_neg above,
      if_pos le_rfl] at same
    exact Bool.noConfusion (congrArg Credit.accepted same)
  · intro old
    have ignored : tricked = sender := by
      have quiet : (bbrMachine platform).step sender (.ack time number draw) = some (sender, []) :=
        if_pos old
      exact congrArg Prod.fst (Option.some.inj (stepped.symm.trans quiet))
    intro rest later other draws _ _ _
    rw [ignored]

/-- Packet 1 is sent and acked, packet 2 is in flight. -/
def inFlightRun : List Event :=
  [.packetSent 1 1 1000, .ack 100000 1 0, .packetSent 100001 2 1000]

/-- An ack of packet 1000, which was never sent, makes the sender ignore the ack of
packet 2. -/
theorem bogus_ack_harms_inFlightRun :
    ClockOrdered (inFlightRun ++ [.ack 100002 1000 0]) ∧ SentConsecutively inFlightRun ∧
      1000 ∉ numbersSent inFlightRun ∧
      ∃ sender history tricked calls,
        (bbrMachine Platform.bits).exec (.create Platform.bits 1000 1000 1000) inFlightRun =
          some (sender, history) ∧
        (bbrMachine Platform.bits).step sender (.ack 100002 1000 0) = some (tricked, calls) ∧
        ¬Harmless Platform.bits inFlightRun (.ack 100002 1000 0) sender tricked := by
  refine ⟨⟨by decide, by decide⟩, by unfold SentConsecutively; decide, by decide, ?_⟩
  have credits : ((bbrMachine Platform.bits).exec (.create Platform.bits 1000 1000 1000)
      inFlightRun).any (fun plain =>
        ((bbrMachine Platform.bits).step plain.1 (.ack 100002 1000 0)).any fun tricked =>
          decide (plain.1.creditOf Platform.bits 200001 2 0 = ⟨true, some 0⟩ ∧
            tricked.1.creditOf Platform.bits 200001 2 0 = ⟨false, none⟩)) = true := by
    decide +kernel
  have ⟨plain, executed, rest⟩ := (Option.any_eq_true _ _).mp credits
  have ⟨tricked, stepped, checked⟩ := (Option.any_eq_true _ _).mp rest
  have ⟨credited, ignored⟩ := of_decide_eq_true checked
  refine ⟨plain.1, plain.2, tricked.1, tricked.2, executed, stepped, ?_⟩
  intro harmless
  have same := harmless [] 200001 2 0 ⟨by decide, by decide⟩ (by unfold SentConsecutively; decide)
    (by decide)
  have same : plain.1.creditOf Platform.bits 200001 2 0 =
      tricked.1.creditOf Platform.bits 200001 2 0 := Option.some.inj same
  rw [credited, ignored] at same
  exact Bool.noConfusion (congrArg Credit.accepted same)

theorem bogus_ack_harmless_iff_inFlightRun :
    (ClockOrdered (inFlightRun ++ [.ack 100002 1000 0]) ∧ SentConsecutively inFlightRun ∧
      1000 ∉ numbersSent inFlightRun) ∧
    ∃ sender history tricked calls,
      (bbrMachine Platform.bits).exec (.create Platform.bits 1000 1000 1000) inFlightRun =
        some (sender, history) ∧
      (bbrMachine Platform.bits).step sender (.ack 100002 1000 0) = some (tricked, calls) ∧
      (Harmless Platform.bits inFlightRun (.ack 100002 1000 0) sender tricked ↔
        1000 ≤ sender.lastAckSeq) :=
  have clock : ClockOrdered (inFlightRun ++ [.ack 100002 1000 0]) := ⟨by decide, by decide⟩
  have consecutive : SentConsecutively inFlightRun := by unfold SentConsecutively; decide
  have unsent : 1000 ∉ numbersSent inFlightRun := by decide
  ⟨⟨clock, consecutive, unsent⟩,
    bogus_ack_harmless_iff Platform.bits 1000 1000 1000 clock consecutive unsent⟩

end StupidSimple.Bbr
