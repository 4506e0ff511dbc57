import StupidSimple.Bbr.Sender

/-!
Owns the control of a sender: its state without the clusters and the averages over
them. `Control.Step` is the abstract model of what an event does to the control, and
`control_step` says that every step of the sender is such a step.

The clusters act on the control in one way only, by the estimates they make; these
are read off the calls of the step.
-/

namespace StupidSimple.Bbr

open StupidSimple.Library

/-- The state of a sender without its clusters and their averages. -/
structure Control (Bandwidth Filter : Type) where
  minBps : Nat
  maxBps : Nat
  mode : Mode
  roundTripCount : Nat
  seqRoundMap : OrderedMap Nat Nat
  seqTsMap : OrderedMap Nat QuicTime
  minRtt : Delta
  recoredMinRtt : Delta
  minRttTimestamp : QuicTime
  exitProbeRttAt : QuicTime
  pacingRate : Bandwidth
  pacingGain : ℚ
  cycleCurrentOffset : Nat
  lastCycleStart : QuicTime
  lastAckSeq : Nat
  maxBandwidth : Filter

/-- The phase in which `PROBE_BW` starts, from a random number: never the one that drains. -/
def drawnOffset (draw : Nat) : Nat :=
  if 1 ≤ draw % (kGainCycleLength - 1) then draw % (kGainCycleLength - 1) + 1
  else draw % (kGainCycleLength - 1)

namespace Control

variable {Bandwidth Filter : Type}

/-- An RTT sample restarts the expiry of the minimum: the first one, a lower one, or
a higher one within `kSimilarMinRttThreshold`. -/
def Refreshes (minRtt rtt : Delta) : Prop :=
  minRtt = 0 ∨ rtt < minRtt ∨ minRtt < rtt ∧ rtt ≤ minRtt.scale kSimilarMinRttThreshold

instance (minRtt rtt : Delta) : Decidable (Refreshes minRtt rtt) :=
  inferInstanceAs (Decidable (_ ∨ _))

/-- The round-trip time that the ack of `number` gives. -/
def rttSample (time : QuicTime) (number : Nat) (control : Control Bandwidth Filter) :
    Option Delta :=
  (control.seqTsMap.find? number).map (time - ·)

/-- An accepted ack takes its sample and forgets the send times up to it. -/
def sampled (time : QuicTime) (number : Nat) (control : Control Bandwidth Filter) :
    Control Bandwidth Filter :=
  { control with
    lastAckSeq := number
    seqTsMap := control.seqTsMap.eraseLE number
    minRtt := (control.rttSample time number).elim control.minRtt fun rtt =>
      if control.minRtt = 0 then rtt else min rtt control.minRtt
    minRttTimestamp := (control.rttSample time number).elim control.minRttTimestamp fun rtt =>
      if Refreshes control.minRtt rtt then time else control.minRttTimestamp }

/-- `PROBE_BW` starts in a drawn phase and a new round. -/
def probing (time : QuicTime) (draw : Nat) (control : Control Bandwidth Filter) :
    Control Bandwidth Filter :=
  { control with
    mode := .probeBw
    cycleCurrentOffset := drawnOffset draw
    lastCycleStart := time
    pacingGain := kPacingGain.getD (drawnOffset draw) 0
    roundTripCount := control.roundTripCount + 1 }

/-- A round-trip time has passed in the current phase. -/
def phaseOver (time : QuicTime) (control : Control Bandwidth Filter) : Prop :=
  control.minRtt < time - control.lastCycleStart

instance (time : QuicTime) (control : Control Bandwidth Filter) :
    Decidable (control.phaseOver time) :=
  inferInstanceAs (Decidable (_ < _))

/-- The next phase, when a round-trip time has passed. -/
def advanced (time : QuicTime) (control : Control Bandwidth Filter) : Control Bandwidth Filter :=
  if control.phaseOver time then
    { control with
      cycleCurrentOffset := (control.cycleCurrentOffset + 1) % kGainCycleLength
      lastCycleStart := time
      pacingGain := kPacingGain.getD ((control.cycleCurrentOffset + 1) % kGainCycleLength) 0
      roundTripCount := control.roundTripCount + 1 }
  else control

/-- The minimum RTT has not been confirmed for `kMinRttExpiry`. -/
def expired (time : QuicTime) (control : Control Bandwidth Filter) : Prop :=
  control.minRttTimestamp + kMinRttExpiry < time

instance (time : QuicTime) (control : Control Bandwidth Filter) :
    Decidable (control.expired time) :=
  inferInstanceAs (Decidable (_ < _))

/-- When `PROBE_RTT` ends. -/
def exitTime (time : QuicTime) (control : Control Bandwidth Filter) : QuicTime :=
  if control.exitProbeRttAt = 0 then time + kProbeRttTime else control.exitProbeRttAt

/-- `PROBE_RTT` is over, by the timer or by an RTT near the last minimum. -/
def exits (time : QuicTime) (control : Control Bandwidth Filter) : Prop :=
  control.exitTime time < time ∨ control.minRtt ≠ 0 ∧ control.recoredMinRtt ≠ 0 ∧
    control.minRtt < control.recoredMinRtt.scale kSimilarMinRttThreshold

instance (time : QuicTime) (control : Control Bandwidth Filter) : Decidable (control.exits time) :=
  inferInstanceAs (Decidable (_ ∨ _))

theorem seqRoundMap_advanced (time : QuicTime) (control : Control Bandwidth Filter) :
    (control.advanced time).seqRoundMap = control.seqRoundMap := by
  unfold advanced
  split <;> rfl

section Platform

variable (platform : Platform Bandwidth Filter)

/-- The filter of the maximum takes the estimates among the calls. -/
def estimated (calls : List (Call Bandwidth)) (control : Control Bandwidth Filter) :
    Control Bandwidth Filter :=
  { control with
    maxBandwidth := calls.foldl
      (fun filter call =>
        match call with
        | .estimateBandwidth _ clusterId bw => platform.update filter bw clusterId
        | _ => filter)
      control.maxBandwidth }

/-- The mode changes of an accepted ack. -/
inductive Moded (time : QuicTime) (draw : Nat) (control : Control Bandwidth Filter) :
    Control Bandwidth Filter → Prop
  | probing (mode : control.mode = .probeBw) (fresh : ¬control.expired time) :
      Moded time draw control control
  | started (mode : control.mode = .startUp) (fresh : ¬control.expired time) :
      Moded time draw control (control.probing time draw)
  | entered {offset : Nat} {start : QuicTime} (mode : control.mode ≠ .probeRtt)
      (expired : control.expired time) :
      Moded time draw control
        { control with
          mode := .probeRtt
          pacingGain := 1
          exitProbeRttAt := time + kProbeRttTime
          roundTripCount := 0
          recoredMinRtt := control.minRtt
          minRtt := 0
          seqTsMap := OrderedMap.empty
          seqRoundMap := OrderedMap.empty
          maxBandwidth := platform.reset control.maxBandwidth platform.zero 0
          cycleCurrentOffset := offset
          lastCycleStart := start }
  | waited (mode : control.mode = .probeRtt) (stays : ¬control.exits time) :
      Moded time draw control { control with exitProbeRttAt := control.exitTime time }
  | left (mode : control.mode = .probeRtt) (elapsed : control.exits time) :
      Moded time draw control
        (probing time draw
          { control with exitProbeRttAt := control.exitTime time, recoredMinRtt := 0 })

variable [LinearOrder Bandwidth]

/-- The rate of `PROBE_BW`: the gain on the bandwidth estimate, but not below the
configured minimum. -/
def probeRate (control : Control Bandwidth Filter) : Bandwidth :=
  max (platform.fromBitsPerSecond control.minBps)
    (platform.scaled control.pacingGain (platform.getBest control.maxBandwidth))

/-- `CalculatePacingRate`. -/
def paced (control : Control Bandwidth Filter) : Control Bandwidth Filter :=
  { control with
    pacingRate :=
      if control.mode = .probeBw then control.probeRate platform
      else platform.fromBitsPerSecond control.minBps }

/-- What an event does to the control. -/
inductive Step (control : Control Bandwidth Filter) :
    Event → List (Call Bandwidth) → Control Bandwidth Filter → Prop
  | idle {time : QuicTime} {number bytes : Nat} (outside : control.mode ≠ .probeBw) :
      Step control (.packetSent time number bytes) []
        { control with seqTsMap := control.seqTsMap.insert number time }
  | sent {time : QuicTime} {number bytes : Nat} (ref : ClusterRef)
      (probing : control.mode = .probeBw) :
      Step control (.packetSent time number bytes) [.clusterPacketSent ref]
        { control.advanced time with
          seqTsMap := control.seqTsMap.insert number time
          seqRoundMap :=
            control.seqRoundMap.insert number (control.advanced time).roundTripCount }
  | ignored {time : QuicTime} {number draw : Nat} (old : number ≤ control.lastAckSeq) :
      Step control (.ack time number draw) [] control
  | accepted {time : QuicTime} {number draw : Nat} {moded : Control Bandwidth Filter}
      {cleared estimates averages : List (Call Bandwidth)} (new : control.lastAckSeq < number)
      (changed : Moded platform time draw (control.sampled time number) moded) :
      Step control (.ack time number draw) (cleared ++ estimates ++ averages)
        { estimated platform estimates (moded.paced platform) with
          seqRoundMap := moded.seqRoundMap.erase number }

end Platform

end Control

namespace MyBbrSender

variable {Bandwidth Filter : Type} (platform : Platform Bandwidth Filter)
  {sender middle after : MyBbrSender Bandwidth Filter} {calls more : List (Call Bandwidth)}

def control (sender : MyBbrSender Bandwidth Filter) : Control Bandwidth Filter where
  minBps := sender.minBps
  maxBps := sender.maxBps
  mode := sender.mode
  roundTripCount := sender.roundTripCount
  seqRoundMap := sender.seqRoundMap
  seqTsMap := sender.seqTsMap
  minRtt := sender.minRtt
  recoredMinRtt := sender.recoredMinRtt
  minRttTimestamp := sender.minRttTimestamp
  exitProbeRttAt := sender.exitProbeRttAt
  pacingRate := sender.pacingRate
  pacingGain := sender.pacingGain
  cycleCurrentOffset := sender.cycleCurrentOffset
  lastCycleStart := sender.lastCycleStart
  lastAckSeq := sender.lastAckSeq
  maxBandwidth := sender.maxBandwidth

/-! ### What the clusters do to the control -/

/-- The calls reach the control as estimates, and clusters are at most deleted. -/
structure Kept (calls : List (Call Bandwidth)) (before after : MyBbrSender Bandwidth Filter) :
    Prop where
  control : after.control = before.control.estimated platform calls
  held : ∀ id ref, after.connectionInfo.find? id = some ref →
    before.connectionInfo.find? id = some ref
  next : after.heap.next = before.heap.next

variable {platform}

theorem Kept.trans (first : Kept platform calls sender middle)
    (second : Kept platform more middle after) : Kept platform (calls ++ more) sender after where
  control := by
    rw [second.control, first.control]
    simp only [Control.estimated, List.foldl_append]
  held id ref found := first.held id ref (second.held id ref found)
  next := second.next.trans first.next

/-- Only the heap is written. -/
theorem kept_heap {heap : Heap (SentClusterInfo Bandwidth)} (next : heap.next = sender.heap.next) :
    Kept platform [] sender { sender with heap := heap } :=
  ⟨rfl, fun _ _ found => found, next⟩

theorem kept_modify {heap : Heap (SentClusterInfo Bandwidth)} {ref : ClusterRef}
    {update : SentClusterInfo Bandwidth → SentClusterInfo Bandwidth}
    (modified : sender.heap.modify ref update = some heap) :
    Kept platform [] sender { sender with heap := heap } := by
  have ⟨_, _, next, _⟩ := Heap.modify_eq_some.mp modified
  exact kept_heap next

theorem next_removeCluster {heap left : Heap (SentClusterInfo Bandwidth)} {entry : Nat × ClusterRef}
    (removed : removeCluster heap entry = some left) : left.next = heap.next := by
  have ⟨cluster, _, rest⟩ := Option.bind_eq_some_iff.mp removed
  simp only at rest
  split at rest
  · have ⟨unlinked, same, freed⟩ := Option.bind_eq_some_iff.mp rest
    have ⟨_, next, _⟩ := Heap.free_eq_some.mp freed
    rw [next, Option.some.inj same]
  · have ⟨unlinked, unlinking, freed⟩ := Option.bind_eq_some_iff.mp rest
    have ⟨_, next, _⟩ := Heap.free_eq_some.mp freed
    have ⟨_, _, sameNext, _⟩ := Heap.modify_eq_some.mp unlinking
    exact next.trans sameNext

theorem kept_removeClusterLE {round : Nat} (removed : sender.removeClusterLE round = some after) :
    Kept platform [] sender after := by
  have ⟨heap, removing, same⟩ := Option.bind_eq_some_iff.mp removed
  rw [← Option.some.inj same]
  refine ⟨rfl, ?_, Heap.next_foldlM next_removeCluster removing⟩
  intro id ref found
  have member := OrderedMap.find?_eq_some.mp found
  exact OrderedMap.find?_eq_some.mpr (OrderedMap.mem_eraseLE.mp member).1

theorem kept_dropStale {stale : Nat} (dropped : sender.dropStale stale = some after) :
    Kept platform [] sender after := by
  induction stale generalizing sender with
  | zero =>
      rw [← Option.some.inj dropped]
      exact ⟨rfl, fun _ _ found => found, rfl⟩
  | succ stale inductionHypothesis =>
      rw [dropStale] at dropped
      split at dropped
      · contradiction
      · have ⟨cluster, _, rest⟩ := Option.bind_eq_some_iff.mp dropped
        have ⟨removed, removes, drops⟩ := Option.bind_eq_some_iff.mp rest
        have gone : Kept platform [] { sender with ackedClusters := _ } removed :=
          kept_removeClusterLE removes
        have first : Kept platform [] sender removed := ⟨gone.control, gone.held, gone.next⟩
        exact first.trans (inductionHypothesis drops)

variable [LinearOrder Bandwidth]

theorem kept_updateAverageBandwidth
    (averaged : sender.updateAverageBandwidth platform = some (after, calls)) :
    Kept platform [] sender after := by
  unfold updateAverageBandwidth at averaged
  simp only at averaged
  split at averaged
  · have ⟨totals, _, rest⟩ := Option.bind_eq_some_iff.mp averaged
    have ⟨trimmed, drops, same⟩ := Option.bind_eq_some_iff.mp rest
    cases same
    have gone : Kept platform [] _ after := kept_dropStale drops
    exact ⟨gone.control, gone.held, gone.next⟩
  · cases averaged
    exact ⟨rfl, fun _ _ found => found, rfl⟩

theorem kept_triggerBandwidthEstimate {ref : ClusterRef}
    (triggered : sender.triggerBandwidthEstimate platform ref = some (after, calls)) :
    Kept platform calls sender after := by
  have ⟨cluster, _, rest⟩ := Option.bind_eq_some_iff.mp triggered
  split at rest
  · cases rest
    exact ⟨rfl, fun _ _ found => found, rfl⟩
  · have ⟨heap, modified, stored⟩ := Option.bind_eq_some_iff.mp rest
    have ⟨_, _, next, _⟩ := Heap.modify_eq_some.mp modified
    simp only at stored
    split at stored
    · cases stored
      exact ⟨rfl, fun _ _ found => found, next⟩
    · cases stored
      exact kept_heap next

theorem kept_clusterFirstAck {ref : ClusterRef} {cluster : SentClusterInfo Bandwidth}
    {now : QuicTime}
    (acked : sender.clusterFirstAck platform ref cluster now = some (after, calls)) :
    Kept platform calls sender after := by
  unfold clusterFirstAck at acked
  split at acked
  · have ⟨heap, modified, rest⟩ := Option.bind_eq_some_iff.mp acked
    have stamped : Kept platform [] sender { sender with heap := heap } := kept_modify modified
    split at rest
    · cases rest
      exact stamped
    · exact stamped.trans (kept_triggerBandwidthEstimate rest)
  · cases acked
    exact ⟨rfl, fun _ _ found => found, rfl⟩

theorem kept_clusterOnAck {ref : ClusterRef} {seq : Nat} {now : QuicTime}
    (acked : sender.clusterOnAck platform ref seq now = some (after, calls)) :
    Kept platform calls sender after := by
  have ⟨cluster, _, rest⟩ := Option.bind_eq_some_iff.mp acked
  have ⟨first, triggered, credit⟩ := Option.bind_eq_some_iff.mp rest
  have ⟨head, _, stored⟩ := Option.bind_eq_some_iff.mp credit
  have ⟨heap, modified, same⟩ := Option.bind_eq_some_iff.mp stored
  cases same
  have credited : Kept platform [] first.1 { first.1 with heap := heap } := kept_modify modified
  have both := (kept_clusterFirstAck triggered).trans credited
  rw [List.append_nil] at both
  exact both

/-- Crediting an ack forgets the round of its packet. -/
theorem kept_creditAckedPacket {now : QuicTime} {number : Nat}
    (credited : sender.creditAckedPacket platform now number = some (after, calls)) :
    Kept platform calls { sender with seqRoundMap := sender.seqRoundMap.erase number } after := by
  unfold creditAckedPacket at credited
  split at credited
  · next absent =>
      cases credited
      rw [OrderedMap.erase_of_find?_none absent]
      exact ⟨rfl, fun _ _ found => found, rfl⟩
  · simp only at credited
    split at credited
    · cases credited
      exact ⟨rfl, fun _ _ found => found, rfl⟩
    · exact kept_clusterOnAck credited

/-! ### The functions that act on the control -/

omit [LinearOrder Bandwidth] in
theorem control_updateRtt (sender : MyBbrSender Bandwidth Filter) (time : QuicTime) (number : Nat) :
    (updateRtt time number sender).control =
      { sender.control.sampled time number with lastAckSeq := sender.lastAckSeq } := by
  cases found : sender.seqTsMap.find? number with
  | none => simp [updateRtt, found, control, Control.sampled, Control.rttSample]
  | some sentTs =>
      simp only [updateRtt, found, control, Control.sampled, Control.rttSample, Option.map_some,
        Option.elim_some, Control.Refreshes]
      generalize time - sentTs = rtt
      by_cases unset : sender.minRtt = 0
      · simp [unset]
      · by_cases lower : rtt < sender.minRtt
        · simp [unset, lower, min_eq_left lower.le]
        · have kept : min rtt sender.minRtt = sender.minRtt := min_eq_right (not_lt.mp lower)
          by_cases near : sender.minRtt < rtt ∧
              rtt ≤ sender.minRtt.scale kSimilarMinRttThreshold
          · simp [unset, lower, kept, near]
          · simp [unset, lower, kept, near]

omit [LinearOrder Bandwidth] in
theorem clusters_updateRtt (sender : MyBbrSender Bandwidth Filter) (time : QuicTime)
    (number : Nat) :
    (updateRtt time number sender).heap = sender.heap ∧
      (updateRtt time number sender).connectionInfo = sender.connectionInfo := by
  cases found : sender.seqTsMap.find? number with
  | none => simp [updateRtt, found]
  | some sentTs =>
      simp only [updateRtt, found]
      split_ifs <;> exact ⟨rfl, rfl⟩

omit [LinearOrder Bandwidth] in
theorem control_enterProbeBandwidthMode (outside : sender.mode ≠ .probeBw) (now : QuicTime)
    (draw : Nat) :
    (sender.enterProbeBandwidthMode now draw).control = sender.control.probing now draw := by
  rw [enterProbeBandwidthMode, if_neg outside]
  rfl

omit [LinearOrder Bandwidth] in
theorem control_updateGainCyclePhase (sender : MyBbrSender Bandwidth Filter) (now : QuicTime) :
    (sender.updateGainCyclePhase now).control = sender.control.advanced now := by
  by_cases elapsed : sender.minRtt < now - sender.lastCycleStart
  · rw [updateGainCyclePhase, if_pos elapsed, Control.advanced, if_pos (by exact elapsed)]
    rfl
  · rw [updateGainCyclePhase, if_neg elapsed, Control.advanced, if_neg (by exact elapsed)]

theorem control_calculatePacingRate (sender : MyBbrSender Bandwidth Filter) :
    (sender.calculatePacingRate platform).control = sender.control.paced platform := by
  cases mode : sender.mode with
  | startUp => simp [calculatePacingRate, control, Control.paced, mode]
  | probeRtt => simp [calculatePacingRate, control, Control.paced, mode]
  | probeBw =>
      simp only [calculatePacingRate, control, Control.paced, Control.probeRate, mode, if_true,
        max_def]
      split_ifs with below above above
      · exact absurd below (not_lt.mpr above)
      · rfl
      · rfl
      · exact absurd (not_lt.mp below) above

/-! ### Mode changes -/

/-- The clusters are as before, or all of them are deleted. -/
inductive ClustersModed (before after : MyBbrSender Bandwidth Filter) :
    List (Call Bandwidth) → Prop
  | kept (heap : after.heap = before.heap) (held : after.connectionInfo = before.connectionInfo)
      (stays : before.mode ≠ .probeRtt → after.mode ≠ .probeRtt) :
      ClustersModed before after []
  | cleared (mode : after.mode = .probeRtt) (held : after.connectionInfo = OrderedMap.empty)
      (next : after.heap.next = before.heap.next) :
      ClustersModed before after [.clusterInfoClear]

omit [LinearOrder Bandwidth] in
theorem control_enterProbeRtt (entering : sender.enterProbeRtt platform = some after) :
    after.control =
      { sender.control with
        mode := .probeRtt
        pacingGain := 1
        exitProbeRttAt := 0
        roundTripCount := 0
        recoredMinRtt := sender.minRtt
        minRtt := 0
        seqTsMap := OrderedMap.empty
        seqRoundMap := OrderedMap.empty
        maxBandwidth := platform.reset sender.maxBandwidth platform.zero 0 } ∧
      ClustersModed sender after [.clusterInfoClear] := by
  have ⟨heap, freeing, same⟩ := Option.bind_eq_some_iff.mp entering
  rw [← Option.some.inj same]
  have next : heap.next = sender.heap.next :=
    Heap.next_foldlM (fun freed => (Heap.free_eq_some.mp freed).2.1) freeing
  exact ⟨rfl, .cleared rfl rfl next⟩

omit [LinearOrder Bandwidth] in
/-- A sender that has just entered `PROBE_RTT` stays there: its timer starts now. -/
theorem control_exitProbeRtt_entered (mode : sender.mode = .probeRtt)
    (timer : sender.exitProbeRttAt = 0) (unset : sender.minRtt = 0) (now : QuicTime) (draw : Nat) :
    sender.exitProbeRtt now draw = { sender with exitProbeRttAt := now + kProbeRttTime } := by
  have lasting : 0 ≤ kProbeRttTime := by decide
  have later : ¬now + kProbeRttTime < now := not_lt.mpr (le_add_of_nonneg_right lasting)
  simp only [exitProbeRtt, if_pos mode, if_pos timer, hasSampledLastMinRtt, unset]
  rw [if_neg]
  intro elapsed
  cases elapsed with
  | inl passed => exact later passed
  | inr near => exact near.1 rfl

omit [LinearOrder Bandwidth] in
theorem moded_exitProbeRtt (mode : sender.mode = .probeRtt) (now : QuicTime) (draw : Nat) :
    Control.Moded platform now draw sender.control (sender.exitProbeRtt now draw).control ∧
      ClustersModed sender (sender.exitProbeRtt now draw) [] := by
  have timed : (if sender.exitProbeRttAt = 0 then
        { sender with exitProbeRttAt := now + kProbeRttTime } else sender) =
      { sender with exitProbeRttAt := sender.control.exitTime now } := by
    by_cases timer : sender.exitProbeRttAt = 0
    · simp [timer, Control.exitTime, control]
    · simp [timer, Control.exitTime, control]
  by_cases elapsed : sender.control.exits now
  · have left : sender.exitProbeRtt now draw = enterProbeBandwidthMode now draw
        { sender with exitProbeRttAt := sender.control.exitTime now, recoredMinRtt := 0 } := by
      simp only [exitProbeRtt, if_pos mode, timed]
      exact if_pos elapsed
    have outside : sender.mode ≠ .probeBw := by simp [mode]
    have probing := control_enterProbeBandwidthMode (show
      ({ sender with exitProbeRttAt := sender.control.exitTime now, recoredMinRtt := 0 } :
        MyBbrSender Bandwidth Filter).mode ≠ .probeBw from outside) now draw
    rw [left, probing]
    refine ⟨.left mode elapsed, ?_⟩
    rw [enterProbeBandwidthMode, if_neg (by exact outside)]
    exact .kept rfl rfl fun _ => Mode.noConfusion
  · have waited : sender.exitProbeRtt now draw =
        { sender with exitProbeRttAt := sender.control.exitTime now } := by
      simp only [exitProbeRtt, if_pos mode, timed]
      exact if_neg elapsed
    rw [waited]
    exact ⟨.waited mode elapsed, .kept rfl rfl id⟩

/-- `MaybeEnterOrExitProbeRtt` after the start of `PROBE_BW`. -/
def readied (now : QuicTime) (draw : Nat) (sender : MyBbrSender Bandwidth Filter) :
    MyBbrSender Bandwidth Filter :=
  if sender.mode = .startUp then sender.enterProbeBandwidthMode now draw else sender

omit [LinearOrder Bandwidth] in
theorem exitProbeRtt_outside (outside : sender.mode ≠ .probeRtt) (now : QuicTime) (draw : Nat) :
    sender.exitProbeRtt now draw = sender :=
  if_neg outside

omit [LinearOrder Bandwidth] in
/-- What `readied` leaves as it is. -/
theorem readied_cases (sender : MyBbrSender Bandwidth Filter) (now : QuicTime) (draw : Nat) :
    (sender.mode ≠ .startUp ∧ sender.readied now draw = sender) ∨
      (sender.mode = .startUp ∧ (sender.readied now draw).mode = .probeBw ∧
        (sender.readied now draw).control = sender.control.probing now draw ∧
        ClustersModed sender (sender.readied now draw) []) := by
  by_cases start : sender.mode = .startUp
  · have outside : sender.mode ≠ .probeBw := by simp [start]
    refine Or.inr ⟨start, ?_⟩
    rw [readied, if_pos start, control_enterProbeBandwidthMode outside, enterProbeBandwidthMode,
      if_neg outside]
    exact ⟨rfl, rfl, .kept rfl rfl fun _ => Mode.noConfusion⟩
  · exact Or.inl ⟨start, if_neg start⟩

omit [LinearOrder Bandwidth] in
theorem moded_entered {now : QuicTime} {draw : Nat} (outside : sender.mode ≠ .probeRtt)
    (expired : sender.control.expired now)
    (moded : ((sender.readied now draw).enterProbeRtt platform).bind
      (fun entered => some (entered.exitProbeRtt now draw, [Call.clusterInfoClear])) =
        some (after, calls)) :
    Control.Moded platform now draw sender.control after.control ∧
      ClustersModed sender after calls := by
  have ⟨entered, entering, same⟩ := Option.bind_eq_some_iff.mp moded
  have ⟨control, clusters⟩ := control_enterProbeRtt entering
  have mode : entered.mode = .probeRtt := congrArg Control.mode control
  have timer : entered.exitProbeRttAt = 0 := congrArg Control.exitProbeRttAt control
  have unset : entered.minRtt = 0 := congrArg Control.minRtt control
  have waiting := control_exitProbeRtt_entered mode timer unset now draw
  have ⟨sameAfter, sameCalls⟩ := Prod.mk.inj (Option.some.inj same)
  rw [waiting] at sameAfter
  rw [← sameAfter, ← sameCalls]
  have stopped : Control.Moded platform now draw sender.control
      { entered.control with exitProbeRttAt := now + kProbeRttTime } := by
    rw [control]
    cases sender.readied_cases now draw with
    | inl stays =>
        rw [stays.2]
        exact .entered outside expired
    | inr starts =>
        have sameRtt : (sender.readied now draw).minRtt = sender.minRtt :=
          congrArg Control.minRtt starts.2.2.1
        have sameFilter : (sender.readied now draw).maxBandwidth = sender.maxBandwidth :=
          congrArg Control.maxBandwidth starts.2.2.1
        rw [starts.2.2.1, sameRtt, sameFilter]
        exact .entered outside expired
  have next : (sender.readied now draw).heap.next = sender.heap.next := by
    cases sender.readied_cases now draw with
    | inl stays => rw [stays.2]
    | inr starts =>
        cases starts.2.2.2 with
        | kept heap _ _ => rw [heap]
  cases clusters with
  | cleared _ held sameNext => exact ⟨stopped, .cleared mode held (sameNext.trans next)⟩

omit [LinearOrder Bandwidth] in
/-- An accepted ack changes the mode in one of five ways. -/
theorem moded_maybeEnterOrExitProbeRtt {now : QuicTime} {draw : Nat}
    (moded : (sender.readied now draw).maybeEnterOrExitProbeRtt platform now
      (decide ((sender.readied now draw).minRttTimestamp + kMinRttExpiry < now)) draw =
        some (after, calls)) :
    Control.Moded platform now draw sender.control after.control ∧
      ClustersModed sender after calls := by
  have sameStamp : (sender.readied now draw).minRttTimestamp = sender.minRttTimestamp := by
    cases sender.readied_cases now draw with
    | inl stays => rw [stays.2]
    | inr starts => exact congrArg Control.minRttTimestamp starts.2.2.1
  simp only [maybeEnterOrExitProbeRtt, sameStamp, decide_eq_true_eq] at moded
  cases sender.readied_cases now draw with
  | inl stays =>
      by_cases waits : sender.mode = .probeRtt
      · rw [stays.2, if_neg fun both => both.2 waits] at moded
        have ⟨sameAfter, sameCalls⟩ := Prod.mk.inj (Option.some.inj moded)
        rw [← sameAfter, ← sameCalls]
        exact moded_exitProbeRtt waits now draw
      · by_cases expired : sender.minRttTimestamp + kMinRttExpiry < now
        · rw [if_pos ⟨expired, by rw [stays.2]; exact waits⟩] at moded
          exact moded_entered waits expired moded
        · rw [if_neg fun both => expired both.1, stays.2, exitProbeRtt_outside waits] at moded
          have ⟨sameAfter, sameCalls⟩ := Prod.mk.inj (Option.some.inj moded)
          rw [← sameAfter, ← sameCalls]
          have probes : sender.mode = .probeBw := by
            cases mode : sender.mode with
            | startUp => exact absurd mode stays.1
            | probeRtt => exact absurd mode waits
            | probeBw => rfl
          exact ⟨.probing probes expired, .kept rfl rfl id⟩
  | inr starts =>
      have outside : sender.mode ≠ .probeRtt := by simp [starts.1]
      have ready : (sender.readied now draw).mode ≠ .probeRtt := by simp [starts.2.1]
      by_cases expired : sender.minRttTimestamp + kMinRttExpiry < now
      · rw [if_pos ⟨expired, ready⟩] at moded
        exact moded_entered outside expired moded
      · rw [if_neg fun both => expired both.1, exitProbeRtt_outside ready] at moded
        have ⟨sameAfter, sameCalls⟩ := Prod.mk.inj (Option.some.inj moded)
        rw [← sameAfter, ← sameCalls, starts.2.2.1]
        exact ⟨.started starts.1 expired, starts.2.2.2⟩

/-! ### The steps of the sender -/

/-- How an accepted ack runs: `UpdateRtt`, the mode changes, the pacing rate, the
cluster of the packet, the average. -/
theorem onAck_accepted {time : QuicTime} {number draw : Nat}
    (new : sender.lastAckSeq < number)
    (stepped : sender.onAck platform time number draw = some (after, calls)) :
    ∃ moded credited cleared estimates averages,
      Control.Moded platform time draw (sender.control.sampled time number) moded.control ∧
      ClustersModed sender moded cleared ∧
      (moded.calculatePacingRate platform).creditAckedPacket platform time number =
        some (credited, estimates) ∧
      credited.updateAverageBandwidth platform = some (after, averages) ∧
      calls = cleared ++ estimates ++ averages := by
  rw [onAck, if_neg (Nat.not_le.mpr new)] at stepped
  have ⟨⟨moded, cleared⟩, modes, rest⟩ := Option.bind_eq_some_iff.mp stepped
  have ⟨⟨credited, estimates⟩, credits, last⟩ := Option.bind_eq_some_iff.mp rest
  have ⟨⟨averaged, averages⟩, trims, same⟩ := Option.bind_eq_some_iff.mp last
  have ⟨sameAfter, sameCalls⟩ := Prod.mk.inj (Option.some.inj same)
  have ⟨changed, clusters⟩ := moded_maybeEnterOrExitProbeRtt modes
  rw [control_updateRtt] at changed
  refine ⟨moded, credited, cleared, estimates, averages, changed, ?_, credits, sameAfter ▸ trims,
    sameCalls.symm⟩
  have ⟨sameHeap, sameHeld⟩ :=
    clusters_updateRtt { sender with lastAckSeq := number } time number
  have sameMode : (updateRtt time number { sender with lastAckSeq := number }).mode = sender.mode :=
    congrArg Control.mode (control_updateRtt { sender with lastAckSeq := number } time number)
  cases clusters with
  | kept heap held stays =>
      exact .kept (heap.trans sameHeap) (held.trans sameHeld) (sameMode ▸ stays)
  | cleared mode held next => exact .cleared mode held (next.trans (congrArg Heap.next sameHeap))

omit [LinearOrder Bandwidth] in
/-- The cluster that takes a packet: the one of the current round, or a new one. -/
inductive Placed (before after : MyBbrSender Bandwidth Filter) : ClusterRef → Prop
  | current {ref : ClusterRef}
      (found : before.connectionInfo.find? before.roundTripCount = some ref)
      (held : after.connectionInfo = before.connectionInfo)
      (next : after.heap.next = before.heap.next) : Placed before after ref
  | created (absent : before.connectionInfo.find? before.roundTripCount = none)
      (held : after.connectionInfo =
        before.connectionInfo.insert before.roundTripCount before.heap.next)
      (next : after.heap.next = before.heap.next + 1) : Placed before after before.heap.next

omit [LinearOrder Bandwidth] in
theorem control_addPacketInfoSampler {now : QuicTime} {number bytes : Nat}
    (added : sender.addPacketInfoSampler platform now number bytes = some (after, calls)) :
    ∃ ref, calls = [.clusterPacketSent ref] ∧ Placed sender after ref ∧
      after.control =
        { sender.control with
          seqRoundMap := sender.seqRoundMap.insert number sender.roundTripCount } := by
  cases found : sender.connectionInfo.find? sender.roundTripCount with
  | some ref =>
      simp only [addPacketInfoSampler, found, Option.bind_eq_bind, Option.bind_some] at added
      have ⟨heap, modified, same⟩ := Option.bind_eq_some_iff.mp added
      have ⟨_, _, next, _⟩ := Heap.modify_eq_some.mp modified
      have ⟨sameAfter, sameCalls⟩ := Prod.mk.inj (Option.some.inj same)
      rw [← sameAfter]
      exact ⟨ref, sameCalls.symm, .current found rfl next, rfl⟩
  | none =>
      -- Whether there is a cluster before the new one or not, its address is the next one.
      have created : ∀ linked : Heap (SentClusterInfo Bandwidth),
          linked.next = sender.heap.next + 1 →
          (linked.modify sender.heap.next (SentClusterInfo.onPacketSent now number bytes)).bind
            (fun written => some
              ({ sender with
                  heap := written
                  connectionInfo :=
                    sender.connectionInfo.insert sender.roundTripCount sender.heap.next
                  seqRoundMap := sender.seqRoundMap.insert number sender.roundTripCount },
                [Call.clusterPacketSent sender.heap.next])) = some (after, calls) →
          ∃ ref, calls = [.clusterPacketSent ref] ∧ Placed sender after ref ∧
            after.control =
              { sender.control with
                seqRoundMap := sender.seqRoundMap.insert number sender.roundTripCount } := by
        intro linked linkedNext writing
        have ⟨heap, modified, same⟩ := Option.bind_eq_some_iff.mp writing
        have ⟨_, _, next, _⟩ := Heap.modify_eq_some.mp modified
        have ⟨sameAfter, sameCalls⟩ := Prod.mk.inj (Option.some.inj same)
        rw [← sameAfter]
        exact ⟨_, sameCalls.symm, .created found rfl (next.trans linkedNext), rfl⟩
      simp only [addPacketInfoSampler, found, Option.bind_eq_bind, Option.bind_some,
        Heap.alloc_fst] at added
      split at added
      · exact created _ (Heap.alloc_next ..) added
      · have ⟨linked, linking, writing⟩ := Option.bind_eq_some_iff.mp added
        have ⟨_, _, next, _⟩ := Heap.modify_eq_some.mp linking
        exact created linked next writing

omit [LinearOrder Bandwidth] in
/-- `OnPacketSent`, outside `PROBE_BW` and in it. -/
theorem onPacketSent_cases {time : QuicTime} {number bytes : Nat}
    (stepped : sender.onPacketSent platform time number bytes = some (after, calls)) :
    (sender.mode ≠ .probeBw ∧ calls = [] ∧
        after = { sender with seqTsMap := sender.seqTsMap.insert number time }) ∨
      (sender.mode = .probeBw ∧ ∃ ref, calls = [.clusterPacketSent ref] ∧
        Placed (sender.updateGainCyclePhase time) after ref ∧
        after.control =
          { sender.control.advanced time with
            seqTsMap := sender.seqTsMap.insert number time
            seqRoundMap := sender.seqRoundMap.insert number
              (sender.control.advanced time).roundTripCount }) := by
  unfold onPacketSent at stepped
  simp only at stepped
  split at stepped
  · next probing =>
      have commuted : updateGainCyclePhase time
            { sender with seqTsMap := sender.seqTsMap.insert number time } =
          { sender.updateGainCyclePhase time with
            seqTsMap := sender.seqTsMap.insert number time } := by
        unfold updateGainCyclePhase
        split <;> rfl
      rw [commuted] at stepped
      have ⟨ref, made, placed, control⟩ := control_addPacketInfoSampler stepped
      have advanced := control_updateGainCyclePhase sender time
      have sameMap : (sender.updateGainCyclePhase time).seqRoundMap = sender.seqRoundMap :=
        (congrArg Control.seqRoundMap advanced).trans (Control.seqRoundMap_advanced ..)
      refine Or.inr ⟨probing, ref, made, ?_, ?_⟩
      · cases placed with
        | current found held next => exact .current found held next
        | created absent held next => exact .created absent held next
      · rw [control, ← advanced, ← sameMap]
        rfl
  · next outside =>
      have ⟨sameAfter, sameCalls⟩ := Prod.mk.inj (Option.some.inj stepped)
      exact Or.inl ⟨outside, sameCalls.symm, sameAfter.symm⟩

theorem step_ignored {time : QuicTime} {number draw : Nat} (old : number ≤ sender.lastAckSeq)
    (stepped : (bbrMachine platform).step sender (.ack time number draw) = some (after, calls)) :
    after = sender ∧ calls = [] := by
  have ignored : some (sender, ([] : List (Call Bandwidth))) = some (after, calls) :=
    (if_pos old).symm.trans stepped
  have ⟨sameAfter, sameCalls⟩ := Prod.mk.inj (Option.some.inj ignored)
  exact ⟨sameAfter.symm, sameCalls.symm⟩

/-- The end of an accepted ack: the pacing rate is set, then the packet is credited. -/
theorem control_credited {moded credited : MyBbrSender Bandwidth Filter}
    {estimates averages : List (Call Bandwidth)} {time : QuicTime} {number : Nat}
    (credits : (moded.calculatePacingRate platform).creditAckedPacket platform time number =
      some (credited, estimates))
    (trims : credited.updateAverageBandwidth platform = some (after, averages)) :
    after.control = { Control.estimated platform estimates (moded.control.paced platform) with
      seqRoundMap := moded.seqRoundMap.erase number } := by
  have averaged := (kept_updateAverageBandwidth trims).control
  have counted := (kept_creditAckedPacket credits).control
  have paced : (moded.calculatePacingRate platform).control = moded.control.paced platform :=
    control_calculatePacingRate moded
  have sameMap : (moded.calculatePacingRate platform).seqRoundMap = moded.seqRoundMap :=
    congrArg Control.seqRoundMap paced
  rw [averaged, counted, ← paced, ← sameMap]
  rfl

/-- An accepted ack takes its sample, changes the mode, sets the pacing rate and credits
the packet, in this order. -/
theorem control_accepted {time : QuicTime} {number draw : Nat} (new : sender.lastAckSeq < number)
    (stepped : (bbrMachine platform).step sender (.ack time number draw) = some (after, calls)) :
    ∃ moded cleared estimates averages,
      Control.Moded platform time draw (sender.control.sampled time number) moded ∧
      after.control =
        { Control.estimated platform estimates (moded.paced platform) with
          seqRoundMap := moded.seqRoundMap.erase number } ∧
      calls = cleared ++ estimates ++ averages := by
  have ⟨moded, credited, cleared, estimates, averages, changed, _, credits, trims, made⟩ :=
    onAck_accepted new stepped
  exact ⟨moded.control, cleared, estimates, averages, changed, control_credited credits trims, made⟩

theorem control_step {event : Event}
    (stepped : (bbrMachine platform).step sender event = some (after, calls)) :
    sender.control.Step platform event calls after.control := by
  cases event with
  | packetSent time number bytes =>
      cases onPacketSent_cases stepped with
      | inl idle =>
          have ⟨outside, noCall, same⟩ := idle
          rw [noCall, same]
          exact .idle outside
      | inr probing =>
          have ⟨inside, ref, handed, _, same⟩ := probing
          rw [handed, same]
          exact .sent ref inside
  | ack time number draw =>
      by_cases old : number ≤ sender.lastAckSeq
      · have ⟨sameAfter, sameCalls⟩ := step_ignored old stepped
        rw [sameAfter, sameCalls]
        exact .ignored old
      · have new : sender.lastAckSeq < number := Nat.lt_of_not_le old
        have ⟨moded, cleared, estimates, averages, changed, same, made⟩ :=
          control_accepted new stepped
        rw [made, same]
        exact .accepted new changed

end MyBbrSender

end StupidSimple.Bbr
