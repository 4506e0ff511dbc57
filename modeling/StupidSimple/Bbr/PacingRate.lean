import StupidSimple.Bbr.GainCycle

/-!
Owns `pacing_rate_`. It is set by accepted acks only, from the gain and the bandwidth
estimate that they find. `rate_fresh_iff` says in which runs it still is the rate of
these two after every event, and `limits_kept_iff` in which runs it stays within the
configured limits.
-/

namespace StupidSimple.Bbr

open StupidSimple.Library

variable {Bandwidth Filter : Type}

namespace Control

variable {platform : Platform Bandwidth Filter} {time : QuicTime} {draw : Nat}
  {control moded : Control Bandwidth Filter}

/-- The gain for which an accepted ack sets the rate, if it leaves the sender in
`PROBE_BW`; `control` is the state after its `UpdateRtt`. -/
def ackGain (time : QuicTime) (draw : Nat) (control : Control Bandwidth Filter) : Option ℚ :=
  match control.mode with
  | .probeRtt => if control.exits time then some (kPacingGain.getD (drawnOffset draw) 0) else none
  | .startUp => if control.expired time then none else some (kPacingGain.getD (drawnOffset draw) 0)
  | .probeBw => if control.expired time then none else some control.pacingGain

theorem Moded.limits (changed : Moded platform time draw control moded) :
    moded.minBps = control.minBps ∧ moded.maxBps = control.maxBps := by
  cases changed <;> exact ⟨rfl, rfl⟩

/-- Outside `PROBE_BW` there is no gain; in it the mode change leaves the estimate and
the rounds of the packets. -/
theorem Moded.ackGain_cases (changed : Moded platform time draw control moded) :
    (moded.mode ≠ .probeBw ∧ control.ackGain time draw = none) ∨
      (moded.mode = .probeBw ∧ control.ackGain time draw = some moded.pacingGain ∧
        moded.maxBandwidth = control.maxBandwidth ∧ moded.seqRoundMap = control.seqRoundMap) := by
  cases changed with
  | probing mode fresh =>
      refine Or.inr ⟨mode, ?_, rfl, rfl⟩
      simp only [ackGain, mode, if_neg fresh]
  | started mode fresh =>
      refine Or.inr ⟨rfl, ?_, rfl, rfl⟩
      simp only [ackGain, mode, if_neg fresh]
      rfl
  | entered outside expired =>
      refine Or.inl ⟨Mode.noConfusion, ?_⟩
      cases mode : control.mode with
      | startUp => simp only [ackGain, mode, if_pos expired]
      | probeBw => simp only [ackGain, mode, if_pos expired]
      | probeRtt => exact absurd mode outside
  | waited mode stays =>
      refine Or.inl ⟨?_, ?_⟩
      · intro probing
        exact nomatch mode.symm.trans probing
      · simp only [ackGain, mode, if_neg stays]
  | left mode elapsed =>
      refine Or.inr ⟨rfl, ?_, rfl, rfl⟩
      simp only [ackGain, mode, if_pos elapsed]
      rfl

end Control

namespace MyBbrSender

variable {platform : Platform Bandwidth Filter} {sender after : MyBbrSender Bandwidth Filter}
  {calls : List (Call Bandwidth)} [LinearOrder Bandwidth]

variable (platform) in
/-- The estimate that an ack of `number` makes: the first ack of a cluster estimates the
cluster before it, if that has a sample. -/
def estimateDue (now : QuicTime) (number : Nat) (sender : MyBbrSender Bandwidth Filter) :
    Option (Nat × Bandwidth) := do
  let round ← sender.seqRoundMap.find? number
  let ref ← sender.connectionInfo.find? round
  let cluster ← sender.heap.read ref
  let stamped ← sender.heap.modify ref fun object => { object with firstAckTs := now }
  let earlier ← cluster.prev.bind stamped.read
  if cluster.firstAckTs = 0 ∧ ¬earlier.noSample ∧ platform.zero < earlier.sample platform then
    some (earlier.clusterId, earlier.sample platform)
  else none

/-- The filter once it has taken the estimate that is due. -/
def filterDue (now : QuicTime) (number : Nat) (sender : MyBbrSender Bandwidth Filter)
    (platform : Platform Bandwidth Filter) : Filter :=
  (sender.estimateDue platform now number).elim sender.maxBandwidth fun due =>
    platform.update sender.maxBandwidth due.2 due.1

theorem maxBandwidth_triggerBandwidthEstimate {ref : ClusterRef}
    {object : SentClusterInfo Bandwidth} (read : sender.heap.read ref = some object)
    (triggered : sender.triggerBandwidthEstimate platform ref = some (after, calls)) :
    after.maxBandwidth =
      if ¬object.noSample ∧ platform.zero < object.sample platform then
        platform.update sender.maxBandwidth (object.sample platform) object.clusterId
      else sender.maxBandwidth := by
  simp only [triggerBandwidthEstimate, read, Option.bind_eq_bind, Option.bind_some] at triggered
  by_cases silent : object.noSample
  · rw [if_pos silent] at triggered
    rw [if_neg fun both => both.1 silent]
    cases triggered
    rfl
  · rw [if_neg silent] at triggered
    have ⟨heap, _, stored⟩ := Option.bind_eq_some_iff.mp triggered
    by_cases positive : platform.zero < object.sample platform
    · rw [if_pos positive] at stored
      rw [if_pos ⟨silent, positive⟩]
      cases stored
      rfl
    · rw [if_neg positive] at stored
      rw [if_neg fun both => positive both.2]
      cases stored
      rfl

/-- The first ack of a cluster, and the filter after it. -/
theorem maxBandwidth_clusterFirstAck {ref : ClusterRef} {cluster : SentClusterInfo Bandwidth}
    {now : QuicTime} (acked : sender.clusterFirstAck platform ref cluster now = some (after, calls))
    (heap : Heap (SentClusterInfo Bandwidth))
    (modified : sender.heap.modify ref (fun object => { object with firstAckTs := now }) =
      some heap) :
    after.maxBandwidth =
      ((cluster.prev.bind heap.read).bind fun earlier =>
        if cluster.firstAckTs = 0 ∧ ¬earlier.noSample ∧
            platform.zero < earlier.sample platform then
          some (earlier.clusterId, earlier.sample platform)
        else none).elim sender.maxBandwidth fun due =>
          platform.update sender.maxBandwidth due.2 due.1 := by
  by_cases first : cluster.firstAckTs = 0
  · rw [clusterFirstAck, if_pos first, modified] at acked
    cases link : cluster.prev with
    | none =>
        rw [link] at acked
        cases acked
        rfl
    | some prev =>
        simp only [link, Option.bind_eq_bind, Option.bind_some] at acked ⊢
        have ⟨object, read, _⟩ := Option.bind_eq_some_iff.mp acked
        rw [maxBandwidth_triggerBandwidthEstimate read acked]
        simp only at read
        rw [read, Option.bind_some]
        by_cases sampled : ¬object.noSample ∧ platform.zero < object.sample platform
        · rw [if_pos sampled, if_pos ⟨first, sampled⟩]
          rfl
        · rw [if_neg sampled, if_neg fun all => sampled all.2]
          rfl
  · rw [clusterFirstAck, if_neg first] at acked
    cases acked
    cases cluster.prev.bind heap.read with
    | none => rfl
    | some earlier =>
        rw [Option.bind_some, if_neg fun all => first all.1]
        rfl

/-- Crediting an ack gives the filter the estimate that is due. -/
theorem maxBandwidth_creditAckedPacket {now : QuicTime} {number : Nat}
    (credited : sender.creditAckedPacket platform now number = some (after, calls)) :
    after.maxBandwidth = sender.filterDue now number platform := by
  unfold creditAckedPacket at credited
  unfold filterDue estimateDue
  cases round : sender.seqRoundMap.find? number with
  | none =>
      rw [round] at credited
      cases credited
      rfl
  | some id =>
      rw [round] at credited
      simp only [Option.bind_eq_bind, Option.bind_some] at credited ⊢
      cases found : sender.connectionInfo.find? id with
      | none =>
          rw [found] at credited
          cases credited
          rfl
      | some ref =>
          rw [found] at credited
          simp only [Option.bind_some] at credited ⊢
          have ⟨cluster, read, rest⟩ := Option.bind_eq_some_iff.mp credited
          have ⟨first, triggered, credit⟩ := Option.bind_eq_some_iff.mp rest
          have ⟨head, _, stored⟩ := Option.bind_eq_some_iff.mp credit
          have ⟨left, _, same⟩ := Option.bind_eq_some_iff.mp stored
          have ⟨heap, modified⟩ := Heap.exists_modify read fun object =>
            { object with firstAckTs := now }
          have kept : after.maxBandwidth = first.1.maxBandwidth := by
            cases same
            rfl
          have law := maxBandwidth_clusterFirstAck triggered heap modified
          simp only at read
          rw [kept, law, read, modified]
          rfl

/-- The rate, the gain and the estimate after an accepted ack. -/
theorem rate_accepted {time : QuicTime} {number draw : Nat} (new : sender.lastAckSeq < number)
    (stepped : (bbrMachine platform).step sender (.ack time number draw) = some (after, calls)) :
    (after.mode ≠ .probeBw ∧ (sender.control.sampled time number).ackGain time draw = none ∧
        after.pacingRate = platform.fromBitsPerSecond sender.minBps) ∨
      (after.mode = .probeBw ∧
        (sender.control.sampled time number).ackGain time draw = some after.pacingGain ∧
        after.pacingRate = max (platform.fromBitsPerSecond sender.minBps)
          (platform.scaled after.pacingGain (platform.getBest sender.maxBandwidth)) ∧
        after.maxBandwidth = sender.filterDue time number platform) := by
  obtain ⟨moded, credited, cleared, estimates, averages, changed, clusters, credits, trims, _⟩ :=
    onAck_accepted new stepped
  have control := control_credited credits trims
  have mode : after.mode = moded.mode := congrArg Control.mode control
  have gain : after.pacingGain = moded.pacingGain := congrArg Control.pacingGain control
  have rate : after.pacingRate = (moded.control.paced platform).pacingRate :=
    congrArg Control.pacingRate control
  have minBps : moded.minBps = sender.minBps := changed.limits.1
  rw [mode, gain, rate, Control.paced]
  cases changed.ackGain_cases with
  | inl outside =>
      refine Or.inl ⟨outside.1, outside.2, ?_⟩
      rw [if_neg outside.1]
      exact congrArg platform.fromBitsPerSecond minBps
  | inr inside =>
      obtain ⟨probing, sameGain, sameFilter, sameRounds⟩ := inside
      refine Or.inr ⟨probing, sameGain, ?_, ?_⟩
      · have filter : moded.control.maxBandwidth = sender.maxBandwidth := sameFilter
        rw [if_pos probing, Control.probeRate, filter]
        exact congrArg (fun bps => max (platform.fromBitsPerSecond bps) _) minBps
      · have averaged : after.maxBandwidth = credited.maxBandwidth :=
          congrArg Control.maxBandwidth (kept_updateAverageBandwidth trims).control
        have paced : (moded.calculatePacingRate platform).control = moded.control.paced platform :=
          control_calculatePacingRate moded
        obtain ⟨sameHeap, sameHeld⟩ := clusters_calculatePacingRate platform moded
        have rounds : (moded.calculatePacingRate platform).seqRoundMap = sender.seqRoundMap :=
          (congrArg Control.seqRoundMap paced).trans sameRounds
        have filter : (moded.calculatePacingRate platform).maxBandwidth = sender.maxBandwidth :=
          (congrArg Control.maxBandwidth paced).trans sameFilter
        cases clusters with
        | kept heap held _ =>
            rw [averaged, maxBandwidth_creditAckedPacket credits, filterDue, filterDue,
              estimateDue, estimateDue, rounds, filter, sameHeap, sameHeld, heap, held]
        | cleared stopped _ _ => exact absurd probing (ne_of_eq_of_ne stopped (by decide))

end MyBbrSender

/-! ### Freshness of the rate -/

section Fresh

variable [LinearOrder Bandwidth] (platform : Platform Bandwidth Filter)
  (sender : MyBbrSender Bandwidth Filter) (now : SenderTransition Bandwidth Filter)

/-- The rate of a gain and a state of the bandwidth filter. -/
def rateOf (gain : ℚ) (filter : Filter) : Bandwidth :=
  max (platform.fromBitsPerSecond sender.minBps) (platform.scaled gain (platform.getBest filter))

/-- In `PROBE_BW` the pacing rate is that of the gain and the bandwidth estimate. -/
def RateFresh : Prop :=
  sender.mode = .probeBw →
    sender.paceRate = max (platform.fromBitsPerSecond sender.minBps)
      (platform.scaled sender.pacingGain (sender.bandwidthEstimate platform))

/-- A packet that starts a phase finds one with the same rate, and the estimate that an
accepted ack makes leaves the rate. -/
def KeepsRate : Prop :=
  match now.event with
  | .packetSent time _ _ =>
      now.before.mode = .probeBw → now.before.minRtt < time - now.before.lastCycleStart →
        rateOf platform now.before
            (kPacingGain.getD ((now.before.cycleCurrentOffset + 1) % kGainCycleLength) 0)
            now.before.maxBandwidth =
          rateOf platform now.before now.before.pacingGain now.before.maxBandwidth
  | .ack time number draw =>
      now.before.lastAckSeq < number →
        ∀ gain ∈ (now.before.control.sampled time number).ackGain time draw,
          rateOf platform now.before gain (now.before.filterDue time number platform) =
            rateOf platform now.before gain now.before.maxBandwidth

variable {platform} {before after : MyBbrSender Bandwidth Filter} {event : Event}
  {calls : List (Call Bandwidth)}

theorem MyBbrSender.limits_step
    (stepped : (bbrMachine platform).step before event = some (after, calls)) :
    after.minBps = before.minBps ∧ after.maxBps = before.maxBps := by
  have step := control_step stepped
  generalize control : after.control = left at step
  have minBps : after.minBps = left.minBps := congrArg Control.minBps control
  have maxBps : after.maxBps = left.maxBps := congrArg Control.maxBps control
  rw [minBps, maxBps]
  cases step with
  | idle _ => exact ⟨rfl, rfl⟩
  | sent _ _ =>
      unfold Control.advanced
      split <;> exact ⟨rfl, rfl⟩
  | ignored _ => exact ⟨rfl, rfl⟩
  | accepted _ changed => exact changed.limits

/-- At each event the rate stays fresh exactly if the event keeps it. -/
theorem RateFresh.step (fresh : RateFresh platform before)
    (stepped : (bbrMachine platform).step before event = some (after, calls)) :
    RateFresh platform after ↔ KeepsRate platform ⟨before, event, after⟩ := by
  have ⟨minBps, _⟩ := MyBbrSender.limits_step stepped
  cases event with
  | packetSent time number bytes =>
      have step := MyBbrSender.control_step stepped
      generalize control : after.control = left at step
      have mode : after.mode = left.mode := congrArg Control.mode control
      have rate : after.pacingRate = left.pacingRate := congrArg Control.pacingRate control
      have gain : after.pacingGain = left.pacingGain := congrArg Control.pacingGain control
      have filter : after.maxBandwidth = left.maxBandwidth := congrArg Control.maxBandwidth control
      cases step with
      | idle outside =>
          refine iff_of_true ?_ ?_
          · intro probing
            exact absurd (mode.symm.trans probing) outside
          · intro probing
            exact absurd probing outside
      | sent ref probing =>
          have old : before.pacingRate =
              rateOf platform before before.pacingGain before.maxBandwidth := fresh probing
          rw [RateFresh, MyBbrSender.paceRate, MyBbrSender.bandwidthEstimate, mode, minBps, rate,
            gain, filter, KeepsRate]
          by_cases elapsed : before.control.phaseOver time
          · have next : before.control.advanced time = _ := if_pos elapsed
            simp only [next]
            constructor
            · intro same _ _
              exact (same probing).symm.trans old
            · intro same _
              exact old.trans (same probing elapsed).symm
          · have stays : before.control.advanced time = _ := if_neg elapsed
            simp only [stays]
            exact iff_of_true (fun _ => old) fun _ late => absurd late elapsed
  | ack time number draw =>
      by_cases ignored : number ≤ before.lastAckSeq
      · have ⟨same, _⟩ := MyBbrSender.step_ignored ignored stepped
        rw [same]
        exact iff_of_true fresh fun new => absurd new (Nat.not_lt.mpr ignored)
      · have new : before.lastAckSeq < number := Nat.lt_of_not_le ignored
        rw [RateFresh, MyBbrSender.paceRate, MyBbrSender.bandwidthEstimate, minBps, KeepsRate]
        simp only [imp_iff_right new]
        cases MyBbrSender.rate_accepted new stepped with
        | inl outside =>
            have ⟨mode, noGain, _⟩ := outside
            rw [noGain]
            exact iff_of_true (fun probing => absurd probing mode)
              fun gain taken => absurd taken (Option.not_mem_none gain)
        | inr inside =>
            have ⟨mode, gain, rate, filter⟩ := inside
            rw [gain, rate, filter, imp_iff_right mode]
            simp only [Option.mem_some_iff, forall_eq', rateOf]
            exact eq_comm

end Fresh

section Runs

variable [LinearOrder Bandwidth] (platform : Platform Bandwidth Filter)

/-- In exactly those runs the pacing rate is that of gain and estimate after every event
in `PROBE_BW`, in which every packet that starts a phase finds one with the same rate,
and every estimate leaves the rate. -/
theorem rate_fresh_iff (minBps startBps maxBps : Nat) (events : List Event) :
    (∀ now ∈ (bbrMachine platform).transitions (.create platform minBps startBps maxBps) events,
        RateFresh platform now.after) ↔
      ∀ now ∈ (bbrMachine platform).transitions (.create platform minBps startBps maxBps) events,
        KeepsRate platform now := by
  have initial : RateFresh platform (.create platform minBps startBps maxBps) :=
    Mode.noConfusion
  refine Machine.forall_transitions_iff (RateFresh platform) initial ?_ events
  intro middle event after calls fresh stepped
  exact ⟨fresh.step stepped, id⟩

/-- The first ack of the second cluster estimates the first one, and a later ack uses the
estimate. -/
def estimateRun : List Event :=
  [.packetSent 100000 1 1000, .ack 130000 1 0, .packetSent 131000 2 1000,
    .packetSent 132000 3 1000, .packetSent 170000 4 1000, .ack 180000 2 0, .ack 181000 3 0,
    .ack 200000 4 0, .packetSent 201000 5 1000, .ack 240000 5 0]

/-- The ack of packet 4 sets the rate before it makes the estimate. -/
theorem rate_stale_estimateRun :
    ClockOrdered estimateRun ∧ NumbersIncrease estimateRun ∧
      ((bbrMachine Platform.bits).transitions (.create Platform.bits 1000 1000 1000)
        estimateRun).length = estimateRun.length ∧
      ¬∀ now ∈ (bbrMachine Platform.bits).transitions (.create Platform.bits 1000 1000 1000)
        estimateRun, RateFresh Platform.bits now.after := by
  refine ⟨⟨by decide, by decide⟩, by unfold NumbersIncrease; decide, by decide +kernel, ?_⟩
  intro fresh
  have states : (((bbrMachine Platform.bits).transitions (.create Platform.bits 1000 1000 1000)
      estimateRun)[7]?).map (fun now => (now.event, now.after.mode, now.after.minBps,
        now.after.paceRate, now.after.pacingGain, now.after.bandwidthEstimate Platform.bits)) =
      some (.ack 200000 4 0, .probeBw, 1000, 1000, 3 / 4, 16000000) := by
    decide +kernel
  have ⟨now, found, same⟩ := Option.map_eq_some_iff.mp states
  have ⟨_, rest⟩ := Prod.mk.inj same
  have ⟨mode, rest⟩ := Prod.mk.inj rest
  have ⟨minBps, rest⟩ := Prod.mk.inj rest
  have ⟨rate, rest⟩ := Prod.mk.inj rest
  have ⟨gain, estimate⟩ := Prod.mk.inj rest
  have right := fresh now (List.mem_of_getElem? found) mode
  rw [minBps, rate, gain, estimate] at right
  exact absurd right (by decide +kernel)

end Runs

/-! ### The configured limits -/

section Limits

variable [LinearOrder Bandwidth] (platform : Platform Bandwidth Filter)

/-- The pacing rate is within the limits that the constructor was given. -/
def WithinLimits (sender : MyBbrSender Bandwidth Filter) : Prop :=
  platform.fromBitsPerSecond sender.minBps ≤ sender.paceRate ∧
    sender.paceRate ≤ platform.fromBitsPerSecond sender.maxBps

/-- An accepted ack that leaves the sender in `PROBE_BW` finds an estimate that its gain
does not raise above the maximum. -/
def KeepsMax (now : SenderTransition Bandwidth Filter) : Prop :=
  ∀ time number draw, now.event = .ack time number draw → now.before.lastAckSeq < number →
    ∀ gain ∈ (now.before.control.sampled time number).ackGain time draw,
      platform.scaled gain (now.before.bandwidthEstimate platform) ≤
        platform.fromBitsPerSecond now.before.maxBps

variable {platform} {before after : MyBbrSender Bandwidth Filter} {event : Event}
  {calls : List (Call Bandwidth)}

/-- At each event the rate stays within the limits exactly if an accepted ack keeps the
maximum; nothing lowers the minimum. -/
theorem WithinLimits.step (within : WithinLimits platform before)
    (ordered : platform.fromBitsPerSecond before.minBps ≤ platform.fromBitsPerSecond before.maxBps)
    (stepped : (bbrMachine platform).step before event = some (after, calls)) :
    WithinLimits platform after ↔ KeepsMax platform ⟨before, event, after⟩ := by
  have ⟨minBps, maxBps⟩ := MyBbrSender.limits_step stepped
  rw [WithinLimits, minBps, maxBps]
  cases event with
  | packetSent time number bytes =>
      have step := MyBbrSender.control_step stepped
      have rate : after.pacingRate = before.pacingRate := by
        generalize control : after.control = left at step
        have same : after.pacingRate = left.pacingRate := congrArg Control.pacingRate control
        rw [same]
        cases step with
        | idle _ => rfl
        | sent _ _ =>
            unfold Control.advanced
            split <;> rfl
      rw [MyBbrSender.paceRate, rate]
      exact iff_of_true within fun _ _ _ sends => nomatch sends
  | ack time number draw =>
      by_cases ignored : number ≤ before.lastAckSeq
      · have ⟨same, _⟩ := MyBbrSender.step_ignored ignored stepped
        rw [same]
        refine iff_of_true within ?_
        intro _ _ _ sends new
        cases sends
        exact absurd new (Nat.not_lt.mpr ignored)
      · have new : before.lastAckSeq < number := Nat.lt_of_not_le ignored
        have keeps_iff : KeepsMax platform ⟨before, .ack time number draw, after⟩ ↔
            ∀ gain ∈ (before.control.sampled time number).ackGain time draw,
              platform.scaled gain (platform.getBest before.maxBandwidth) ≤
                platform.fromBitsPerSecond before.maxBps := by
          constructor
          · intro keeps
            exact keeps time number draw rfl new
          · intro keeps _ _ _ sends _
            cases sends
            exact keeps
        rw [keeps_iff, MyBbrSender.paceRate]
        cases MyBbrSender.rate_accepted new stepped with
        | inl outside =>
            have ⟨_, noGain, rate⟩ := outside
            rw [noGain, rate]
            exact iff_of_true ⟨le_refl _, ordered⟩
              fun gain taken => absurd taken (Option.not_mem_none gain)
        | inr inside =>
            have ⟨_, gain, rate, _⟩ := inside
            rw [gain, rate]
            simp only [Option.mem_some_iff, forall_eq', max_le_iff]
            rw [and_iff_right (le_max_left _ _), and_iff_right ordered]

end Limits

section Runs

variable [LinearOrder Bandwidth] (platform : Platform Bandwidth Filter)

/-- In exactly those runs the pacing rate always is within the configured limits, in which
no accepted ack finds an estimate that its gain raises above the maximum. -/
theorem limits_kept_iff {minBps startBps maxBps : Nat} (low : minBps ≤ startBps)
    (high : startBps ≤ maxBps)
    (monotone : MonotoneOn platform.fromBitsPerSecond (Set.Iic maxBps)) (events : List Event) :
    (WithinLimits platform (.create platform minBps startBps maxBps) ∧
        ∀ now ∈ (bbrMachine platform).transitions (.create platform minBps startBps maxBps) events,
          WithinLimits platform now.after) ↔
      ∀ now ∈ (bbrMachine platform).transitions (.create platform minBps startBps maxBps) events,
        KeepsMax platform now := by
  have lower : platform.fromBitsPerSecond minBps ≤ platform.fromBitsPerSecond startBps :=
    monotone (low.trans high) high low
  have upper : platform.fromBitsPerSecond startBps ≤ platform.fromBitsPerSecond maxBps :=
    monotone high (Set.mem_Iic.mpr (le_refl maxBps)) high
  have initial : WithinLimits platform (.create platform minBps startBps maxBps) := ⟨lower, upper⟩
  rw [and_iff_right initial]
  refine Machine.forall_transitions_iff (fun sender => WithinLimits platform sender ∧
    sender.minBps = minBps ∧ sender.maxBps = maxBps) ⟨initial, rfl, rfl⟩ ?_ events
  intro middle event after calls ⟨within, sameMin, sameMax⟩ stepped
  have ordered : platform.fromBitsPerSecond middle.minBps ≤
      platform.fromBitsPerSecond middle.maxBps := by
    rw [sameMin, sameMax]
    exact lower.trans upper
  have ⟨minBps, maxBps⟩ := MyBbrSender.limits_step stepped
  exact ⟨within.step ordered stepped,
    fun still => ⟨still, minBps.trans sameMin, maxBps.trans sameMax⟩⟩

/-- The ack of packet 5 sets a rate of 16 Mbps; the maximum is 1000 bps. -/
theorem limits_exceeded_estimateRun :
    ClockOrdered estimateRun ∧ NumbersIncrease estimateRun ∧
      ((bbrMachine Platform.bits).transitions (.create Platform.bits 1000 1000 1000)
        estimateRun).length = estimateRun.length ∧
      ¬∀ now ∈ (bbrMachine Platform.bits).transitions (.create Platform.bits 1000 1000 1000)
        estimateRun, WithinLimits Platform.bits now.after := by
  refine ⟨⟨by decide, by decide⟩, by unfold NumbersIncrease; decide, by decide +kernel, ?_⟩
  intro within
  have states : (((bbrMachine Platform.bits).transitions (.create Platform.bits 1000 1000 1000)
      estimateRun)[9]?).map (fun now => (now.event, now.after.maxBps, now.after.paceRate)) =
      some (.ack 240000 5 0, 1000, 16000000) := by
    decide +kernel
  have ⟨now, found, same⟩ := Option.map_eq_some_iff.mp states
  have ⟨_, rest⟩ := Prod.mk.inj same
  have ⟨maxBps, rate⟩ := Prod.mk.inj rest
  have upper := (within now (List.mem_of_getElem? found)).2
  rw [maxBps, rate] at upper
  exact absurd upper (by decide)

theorem limits_kept_iff_estimateRun :
    MonotoneOn Platform.bits.fromBitsPerSecond (Set.Iic 1000) ∧
      ((WithinLimits Platform.bits (.create Platform.bits 1000 1000 1000) ∧
          ∀ now ∈ (bbrMachine Platform.bits).transitions (.create Platform.bits 1000 1000 1000)
            estimateRun, WithinLimits Platform.bits now.after) ↔
        ∀ now ∈ (bbrMachine Platform.bits).transitions (.create Platform.bits 1000 1000 1000)
          estimateRun, KeepsMax Platform.bits now) :=
  have monotone : MonotoneOn Platform.bits.fromBitsPerSecond (Set.Iic 1000) :=
    fun _ _ _ _ ordered => ordered
  ⟨monotone, limits_kept_iff Platform.bits (le_refl 1000) (le_refl 1000) monotone estimateRun⟩

end Runs

end StupidSimple.Bbr
