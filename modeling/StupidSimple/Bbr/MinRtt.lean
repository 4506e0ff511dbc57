import StupidSimple.Bbr.ProbeRtt

/-!
Owns the minimum RTT. `minimum_iff` says in which runs `min_rtt_` is the smallest of
the samples since the last entry into `PROBE_RTT`, `freshness_iff` when a sample
restarts its expiry and in which runs this keeps `PROBE_RTT` away.
-/

namespace StupidSimple.Bbr

open StupidSimple.Library

variable {Bandwidth Filter : Type}

/-! ### Samples -/

section Samples

variable (past : List (SenderTransition Bandwidth Filter))
  (now : SenderTransition Bandwidth Filter)

/-- The RTT sample of an accepted ack: the time since its packet was sent, when that
is still known. -/
def sampleOf : Option Delta :=
  match now.event with
  | .packetSent _ _ _ => none
  | .ack time number _ =>
      if now.before.lastAckSeq < number then
        (now.before.seqTsMap.find? number).map fun sentTs => time - sentTs
      else none

/-- The samples taken since the last entry into `PROBE_RTT`. The sample of the ack that
enters it is taken before. -/
def samplesSince : List Delta := (sinceEntry past).filterMap sampleOf

/-- After `UpdateRtt`, `min_rtt_` is the smallest sample since the last entry, if there
is one. -/
def MinimumAt : Prop :=
  ∀ time number draw, now.event = .ack time number draw → now.before.lastAckSeq < number →
    samplesSince past ++ (sampleOf now).toList ≠ [] →
    (samplesSince past ++ (sampleOf now).toList).min? = some
      (MyBbrSender.updateRtt time number { now.before with lastAckSeq := number }).minRtt

/-- No other sample than zero follows a sample of zero. -/
def ZeroKeptAt : Prop := 0 ∈ samplesSince past → ∀ rtt ∈ sampleOf now, rtt = 0

end Samples

section Minimum

variable {platform : Platform Bandwidth Filter} {past : List (SenderTransition Bandwidth Filter)}
  {before after : MyBbrSender Bandwidth Filter} {samples : List Delta} {minimum rtt : Delta}

theorem min?_snoc (found : samples.min? = some minimum) (rtt : Delta) :
    (samples ++ [rtt]).min? = some (min minimum rtt) := by
  cases samples with
  | nil => contradiction
  | cons first rest =>
      rw [List.min?_cons', Option.some.injEq] at found
      rw [List.cons_append, List.min?_cons', List.foldl_append, found]
      rfl

/-- The update is the minimum unless a positive sample follows a zero. -/
theorem min?_updated_iff (found : samples.min? = some minimum)
    (nonnegative : ∀ sample ∈ samples, 0 ≤ sample) (rtt : Delta) (sign : 0 ≤ rtt) :
    (samples ++ [rtt]).min? = some (if minimum = 0 then rtt else min rtt minimum) ↔
      (0 ∈ samples → rtt = 0) := by
  have least := List.min?_eq_some_iff.mp found
  have zero_mem : 0 ∈ samples ↔ minimum = 0 := by
    constructor
    · intro member
      exact le_antisymm (least.2 0 member) (nonnegative minimum least.1)
    · intro same
      exact same ▸ least.1
  rw [min?_snoc found, zero_mem, Option.some.injEq]
  by_cases unset : minimum = 0
  · rw [if_pos unset, unset, min_eq_left sign]
    simp only [true_imp_iff]
    exact eq_comm
  · rw [if_neg unset, min_comm]
    exact iff_of_true rfl fun zero => absurd zero unset

theorem sampleOf_ack (new : before.lastAckSeq < number) (time : QuicTime) (draw : Nat) :
    sampleOf ⟨before, .ack time number draw, after⟩ = before.control.rttSample time number :=
  if_pos new

theorem samplesSince_snoc (now : SenderTransition Bandwidth Filter) :
    samplesSince (past ++ [now]) =
      if EntersProbeRtt now then [] else samplesSince past ++ (sampleOf now).toList := by
  rw [samplesSince, sinceEntry_snoc]
  by_cases enters : EntersProbeRtt now
  · rw [if_pos enters, if_pos enters, List.filterMap_nil]
  · rw [if_neg enters, if_neg enters, List.filterMap_append, samplesSince]
    cases taken : sampleOf now with
    | none => simp [taken]
    | some rtt => simp [taken]

/-- What a mode change does to the samples: they are forgotten on entry into
`PROBE_RTT`, and kept otherwise. -/
theorem Control.Moded.samples_cases {time : QuicTime} {draw : Nat}
    {control moded : Control Bandwidth Filter} (changed : Moded platform time draw control moded) :
    (control.mode ≠ .probeRtt ∧ moded.mode = .probeRtt ∧ control.expired time ∧
        moded.minRtt = 0 ∧ moded.seqTsMap = OrderedMap.empty ∧
        moded.seqRoundMap = OrderedMap.empty) ∨
      ((control.mode ≠ .probeRtt → moded.mode ≠ .probeRtt ∧ ¬control.expired time) ∧
        moded.minRtt = control.minRtt ∧ moded.minRttTimestamp = control.minRttTimestamp ∧
        moded.seqTsMap = control.seqTsMap ∧ moded.seqRoundMap = control.seqRoundMap) := by
  cases changed with
  | probing mode fresh => exact Or.inr ⟨fun outside => ⟨outside, fresh⟩, rfl, rfl, rfl, rfl⟩
  | started mode fresh =>
      exact Or.inr ⟨fun _ => ⟨Mode.noConfusion, fresh⟩, rfl, rfl, rfl, rfl⟩
  | entered outside expired => exact Or.inl ⟨outside, rfl, expired, rfl, rfl, rfl⟩
  | waited mode _ => exact Or.inr ⟨fun outside => absurd mode outside, rfl, rfl, rfl, rfl⟩
  | left mode _ => exact Or.inr ⟨fun outside => absurd mode outside, rfl, rfl, rfl, rfl⟩

/-- The samples since the last entry, in the state: none is negative, `min_rtt_` is the
smallest, and zero marks that there is none. -/
structure Minimal (trail : List (SenderTransition Bandwidth Filter))
    (sender : MyBbrSender Bandwidth Filter) : Prop where
  stamped : ∀ entry ∈ sender.seqTsMap.entries, ∃ earlier ∈ trail, earlier.event.time = entry.2
  nonnegative : ∀ sample ∈ samplesSince trail, 0 ≤ sample
  minimum : samplesSince trail ≠ [] → (samplesSince trail).min? = some sender.minRtt
  unset : samplesSince trail = [] → sender.minRtt = 0

namespace Minimal

variable {time : QuicTime} {number draw : Nat} {event : Event}

/-- An event without a sample that keeps `min_rtt_`. -/
theorem quiet (minimal : Minimal past before)
    (silent : sampleOf ⟨before, event, after⟩ = none) (mode : after.mode = before.mode)
    (same : after.minRtt = before.minRtt)
    (stamps : ∀ entry ∈ after.seqTsMap.entries,
      entry ∈ before.seqTsMap.entries ∨ entry.2 = event.time) :
    Minimal (past ++ [⟨before, event, after⟩]) after := by
  have stays : ¬EntersProbeRtt ⟨before, event, after⟩ := fun enters =>
    enters.1 (mode.symm.trans enters.2)
  have samples : samplesSince (past ++ [⟨before, event, after⟩]) = samplesSince past := by
    rw [samplesSince_snoc, if_neg stays, silent, Option.toList_none, List.append_nil]
  refine ⟨?_, ?_, ?_, ?_⟩
  · intro entry member
    cases stamps entry member with
    | inl older =>
        have ⟨earlier, inside, sameTime⟩ := minimal.stamped entry older
        exact ⟨earlier, List.mem_append_left _ inside, sameTime⟩
    | inr now => exact ⟨_, List.mem_append_right _ (List.mem_singleton_self _), now.symm⟩
  · rw [samples]
    exact minimal.nonnegative
  · rw [samples, same]
    exact minimal.minimum
  · rw [samples, same]
    exact minimal.unset

/-- A sample is not negative: its packet was sent by an earlier event. -/
theorem sample_nonnegative (minimal : Minimal past before)
    (clock : ClockOrdered (past.map Transition.event ++ [.ack time number draw])) {rtt : Delta}
    (taken : before.control.rttSample time number = some rtt) : 0 ≤ rtt := by
  have ⟨sentTs, found, same⟩ := Option.map_eq_some_iff.mp taken
  have ⟨earlier, inside, sameTime⟩ :=
    minimal.stamped (number, sentTs) (OrderedMap.find?_eq_some.mp found)
  have ordered := (List.pairwise_append.mp clock.monotone).2.2 earlier.event
    (List.mem_map_of_mem inside) (.ack time number draw) (List.mem_singleton_self _)
  rw [sameTime] at ordered
  rw [← same]
  exact sub_nonneg.mpr ordered

/-- The samples up to an accepted ack, and `min_rtt_` after its `UpdateRtt`. -/
theorem updated_iff (minimal : Minimal past before)
    (clock : ClockOrdered (past.map Transition.event ++ [.ack time number draw])) :
    (samplesSince past ++ (before.control.rttSample time number).toList ≠ [] →
        (samplesSince past ++ (before.control.rttSample time number).toList).min? =
          some (before.control.sampled time number).minRtt) ↔
      (0 ∈ samplesSince past → ∀ rtt ∈ before.control.rttSample time number, rtt = 0) := by
  cases taken : before.control.rttSample time number with
  | none =>
      have kept : (before.control.sampled time number).minRtt = before.minRtt := by
        rw [Control.sampled, taken]
        rfl
      rw [Option.toList_none, List.append_nil, kept]
      exact iff_of_true minimal.minimum fun _ _ taken => absurd taken (Option.not_mem_none _)
  | some rtt =>
      have updated : (before.control.sampled time number).minRtt =
          if before.minRtt = 0 then rtt else min rtt before.minRtt := by
        rw [Control.sampled, taken]
        rfl
      have sign := minimal.sample_nonnegative clock taken
      rw [Option.toList_some, updated]
      cases earlier : samplesSince past with
      | nil =>
          rw [if_pos (minimal.unset earlier)]
          exact iff_of_true (fun _ => rfl) fun absent => absurd absent List.not_mem_nil
      | cons first rest =>
          have some_sample : samplesSince past ≠ [] := by simp [earlier]
          have found := minimal.minimum some_sample
          have law := min?_updated_iff found minimal.nonnegative rtt sign
          rw [earlier] at law
          simp only [ne_eq, List.append_eq_nil_iff, List.cons_ne_nil, and_false,
            not_false_eq_true, true_imp_iff, Option.mem_some_iff, forall_eq']
          exact law

/-- An accepted ack, if `min_rtt_` is right after its `UpdateRtt`. -/
theorem accepted {moded : Control Bandwidth Filter} (minimal : Minimal past before)
    (clock : ClockOrdered (past.map Transition.event ++ [.ack time number draw]))
    (new : before.lastAckSeq < number)
    (changed : Control.Moded platform time draw (before.control.sampled time number) moded)
    (mode : after.mode = moded.mode) (minRtt : after.minRtt = moded.minRtt)
    (seqTsMap : after.seqTsMap = moded.seqTsMap)
    (right : samplesSince past ++ (before.control.rttSample time number).toList ≠ [] →
      (samplesSince past ++ (before.control.rttSample time number).toList).min? =
        some (before.control.sampled time number).minRtt) :
    Minimal (past ++ [⟨before, .ack time number draw, after⟩]) after := by
  have samples : samplesSince (past ++ [⟨before, .ack time number draw, after⟩]) = _ :=
    samplesSince_snoc _
  rw [sampleOf_ack new] at samples
  cases changed.samples_cases with
  | inl entered =>
      have ⟨outside, inside, _, zero, noStamp, _⟩ := entered
      rw [if_pos ⟨outside, mode.trans inside⟩] at samples
      refine ⟨?_, ?_, ?_, ?_⟩
      · rw [seqTsMap, noStamp]
        exact fun entry member => absurd member List.not_mem_nil
      · rw [samples]
        exact fun sample member => absurd member List.not_mem_nil
      · intro some_sample
        exact absurd samples some_sample
      · exact fun _ => minRtt.trans zero
  | inr stays =>
      have ⟨outside, sameRtt, _, sameStamps, _⟩ := stays
      rw [if_neg fun enters => (outside enters.1).1 (mode.symm.trans enters.2)] at samples
      refine ⟨?_, ?_, ?_, ?_⟩
      · intro entry member
        rw [seqTsMap, sameStamps] at member
        have ⟨earlier, inside, sameTime⟩ :=
          minimal.stamped entry (OrderedMap.mem_eraseLE.mp member).1
        exact ⟨earlier, List.mem_append_left _ inside, sameTime⟩
      · intro sample member
        rw [samples] at member
        cases List.mem_append.mp member with
        | inl earlier => exact minimal.nonnegative sample earlier
        | inr own => exact minimal.sample_nonnegative clock (Option.mem_toList.mp own)
      · rw [samples, minRtt, sameRtt]
        exact right
      · intro noSample
        rw [samples] at noSample
        have ⟨noEarlier, noOwn⟩ := List.append_eq_nil_iff.mp noSample
        have silent : before.control.rttSample time number = none := Option.toList_eq_nil_iff.mp noOwn
        rw [minRtt, sameRtt, Control.sampled, silent]
        exact minimal.unset noEarlier

variable [LinearOrder Bandwidth] {calls : List (Call Bandwidth)}

/-- At each event `min_rtt_` is right exactly if no other sample follows a zero. -/
theorem step (minimal : Minimal past before)
    (stepped : (bbrMachine platform).step before event = some (after, calls))
    (clock : ClockOrdered (past.map Transition.event ++ [event])) :
    (MinimumAt past ⟨before, event, after⟩ ↔ ZeroKeptAt past ⟨before, event, after⟩) ∧
      (MinimumAt past ⟨before, event, after⟩ →
        Minimal (past ++ [⟨before, event, after⟩]) after) := by
  cases event with
  | packetSent time number bytes =>
      have step := MyBbrSender.timing_step platform stepped
      generalize timing : after.timing = left at step
      cases step with
      | sent =>
          have seqTsMap : after.seqTsMap = before.seqTsMap.insert number time :=
            congrArg Timing.seqTsMap timing
          have kept : Minimal (past ++ [⟨before, .packetSent time number bytes, after⟩]) after := by
            refine minimal.quiet rfl (congrArg Timing.mode timing)
              (congrArg Timing.minRtt timing) ?_
            intro entry member
            rw [seqTsMap] at member
            exact (OrderedMap.mem_insert.mp member).imp_right fun new => congrArg Prod.snd new.1
          refine ⟨iff_of_true ?_ ?_, fun _ => kept⟩
          · intro _ _ _ same
            contradiction
          · intro _ _ taken
            contradiction
  | ack time number draw =>
      by_cases old : number ≤ before.lastAckSeq
      · have ⟨same, _⟩ := MyBbrSender.step_ignored old stepped
        rw [same]
        have silent : sampleOf ⟨before, .ack time number draw, before⟩ = none :=
          if_neg (Nat.not_lt.mpr old)
        refine ⟨iff_of_true ?_ ?_, fun _ =>
          minimal.quiet silent rfl rfl fun entry member => Or.inl member⟩
        · intro _ _ _ same new
          cases same
          exact absurd new (Nat.not_lt.mpr old)
        · intro _ rtt taken
          rw [silent] at taken
          contradiction
      · have new : before.lastAckSeq < number := Nat.lt_of_not_le old
        have ⟨moded, _, _, _, changed, control, _⟩ := MyBbrSender.control_accepted new stepped
        have updated : (MyBbrSender.updateRtt time number
            { before with lastAckSeq := number }).minRtt =
              (before.control.sampled time number).minRtt :=
          congrArg Control.minRtt
            (MyBbrSender.control_updateRtt { before with lastAckSeq := number } time number)
        have right_iff : MinimumAt past ⟨before, .ack time number draw, after⟩ ↔
            (samplesSince past ++ (before.control.rttSample time number).toList ≠ [] →
              (samplesSince past ++ (before.control.rttSample time number).toList).min? =
                some (before.control.sampled time number).minRtt) := by
          rw [← sampleOf_ack new, ← updated]
          constructor
          · intro right
            exact right time number draw rfl new
          · intro right _ _ _ same _
            cases same
            exact right
        rw [right_iff, ZeroKeptAt, sampleOf_ack new]
        exact ⟨minimal.updated_iff clock, minimal.accepted clock new changed
          (congrArg Control.mode control) (congrArg Control.minRtt control)
          (congrArg Control.seqTsMap control)⟩

end Minimal

end Minimum

section Runs

variable [LinearOrder Bandwidth] (platform : Platform Bandwidth Filter)

/-- The clock is in order up to each event of an execution. -/
theorem ClockOrdered.throughout {events : List Event} (clock : ClockOrdered events)
    (start : MyBbrSender Bandwidth Filter) :
    Throughout (fun past now => ClockOrdered (past.map Transition.event ++ [now.event]))
      ((bbrMachine platform).transitions start events) :=
  Machine.throughout_of_prefix (fun _ _ isPrefix ordered => ordered.sublist isPrefix.sublist) clock
    (bbrMachine platform) start

omit [LinearOrder Bandwidth] in
theorem minimal_create (minBps startBps maxBps : Nat) :
    Minimal [] (MyBbrSender.create platform minBps startBps maxBps) where
  stamped _ member := absurd member List.not_mem_nil
  nonnegative _ member := absurd member List.not_mem_nil
  minimum some_sample := absurd rfl some_sample
  unset _ := rfl

/-- After every `UpdateRtt` of a run `min_rtt_` is the smallest of the samples since the
last entry into `PROBE_RTT`, exactly if between two entries no positive sample
follows a sample of zero. -/
theorem minimum_iff (minBps startBps maxBps : Nat) {events : List Event}
    (clock : ClockOrdered events) :
    Throughout MinimumAt
        ((bbrMachine platform).transitions (.create platform minBps startBps maxBps) events) ↔
      Throughout ZeroKeptAt
        ((bbrMachine platform).transitions (.create platform minBps startBps maxBps) events) := by
  refine Machine.throughout_iff (minimal_create platform minBps startBps maxBps) ?_
    (clock.throughout platform _)
  intro trail middle event after calls minimal stepped ordered
  exact minimal.step stepped ordered

/-- On a millisecond clock packet 1 is acked in the millisecond in which it was sent. -/
def zeroSampleRun : List Event :=
  [.packetSent 100000 1 1000, .ack 100000 1 0, .packetSent 200000 2 1000, .ack 230000 2 0]

theorem zero_forgotten_zeroSampleRun :
    ClockOrdered zeroSampleRun ∧
      ((bbrMachine Platform.bits).transitions (.create Platform.bits 1000 1000 1000)
        zeroSampleRun).length = zeroSampleRun.length ∧
      ¬Throughout MinimumAt ((bbrMachine Platform.bits).transitions
        (.create Platform.bits 1000 1000 1000) zeroSampleRun) := by
  refine ⟨⟨by decide, by decide⟩, by decide +kernel, ?_⟩
  intro right
  have last : (((bbrMachine Platform.bits).transitions (.create Platform.bits 1000 1000 1000)
      zeroSampleRun)[3]?).map (fun now => (now.event, now.before.lastAckSeq, sampleOf now,
        (MyBbrSender.updateRtt 230000 2 { now.before with lastAckSeq := 2 }).minRtt)) =
      some (.ack 230000 2 0, 1, some 30000, 30000) := by
    decide +kernel
  have earlier : samplesSince (((bbrMachine Platform.bits).transitions
      (.create Platform.bits 1000 1000 1000) zeroSampleRun).take 3) = [0] := by
    decide +kernel
  have ⟨now, found, same⟩ := Option.map_eq_some_iff.mp last
  have ⟨event, rest⟩ := Prod.mk.inj same
  have ⟨lastAck, rest⟩ := Prod.mk.inj rest
  have ⟨taken, updated⟩ := Prod.mk.inj rest
  have minimum := right.at_index found 230000 2 0 event (by rw [lastAck]; decide)
  rw [earlier, taken, updated] at minimum
  exact absurd (minimum (by decide)) (by decide)

theorem minimum_iff_zeroSampleRun :
    ClockOrdered zeroSampleRun ∧
      (Throughout MinimumAt ((bbrMachine Platform.bits).transitions
          (.create Platform.bits 1000 1000 1000) zeroSampleRun) ↔
        Throughout ZeroKeptAt ((bbrMachine Platform.bits).transitions
          (.create Platform.bits 1000 1000 1000) zeroSampleRun)) :=
  have clock : ClockOrdered zeroSampleRun := ⟨by decide, by decide⟩
  ⟨clock, minimum_iff Platform.bits 1000 1000 1000 clock⟩

end Runs

/-! ### Freshness -/

section Freshness

/-- The sample stays within `kSimilarMinRttThreshold` of the minimum that it finds. -/
def WithinFactor (now : SenderTransition Bandwidth Filter) : Prop :=
  ∀ rtt ∈ sampleOf now, now.before.minRtt ≠ 0 →
    rtt ≤ now.before.minRtt.scale kSimilarMinRttThreshold

instance : DecidablePred (@WithinFactor Bandwidth Filter) := fun now =>
  inferInstanceAs (Decidable (∀ rtt ∈ sampleOf now, _ → _))

/-- A sample is taken that differs from `min_rtt_`, or finds it unset. -/
def Moves (now : SenderTransition Bandwidth Filter) : Prop :=
  ∃ rtt ∈ sampleOf now, now.before.minRtt = 0 ∨ rtt ≠ now.before.minRtt

instance : DecidablePred (@Moves Bandwidth Filter) := fun now =>
  match taken : sampleOf now with
  | none => isFalse fun ⟨_, member, _⟩ => Option.not_mem_none _ (taken ▸ member)
  | some rtt =>
      decidable_of_iff (now.before.minRtt = 0 ∨ rtt ≠ now.before.minRtt)
        ⟨fun moves => ⟨rtt, taken, moves⟩, fun ⟨_, member, moves⟩ =>
          Option.some.inj (taken.symm.trans member) ▸ moves⟩

/-- When the last such sample was taken; zero before the first. -/
def lastMoved (past : List (SenderTransition Bandwidth Filter)) : QuicTime :=
  ((past.filter fun now => Moves now).map fun now => now.event.time).getLastD 0

/-- An accepted ack takes such a sample, or comes at most `kMinRttExpiry` after the last. -/
def LivelyAt (past : List (SenderTransition Bandwidth Filter))
    (now : SenderTransition Bandwidth Filter) : Prop :=
  acceptedNumber now ≠ none → Moves now ∨ now.event.time ≤ lastMoved past + kMinRttExpiry

variable {platform : Platform Bandwidth Filter} {past : List (SenderTransition Bandwidth Filter)}
  {before after : MyBbrSender Bandwidth Filter} {event : Event}

theorem lastMoved_snoc (now : SenderTransition Bandwidth Filter) :
    lastMoved (past ++ [now]) = if Moves now then now.event.time else lastMoved past := by
  by_cases moves : Moves now
  · simp [lastMoved, moves]
  · simp [lastMoved, moves]

/-- Within the factor, exactly the samples that differ from the minimum refresh it. -/
theorem refreshes_iff {minRtt rtt : Delta}
    (within : minRtt ≠ 0 → rtt ≤ minRtt.scale kSimilarMinRttThreshold) :
    Control.Refreshes minRtt rtt ↔ minRtt = 0 ∨ rtt ≠ minRtt := by
  rw [Control.Refreshes]
  constructor
  · intro refreshes
    refine refreshes.imp_right fun moved => ?_
    cases moved with
    | inl lower => exact lower.ne
    | inr higher => exact higher.1.ne'
  · intro moves
    by_cases unset : minRtt = 0
    · exact Or.inl unset
    · have differs := moves.resolve_left unset
      exact Or.inr ((lt_or_gt_of_ne differs).imp_right fun higher => ⟨higher, within unset⟩)

/-- A sample within the factor restarts the expiry exactly if it is not the minimum. -/
theorem minRttTimestamp_updateRtt_iff (sender : MyBbrSender Bandwidth Filter) {time : QuicTime}
    {number : Nat} {sentTs : QuicTime} (found : sender.seqTsMap.find? number = some sentTs)
    (positive : 0 < sender.minRtt)
    (within : time - sentTs ≤ sender.minRtt.scale kSimilarMinRttThreshold) :
    (MyBbrSender.updateRtt time number sender).minRttTimestamp = time ↔
      time - sentTs ≠ sender.minRtt ∨ sender.minRttTimestamp = time := by
  have stamp : (MyBbrSender.updateRtt time number sender).minRttTimestamp =
      if Control.Refreshes sender.minRtt (time - sentTs) then time
      else sender.minRttTimestamp := by
    have taken : sender.control.rttSample time number = some (time - sentTs) :=
      congrArg (Option.map _) found
    have sampled := congrArg Control.minRttTimestamp
      (MyBbrSender.control_updateRtt sender time number)
    simp only [Control.sampled, taken, Option.elim_some] at sampled
    exact sampled
  have refreshes : Control.Refreshes sender.minRtt (time - sentTs) ↔
      time - sentTs ≠ sender.minRtt := by
    rw [refreshes_iff fun _ => within, or_iff_right positive.ne']
  rw [stamp]
  by_cases moves : time - sentTs ≠ sender.minRtt
  · rw [if_pos (refreshes.mpr moves)]
    exact iff_of_true rfl (Or.inl moves)
  · rw [if_neg (mt refreshes.mp moves)]
    exact (or_iff_right moves).symm

/-- The time stamp in a run that has not entered `PROBE_RTT`. -/
structure Fresh (trail : List (SenderTransition Bandwidth Filter))
    (sender : MyBbrSender Bandwidth Filter) : Prop where
  outside : sender.mode ≠ .probeRtt
  stamp : sender.minRttTimestamp = lastMoved trail

namespace Fresh

variable {time : QuicTime} {number draw : Nat}

/-- An event without a sample that keeps mode and time stamp. -/
theorem quiet (fresh : Fresh past before) (silent : sampleOf ⟨before, event, after⟩ = none)
    (mode : after.mode = before.mode) (stamp : after.minRttTimestamp = before.minRttTimestamp) :
    Fresh (past ++ [⟨before, event, after⟩]) after where
  outside := by
    rw [mode]
    exact fresh.outside
  stamp := by
    have still : ¬Moves ⟨before, event, after⟩ := by
      intro ⟨rtt, member, _⟩
      rw [silent] at member
      exact Option.not_mem_none rtt member
    rw [stamp, lastMoved_snoc, if_neg still, fresh.stamp]

/-- The time stamp after the `UpdateRtt` of an accepted ack. -/
theorem sampled (fresh : Fresh past before) (new : before.lastAckSeq < number)
    (within : WithinFactor ⟨before, .ack time number draw, after⟩) :
    (before.control.sampled time number).minRttTimestamp =
      lastMoved (past ++ [⟨before, .ack time number draw, after⟩]) := by
  have taken : sampleOf ⟨before, .ack time number draw, after⟩ =
      before.control.rttSample time number := sampleOf_ack new time draw
  rw [lastMoved_snoc, ← fresh.stamp, Control.sampled]
  rw [WithinFactor, taken] at within
  cases sample : before.control.rttSample time number with
  | none =>
      rw [sample] at taken
      have still : ¬Moves ⟨before, .ack time number draw, after⟩ := by
        rintro ⟨rtt, member, _⟩
        rw [taken] at member
        exact Option.not_mem_none rtt member
      rw [if_neg still]
      rfl
  | some rtt =>
      rw [sample] at taken within
      have moves_iff : Moves ⟨before, .ack time number draw, after⟩ ↔
          Control.Refreshes before.minRtt rtt := by
        rw [refreshes_iff (within rtt rfl), Moves, taken]
        simp only [Option.mem_some_iff, exists_eq_left']
      by_cases moves : Moves ⟨before, .ack time number draw, after⟩
      · rw [if_pos moves]
        exact if_pos (moves_iff.mp moves)
      · rw [if_neg moves]
        exact if_neg (mt moves_iff.mpr moves)

variable [LinearOrder Bandwidth] {calls : List (Call Bandwidth)}

/-- While `PROBE_RTT` has not been entered, it is entered at an event exactly if the last
sample that differs from the minimum is too old. -/
theorem step (fresh : Fresh past before)
    (stepped : (bbrMachine platform).step before event = some (after, calls))
    (within : WithinFactor ⟨before, event, after⟩) :
    (¬EntersProbeRtt ⟨before, event, after⟩ ↔ LivelyAt past ⟨before, event, after⟩) ∧
      (¬EntersProbeRtt ⟨before, event, after⟩ →
        Fresh (past ++ [⟨before, event, after⟩]) after) := by
  cases event with
  | packetSent time number bytes =>
      have step := MyBbrSender.timing_step platform stepped
      generalize timing : after.timing = left at step
      cases step with
      | sent =>
          have mode : after.mode = before.mode := congrArg Timing.mode timing
          have kept : Fresh (past ++ [⟨before, .packetSent time number bytes, after⟩]) after :=
            fresh.quiet rfl mode (congrArg Timing.minRttTimestamp timing)
          refine ⟨iff_of_true ?_ ?_, fun _ => kept⟩
          · exact fun enters => kept.outside enters.2
          · exact fun accepted => absurd rfl accepted
  | ack time number draw =>
      by_cases old : number ≤ before.lastAckSeq
      · have ⟨same, _⟩ := MyBbrSender.step_ignored old stepped
        rw [same]
        have silent : sampleOf ⟨before, .ack time number draw, before⟩ = none :=
          if_neg (Nat.not_lt.mpr old)
        refine ⟨iff_of_true ?_ ?_, fun _ => fresh.quiet silent rfl rfl⟩
        · exact fun enters => enters.1 enters.2
        · exact fun accepted => absurd (if_neg (Nat.not_lt.mpr old)) accepted
      · have new : before.lastAckSeq < number := Nat.lt_of_not_le old
        have ⟨moded, _, _, _, changed, control, _⟩ := MyBbrSender.control_accepted new stepped
        have mode : after.mode = moded.mode := congrArg Control.mode control
        have stamp : after.minRttTimestamp = moded.minRttTimestamp :=
          congrArg Control.minRttTimestamp control
        have sampled := fresh.sampled new within
        have accepted : acceptedNumber ⟨before, .ack time number draw, after⟩ ≠ none := by
          rw [Waiting.acceptedNumber_ack new]
          exact Option.some_ne_none number
        have lively_iff : LivelyAt past ⟨before, .ack time number draw, after⟩ ↔
            ¬(before.control.sampled time number).expired time := by
          rw [LivelyAt, imp_iff_right accepted, Control.expired, sampled, lastMoved_snoc]
          by_cases moves : Moves ⟨before, .ack time number draw, after⟩
          · have positive : 0 ≤ kMinRttExpiry := by decide
            rw [if_pos moves]
            exact iff_of_true (Or.inl moves) (not_lt.mpr (le_add_of_nonneg_right positive))
          · rw [if_neg moves, or_iff_right moves, not_lt]
            exact Iff.rfl
        rw [lively_iff]
        cases changed.samples_cases with
        | inl entered =>
            have ⟨_, inside, expired, _⟩ := entered
            have enters : EntersProbeRtt ⟨before, .ack time number draw, after⟩ :=
              ⟨fresh.outside, mode.trans inside⟩
            exact ⟨iff_of_false (not_not.mpr enters) (not_not.mpr expired),
              fun stays => absurd enters stays⟩
        | inr stays =>
            have ⟨outside, _, sameStamp, _⟩ := stays
            have ⟨notInside, notExpired⟩ := outside fresh.outside
            refine ⟨iff_of_true (fun enters => notInside (mode.symm.trans enters.2)) notExpired,
              fun _ => ⟨?_, ?_⟩⟩
            · rw [mode]
              exact notInside
            · exact stamp.trans (sameStamp.trans sampled)

end Fresh

end Freshness

section Runs

variable [LinearOrder Bandwidth] (platform : Platform Bandwidth Filter)

/-- In every state with a minimum, a sample within `kSimilarMinRttThreshold` of it
restarts the expiry exactly if it differs from it. And a run whose samples all are
within this factor never enters `PROBE_RTT` exactly if every accepted ack comes at
most `kMinRttExpiry` after the last sample that differs from the minimum. -/
theorem freshness_iff :
    (∀ (sender : MyBbrSender Bandwidth Filter) (time : QuicTime) (number : Nat)
      (sentTs : QuicTime), sender.seqTsMap.find? number = some sentTs → 0 < sender.minRtt →
      time - sentTs ≤ sender.minRtt.scale kSimilarMinRttThreshold →
      ((MyBbrSender.updateRtt time number sender).minRttTimestamp = time ↔
        time - sentTs ≠ sender.minRtt ∨ sender.minRttTimestamp = time)) ∧
    ∀ (minBps startBps maxBps : Nat) (events : List Event),
      (∀ now ∈ (bbrMachine platform).transitions (.create platform minBps startBps maxBps) events,
        WithinFactor now) →
      ((∀ now ∈ (bbrMachine platform).transitions
          (.create platform minBps startBps maxBps) events, ¬EntersProbeRtt now) ↔
        Throughout LivelyAt ((bbrMachine platform).transitions
          (.create platform minBps startBps maxBps) events)) := by
  constructor
  · intro sender time number sentTs found positive within
    exact minRttTimestamp_updateRtt_iff sender found positive within
  · intro minBps startBps maxBps events within
    have fresh : Fresh [] (MyBbrSender.create platform minBps startBps maxBps) :=
      ⟨Mode.noConfusion, rfl⟩
    rw [← throughout_mem] at within ⊢
    refine Machine.throughout_iff fresh ?_ within
    intro trail middle event after calls fresh stepped within
    exact fresh.step stepped within

/-- Three packets with the same round-trip time, acked within 10.1 s. -/
def constantRttRun : List Event :=
  [.packetSent 100000 1 1000, .ack 130000 1 0, .packetSent 9000000 2 1000, .ack 9030000 2 0,
    .packetSent 10200000 3 1000, .ack 10230000 3 0]

/-- The samples equal the minimum and do not restart its expiry. -/
theorem entered_constantRttRun :
    ClockOrdered constantRttRun ∧
      ((bbrMachine Platform.bits).transitions (.create Platform.bits 1000 1000 1000)
        constantRttRun).map (fun now => (now.event.time, sampleOf now, now.before.minRtt,
          now.before.minRttTimestamp)) =
        [(100000, none, 0, 0), (130000, some 30000, 0, 0), (9000000, none, 30000, 130000),
          (9030000, some 30000, 30000, 130000), (10200000, none, 30000, 130000),
          (10230000, some 30000, 30000, 130000)] ∧
      (∀ now ∈ (bbrMachine Platform.bits).transitions (.create Platform.bits 1000 1000 1000)
        constantRttRun, WithinFactor now) ∧
      ∃ now ∈ (bbrMachine Platform.bits).transitions (.create Platform.bits 1000 1000 1000)
        constantRttRun, EntersProbeRtt now := by
  refine ⟨⟨by decide, by decide⟩, by decide +kernel, by decide +kernel, by decide +kernel⟩

theorem freshness_iff_constantRttRun :
    (∃ sender : MyBbrSender Nat Nat, sender.seqTsMap.find? 2 = some 9000000 ∧
      0 < sender.minRtt ∧
      (9030000 : QuicTime) - 9000000 ≤ sender.minRtt.scale kSimilarMinRttThreshold ∧
      ((MyBbrSender.updateRtt 9030000 2 sender).minRttTimestamp = 9030000 ↔
        (9030000 : QuicTime) - 9000000 ≠ sender.minRtt ∨ sender.minRttTimestamp = 9030000)) ∧
    (∀ now ∈ (bbrMachine Platform.bits).transitions (.create Platform.bits 1000 1000 1000)
      constantRttRun, WithinFactor now) ∧
    ((∀ now ∈ (bbrMachine Platform.bits).transitions (.create Platform.bits 1000 1000 1000)
        constantRttRun, ¬EntersProbeRtt now) ↔
      Throughout LivelyAt ((bbrMachine Platform.bits).transitions
        (.create Platform.bits 1000 1000 1000) constantRttRun)) := by
  have ⟨state, run⟩ := freshness_iff Platform.bits
  have within : ∀ now ∈ (bbrMachine Platform.bits).transitions
      (.create Platform.bits 1000 1000 1000) constantRttRun, WithinFactor now := by
    decide +kernel
  refine ⟨⟨{ MyBbrSender.create Platform.bits 1000 1000 1000 with
    minRtt := 30000
    seqTsMap := OrderedMap.empty.insert 2 9000000 }, ?_, ?_, ?_, ?_⟩, within,
    run 1000 1000 1000 constantRttRun within⟩
  · decide
  · decide
  · decide +kernel
  · exact state _ 9030000 2 9000000 (by decide) (by decide) (by decide +kernel)

end Runs

end StupidSimple.Bbr
