import Mathlib.Data.List.Chain
import Mathlib.Data.List.DropRight
import StupidSimple.Bbr.Control

/-!
Owns the period of `PROBE_RTT`. The `Timing` of a sender is what the entry test
reads; only `UpdateRtt` and the mode changes write it. `periodic_iff` says of
every run when its entries into `PROBE_RTT` are more than `kMinRttExpiry` apart.
-/

namespace StupidSimple.Bbr

open StupidSimple.Library

variable {Bandwidth Filter : Type}

/-- The part of a sender that decides when `PROBE_RTT` is entered. -/
structure Timing where
  mode : Mode
  minRtt : Delta
  minRttTimestamp : QuicTime
  seqTsMap : OrderedMap Nat QuicTime
  lastAckSeq : Nat

namespace MyBbrSender

def timing (sender : MyBbrSender Bandwidth Filter) : Timing :=
  ⟨sender.mode, sender.minRtt, sender.minRttTimestamp, sender.seqTsMap, sender.lastAckSeq⟩

end MyBbrSender

/-! ### The steps of the timing -/

namespace Timing

/-- What `UpdateRtt` does on an accepted ack. -/
structure Timed (time : QuicTime) (number : Nat) (before after : Timing) : Prop where
  mode : after.mode = before.mode
  seqTsMap : after.seqTsMap = before.seqTsMap.eraseLE number
  lastAckSeq : after.lastAckSeq = number
  unsampled : before.seqTsMap.find? number = none →
    after.minRtt = before.minRtt ∧ after.minRttTimestamp = before.minRttTimestamp
  first : before.seqTsMap.find? number ≠ none → before.minRtt = 0 → after.minRttTimestamp = time
  stamp : after.minRttTimestamp = before.minRttTimestamp ∨ after.minRttTimestamp = time

/-- One event of a run. -/
inductive Step (before : Timing) : Event → Timing → Prop
  | sent {time : QuicTime} {number bytes : Nat} :
      Step before (.packetSent time number bytes)
        { before with seqTsMap := before.seqTsMap.insert number time }
  | ignored {time : QuicTime} {number draw : Nat} (old : number ≤ before.lastAckSeq) :
      Step before (.ack time number draw) before
  | entered {time : QuicTime} {number draw : Nat} {timed : Timing}
      (new : before.lastAckSeq < number) (sampled : before.Timed time number timed)
      (outside : before.mode ≠ .probeRtt) (expired : timed.minRttTimestamp + kMinRttExpiry < time) :
      Step before (.ack time number draw)
        { timed with mode := .probeRtt, minRtt := 0, seqTsMap := OrderedMap.empty }
  | passed {time : QuicTime} {number draw : Nat} {timed : Timing} {mode : Mode}
      (new : before.lastAckSeq < number) (sampled : before.Timed time number timed)
      (outside : before.mode ≠ .probeRtt →
        mode ≠ .probeRtt ∧ time ≤ timed.minRttTimestamp + kMinRttExpiry) :
      Step before (.ack time number draw) { timed with mode := mode }

end Timing

section Steps

variable {platform : Platform Bandwidth Filter} {control after : Control Bandwidth Filter}

/-- The timing of a control. -/
def Control.timing (control : Control Bandwidth Filter) : Timing :=
  ⟨control.mode, control.minRtt, control.minRttTimestamp, control.seqTsMap, control.lastAckSeq⟩

theorem Control.timing_advanced (control : Control Bandwidth Filter) (time : QuicTime) :
    (control.advanced time).timing = control.timing := by
  unfold advanced
  split <;> rfl

theorem Control.timed_sampled (control : Control Bandwidth Filter) (time : QuicTime)
    (number : Nat) : control.timing.Timed time number (control.sampled time number).timing where
  mode := rfl
  seqTsMap := rfl
  lastAckSeq := rfl
  unsampled absent := by
    have silent : control.rttSample time number = none := congrArg (Option.map _) absent
    simp only [timing, sampled, silent, Option.elim_none, and_self]
  first present unset := by
    obtain ⟨sentTs, found⟩ := Option.ne_none_iff_exists'.mp present
    have taken : control.rttSample time number = some (time - sentTs) :=
      congrArg (Option.map _) found
    simp only [timing, sampled, taken, Option.elim_some]
    exact if_pos (Or.inl unset)
  stamp := by
    simp only [timing, sampled]
    cases control.rttSample time number with
    | none => exact Or.inl rfl
    | some rtt =>
        simp only [Option.elim_some]
        split
        · exact Or.inr rfl
        · exact Or.inl rfl

/-- The mode changes of an accepted ack. -/
theorem Control.Moded.timing_step {time : QuicTime} {number draw : Nat}
    (new : control.lastAckSeq < number)
    (changed : Moded platform time draw (control.sampled time number) after) :
    control.timing.Step (.ack time number draw) after.timing := by
  have sampled := control.timed_sampled time number
  cases changed with
  | probing mode fresh =>
      exact .passed new sampled fun _ => ⟨by simp [mode], not_lt.mp fresh⟩
  | started mode fresh =>
      exact .passed new sampled fun _ => ⟨Mode.noConfusion, not_lt.mp fresh⟩
  | entered mode expired => exact .entered new sampled mode expired
  | waited mode _ => exact .passed new sampled fun outside => absurd mode outside
  | left mode _ => exact .passed new sampled fun outside => absurd mode outside

variable [LinearOrder Bandwidth]

theorem Control.Step.timing {event : Event} {calls : List (Call Bandwidth)}
    (step : control.Step platform event calls after) :
    control.timing.Step event after.timing := by
  cases step with
  | idle _ => exact .sent
  | @sent time number bytes _ _ =>
      have kept := control.timing_advanced time
      have same : Control.timing
          { control.advanced time with
            seqTsMap := control.seqTsMap.insert number time
            seqRoundMap :=
              control.seqRoundMap.insert number (control.advanced time).roundTripCount } =
          { (control.advanced time).timing with
            seqTsMap := control.seqTsMap.insert number time } := rfl
      rw [same, kept]
      exact .sent
  | ignored old => exact .ignored old
  | accepted new changed =>
      have moded := changed.timing_step new
      exact moded

end Steps

namespace MyBbrSender

/-- Every event makes a step of the timing. -/
theorem timing_step [LinearOrder Bandwidth] (platform : Platform Bandwidth Filter)
    {sender after : MyBbrSender Bandwidth Filter} {event : Event} {calls : List (Call Bandwidth)}
    (stepped : (bbrMachine platform).step sender event = some (after, calls)) :
    sender.timing.Step event after.timing :=
  (control_step stepped).timing

end MyBbrSender

/-! ### Entries into `PROBE_RTT` -/

/-- A transition of a sender. -/
abbrev SenderTransition (Bandwidth Filter : Type) :=
  Transition (MyBbrSender Bandwidth Filter) Event

section Trail

variable (trail past : List (SenderTransition Bandwidth Filter))
  (now : SenderTransition Bandwidth Filter)

def EntersProbeRtt : Prop := now.before.mode ≠ .probeRtt ∧ now.after.mode = .probeRtt

instance : DecidablePred (@EntersProbeRtt Bandwidth Filter) := fun _ =>
  inferInstanceAs (Decidable (_ ∧ _))

/-- The number of an ack that is above those of all acks before it. -/
def acceptedNumber : Option Nat :=
  match now.event with
  | .packetSent _ _ _ => none
  | .ack _ number _ => if now.before.lastAckSeq < number then some number else none

/-- The numbers of the packets sent. -/
def sentNumbers : List Nat := trail.filterMap fun transition => transition.event.sentNumber

/-- The times of the entries into `PROBE_RTT`. -/
def probeRttEntries : List QuicTime :=
  (trail.filter fun transition => EntersProbeRtt transition).map fun entry => entry.event.time

/-- What followed the last entry into `PROBE_RTT`. -/
def sinceEntry : List (SenderTransition Bandwidth Filter) :=
  trail.rtakeWhile fun transition => ¬EntersProbeRtt transition

/-- Successive entries are more than `kMinRttExpiry` apart. -/
def Periodic : Prop :=
  (probeRttEntries trail).IsChain fun earlier later => earlier + kMinRttExpiry < later

/-- An ack is accepted of a packet sent before it. -/
def Sampled : Prop :=
  ∃ before ack after number, trail = before ++ ack :: after ∧ acceptedNumber ack = some number ∧
    number ∈ sentNumbers before

/-- An ack that is accepted outside `PROBE_RTT`, not later than `kMinRttExpiry`
after the last entry, finds that a packet sent since then is acked: by this ack
or by one before it. -/
def ResampledAt : Prop :=
  ∀ entered ∈ (probeRttEntries past).getLast?, acceptedNumber now ≠ none →
    now.before.mode ≠ .probeRtt → now.event.time ≤ entered + kMinRttExpiry →
    Sampled (sinceEntry past ++ [now])

def Resampled : Prop := ∀ past now rest, trail = past ++ now :: rest → ResampledAt past now

end Trail

section Snoc

variable {trail : List (SenderTransition Bandwidth Filter)}
  {now : SenderTransition Bandwidth Filter}

theorem mem_probeRttEntries {entered : QuicTime}
    (member : entered ∈ probeRttEntries trail) :
    ∃ entry ∈ trail, entry.event.time = entered := by
  rcases List.mem_map.mp member with ⟨entry, entering, same⟩
  exact ⟨entry, List.mem_of_mem_filter entering, same⟩

theorem probeRttEntries_snoc : probeRttEntries (trail ++ [now]) =
    probeRttEntries trail ++ if EntersProbeRtt now then [now.event.time] else [] := by
  rw [probeRttEntries, List.filter_append, List.map_append]
  by_cases enters : EntersProbeRtt now
  · simp [enters, probeRttEntries]
  · simp [enters, probeRttEntries]

theorem sinceEntry_snoc : sinceEntry (trail ++ [now]) =
    if EntersProbeRtt now then [] else sinceEntry trail ++ [now] := by
  rw [sinceEntry, List.rtakeWhile_concat]
  by_cases enters : EntersProbeRtt now
  · simp [enters]
  · simp [enters, sinceEntry]

theorem sampled_snoc : Sampled (trail ++ [now]) ↔
    Sampled trail ∨ ∃ number, acceptedNumber now = some number ∧ number ∈ sentNumbers trail := by
  constructor
  · rintro ⟨before, ack, after, number, split, accepted, sent⟩
    rcases split_snoc split with ⟨-, rfl, rfl⟩ | ⟨rest, split⟩
    · exact Or.inr ⟨number, accepted, sent⟩
    · exact Or.inl ⟨before, ack, rest, number, split, accepted, sent⟩
  · rintro (⟨before, ack, after, number, rfl, accepted, sent⟩ | ⟨number, accepted, sent⟩)
    · exact ⟨before, ack, after ++ [now], number, by simp, accepted, sent⟩
    · exact ⟨trail, now, [], number, rfl, accepted, sent⟩

theorem not_sampled_nil : ¬Sampled ([] : List (SenderTransition Bandwidth Filter)) := by
  rintro ⟨before, ack, after, number, split, -⟩
  simp at split

theorem periodic_snoc : Periodic (trail ++ [now]) ↔ Periodic trail ∧
    (EntersProbeRtt now → ∀ entered ∈ (probeRttEntries trail).getLast?,
      entered + kMinRttExpiry < now.event.time) := by
  rw [Periodic, probeRttEntries_snoc, List.isChain_append]
  by_cases enters : EntersProbeRtt now
  · simp [enters, Periodic]
  · simp [enters, Periodic]

theorem resampled_snoc : Resampled (trail ++ [now]) ↔ Resampled trail ∧ ResampledAt trail now := by
  constructor
  · intro resampled
    refine ⟨?_, resampled trail now [] rfl⟩
    rintro past then_ rest rfl
    exact resampled past then_ (rest ++ [now]) (by simp)
  · rintro ⟨earlier, last⟩ past then_ rest split
    rcases split_snoc split with ⟨-, rfl, rfl⟩ | ⟨between, split⟩
    · exact last
    · exact earlier past then_ between split

end Snoc

/-! ### The invariant between two entries -/

/-- Where the timing stands, `since` the entry into `PROBE_RTT` at `entered`. -/
structure Waiting (entered : QuicTime) (since : List (SenderTransition Bandwidth Filter))
    (timing : Timing) : Prop where
  pending : ∀ number, timing.lastAckSeq < number →
    (timing.seqTsMap.find? number ≠ none ↔ number ∈ sentNumbers since)
  sampled : Sampled since → entered ≤ timing.minRttTimestamp
  unsampled : ¬Sampled since →
    timing.minRtt = 0 ∧ timing.minRttTimestamp + kMinRttExpiry < entered

namespace Waiting

variable {entered : QuicTime} {since : List (SenderTransition Bandwidth Filter)}
  {now : SenderTransition Bandwidth Filter}

/-- The time stamp after `UpdateRtt` tells whether a sample was taken. -/
theorem timed {before after : Timing} {time : QuicTime} {number : Nat}
    (waiting : Waiting entered since before) (sampled : before.Timed time number after)
    (new : before.lastAckSeq < number) (later : entered ≤ time) :
    (Sampled since ∨ number ∈ sentNumbers since → entered ≤ after.minRttTimestamp) ∧
      (¬(Sampled since ∨ number ∈ sentNumbers since) →
        after.minRtt = 0 ∧ after.minRttTimestamp + kMinRttExpiry < entered) := by
  have present := waiting.pending number new
  constructor
  · intro taken
    by_cases earlier : Sampled since
    · rcases sampled.stamp with same | same
      · rw [same]
        exact waiting.sampled earlier
      · rw [same]
        exact later
    · have sent := taken.resolve_left earlier
      rw [sampled.first (present.mpr sent) (waiting.unsampled earlier).1]
      exact later
  · intro untaken
    rw [not_or] at untaken
    have absent : before.seqTsMap.find? number = none := by
      by_contra found
      exact untaken.2 (present.mp found)
    rcases sampled.unsampled absent with ⟨sameRtt, sameStamp⟩
    rw [sameRtt, sameStamp]
    exact waiting.unsampled untaken.1

/-- An ack is accepted when its number is new. -/
theorem acceptedNumber_ack {before after : MyBbrSender Bandwidth Filter} {time : QuicTime}
    {number draw : Nat} (new : before.timing.lastAckSeq < number) :
    acceptedNumber ⟨before, .ack time number draw, after⟩ = some number :=
  if_pos new

theorem sampled_snoc_accepted {number : Nat} (accepted : acceptedNumber now = some number) :
    Sampled (since ++ [now]) ↔ Sampled since ∨ number ∈ sentNumbers since := by
  rw [sampled_snoc, accepted]
  simp

theorem sampled_snoc_quiet (quiet : acceptedNumber now = none) :
    Sampled (since ++ [now]) ↔ Sampled since := by
  rw [sampled_snoc, quiet]
  simp

/-- The entry test, told by the packets sent and acked since the last entry. -/
theorem enters_late_iff (waiting : Waiting entered since now.before.timing)
    (step : now.before.timing.Step now.event now.after.timing) (later : entered ≤ now.event.time) :
    (EntersProbeRtt now → entered + kMinRttExpiry < now.event.time) ↔
      (acceptedNumber now ≠ none → now.before.mode ≠ .probeRtt →
        now.event.time ≤ entered + kMinRttExpiry → Sampled (since ++ [now])) := by
  rcases now with ⟨before, event, after⟩
  simp only at waiting step later
  have sameMode : after.mode = after.timing.mode := rfl
  simp only [EntersProbeRtt, sameMode]
  generalize after.timing = left at step
  cases step with
  | sent => exact ⟨fun _ accepted => absurd rfl accepted, fun _ enters => absurd enters.2 enters.1⟩
  | ignored old =>
      refine ⟨fun _ accepted => absurd (if_neg (Nat.not_lt.mpr old)) accepted, fun _ enters =>
        absurd enters.2 enters.1⟩
  | @entered time number draw timed new sampled outside expired =>
      rcases waiting.timed sampled new later with ⟨fresh, stale⟩
      rw [sampled_snoc_accepted (acceptedNumber_ack new)]
      constructor
      · intro spaced _ _ soon
        exact absurd (spaced ⟨outside, rfl⟩) (not_lt.mpr soon)
      · intro resampled _
        by_contra close
        have taken := resampled (by rw [acceptedNumber_ack new]; exact Option.some_ne_none number)
          outside (not_lt.mp close)
        exact close ((add_le_add_left (fresh taken) kMinRttExpiry).trans_lt expired)
  | @passed time number draw timed mode new sampled outside =>
      rcases waiting.timed sampled new later with ⟨fresh, stale⟩
      rw [sampled_snoc_accepted (acceptedNumber_ack new)]
      constructor
      · intro _ _ notInside _
        by_contra untaken
        have expired := (stale untaken).2.trans_le later
        exact absurd (outside notInside).2 (not_le.mpr expired)
      · intro _ enters
        exact absurd enters.2 (outside enters.1).1

theorem step (waiting : Waiting entered since now.before.timing)
    (step : now.before.timing.Step now.event now.after.timing) (later : entered ≤ now.event.time)
    (stays : ¬EntersProbeRtt now) : Waiting entered (since ++ [now]) now.after.timing := by
  rcases now with ⟨before, event, after⟩
  simp only at waiting step later
  have sameMode : after.mode = after.timing.mode := rfl
  simp only [EntersProbeRtt, sameMode] at stays
  simp only
  generalize after.timing = left at step stays
  cases step with
  | @sent time number bytes =>
      have quiet : acceptedNumber ⟨before, .packetSent time number bytes, after⟩ = none := rfl
      refine ⟨?_, ?_, ?_⟩
      · intro other above
        rw [OrderedMap.find?_insert_ne_none, waiting.pending other above]
        simp [sentNumbers, Event.sentNumber]
      · rw [sampled_snoc_quiet quiet]
        exact waiting.sampled
      · rw [sampled_snoc_quiet quiet]
        exact waiting.unsampled
  | @ignored time number draw old =>
      have quiet : acceptedNumber ⟨before, .ack time number draw, after⟩ = none :=
        if_neg (Nat.not_lt.mpr old)
      refine ⟨?_, ?_, ?_⟩
      · intro other above
        rw [waiting.pending other above]
        simp [sentNumbers, Event.sentNumber]
      · rw [sampled_snoc_quiet quiet]
        exact waiting.sampled
      · rw [sampled_snoc_quiet quiet]
        exact waiting.unsampled
  | @entered time number draw timed new sampled outside expired => exact absurd ⟨outside, rfl⟩ stays
  | @passed time number draw timed mode new sampled outside =>
      rcases waiting.timed sampled new later with ⟨fresh, stale⟩
      have accepted : acceptedNumber ⟨before, .ack time number draw, after⟩ = some number :=
        acceptedNumber_ack new
      refine ⟨?_, ?_, ?_⟩
      · intro other above
        have aboveAck : number < other := by
          rw [← sampled.lastAckSeq]
          exact above
        show timed.seqTsMap.find? other ≠ none ↔ _
        rw [sampled.seqTsMap, OrderedMap.find?_eraseLE_ne_none aboveAck,
          waiting.pending other (new.trans aboveAck)]
        simp [sentNumbers, Event.sentNumber]
      · rw [sampled_snoc_accepted accepted]
        exact fresh
      · rw [sampled_snoc_accepted accepted]
        exact stale

/-- An entry takes every send time and starts the count anew. -/
theorem start (step : now.before.timing.Step now.event now.after.timing)
    (enters : EntersProbeRtt now) :
    Waiting now.event.time ([] : List (SenderTransition Bandwidth Filter)) now.after.timing := by
  rcases now with ⟨before, event, after⟩
  have sameMode : after.mode = after.timing.mode := rfl
  simp only [EntersProbeRtt, sameMode] at enters
  simp only at step
  simp only
  generalize after.timing = left at step enters
  cases step with
  | sent => exact absurd enters.2 enters.1
  | ignored old => exact absurd enters.2 enters.1
  | entered new sampled outside expired =>
      refine ⟨?_, fun sampled => absurd sampled not_sampled_nil, fun _ => ⟨rfl, expired⟩⟩
      intro number _
      simp [sentNumbers]
  | passed new sampled outside => exact absurd enters.2 (outside enters.1).1

end Waiting

/-! ### Whole runs -/

section Runs

variable [LinearOrder Bandwidth] (platform : Platform Bandwidth Filter)

/-- The entries of a run are not later than its next event. -/
theorem entered_le {start middle : MyBbrSender Bandwidth Filter}
    {history : List (Event × List (Call Bandwidth))} {event : Event}
    (run : (bbrMachine platform).Run start history middle)
    (clock : ClockOrdered (history.map Prod.fst ++ [event])) {entered : QuicTime}
    (last : entered ∈ (probeRttEntries ((bbrMachine platform).transitions start
      (history.map Prod.fst))).getLast?) : entered ≤ event.time := by
  rcases mem_probeRttEntries (List.mem_of_getLast? last) with ⟨entry, inside, rfl⟩
  have early : entry.event ∈ history.map Prod.fst := by
    rw [← run.events_transitions]
    exact List.mem_map_of_mem inside
  exact (List.pairwise_append.mp clock.monotone).2.2 entry.event early event (by simp)

/-- One induction carries the invariant and the equivalence. -/
theorem periodic_run {start final : MyBbrSender Bandwidth Filter}
    {history : List (Event × List (Call Bandwidth))}
    (run : (bbrMachine platform).Run start history final)
    (clock : ClockOrdered (history.map Prod.fst)) :
    (Periodic ((bbrMachine platform).transitions start (history.map Prod.fst)) ↔
        Resampled ((bbrMachine platform).transitions start (history.map Prod.fst))) ∧
      ∀ entered ∈ (probeRttEntries ((bbrMachine platform).transitions start
          (history.map Prod.fst))).getLast?,
        Waiting entered (sinceEntry ((bbrMachine platform).transitions start
          (history.map Prod.fst))) final.timing := by
  induction run with
  | nil =>
      refine ⟨⟨?_, fun _ => List.IsChain.nil⟩, by simp [Machine.transitions, probeRttEntries]⟩
      intro _ past now rest split
      simp [Machine.transitions] at split
  | @snoc history middle after event calls before stepped inductionHypothesis =>
      rw [List.map_append, List.map_singleton] at clock ⊢
      rw [before.transitions_snoc stepped]
      rcases inductionHypothesis clock.restrict with ⟨equivalent, waiting⟩
      have later : ∀ entered ∈ (probeRttEntries ((bbrMachine platform).transitions start
          (history.map Prod.fst))).getLast?, entered ≤ event.time :=
        fun entered last => entered_le platform before clock last
      have step : middle.timing.Step event after.timing :=
        MyBbrSender.timing_step platform stepped
      generalize (bbrMachine platform).transitions start (history.map Prod.fst) = trail at *
      constructor
      · rw [periodic_snoc, resampled_snoc, equivalent]
        apply and_congr_right
        intro _
        rw [forall_comm]
        apply forall_congr'
        intro entered
        rw [forall_comm]
        apply forall_congr'
        intro last
        exact (waiting entered last).enters_late_iff step (later entered last)
      · intro entered last
        rw [probeRttEntries_snoc] at last
        rw [sinceEntry_snoc]
        by_cases enters : EntersProbeRtt ⟨middle, event, after⟩
        · rw [if_pos enters] at last ⊢
          obtain rfl : event.time = entered := by simpa using last
          exact Waiting.start step enters
        · rw [if_neg enters, List.append_nil] at last
          rw [if_neg enters]
          exact (waiting entered last).step step (later entered last) enters

/-- Successive entries into `PROBE_RTT` are more than `kMinRttExpiry` apart in
exactly the runs in which each ack that is accepted outside `PROBE_RTT` within
`kMinRttExpiry` of the last entry finds a packet acked that was sent since then. -/
theorem periodic_iff_resampled (minBps startBps maxBps : Nat) {events : List Event}
    (clock : ClockOrdered events) :
    Periodic ((bbrMachine platform).transitions (.create platform minBps startBps maxBps) events) ↔
      Resampled
        ((bbrMachine platform).transitions (.create platform minBps startBps maxBps) events) := by
  rcases (bbrMachine platform).exists_defined_run (.create platform minBps startBps maxBps) events
    with ⟨history, final, run, isPrefix, same⟩
  rw [same]
  exact (periodic_run platform run (clock.sublist isPrefix.sublist)).1

/-- Every ack is for a packet that was sent; `sent` are the packets before. -/
def acksSent (sent : List Nat) : List Event → Bool
  | [] => true
  | .packetSent _ number _ :: rest => acksSent (number :: sent) rest
  | .ack _ number _ :: rest => sent.contains number && acksSent sent rest

/-- The ack of packet 2 enters `PROBE_RTT` at 10.2 s and the ack of packet 3
leaves it on the timer. Both packets were sent before the entry, as was packet 4,
whose ack enters again at 10.6 s. -/
def staleRun : List Event :=
  [.packetSent 1 1 1000, .ack 100000 1 0, .packetSent 200000 2 1000, .packetSent 300000 3 1000,
    .packetSent 400000 4 1000, .ack 10200000 2 0, .ack 10500000 3 0, .ack 10600000 4 0]

theorem probeRttEntries_staleRun :
    probeRttEntries ((bbrMachine Platform.bits).transitions (.create Platform.bits 1000 1000 1000)
      staleRun) = [10200000, 10600000] := by
  decide +kernel

theorem not_periodic_staleRun :
    ClockOrdered staleRun ∧ acksSent [] staleRun = true ∧
      ((bbrMachine Platform.bits).transitions (.create Platform.bits 1000 1000 1000)
        staleRun).length = staleRun.length ∧
      ¬Periodic ((bbrMachine Platform.bits).transitions (.create Platform.bits 1000 1000 1000)
        staleRun) := by
  refine ⟨⟨by decide, by decide⟩, by decide, by decide +kernel, ?_⟩
  rw [Periodic, probeRttEntries_staleRun]
  decide

theorem periodic_iff_resampled_staleRun :
    ClockOrdered staleRun ∧
      (Periodic ((bbrMachine Platform.bits).transitions (.create Platform.bits 1000 1000 1000)
          staleRun) ↔
        Resampled ((bbrMachine Platform.bits).transitions (.create Platform.bits 1000 1000 1000)
          staleRun)) :=
  have clock : ClockOrdered staleRun := ⟨by decide, by decide⟩
  ⟨clock, periodic_iff_resampled Platform.bits 1000 1000 1000 clock⟩

end Runs

end StupidSimple.Bbr
