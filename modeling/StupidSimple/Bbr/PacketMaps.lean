import StupidSimple.Bbr.MinRtt

/-!
Owns what `seq_ts_map_` and `seq_round_map_` still hold of packets that no later ack can
refer to. `released_iff` says in which runs an accepted ack leaves no such entry.
-/

namespace StupidSimple.Bbr

open StupidSimple.Library

variable {Bandwidth Filter : Type}

section Missing

variable (past : List (SenderTransition Bandwidth Filter))
  (now : SenderTransition Bandwidth Filter) (number : Nat)

/-- The packet is sent in `PROBE_BW`, so that it belongs to a cluster. -/
def SendsInCluster : Prop :=
  ∃ time bytes, now.event = .packetSent time number bytes ∧ now.before.mode = .probeBw

/-- A packet of a cluster has not been acked since, and its cluster was not cleared. -/
def Missing : Prop :=
  ∃ earlier sent rest, past = earlier ++ sent :: rest ∧ SendsInCluster sent number ∧
    ∀ later ∈ rest, ¬EntersProbeRtt later ∧ acceptedNumber later ≠ some number

/-- An accepted ack leaves no entry at or below its number in the two maps. -/
def Releases : Prop :=
  ∀ acked, acceptedNumber now = some acked →
    (∀ entry ∈ now.after.seqTsMap.entries, acked < entry.1) ∧
      ∀ entry ∈ now.after.seqRoundMap.entries, acked < entry.1

/-- An accepted ack enters `PROBE_RTT`, or no packet below its number is missing. -/
def NoneMissingAt : Prop :=
  ∀ acked, acceptedNumber now = some acked → ¬EntersProbeRtt now →
    ∀ below < acked, ¬Missing past below

end Missing

section Steps

variable {platform : Platform Bandwidth Filter} {past : List (SenderTransition Bandwidth Filter)}
  {now : SenderTransition Bandwidth Filter} {before after : MyBbrSender Bandwidth Filter}
  {event : Event} {time : QuicTime} {number draw : Nat}

theorem missing_snoc : Missing (past ++ [now]) number ↔
    SendsInCluster now number ∨
      Missing past number ∧ ¬EntersProbeRtt now ∧ acceptedNumber now ≠ some number := by
  constructor
  · intro ⟨earlier, sent, rest, split, sends, quiet⟩
    cases split_snoc split with
    | inl here =>
        have ⟨_, _, same⟩ := here
        exact Or.inl (same ▸ sends)
    | inr older =>
        have ⟨between, same⟩ := older
        rw [same, List.append_assoc, List.cons_append] at split
        have ⟨_, sameRest⟩ := List.cons.inj (List.append_cancel_left split)
        rw [← sameRest, List.forall_mem_append, List.forall_mem_singleton] at quiet
        exact Or.inr ⟨⟨earlier, sent, between, same, sends, quiet.1⟩, quiet.2⟩
  · intro either
    cases either with
    | inl sends => exact ⟨past, now, [], rfl, sends, by simp⟩
    | inr older =>
        have ⟨⟨earlier, sent, rest, same, sends, quiet⟩, stays⟩ := older
        refine ⟨earlier, sent, rest ++ [now], by simp [same], sends, ?_⟩
        rw [List.forall_mem_append, List.forall_mem_singleton]
        exact ⟨quiet, stays⟩

/-- `seq_round_map_` holds the packets that are missing. -/
def HoldsMissing (trail : List (SenderTransition Bandwidth Filter))
    (sender : MyBbrSender Bandwidth Filter) : Prop :=
  ∀ number, sender.seqRoundMap.find? number ≠ none ↔ Missing trail number

/-- An event that neither sends in a cluster nor acks nor clears. -/
theorem HoldsMissing.quiet (holds : HoldsMissing past before)
    (same : after.seqRoundMap = before.seqRoundMap)
    (sends : ∀ number, ¬SendsInCluster ⟨before, event, after⟩ number)
    (stays : ¬EntersProbeRtt ⟨before, event, after⟩)
    (quiet : acceptedNumber ⟨before, event, after⟩ = none) :
    HoldsMissing (past ++ [⟨before, event, after⟩]) after := by
  intro number
  rw [same, holds number, missing_snoc, or_iff_right (sends number), quiet]
  exact (and_iff_left ⟨stays, (Option.some_ne_none number).symm⟩).symm

/-- `EnterProbeRtt` empties both maps. -/
theorem HoldsMissing.entered (enters : EntersProbeRtt ⟨before, .ack time number draw, after⟩)
    (stamps : after.seqTsMap = OrderedMap.empty) (rounds : after.seqRoundMap = OrderedMap.empty) :
    (Releases ⟨before, .ack time number draw, after⟩ ↔
        NoneMissingAt past ⟨before, .ack time number draw, after⟩) ∧
      HoldsMissing (past ++ [⟨before, .ack time number draw, after⟩]) after := by
  refine ⟨iff_of_true ?_ ?_, ?_⟩
  · intro _ _
    rw [stamps, rounds]
    exact ⟨fun _ member => absurd member List.not_mem_nil,
      fun _ member => absurd member List.not_mem_nil⟩
  · intro _ _ stays
    exact absurd enters stays
  · intro other
    have unsent : ¬SendsInCluster ⟨before, .ack time number draw, after⟩ other :=
      fun ⟨_, _, same, _⟩ => nomatch same
    rw [rounds, missing_snoc, or_iff_right unsent]
    exact iff_of_false (fun found => found rfl) fun missing => missing.2.1 enters

section Stays

variable (acked : acceptedNumber ⟨before, .ack time number draw, after⟩ = some number)
  (stays : ¬EntersProbeRtt ⟨before, .ack time number draw, after⟩)
  (rounds : after.seqRoundMap = before.seqRoundMap.erase number)

include acked stays rounds

/-- An ack deletes its own entry of `seq_round_map_` only. -/
theorem HoldsMissing.erased (holds : HoldsMissing past before) :
    HoldsMissing (past ++ [⟨before, .ack time number draw, after⟩]) after := by
  intro other
  have unsent : ¬SendsInCluster ⟨before, .ack time number draw, after⟩ other :=
    fun ⟨_, _, same, _⟩ => nomatch same
  rw [missing_snoc, or_iff_right unsent, ← holds other, rounds, acked,
    OrderedMap.find?_ne_none, OrderedMap.find?_ne_none]
  simp only [OrderedMap.mem_erase, exists_and_right]
  apply and_congr_right
  intro _
  rw [and_iff_right stays]
  exact not_congr ⟨fun same => congrArg some same.symm, fun same => (Option.some.inj same).symm⟩

/-- What `seq_round_map_` keeps below the acked packet is what is missing there. -/
theorem HoldsMissing.releases_iff (holds : HoldsMissing past before)
    (stamps : after.seqTsMap = before.seqTsMap.eraseLE number) :
    Releases ⟨before, .ack time number draw, after⟩ ↔
      NoneMissingAt past ⟨before, .ack time number draw, after⟩ := by
  constructor
  · intro releases acks same _ below lower missing
    have sameAcks : number = acks := Option.some.inj (acked.symm.trans same)
    have ⟨round, entry⟩ := OrderedMap.find?_ne_none.mp ((holds below).mpr missing)
    rw [← sameAcks] at lower
    have left : (below, round) ∈ after.seqRoundMap.entries := by
      rw [rounds]
      exact OrderedMap.mem_erase.mpr ⟨entry, lower.ne⟩
    exact lt_asymm lower ((releases number acked).2 (below, round) left)
  · intro noneMissing acks same
    have sameAcks : number = acks := Option.some.inj (acked.symm.trans same)
    rw [← sameAcks]
    constructor
    · intro entry member
      rw [stamps] at member
      exact (OrderedMap.mem_eraseLE.mp member).2
    · intro entry member
      rw [rounds] at member
      have ⟨older, other⟩ := OrderedMap.mem_erase.mp member
      have held : before.seqRoundMap.find? entry.1 ≠ none :=
        OrderedMap.find?_ne_none.mpr ⟨entry.2, older⟩
      by_contra notAbove
      have lower : entry.1 < number := lt_of_le_of_ne (not_lt.mp notAbove) other
      exact noneMissing number acked stays entry.1 lower ((holds entry.1).mp held)

end Stays

variable [LinearOrder Bandwidth] {calls : List (Call Bandwidth)}

theorem HoldsMissing.packetSent {bytes : Nat} (holds : HoldsMissing past before)
    (stepped : (bbrMachine platform).step before (.packetSent time number bytes) =
      some (after, calls)) :
    HoldsMissing (past ++ [⟨before, .packetSent time number bytes, after⟩]) after := by
  have timing := MyBbrSender.timing_step platform stepped
  have step := MyBbrSender.control_step stepped
  generalize control : after.control = left at step
  have seqRoundMap : after.seqRoundMap = left.seqRoundMap := congrArg Control.seqRoundMap control
  have stays : ¬EntersProbeRtt ⟨before, .packetSent time number bytes, after⟩ := by
    have mode : after.mode = before.mode := by
      generalize same : after.timing = later at timing
      cases timing with
      | sent => exact congrArg Timing.mode same
    exact fun enters => enters.1 (mode.symm.trans enters.2)
  cases step with
  | idle outside =>
      refine holds.quiet seqRoundMap ?_ stays rfl
      intro other ⟨_, _, _, inside⟩
      exact outside inside
  | sent ref probing =>
      intro other
      have sends : SendsInCluster ⟨before, .packetSent time number bytes, after⟩ other ↔
          other = number := by
        constructor
        · intro ⟨_, _, same, _⟩
          cases same
          rfl
        · intro same
          rw [same]
          exact ⟨time, bytes, rfl, probing⟩
      rw [seqRoundMap, OrderedMap.find?_insert_ne_none, missing_snoc, sends, or_comm]
      apply or_congr_right
      have quiet : acceptedNumber ⟨before, .packetSent time number bytes, after⟩ ≠ some other :=
        (Option.some_ne_none other).symm
      rw [and_iff_left ⟨stays, quiet⟩]
      exact holds other

/-- What an accepted ack leaves in the two maps. -/
theorem HoldsMissing.accepted (holds : HoldsMissing past before) (new : before.lastAckSeq < number)
    (stepped : (bbrMachine platform).step before (.ack time number draw) = some (after, calls)) :
    (Releases ⟨before, .ack time number draw, after⟩ ↔
        NoneMissingAt past ⟨before, .ack time number draw, after⟩) ∧
      HoldsMissing (past ++ [⟨before, .ack time number draw, after⟩]) after := by
  have ⟨moded, _, _, _, changed, control, _⟩ := MyBbrSender.control_accepted new stepped
  have mode : after.mode = moded.mode := congrArg Control.mode control
  have stamps : after.seqTsMap = moded.seqTsMap := congrArg Control.seqTsMap control
  have rounds : after.seqRoundMap = moded.seqRoundMap.erase number :=
    congrArg Control.seqRoundMap control
  cases changed.samples_cases with
  | inl entered =>
      have ⟨outside, inside, _, _, noStamp, noRound⟩ := entered
      rw [noRound] at rounds
      exact HoldsMissing.entered ⟨outside, mode.trans inside⟩ (stamps.trans noStamp) rounds
  | inr kept =>
      have ⟨outside, _, _, sameStamps, sameRounds⟩ := kept
      have acked : acceptedNumber ⟨before, .ack time number draw, after⟩ = some number :=
        Waiting.acceptedNumber_ack new
      have stays : ¬EntersProbeRtt ⟨before, .ack time number draw, after⟩ := fun enters =>
        (outside enters.1).1 (mode.symm.trans enters.2)
      rw [sameRounds] at rounds
      exact ⟨holds.releases_iff acked stays rounds (stamps.trans sameStamps),
        holds.erased acked stays rounds⟩

/-- At each event: the maps are right exactly if no packet is missing. -/
theorem HoldsMissing.step (holds : HoldsMissing past before)
    (stepped : (bbrMachine platform).step before event = some (after, calls)) :
    (Releases ⟨before, event, after⟩ ↔ NoneMissingAt past ⟨before, event, after⟩) ∧
      HoldsMissing (past ++ [⟨before, event, after⟩]) after := by
  cases event with
  | packetSent time number bytes =>
      refine ⟨iff_of_true ?_ ?_, holds.packetSent stepped⟩
      · intro _ accepted
        contradiction
      · intro _ accepted
        contradiction
  | ack time number draw =>
      by_cases old : number ≤ before.lastAckSeq
      · have ⟨same, _⟩ := MyBbrSender.step_ignored old stepped
        have quiet : acceptedNumber ⟨before, .ack time number draw, after⟩ = none :=
          if_neg (Nat.not_lt.mpr old)
        refine ⟨iff_of_true ?_ ?_, holds.quiet (by rw [same]) ?_ ?_ quiet⟩
        · intro _ accepted
          rw [quiet] at accepted
          contradiction
        · intro _ accepted
          rw [quiet] at accepted
          contradiction
        · intro _ ⟨_, _, sends, _⟩
          contradiction
        · intro enters
          rw [same] at enters
          exact enters.1 enters.2
      · exact holds.accepted (Nat.lt_of_not_le old) stepped

end Steps

section Runs

variable [LinearOrder Bandwidth] (platform : Platform Bandwidth Filter)

/-- In exactly those runs every accepted ack of `p` leaves no key at or below `p` in the
two maps, in which each packet below `p` that was sent in `PROBE_BW` since the last
entry into `PROBE_RTT` has been acked, or the ack enters `PROBE_RTT`. -/
theorem released_iff (minBps startBps maxBps : Nat) (events : List Event) :
    (∀ now ∈ (bbrMachine platform).transitions (.create platform minBps startBps maxBps) events,
        Releases now) ↔
      Throughout NoneMissingAt
        ((bbrMachine platform).transitions (.create platform minBps startBps maxBps) events) := by
  have initial : HoldsMissing [] (MyBbrSender.create platform minBps startBps maxBps) := by
    intro number
    refine iff_of_false (fun found => found rfl) ?_
    intro ⟨earlier, sent, rest, split, _⟩
    simp at split
  have unconditional : Throughout (fun _ _ => True) ((bbrMachine platform).transitions
      (.create platform minBps startBps maxBps) events) := fun _ _ _ _ => trivial
  rw [← throughout_mem]
  refine Machine.throughout_iff initial ?_ unconditional
  intro trail middle event after calls holds stepped _
  have ⟨law, next⟩ := holds.step stepped
  exact ⟨law, fun _ => next⟩

/-- Packet 2 is lost. -/
def lostPacketRun : List Event :=
  [.packetSent 1000 1 1000, .ack 101000 1 0, .packetSent 102000 2 1000,
    .packetSent 103000 3 1000, .ack 203000 3 0]

/-- `seq_round_map_` keeps the lost packet. -/
theorem not_released_lostPacketRun :
    ClockOrdered lostPacketRun ∧ NumbersIncrease lostPacketRun ∧
      ((bbrMachine Platform.bits).transitions (.create Platform.bits 1000 1000 1000)
        lostPacketRun).length = lostPacketRun.length ∧
      ¬∀ now ∈ (bbrMachine Platform.bits).transitions (.create Platform.bits 1000 1000 1000)
        lostPacketRun, Releases now := by
  refine ⟨⟨by decide, by decide⟩, by unfold NumbersIncrease; decide, by decide +kernel, ?_⟩
  intro released
  have last : (((bbrMachine Platform.bits).transitions (.create Platform.bits 1000 1000 1000)
      lostPacketRun)[4]?).map (fun now => (acceptedNumber now, now.after.seqRoundMap.entries)) =
      some (some 3, [(2, 1)]) := by
    decide +kernel
  have ⟨now, found, same⟩ := Option.map_eq_some_iff.mp last
  have ⟨accepted, entries⟩ := Prod.mk.inj same
  have above := (released now (List.mem_of_getElem? found) 3 accepted).2
  rw [entries] at above
  exact absurd (above (2, 1) (List.mem_singleton_self _)) (by decide)

end Runs

end StupidSimple.Bbr
