import StupidSimple.Bbr.ProbeRtt

/-!
Owns the gain cycle of `PROBE_BW`. `Cycle.Step` is what an event does to mode, round,
phase and gain, and `phase_locked` what follows for every run: the phase is the drawn
one, moved on once for each round since, and a cluster is sent in one phase.
-/

namespace StupidSimple.Bbr

open StupidSimple.Library

/-- The part of the control that the gain cycle is about. -/
structure Cycle where
  mode : Mode
  round : Nat
  offset : Nat
  gain : ℚ

namespace Cycle

variable {earlier cycle after : Cycle} {event : Event}

/-- The next phase, in a new round. -/
def next (cycle : Cycle) : Cycle where
  mode := cycle.mode
  round := cycle.round + 1
  offset := (cycle.offset + 1) % kGainCycleLength
  gain := kPacingGain.getD ((cycle.offset + 1) % kGainCycleLength) 0

/-- A drawn phase, in a new round. -/
def start (draw : Nat) (cycle : Cycle) : Cycle where
  mode := .probeBw
  round := cycle.round + 1
  offset := drawnOffset draw
  gain := kPacingGain.getD (drawnOffset draw) 0

/-- What an event does to the cycle. -/
inductive Step (cycle : Cycle) : Event → Cycle → Prop
  | kept {event : Event} : Step cycle event cycle
  | next {time : QuicTime} {number bytes : Nat} (probing : cycle.mode = .probeBw) :
      Step cycle (.packetSent time number bytes) cycle.next
  | started {time : QuicTime} {number draw : Nat} (outside : cycle.mode ≠ .probeBw) :
      Step cycle (.ack time number draw) (cycle.start draw)
  | stopped {time : QuicTime} {number draw offset : Nat} :
      Step cycle (.ack time number draw) ⟨.probeRtt, 0, offset, 1⟩

/-- The gain is that of the phase in `PROBE_BW`, and one outside. -/
structure Phased (cycle : Cycle) : Prop where
  outside : cycle.mode ≠ .probeBw → cycle.gain = 1
  inside : cycle.mode = .probeBw → kPacingGain[cycle.offset]? = some cycle.gain

/-- One round after the other, the phase has moved on with each. -/
def Advances (earlier later : Cycle) : Prop :=
  earlier.round ≤ later.round ∧
    later.offset = (earlier.offset + (later.round - earlier.round)) % kGainCycleLength

theorem gain_at {offset : Nat} (inside : offset < kGainCycleLength) :
    kPacingGain[offset]? = some (kPacingGain.getD offset 0) := by
  rw [List.getD_eq_getElem?_getD, List.getElem?_eq_getElem inside, Option.getD_some]

theorem drawnOffset_lt (draw : Nat) : drawnOffset draw < kGainCycleLength := by
  have length : kGainCycleLength = 8 := rfl
  have drawn : draw % (kGainCycleLength - 1) < 7 := Nat.mod_lt _ (by decide)
  unfold drawnOffset
  split <;> omega

/-- The drawn phase is never the one that drains. -/
theorem gain_drawnOffset (draw : Nat) : kPacingGain[drawnOffset draw]? ≠ some (3 / 4) := by
  have draining : ∀ offset < 8, offset ≠ 1 → kPacingGain[offset]? ≠ some (3 / 4) := by
    decide +kernel
  have other : drawnOffset draw ≠ 1 := by
    unfold drawnOffset
    split <;> omega
  exact draining _ (drawnOffset_lt draw) other

theorem Phased.offset_lt (phased : cycle.Phased) (probing : cycle.mode = .probeBw) :
    cycle.offset < kGainCycleLength :=
  (List.getElem?_eq_some_iff.mp (phased.inside probing)).choose

theorem Phased.step (phased : cycle.Phased) (step : cycle.Step event after) : after.Phased := by
  cases step with
  | kept => exact phased
  | next probing =>
      refine ⟨fun outside => absurd probing outside, fun _ => gain_at ?_⟩
      exact Nat.mod_lt _ (by decide)
  | started outside =>
      exact ⟨fun outside => absurd rfl outside, fun _ => gain_at (drawnOffset_lt _)⟩
  | stopped => exact ⟨fun _ => rfl, fun inside => nomatch inside⟩

theorem Advances.refl (inside : cycle.offset < kGainCycleLength) : cycle.Advances cycle :=
  ⟨le_refl _, by rw [Nat.sub_self, Nat.add_zero, Nat.mod_eq_of_lt inside]⟩

/-- As long as `PROBE_BW` lasts, an event leaves the phase or moves it on. -/
theorem Advances.step (advances : earlier.Advances cycle) (step : cycle.Step event after)
    (before : cycle.mode = .probeBw) (lasts : after.mode = .probeBw) :
    earlier.Advances after := by
  have ⟨ordered, offset⟩ := advances
  cases step with
  | kept => exact advances
  | next probing =>
      refine ⟨ordered.trans (Nat.le_succ _), ?_⟩
      have later : cycle.round + 1 - earlier.round = cycle.round - earlier.round + 1 :=
        Nat.sub_add_comm ordered
      show (cycle.offset + 1) % kGainCycleLength = _
      rw [offset, Nat.mod_add_mod, Nat.add_assoc]
      exact congrArg (fun rounds => (earlier.offset + rounds) % kGainCycleLength) later.symm
  | started outside => exact absurd before outside
  | stopped => contradiction

/-- In the same round the phase is the same. -/
theorem Advances.same_phase (advances : earlier.Advances cycle) (phased : earlier.Phased)
    (lasts : cycle.Phased) (probing : earlier.mode = .probeBw) (still : cycle.mode = .probeBw)
    (round : earlier.round = cycle.round) :
    earlier.offset = cycle.offset ∧ earlier.gain = cycle.gain := by
  have offset : earlier.offset = cycle.offset := by
    rw [advances.2, round, Nat.sub_self, Nat.add_zero, Nat.mod_eq_of_lt (phased.offset_lt probing)]
  refine ⟨offset, Option.some.inj ?_⟩
  rw [← phased.inside probing, ← lasts.inside still, offset]

end Cycle

variable {Bandwidth Filter : Type}

/-- The gain cycle of a control. -/
def Control.cycle (control : Control Bandwidth Filter) : Cycle :=
  ⟨control.mode, control.roundTripCount, control.cycleCurrentOffset, control.pacingGain⟩

def MyBbrSender.cycle (sender : MyBbrSender Bandwidth Filter) : Cycle := sender.control.cycle

theorem Control.Step.cycle [LinearOrder Bandwidth] {platform : Platform Bandwidth Filter}
    {control after : Control Bandwidth Filter} {event : Event} {calls : List (Call Bandwidth)}
    (step : control.Step platform event calls after) : control.cycle.Step event after.cycle := by
  cases step with
  | idle outside => exact .kept
  | @sent time number bytes ref probing =>
      by_cases elapsed : control.phaseOver time
      · rw [advanced, if_pos elapsed]
        exact .next probing
      · rw [advanced, if_neg elapsed]
        exact .kept
  | ignored old => exact .kept
  | accepted new changed =>
      cases changed with
      | probing mode fresh => exact .kept
      | started mode fresh => exact .started (ne_of_eq_of_ne mode (by decide))
      | entered mode expired => exact .stopped
      | waited mode stays => exact .kept
      | left mode elapsed => exact .started (ne_of_eq_of_ne mode (by decide))

/-! ### Stays in `PROBE_BW` -/

section Trail

variable (trail past : List (SenderTransition Bandwidth Filter))
  (now : SenderTransition Bandwidth Filter)

/-- The current stay in `PROBE_BW`: its first entry is the last `EnterProbeBandwidthMode`. -/
def stay : List (SenderTransition Bandwidth Filter) :=
  trail.rtakeWhile fun transition => transition.after.mode = .probeBw

/-- `EnterProbeBandwidthMode` takes the phase from a random number. -/
def Draws (draw : Nat) : Prop :=
  now.before.mode ≠ .probeBw ∧ now.after.cycle = now.before.cycle.start draw ∧
    ∃ time number, now.event = .ack time number draw

/-- The state of `PROBE_BW` in the round `round`, when the round `first` had the phase
`drawn`. -/
structure InPhase (drawn first : Nat) (sender : MyBbrSender Bandwidth Filter) : Prop where
  offset_lt : sender.cycleCurrentOffset < kGainCycleLength
  gain : kPacingGain[sender.cycleCurrentOffset]? = some sender.pacingGain
  round_pos : 1 ≤ sender.roundTripCount
  first_le : first ≤ sender.roundTripCount
  offset : sender.cycleCurrentOffset =
    (drawn + sender.roundTripCount - first) % kGainCycleLength

variable [LinearOrder Bandwidth] (platform : Platform Bandwidth Filter)

/-- The packet of the event goes to the cluster at `ref`. -/
def HandedTo (ref : ClusterRef) : Prop :=
  ∃ time number bytes, now.event = .packetSent time number bytes ∧
    (bbrMachine platform).step now.before now.event = some (now.after, [.clusterPacketSent ref])

/-- Mode, phase, gain and round agree after an event. -/
structure PhaseLockedAt : Prop where
  outside : now.after.mode ≠ .probeBw → now.after.pacingGain = 1
  inside : now.after.mode = .probeBw → ∃ start ∈ (stay (past ++ [now])).head?, ∃ draw,
    Draws start draw ∧ kPacingGain[drawnOffset draw]? ≠ some (3 / 4) ∧
      InPhase (drawnOffset draw) start.after.roundTripCount now.after
  consecutive : ∀ earlier ∈ stay past, now.after.mode = .probeBw →
    now.after.roundTripCount = earlier.after.roundTripCount + 1 →
    now.after.cycleCurrentOffset = (earlier.after.cycleCurrentOffset + 1) % kGainCycleLength
  oneGain : ∀ ref, HandedTo now platform ref → ∀ earlier ∈ past, HandedTo earlier platform ref →
    earlier.after.roundTripCount = now.after.roundTripCount ∧
      earlier.after.cycleCurrentOffset = now.after.cycleCurrentOffset ∧
      earlier.after.pacingGain = now.after.pacingGain

end Trail

section Cycling

variable {past : List (SenderTransition Bandwidth Filter)}
  {now : SenderTransition Bandwidth Filter} {before after : MyBbrSender Bandwidth Filter}
  {event : Event}

theorem stay_snoc : stay (past ++ [now]) =
    if now.after.mode = .probeBw then stay past ++ [now] else [] := by
  rw [stay, List.rtakeWhile_concat]
  by_cases probing : now.after.mode = .probeBw
  · simp [probing, stay]
  · simp [probing]

theorem mem_stay_last (probing : now.after.mode = .probeBw) : now ∈ stay (past ++ [now]) := by
  rw [stay_snoc, if_pos probing]
  exact List.mem_append_right _ (List.mem_singleton_self _)

theorem mem_stay_earlier (probing : now.after.mode = .probeBw)
    {earlier : SenderTransition Bandwidth Filter} (inside : earlier ∈ stay past) :
    earlier ∈ stay (past ++ [now]) := by
  rw [stay_snoc, if_pos probing]
  exact List.mem_append_left _ inside

/-- The cycle of a sender, given the events so far. -/
structure Cycling (trail : List (SenderTransition Bandwidth Filter))
    (sender : MyBbrSender Bandwidth Filter) : Prop where
  phased : sender.cycle.Phased
  outside : sender.mode ≠ .probeBw → stay trail = []
  started : sender.mode = .probeBw → ∃ start ∈ (stay trail).head?, ∃ draw, Draws start draw
  advances : ∀ earlier ∈ stay trail, earlier.after.mode = .probeBw ∧
    earlier.after.cycle.Phased ∧ earlier.after.cycle.Advances sender.cycle

theorem Cycling.step (cycling : Cycling past before)
    (step : before.cycle.Step event after.cycle) :
    Cycling (past ++ [⟨before, event, after⟩]) after := by
  have phased := cycling.phased.step step
  by_cases probing : after.mode = .probeBw
  · have stays : stay (past ++ [⟨before, event, after⟩]) = stay past ++ [⟨before, event, after⟩] :=
      stay_snoc.trans (if_pos probing)
    have own := Cycle.Advances.refl (phased.offset_lt probing)
    refine ⟨phased, fun outside => absurd probing outside, fun _ => ?_, ?_⟩
    · rw [stays]
      by_cases probed : before.mode = .probeBw
      · have ⟨start, first, draw, draws⟩ := cycling.started probed
        exact ⟨start, List.mem_head?_append_of_mem_head? first, draw, draws⟩
      · rw [cycling.outside probed]
        refine ⟨⟨before, event, after⟩, rfl, ?_⟩
        generalize cycle : after.cycle = left at step
        cases step with
        | kept => exact absurd ((congrArg Cycle.mode cycle).symm.trans probing) probed
        | next inside => exact absurd inside probed
        | @started time number draw outside => exact ⟨draw, probed, cycle, time, number, rfl⟩
        | stopped => exact nomatch (congrArg Cycle.mode cycle).symm.trans probing
    · intro earlier member
      rw [stays] at member
      cases List.mem_append.mp member with
      | inl older =>
          have ⟨still, phasedThen, advances⟩ := cycling.advances earlier older
          have probed : before.mode = .probeBw := by
            by_contra outside
            rw [cycling.outside outside] at older
            exact List.not_mem_nil older
          exact ⟨still, phasedThen, advances.step step probed probing⟩
      | inr last =>
          rw [List.mem_singleton.mp last]
          exact ⟨probing, phased, own⟩
  · have stays : stay (past ++ [⟨before, event, after⟩]) = [] := stay_snoc.trans (if_neg probing)
    refine ⟨phased, fun _ => stays, fun inside => absurd inside probing, ?_⟩
    rw [stays]
    exact fun _ member => absurd member List.not_mem_nil

/-- The state of `PROBE_BW`, from the start of the stay. -/
theorem Cycling.inPhase {trail : List (SenderTransition Bandwidth Filter)}
    {sender : MyBbrSender Bandwidth Filter} (cycling : Cycling trail sender)
    (probing : sender.mode = .probeBw) :
    ∃ start ∈ (stay trail).head?, ∃ draw, Draws start draw ∧
      kPacingGain[drawnOffset draw]? ≠ some (3 / 4) ∧
      InPhase (drawnOffset draw) start.after.roundTripCount sender := by
  have ⟨start, first, draw, draws⟩ := cycling.started probing
  have ⟨_, _, ordered, offset⟩ := cycling.advances start (List.mem_of_mem_head? first)
  have drawn : start.after.cycle.offset = drawnOffset draw := congrArg Cycle.offset draws.2.1
  have rounds : start.after.cycle.round = start.before.cycle.round + 1 :=
    congrArg Cycle.round draws.2.1
  have later : start.before.cycle.round + 1 ≤ sender.cycle.round := rounds ▸ ordered
  rw [drawn, ← Nat.add_sub_assoc ordered] at offset
  exact ⟨start, first, draw, draws, Cycle.gain_drawnOffset draw,
    cycling.phased.offset_lt probing, cycling.phased.inside probing, Nat.le_of_add_left_le later,
    ordered, offset⟩

end Cycling

/-! ### The clusters of a stay -/

section Clusters

variable {platform : Platform Bandwidth Filter}
  {past : List (SenderTransition Bandwidth Filter)} {before after : MyBbrSender Bandwidth Filter}
  {event : Event} {calls : List (Call Bandwidth)}

theorem MyBbrSender.clusters_updateGainCyclePhase (sender : MyBbrSender Bandwidth Filter)
    (now : QuicTime) :
    (sender.updateGainCyclePhase now).heap = sender.heap ∧
      (sender.updateGainCyclePhase now).connectionInfo = sender.connectionInfo := by
  unfold updateGainCyclePhase
  split <;> exact ⟨rfl, rfl⟩

variable [LinearOrder Bandwidth]

theorem MyBbrSender.clusters_calculatePacingRate (platform : Platform Bandwidth Filter)
    (sender : MyBbrSender Bandwidth Filter) :
    (sender.calculatePacingRate platform).heap = sender.heap ∧
      (sender.calculatePacingRate platform).connectionInfo = sender.connectionInfo := by
  unfold calculatePacingRate
  split <;> exact ⟨rfl, rfl⟩

/-- An ack creates no cluster, and one that ends `PROBE_BW` deletes all of them. -/
theorem MyBbrSender.held_ack {time : QuicTime} {number draw : Nat}
    (stepped : (bbrMachine platform).step before (.ack time number draw) = some (after, calls)) :
    after.heap.next = before.heap.next ∧
      (∀ id ref, after.connectionInfo.find? id = some ref →
        before.connectionInfo.find? id = some ref) ∧
      (before.mode = .probeBw → after.mode ≠ .probeBw →
        ∀ id, after.connectionInfo.find? id = none) := by
  by_cases old : number ≤ before.lastAckSeq
  · have ⟨same, _⟩ := step_ignored old stepped
    rw [same]
    exact ⟨rfl, fun _ _ found => found, fun probing outside => absurd probing outside⟩
  · have ⟨moded, credited, cleared, estimates, averages, changed, clusters, credits, trims, _⟩ :=
      onAck_accepted (Nat.lt_of_not_le old) stepped
    have ⟨sameHeap, sameHeld⟩ := clusters_calculatePacingRate platform moded
    have crediting := kept_creditAckedPacket credits
    have averaging := kept_updateAverageBandwidth trims
    have next : after.heap.next = moded.heap.next :=
      averaging.next.trans (crediting.next.trans (congrArg Heap.next sameHeap))
    have held : ∀ id ref, after.connectionInfo.find? id = some ref →
        moded.connectionInfo.find? id = some ref := by
      intro id ref found
      rw [← sameHeld]
      exact crediting.held id ref (averaging.held id ref found)
    have mode : after.mode = moded.mode := congrArg Control.mode (control_credited credits trims)
    cases clusters with
    | kept sameObjects sameRefs stays =>
        refine ⟨next.trans (congrArg Heap.next sameObjects), sameRefs ▸ held, ?_⟩
        intro probing outside
        rw [mode] at outside
        have notWaiting := stays (by simp [probing])
        generalize control : moded.control = left at changed
        have sameMode : moded.mode = left.mode := congrArg Control.mode control
        cases changed with
        | probing inside _ => exact absurd (sameMode.trans inside) outside
        | started _ _ => exact absurd sameMode outside
        | entered _ _ => exact absurd sameMode notWaiting
        | waited waiting _ => exact nomatch probing.symm.trans waiting
        | left _ _ => exact absurd sameMode outside
    | cleared _ emptied sameNext =>
        rw [emptied] at held
        have empty : ∀ id ref, after.connectionInfo.find? id ≠ some ref :=
          fun id ref found => nomatch held id ref found
        exact ⟨next.trans sameNext, fun id ref found => absurd found (empty id ref),
          fun _ _ id => Option.eq_none_iff_forall_ne_some.mpr (empty id)⟩

/-- The clusters and the packets that went to them. -/
structure Handed (platform : Platform Bandwidth Filter)
    (trail : List (SenderTransition Bandwidth Filter)) (sender : MyBbrSender Bandwidth Filter) :
    Prop where
  idle : sender.mode ≠ .probeBw → ∀ id, sender.connectionInfo.find? id = none
  fresh : ∀ id ref, sender.connectionInfo.find? id = some ref → ref < sender.heap.next
  older : ∀ earlier ∈ trail, ∀ ref, HandedTo earlier platform ref → ref < sender.heap.next
  unique : ∀ id other ref, sender.connectionInfo.find? id = some ref →
    sender.connectionInfo.find? other = some ref → id = other
  held : ∀ id ref, sender.connectionInfo.find? id = some ref →
    ∀ earlier ∈ trail, HandedTo earlier platform ref →
      earlier ∈ stay trail ∧ earlier.after.roundTripCount = id

namespace Handed

/-- The packets of a cluster were sent in the current stay and in the round of the cluster. -/
theorem held_earlier (handed : Handed platform past before) (probing : after.mode = .probeBw)
    {id : Nat} {ref : ClusterRef} (found : before.connectionInfo.find? id = some ref)
    {earlier : SenderTransition Bandwidth Filter} (member : earlier ∈ past)
    (hands : HandedTo earlier platform ref) :
    earlier ∈ stay (past ++ [⟨before, event, after⟩]) ∧ earlier.after.roundTripCount = id :=
  (handed.held id ref found earlier member hands).imp_left (mem_stay_earlier probing)

/-- An event that hands no packet to a cluster. -/
theorem quiet (handed : Handed platform past before) (next : after.heap.next = before.heap.next)
    (silent : ∀ ref, ¬HandedTo ⟨before, event, after⟩ platform ref)
    (held : ∀ id ref, after.connectionInfo.find? id = some ref →
      before.connectionInfo.find? id = some ref)
    (idle : after.mode ≠ .probeBw → ∀ id, after.connectionInfo.find? id = none) :
    Handed platform (past ++ [⟨before, event, after⟩]) after where
  idle := idle
  fresh id ref found := by
    rw [next]
    exact handed.fresh id ref (held id ref found)
  older earlier member ref hands := by
    rw [next]
    cases List.mem_append.mp member with
    | inl before => exact handed.older earlier before ref hands
    | inr last =>
        rw [List.mem_singleton.mp last] at hands
        exact absurd hands (silent ref)
  unique id other ref found same := handed.unique id other ref (held id ref found) (held other ref same)
  held id ref found earlier member hands := by
    have probing : after.mode = .probeBw := by
      by_contra outside
      exact nomatch (idle outside id).symm.trans found
    cases List.mem_append.mp member with
    | inl before => exact handed.held_earlier probing (held id ref found) before hands
    | inr last =>
        rw [List.mem_singleton.mp last] at hands
        exact absurd hands (silent ref)

theorem ack {time : QuicTime} {number draw : Nat} (handed : Handed platform past before)
    (stepped : (bbrMachine platform).step before (.ack time number draw) = some (after, calls)) :
    Handed platform (past ++ [⟨before, .ack time number draw, after⟩]) after := by
  have ⟨next, held, stopped⟩ := MyBbrSender.held_ack stepped
  refine handed.quiet next ?_ held ?_
  · intro ref ⟨_, _, _, sends, _⟩
    contradiction
  · intro outside id
    by_cases probed : before.mode = .probeBw
    · exact stopped probed outside id
    · refine Option.eq_none_iff_forall_ne_some.mpr fun ref found => ?_
      exact nomatch (handed.idle probed id).symm.trans (held id ref found)

/-- A packet goes to a cluster that is there. -/
theorem sent_current {ref : ClusterRef} (handed : Handed platform past before)
    (found : before.connectionInfo.find? after.roundTripCount = some ref)
    (held : after.connectionInfo = before.connectionInfo)
    (next : after.heap.next = before.heap.next) (probing : after.mode = .probeBw)
    (only : ∀ other, HandedTo ⟨before, event, after⟩ platform other → other = ref) :
    Handed platform (past ++ [⟨before, event, after⟩]) after where
  idle outside := absurd probing outside
  fresh := by
    rw [held, next]
    exact handed.fresh
  older := by
    rw [List.forall_mem_append, List.forall_mem_singleton, next]
    refine ⟨handed.older, fun other hands => ?_⟩
    rw [only other hands]
    exact handed.fresh _ _ found
  unique := by
    rw [held]
    exact handed.unique
  held id other taken := by
    rw [held] at taken
    rw [List.forall_mem_append, List.forall_mem_singleton]
    refine ⟨fun earlier member hands => handed.held_earlier probing taken member hands,
      fun hands => ⟨mem_stay_last probing, ?_⟩⟩
    rw [only other hands] at taken
    exact handed.unique _ _ _ found taken

/-- A packet goes to a cluster that is made for it. -/
theorem sent_created (handed : Handed platform past before)
    (held : after.connectionInfo =
      before.connectionInfo.insert after.roundTripCount before.heap.next)
    (next : after.heap.next = before.heap.next + 1) (probing : after.mode = .probeBw)
    (only : ∀ other, HandedTo ⟨before, event, after⟩ platform other → other = before.heap.next) :
    Handed platform (past ++ [⟨before, event, after⟩]) after := by
  have found_cases : ∀ id other, after.connectionInfo.find? id = some other →
      before.connectionInfo.find? id = some other ∨
        id = after.roundTripCount ∧ other = before.heap.next := by
    intro id other found
    rw [held, OrderedMap.find?_eq_some, OrderedMap.mem_insert] at found
    cases found with
    | inl old => exact Or.inl (OrderedMap.find?_eq_some.mpr old)
    | inr new => exact Or.inr (Prod.mk.inj new.1)
  refine ⟨fun outside => absurd probing outside, ?_, ?_, ?_, ?_⟩
  · intro id other found
    rw [next]
    cases found_cases id other found with
    | inl old => exact Nat.lt_succ_of_lt (handed.fresh id other old)
    | inr new => exact new.2 ▸ Nat.lt_succ_self _
  · rw [List.forall_mem_append, List.forall_mem_singleton, next]
    refine ⟨fun earlier member other hands =>
      Nat.lt_succ_of_lt (handed.older earlier member other hands), fun other hands => ?_⟩
    rw [only other hands]
    exact Nat.lt_succ_self _
  · intro id other shared found same
    cases found_cases id shared found with
    | inl old =>
        cases found_cases other shared same with
        | inl older => exact handed.unique id other shared old older
        | inr new => exact absurd (handed.fresh id shared old) (new.2 ▸ lt_irrefl _)
    | inr new =>
        cases found_cases other shared same with
        | inl older => exact absurd (handed.fresh other shared older) (new.2 ▸ lt_irrefl _)
        | inr again => exact new.1.trans again.1.symm
  · intro id other found
    rw [List.forall_mem_append, List.forall_mem_singleton]
    cases found_cases id other found with
    | inl old =>
        refine ⟨fun earlier member hands => handed.held_earlier probing old member hands,
          fun hands => ?_⟩
        exact absurd (handed.fresh id other old) (only other hands ▸ lt_irrefl _)
    | inr new =>
        refine ⟨fun earlier member hands => ?_, fun _ => ⟨mem_stay_last probing, new.1.symm⟩⟩
        exact absurd (handed.older earlier member other hands) (new.2 ▸ lt_irrefl _)

/-- A packet goes to the cluster of its round, which may be a new one. -/
theorem sent {ref : ClusterRef} {now : QuicTime} (handed : Handed platform past before)
    (placed : MyBbrSender.Placed (before.updateGainCyclePhase now) after ref)
    (round : after.roundTripCount = (before.updateGainCyclePhase now).roundTripCount)
    (probing : after.mode = .probeBw)
    (only : ∀ other, HandedTo ⟨before, event, after⟩ platform other → other = ref) :
    Handed platform (past ++ [⟨before, event, after⟩]) after := by
  have ⟨sameHeap, sameHeld⟩ := before.clusters_updateGainCyclePhase now
  cases placed with
  | current found held next =>
      rw [sameHeap] at next
      rw [sameHeld] at held found
      rw [← round] at found
      exact handed.sent_current found held next probing only
  | created absent held next =>
      rw [sameHeap] at next only
      rw [sameHeap, sameHeld, ← round] at held
      exact handed.sent_created held next probing only

/-- What an event does to the clusters, and the rounds of the packets that a cluster
has got before. -/
theorem step (handed : Handed platform past before)
    (stepped : (bbrMachine platform).step before event = some (after, calls)) :
    Handed platform (past ++ [⟨before, event, after⟩]) after ∧
      ∀ ref, HandedTo ⟨before, event, after⟩ platform ref →
        ∀ earlier ∈ past, HandedTo earlier platform ref →
          earlier ∈ stay (past ++ [⟨before, event, after⟩]) ∧
            earlier.after.roundTripCount = after.roundTripCount := by
  cases event with
  | ack time number draw =>
      refine ⟨handed.ack stepped, fun ref ⟨_, _, _, sends, _⟩ => ?_⟩
      contradiction
  | packetSent time number bytes =>
      have given : ∀ other, HandedTo ⟨before, .packetSent time number bytes, after⟩ platform other →
          calls = [.clusterPacketSent other] := by
        intro other ⟨_, _, _, _, sends⟩
        exact (Prod.mk.inj (Option.some.inj (stepped.symm.trans sends))).2
      cases MyBbrSender.onPacketSent_cases stepped with
      | inl idle =>
          have ⟨outside, noCall, same⟩ := idle
          have silent : ∀ ref,
              ¬HandedTo ⟨before, .packetSent time number bytes, after⟩ platform ref :=
            fun ref hands => nomatch noCall.symm.trans (given ref hands)
          refine ⟨handed.quiet (by rw [same]) silent ?_ ?_, fun ref hands => ?_⟩
          · rw [same]
            exact fun _ _ found => found
          · rw [same]
            exact handed.idle
          · exact absurd hands (silent ref)
      | inr probing =>
          have ⟨inside, ref, made, placed, control⟩ := probing
          have only : ∀ other,
              HandedTo ⟨before, .packetSent time number bytes, after⟩ platform other →
                other = ref := by
            intro other hands
            have both := made.symm.trans (given other hands)
            exact (Call.clusterPacketSent.inj (List.singleton_inj.mp both)).symm
          have mode : after.mode = .probeBw := by
            have advanced : (before.control.advanced time).mode = before.mode := by
              unfold Control.advanced
              split <;> rfl
            exact (congrArg Control.mode control).trans (advanced.trans inside)
          have round : after.roundTripCount =
              (before.updateGainCyclePhase time).roundTripCount :=
            (congrArg Control.roundTripCount control).trans
              (congrArg Control.roundTripCount
                (MyBbrSender.control_updateGainCyclePhase before time)).symm
          refine ⟨handed.sent placed round mode only, fun other hands earlier member gets => ?_⟩
          rw [only other hands] at gets
          have ⟨sameHeap, sameHeld⟩ := before.clusters_updateGainCyclePhase time
          cases placed with
          | current found _ _ =>
              rw [sameHeld, ← round] at found
              exact handed.held_earlier mode found member gets
          | created _ _ _ =>
              rw [sameHeap] at gets
              exact absurd (handed.older earlier member _ gets) (lt_irrefl _)

end Handed

/-- The invariant of a run: its cycle and its clusters. -/
structure Rotates (platform : Platform Bandwidth Filter)
    (trail : List (SenderTransition Bandwidth Filter)) (sender : MyBbrSender Bandwidth Filter) :
    Prop where
  cycling : Cycling trail sender
  handed : Handed platform trail sender

/-- The invariant is kept, and with it the lock of phase and round. -/
theorem Rotates.step (rotates : Rotates platform past before)
    (stepped : (bbrMachine platform).step before event = some (after, calls)) :
    PhaseLockedAt past ⟨before, event, after⟩ platform ∧
      Rotates platform (past ++ [⟨before, event, after⟩]) after := by
  have cycled := rotates.cycling.step (MyBbrSender.control_step stepped).cycle
  have ⟨handed, shared⟩ := rotates.handed.step stepped
  refine ⟨⟨cycled.phased.outside, cycled.inPhase, ?_, ?_⟩, cycled, handed⟩
  · intro earlier member probing round
    have ⟨_, _, _, offset⟩ := cycled.advances earlier (by
      rw [stay_snoc, if_pos probing]
      exact List.mem_append_left _ member)
    have one : after.cycle.round - earlier.after.cycle.round = 1 :=
      (congrArg (· - earlier.after.cycle.round) round).trans (Nat.add_sub_cancel_left ..)
    rw [one] at offset
    exact offset
  · intro ref hands earlier member gets
    have ⟨inside, round⟩ := shared ref hands earlier member gets
    have ⟨still, phased, advances⟩ := cycled.advances earlier inside
    have probing : after.mode = .probeBw := by
      by_contra outside
      rw [cycled.outside outside] at inside
      exact List.not_mem_nil inside
    exact ⟨round, advances.same_phase phased cycled.phased still probing round⟩

end Clusters

section Runs

variable [LinearOrder Bandwidth] (platform : Platform Bandwidth Filter)

/-- In every run, after every event: outside `PROBE_BW` the gain is one; in it phase and
gain follow from the round and the phase drawn at the start of the stay, and all
packets of a cluster are sent in one phase. -/
theorem phase_locked (minBps startBps maxBps : Nat) (events : List Event) :
    (MyBbrSender.create platform minBps startBps maxBps).mode ≠ .probeBw ∧
      (MyBbrSender.create platform minBps startBps maxBps).pacingGain = 1 ∧
      Throughout (fun past now => PhaseLockedAt past now platform)
        ((bbrMachine platform).transitions (.create platform minBps startBps maxBps) events) := by
  refine ⟨Mode.noConfusion, rfl, ?_⟩
  have cycling : Cycling [] (MyBbrSender.create platform minBps startBps maxBps) :=
    ⟨⟨fun _ => rfl, Mode.noConfusion⟩, fun _ => rfl, Mode.noConfusion,
      fun _ member => absurd member List.not_mem_nil⟩
  have handed : Handed platform [] (MyBbrSender.create platform minBps startBps maxBps) := by
    refine ⟨fun _ _ => rfl, ?_, fun _ member => absurd member List.not_mem_nil, ?_,
      fun _ _ _ _ member => absurd member List.not_mem_nil⟩
    · intro id ref found
      contradiction
    · intro id other ref found
      contradiction
  have unconditional : Throughout (fun _ _ => True) ((bbrMachine platform).transitions
      (.create platform minBps startBps maxBps) events) := fun _ _ _ _ => trivial
  refine Machine.throughout_of_invariant (Rotates.mk cycling handed) ?_ unconditional
  intro trail middle event after calls rotates stepped _
  exact rotates.step stepped

end Runs

end StupidSimple.Bbr
