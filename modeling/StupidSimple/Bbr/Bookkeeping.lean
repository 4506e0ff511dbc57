import StupidSimple.Bbr.Simulation

/-!
Owns the safety of the cluster bookkeeping over whole runs. `Orderly` is the
contract on the observable calls: estimates between two clears go from older to
younger clusters, and every average is over the last ten estimates.
`bookkeeping_safe` states the contract of a run from a fresh sender: every event
is enabled, the state names no deleted cluster, and its calls are orderly.
-/

namespace StupidSimple.Bbr

open StupidSimple.Library

/-- Every call of a run, in order. -/
def callsOf {Bandwidth : Type} (history : List (Event × List (Call Bandwidth))) :
    List (Call Bandwidth) :=
  history.flatMap Prod.snd

/-! ### The contract on the calls -/

section Orderly

variable {Bandwidth : Type}

/-- An average is over the last ten estimates. -/
def Call.Averages (estimates : Estimates) : Call Bandwidth → Prop
  | .averageBandwidth clusters _ _ =>
      clusters.length = kAverageAckRateWindowSize ∧
        clusters = (estimates.rtake kAverageAckRateWindowSize).map Prod.fst
  | _ => True

/-- Calls that keep the estimates ordered and average over the last ten;
`estimates` are those since the last clear. -/
def Orderly : Estimates → List (Call Bandwidth) → Prop
  | estimates, [] => estimates.Pairwise EstimatedBefore
  | estimates, call :: rest =>
      estimates.Pairwise EstimatedBefore ∧ call.Averages estimates ∧
        Orderly (estimatesAfter estimates [call]) rest

theorem Orderly.increasing {estimates : Estimates} {calls : List (Call Bandwidth)}
    (orderly : Orderly estimates calls) : estimates.Pairwise EstimatedBefore := by
  cases calls with
  | nil => exact orderly
  | cons call rest => exact orderly.1

theorem orderly_append {estimates : Estimates} {left right : List (Call Bandwidth)} :
    Orderly estimates (left ++ right) ↔
      Orderly estimates left ∧ Orderly (estimatesAfter estimates left) right := by
  induction left generalizing estimates with
  | nil => exact ⟨fun orderly => ⟨orderly.increasing, orderly⟩, And.right⟩
  | cons call rest inductionHypothesis =>
      have sameEstimates : estimatesAfter (estimatesAfter estimates [call]) rest =
          estimatesAfter estimates (call :: rest) := rfl
      rw [List.cons_append, Orderly, Orderly, inductionHypothesis, sameEstimates, and_assoc, and_assoc]

theorem Orderly.at_call {estimates : Estimates} {before after : List (Call Bandwidth)}
    {call : Call Bandwidth} (orderly : Orderly estimates (before ++ call :: after)) :
    call.Averages (estimatesAfter estimates before) :=
  (orderly_append.mp orderly).2.2.1

/-- Between two clears the estimates only grow. -/
theorem estimatesAfter_of_no_clear {estimates : Estimates} {calls : List (Call Bandwidth)}
    (noClear : Call.clusterInfoClear ∉ calls) :
    estimatesAfter estimates calls = estimates ++ estimatesOf calls := by
  induction calls generalizing estimates with
  | nil => simp [estimatesAfter, estimatesOf]
  | cons call rest inductionHypothesis =>
      rw [List.mem_cons, not_or] at noClear
      have step : estimatesAfter estimates (call :: rest) =
          estimatesAfter (estimatesAfter estimates [call]) rest := rfl
      rw [step, inductionHypothesis noClear.2]
      cases call <;> simp_all [estimatesAfter, estimatesOf]

/-- The estimates since the last clear are the last of all estimates. -/
theorem exists_estimatesOf_eq (calls : List (Call Bandwidth)) :
    ∃ earlier, estimatesOf calls = earlier ++ estimatesAfter [] calls := by
  induction calls using List.reverseRecOn with
  | nil => exact ⟨[], rfl⟩
  | append_singleton calls call inductionHypothesis =>
      obtain ⟨earlier, same⟩ := inductionHypothesis
      rw [estimatesAfter_append, estimatesOf, List.filterMap_append]
      rw [estimatesOf] at same
      rw [same]
      cases call with
      | clusterInfoClear => exact ⟨_, by simp [estimatesAfter]; rfl⟩
      | clusterPacketSent _ => exact ⟨earlier, by simp [estimatesAfter]⟩
      | estimateBandwidth _ _ _ => exact ⟨earlier, by simp [estimatesAfter]⟩
      | averageBandwidth _ _ _ => exact ⟨earlier, by simp [estimatesAfter]⟩

theorem rtake_append_of_le {α : Type*} {left right : List α} {count : Nat}
    (enough : count ≤ right.length) : (left ++ right).rtake count = right.rtake count := by
  rw [List.rtake, List.rtake, List.length_append, Nat.add_sub_assoc enough, List.drop_append,
    List.drop_of_length_le (Nat.le_add_right _ _), Nat.add_sub_cancel_left, List.nil_append]

end Orderly

/-! ### One event -/

section Step

variable {Bandwidth Filter : Type} {next : Nat} {estimates : Estimates}
  {ledger after : Ledger Bandwidth} {event : Event} {calls : List (Call Bandwidth)}

private theorem orderly_moded (sound : Sound next estimates ledger)
    (changed : ledger.Moded after calls) : Orderly estimates calls := by
  cases changed with
  | kept _ _ => exact sound.increasing
  | cleared _ _ => exact ⟨sound.increasing, trivial, List.Pairwise.nil⟩

private theorem orderly_averaged (sound : Sound next estimates ledger)
    (averages : calls = [] ∨ kAverageAckRateWindowSize ≤ estimates.length ∧ ∃ rate round, calls =
      [.averageBandwidth ((estimates.rtake kAverageAckRateWindowSize).map Prod.fst) rate round]) :
    Orderly estimates calls ∧ estimatesAfter estimates calls = estimates := by
  rcases averages with rfl | ⟨enough, rate, round, rfl⟩
  · exact ⟨sound.increasing, rfl⟩
  · refine ⟨⟨sound.increasing, ⟨?_, rfl⟩, sound.increasing⟩, rfl⟩
    rw [List.length_map, List.rtake, List.length_drop]
    omega

variable [LinearOrder Bandwidth] {platform : Platform Bandwidth Filter}

private theorem orderly_credited {time : QuicTime} {number : Nat}
    (sound : Sound next estimates ledger)
    (counted : ledger.Credited platform time number after calls)
    (increasing : (estimatesAfter estimates calls).Pairwise EstimatedBefore) :
    Orderly estimates calls := by
  cases counted with
  | unknown _ => exact sound.increasing
  | removed _ _ => exact sound.increasing
  | credited _ _ triggered _ _ =>
      rcases triggered.estimates_cases with rfl | ⟨_, _, _, _, _, rfl⟩
      · exact sound.increasing
      · exact ⟨sound.increasing, trivial, increasing⟩

/-- Every event keeps the invariant and makes orderly calls. -/
theorem Sound.step (sound : Sound next estimates ledger)
    (short : ledger.ackedClusters.length < kAverageAckRateWindowSize)
    (stepped : ledger.Step platform event calls after) (positive : event.time ≠ 0)
    (unsent : ∀ number, event.sentNumber = some number → next ≤ number) :
    Sound (event.sentNumber.elim next (· + 1)) (estimatesAfter estimates calls) after ∧
      after.ackedClusters.length < kAverageAckRateWindowSize ∧ Orderly estimates calls := by
  cases stepped with
  | @unsampled time number bytes idle =>
      have above : next ≤ number + 1 := (unsent number rfl).trans (Nat.le_succ number)
      exact ⟨{ sound with shape := sound.shape.raised above }, short, sound.increasing⟩
  | @sampled time number bytes advanced front newest fresh probing advances opens =>
      have sent := (sound.advances advances).sent time opens (unsent number rfl) bytes
      have sameAcked : advanced.ackedClusters = ledger.ackedClusters := by
        cases advances <;> rfl
      exact ⟨sent, by rw [sameAcked]; exact short, sound.increasing, trivial, sound.increasing⟩
  | ignored old => exact ⟨sound, short, sound.increasing⟩
  | accepted new changed counted trimmed =>
      have modedSound := sound.moded changed
      have accepted := modedSound.credited (changed.lastAck_eq ▸ new) positive counted
      rw [← Sound.estimatesAfter_credited counted] at accepted
      obtain ⟨averagedSound, shortAfter, averages⟩ := accepted.averaged trimmed
      obtain ⟨orderlyAverages, sameEstimates⟩ := orderly_averaged accepted averages
      refine ⟨?_, shortAfter, ?_⟩
      · rw [estimatesAfter_append, estimatesAfter_append, sameEstimates]
        exact averagedSound
      · rw [orderly_append, orderly_append, estimatesAfter_append]
        exact ⟨⟨orderly_moded sound changed,
          orderly_credited modedSound counted accepted.increasing⟩, orderlyAverages⟩

end Step

/-! ### Whole runs -/

/-- One more than the last number sent. -/
def nextNumber (events : List Event) : Nat :=
  ((events.filterMap Event.sentNumber).getLast?).elim 0 (· + 1)

theorem nextNumber_append (events : List Event) (event : Event) :
    nextNumber (events ++ [event]) = event.sentNumber.elim (nextNumber events) (· + 1) := by
  rw [nextNumber, List.filterMap_append]
  cases sent : event.sentNumber with
  | none => simp [sent, nextNumber]
  | some number => simp [sent]

theorem nextNumber_le {events : List Event} {event : Event} {number : Nat}
    (increase : NumbersIncrease (events ++ [event])) (sent : event.sentNumber = some number) :
    nextNumber events ≤ number := by
  rw [NumbersIncrease, List.filterMap_append] at increase
  have below := (List.pairwise_append.mp increase).2.2
  unfold nextNumber
  cases last : (events.filterMap Event.sentNumber).getLast? with
  | none => exact Nat.zero_le number
  | some highest => exact below highest (List.mem_of_getLast? last) number (by simp [sent])

theorem NumbersIncrease.restrict {events : List Event} {event : Event}
    (increase : NumbersIncrease (events ++ [event])) : NumbersIncrease events := by
  rw [NumbersIncrease, List.filterMap_append] at increase
  exact (List.pairwise_append.mp increase).1

section Runs

variable {Bandwidth Filter : Type}

/-- The invariant of a run. -/
structure Booked (history : List (Event × List (Call Bandwidth)))
    (sender : MyBbrSender Bandwidth Filter) (clusters : List (LiveCluster Bandwidth)) : Prop where
  represents : Represents sender.heap sender.connectionInfo clusters
  sound : Sound (nextNumber (history.map Prod.fst)) (estimatesAfter [] (callsOf history))
    (ledgerOf sender clusters)
  short : sender.ackedClusters.length < kAverageAckRateWindowSize
  orderly : Orderly [] (callsOf history)

theorem booked_create (platform : Platform Bandwidth Filter) (minBps startBps maxBps : Nat) :
    Booked [] (MyBbrSender.create platform minBps startBps maxBps) [] where
  represents := ⟨Segment.nil, fun _ present => absurd rfl present, rfl⟩
  sound := Sound.of_no_cluster rfl rfl rfl 0
  short := Nat.succ_pos 9
  orderly := List.Pairwise.nil

/-- `connection_info_` holds the cluster at `ref`. -/
def MyBbrSender.Holds (sender : MyBbrSender Bandwidth Filter) (ref : ClusterRef) : Prop :=
  ∃ id, sender.connectionInfo.find? id = some ref

/-- What holds of a reachable state and of the calls that led to it. -/
structure BookkeepingSafe (history : List (Event × List (Call Bandwidth)))
    (sender : MyBbrSender Bandwidth Filter) : Prop where
  /-- Every entry of `connection_info_` is a live cluster with a packet. -/
  held : ∀ id ref, sender.connectionInfo.find? id = some ref →
    ∃ cluster, sender.heap.read ref = some cluster ∧ cluster.clusterId = id ∧
      cluster.packetInfos ≠ []
  acked : ∀ ref ∈ sender.ackedClusters, sender.Holds ref
  links : ∀ ref cluster other, sender.heap.read ref = some cluster →
    cluster.prev = some other ∨ cluster.next = some other → sender.Holds other
  /-- Between two clears, estimates go to younger and younger clusters. -/
  increasing : ∀ before between after, callsOf history = before ++ between ++ after →
    Call.clusterInfoClear ∉ between → (estimatesOf between).Pairwise EstimatedBefore
  ackedIncreasing : sender.ackedClusters.Pairwise fun earlier later =>
    ∀ older younger, sender.heap.read earlier = some older → sender.heap.read later = some younger →
      older.clusterId < younger.clusterId
  short : sender.ackedClusters.length ≤ 9
  /-- Every average is over the ten most recent estimates. -/
  averages : ∀ before clusters rate round after,
    callsOf history = before ++ .averageBandwidth clusters rate round :: after →
      clusters.length = 10 ∧ clusters = ((estimatesOf before).rtake 10).map Prod.fst

theorem Booked.safe {history : List (Event × List (Call Bandwidth))}
    {sender : MyBbrSender Bandwidth Filter} {clusters : List (LiveCluster Bandwidth)}
    (booked : Booked history sender clusters) : BookkeepingSafe history sender := by
  have holds : ∀ cluster ∈ clusters, sender.Holds cluster.1 := fun cluster live =>
    ⟨cluster.2.clusterId, booked.represents.find?_eq_some.mpr ⟨cluster.2, live, rfl⟩⟩
  obtain ⟨averaged, waiting, sameEstimates, sameRefs, -, present⟩ := booked.sound.recent
  refine ⟨fun id ref found => ?_, fun ref member => ?_, fun ref cluster other live linked => ?_,
    fun before between after split noClear => ?_, ?_, Nat.le_of_lt_succ booked.short,
    fun before averagedRefs rate round after split => ?_⟩
  · obtain ⟨cluster, live, sameId⟩ := booked.represents.find?_eq_some.mp found
    obtain ⟨links, stored⟩ := booked.represents.linked.read_of_mem live
    refine ⟨_, stored, sameId, fun empty => booked.sound.nonempty _ live ?_⟩
    exact List.map_eq_nil_iff.mpr empty
  · have waits : ref ∈ waiting.map Prod.fst := sameRefs ▸ member
    obtain ⟨estimate, inWaiting, rfl⟩ := List.mem_map.mp waits
    obtain ⟨cluster, found, rfl⟩ := present estimate inWaiting
    exact holds cluster found
  · have listed := booked.represents.complete ref (by rw [live]; exact Option.some_ne_none cluster)
    obtain ⟨cell, inClusters, rfl⟩ := List.mem_map.mp listed
    obtain ⟨links, stored, prevCase, nextCase⟩ := booked.represents.linked.neighbours inClusters
    obtain rfl := Option.some.inj (live.symm.trans stored)
    have ends : ∀ link : Option ClusterRef, link = some other →
        (link = none ∨ ∃ neighbour ∈ clusters, link = some neighbour.1) → sender.Holds other := by
      rintro _ rfl (absent | ⟨neighbour, inside, same⟩)
      · contradiction
      · exact Option.some.inj same ▸ holds neighbour inside
    exact linked.elim (fun same => ends _ same prevCase) fun same => ends _ same nextCase
  · have orderly := booked.orderly
    rw [split] at orderly
    have increasing := (orderly_append.mp orderly).2.increasing
    rw [estimatesAfter_append, estimatesAfter_of_no_clear noClear] at increasing
    exact (List.pairwise_append.mp increasing).2.1
  · have increasing := booked.sound.increasing
    rw [sameEstimates] at increasing
    have waitingIncreasing := (List.pairwise_append.mp increasing).2.1
    have sameAcked : sender.ackedClusters = waiting.map Prod.fst := sameRefs
    rw [sameAcked, List.pairwise_map]
    refine waitingIncreasing.imp_of_mem fun earlierMember laterMember order older younger
      olderStored youngerStored => ?_
    obtain ⟨first, firstLive, rfl⟩ := present _ earlierMember
    obtain ⟨second, secondLive, rfl⟩ := present _ laterMember
    obtain ⟨firstLinks, firstStored⟩ := booked.represents.linked.read_of_mem firstLive
    obtain ⟨secondLinks, secondStored⟩ := booked.represents.linked.read_of_mem secondLive
    obtain rfl := Option.some.inj (olderStored.symm.trans firstStored)
    obtain rfl := Option.some.inj (youngerStored.symm.trans secondStored)
    exact order.2
  · have orderly := booked.orderly
    rw [split] at orderly
    obtain ⟨tenLong, sameRefs⟩ := orderly.at_call
    have enough : kAverageAckRateWindowSize ≤ (estimatesAfter [] before).length := by
      rw [sameRefs, List.length_map, List.rtake, List.length_drop] at tenLong
      simp only [kAverageAckRateWindowSize] at tenLong ⊢
      omega
    obtain ⟨earlier, allEstimates⟩ := exists_estimatesOf_eq before
    exact ⟨tenLong, by rw [sameRefs, allEstimates]; exact (congrArg _ (rtake_append_of_le enough)).symm⟩

variable [LinearOrder Bandwidth] (platform : Platform Bandwidth Filter)

theorem Booked.enabled {history : List (Event × List (Call Bandwidth))}
    {sender : MyBbrSender Bandwidth Filter} {clusters : List (LiveCluster Bandwidth)} {event : Event}
    (booked : Booked history sender clusters)
    (clock : ClockOrdered (history.map Prod.fst ++ [event]))
    (increase : NumbersIncrease (history.map Prod.fst ++ [event])) :
    ∃ after calls left, (bbrMachine platform).step sender event = some (after, calls) ∧
      (ledgerOf sender clusters).Step platform event calls (ledgerOf after left) ∧
      Booked (history ++ [(event, calls)]) after left := by
  have positive : event.time ≠ 0 := (clock.positive event (by simp)).ne'
  obtain ⟨after, calls, left, stepped, represents, ledgerStep⟩ :
      ∃ after calls left, (bbrMachine platform).step sender event = some (after, calls) ∧
        Represents after.heap after.connectionInfo left ∧
        (ledgerOf sender clusters).Step platform event calls (ledgerOf after left) := by
    cases event with
    | packetSent time number bytes =>
        exact sender.onPacketSent_simulates platform booked.represents booked.sound time number bytes
    | ack time number draw =>
        exact sender.onAck_simulates platform booked.represents booked.sound booked.short positive
          number draw
  obtain ⟨sound, short, orderly⟩ := booked.sound.step booked.short ledgerStep positive
    fun number sent => nextNumber_le increase sent
  have moreCalls : callsOf (history ++ [(event, calls)]) = callsOf history ++ calls := by
    simp [callsOf]
  refine ⟨after, calls, left, stepped, ledgerStep, represents, ?_, short, ?_⟩
  · rw [moreCalls, estimatesAfter_append, List.map_append, List.map_singleton, nextNumber_append]
    exact sound
  · rw [moreCalls, orderly_append]
    exact ⟨booked.orderly, orderly⟩

/-- Every admissible event list has a run, and the invariant holds at its end. -/
theorem exists_booked_run (minBps startBps maxBps : Nat) {events : List Event}
    (clock : ClockOrdered events) (increase : NumbersIncrease events) :
    ∃ history final clusters,
      (bbrMachine platform).Run (.create platform minBps startBps maxBps) history final ∧
      history.map Prod.fst = events ∧ Booked history final clusters := by
  obtain ⟨history, final, run, sameEvents, clusters, booked⟩ :=
    (bbrMachine platform).exists_run
      (fun events => ClockOrdered events ∧ NumbersIncrease events)
      (fun history sender => ∃ clusters, Booked history sender clusters)
      (fun _ _ admissible => ⟨admissible.1.restrict, admissible.2.restrict⟩)
      ⟨[], booked_create platform minBps startBps maxBps⟩
      (fun history sender event booked admissible => by
        obtain ⟨clusters, booked⟩ := booked
        obtain ⟨after, calls, left, stepped, -, bookedAfter⟩ :=
          booked.enabled platform admissible.1 admissible.2
        exact ⟨after, calls, stepped, left, bookedAfter⟩)
      events ⟨clock, increase⟩
  exact ⟨history, final, clusters, run, sameEvents, booked⟩

/-- Every run of a sender, in which packet numbers increase strictly and times
are positive and ordered, completes without touching a deleted cluster, and its
bookkeeping is safe in every state it reaches. -/
theorem bookkeeping_safe (minBps startBps maxBps : Nat) {events : List Event}
    (clock : ClockOrdered events) (increase : NumbersIncrease events) :
    ∃ final history,
      (bbrMachine platform).exec (.create platform minBps startBps maxBps) events =
        some (final, history) ∧
      BookkeepingSafe history final := by
  obtain ⟨history, final, clusters, run, sameEvents, booked⟩ :=
    exists_booked_run platform minBps startBps maxBps clock increase
  exact ⟨final, history, sameEvents ▸ run.exec, booked.safe⟩

/-- A run with two clusters; the ack of packet 4 estimates the first of them. -/
def twoClusterRun : List Event :=
  [.packetSent 1 1 1000, .ack 100000 1 0, .packetSent 100001 2 1000, .packetSent 100002 3 1000,
    .packetSent 300000 4 1000, .ack 300001 2 0, .ack 300002 3 0, .ack 400000 4 0]

theorem bookkeeping_safe_twoClusterRun :
    (ClockOrdered twoClusterRun ∧ NumbersIncrease twoClusterRun) ∧
      ∃ final history,
        (bbrMachine Platform.bits).exec (.create Platform.bits 1000 1000 1000) twoClusterRun =
          some (final, history) ∧
        BookkeepingSafe history final :=
  have clock : ClockOrdered twoClusterRun := ⟨by decide, by decide⟩
  have increase : NumbersIncrease twoClusterRun := by unfold NumbersIncrease; decide
  ⟨⟨clock, increase⟩, bookkeeping_safe Platform.bits 1000 1000 1000 clock increase⟩

end Runs

end StupidSimple.Bbr
