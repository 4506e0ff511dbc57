import StupidSimple.Bbr.ClusterTrace

/-!
Owns the exactness of bandwidth samples over whole runs. `Tracked` says that
every live cluster matches the trace so far and that every estimated cluster is
closed: its packets are all passed by the acks, and no packet joins it any more.
One lemma carries `Tracked` over each part of a ledger step; `samples_exact` is
the result about runs.
-/

namespace StupidSimple.Bbr

open StupidSimple.Library

variable {Bandwidth Filter : Type} [LinearOrder Bandwidth] {platform : Platform Bandwidth Filter}

/-- An estimate of the cluster at `ref`, made after the trace `before`, still
has its reference value, and no later event can change it. -/
structure Closed (platform : Platform Bandwidth Filter) (before history : History Bandwidth)
    (ledger : Ledger Bandwidth) (ref : ClusterRef) (bw : Bandwidth) : Prop where
  sample : bw = referenceSample platform ref history
  sends : sentIn ref history = sentIn ref before
  acks : acksIn ref history = acksIn ref before
  spread : 0 < spanOf ((acksIn ref history).map (·.time))
  passed : ∀ packet ∈ sentIn ref history, packet.number ≤ ledger.lastAck
  old : ref < ledger.fresh
  inactive : ∀ cluster ∈ ledger.clusters, cluster.1 = ref → cluster.2.clusterId < ledger.round

/-- The invariant of a run whose packets are numbered consecutively. -/
structure Tracked (platform : Platform Bandwidth Filter) (history : History Bandwidth)
    (ledger : Ledger Bandwidth) : Prop where
  matched : ∀ cluster ∈ ledger.clusters,
    Matches (sentIn cluster.1 history) (acksIn cluster.1 history) cluster.2
  consecutive : ∀ cluster ∈ ledger.clusters, Consecutive (sentIn cluster.1 history)
  unused : ∀ ref, ledger.fresh ≤ ref → sentIn ref history = []
  passed : ∀ number ∈ ackNumbers history, number ≤ ledger.lastAck
  attained : ledger.lastAck = 0 ∨ ledger.lastAck ∈ ackNumbers history
  probing : ledger.clusters ≠ [] → ledger.mode = .probeBw
  current : ∀ front newest, ledger.clusters = front ++ [newest] →
    newest.2.numbers.getLast? = some ((history.map Prod.fst).filterMap Event.sentNumber).length
  pending : ∀ cluster ∈ ledger.clusters, ∀ number ∈ cluster.2.numbers, ledger.lastAck < number →
    (number, cluster.2.clusterId) ∈ ledger.rounds.entries
  closed : ∀ before event calls after ref id bw, history = before ++ (event, calls) :: after →
    Call.estimateBandwidth ref id bw ∈ calls → Closed platform before history ledger ref bw

theorem tracked_create (platform : Platform Bandwidth Filter) (mode : Mode) :
    Tracked platform [] ⟨mode, 0, 0, [], OrderedMap.empty, [], 0⟩ where
  matched := by simp
  consecutive := by simp
  unused _ _ := rfl
  passed := by simp [ackNumbers]
  attained := Or.inl rfl
  probing absurd := (absurd rfl).elim
  current := by simp
  pending := by simp
  closed := by simp

namespace Closed

variable {before history : History Bandwidth} {ledger after : Ledger Bandwidth} {ref : ClusterRef}
  {bw : Bandwidth}

/-- A closed cluster stays closed over an entry that does not reach it. -/
theorem snoc (closed : Closed platform before history ledger ref bw)
    {entry : Event × List (Call Bandwidth)}
    (sends : sentIn ref (history ++ [entry]) = sentIn ref history)
    (acks : acksIn ref (history ++ [entry]) = acksIn ref history)
    (lastAck : ledger.lastAck ≤ after.lastAck) (fresh : ledger.fresh ≤ after.fresh)
    (inactive : ∀ cluster ∈ after.clusters, cluster.1 = ref →
      cluster.2.clusterId < after.round) :
    Closed platform before (history ++ [entry]) after ref bw where
  sample := by
    rw [referenceSample, sends, acks]
    exact closed.sample
  sends := sends.trans closed.sends
  acks := acks.trans closed.acks
  spread := by
    rw [acks]
    exact closed.spread
  passed packet member := by
    rw [sends] at member
    exact (closed.passed packet member).trans lastAck
  old := closed.old.trans_le fresh
  inactive := inactive

end Closed

/-! ### Packets -/

section Packets

variable {history : History Bandwidth} {ledger after : Ledger Bandwidth} {next : Nat}
  {estimates : Estimates} {time : QuicTime} {number bytes : Nat}

theorem Tracked.advances (tracked : Tracked platform history ledger)
    (advanced : ledger.Advances after) : Tracked platform history after := by
  cases advanced with
  | stay => exact tracked
  | next =>
      refine { tracked with closed := ?_ }
      intro before event calls rest ref id bw split estimated
      have closed := tracked.closed before event calls rest ref id bw split estimated
      exact { closed with
        inactive := fun cluster live same => (closed.inactive cluster live same).trans
          (Nat.lt_succ_self _) }

/-- A packet outside `PROBE_BW` reaches no cluster. -/
theorem Tracked.unsampled (tracked : Tracked platform history ledger)
    (idle : ledger.mode ≠ .probeBw) :
    Tracked platform (history ++ [(.packetSent time number bytes, [])]) ledger := by
  have empty : ledger.clusters = [] := by
    by_contra nonempty
    exact idle (tracked.probing nonempty)
  have sends : ∀ ref, sentIn ref (history ++ [(.packetSent time number bytes, [])]) =
      sentIn ref history := by
    intro ref
    rw [sentIn_snoc_packetSent]
    exact List.append_nil _
  refine ⟨by simp [empty], by simp [empty], ?_, ?_, ?_, tracked.probing, by simp [empty],
    by simp [empty], ?_⟩
  · intro ref above
    rw [sends]
    exact tracked.unused ref above
  · rw [ackNumbers_snoc_packetSent]
    exact tracked.passed
  · rw [ackNumbers_snoc_packetSent]
    exact tracked.attained
  · intro before event calls rest ref id bw split estimated
    rcases split_snoc split with ⟨-, -, same⟩ | ⟨earlier, split⟩
    · obtain ⟨-, rfl⟩ := Prod.mk.inj same
      simp at estimated
    · have closed := tracked.closed before event calls earlier ref id bw split estimated
      exact closed.snoc (sends ref) (acksIn_snoc_packetSent ref history [] time number bytes) le_rfl
        le_rfl closed.inactive

/-- The cluster that takes a packet, before it does. -/
theorem Tracked.taken {zero : Bandwidth} {front : List (LiveCluster Bandwidth)}
    {newest : LiveCluster Bandwidth} {fresh : ClusterRef}
    (tracked : Tracked platform history ledger) (opens : ledger.Opens zero front newest fresh)
    (numbered : number = ((history.map Prod.fst).filterMap Event.sentNumber).length + 1)
    (time : QuicTime) (bytes : Nat) :
    Matches (sentIn newest.1 history) (acksIn newest.1 history) newest.2 ∧
      Consecutive (sentIn newest.1 history ++ [⟨number, time, bytes⟩]) := by
  cases opens with
  | current split sameRound =>
      have live : newest ∈ ledger.clusters := by simp [split]
      have matched := tracked.matched newest live
      have last := tracked.current front newest split
      rw [matched.numbers] at last
      rw [numbered]
      exact ⟨matched, (tracked.consecutive newest live).snoc last time bytes⟩
  | created older =>
      have empty := tracked.unused ledger.fresh le_rfl
      rw [empty, acksIn_eq_nil empty]
      exact ⟨Matches.created ledger.round zero, number, rfl⟩

/-- A packet that is sent is listed in the round of its cluster. -/
theorem Tracked.pending_sent {zero : Bandwidth} {front : List (LiveCluster Bandwidth)}
    {newest cluster : LiveCluster Bandwidth} {fresh : ClusterRef} {packet : Nat}
    (tracked : Tracked platform history ledger) (sound : Sound next estimates ledger)
    (opens : ledger.Opens zero front newest fresh) (unsent : next ≤ number)
    (member : cluster ∈ front ++ [(newest.1, newest.2.onPacketSent time number bytes)])
    (inside : packet ∈ cluster.2.numbers) (unpassed : ledger.lastAck < packet) :
    (packet, cluster.2.clusterId) ∈ (ledger.rounds.insert number ledger.round).entries := by
  apply OrderedMap.mem_insert.mpr
  rcases List.mem_append.mp member with early | last
  · exact Or.inl (tracked.pending cluster (opens.front_subset early) packet inside unpassed)
  · obtain rfl := List.mem_singleton.mp last
    rw [SentClusterInfo.numbers_onPacketSent] at inside
    rcases List.mem_append.mp inside with old | new
    · have live : newest ∈ ledger.clusters := opens.live_of_number old
      exact Or.inl (tracked.pending newest live packet old unpassed)
    · obtain rfl := List.mem_singleton.mp new
      have sameRound := (opens.shape sound.shape).2
      exact Or.inr ⟨by simp [sameRound], sound.find?_unsent unsent⟩

/-- A packet in `PROBE_BW` reaches one cluster, the newest. -/
theorem Tracked.sent {zero : Bandwidth} {front : List (LiveCluster Bandwidth)}
    {newest : LiveCluster Bandwidth} {fresh : ClusterRef}
    (tracked : Tracked platform history ledger) (sound : Sound next estimates ledger)
    (opens : ledger.Opens zero front newest fresh) (probing : ledger.mode = .probeBw)
    (clock : ClockOrdered (history.map Prod.fst ++ [.packetSent time number bytes]))
    (numbers : NumbersConsecutive (history.map Prod.fst ++ [.packetSent time number bytes]))
    (unsent : next ≤ number) :
    Tracked platform
      (history ++ [(.packetSent time number bytes, [.clusterPacketSent newest.1])])
      { ledger with
        fresh := fresh
        clusters := front ++ [(newest.1, newest.2.onPacketSent time number bytes)]
        rounds := ledger.rounds.insert number ledger.round } := by
  rcases numbers.restrict_sent with ⟨numbersBefore, numbered⟩
  rcases tracked.taken opens numbered time bytes with ⟨matched, consecutive⟩
  rcases opens.shape sound.shape with ⟨shape, sameRound⟩
  have frontOther : ∀ cluster ∈ front, newest.1 ≠ cluster.1 := by
    intro cluster member
    have refs := shape.live_refs
    rw [List.map_append, List.nodup_append] at refs
    exact (refs.2.2 cluster.1 (List.mem_map_of_mem member) newest.1 (by simp)).symm
  have positive : ∀ packet ∈ sentIn newest.1 history, 0 < packet.time := by
    intro packet member
    rcases exists_of_mem_sentIn member with ⟨entry, inHistory, event⟩
    have := clock.positive entry.1 (List.mem_append_left _ (List.mem_map_of_mem inHistory))
    rwa [event] at this
  have unacked : ∀ ack ∈ acksIn newest.1 history, ack.packet.number ≠ number := by
    intro ack member
    have := (numbersBefore.sentIn_number (mem_acksIn member).1).2
    omega
  refine ⟨?_, ?_, ?_, by simpa using tracked.passed, by simpa using tracked.attained,
    fun _ => probing, ?_, ?_, ?_⟩
  · intro cluster member
    rw [acksIn_snoc_packetSent]
    rcases List.mem_append.mp member with early | last
    · rw [sentIn_snoc_other (frontOther cluster early)]
      exact tracked.matched cluster (opens.front_subset early)
    · obtain rfl := List.mem_singleton.mp last
      rw [sentIn_snoc_own]
      exact matched.sent positive unacked time bytes
  · intro cluster member
    rcases List.mem_append.mp member with early | last
    · rw [sentIn_snoc_other (frontOther cluster early)]
      exact tracked.consecutive cluster (opens.front_subset early)
    · obtain rfl := List.mem_singleton.mp last
      rw [sentIn_snoc_own]
      exact consecutive
  · intro ref above
    have newestBelow := (shape.bounded (outlineOf newest) (by simp)).2.1
    have other : newest.1 ≠ ref := Nat.ne_of_lt (Nat.lt_of_lt_of_le newestBelow above)
    rw [sentIn_snoc_other other]
    exact tracked.unused ref (opens.fresh_le.trans above)
  · intro earlier last split
    rcases List.append_inj' split rfl with ⟨-, same⟩
    obtain rfl := List.singleton_inj.mp same
    simp [numbered, Event.sentNumber]
  · intro cluster member packet inside unpassed
    exact tracked.pending_sent sound opens unsent member inside unpassed
  · intro before event calls rest ref id bw split estimated
    rcases split_snoc split with ⟨-, -, same⟩ | ⟨earlier, split⟩
    · obtain ⟨-, rfl⟩ := Prod.mk.inj same
      simp at estimated
    · have closed := tracked.closed before event calls earlier ref id bw split estimated
      have other : newest.1 ≠ ref := by
        intro same
        rcases opens.newest_place with live | new
        · exact absurd sameRound (Nat.ne_of_lt (closed.inactive newest live same))
        · exact absurd (new.symm.trans same) (Nat.ne_of_gt closed.old)
      refine closed.snoc (sentIn_snoc_other other ..) (acksIn_snoc_packetSent ..) le_rfl
        opens.fresh_le ?_
      intro cluster member same
      rcases List.mem_append.mp member with early | last
      · exact closed.inactive cluster (opens.front_subset early) same
      · obtain rfl := List.mem_singleton.mp last
        exact absurd same other

end Packets

/-! ### Acks -/

section Acks

variable {history : History Bandwidth} {ledger after : Ledger Bandwidth} {next : Nat}
  {estimates : Estimates} {time : QuicTime} {number draw : Nat}

/-- An old ack number acks no packet. -/
theorem Tracked.acksIn_ignored (tracked : Tracked platform history ledger)
    (numbers : NumbersConsecutive (history.map Prod.fst)) (old : number ≤ ledger.lastAck)
    (ref : ClusterRef) (calls : List (Call Bandwidth)) :
    acksIn ref (history ++ [(.ack time number draw, calls)]) = acksIn ref history := by
  rw [acksIn_snoc_ack]
  split
  · next newest =>
      rcases tracked.attained with zero | seen
      · have none : (sentIn ref history).filter (fun packet => packet.number = number) = [] := by
          apply List.filter_eq_nil_iff.mpr
          intro packet member
          have := (numbers.sentIn_number member).1
          simp only [decide_eq_true_eq]
          omega
        rw [none]
        exact List.append_nil _
      · exact absurd (newest _ seen) (not_lt.mpr old)
  · exact List.append_nil _

theorem Tracked.ignored (tracked : Tracked platform history ledger)
    (numbers : NumbersConsecutive (history.map Prod.fst)) (old : number ≤ ledger.lastAck) :
    Tracked platform (history ++ [(.ack time number draw, [])]) ledger := by
  have acks : ∀ ref, acksIn ref (history ++ [(.ack time number draw, [])]) = acksIn ref history :=
    fun ref => tracked.acksIn_ignored numbers old ref []
  refine ⟨?_, ?_, ?_, ?_, ?_, tracked.probing, ?_, tracked.pending, ?_⟩
  · intro cluster live
    rw [sentIn_snoc_ack, acks]
    exact tracked.matched cluster live
  · intro cluster live
    rw [sentIn_snoc_ack]
    exact tracked.consecutive cluster live
  · intro ref above
    rw [sentIn_snoc_ack]
    exact tracked.unused ref above
  · rw [ackNumbers_snoc_ack]
    intro earlier member
    rcases List.mem_append.mp member with before | last
    · exact tracked.passed earlier before
    · rw [List.mem_singleton.mp last]
      exact old
  · rw [ackNumbers_snoc_ack]
    exact tracked.attained.imp_right (List.mem_append_left _)
  · rw [sentNumbers_snoc_ack]
    exact tracked.current
  · intro before event calls rest ref id bw split estimated
    rcases split_snoc split with ⟨-, -, same⟩ | ⟨earlier, split⟩
    · obtain ⟨-, rfl⟩ := Prod.mk.inj same
      simp at estimated
    · have closed := tracked.closed before event calls earlier ref id bw split estimated
      exact closed.snoc (sentIn_snoc_ack ..) (acks ref) le_rfl le_rfl closed.inactive

/-- What an accepted ack adds to the reference acks of a cluster. -/
theorem Tracked.acksIn_accepted (tracked : Tracked platform history ledger)
    (new : ledger.lastAck < number) (ref : ClusterRef) (calls : List (Call Bandwidth)) :
    acksIn ref (history ++ [(.ack time number draw, calls)]) = acksIn ref history ++
      ((sentIn ref history).filter fun packet => packet.number = number).map (AckRecord.mk time) := by
  rw [acksIn_snoc_ack, if_pos]
  intro earlier member
  exact (tracked.passed earlier member).trans_lt new

/-- An accepted ack leaves a cluster without that packet alone. -/
theorem Tracked.acksIn_other (tracked : Tracked platform history ledger)
    (new : ledger.lastAck < number) {ref : ClusterRef} (calls : List (Call Bandwidth))
    (other : ∀ packet ∈ sentIn ref history, packet.number ≠ number) :
    acksIn ref (history ++ [(.ack time number draw, calls)]) = acksIn ref history := by
  have none : (sentIn ref history).filter (fun packet => packet.number = number) = [] := by
    apply List.filter_eq_nil_iff.mpr
    intro packet member
    simpa using other packet member
  rw [tracked.acksIn_accepted new, none]
  exact List.append_nil _

theorem Tracked.numbers_sentIn (tracked : Tracked platform history ledger)
    {cluster : LiveCluster Bandwidth} (live : cluster ∈ ledger.clusters) :
    cluster.2.numbers = (sentIn cluster.1 history).map (·.number) :=
  (tracked.matched cluster live).numbers

/-- A cluster that holds the acked packet is credited once. -/
theorem Tracked.matched_acked (tracked : Tracked platform history ledger)
    (clock : ClockOrdered (history.map Prod.fst))
    (numbers : NumbersConsecutive (history.map Prod.fst)) (new : ledger.lastAck < number)
    {cluster : LiveCluster Bandwidth} (live : cluster ∈ ledger.clusters)
    (inside : number ∈ cluster.2.numbers) (calls : List (Call Bandwidth)) :
    Matches (sentIn cluster.1 history)
      (acksIn cluster.1 (history ++ [(.ack time number draw, calls)]))
      (cluster.2.acked time number) := by
  rw [tracked.numbers_sentIn live] at inside
  rcases List.mem_map.mp inside with ⟨packet, sent, rfl⟩
  rw [tracked.acksIn_accepted new, numbers.filter_number sent]
  have narrow : packet.number < 2 ^ 32 :=
    (numbers.sentIn_number sent).2.trans_lt numbers.narrow
  refine (tracked.matched cluster live).acked (tracked.consecutive cluster live) sent narrow ?_ ?_
    time
  · intro ack member
    rcases (mem_acksIn member).2.2 with ⟨entry, inHistory, sameTime⟩
    rw [← sameTime]
    exact clock.positive entry.1 (List.mem_map_of_mem inHistory)
  · intro ack member
    have := tracked.passed _ (mem_acksIn member).2.1
    omega

theorem Tracked.moded {calls : List (Call Bandwidth)} (tracked : Tracked platform history ledger)
    (changed : ledger.Moded after calls) : Tracked platform history after := by
  cases changed with
  | kept later probing =>
      refine { tracked with probing := probing ∘ tracked.probing, closed := ?_ }
      intro before event calls rest ref id bw split estimated
      have closed := tracked.closed before event calls rest ref id bw split estimated
      exact { closed with
        inactive := fun cluster live same => (closed.inactive cluster live same).trans_le later }
  | cleared mode round =>
      refine { tracked with
        matched := by simp
        consecutive := by simp
        probing := fun absurd => (absurd rfl).elim
        current := by simp
        pending := by simp
        closed := ?_ }
      intro before event calls rest ref id bw split estimated
      have closed := tracked.closed before event calls rest ref id bw split estimated
      exact { closed with inactive := by simp }

/-- The clusters after an accepted ack match the longer trace. -/
theorem Tracked.matched_after (tracked : Tracked platform history ledger)
    (sound : Sound next estimates ledger) (clock : ClockOrdered (history.map Prod.fst))
    (numbers : NumbersConsecutive (history.map Prod.fst)) (new : ledger.lastAck < number)
    {estimated : List (Call Bandwidth)}
    (counted : ledger.Credited platform time number after estimated)
    (draw : Nat) (calls : List (Call Bandwidth)) :
    ∀ cluster ∈ after.clusters, ∃ old ∈ ledger.clusters, outlineOf cluster = outlineOf old ∧
      Matches (sentIn cluster.1 history)
        (acksIn cluster.1 (history ++ [(.ack time number draw, calls)])) cluster.2 := by
  have untouched : ∀ cluster ∈ ledger.clusters, number ∉ cluster.2.numbers →
      acksIn cluster.1 (history ++ [(.ack time number draw, calls)]) =
        acksIn cluster.1 history := by
    intro cluster live outside
    apply tracked.acksIn_other new
    intro packet sent same
    rw [tracked.numbers_sentIn live] at outside
    exact outside (List.mem_map.mpr ⟨packet, sent, same⟩)
  have unlocated : (∀ cluster ∈ ledger.clusters,
      (number, cluster.2.clusterId) ∉ ledger.rounds.entries) → ∀ cluster ∈ ledger.clusters,
        Matches (sentIn cluster.1 history)
          (acksIn cluster.1 (history ++ [(.ack time number draw, calls)])) cluster.2 := by
    intro absent cluster live
    rw [untouched cluster live fun inside =>
      absent cluster live (tracked.pending cluster live number inside new)]
    exact tracked.matched cluster live
  cases counted with
  | unknown absent =>
      intro cluster live
      refine ⟨cluster, live, rfl, unlocated (fun other _ located => ?_) cluster live⟩
      exact OrderedMap.find?_eq_none.mp absent _ located rfl
  | @removed round located absent =>
      intro cluster live
      refine ⟨cluster, live, rfl, unlocated (fun other otherLive entered => ?_) cluster live⟩
      exact absent other otherLive
        (OrderedMap.value_unique entered (OrderedMap.find?_eq_some.mp located))
  | @credited before estimatedClusters behind ref acked calls' located split triggered firstOnly _ =>
      intro cluster member
      have refreshed := sound.refreshed split triggered time number
      rcases exists_left_of_forall₂ refreshed member with ⟨old, live, change⟩
      refine ⟨old, live, change.outline, ?_⟩
      rcases change with ⟨sameRef, ⟨sameRound, same⟩ | ⟨otherRound, bw, same⟩⟩
      · rw [sameRef, same]
        exact tracked.matched_acked clock numbers new live
          (sound.number_mem located live sameRound) calls
      · rw [sameRef, same, untouched old live]
        · exact (tracked.matched old live).with_bw bw
        · intro inside
          have entered := tracked.pending old live number inside new
          exact otherRound
            (OrderedMap.value_unique entered (OrderedMap.find?_eq_some.mp located))

/-- What an accepted ack leaves of the ledger. -/
structure Unmoved (number : Nat) (ledger after : Ledger Bandwidth) : Prop where
  outlines : after.clusters.map outlineOf = ledger.clusters.map outlineOf
  mode : after.mode = ledger.mode
  round : after.round = ledger.round
  fresh : after.fresh = ledger.fresh
  lastAck : after.lastAck = number
  rounds : ∀ entry ∈ ledger.rounds.entries, entry.1 ≠ number → entry ∈ after.rounds.entries

theorem unmoved_of_credited (sound : Sound next estimates ledger)
    {estimated : List (Call Bandwidth)}
    (counted : ledger.Credited platform time number after estimated) :
    Unmoved number ledger after := by
  cases counted with
  | unknown _ => exact ⟨rfl, rfl, rfl, rfl, rfl, fun _ member _ => member⟩
  | removed _ _ =>
      exact ⟨rfl, rfl, rfl, rfl, rfl, fun _ member other => OrderedMap.mem_erase.mpr ⟨member, other⟩⟩
  | credited _ split triggered _ _ =>
      refine ⟨?_, rfl, rfl, rfl, rfl, fun _ member other =>
        OrderedMap.mem_erase.mpr ⟨member, other⟩⟩
      exact outlines_of_refreshed (sound.refreshed split triggered time number)

omit [LinearOrder Bandwidth] in
theorem Unmoved.exists_old (unmoved : Unmoved number ledger after)
    {cluster : LiveCluster Bandwidth} (live : cluster ∈ after.clusters) :
    ∃ old ∈ ledger.clusters, outlineOf cluster = outlineOf old := by
  have inside : outlineOf cluster ∈ after.clusters.map outlineOf := List.mem_map_of_mem live
  rw [unmoved.outlines] at inside
  rcases List.mem_map.mp inside with ⟨old, oldLive, same⟩
  exact ⟨old, oldLive, same.symm⟩

/-- An estimate made by an accepted ack has its reference value, and the cluster
it is of is closed: the acked packet belongs to a younger one. -/
theorem Tracked.closed_now (tracked : Tracked platform history ledger)
    (sound : Sound next estimates ledger) (clock : ClockOrdered (history.map Prod.fst))
    (new : ledger.lastAck < number) {estimated : List (Call Bandwidth)}
    (counted : ledger.Credited platform time number after estimated)
    (calls : List (Call Bandwidth)) {ref : ClusterRef} {id : Nat} {bw : Bandwidth}
    (made : Call.estimateBandwidth ref id bw ∈ estimated) :
    Closed platform history (history ++ [(.ack time number draw, calls)]) after ref bw := by
  have unmoved := unmoved_of_credited sound counted
  cases counted with
  | unknown _ => simp at made
  | removed _ _ => simp at made
  | @credited before estimatedClusters behind ackedRef acked _ located split triggered _ _ =>
      rcases triggered.estimates_cases with rfl | ⟨front, previous, data, rfl, sampled, rfl⟩
      · simp at made
      · obtain ⟨rfl, rfl, rfl⟩ : ref = previous ∧ id = data.clusterId ∧ bw = data.sample platform := by
          simpa using made
        have live : (ref, data) ∈ ledger.clusters := by simp [split]
        have ackedLive : (ackedRef, acked) ∈ ledger.clusters := by simp [split]
        have older := (sound.around split).1 (ref, data) (by simp)
        have inside : number ∈ acked.numbers := sound.number_mem located ackedLive rfl
        have below : ∀ packet ∈ sentIn ref history, packet.number < number := by
          intro packet sent
          apply older.numbers packet.number ?_ number inside
          show packet.number ∈ data.numbers
          rw [tracked.numbers_sentIn live]
          exact List.mem_map_of_mem sent
        have acks : acksIn ref (history ++ [(.ack time number draw, calls)]) = acksIn ref history :=
          tracked.acksIn_other new calls fun packet sent => (below packet sent).ne
        have matched := tracked.matched (ref, data) live
        refine ⟨?_, sentIn_snoc_ack .., acks, ?_, ?_, ?_, ?_⟩
        · rw [referenceSample, sentIn_snoc_ack, acks]
          exact matched.sample_eq (clock.sentIn_ordered ref) platform
        · rw [acks]
          apply lt_of_le_of_ne (spanOf_nonneg (clock.acksIn_ordered ref))
          intro instant
          apply sampled
          rw [spanOf, ← matched.firstAckTs, ← matched.lastAckTs] at instant
          exact Or.inr (Int.sub_eq_zero.mp instant.symm)
        · intro packet sent
          rw [sentIn_snoc_ack] at sent
          exact (below packet sent).le
        · exact (sound.shape.bounded _ (List.mem_map_of_mem live)).2.1
        · intro cluster member sameRef
          rcases unmoved.exists_old member with ⟨old, oldLive, same⟩
          have oldRef : old.1 = ref := (congrArg Outline.ref same).symm.trans sameRef
          obtain rfl := sound.eq_of_ref oldLive live oldRef
          have sameId : cluster.2.clusterId = data.clusterId := congrArg Outline.id same
          rw [sameId]
          exact older.id.trans_le (sound.shape.bounded _ (List.mem_map_of_mem ackedLive)).1

theorem Tracked.credited (tracked : Tracked platform history ledger)
    (sound : Sound next estimates ledger) (clock : ClockOrdered (history.map Prod.fst))
    (numbers : NumbersConsecutive (history.map Prod.fst)) (new : ledger.lastAck < number)
    (draw : Nat) {estimated calls : List (Call Bandwidth)}
    (counted : ledger.Credited platform time number after estimated)
    (made : ∀ ref id bw, Call.estimateBandwidth ref id bw ∈ calls →
      Call.estimateBandwidth ref id bw ∈ estimated) :
    Tracked platform (history ++ [(.ack time number draw, calls)]) after := by
  have unmoved := unmoved_of_credited sound counted
  have matchedAfter := tracked.matched_after sound clock numbers new counted draw calls
  refine ⟨?_, ?_, ?_, ?_, ?_, ?_, ?_, ?_, ?_⟩
  · intro cluster live
    rcases matchedAfter cluster live with ⟨-, -, -, matched⟩
    rw [sentIn_snoc_ack]
    exact matched
  · intro cluster live
    rcases unmoved.exists_old live with ⟨old, oldLive, same⟩
    have sameRef : cluster.1 = old.1 := congrArg Outline.ref same
    rw [sentIn_snoc_ack, sameRef]
    exact tracked.consecutive old oldLive
  · intro ref above
    rw [unmoved.fresh] at above
    rw [sentIn_snoc_ack]
    exact tracked.unused ref above
  · intro earlier member
    rw [ackNumbers_snoc_ack] at member
    rw [unmoved.lastAck]
    rcases List.mem_append.mp member with before | last
    · exact (tracked.passed earlier before).trans new.le
    · exact (List.mem_singleton.mp last).le
  · rw [unmoved.lastAck, ackNumbers_snoc_ack]
    exact Or.inr (by simp)
  · intro nonempty
    rw [unmoved.mode]
    apply tracked.probing
    intro empty
    have sameLength := congrArg List.length unmoved.outlines
    simp [empty] at sameLength
    exact nonempty sameLength
  · intro front newest split
    rw [sentNumbers_snoc_ack]
    have outlines := unmoved.outlines
    rw [split, List.map_append, List.map_singleton] at outlines
    rcases List.map_eq_append_iff.mp outlines.symm with ⟨oldFront, oldBack, oldSplit, -, oldLast⟩
    rcases List.map_eq_singleton_iff.mp oldLast with ⟨oldNewest, rfl, same⟩
    have sameNumbers : oldNewest.2.numbers = newest.2.numbers := congrArg Outline.numbers same
    rw [← sameNumbers]
    exact tracked.current oldFront oldNewest oldSplit
  · intro cluster live p inside unpassed
    rw [unmoved.lastAck] at unpassed
    rcases unmoved.exists_old live with ⟨old, oldLive, same⟩
    have sameNumbers : cluster.2.numbers = old.2.numbers := congrArg Outline.numbers same
    have sameId : cluster.2.clusterId = old.2.clusterId := congrArg Outline.id same
    rw [sameNumbers] at inside
    rw [sameId]
    exact unmoved.rounds _ (tracked.pending old oldLive p inside (new.trans unpassed)) unpassed.ne'
  · intro before event eventCalls rest ref id bw split estimate
    rcases split_snoc split with ⟨-, rfl, same⟩ | ⟨earlier, split⟩
    · obtain ⟨-, rfl⟩ := Prod.mk.inj same
      exact tracked.closed_now sound clock new counted _ (made ref id bw estimate)
    · have closed := tracked.closed before event eventCalls earlier ref id bw split estimate
      have acks : acksIn ref (history ++ [(.ack time number draw, calls)]) = acksIn ref history :=
        tracked.acksIn_other new calls fun packet sent =>
          ((closed.passed packet sent).trans_lt new).ne
      refine closed.snoc (sentIn_snoc_ack ..) acks (unmoved.lastAck ▸ new.le) unmoved.fresh.ge ?_
      intro cluster live sameRef
      rcases unmoved.exists_old live with ⟨old, oldLive, same⟩
      have sameId : cluster.2.clusterId = old.2.clusterId := congrArg Outline.id same
      have oldRef : old.1 = ref := (congrArg Outline.ref same).symm.trans sameRef
      rw [sameId, unmoved.round]
      exact closed.inactive old oldLive oldRef

theorem Tracked.averaged {calls : List (Call Bandwidth)} (tracked : Tracked platform history ledger)
    (trimmed : ledger.Averaged after calls) : Tracked platform history after := by
  cases trimmed with
  | waiting _ => exact tracked
  | @trimmed oldest later full split live rate round =>
      have kept : ∀ cluster ∈ ledger.clusters.dropWhile (fun cluster =>
          cluster.2.clusterId ≤ oldest.2.clusterId), cluster ∈ ledger.clusters := fun _ member =>
        (List.dropWhile_sublist _).subset member
      refine { tracked with
        matched := fun cluster member => tracked.matched cluster (kept cluster member)
        consecutive := fun cluster member => tracked.consecutive cluster (kept cluster member)
        probing := ?_
        current := ?_
        pending := fun cluster member => tracked.pending cluster (kept cluster member)
        closed := ?_ }
      · intro nonempty
        apply tracked.probing
        intro empty
        simp [empty] at nonempty
      · intro front newest left
        have whole := List.takeWhile_append_dropWhile (l := ledger.clusters)
          (p := fun cluster => decide (cluster.2.clusterId ≤ oldest.2.clusterId))
        simp only at left
        rw [left, ← List.append_assoc] at whole
        exact tracked.current _ newest whole.symm
      · intro before event calls rest ref id bw split estimated
        have closed := tracked.closed before event calls rest ref id bw split estimated
        exact { closed with
          inactive := fun cluster member => closed.inactive cluster (kept cluster member) }

end Acks

/-! ### Whole runs -/

section Runs

variable {history : History Bandwidth} {ledger after : Ledger Bandwidth} {next : Nat}
  {estimates : Estimates} {event : Event} {calls : List (Call Bandwidth)}

omit [LinearOrder Bandwidth] in
/-- Only the acked cluster's predecessor is estimated. -/
theorem estimate_mem_credited {cleared estimated averages : List (Call Bandwidth)}
    {moded credited : Ledger Bandwidth} (changed : ledger.Moded moded cleared)
    (trimmed : credited.Averaged after averages) {ref : ClusterRef} {id : Nat} {bw : Bandwidth}
    (made : Call.estimateBandwidth ref id bw ∈ cleared ++ estimated ++ averages) :
    Call.estimateBandwidth ref id bw ∈ estimated := by
  rcases List.mem_append.mp made with earlier | average
  · rcases List.mem_append.mp earlier with clear | estimate
    · cases changed <;> simp at clear
    · exact estimate
  · cases trimmed <;> simp at average

theorem Tracked.step (tracked : Tracked platform history ledger)
    (sound : Sound next estimates ledger) (stepped : ledger.Step platform event calls after)
    (clock : ClockOrdered (history.map Prod.fst ++ [event]))
    (numbers : NumbersConsecutive (history.map Prod.fst ++ [event]))
    (unsent : ∀ number, event.sentNumber = some number → next ≤ number) :
    Tracked platform (history ++ [(event, calls)]) after := by
  cases stepped with
  | unsampled idle => exact tracked.unsampled idle
  | @sampled _ number _ advanced _ _ _ probing advances opens =>
      have sameMode : advanced.mode = ledger.mode := by
        cases advances <;> rfl
      exact (tracked.advances advances).sent (sound.advances advances) opens
        (sameMode.trans probing) clock numbers (unsent number rfl)
  | ignored old => exact tracked.ignored numbers.restrict old
  | @accepted _ _ draw _ _ _ _ _ _ new changed counted trimmed =>
      have accepted := (tracked.moded changed).credited (sound.moded changed) clock.restrict
        numbers.restrict (changed.lastAck_eq ▸ new) draw counted
        fun ref id bw made => estimate_mem_credited changed trimmed made
      exact accepted.averaged trimmed

/-- What holds of the samples of a run and of the state it reaches. -/
structure SamplesExact (platform : Platform Bandwidth Filter) (history : History Bandwidth)
    (sender : MyBbrSender Bandwidth Filter) : Prop where
  /-- Every sample has its reference value over the whole trace. -/
  sample : ∀ event calls ref id bw, (event, calls) ∈ history →
    Call.estimateBandwidth ref id bw ∈ calls → bw = referenceSample platform ref history
  /-- What comes after an estimate adds nothing to the totals of its cluster. -/
  closed : ∀ before event calls after ref id bw, history = before ++ (event, calls) :: after →
    Call.estimateBandwidth ref id bw ∈ calls →
    sentIn ref history = sentIn ref before ∧ acksIn ref history = acksIn ref before
  /-- A live cluster holds its packets, each with the time of its ack, and their bytes. -/
  credited : ∀ id ref cluster, sender.connectionInfo.find? id = some ref →
    sender.heap.read ref = some cluster →
    cluster.packetInfos = infosOf (sentIn ref history) (acksIn ref history) ∧
      cluster.sentPackets = sentBytes (sentIn ref history) ∧
      cluster.ackedPackets = ackedBytes (acksIn ref history)
  /-- No packet is credited twice. -/
  once : ∀ ref, ((acksIn ref history).map (·.packet.number)).Pairwise (· < ·)

theorem Tracked.exact {sender : MyBbrSender Bandwidth Filter}
    {clusters : List (LiveCluster Bandwidth)} (booked : Booked history sender clusters)
    (tracked : Tracked platform history (ledgerOf sender clusters))
    (numbers : NumbersConsecutive (history.map Prod.fst)) :
    SamplesExact platform history sender where
  sample event calls ref id bw member made := by
    rcases List.append_of_mem member with ⟨before, after, split⟩
    exact (tracked.closed before event calls after ref id bw split made).sample
  closed before event calls after ref id bw split made := by
    have closed := tracked.closed before event calls after ref id bw split made
    exact ⟨closed.sends, closed.acks⟩
  credited id ref cluster found stored := by
    rcases booked.represents.find?_eq_some.mp found with ⟨data, live, -⟩
    rcases booked.represents.linked.read_of_mem live with ⟨links, node⟩
    obtain rfl := Option.some.inj (stored.symm.trans node)
    have matched := tracked.matched (ref, data) live
    exact ⟨matched.infos, matched.sentPackets, matched.ackedPackets⟩
  once ref := numbers.acksIn_increasing ref

/-- Every admissible event list has a run that keeps both invariants. -/
theorem exists_tracked_run (platform : Platform Bandwidth Filter) (minBps startBps maxBps : Nat)
    {events : List Event} (clock : ClockOrdered events) (numbers : NumbersConsecutive events) :
    ∃ history final clusters,
      (bbrMachine platform).Run (.create platform minBps startBps maxBps) history final ∧
      history.map Prod.fst = events ∧ Booked history final clusters ∧
      Tracked platform history (ledgerOf final clusters) := by
  have start : ∃ clusters, Booked [] (MyBbrSender.create platform minBps startBps maxBps) clusters ∧
      Tracked platform [] (ledgerOf (MyBbrSender.create platform minBps startBps maxBps) clusters) :=
    ⟨[], booked_create platform minBps startBps maxBps, tracked_create platform _⟩
  rcases (bbrMachine platform).exists_run
    (fun events => ClockOrdered events ∧ NumbersConsecutive events)
    (fun history sender => ∃ clusters, Booked history sender clusters ∧
      Tracked platform history (ledgerOf sender clusters))
    (fun _ _ admissible => ⟨admissible.1.restrict, admissible.2.restrict⟩) start
    (fun history sender event invariant admissible => by
      rcases invariant with ⟨clusters, booked, tracked⟩
      have increase := admissible.2.increase
      rcases booked.enabled platform admissible.1 increase with
        ⟨after, calls, left, stepped, ledgerStep, bookedAfter⟩
      exact ⟨after, calls, stepped, left, bookedAfter,
        tracked.step booked.sound ledgerStep admissible.1 admissible.2
          fun number sent => nextNumber_le increase sent⟩)
    events ⟨clock, numbers⟩ with ⟨history, final, run, sameEvents, clusters, booked, tracked⟩
  exact ⟨history, final, clusters, run, sameEvents, booked, tracked⟩

/-- Every run of a sender, in which packets are numbered 1, 2, 3, ... and times
are positive and ordered, completes, and every bandwidth sample that it makes has
its reference value over the whole trace of the run. -/
theorem samples_exact (platform : Platform Bandwidth Filter) (minBps startBps maxBps : Nat)
    {events : List Event} (clock : ClockOrdered events) (numbers : NumbersConsecutive events) :
    ∃ final history,
      (bbrMachine platform).exec (.create platform minBps startBps maxBps) events =
        some (final, history) ∧
      SamplesExact platform history final := by
  rcases exists_tracked_run platform minBps startBps maxBps clock numbers with
    ⟨history, final, clusters, run, rfl, booked, tracked⟩
  exact ⟨final, history, run.exec, tracked.exact booked numbers⟩

theorem samples_exact_twoClusterRun :
    (ClockOrdered twoClusterRun ∧ NumbersConsecutive twoClusterRun) ∧
      ∃ final history,
        (bbrMachine Platform.bits).exec (.create Platform.bits 1000 1000 1000) twoClusterRun =
          some (final, history) ∧
        SamplesExact Platform.bits history final :=
  have clock : ClockOrdered twoClusterRun := ⟨by decide, by decide⟩
  have numbers : NumbersConsecutive twoClusterRun := ⟨by decide, by decide⟩
  ⟨⟨clock, numbers⟩, samples_exact Platform.bits 1000 1000 1000 clock numbers⟩

end Runs

end StupidSimple.Bbr
