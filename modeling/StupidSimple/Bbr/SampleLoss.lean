import StupidSimple.Bbr.Rate

/-!
Owns the question which finished clusters are estimated. A cluster is estimated
only through the `prev_` link of the cluster created next, when that one gets its
first ack, so the answer is about the chain of the clusters since the last clear.
`Chained` relates this chain to the live clusters and to the estimates;
`samples_kept_iff` is the result about runs.
-/

namespace StupidSimple.Bbr

open StupidSimple.Library

/-! ### The chain of a trace -/

section Chain

variable {Bandwidth : Type}

/-- The clusters created since the last clear, oldest first, after more calls. -/
def openedAfter (start : List ClusterRef) (calls : List (Call Bandwidth)) : List ClusterRef :=
  calls.foldl
    (fun opened call =>
      match call with
      | .clusterInfoClear => []
      | .clusterPacketSent ref => if ref ∈ opened then opened else opened ++ [ref]
      | _ => opened)
    start

def opened (history : History Bandwidth) : List ClusterRef := openedAfter [] (callsOf history)

/-- The cluster was passed to `OnEstimateBandwidth`. -/
def Estimated (history : History Bandwidth) (ref : ClusterRef) : Prop :=
  ∃ id bw, Call.estimateBandwidth ref id bw ∈ callsOf history

/-- The first of these clusters has an accepted ack. -/
def FirstAcked (history : History Bandwidth) : List ClusterRef → Prop
  | [] => False
  | next :: _ => acksIn next history ≠ []

/-- The accepted acks of a cluster came at two distinct times. -/
def AckedTwice (history : History Bandwidth) (ref : ClusterRef) : Prop :=
  ∃ early ∈ acksIn ref history, ∃ late ∈ acksIn ref history, early.time ≠ late.time

/-- The acks of a cluster make a sample. -/
structure HasSample {Filter : Type} [LinearOrder Bandwidth] (platform : Platform Bandwidth Filter)
    (history : History Bandwidth) (ref : ClusterRef) : Prop where
  credited : ackedBytes (acksIn ref history) ≠ 0
  spread : spanOf ((acksIn ref history).map (·.time)) ≠ 0
  positive : platform.zero < referenceSample platform ref history

theorem openedAfter_append (start : List ClusterRef) (left right : List (Call Bandwidth)) :
    openedAfter start (left ++ right) = openedAfter (openedAfter start left) right :=
  List.foldl_append

theorem callsOf_snoc (history : History Bandwidth) (event : Event)
    (calls : List (Call Bandwidth)) :
    callsOf (history ++ [(event, calls)]) = callsOf history ++ calls := by
  simp [callsOf]

theorem opened_snoc (history : History Bandwidth) (event : Event)
    (calls : List (Call Bandwidth)) :
    opened (history ++ [(event, calls)]) = openedAfter (opened history) calls := by
  rw [opened, callsOf_snoc, openedAfter_append]
  rfl

theorem estimated_snoc (history : History Bandwidth) (event : Event)
    (calls : List (Call Bandwidth)) (ref : ClusterRef) :
    Estimated (history ++ [(event, calls)]) ref ↔
      Estimated history ref ∨ ∃ id bw, Call.estimateBandwidth ref id bw ∈ calls := by
  simp only [Estimated, callsOf_snoc, List.mem_append]
  constructor
  · intro ⟨id, bw, made⟩
    exact made.imp (fun older => ⟨id, bw, older⟩) fun new => ⟨id, bw, new⟩
  · intro made
    cases made with
    | inl older =>
        have ⟨id, bw, inside⟩ := older
        exact ⟨id, bw, Or.inl inside⟩
    | inr new =>
        have ⟨id, bw, inside⟩ := new
        exact ⟨id, bw, Or.inr inside⟩

/-- Calls that make no estimate leave the estimated clusters as they are. -/
theorem estimated_snoc_of_none {history : History Bandwidth} {calls : List (Call Bandwidth)}
    (none : ∀ ref id bw, Call.estimateBandwidth ref id bw ∉ calls) (event : Event)
    (ref : ClusterRef) :
    Estimated (history ++ [(event, calls)]) ref ↔ Estimated history ref := by
  rw [estimated_snoc]
  constructor
  · intro made
    exact made.resolve_right fun ⟨id, bw, inside⟩ => none ref id bw inside
  · exact Or.inl

theorem firstAcked_congr {history longer : History Bandwidth} {rest : List ClusterRef}
    (acks : ∀ ref ∈ rest, acksIn ref longer = acksIn ref history) :
    FirstAcked longer rest ↔ FirstAcked history rest := by
  cases rest with
  | nil => exact Iff.rfl
  | cons next tail =>
      show acksIn next longer ≠ [] ↔ acksIn next history ≠ []
      rw [acks next List.mem_cons_self]

/-- What a packet adds to the chain. -/
theorem opened_snoc_sent (history : History Bandwidth) (time : QuicTime) (number bytes : Nat)
    (newest : ClusterRef) :
    opened (history ++ [(.packetSent time number bytes, [.clusterPacketSent newest])]) =
      if newest ∈ opened history then opened history else opened history ++ [newest] := by
  rw [opened_snoc]
  rfl

/-- Where an element stands in a list without repetition. -/
theorem split_unique {α : Type*} {front before rest behind : List α} {value : α}
    (distinct : (front ++ value :: rest).Nodup)
    (same : front ++ value :: rest = before ++ value :: behind) :
    front = before ∧ rest = behind := by
  rw [List.nodup_append, List.nodup_cons] at distinct
  have notFront : value ∉ front := fun member => distinct.2.2 value member value (by simp) rfl
  have ⟨sameFront, _, sameRest⟩ :=
    (List.append_cons_inj_of_notMem notFront distinct.2.1.1).mp same
  exact ⟨sameFront, sameRest⟩

end Chain

section Invariant

variable {Bandwidth Filter : Type} [LinearOrder Bandwidth] {platform : Platform Bandwidth Filter}

/-- The clusters that were deleted since the last clear: all their packets are
passed by the acks, and the youngest of them was estimated. -/
structure Removed (history : History Bandwidth) (lastAck : Nat) (removed : List ClusterRef) :
    Prop where
  passed : ∀ ref ∈ removed, ∀ packet ∈ sentIn ref history, packet.number ≤ lastAck
  youngest : ∀ front ref, removed = front ++ [ref] → Estimated history ref

/-- The invariant: the live clusters are the end of the chain, and a cluster of the
chain is estimated exactly when its acks make a sample and its successor is acked. -/
structure Chained (platform : Platform Bandwidth Filter) (history : History Bandwidth)
    (ledger : Ledger Bandwidth) : Prop where
  distinct : (opened history).Nodup
  below : ∀ ref ∈ opened history, ref < ledger.fresh
  live : ∃ removed, opened history = removed ++ ledger.clusters.map Prod.fst ∧
    Removed history ledger.lastAck removed
  estimated : ∀ front ref rest, opened history = front ++ ref :: rest →
    (Estimated history ref ↔ FirstAcked history rest ∧ HasSample platform history ref)

variable {history : History Bandwidth} {ledger after : Ledger Bandwidth} {next : Nat}
  {estimates : Estimates} {time : QuicTime} {number bytes draw : Nat}

theorem chained_create (platform : Platform Bandwidth Filter) (ledger : Ledger Bandwidth)
    (empty : ledger.clusters = []) : Chained platform [] ledger where
  distinct := List.nodup_nil
  below := by simp [opened, openedAfter, callsOf]
  live := ⟨[], by rw [empty]; rfl, by simp, by simp⟩
  estimated front ref rest split := by simp [opened, openedAfter, callsOf] at split

/-- After a clear the chain is empty. -/
theorem chained_of_clear {entry : Event × List (Call Bandwidth)}
    (none : opened (history ++ [entry]) = []) (empty : ledger.clusters = []) :
    Chained platform (history ++ [entry]) ledger where
  distinct := by simp [none]
  below := by simp [none]
  live := ⟨[], by rw [none, empty]; rfl, by simp, by simp⟩
  estimated front ref rest split := by simp [none] at split

/-- The chain does not look at mode and round. -/
theorem Chained.moved (chained : Chained platform history ledger)
    (clusters : after.clusters = ledger.clusters) (fresh : after.fresh = ledger.fresh)
    (lastAck : after.lastAck = ledger.lastAck) : Chained platform history after where
  distinct := chained.distinct
  below := by
    rw [fresh]
    exact chained.below
  live := by
    rw [clusters, lastAck]
    exact chained.live
  estimated := chained.estimated

/-- A sample of a cluster is about its packets and its acks. -/
theorem sampled_congr {longer : History Bandwidth} {ref : ClusterRef}
    (sends : sentIn ref longer = sentIn ref history)
    (acks : acksIn ref longer = acksIn ref history) :
    HasSample platform longer ref ↔ HasSample platform history ref := by
  have sample : referenceSample platform ref longer = referenceSample platform ref history := by
    rw [referenceSample, sends, acks, referenceSample]
  constructor
  · rintro ⟨credited, spread, positive⟩
    exact ⟨acks ▸ credited, acks ▸ spread, sample ▸ positive⟩
  · rintro ⟨credited, spread, positive⟩
    exact ⟨acks.symm ▸ credited, acks.symm ▸ spread, sample.symm ▸ positive⟩

/-- An entry that adds no cluster, packet, ack or estimate to the chain. -/
theorem Chained.quiet (chained : Chained platform history ledger)
    {entry : Event × List (Call Bandwidth)}
    (sameOpened : opened (history ++ [entry]) = opened history)
    (sends : ∀ ref ∈ opened history, sentIn ref (history ++ [entry]) = sentIn ref history)
    (acks : ∀ ref ∈ opened history, acksIn ref (history ++ [entry]) = acksIn ref history)
    (made : ∀ ref, Estimated (history ++ [entry]) ref ↔ Estimated history ref)
    (clusters : after.clusters = ledger.clusters) (fresh : after.fresh = ledger.fresh)
    (lastAck : ledger.lastAck ≤ after.lastAck) :
    Chained platform (history ++ [entry]) after where
  distinct := by
    rw [sameOpened]
    exact chained.distinct
  below := by
    rw [sameOpened, fresh]
    exact chained.below
  live := by
    have ⟨removed, split, passed, youngest⟩ := chained.live
    refine ⟨removed, by rw [sameOpened, clusters, split], ?_, ?_⟩
    · intro ref inside packet member
      rw [sends ref (by simp [split, inside])] at member
      exact (passed ref inside packet member).trans lastAck
    · intro front ref last
      exact (made ref).mpr (youngest front ref last)
  estimated front ref rest split := by
    rw [sameOpened] at split
    have here : ref ∈ opened history := by simp [split]
    have behind : ∀ other ∈ rest, other ∈ opened history := fun other member => by
      simp [split, member]
    rw [made, firstAcked_congr fun other member => acks other (behind other member),
      sampled_congr (sends ref here) (acks ref here)]
    exact chained.estimated front ref rest split

theorem Tracked.closed_of_estimated (tracked : Tracked platform history ledger)
    {ref : ClusterRef} (made : Estimated history ref) :
    ∃ before bw, Closed platform before history ledger ref bw := by
  have ⟨id, bw, inside⟩ := made
  have ⟨entry, member, inCalls⟩ := List.mem_flatMap.mp inside
  have ⟨before, rest, split⟩ := List.append_of_mem member
  exact ⟨before, bw, tracked.closed before entry.1 entry.2 rest ref id bw split inCalls⟩

/-! ### Packets -/

theorem Chained.unsampled (chained : Chained platform history ledger) :
    Chained platform (history ++ [(.packetSent time number bytes, [])]) ledger := by
  apply chained.quiet
  · rw [opened_snoc]
    rfl
  · intro ref _
    rw [sentIn_snoc_packetSent]
    exact List.append_nil _
  · intro ref _
    rw [acksIn_snoc_packetSent]
  · intro ref
    exact estimated_snoc_of_none (by simp) _ ref
  · rfl
  · rfl
  · exact le_rfl

/-- A packet of the newest cluster. -/
theorem Chained.sent_current (chained : Chained platform history ledger)
    {front : List (LiveCluster Bandwidth)} {newest : LiveCluster Bandwidth}
    (split : ledger.clusters = front ++ [newest]) :
    Chained platform
      (history ++ [(.packetSent time number bytes, [.clusterPacketSent newest.1])])
      { ledger with
        clusters := front ++ [(newest.1, newest.2.onPacketSent time number bytes)]
        rounds := ledger.rounds.insert number ledger.round } := by
  have ⟨removed, whole, passed, youngest⟩ := chained.live
  have last : opened history = (removed ++ front.map Prod.fst) ++ [newest.1] := by
    rw [whole, split, List.map_append, List.append_assoc]
    rfl
  have distinct := chained.distinct
  rw [last] at distinct
  have other : ∀ ref ∈ removed ++ front.map Prod.fst, newest.1 ≠ ref := by
    intro ref member same
    exact (List.nodup_append.mp distinct).2.2 ref member newest.1 (by simp) same.symm
  have sameOpened : opened (history ++
      [(.packetSent time number bytes, [.clusterPacketSent newest.1])]) = opened history := by
    rw [opened_snoc_sent, if_pos (by simp [last])]
  have made : ∀ ref, Estimated (history ++
      [(.packetSent time number bytes, [.clusterPacketSent newest.1])]) ref ↔
        Estimated history ref := fun ref => estimated_snoc_of_none (by simp) _ ref
  refine ⟨sameOpened ▸ chained.distinct, sameOpened ▸ chained.below,
    ⟨removed, ?_, ?_, ?_⟩, ?_⟩
  · rw [sameOpened, last]
    simp
  · intro ref inside packet member
    rw [sentIn_snoc_other (other ref (by simp [inside]))] at member
    exact passed ref inside packet member
  · intro before ref same
    exact (made ref).mpr (youngest before ref same)
  · intro before ref rest here
    rw [sameOpened] at here
    rw [made, chained.estimated before ref rest here]
    cases rest with
    | nil => exact ⟨fun both => both.1.elim, fun both => both.1.elim⟩
    | cons following tail =>
        have inside : ref ∈ removed ++ front.map Prod.fst := by
          have same : before ++ ref :: (following :: tail).dropLast =
              removed ++ front.map Prod.fst := by
            have both := congrArg List.dropLast (here.symm.trans last)
            rw [List.dropLast_concat, List.dropLast_append_of_ne_nil (by simp)] at both
            exact both
          rw [← same]
          simp
        rw [sampled_congr (sentIn_snoc_other (other ref inside) ..) (acksIn_snoc_packetSent ..)]
        exact and_congr_left fun _ => (firstAcked_congr fun _ _ => acksIn_snoc_packetSent ..).symm

/-- A packet of a new cluster. -/
theorem Chained.sent_created (chained : Chained platform history ledger)
    (tracked : Tracked platform history ledger) (zero : Bandwidth) :
    Chained platform
      (history ++ [(.packetSent time number bytes, [.clusterPacketSent ledger.fresh])])
      { ledger with
        fresh := ledger.fresh + 1
        clusters := ledger.clusters ++ [(ledger.fresh,
          (SentClusterInfo.create ledger.round zero).onPacketSent time number bytes)]
        rounds := ledger.rounds.insert number ledger.round } := by
  have outside : ledger.fresh ∉ opened history := fun member =>
    lt_irrefl _ (chained.below ledger.fresh member)
  have unopened : ∀ ref ∈ opened history, ledger.fresh ≠ ref := fun ref member same =>
    outside (same ▸ member)
  have longer : opened (history ++
      [(.packetSent time number bytes, [.clusterPacketSent ledger.fresh])]) =
        opened history ++ [ledger.fresh] := by
    rw [opened_snoc_sent, if_neg outside]
  have made : ∀ ref, Estimated (history ++
      [(.packetSent time number bytes, [.clusterPacketSent ledger.fresh])]) ref ↔
        Estimated history ref := fun ref => estimated_snoc_of_none (by simp) _ ref
  have noAck : acksIn ledger.fresh history = [] := acksIn_eq_nil (tracked.unused _ le_rfl)
  have ⟨removed, whole, passed, youngest⟩ := chained.live
  refine ⟨?_, ?_, ⟨removed, ?_, ?_, ?_⟩, ?_⟩
  · rw [longer]
    exact List.nodup_append.mpr ⟨chained.distinct, List.nodup_singleton _, fun left member right same =>
      (List.mem_singleton.mp same) ▸ (unopened left member).symm⟩
  · intro ref member
    rw [longer] at member
    cases List.mem_append.mp member with
    | inl older => exact (chained.below ref older).trans (Nat.lt_succ_self _)
    | inr new =>
        rw [List.mem_singleton.mp new]
        exact Nat.lt_succ_self _
  · rw [longer, whole]
    simp
  · intro ref inside packet member
    rw [sentIn_snoc_other (unopened ref (by simp [whole, inside]))] at member
    exact passed ref inside packet member
  · intro before ref same
    exact (made ref).mpr (youngest before ref same)
  · intro before ref rest here
    rw [longer] at here
    rw [made]
    have acks : ∀ other, acksIn other (history ++ [(.packetSent time number bytes,
        [.clusterPacketSent ledger.fresh])]) = acksIn other history := fun other =>
      acksIn_snoc_packetSent ..
    cases List.eq_nil_or_concat rest with
    | inl empty =>
        -- The new cluster has no successor, and no earlier estimate is of it.
        rw [empty] at here ⊢
        have ⟨_, same⟩ := List.append_inj' here rfl
        rw [← List.singleton_inj.mp same]
        constructor
        · intro older
          have ⟨_, _, closed⟩ := tracked.closed_of_estimated older
          exact (lt_irrefl _ closed.old).elim
        · exact fun both => both.1.elim
    | inr more =>
        have ⟨middle, last, same⟩ := more
        rw [same, List.concat_eq_append, ← List.cons_append, ← List.append_assoc] at here
        have ⟨older, sameLast⟩ := List.append_inj' here rfl
        have sameLast : ledger.fresh = last := List.singleton_inj.mp sameLast
        have unlike := unopened ref (by simp [older])
        rw [chained.estimated before ref middle older, same, List.concat_eq_append, ← sameLast,
          sampled_congr (sentIn_snoc_other unlike ..) (acks ref)]
        apply and_congr_left
        intro _
        cases middle with
        | nil =>
            show False ↔ acksIn ledger.fresh _ ≠ []
            rw [acks, noAck]
            simp
        | cons following tail =>
            show acksIn following history ≠ [] ↔ acksIn following _ ≠ []
            rw [acks]

theorem Chained.sent (chained : Chained platform history ledger)
    (tracked : Tracked platform history ledger) {zero : Bandwidth}
    {front : List (LiveCluster Bandwidth)} {newest : LiveCluster Bandwidth} {fresh : ClusterRef}
    (opens : ledger.Opens zero front newest fresh) :
    Chained platform
      (history ++ [(.packetSent time number bytes, [.clusterPacketSent newest.1])])
      { ledger with
        fresh := fresh
        clusters := front ++ [(newest.1, newest.2.onPacketSent time number bytes)]
        rounds := ledger.rounds.insert number ledger.round } := by
  cases opens with
  | current split _ => exact chained.sent_current split
  | created _ => exact chained.sent_created tracked zero

/-! ### Acks -/

theorem Chained.ignored (chained : Chained platform history ledger)
    (tracked : Tracked platform history ledger)
    (numbers : NumbersConsecutive (history.map Prod.fst)) (old : number ≤ ledger.lastAck) :
    Chained platform (history ++ [(.ack time number draw, [])]) ledger := by
  apply chained.quiet
  · rw [opened_snoc]
    rfl
  · intro ref _
    rw [sentIn_snoc_ack]
  · intro ref _
    exact tracked.acksIn_ignored numbers old ref []
  · intro ref
    exact estimated_snoc_of_none (by simp) _ ref
  · rfl
  · rfl
  · exact le_rfl

/-- An accepted ack reaches no cluster of the chain but the live one that holds the
packet. -/
theorem Chained.acksIn_other (chained : Chained platform history ledger)
    (tracked : Tracked platform history ledger) (new : ledger.lastAck < number)
    {ref : ClusterRef} (member : ref ∈ opened history)
    (outside : ∀ cluster ∈ ledger.clusters, cluster.1 = ref → number ∉ cluster.2.numbers)
    (calls : List (Call Bandwidth)) :
    acksIn ref (history ++ [(.ack time number draw, calls)]) = acksIn ref history := by
  apply tracked.acksIn_other new
  intro packet sent same
  have ⟨removed, whole, passed, _⟩ := chained.live
  rw [whole] at member
  cases List.mem_append.mp member with
  | inl gone =>
      have := passed ref gone packet sent
      omega
  | inr live =>
      have ⟨cluster, inClusters, sameRef⟩ := List.mem_map.mp live
      apply outside cluster inClusters sameRef
      rw [tracked.numbers_sentIn inClusters, sameRef]
      exact List.mem_map.mpr ⟨packet, sent, same⟩

/-- Without a located cluster an accepted ack changes nothing of the chain. -/
theorem Chained.unlocated (chained : Chained platform history ledger)
    (tracked : Tracked platform history ledger) (new : ledger.lastAck < number)
    (absent : ∀ cluster ∈ ledger.clusters, (number, cluster.2.clusterId) ∉ ledger.rounds.entries)
    {calls : List (Call Bandwidth)} (sameOpened : openedAfter (opened history) calls = opened history)
    (none : ∀ ref id bw, Call.estimateBandwidth ref id bw ∉ calls)
    (clusters : after.clusters = ledger.clusters) (fresh : after.fresh = ledger.fresh)
    (lastAck : after.lastAck = number) :
    Chained platform (history ++ [(.ack time number draw, calls)]) after := by
  apply chained.quiet
  · rw [opened_snoc, sameOpened]
  · intro ref _
    rw [sentIn_snoc_ack]
  · intro ref member
    apply chained.acksIn_other tracked new member
    intro cluster live _ inside
    exact absent cluster live (tracked.pending cluster live number inside new)
  · intro ref
    exact estimated_snoc_of_none none _ ref
  · exact clusters
  · exact fresh
  · exact lastAck ▸ new.le

/-- The test of `TriggerBandwidthEstimate` is about the packets and acks of the cluster. -/
theorem Tracked.samples_iff (tracked : Tracked platform history ledger)
    (clock : ClockOrdered (history.map Prod.fst)) {front : List (LiveCluster Bandwidth)}
    {newest : LiveCluster Bandwidth} (live : newest ∈ ledger.clusters) :
    Ledger.Samples platform (front ++ [newest]) ↔ HasSample platform history newest.1 := by
  have matched := tracked.matched newest live
  have sample : newest.2.sample platform = referenceSample platform newest.1 history :=
    matched.sample_eq (clock.sentIn_ordered newest.1) platform
  have silent : newest.2.noSample ↔ ackedBytes (acksIn newest.1 history) = 0 ∨
      spanOf ((acksIn newest.1 history).map (·.time)) = 0 := by
    rw [SentClusterInfo.noSample, matched.ackedPackets, spanOf, ← matched.firstAckTs,
      ← matched.lastAckTs, Int.sub_eq_zero]
  constructor
  · rintro ⟨others, last, same, sampled, positive⟩
    obtain ⟨_, sameLast⟩ := List.append_inj' same rfl
    rw [← List.singleton_inj.mp sameLast, silent, not_or] at sampled
    rw [← List.singleton_inj.mp sameLast, sample] at positive
    exact ⟨sampled.1, sampled.2, positive⟩
  · rintro ⟨credited, spread, positive⟩
    refine ⟨front, newest, rfl, ?_, sample.symm ▸ positive⟩
    rw [silent, not_or]
    exact ⟨credited, spread⟩

/-- An estimate is of the newest of the clusters before the acked one, when that one
has a sample. -/
theorem Ledger.Triggered.samples {before after : List (LiveCluster Bandwidth)}
    {calls : List (Call Bandwidth)} (triggered : Triggered platform before after calls)
    (made : calls ≠ []) :
    ∃ front newest, before = front ++ [newest] ∧ Samples platform before ∧
      calls = [.estimateBandwidth newest.1 newest.2.clusterId (newest.2.sample platform)] := by
  cases triggered with
  | silent => exact (made rfl).elim
  | stored _ => exact (made rfl).elim
  | @estimated front ref cluster sampled positive =>
      exact ⟨front, (ref, cluster), rfl, ⟨front, (ref, cluster), rfl, sampled, positive⟩, rfl⟩

/-- The clusters behind the acked one have no ack. -/
theorem Tracked.acksIn_younger (tracked : Tracked platform history ledger)
    (sound : Sound next estimates ledger) (new : ledger.lastAck < number)
    {before behind : List (LiveCluster Bandwidth)} {acked : LiveCluster Bandwidth}
    (split : ledger.clusters = before ++ acked :: behind) (inside : number ∈ acked.2.numbers)
    {younger : LiveCluster Bandwidth} (member : younger ∈ behind) :
    acksIn younger.1 history = [] := by
  have older := (sound.around split).2 younger member
  have live : younger ∈ ledger.clusters := by simp [split, member]
  apply List.eq_nil_iff_forall_not_mem.mpr
  intro ack inAcks
  have ⟨sent, seen, _⟩ := mem_acksIn inAcks
  have passed := tracked.passed _ seen
  have later : number < ack.packet.number := by
    apply older.numbers number inside
    show ack.packet.number ∈ younger.2.numbers
    rw [tracked.numbers_sentIn live]
    exact List.mem_map_of_mem sent
  omega

/-- The acked cluster has an ack afterwards. -/
theorem Tracked.acksIn_acked (tracked : Tracked platform history ledger)
    (new : ledger.lastAck < number) {acked : LiveCluster Bandwidth}
    (live : acked ∈ ledger.clusters) (inside : number ∈ acked.2.numbers)
    (calls : List (Call Bandwidth)) :
    acksIn acked.1 (history ++ [(.ack time number draw, calls)]) ≠ [] := by
  rw [tracked.numbers_sentIn live] at inside
  have ⟨packet, sent, same⟩ := List.mem_map.mp inside
  rw [tracked.acksIn_accepted new]
  apply List.append_ne_nil_of_right_ne_nil
  rw [Ne, List.map_eq_nil_iff, List.filter_eq_nil_iff]
  intro absent
  exact absent packet sent (by simpa using same)

/-- What an accepted ack of the cluster at `ref` does to the chain, which has the
clusters `older` before it and `younger` behind it. -/
structure AckEffect (history longer : History Bandwidth) (older : List ClusterRef)
    (ref : ClusterRef) (younger : List ClusterRef) (made : ClusterRef → Prop) : Prop where
  chain : opened history = older ++ ref :: younger
  same : opened longer = opened history
  sends : ∀ other, sentIn other longer = sentIn other history
  acks : ∀ other ∈ opened history, other ≠ ref → acksIn other longer = acksIn other history
  acked : acksIn ref longer ≠ []
  silent : ∀ other ∈ younger, acksIn other history = []
  estimated : ∀ other, Estimated longer other ↔ Estimated history other ∨ made other
  predecessor : ∀ other, made other → ∃ front, older = front ++ [other]

/-- The chain after an accepted ack, when the predecessor of the acked cluster is
estimated exactly if it has a sample. -/
theorem Chained.estimated_acked (chained : Chained platform history ledger)
    {longer : History Bandwidth} {older younger : List ClusterRef} {ref : ClusterRef}
    {made : ClusterRef → Prop} (effect : AckEffect history longer older ref younger made)
    (predecessor : ∀ front other, older = front ++ [other] →
      (Estimated longer other ↔ HasSample platform history other))
    (front : List ClusterRef) (other : ClusterRef) (rest : List ClusterRef)
    (split : opened longer = front ++ other :: rest) :
    Estimated longer other ↔ FirstAcked longer rest ∧ HasSample platform longer other := by
  have distinct := chained.distinct
  rw [effect.same] at split
  rw [effect.chain] at distinct
  have unlike : ∀ member ∈ younger, member ≠ ref := by
    intro member inside same
    rw [List.nodup_append, List.nodup_cons] at distinct
    exact distinct.2.1.1 (same ▸ inside)
  have quiet : ¬FirstAcked longer younger ∧ ¬FirstAcked history younger := by
    have same : FirstAcked longer younger ↔ FirstAcked history younger :=
      firstAcked_congr fun member inside =>
        effect.acks member (by simp [effect.chain, inside]) (unlike member inside)
    rw [same, and_self]
    intro acked
    cases younger with
    | nil => exact acked
    | cons following tail => exact acked (effect.silent following List.mem_cons_self)
  by_cases here : other = ref
  · -- The acked cluster has no acked successor, before and after.
    rw [here] at split ⊢
    have ⟨sameOlder, sameRest⟩ := split_unique distinct (effect.chain.symm.trans split)
    rw [← sameRest] at split ⊢
    constructor
    · intro estimated
      cases (effect.estimated ref).mp estimated with
      | inl before =>
          exact (quiet.2 ((chained.estimated front ref younger split).mp before).1).elim
      | inr now =>
          have ⟨others, last⟩ := effect.predecessor ref now
          rw [last, List.nodup_append] at distinct
          exact (distinct.2.2 ref (by simp) ref (by simp) rfl).elim
    · intro both
      exact (quiet.1 both.1).elim
  · have inside : other ∈ opened history := by simp [split]
    rw [sampled_congr (effect.sends other) (effect.acks other inside here)]
    by_cases next : ∃ tail, rest = ref :: tail
    · -- The predecessor of the acked cluster.
      have ⟨tail, sameRest⟩ := next
      have whole : older ++ ref :: younger = (front ++ [other]) ++ ref :: tail := by
        rw [← effect.chain, split, sameRest, List.append_assoc]
        rfl
      rw [predecessor front other (split_unique distinct whole).1, sameRest]
      exact ⟨fun sampled => ⟨effect.acked, sampled⟩, And.right⟩
    · -- Every other cluster has the successor it had.
      have unmade : ¬made other := by
        intro now
        have ⟨others, last⟩ := effect.predecessor other now
        have whole : others ++ other :: (ref :: younger) = front ++ other :: rest := by
          rw [← split, effect.chain, last, List.append_assoc]
          rfl
        have placed : (others ++ other :: (ref :: younger)).Nodup := by
          rw [whole, ← split]
          exact chained.distinct
        exact next ⟨younger, (split_unique placed whole).2.symm⟩
      have sameFirst : FirstAcked longer rest ↔ FirstAcked history rest := by
        cases rest with
        | nil => exact Iff.rfl
        | cons following tail =>
            have otherwise : following ≠ ref := fun same => next ⟨tail, by rw [same]⟩
            show acksIn following longer ≠ [] ↔ acksIn following history ≠ []
            rw [effect.acks following (by simp [split]) otherwise]
      rw [effect.estimated, or_iff_left unmade, sameFirst]
      exact chained.estimated front other rest split

section Credited

variable {before left behind : List (LiveCluster Bandwidth)} {ref : ClusterRef}
  {cluster : SentClusterInfo Bandwidth} {removed : List ClusterRef}
  {estimated calls : List (Call Bandwidth)}

/-- What an ack that is credited to a cluster does to the chain. -/
theorem Chained.ackEffect (chained : Chained platform history ledger)
    (tracked : Tracked platform history ledger) (sound : Sound next estimates ledger)
    (new : ledger.lastAck < number)
    (located : ledger.rounds.find? number = some cluster.clusterId)
    (split : ledger.clusters = before ++ (ref, cluster) :: behind)
    (triggered : Ledger.Triggered platform before left estimated)
    (whole : opened history = removed ++ ledger.clusters.map Prod.fst)
    (sameOpened : openedAfter (opened history) calls = opened history)
    (sameMade : ∀ ref id bw, Call.estimateBandwidth ref id bw ∈ calls ↔
      Call.estimateBandwidth ref id bw ∈ estimated) :
    AckEffect history (history ++ [(.ack time number draw, calls)])
      (removed ++ before.map Prod.fst) ref (behind.map Prod.fst)
      fun other => ∃ id bw, Call.estimateBandwidth other id bw ∈ estimated := by
  have live : (ref, cluster) ∈ ledger.clusters := by simp [split]
  have inside : number ∈ cluster.numbers := sound.number_mem located live rfl
  have single : ∀ other ∈ ledger.clusters, number ∈ other.2.numbers → other.1 = ref := by
    intro other otherLive otherInside
    have entered := tracked.pending other otherLive number otherInside new
    have sameId := OrderedMap.value_unique entered (OrderedMap.find?_eq_some.mp located)
    exact congrArg Prod.fst (sound.eq_of_id otherLive live sameId)
  refine ⟨?_, by rw [opened_snoc, sameOpened], fun other => by rw [sentIn_snoc_ack], ?_,
    tracked.acksIn_acked new live inside calls, ?_, ?_, ?_⟩
  · rw [whole, split, List.map_append, List.map_cons, List.append_assoc]
  · intro other member unlike
    apply chained.acksIn_other tracked new member
    intro cluster clusterLive same clusterInside
    exact unlike (same.symm.trans (single cluster clusterLive clusterInside))
  · intro other member
    have ⟨younger, inBehind, same⟩ := List.mem_map.mp member
    rw [← same]
    exact tracked.acksIn_younger sound new split inside inBehind
  · intro other
    rw [estimated_snoc]
    simp only [sameMade]
  · intro other ⟨id, bw, now⟩
    have ⟨front, newest, last, _, only⟩ := triggered.samples (List.ne_nil_of_mem now)
    rw [only] at now
    have same : other = newest.1 := (Call.estimateBandwidth.inj (List.mem_singleton.mp now)).1
    exact ⟨removed ++ front.map Prod.fst, by simp [last, same, List.append_assoc]⟩

/-- The predecessor of the acked cluster is estimated exactly if it has a sample. -/
theorem Chained.predecessor_iff (chained : Chained platform history ledger)
    (tracked : Tracked platform history ledger) (clock : ClockOrdered (history.map Prod.fst))
    (split : ledger.clusters = before ++ (ref, cluster) :: behind)
    (triggered : Ledger.Triggered platform before left estimated)
    (firstOnly : estimated ≠ [] → cluster.firstAckTs = 0)
    (due : cluster.firstAckTs = 0 → Ledger.Samples platform before → estimated ≠ [])
    {longer : History Bandwidth}
    (effect : AckEffect history longer (removed ++ before.map Prod.fst) ref
      (behind.map Prod.fst) fun other => ∃ id bw, Call.estimateBandwidth other id bw ∈ estimated)
    (youngest : ∀ front other, removed = front ++ [other] → Estimated history other)
    {front : List ClusterRef} {other : ClusterRef}
    (last : removed ++ before.map Prod.fst = front ++ [other]) :
    Estimated longer other ↔ HasSample platform history other := by
  have live : (ref, cluster) ∈ ledger.clusters := by simp [split]
  have positive : ∀ ack ∈ acksIn ref history, 0 < ack.time := by
    intro ack member
    have ⟨entry, inHistory, sameTime⟩ := (mem_acksIn member).2.2
    rw [← sameTime]
    exact clock.positive entry.1 (List.mem_map_of_mem inHistory)
  have first := (tracked.matched (ref, cluster) live).firstAckTs_eq_zero positive
  have here : opened history = front ++ other :: (ref :: behind.map Prod.fst) := by
    rw [effect.chain, last, List.append_assoc]
    rfl
  have law := chained.estimated front other _ here
  cases List.eq_nil_or_concat before with
  | inl empty =>
      -- The predecessor was deleted, so it has been estimated.
      rw [empty, List.map_nil, List.append_nil] at last
      have already := youngest front other last
      exact ⟨fun _ => (law.mp already).2, fun _ => (effect.estimated other).mpr (Or.inl already)⟩
  | inr more =>
      have ⟨others, newest, sameBefore⟩ := more
      rw [List.concat_eq_append] at sameBefore
      have newestLive : newest ∈ ledger.clusters := by simp [split, sameBefore]
      have sameOther : newest.1 = other := by
        rw [sameBefore, List.map_append, ← List.append_assoc] at last
        exact List.singleton_inj.mp (List.append_inj' last rfl).2
      have samples : Ledger.Samples platform (others ++ [newest]) ↔
          HasSample platform history newest.1 := tracked.samples_iff clock newestLive
      rw [← sameBefore, sameOther] at samples
      rw [effect.estimated]
      by_cases unacked : cluster.firstAckTs = 0
      · have unestimated : ¬Estimated history other := by
          rw [law]
          intro both
          exact both.1 (first.mp unacked)
        rw [or_iff_right unestimated, ← samples]
        constructor
        · intro ⟨id, bw, now⟩
          have ⟨_, _, _, sampled, _⟩ := triggered.samples (List.ne_nil_of_mem now)
          exact sampled
        · intro sampled
          have ⟨_, youngestOlder, sameLast, _, only⟩ := triggered.samples (due unacked sampled)
          have same : newest = youngestOlder := by
            rw [sameBefore] at sameLast
            exact List.singleton_inj.mp (List.append_inj' sameLast rfl).2
          rw [← same, sameOther] at only
          refine ⟨newest.2.clusterId, newest.2.sample platform, ?_⟩
          rw [only]
          exact List.mem_singleton_self _
      · have noCall : estimated = [] := by
          by_contra made
          exact unacked (firstOnly made)
        have acked : acksIn ref history ≠ [] := fun empty => unacked (first.mpr empty)
        rw [noCall, law]
        simp only [List.not_mem_nil, exists_false, or_false]
        exact and_iff_right acked

/-- A credited ack, with the estimate it makes. -/
theorem Chained.credited (chained : Chained platform history ledger)
    (tracked : Tracked platform history ledger) (sound : Sound next estimates ledger)
    (clock : ClockOrdered (history.map Prod.fst)) (new : ledger.lastAck < number)
    (counted : ledger.Credited platform time number after estimated)
    (sameOpened : openedAfter (opened history) calls = opened history)
    (sameMade : ∀ ref id bw, Call.estimateBandwidth ref id bw ∈ calls ↔
      Call.estimateBandwidth ref id bw ∈ estimated) :
    Chained platform (history ++ [(.ack time number draw, calls)]) after := by
  cases counted with
  | unknown absent =>
      have unlisted : ∀ cluster ∈ ledger.clusters,
          (number, cluster.2.clusterId) ∉ ledger.rounds.entries := fun cluster _ located =>
        OrderedMap.find?_eq_none.mp absent _ located rfl
      exact chained.unlocated tracked new unlisted sameOpened (by simp [sameMade]) rfl rfl rfl
  | removed located absent =>
      have unlisted : ∀ cluster ∈ ledger.clusters,
          (number, cluster.2.clusterId) ∉ ledger.rounds.entries := fun cluster live entered =>
        absent cluster live (OrderedMap.value_unique entered (OrderedMap.find?_eq_some.mp located))
      exact chained.unlocated tracked new unlisted sameOpened (by simp [sameMade]) rfl rfl rfl
  | credited located split triggered firstOnly due =>
      have ⟨removed, whole, passed, youngest⟩ := chained.live
      have effect : AckEffect history (history ++ [(.ack time number draw, calls)]) _ _ _ _ :=
        chained.ackEffect tracked sound new located split triggered whole sameOpened sameMade
      refine ⟨?_, ?_, ⟨removed, ?_, ?_, ?_⟩, ?_⟩
      · rw [effect.same]
        exact chained.distinct
      · rw [effect.same]
        exact chained.below
      · rw [effect.same, effect.chain, List.map_append, triggered.refs, List.map_cons,
          List.append_assoc]
      · intro other gone packet sent
        rw [effect.sends] at sent
        exact (passed other gone packet sent).trans new.le
      · intro front other last
        exact (effect.estimated other).mpr (Or.inl (youngest front other last))
      · exact chained.estimated_acked effect fun front other last =>
          chained.predecessor_iff tracked clock split triggered firstOnly due effect youngest last

end Credited

/-- A full window deletes clusters up to one that was estimated. -/
theorem Chained.averaged (chained : Chained platform history ledger)
    (tracked : Tracked platform history ledger) (sound : Sound next estimates ledger)
    (made : ∀ estimate ∈ estimates, Estimated history estimate.1)
    {averages : List (Call Bandwidth)} (trimmed : ledger.Averaged after averages) :
    Chained platform history after := by
  cases trimmed with
  | waiting _ => exact chained
  | @trimmed oldest later full head live rate round =>
      have ⟨before, behind, split⟩ := List.append_of_mem live
      have ⟨removed, whole, passed, youngest⟩ := chained.live
      have estimated : Estimated history oldest.1 := by
        have ⟨_, waiting, sameEstimates, sameRefs, _⟩ := sound.recent
        have waits : oldest.1 ∈ waiting.map Prod.fst := by
          rw [← sameRefs, head]
          exact List.mem_cons_self
        have ⟨estimate, inWaiting, same⟩ := List.mem_map.mp waits
        rw [← same]
        exact made estimate (by simp [sameEstimates, inWaiting])
      have ⟨_, _, closed⟩ := tracked.closed_of_estimated estimated
      refine ⟨chained.distinct, chained.below,
        ⟨removed ++ (before ++ [oldest]).map Prod.fst, ?_, ?_, ?_⟩, chained.estimated⟩
      · rw [sound.dropWhile_eq split, whole, split]
        simp
      · intro ref gone packet sent
        cases List.mem_append.mp gone with
        | inl older => exact passed ref older packet sent
        | inr now =>
            have ⟨cluster, member, same⟩ := List.mem_map.mp now
            rw [← same] at sent
            cases List.mem_append.mp member with
            | inr last =>
                rw [List.mem_singleton.mp last] at sent
                exact closed.passed packet sent
            | inl front =>
                -- Its packets are below those of the oldest estimated cluster.
                have clusterLive : cluster ∈ ledger.clusters := by simp [split, front]
                have ⟨number, inside⟩ := List.exists_mem_of_ne_nil _ (sound.nonempty oldest live)
                have below : packet.number < number := by
                  apply ((sound.around split).1 cluster front).numbers packet.number ?_ number inside
                  show packet.number ∈ cluster.2.numbers
                  rw [tracked.numbers_sentIn clusterLive]
                  exact List.mem_map_of_mem sent
                rw [tracked.numbers_sentIn live] at inside
                have ⟨other, otherSent, sameNumber⟩ := List.mem_map.mp inside
                have := closed.passed other otherSent
                show packet.number ≤ ledger.lastAck
                omega
      · intro front ref last
        rw [List.map_append, ← List.append_assoc] at last
        have same : oldest.1 = ref := List.singleton_inj.mp (List.append_inj' last rfl).2
        rw [← same]
        exact estimated

/-! ### Whole runs -/

theorem openedAfter_credited {estimated : List (Call Bandwidth)}
    (counted : ledger.Credited platform time number after estimated) (start : List ClusterRef) :
    openedAfter start estimated = start := by
  cases counted with
  | unknown _ => rfl
  | removed _ _ => rfl
  | credited _ _ triggered _ _ =>
      cases triggered.estimates_cases with
      | inl none => rw [none]; rfl
      | inr one =>
          have ⟨_, _, _, _, _, same⟩ := one
          rw [same]
          rfl

omit [LinearOrder Bandwidth] in
theorem openedAfter_averaged {averages : List (Call Bandwidth)}
    (trimmed : ledger.Averaged after averages) (start : List ClusterRef) :
    openedAfter start averages = start := by
  cases trimmed <;> rfl

omit [LinearOrder Bandwidth] in
/-- What is estimated since the last clear was passed to `OnEstimateBandwidth`. -/
theorem estimate_mem_calls {calls : List (Call Bandwidth)} {estimate : ClusterRef × Nat}
    (member : estimate ∈ estimatesAfter [] calls) :
    ∃ bw, Call.estimateBandwidth estimate.1 estimate.2 bw ∈ calls := by
  have ⟨earlier, all⟩ := exists_estimatesOf_eq calls
  have listed : estimate ∈ estimatesOf calls := by
    rw [all]
    exact List.mem_append_right _ member
  have ⟨call, inside, same⟩ := List.mem_filterMap.mp listed
  cases call with
  | estimateBandwidth ref id bw =>
      rw [← Option.some.inj same]
      exact ⟨bw, inside⟩
  | clusterPacketSent _ => contradiction
  | clusterInfoClear => contradiction
  | averageBandwidth _ _ _ => contradiction

/-- A ledger without clusters stays so over an accepted ack. -/
theorem clusters_of_empty {credited : Ledger Bandwidth} {estimated averages : List (Call Bandwidth)}
    (empty : ledger.clusters = [])
    (counted : ledger.Credited platform time number credited estimated)
    (trimmed : credited.Averaged after averages) : after.clusters = [] := by
  have none : credited.clusters = [] := by
    cases counted with
    | unknown _ => exact empty
    | removed _ _ => exact empty
    | credited _ split _ _ _ =>
        rw [empty] at split
        simp at split
  cases trimmed with
  | waiting _ => exact none
  | trimmed _ _ live _ _ =>
      rw [none] at live
      exact absurd live List.not_mem_nil

/-- One event keeps the chain. -/
theorem Chained.step {event : Event} {calls : List (Call Bandwidth)}
    (chained : Chained platform history ledger) (tracked : Tracked platform history ledger)
    (sound : Sound next (estimatesAfter [] (callsOf history)) ledger)
    (stepped : ledger.Step platform event calls after)
    (clock : ClockOrdered (history.map Prod.fst ++ [event]))
    (numbers : NumbersConsecutive (history.map Prod.fst ++ [event])) :
    Chained platform (history ++ [(event, calls)]) after := by
  cases stepped with
  | unsampled _ => exact chained.unsampled
  | @sampled _ _ _ advanced _ _ _ _ advances opens =>
      have moved : Chained platform history advanced := by
        cases advances with
        | stay => exact chained
        | next => exact chained.moved rfl rfl rfl
      exact moved.sent (tracked.advances advances) opens
  | ignored old => exact chained.ignored tracked numbers.restrict old
  | @accepted time number draw moded credited _ cleared estimated averages new changed counted
      trimmed =>
      have positive : time ≠ 0 := (clock.positive (.ack time number draw) (by simp)).ne'
      have onlyEstimated : ∀ ref id bw,
          Call.estimateBandwidth ref id bw ∈ cleared ++ estimated ++ averages →
          Call.estimateBandwidth ref id bw ∈ estimated := fun _ _ _ made =>
        estimate_mem_credited changed trimmed made
      have trackedMoved := tracked.moded changed
      have soundMoved := sound.moded changed
      have accepted := soundMoved.credited (changed.lastAck_eq ▸ new) positive counted
      have trackedAfter := trackedMoved.credited soundMoved clock.restrict
        numbers.restrict (changed.lastAck_eq ▸ new) draw counted onlyEstimated
      cases changed with
      | cleared mode round =>
          apply chained_of_clear _ (clusters_of_empty rfl counted trimmed)
          rw [opened_snoc, openedAfter_append, openedAfter_append, openedAfter_credited counted,
            openedAfter_averaged trimmed]
          rfl
      | @kept mode round _ _ =>
          have moved : Chained platform history { ledger with mode := mode, round := round } :=
            chained.moved rfl rfl rfl
          have sameOpened : openedAfter (opened history) ([] ++ estimated ++ averages) =
              opened history := by
            rw [List.nil_append, openedAfter_append, openedAfter_credited counted,
              openedAfter_averaged trimmed]
          have credit : Chained platform
              (history ++ [(.ack time number draw, [] ++ estimated ++ averages)]) credited :=
            moved.credited trackedMoved soundMoved clock.restrict new counted sameOpened
            fun ref id bw => ⟨onlyEstimated ref id bw, fun made => by simp [made]⟩
          apply credit.averaged trackedAfter accepted _ trimmed
          intro estimate member
          have inside : estimate ∈ estimatesAfter [] (callsOf history ++ estimated) := by
            rw [estimatesAfter_append, Sound.estimatesAfter_credited counted]
            exact member
          have ⟨bw, made⟩ := estimate_mem_calls inside
          refine ⟨estimate.2, bw, ?_⟩
          rw [callsOf_snoc]
          cases List.mem_append.mp made with
          | inl older => simp [older]
          | inr now => simp [now]

end Invariant

/-! ### The samples of a run -/

section Runs

variable {Bandwidth Filter : Type}

/-- A cluster with acks at two distinct times is estimated once a cluster created
after it is acked. -/
def SamplesKept (history : History Bandwidth) : Prop :=
  ∀ front ref rest, opened history = front ++ ref :: rest →
    ∀ later ∈ rest, acksIn later history ≠ [] → AckedTwice history ref → Estimated history ref

/-- The packets and the acks of a cluster make at least one bit per second. -/
structure MakesOneBit (history : History Bandwidth) (ref : ClusterRef) : Prop where
  sends : sendSpan (sentIn ref history) ≤ sentBytes (sentIn ref history) * bitsPerSecond
  acks : ackSpan (acksIn ref history) ≤ ackedBytes (acksIn ref history) * bitsPerSecond

/-- Of every finished cluster with acks at two distinct times, the cluster created
next has an accepted ack, and the bytes make one bit per second. -/
def SuccessorsAcked (history : History Bandwidth) : Prop :=
  ∀ front ref rest, opened history = front ++ ref :: rest →
    ∀ later ∈ rest, acksIn later history ≠ [] → AckedTwice history ref →
      FirstAcked history rest ∧ MakesOneBit history ref

theorem AckedTwice.spread {history : History Bandwidth} {ref : ClusterRef}
    (twice : AckedTwice history ref) (clock : ClockOrdered (history.map Prod.fst)) :
    0 < ackSpan (acksIn ref history) := by
  have ⟨early, earlyMember, late, lateMember, distinct⟩ := twice
  have ordered := clock.acksIn_ordered ref
  have bounds : ∀ ack ∈ acksIn ref history,
      ((acksIn ref history).map (·.time)).headD 0 ≤ ack.time ∧
        ack.time ≤ ((acksIn ref history).map (·.time)).getLastD 0 := by
    intro ack member
    refine ⟨?_, le_getLastD ordered (List.mem_map_of_mem member)⟩
    cases same : acksIn ref history with
    | nil => simp [same] at member
    | cons first rest =>
        rw [same] at member ordered
        cases List.mem_cons.mp member with
        | inl here => exact here ▸ le_rfl
        | inr there => exact (List.pairwise_cons.mp ordered).1 ack.time (List.mem_map_of_mem there)
  have earlyBounds := bounds early earlyMember
  have lateBounds := bounds late lateMember
  rw [ackSpan, spanOf, Int.sub_pos]
  -- The earlier of the two is not before the first ack, the other not after the last.
  cases lt_or_gt_of_ne distinct with
  | inl before => exact earlyBounds.1.trans_lt (before.trans_le lateBounds.2)
  | inr after => exact lateBounds.1.trans_lt (after.trans_le earlyBounds.2)

variable [LinearOrder Bandwidth] {platform : Platform Bandwidth Filter} {bits : Bandwidth → Nat}

theorem RoundsDown.zero_lt_iff (rounds : RoundsDown platform bits)
    (zero : bits platform.zero = 0) (bytes : Nat) {delta : Delta} (positive : 0 < delta) :
    platform.zero < platform.fromBytesAndTimeDelta bytes delta ↔
      delta ≤ bytes * bitsPerSecond := by
  rw [← rounds.strictMono.lt_iff_lt, zero, rounds.fromBytes bytes delta positive,
    Nat.div_pos_iff, and_iff_right (Int.pos_iff_toNat_pos.mp positive), Int.toNat_le]
  push_cast
  rfl

/-- The acks of a cluster make a sample when its bytes make one bit per second. -/
theorem sampled_iff (rounds : RoundsDown platform bits) (zero : bits platform.zero = 0)
    (infinite : platform.zero < platform.infinite) {history : History Bandwidth}
    (clock : ClockOrdered (history.map Prod.fst)) {ref : ClusterRef}
    (twice : AckedTwice history ref) :
    HasSample platform history ref ↔ MakesOneBit history ref := by
  have spread := twice.spread clock
  have nonnegative : 0 ≤ sendSpan (sentIn ref history) := spanOf_nonneg (clock.sentIn_ordered ref)
  have sends : platform.zero < referenceSendRate platform (sentIn ref history) ↔
      sendSpan (sentIn ref history) ≤ sentBytes (sentIn ref history) * bitsPerSecond := by
    rw [referenceSendRate]
    by_cases instant : spanOf ((sentIn ref history).map (·.time)) = 0
    · rw [if_pos instant, sendSpan, instant]
      exact iff_of_true infinite (by positivity)
    · rw [if_neg instant]
      exact rounds.zero_lt_iff zero _ (lt_of_le_of_ne nonnegative (Ne.symm instant))
  have acks : platform.zero < referenceAckRate platform (acksIn ref history) ↔
      ackSpan (acksIn ref history) ≤ ackedBytes (acksIn ref history) * bitsPerSecond :=
    rounds.zero_lt_iff zero _ spread
  constructor
  · rintro ⟨_, _, positive⟩
    rw [referenceSample, lt_min_iff, sends, acks] at positive
    exact ⟨positive.1, positive.2⟩
  · intro enough
    refine ⟨?_, spread.ne', ?_⟩
    · intro none
      have few := enough.acks
      rw [none, Nat.cast_zero, zero_mul] at few
      exact absurd spread (not_lt.mpr few)
    · rw [referenceSample, lt_min_iff, sends, acks]
      exact ⟨enough.sends, enough.acks⟩

/-- Every admissible event list has a run that keeps the three invariants. -/
theorem exists_chained_run (platform : Platform Bandwidth Filter) (minBps startBps maxBps : Nat)
    {events : List Event} (clock : ClockOrdered events) (numbers : NumbersConsecutive events) :
    ∃ history final clusters,
      (bbrMachine platform).Run (.create platform minBps startBps maxBps) history final ∧
      history.map Prod.fst = events ∧ Chained platform history (ledgerOf final clusters) := by
  have start : ∃ clusters,
      Booked [] (MyBbrSender.create platform minBps startBps maxBps) clusters ∧
      Tracked platform [] (ledgerOf (MyBbrSender.create platform minBps startBps maxBps) clusters) ∧
      Chained platform [] (ledgerOf (MyBbrSender.create platform minBps startBps maxBps) clusters) :=
    ⟨[], booked_create platform minBps startBps maxBps, tracked_create platform _,
      chained_create platform _ rfl⟩
  have ⟨history, final, run, sameEvents, clusters, _, _, chained⟩ :=
    (bbrMachine platform).exists_run
      (fun events => ClockOrdered events ∧ NumbersConsecutive events)
      (fun history sender => ∃ clusters, Booked history sender clusters ∧
        Tracked platform history (ledgerOf sender clusters) ∧
        Chained platform history (ledgerOf sender clusters))
      (fun _ _ admissible => ⟨admissible.1.restrict, admissible.2.restrict⟩) start
      (fun history sender event invariant admissible => by
        have ⟨clusters, booked, tracked, chained⟩ := invariant
        have ⟨after, calls, left, stepped, ledgerStep, bookedAfter⟩ :=
          booked.enabled platform admissible.1 admissible.2.increase
        have trackedAfter := tracked.step booked.sound ledgerStep admissible.1 admissible.2
          fun number sent => nextNumber_le admissible.2.increase sent
        have chainedAfter := chained.step tracked booked.sound ledgerStep admissible.1 admissible.2
        exact ⟨after, calls, stepped, left, bookedAfter, trackedAfter, chainedAfter⟩)
      events ⟨clock, numbers⟩
  exact ⟨history, final, clusters, run, sameEvents, chained⟩

/-- In a run no finished cluster's sample is lost exactly when each finished cluster
with acks at two distinct times has an acked successor and at least one bit per
second. -/
theorem samples_kept_iff (rounds : RoundsDown platform bits) (zero : bits platform.zero = 0)
    (infinite : platform.zero < platform.infinite) (minBps startBps maxBps : Nat)
    {events : List Event} (clock : ClockOrdered events) (numbers : NumbersConsecutive events) :
    ∃ final history,
      (bbrMachine platform).exec (.create platform minBps startBps maxBps) events =
        some (final, history) ∧
      (SamplesKept history ↔ SuccessorsAcked history) := by
  have ⟨history, final, clusters, run, sameEvents, chained⟩ :=
    exists_chained_run platform minBps startBps maxBps clock numbers
  rw [← sameEvents] at clock ⊢
  refine ⟨final, history, run.exec, ?_⟩
  have law : ∀ front ref rest, opened history = front ++ ref :: rest → AckedTwice history ref →
      (Estimated history ref ↔ FirstAcked history rest ∧ MakesOneBit history ref) := by
    intro front ref rest split twice
    rw [chained.estimated front ref rest split, sampled_iff rounds zero infinite clock twice]
  constructor
  · intro kept front ref rest split later member acked twice
    exact (law front ref rest split twice).mp (kept front ref rest split later member acked twice)
  · intro successors front ref rest split later member acked twice
    exact (law front ref rest split twice).mpr
      (successors front ref rest split later member acked twice)

/-- Three clusters, packets 2 and 3, 4, 5; packet 4 is lost. -/
def lostClusterRun : List Event :=
  [.packetSent 1 1 1000, .ack 100000 1 0, .packetSent 100001 2 1000, .packetSent 100002 3 1000,
    .packetSent 300000 4 1000, .ack 300001 2 0, .ack 300002 3 0, .packetSent 500000 5 1000,
    .ack 600000 5 0]

theorem sample_lost_lostClusterRun :
    ClockOrdered lostClusterRun ∧ NumbersConsecutive lostClusterRun ∧
      ∃ final history,
        (bbrMachine Platform.bits).exec (.create Platform.bits 1000 1000 1000) lostClusterRun =
          some (final, history) ∧
        ¬SamplesKept history := by
  refine ⟨⟨by decide, by decide⟩, ⟨by decide, by decide⟩, ?_⟩
  have trace : ((bbrMachine Platform.bits).exec (.create Platform.bits 1000 1000 1000)
      lostClusterRun).map (fun result => (opened result.2, (acksIn 0 result.2).map (·.time),
        (acksIn 2 result.2).length, (samplesOf result.2).length)) =
      some ([0, 1, 2], [300001, 300002], 1, 0) := by
    decide +kernel
  have ⟨⟨final, history⟩, executed, same⟩ := Option.map_eq_some_iff.mp trace
  have ⟨chain, rest⟩ := Prod.mk.inj same
  have ⟨times, rest⟩ := Prod.mk.inj rest
  have ⟨acked, samples⟩ := Prod.mk.inj rest
  refine ⟨final, history, executed, ?_⟩
  intro kept
  have twice : AckedTwice history 0 := by
    have ⟨early, earlyMember, earlyTime⟩ :=
      List.mem_map.mp (times ▸ List.mem_cons_self : (300001 : QuicTime) ∈ (acksIn 0 history).map (·.time))
    have ⟨late, lateMember, lateTime⟩ :=
      List.mem_map.mp (times ▸ by simp : (300002 : QuicTime) ∈ (acksIn 0 history).map (·.time))
    exact ⟨early, earlyMember, late, lateMember, by rw [earlyTime, lateTime]; decide⟩
  have heard : acksIn 2 history ≠ [] := List.ne_nil_of_length_pos (by rw [acked]; decide)
  have ⟨id, bw, made⟩ := kept [] 0 [1, 2] chain 2 (by simp) heard twice
  have ⟨entry, inHistory, inCalls⟩ := List.mem_flatMap.mp made
  have sample : (0, bw) ∈ samplesOf history :=
    mem_samplesOf.mpr ⟨entry.1, entry.2, id, inHistory, inCalls⟩
  rw [List.length_eq_zero_iff.mp samples] at sample
  exact List.not_mem_nil sample

theorem samples_kept_iff_lostClusterRun :
    (RoundsDown Platform.bits id ∧ id Platform.bits.zero = 0 ∧
      Platform.bits.zero < Platform.bits.infinite ∧ ClockOrdered lostClusterRun ∧
      NumbersConsecutive lostClusterRun) ∧
    ∃ final history,
      (bbrMachine Platform.bits).exec (.create Platform.bits 1000 1000 1000) lostClusterRun =
        some (final, history) ∧
      (SamplesKept history ↔ SuccessorsAcked history) :=
  have clock : ClockOrdered lostClusterRun := ⟨by decide, by decide⟩
  have numbers : NumbersConsecutive lostClusterRun := ⟨by decide, by decide⟩
  have infinite : Platform.bits.zero < Platform.bits.infinite := by decide
  ⟨⟨roundsDown_bits, rfl, infinite, clock, numbers⟩,
    samples_kept_iff roundsDown_bits rfl infinite 1000 1000 1000 clock numbers⟩

end Runs

end StupidSimple.Bbr
