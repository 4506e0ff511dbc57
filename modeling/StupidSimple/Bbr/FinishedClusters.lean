import StupidSimple.Bbr.BogusAck
import StupidSimple.Bbr.ProbeRtt

/-!
Owns the clusters that `connection_info_` keeps although all their packets are passed by
the acks. A cluster leaves only with an estimated one, so their number is bounded if the
acks leave no cluster without a sample: `finished_bounded`. `Passing` is the invariant
behind it.
-/

namespace StupidSimple.Bbr

open StupidSimple.Library

/-! ### What a step does to the clusters -/

section Changes

variable {Bandwidth Filter : Type} {ledger : Ledger Bandwidth} {number : Nat} {time : QuicTime}

namespace Ledger.Opens

variable {zero : Bandwidth} {front : List (LiveCluster Bandwidth)}
  {newest : LiveCluster Bandwidth} {fresh : ClusterRef}

/-- Each old cluster is still there after a packet, with its packets and acks. -/
theorem carried (opens : ledger.Opens zero front newest fresh) (time : QuicTime)
    (number bytes : Nat) {cluster : LiveCluster Bandwidth} (live : cluster ∈ ledger.clusters) :
    ∃ other ∈ front ++ [(newest.1, newest.2.onPacketSent time number bytes)],
      other.1 = cluster.1 ∧ other.2.clusterId = cluster.2.clusterId ∧
        other.2.firstAckTs = cluster.2.firstAckTs ∧
        ∀ packet ∈ cluster.2.numbers, packet ∈ other.2.numbers := by
  cases opens.mem_cases live with
  | inl old => exact ⟨cluster, List.mem_append_left _ old, rfl, rfl, rfl, fun _ inside => inside⟩
  | inr same =>
      refine ⟨(newest.1, newest.2.onPacketSent time number bytes), by simp, ?_⟩
      rw [same]
      refine ⟨rfl, rfl, rfl, fun packet inside => ?_⟩
      rw [SentClusterInfo.numbers_onPacketSent]
      exact List.mem_append_left _ inside

/-- Each cluster after a packet was there, or is the new one. -/
theorem origin (opens : ledger.Opens zero front newest fresh) {bytes : Nat}
    {other : LiveCluster Bandwidth}
    (member : other ∈ front ++ [(newest.1, newest.2.onPacketSent time number bytes)]) :
    (∃ cluster ∈ ledger.clusters, other.1 = cluster.1 ∧
      other.2.firstAckTs = cluster.2.firstAckTs ∧ other.2.lastAckTs = cluster.2.lastAckTs ∧
      ∀ packet ∈ other.2.numbers, packet = number ∨ packet ∈ cluster.2.numbers) ∨
    (other.1 = ledger.fresh ∧ other.2.firstAckTs = 0 ∧ other.2.lastAckTs = 0 ∧
      ∀ packet ∈ other.2.numbers, packet = number) := by
  cases List.mem_append.mp member with
  | inl old =>
      exact Or.inl ⟨other, opens.front_subset old, rfl, rfl, rfl, fun _ inside => Or.inr inside⟩
  | inr last =>
      rw [List.mem_singleton.mp last]
      simp only [SentClusterInfo.numbers_onPacketSent, List.mem_append, List.mem_singleton]
      cases opens with
      | current split _ =>
          exact Or.inl ⟨newest, by simp [split], rfl, rfl, rfl, fun _ inside => inside.symm⟩
      | created _ =>
          exact Or.inr ⟨rfl, rfl, rfl, fun _ inside => inside.resolve_left List.not_mem_nil⟩

end Ledger.Opens

/-- Each cluster after a credited ack was there; only the acked one has other time stamps. -/
theorem Sound.origin {next : Nat} {estimates : Estimates} (sound : Sound next estimates ledger)
    {clusters : List (LiveCluster Bandwidth)} {ref : ClusterRef}
    {cluster : SentClusterInfo Bandwidth} (acked : (ref, cluster) ∈ ledger.clusters)
    (refreshed : List.Forall₂ (Refreshed time number cluster.clusterId) ledger.clusters clusters)
    (positive : time ≠ 0) {other : LiveCluster Bandwidth} (member : other ∈ clusters) :
    ∃ old ∈ ledger.clusters, outlineOf other = outlineOf old ∧
      (other.1 = ref ∧ other.2.firstAckTs ≠ 0 ∨
        other.2.firstAckTs = old.2.firstAckTs ∧ other.2.lastAckTs = old.2.lastAckTs) := by
  have ⟨old, live, change⟩ := exists_left_of_forall₂ refreshed member
  refine ⟨old, live, change.outline, ?_⟩
  cases change.2 with
  | inr another =>
      have ⟨_, bw, same⟩ := another
      rw [same]
      exact Or.inr ⟨rfl, rfl⟩
  | inl own =>
      rw [change.1, own.2, sound.eq_of_id live acked own.1]
      exact Or.inl ⟨rfl, SentClusterInfo.firstAckTs_acked_ne positive number cluster⟩

end Changes

/-! ### Clusters passed by the acks -/

section Passing

variable {Bandwidth Filter : Type}

/-- How far the acks have come; `sent` are the numbers sent so far. All clusters before
one with an ack wait for their average. -/
structure Passing (sent : List Nat) (ledger : Ledger Bandwidth) : Prop where
  idle : ledger.mode ≠ .probeBw → ledger.clusters = []
  acked : ledger.lastAck = 0 ∨ ledger.lastAck ∈ sent
  stamped : ∀ cluster ∈ ledger.clusters, cluster.2.firstAckTs = 0 → cluster.2.lastAckTs = 0
  tracked : ∀ number ∈ sent, ledger.lastAck < number →
    (∃ cluster ∈ ledger.clusters, number ∈ cluster.2.numbers ∧
      (number, cluster.2.clusterId) ∈ ledger.rounds.entries) ∨
    ∀ cluster ∈ ledger.clusters, ∀ later ∈ cluster.2.numbers, number < later
  reached : ∀ cluster ∈ ledger.clusters, ∀ number ∈ cluster.2.numbers, number ≤ ledger.lastAck →
    ∃ acked ∈ ledger.clusters, acked.2.firstAckTs ≠ 0 ∧ cluster.1 ≤ acked.1
  waiting : ∀ older ∈ ledger.clusters, ∀ younger ∈ ledger.clusters, older.1 < younger.1 →
    younger.2.firstAckTs ≠ 0 → older.1 ∈ ledger.ackedClusters

namespace Passing

variable {sent : List Nat} {ledger after : Ledger Bandwidth} {calls : List (Call Bandwidth)}
  {next number : Nat} {time : QuicTime} {estimates : Estimates}

theorem of_no_cluster (empty : ledger.clusters = [])
    (acked : ledger.lastAck = 0 ∨ ledger.lastAck ∈ sent) : Passing sent ledger where
  idle _ := empty
  acked := acked
  stamped := by simp [empty]
  tracked := by simp [empty]
  reached := by simp [empty]
  waiting := by simp [empty]

theorem moded (passing : Passing sent ledger) (changed : ledger.Moded after calls) :
    Passing sent after := by
  cases changed with
  | @kept mode round _ probing =>
      have idle : mode ≠ .probeBw → ledger.clusters = [] := fun outside =>
        passing.idle fun inside => outside (probing inside)
      exact { passing with idle := idle }
  | cleared _ _ => exact of_no_cluster rfl passing.acked

/-- A packet outside `PROBE_BW`. -/
theorem unsampled (passing : Passing sent ledger) (idle : ledger.mode ≠ .probeBw) (number : Nat) :
    Passing (sent ++ [number]) ledger :=
  of_no_cluster (passing.idle idle) (passing.acked.imp_right (List.mem_append_left _))

/-- A packet in `PROBE_BW`. -/
theorem sampled {zero : Bandwidth} {front : List (LiveCluster Bandwidth)}
    {newest : LiveCluster Bandwidth} {fresh : ClusterRef} (passing : Passing sent ledger)
    (sound : Sound next estimates ledger) (opens : ledger.Opens zero front newest fresh)
    (above : next ≤ number) (later : ∀ old ∈ sent, old < number) (positive : 0 < number)
    (probing : ledger.mode = .probeBw) (time : QuicTime) (bytes : Nat) :
    Passing (sent ++ [number])
      { ledger with
        fresh := fresh
        clusters := front ++ [(newest.1, newest.2.onPacketSent time number bytes)]
        rounds := ledger.rounds.insert number ledger.round } where
  idle outside := absurd probing outside
  acked := passing.acked.imp_right (List.mem_append_left _)
  stamped other member unacked := by
    cases opens.origin member with
    | inl old =>
        have ⟨cluster, live, _, first, last, _⟩ := old
        exact last.trans (passing.stamped cluster live (first.symm.trans unacked))
    | inr new => exact new.2.2.1
  tracked packet sentNow notAcked := by
    cases List.mem_append.mp sentNow with
    | inl old =>
        refine (passing.tracked packet old notAcked).imp ?_ ?_
        · intro ⟨cluster, live, inside, entry⟩
          have ⟨other, member, _, sameId, _, kept⟩ := opens.carried time number bytes live
          refine ⟨other, member, kept packet inside, OrderedMap.mem_insert.mpr (Or.inl ?_)⟩
          rw [sameId]
          exact entry
        · intro beforeAll other member packetThere inside
          cases opens.origin member with
          | inl there =>
              have ⟨cluster, live, _, _, _, fewer⟩ := there
              cases fewer packetThere inside with
              | inl same => exact same ▸ later packet old
              | inr older => exact beforeAll cluster live packetThere older
          | inr new =>
              rw [new.2.2.2 packetThere inside]
              exact later packet old
    | inr own =>
        have round := (opens.shape sound.shape).2
        rw [List.mem_singleton.mp own]
        refine Or.inl ⟨(newest.1, newest.2.onPacketSent time number bytes), by simp, ?_, ?_⟩
        · rw [SentClusterInfo.numbers_onPacketSent]
          simp
        · exact OrderedMap.mem_insert.mpr (Or.inr ⟨Prod.ext rfl round, sound.find?_unsent above⟩)
  reached other member packet inside passed := by
    have behind : ledger.lastAck < number := by
      cases passing.acked with
      | inl zero => exact zero ▸ positive
      | inr old => exact later _ old
    have notOwn : packet ≠ number := (passed.trans_lt behind).ne
    cases opens.origin member with
    | inl old =>
        have ⟨cluster, live, sameRef, _, _, fewer⟩ := old
        have ⟨ackedCluster, ackedLive, first, order⟩ :=
          passing.reached cluster live packet ((fewer packet inside).resolve_left notOwn) passed
        have ⟨kept, keptLive, keptRef, _, keptFirst, _⟩ :=
          opens.carried time number bytes ackedLive
        refine ⟨kept, keptLive, keptFirst ▸ first, ?_⟩
        rw [sameRef, keptRef]
        exact order
    | inr new => exact absurd (new.2.2.2 packet inside) notOwn
  waiting older olderLive younger youngerLive order first := by
    cases opens.origin youngerLive with
    | inr new => exact absurd new.2.1 first
    | inl youngerOld =>
        have ⟨acked, ackedLive, ackedRef, sameFirst, _, _⟩ := youngerOld
        cases opens.origin olderLive with
        | inr new =>
            have below : acked.1 < ledger.fresh :=
              (sound.shape.bounded _ (List.mem_map_of_mem ackedLive)).2.1
            rw [ackedRef, new.1] at order
            exact absurd (below.trans order) (lt_irrefl _)
        | inl olderOld =>
            have ⟨cluster, live, sameRef, _, _, _⟩ := olderOld
            rw [sameRef, ackedRef] at order
            rw [sameRef]
            exact passing.waiting cluster live acked ackedLive order (sameFirst ▸ first)

/-- An ack of a packet below those of every live cluster. -/
theorem below_all (passing : Passing sent ledger) (new : ledger.lastAck < number)
    (was : number ∈ sent)
    (below : ∀ cluster ∈ ledger.clusters, ∀ later ∈ cluster.2.numbers, number < later)
    {rounds : OrderedMap Nat Nat}
    (kept : ∀ entry ∈ ledger.rounds.entries, entry.1 ≠ number → entry ∈ rounds.entries) :
    Passing sent { ledger with lastAck := number, rounds := rounds } where
  idle := passing.idle
  acked := Or.inr was
  stamped := passing.stamped
  tracked packet old notAcked := by
    refine (passing.tracked packet old (new.trans notAcked)).imp_left ?_
    intro ⟨cluster, live, inside, entry⟩
    exact ⟨cluster, live, inside, kept _ entry notAcked.ne'⟩
  reached cluster live packet inside passed :=
    absurd passed (Nat.not_le.mpr (below cluster live packet inside))
  waiting := passing.waiting

section Ack

variable [LinearOrder Bandwidth] {platform : Platform Bandwidth Filter}

/-- The first ack of a cluster finds a sample in the one before it. -/
def FindsSample (platform : Platform Bandwidth Filter) (number : Nat)
    (ledger : Ledger Bandwidth) : Prop :=
  ∀ before ref cluster behind, ledger.clusters = before ++ (ref, cluster) :: behind →
    ledger.rounds.find? number = some cluster.clusterId → cluster.firstAckTs = 0 →
    before ≠ [] → Ledger.Samples platform before

/-- An ack credited to a cluster: if it is the first one, the clusters before it wait for
their average from now on. -/
theorem credited_waiting {before estimated behind : List (LiveCluster Bandwidth)}
    {ref : ClusterRef} {cluster : SentClusterInfo Bandwidth} (passing : Passing sent ledger)
    (sound : Sound next estimates ledger)
    (split : ledger.clusters = before ++ (ref, cluster) :: behind)
    (triggered : Ledger.Triggered platform before estimated calls)
    (due : cluster.firstAckTs = 0 → Ledger.Samples platform before → calls ≠ [])
    (samples : cluster.firstAckTs = 0 → before ≠ [] → Ledger.Samples platform before)
    {older : LiveCluster Bandwidth} (live : older ∈ ledger.clusters) (order : older.1 < ref) :
    older.1 ∈ ledger.ackedClusters ++ (estimatesOf calls).map Prod.fst := by
  have member : (ref, cluster) ∈ ledger.clusters := by simp [split]
  by_cases first : cluster.firstAckTs = 0
  · have inside : older ∈ before := by
      have ⟨_, younger⟩ := sound.around split
      rw [split] at live
      refine (List.mem_append.mp live).resolve_right fun rest => ?_
      cases List.mem_cons.mp rest with
      | inl same =>
          rw [same] at order
          exact lt_irrefl _ order
      | inr later => exact lt_asymm order (younger older later).ref
    have sampled := samples first (List.ne_nil_of_mem inside)
    cases triggered.estimates_cases with
    | inl silent => exact absurd silent (due first sampled)
    | inr estimated =>
        have ⟨front, newest, object, same, sample, made⟩ := estimated
        have last : (estimatesOf calls).map Prod.fst = [newest] := by
          rw [made]
          rfl
        rw [last, List.mem_append, List.mem_singleton]
        rw [same] at inside split
        cases List.mem_append.mp inside with
        | inr newestItself => exact Or.inr (congrArg Prod.fst (List.mem_singleton.mp newestItself))
        | inl earlier =>
            have newestLive : (newest, object) ∈ ledger.clusters := by simp [split]
            have acked : object.firstAckTs ≠ 0 := by
              intro unacked
              have unset := passing.stamped _ newestLive unacked
              exact sample (Or.inr (unset.trans unacked.symm))
            rw [List.append_assoc, List.singleton_append] at split
            exact Or.inl (passing.waiting older live _ newestLive
              ((sound.around split).1 older earlier).ref acked)
  · exact List.mem_append_left _ (passing.waiting older live _ member order first)

theorem credited (passing : Passing sent ledger) (sound : Sound next estimates ledger)
    (new : ledger.lastAck < number) (was : number ∈ sent) (positive : time ≠ 0)
    (samples : FindsSample platform number ledger)
    (counted : ledger.Credited platform time number after calls) : Passing sent after := by
  have tracked := passing.tracked number was new
  cases counted with
  | unknown absent =>
      refine passing.below_all new was (tracked.resolve_left ?_) fun entry member _ => member
      intro ⟨cluster, _, _, entry⟩
      exact OrderedMap.find?_eq_none.mp absent _ entry rfl
  | removed located absent =>
      refine passing.below_all new was (tracked.resolve_left ?_) fun entry member other =>
        OrderedMap.mem_erase.mpr ⟨member, other⟩
      intro ⟨cluster, live, _, entry⟩
      have sameRound := OrderedMap.value_unique entry (OrderedMap.find?_eq_some.mp located)
      exact absent cluster live sameRound
  | @credited before estimated behind ref cluster _ located split triggered _ due =>
      have here : (ref, cluster) ∈ ledger.clusters := by simp [split]
      have inside : number ∈ cluster.numbers := sound.number_mem located here rfl
      have refreshed := sound.refreshed split triggered time number
      have origin : ∀ other ∈ estimated ++ (ref, cluster.acked time number) :: behind,
          ∃ old ∈ ledger.clusters, outlineOf other = outlineOf old ∧
            (other.1 = ref ∧ other.2.firstAckTs ≠ 0 ∨
              other.2.firstAckTs = old.2.firstAckTs ∧ other.2.lastAckTs = old.2.lastAckTs) :=
        fun other member => sound.origin here refreshed positive member
      refine ⟨?_, Or.inr was, ?_, ?_, ?_, ?_⟩
      · intro outside
        have empty := passing.idle outside
        rw [split] at empty
        simp at empty
      · intro other member unacked
        have ⟨old, live, _, stamps⟩ := origin other member
        cases stamps with
        | inl own => exact absurd unacked own.2
        | inr same => exact same.2.trans (passing.stamped old live (same.1.symm.trans unacked))
      · intro packet old notAcked
        refine (passing.tracked packet old (new.trans notAcked)).imp ?_ ?_
        · intro ⟨before, live, inBefore, entry⟩
          have ⟨other, member, change⟩ := exists_right_of_forall₂ refreshed live
          have numbers : other.2.numbers = before.2.numbers :=
            congrArg Outline.numbers change.outline
          have id : other.2.clusterId = before.2.clusterId := congrArg Outline.id change.outline
          refine ⟨other, member, numbers ▸ inBefore, ?_⟩
          rw [id]
          exact OrderedMap.mem_erase.mpr ⟨entry, notAcked.ne'⟩
        · intro below other member packetThere inOther
          have ⟨before, live, outline, _⟩ := origin other member
          have numbers : other.2.numbers = before.2.numbers := congrArg Outline.numbers outline
          exact below before live packetThere (numbers ▸ inOther)
      · intro other member packet inOther passed
        have ⟨old, live, outline, _⟩ := origin other member
        have numbers : other.2.numbers = old.2.numbers := congrArg Outline.numbers outline
        have sameRef : other.1 = old.1 := congrArg Outline.ref outline
        refine ⟨(ref, cluster.acked time number), by simp,
          SentClusterInfo.firstAckTs_acked_ne positive number cluster, ?_⟩
        by_contra younger
        rw [sameRef] at younger
        rw [numbers] at inOther
        cases sound.eq_or_older live here with
        | inl same => exact younger (same ▸ le_refl _)
        | inr either =>
            have later := either.resolve_left fun older => younger older.ref.le
            exact absurd passed (Nat.not_le.mpr (later.numbers number inside packet inOther))
      · intro older olderLive younger youngerLive order first
        have ⟨oldOlder, oldOlderLive, olderOutline, _⟩ := origin older olderLive
        have ⟨oldYounger, oldYoungerLive, youngerOutline, stamps⟩ := origin younger youngerLive
        have olderRef : older.1 = oldOlder.1 := congrArg Outline.ref olderOutline
        have youngerRef : younger.1 = oldYounger.1 := congrArg Outline.ref youngerOutline
        rw [olderRef]
        cases stamps with
        | inl own =>
            rw [own.1, olderRef] at order
            exact passing.credited_waiting sound split triggered due
              (samples before ref cluster behind split located) oldOlderLive order
        | inr same =>
            rw [olderRef, youngerRef] at order
            exact List.mem_append_left _ (passing.waiting oldOlder oldOlderLive oldYounger
              oldYoungerLive order (same.1 ▸ first))

end Ack

/-- What stays when the oldest waiting cluster goes. -/
theorem mem_trimmed {oldest cluster : LiveCluster Bandwidth} (sound : Sound next estimates ledger)
    (live : oldest ∈ ledger.clusters) :
    cluster ∈ (ledger.clusters.dropWhile fun cluster =>
        cluster.2.clusterId ≤ oldest.2.clusterId) ↔
      cluster ∈ ledger.clusters ∧ oldest.2.clusterId < cluster.2.clusterId := by
  constructor
  · intro member
    refine ⟨(List.dropWhile_sublist _).subset member, ?_⟩
    have ⟨before, behind, split⟩ := List.append_of_mem live
    rw [sound.dropWhile_eq split] at member
    exact ((sound.around split).2 cluster member).id
  · intro ⟨member, above⟩
    exact Sound.survives member above

theorem averaged (passing : Passing sent ledger) (sound : Sound next estimates ledger)
    (trimmed : ledger.Averaged after calls) : Passing sent after := by
  cases trimmed with
  | waiting short => exact passing
  | @trimmed oldest later full split live rate round =>
      have ⟨_, waiting, sameEstimates, sameRefs, _, present⟩ := sound.recent
      -- A younger cluster has an ack, as the oldest one was estimated.
      have ⟨successor, successorLive, stamped, above⟩ : ∃ cluster ∈ ledger.clusters,
          cluster.2.firstAckTs ≠ 0 ∧ EstimatedBefore (estimateOf oldest) (estimateOf cluster) := by
        have first : oldest.1 ∈ waiting.map Prod.fst := by
          rw [← sameRefs, split]
          exact List.mem_cons_self
        have ⟨estimate, member, sameRef⟩ := List.mem_map.mp first
        have ⟨cluster, found, same⟩ := present estimate member
        have clusterRef : cluster.1 = oldest.1 := (congrArg Prod.fst same).trans sameRef
        have sameCluster := sound.eq_of_ref found live clusterRef
        have recorded : estimate ∈ estimates := by
          rw [sameEstimates]
          exact List.mem_append_right _ member
        rw [← same, sameCluster] at recorded
        exact sound.succeeded _ recorded
      have ⟨acked, ackedIn, passed⟩ := sound.seen successor successorLive stamped
      refine ⟨?_, passing.acked, ?_, ?_, ?_, ?_⟩
      · intro outside
        rw [passing.idle outside]
        rfl
      · intro cluster member
        exact passing.stamped cluster ((mem_trimmed sound live).mp member).1
      · intro packet old notAcked
        refine (passing.tracked packet old notAcked).imp ?_ ?_
        · intro ⟨cluster, found, inside, entry⟩
          refine ⟨cluster, (mem_trimmed sound live).mpr ⟨found, ?_⟩, inside, entry⟩
          by_contra gone
          have below : cluster.2.clusterId < successor.2.clusterId :=
            (Nat.le_of_not_lt gone).trans_lt above.2
          have older : (outlineOf cluster).Older (outlineOf successor) := by
            cases sound.eq_or_older found successorLive with
            | inl same => exact absurd (same ▸ below) (lt_irrefl _)
            | inr either => exact either.resolve_right fun younger => lt_asymm below younger.id
          have early := older.numbers packet inside acked ackedIn
          exact absurd (early.trans_le passed) (lt_asymm notAcked)
        · intro below cluster member
          exact below cluster ((mem_trimmed sound live).mp member).1
      · intro cluster member packet inside passedIt
        have ⟨found, young⟩ := (mem_trimmed sound live).mp member
        have ⟨reachedOne, reachedLive, first, order⟩ :=
          passing.reached cluster found packet inside passedIt
        refine ⟨reachedOne, (mem_trimmed sound live).mpr ⟨reachedLive, ?_⟩, first, order⟩
        cases sound.eq_or_older found reachedLive with
        | inl same => exact same ▸ young
        | inr either =>
            have older := either.resolve_right fun younger => absurd younger.ref (not_lt.mpr order)
            exact young.trans older.id
      · intro older olderLive younger youngerLive order first
        have ⟨found, young⟩ := (mem_trimmed sound live).mp olderLive
        have waits := passing.waiting older found younger
          ((mem_trimmed sound live).mp youngerLive).1 order first
        rw [split] at waits
        refine (List.mem_cons.mp waits).resolve_left fun same => ?_
        rw [sound.eq_of_ref found live same] at young
        exact lt_irrefl _ young

variable [LinearOrder Bandwidth] {platform : Platform Bandwidth Filter} {event : Event}

theorem step (passing : Passing sent ledger) (sound : Sound next estimates ledger)
    (stepped : ledger.Step platform event calls after) (positive : event.time ≠ 0)
    (unsent : ∀ number, event.sentNumber = some number →
      next ≤ number ∧ 0 < number ∧ ∀ old ∈ sent, old < number)
    (heard : ∀ time number draw, event = .ack time number draw → ledger.lastAck < number →
      number ∈ sent ∧ (ledger.mode = .probeBw → after.mode = .probeBw →
        FindsSample platform number ledger)) :
    Passing (sent ++ event.sentNumber.toList) after := by
  cases stepped with
  | @unsampled time number bytes idle => exact passing.unsampled idle number
  | @sampled time number bytes advanced front newest fresh probing advances opens =>
      have ⟨above, some_number, later⟩ := unsent number rfl
      cases advances with
      | stay => exact passing.sampled sound opens above later some_number probing time bytes
      | next =>
          have advanced : Passing sent { ledger with round := ledger.round + 1 } :=
            { passing with }
          exact advanced.sampled (sound.advances .next) opens above later some_number probing time
            bytes
  | ignored old =>
      rw [show (Event.ack _ _ _).sentNumber.toList = [] from rfl, List.append_nil]
      exact passing
  | @accepted time number draw moded credited _ _ _ _ new changed counted trimmed =>
      have ⟨was, samples⟩ := heard time number draw rfl new
      have later : moded.lastAck < number := changed.lastAck_eq ▸ new
      have creditedMode : credited.mode = moded.mode := by
        cases counted <;> rfl
      have averagedMode : after.mode = credited.mode := by
        cases trimmed <;> rfl
      have found : FindsSample platform number moded := by
        cases changed with
        | @kept mode round _ probing =>
            intro before ref cluster behind split
            by_cases inside : ledger.mode = .probeBw
            · have stays : after.mode = .probeBw :=
                averagedMode.trans (creditedMode.trans (probing inside))
              exact samples inside stays before ref cluster behind split
            · have empty := passing.idle inside
              exact absurd (empty.symm.trans split) (by simp)
        | cleared mode round =>
            intro before ref cluster behind split
            exact absurd split (by simp)
      have modedSound := sound.moded changed
      have counting := (passing.moded changed).credited modedSound later was positive found counted
      have creditedSound := modedSound.credited later positive counted
      rw [show (Event.ack _ _ _).sentNumber.toList = [] from rfl, List.append_nil]
      exact counting.averaged creditedSound trimmed

end Passing

end Passing

/-! ### Finished clusters -/

namespace MyBbrSender

variable {Bandwidth Filter : Type} (sender : MyBbrSender Bandwidth Filter)

/-- All packets of the cluster have numbers up to `last_ack_seq_`. -/
def finishes (ref : ClusterRef) : Bool :=
  (sender.heap.read ref).any fun cluster =>
    cluster.packetInfos.all fun packet => packet.seq ≤ sender.lastAckSeq

/-- The finished clusters in `connection_info_`, oldest first. -/
def finished : List ClusterRef :=
  (sender.connectionInfo.entries.map Prod.snd).filter sender.finishes

/-- The estimate of the cluster is still to come, with the first ack of the next one. -/
def pending (ref : ClusterRef) : Bool :=
  (sender.heap.read ref).any fun cluster =>
    (cluster.next.bind sender.heap.read).all fun next => next.firstAckTs = 0

/-- The finished clusters, besides the newest one if its estimate is pending. -/
def settled : List ClusterRef :=
  if sender.finished.getLast?.any sender.pending then sender.finished.dropLast
  else sender.finished

/-- At most `kAverageAckRateWindowSize` clusters are kept though finished and not pending. -/
def FinishedBounded : Prop := sender.settled.length ≤ kAverageAckRateWindowSize

instance : Decidable sender.FinishedBounded := inferInstanceAs (Decidable (_ ≤ _))

theorem settled_length_le : sender.settled.length ≤ sender.finished.length := by
  unfold settled
  split
  · exact (List.dropLast_sublist _).length_le
  · exact le_refl _

variable {sender} {sent : List Nat} {next : Nat} {estimates : Estimates}
  {clusters : List (LiveCluster Bandwidth)}

theorem refs_listed (represents : Represents sender.heap sender.connectionInfo clusters) :
    sender.connectionInfo.entries.map Prod.snd = clusters.map Prod.fst := by
  rw [represents.indexed, List.map_map]
  rfl

/-- Of the finished clusters all but the newest wait for their average. -/
theorem finished_waiting (represents : Represents sender.heap sender.connectionInfo clusters)
    (sound : Sound next estimates (ledgerOf sender clusters))
    (passing : Passing sent (ledgerOf sender clusters)) {front : List ClusterRef}
    {newest : ClusterRef} (split : sender.finished = front ++ [newest]) :
    ∀ ref ∈ front, ref ∈ sender.ackedClusters := by
  have listed := refs_listed represents
  have increasing : (clusters.map Prod.fst).Pairwise (· < ·) :=
    List.pairwise_map.mpr ((List.pairwise_map.mp sound.shape.ordered).imp fun older => older.ref)
  have finishedIn : ∀ ref ∈ sender.finished, ∃ cluster ∈ clusters, cluster.1 = ref ∧
      ∀ number ∈ cluster.2.numbers, number ≤ sender.lastAckSeq := by
    intro ref member
    have ⟨listedRef, passed⟩ := List.mem_filter.mp member
    rw [listed] at listedRef
    have ⟨cluster, live, same⟩ := List.mem_map.mp listedRef
    have ⟨links, stored⟩ := represents.linked.read_of_mem live
    refine ⟨cluster, live, same, fun number inside => ?_⟩
    rw [finishes, ← same, stored] at passed
    have ⟨packet, sentPacket, sameNumber⟩ := List.mem_map.mp inside
    rw [← sameNumber]
    exact of_decide_eq_true (List.all_eq_true.mp passed packet sentPacket)
  intro ref member
  have ⟨older, olderLive, olderRef, _⟩ := finishedIn ref (by simp [split, member])
  have ⟨younger, youngerLive, youngerRef, passed⟩ := finishedIn newest (by simp [split])
  have order : older.1 < younger.1 := by
    have sorted : sender.finished.Pairwise (· < ·) := (listed ▸ increasing).filter _
    rw [split, List.pairwise_append] at sorted
    rw [olderRef, youngerRef]
    exact sorted.2.2 ref member newest (List.mem_singleton_self newest)
  have ⟨number, inside⟩ := List.exists_mem_of_ne_nil _ (sound.nonempty younger youngerLive)
  have ⟨acked, ackedLive, first, above⟩ :=
    passing.reached younger youngerLive number inside (passed number inside)
  rw [← olderRef]
  exact passing.waiting older olderLive acked ackedLive (order.trans_le above) first

theorem finishedBounded_of_passing
    (represents : Represents sender.heap sender.connectionInfo clusters)
    (sound : Sound next estimates (ledgerOf sender clusters))
    (passing : Passing sent (ledgerOf sender clusters))
    (short : sender.ackedClusters.length < kAverageAckRateWindowSize) :
    sender.FinishedBounded := by
  refine sender.settled_length_le.trans ?_
  cases List.eq_nil_or_concat sender.finished with
  | inl none =>
      rw [none]
      exact Nat.zero_le _
  | inr some =>
      have ⟨front, newest, split⟩ := some
      rw [List.concat_eq_append] at split
      have waiting := finished_waiting represents sound passing split
      have distinct : front.Nodup := by
        have whole : sender.finished.Nodup := (refs_listed represents ▸ sound.refs).filter _
        rw [split] at whole
        exact whole.of_append_left
      have fewer : front.length ≤ sender.ackedClusters.length :=
        (List.subperm_of_subset distinct waiting).length_le
      rw [split, List.length_append, List.length_singleton]
      exact Nat.lt_of_le_of_lt fewer short

end MyBbrSender

/-! ### Runs -/

section Runs

variable {Bandwidth Filter : Type} [LinearOrder Bandwidth] (platform : Platform Bandwidth Filter)

/-- An accepted ack is of a packet that was sent. If it is the first ack of its cluster, and
does not enter `PROBE_RTT`, then the cluster before has a sample. -/
def LeavesSample (past : List (SenderTransition Bandwidth Filter))
    (now : SenderTransition Bandwidth Filter) : Prop :=
  ∀ number ∈ acceptedNumber now, number ∈ sentNumbers past ∧
    (¬EntersProbeRtt now → ∀ ref ∈ now.before.clusterOf number,
      ∀ cluster ∈ now.before.heap.read ref, cluster.firstAckTs = 0 →
        ∀ earlier ∈ cluster.prev.bind now.before.heap.read,
          ¬earlier.noSample ∧ platform.zero < earlier.sample platform)

instance (past : List (SenderTransition Bandwidth Filter))
    (now : SenderTransition Bandwidth Filter) : Decidable (LeavesSample platform past now) :=
  inferInstanceAs (Decidable (∀ number ∈ acceptedNumber now, _ ∧ (_ → ∀ ref ∈ _, ∀ cluster ∈ _,
    _ → ∀ earlier ∈ _, _ ∧ _)))

variable {platform} {past : List (SenderTransition Bandwidth Filter)}
  {before after : MyBbrSender Bandwidth Filter} {clusters : List (LiveCluster Bandwidth)}
  {event : Event} {calls : List (Call Bandwidth)}

/-- The condition in terms of the ledger. -/
theorem LeavesSample.findsSample {time : QuicTime} {number draw : Nat}
    (leaves : LeavesSample platform past ⟨before, .ack time number draw, after⟩)
    (represents : Represents before.heap before.connectionInfo clusters)
    (new : before.lastAckSeq < number)
    (stays : ¬EntersProbeRtt ⟨before, .ack time number draw, after⟩) :
    Passing.FindsSample platform number (ledgerOf before clusters) := by
  intro older ref cluster behind split located first nonempty
  have sampled := (leaves number (Waiting.acceptedNumber_ack new)).2 stays
  have same : clusters = older ++ (ref, cluster) :: behind := split
  have found : before.connectionInfo.find? cluster.clusterId = some ref :=
    represents.find?_eq_some.mpr ⟨cluster, by simp [same], rfl⟩
  have owner : before.clusterOf number = some ref :=
    (congrArg (Option.bind · before.connectionInfo.find?) located).trans found
  have linked := represents.linked
  rw [same] at linked
  have stored := linked.read_middle
  obtain ⟨front, newest, last⟩ : ∃ front newest, older = front ++ [newest] := by
    obtain ⟨front, newest, last⟩ := (List.eq_nil_or_concat older).resolve_left nonempty
    exact ⟨front, newest, last.trans List.concat_eq_append⟩
  obtain ⟨links, newestStored⟩ := linked.read_of_mem (by simp [last] : newest ∈ _)
  have prev : backRef none older = some newest.1 := by simp [backRef, last]
  obtain ⟨sample, positive⟩ := sampled ref owner _ stored first (clusterNode links newest.2) (by
    rw [prev_clusterNode, prev]
    exact newestStored)
  exact ⟨front, newest, last, sample, positive⟩

/-- The invariant of a run. -/
def PassingRun (trail : List (SenderTransition Bandwidth Filter))
    (sender : MyBbrSender Bandwidth Filter) : Prop :=
  ∃ history clusters, history.map Prod.fst = trail.map Transition.event ∧
    Booked history sender clusters ∧ Passing (sentNumbers trail) (ledgerOf sender clusters)

theorem PassingRun.step (passing : PassingRun past before)
    (stepped : (bbrMachine platform).step before event = some (after, calls))
    (clock : ClockOrdered (past.map Transition.event ++ [event]))
    (consecutive : SentConsecutively (past.map Transition.event ++ [event]))
    (leaves : LeavesSample platform past ⟨before, event, after⟩) :
    after.FinishedBounded ∧ PassingRun (past ++ [⟨before, event, after⟩]) after := by
  obtain ⟨history, clusters, sameEvents, booked, passed⟩ := passing
  have sentEvents : numbersSent (history.map Prod.fst) = sentNumbers past := by
    rw [sameEvents, numbersSent, List.filterMap_map]
    rfl
  rw [← sameEvents] at clock consecutive
  obtain ⟨_, _, left, again, ledgerStep, bookedAfter⟩ :=
    booked.enabled platform clock consecutive.increase
  obtain ⟨sameAfter, sameCalls⟩ := Prod.mk.inj (Option.some.inj (stepped.symm.trans again))
  rw [← sameAfter] at ledgerStep bookedAfter
  have numbers : sentNumbers (past ++ [⟨before, event, after⟩]) =
      sentNumbers past ++ event.sentNumber.toList := by
    rw [sentNumbers, List.filterMap_append]
    cases event <;> rfl
  have passedAfter : Passing (sentNumbers (past ++ [⟨before, event, after⟩]))
      (ledgerOf after left) := by
    rw [numbers]
    refine passed.step booked.sound ledgerStep (clock.positive event (by simp)).ne' ?_ ?_
    · intro number sends
      have numbers : sentNumbers past ++ [number] =
          List.range' 1 (numbersSent (history.map Prod.fst ++ [event])).length := by
        rw [← consecutive, numbersSent_append, sentEvents]
        simp [numbersSent, sends]
      have later : (sentNumbers past ++ [number]).Pairwise (· < ·) :=
        numbers ▸ List.pairwise_lt_range'
      have inside : number ∈ sentNumbers past ++ [number] := by simp
      rw [numbers, List.mem_range'_1] at inside
      exact ⟨nextNumber_le consecutive.increase sends, inside.1, fun old member =>
        (List.pairwise_append.mp later).2.2 old member number (List.mem_singleton_self number)⟩
    · intro time number draw same new
      rw [same] at leaves
      refine ⟨(leaves number (Waiting.acceptedNumber_ack new)).1, fun _ probing => ?_⟩
      refine leaves.findsSample booked.represents new fun enters => ?_
      exact Mode.noConfusion (probing.symm.trans enters.2)
  refine ⟨MyBbrSender.finishedBounded_of_passing bookedAfter.represents bookedAfter.sound passedAfter
    bookedAfter.short, _, left, ?_, bookedAfter, passedAfter⟩
  rw [List.map_append, List.map_append, sameEvents]
  rfl

theorem SentConsecutively.of_prefix {left right : List Event} (isPrefix : left <+: right)
    (consecutive : SentConsecutively right) : SentConsecutively left := by
  have ⟨rest, same⟩ := isPrefix
  have numbers := consecutive
  rw [SentConsecutively, ← same, numbersSent_append, List.length_append,
    ← List.range'_append_1] at numbers
  exact (List.append_inj numbers List.length_range'.symm).1

variable (platform)

/-- If in a run no accepted ack leaves a cluster without a sample, `connection_info_` always
holds at most `kAverageAckRateWindowSize` finished clusters besides a pending one. -/
theorem finished_bounded (minBps startBps maxBps : Nat) {events : List Event}
    (clock : ClockOrdered events) (consecutive : SentConsecutively events)
    (leaves : Throughout (LeavesSample platform)
      ((bbrMachine platform).transitions (.create platform minBps startBps maxBps) events)) :
    ∀ now ∈ (bbrMachine platform).transitions (.create platform minBps startBps maxBps) events,
      now.after.FinishedBounded := by
  have initial : PassingRun [] (MyBbrSender.create platform minBps startBps maxBps) :=
    ⟨[], [], rfl, booked_create platform minBps startBps maxBps,
      Passing.of_no_cluster rfl (Or.inl rfl)⟩
  have ordered := Machine.throughout_of_prefix
    (fun _ _ isPrefix (ordered : ClockOrdered _) => ordered.sublist isPrefix.sublist) clock
    (bbrMachine platform) (.create platform minBps startBps maxBps)
  have numbered := Machine.throughout_of_prefix (fun _ _ => SentConsecutively.of_prefix) consecutive
    (bbrMachine platform) (.create platform minBps startBps maxBps)
  have given : Throughout (fun past now => ClockOrdered (past.map Transition.event ++ [now.event]) ∧
      SentConsecutively (past.map Transition.event ++ [now.event]) ∧ LeavesSample platform past now)
      ((bbrMachine platform).transitions (.create platform minBps startBps maxBps) events) :=
    fun past now rest split => ⟨ordered past now rest split, numbered past now rest split,
      leaves past now rest split⟩
  rw [← throughout_mem]
  refine Machine.throughout_of_invariant initial ?_ given
  rintro trail middle event after calls passing stepped ⟨ordered, numbered, leaves⟩
  exact passing.step stepped ordered numbered leaves

omit [LinearOrder Bandwidth] platform in
theorem finished_bounded_twoClusterRun :
    (ClockOrdered twoClusterRun ∧ SentConsecutively twoClusterRun ∧
      Throughout (LeavesSample Platform.bits) ((bbrMachine Platform.bits).transitions
        (.create Platform.bits 1000 1000 1000) twoClusterRun)) ∧
      ∀ now ∈ (bbrMachine Platform.bits).transitions (.create Platform.bits 1000 1000 1000)
        twoClusterRun, now.after.FinishedBounded :=
  have clock : ClockOrdered twoClusterRun := ⟨by decide, by decide⟩
  have consecutive : SentConsecutively twoClusterRun := by unfold SentConsecutively; decide
  have leaves : Throughout (LeavesSample Platform.bits) ((bbrMachine Platform.bits).transitions
      (.create Platform.bits 1000 1000 1000) twoClusterRun) := by
    decide +kernel
  ⟨⟨clock, consecutive, leaves⟩, finished_bounded Platform.bits 1000 1000 1000 clock consecutive
    leaves⟩

/-- One packet for each round-trip time of 30 ms: every cluster has one packet. -/
def slowRun : List Event :=
  [.packetSent 100000 1 1000, .ack 130000 1 0] ++ (List.range 13).flatMap fun round =>
    [.packetSent (140000 + 40000 * round) (2 + round) 1000,
      .ack (170000 + 40000 * round) (2 + round) 0]

/-- No cluster has a sample, and all thirteen are kept. -/
theorem finished_unbounded_slowRun :
    ClockOrdered slowRun ∧ SentConsecutively slowRun ∧
      ((bbrMachine Platform.bits).transitions (.create Platform.bits 1000 1000 1000)
        slowRun).map (fun now => now.after.settled.length) =
        [0, 0, 0, 0, 0, 1, 1, 2, 2, 3, 3, 4, 4, 5, 5, 6, 6, 7, 7, 8, 8, 9, 9, 10, 10, 11, 11,
          12] ∧
      ¬∀ now ∈ (bbrMachine Platform.bits).transitions (.create Platform.bits 1000 1000 1000)
        slowRun, now.after.FinishedBounded := by
  refine ⟨⟨by decide, by decide⟩, by unfold SentConsecutively; decide, by decide +kernel, ?_⟩
  decide +kernel

end Runs

end StupidSimple.Bbr
