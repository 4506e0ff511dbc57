import Mathlib.Data.List.DropRight
import Mathlib.Data.List.Forall2
import Mathlib.Data.List.Nodup
import StupidSimple.Bbr.Ledger

/-!
Owns the invariant of the ledger. `Shape` is its static part: how the ids, the
addresses and the packet numbers of the live clusters are ordered, and where the
packets are that `seq_round_map_` names. `Sound` adds what acks and estimates
have done since the last clear. `Sound.sent` and `Sound.acked` are the step
lemmas.
-/

namespace StupidSimple.Bbr

open StupidSimple.Library

/-- The part of a cluster that no ack changes. -/
structure Outline where
  ref : ClusterRef
  id : Nat
  numbers : List Nat

/-- The outline of a live cluster. -/
def outlineOf {Bandwidth : Type} (cluster : LiveCluster Bandwidth) : Outline :=
  ⟨cluster.1, cluster.2.clusterId, cluster.2.numbers⟩

/-- One cluster is older than another: by address, by id and by its packets. -/
structure Outline.Older (earlier later : Outline) : Prop where
  ref : earlier.ref < later.ref
  id : earlier.id < later.id
  numbers : ∀ p ∈ earlier.numbers, ∀ q ∈ later.numbers, p < q

/-- The order of the live clusters. Every number sent is below `next`. -/
structure Shape (next round : Nat) (fresh : ClusterRef) (rounds : OrderedMap Nat Nat)
    (clusters : List Outline) : Prop where
  ordered : clusters.Pairwise Outline.Older
  bounded : ∀ cluster ∈ clusters,
    cluster.id ≤ round ∧ cluster.ref < fresh ∧ ∀ p ∈ cluster.numbers, p < next
  located : ∀ entry ∈ rounds.entries, entry.1 < next ∧
    (∀ cluster ∈ clusters, cluster.id = entry.2 → entry.1 ∈ cluster.numbers) ∧
    (entry.2 < round ∨ ∃ cluster ∈ clusters, cluster.id = entry.2)

namespace Shape

variable {next round number bound : Nat} {fresh : ClusterRef} {rounds : OrderedMap Nat Nat}
  {clusters front : List Outline} {newest : Outline}

theorem cleared (next round : Nat) (fresh : ClusterRef) :
    Shape next round fresh OrderedMap.empty [] where
  ordered := List.Pairwise.nil
  bounded := by simp
  located := by simp

theorem later (shape : Shape next round fresh rounds clusters) {after : Nat}
    (le : round ≤ after) : Shape next after fresh rounds clusters where
  ordered := shape.ordered
  bounded cluster member := by
    obtain ⟨idLe, below, sent⟩ := shape.bounded cluster member
    exact ⟨idLe.trans le, below, sent⟩
  located entry member := by
    obtain ⟨sent, inside, place⟩ := shape.located entry member
    exact ⟨sent, inside, place.imp_left fun below => below.trans_le le⟩

theorem erase (shape : Shape next round fresh rounds clusters) (number : Nat) :
    Shape next round fresh (rounds.erase number) clusters :=
  { shape with
    located := fun entry member => shape.located entry (OrderedMap.mem_erase.mp member).1 }

theorem raised (shape : Shape next round fresh rounds clusters) {after : Nat}
    (above : next ≤ after) : Shape after round fresh rounds clusters where
  ordered := shape.ordered
  bounded cluster member := by
    obtain ⟨idLe, below, sent⟩ := shape.bounded cluster member
    exact ⟨idLe, below, fun p packet => (sent p packet).trans_le above⟩
  located entry member := by
    obtain ⟨sent, inside, place⟩ := shape.located entry member
    exact ⟨sent.trans_le above, inside, place⟩

/-- A new cluster of the current round, still without a packet. -/
theorem created (shape : Shape next round fresh rounds clusters)
    (older : ∀ cluster ∈ clusters, cluster.id < round) :
    Shape next round (fresh + 1) rounds (clusters ++ [⟨fresh, round, []⟩]) where
  ordered := by
    refine List.pairwise_append.mpr ⟨shape.ordered, by simp, fun cluster member other same => ?_⟩
    obtain rfl := List.mem_singleton.mp same
    exact ⟨(shape.bounded cluster member).2.1, older cluster member, by simp⟩
  bounded cluster member := by
    rcases List.mem_append.mp member with old | new
    · obtain ⟨idLe, below, sent⟩ := shape.bounded cluster old
      exact ⟨idLe, Nat.lt_succ_of_lt below, sent⟩
    · obtain rfl := List.mem_singleton.mp new
      simp
  located entry member := by
    obtain ⟨sent, inside, place⟩ := shape.located entry member
    refine ⟨sent, fun cluster live sameId => ?_, ?_⟩
    · rcases List.mem_append.mp live with old | new
      · exact inside cluster old sameId
      · obtain rfl := List.mem_singleton.mp new
        rcases place with below | ⟨other, otherLive, otherId⟩
        · exact absurd sameId (Nat.ne_of_gt below)
        · have := older other otherLive
          simp only at sameId
          omega
    · exact place.imp_right fun ⟨cluster, live, sameId⟩ => ⟨cluster, by simp [live], sameId⟩

/-- The newest cluster takes the next packet. -/
theorem extended (shape : Shape next round fresh rounds (front ++ [newest]))
    (sameRound : newest.id = round) (above : next ≤ number) :
    Shape (number + 1) round fresh (rounds.insert number round)
      (front ++ [⟨newest.ref, newest.id, newest.numbers ++ [number]⟩]) where
  ordered := by
    obtain ⟨frontOrdered, -, older⟩ := List.pairwise_append.mp shape.ordered
    refine List.pairwise_append.mpr ⟨frontOrdered, by simp, fun cluster member other same => ?_⟩
    obtain rfl := List.mem_singleton.mp same
    obtain ⟨refs, ids, numbers⟩ := older cluster member newest (by simp)
    refine ⟨refs, ids, fun p earlier q later => ?_⟩
    rcases List.mem_append.mp later with old | new
    · exact numbers p earlier q old
    · obtain rfl := List.mem_singleton.mp new
      exact ((shape.bounded cluster (by simp [member])).2.2 p earlier).trans_le above
  bounded cluster member := by
    rcases List.mem_append.mp member with old | new
    · obtain ⟨idLe, below, sent⟩ := shape.bounded cluster (by simp [old])
      exact ⟨idLe, below, fun p earlier => by have := sent p earlier; omega⟩
    · obtain rfl := List.mem_singleton.mp new
      obtain ⟨idLe, below, sent⟩ := shape.bounded newest (by simp)
      refine ⟨idLe, below, fun p later => ?_⟩
      rcases List.mem_append.mp later with old | same
      · have := sent p old
        omega
      · obtain rfl := List.mem_singleton.mp same
        exact Nat.lt_succ_self p
  located entry member := by
    rcases OrderedMap.mem_insert.mp member with old | ⟨rfl, -⟩
    · obtain ⟨sent, inside, place⟩ := shape.located entry old
      refine ⟨by omega, fun cluster live sameId => ?_, ?_⟩
      · rcases List.mem_append.mp live with earlier | new
        · exact inside cluster (by simp [earlier]) sameId
        · obtain rfl := List.mem_singleton.mp new
          exact List.mem_append_left _ (inside newest (by simp) sameId)
      · refine place.imp_right fun ⟨cluster, live, sameId⟩ => ?_
        rcases List.mem_append.mp live with earlier | new
        · exact ⟨cluster, by simp [earlier], sameId⟩
        · obtain rfl := List.mem_singleton.mp new
          exact ⟨⟨cluster.ref, cluster.id, cluster.numbers ++ [number]⟩, by simp, sameId⟩
    · refine ⟨Nat.lt_succ_self number, fun cluster live sameId => ?_, Or.inr
        ⟨⟨newest.ref, newest.id, newest.numbers ++ [number]⟩, by simp, sameRound⟩⟩
      rcases List.mem_append.mp live with earlier | new
      · have below := (List.pairwise_append.mp shape.ordered).2.2 cluster earlier newest (by simp)
        have := below.id
        simp only at sameId
        omega
      · obtain rfl := List.mem_singleton.mp new
        simp

/-- Clusters go from the front up to an id below the current round. -/
theorem dropped (shape : Shape next round fresh rounds clusters) (below : bound < round) :
    Shape next round fresh rounds (clusters.dropWhile fun cluster => cluster.id ≤ bound) where
  ordered := shape.ordered.sublist (List.dropWhile_sublist _)
  bounded cluster member := shape.bounded cluster ((List.dropWhile_sublist _).subset member)
  located entry member := by
    obtain ⟨sent, inside, place⟩ := shape.located entry member
    refine ⟨sent, fun cluster live => inside cluster ((List.dropWhile_sublist _).subset live), ?_⟩
    rcases place with old | ⟨cluster, live, sameId⟩
    · exact Or.inl old
    · rw [← List.takeWhile_append_dropWhile (p := fun cluster => decide (cluster.id ≤ bound))
        (l := clusters), List.mem_append] at live
      rcases live with front | back
      · have within : cluster.id ≤ bound := by simpa using List.mem_takeWhile_imp front
        exact Or.inl (by omega)
      · exact Or.inr ⟨cluster, back, sameId⟩

end Shape

/-! ### What an ack does to the clusters -/

section Credit

variable {Bandwidth : Type}

/-- How a cluster changes on an accepted ack of a packet of `round`: the cluster
of that round is acked, and at most the last estimate of another one changes. -/
def Refreshed (time : QuicTime) (number round : Nat) (before after : LiveCluster Bandwidth) :
    Prop :=
  after.1 = before.1 ∧
    ((before.2.clusterId = round ∧ after.2 = before.2.acked time number) ∨
      (before.2.clusterId ≠ round ∧ ∃ bw, after.2 = { before.2 with bw := bw }))

namespace Refreshed

variable {time : QuicTime} {number round : Nat} {before after : LiveCluster Bandwidth}

theorem outline (refreshed : Refreshed time number round before after) :
    outlineOf after = outlineOf before := by
  obtain ⟨sameRef, ⟨-, same⟩ | ⟨-, bw, same⟩⟩ := refreshed
  · simp [outlineOf, sameRef, same]
  · simp [outlineOf, sameRef, same, SentClusterInfo.numbers]

theorem firstAckTs_ne (refreshed : Refreshed time number round before after)
    (stamped : before.2.firstAckTs ≠ 0) : after.2.firstAckTs ≠ 0 := by
  obtain ⟨-, ⟨-, same⟩ | ⟨-, bw, same⟩⟩ := refreshed
  · rw [same, SentClusterInfo.firstAckTs_acked, if_neg stamped]
    exact stamped
  · rw [same]
    exact stamped

end Refreshed

private theorem forall₂_refreshed {time : QuicTime} {number round : Nat}
    {clusters : List (LiveCluster Bandwidth)}
    (others : ∀ cluster ∈ clusters, cluster.2.clusterId ≠ round) :
    List.Forall₂ (Refreshed time number round) clusters clusters :=
  List.forall₂_same.mpr fun cluster member =>
    ⟨rfl, Or.inr ⟨others cluster member, cluster.2.bw, rfl⟩⟩

theorem Shape.live_refs {next round : Nat} {fresh : ClusterRef} {rounds : OrderedMap Nat Nat}
    {clusters : List (LiveCluster Bandwidth)}
    (shape : Shape next round fresh rounds (clusters.map outlineOf)) :
    (clusters.map Prod.fst).Nodup := by
  rw [List.nodup_iff_pairwise_ne, List.pairwise_map]
  exact (List.pairwise_map.mp shape.ordered).imp fun older => Nat.ne_of_lt older.ref

/-- The clusters around the acked one are older and younger than it. -/
theorem Shape.around {next round : Nat} {fresh : ClusterRef} {rounds : OrderedMap Nat Nat}
    {before behind : List (LiveCluster Bandwidth)} {acked : LiveCluster Bandwidth}
    (shape : Shape next round fresh rounds ((before ++ acked :: behind).map outlineOf)) :
    (∀ cluster ∈ before, (outlineOf cluster).Older (outlineOf acked)) ∧
      ∀ cluster ∈ behind, (outlineOf acked).Older (outlineOf cluster) := by
  have ordered := shape.ordered
  rw [List.pairwise_map, List.pairwise_append, List.pairwise_cons] at ordered
  exact ⟨fun cluster member => ordered.2.2 cluster member acked (by simp),
    fun cluster member => ordered.2.1.1 cluster member⟩

theorem outlines_of_refreshed {time : QuicTime} {number round : Nat}
    {before after : List (LiveCluster Bandwidth)}
    (refreshed : List.Forall₂ (Refreshed time number round) before after) :
    after.map outlineOf = before.map outlineOf := by
  induction refreshed with
  | nil => rfl
  | cons first _ inductionHypothesis =>
      rw [List.map_cons, List.map_cons, first.outline, inductionHypothesis]

variable {Filter : Type} [LinearOrder Bandwidth] {platform : Platform Bandwidth Filter}

theorem Ledger.Triggered.refreshed {time : QuicTime} {number round : Nat}
    {before after : List (LiveCluster Bandwidth)} {calls : List (Call Bandwidth)}
    (triggered : Triggered platform before after calls)
    (others : ∀ cluster ∈ before, cluster.2.clusterId ≠ round) :
    List.Forall₂ (Refreshed time number round) before after := by
  cases triggered with
  | silent => exact forall₂_refreshed others
  | stored bw =>
      refine List.rel_append (forall₂_refreshed fun cluster member => others cluster ?_) ?_
      · simp [member]
      · exact List.Forall₂.cons ⟨rfl, Or.inr ⟨others _ (by simp), bw, rfl⟩⟩ List.Forall₂.nil
  | estimated sampled positive =>
      refine List.rel_append (forall₂_refreshed fun cluster member => others cluster ?_) ?_
      · simp [member]
      · exact List.Forall₂.cons ⟨rfl, Or.inr ⟨others _ (by simp), _, rfl⟩⟩ List.Forall₂.nil

theorem Ledger.Triggered.refs {before after : List (LiveCluster Bandwidth)}
    {calls : List (Call Bandwidth)} (triggered : Triggered platform before after calls) :
    after.map Prod.fst = before.map Prod.fst := by
  cases triggered <;> simp

/-- At most one cluster is estimated: the newest of those before the acked one. -/
theorem Ledger.Triggered.estimates_cases {before after : List (LiveCluster Bandwidth)}
    {calls : List (Call Bandwidth)} (triggered : Triggered platform before after calls) :
    calls = [] ∨ ∃ front ref cluster, before = front ++ [(ref, cluster)] ∧ ¬cluster.noSample ∧
      calls = [.estimateBandwidth ref cluster.clusterId (cluster.sample platform)] := by
  cases triggered with
  | silent => exact Or.inl rfl
  | stored _ => exact Or.inl rfl
  | @estimated front ref cluster sampled positive =>
      exact Or.inr ⟨front, ref, cluster, rfl, sampled, rfl⟩

/-- One ack adds at most one cluster to those that wait for an average. -/
theorem Ledger.Credited.length_le {time : QuicTime} {number : Nat} {ledger after : Ledger Bandwidth}
    {calls : List (Call Bandwidth)} (credited : ledger.Credited platform time number after calls) :
    after.ackedClusters.length ≤ ledger.ackedClusters.length + 1 := by
  cases credited with
  | unknown _ => exact Nat.le_succ _
  | removed _ _ => exact Nat.le_succ _
  | credited _ _ triggered _ _ =>
      rcases triggered.estimates_cases with rfl | ⟨_, _, _, _, _, rfl⟩ <;> simp [estimatesOf]

end Credit

/-- Each member of the left list has its partner in the right list. -/
theorem exists_right_of_forall₂ {α β : Type*} {related : α → β → Prop} {left : List α}
    {right : List β} (all : List.Forall₂ related left right) {first : α} (member : first ∈ left) :
    ∃ second ∈ right, related first second := by
  induction all with
  | nil => simp at member
  | cons here _ inductionHypothesis =>
      rcases List.mem_cons.mp member with rfl | later
      · exact ⟨_, by simp, here⟩
      · obtain ⟨second, inRest, holds⟩ := inductionHypothesis later
        exact ⟨second, by simp [inRest], holds⟩

theorem exists_left_of_forall₂ {α β : Type*} {related : α → β → Prop} {left : List α}
    {right : List β} (all : List.Forall₂ related left right) {second : β}
    (member : second ∈ right) : ∃ first ∈ left, related first second :=
  exists_right_of_forall₂ all.flip member

/-! ### What a packet does to the clusters -/

namespace Ledger.Opens

variable {Bandwidth : Type} {zero : Bandwidth} {ledger : Ledger Bandwidth}
  {front : List (LiveCluster Bandwidth)} {newest cluster : LiveCluster Bandwidth}
  {fresh : ClusterRef}

/-- The cluster that takes the packet is the last one and of the current round. -/
theorem shape {next : Nat} (opens : ledger.Opens zero front newest fresh)
    (shape : Shape next ledger.round ledger.fresh ledger.rounds
      (ledger.clusters.map outlineOf)) :
    Shape next ledger.round fresh ledger.rounds ((front ++ [newest]).map outlineOf) ∧
      newest.2.clusterId = ledger.round := by
  cases opens with
  | current split sameRound => exact ⟨split ▸ shape, sameRound⟩
  | created older =>
      refine ⟨?_, rfl⟩
      rw [List.map_append]
      refine shape.created fun outline member => ?_
      obtain ⟨cluster, live, rfl⟩ := List.mem_map.mp member
      exact older cluster live

theorem mem_cases (opens : ledger.Opens zero front newest fresh)
    (member : cluster ∈ ledger.clusters) : cluster ∈ front ∨ cluster = newest := by
  cases opens with
  | current split _ => simpa [split] using member
  | created _ => exact Or.inl member

theorem front_subset (opens : ledger.Opens zero front newest fresh) (member : cluster ∈ front) :
    cluster ∈ ledger.clusters := by
  cases opens with
  | current split _ => simp [split, member]
  | created _ => exact member

theorem fresh_le (opens : ledger.Opens zero front newest fresh) : ledger.fresh ≤ fresh := by
  cases opens with
  | current _ _ => exact Nat.le_refl _
  | created _ => exact Nat.le_succ _

/-- The cluster that takes the packet is live, or stands at a new address. -/
theorem newest_place (opens : ledger.Opens zero front newest fresh) :
    newest ∈ ledger.clusters ∨ newest.1 = ledger.fresh := by
  cases opens with
  | current split _ => exact Or.inl (by simp [split])
  | created _ => exact Or.inr rfl

theorem live_of_number {number : Nat} (opens : ledger.Opens zero front newest fresh)
    (inside : number ∈ newest.2.numbers) : newest ∈ ledger.clusters := by
  cases opens with
  | current split _ => simp [split]
  | created _ => simp [SentClusterInfo.create, SentClusterInfo.numbers] at inside

theorem newest_cases (opens : ledger.Opens zero front newest fresh) :
    newest ∈ ledger.clusters ∨ newest.2.firstAckTs = 0 := by
  cases opens with
  | current split _ => exact Or.inl (by simp [split])
  | created _ => exact Or.inr rfl

end Ledger.Opens

/-! ### Estimates -/

/-- The estimated clusters with their ids, oldest first. -/
abbrev Estimates := List (ClusterRef × Nat)

/-- The estimates since the last clear, after more calls. -/
def estimatesAfter {Bandwidth : Type} (start : Estimates) (calls : List (Call Bandwidth)) :
    Estimates :=
  calls.foldl
    (fun estimates call =>
      match call with
      | .clusterInfoClear => []
      | .estimateBandwidth cluster clusterId _ => estimates ++ [(cluster, clusterId)]
      | _ => estimates)
    start

theorem estimatesAfter_append {Bandwidth : Type} (start : Estimates)
    (left right : List (Call Bandwidth)) :
    estimatesAfter start (left ++ right) = estimatesAfter (estimatesAfter start left) right :=
  List.foldl_append

/-- The entry that an estimate of a live cluster makes. -/
def estimateOf {Bandwidth : Type} (cluster : LiveCluster Bandwidth) : ClusterRef × Nat :=
  (cluster.1, cluster.2.clusterId)

theorem estimateOf_eq {Bandwidth : Type} {left right : LiveCluster Bandwidth}
    (same : outlineOf left = outlineOf right) : estimateOf left = estimateOf right :=
  congrArg (fun outline : Outline => (outline.ref, outline.id)) same

/-- Estimates go from older to younger clusters. -/
def EstimatedBefore (earlier later : ClusterRef × Nat) : Prop :=
  earlier.1 < later.1 ∧ earlier.2 < later.2

theorem EstimatedBefore.trans {first second third : ClusterRef × Nat}
    (left : EstimatedBefore first second) (right : EstimatedBefore second third) :
    EstimatedBefore first third :=
  ⟨left.1.trans right.1, left.2.trans right.2⟩

/-- The invariant between two events; `estimates` are those since the last
clear, and every number sent is below `next`. -/
structure Sound {Bandwidth : Type} (next : Nat) (estimates : Estimates)
    (ledger : Ledger Bandwidth) : Prop where
  shape : Shape next ledger.round ledger.fresh ledger.rounds (ledger.clusters.map outlineOf)
  nonempty : ∀ cluster ∈ ledger.clusters, cluster.2.numbers ≠ []
  seen : ∀ cluster ∈ ledger.clusters, cluster.2.firstAckTs ≠ 0 →
    ∃ p ∈ cluster.2.numbers, p ≤ ledger.lastAck
  increasing : estimates.Pairwise EstimatedBefore
  succeeded : ∀ estimate ∈ estimates, ∃ cluster ∈ ledger.clusters,
    cluster.2.firstAckTs ≠ 0 ∧ EstimatedBefore estimate (estimateOf cluster)
  recent : ∃ averaged waiting, estimates = averaged ++ waiting ∧
    ledger.ackedClusters = waiting.map Prod.fst ∧
    (averaged = [] ∨ kAverageAckRateWindowSize ≤ waiting.length + 1) ∧
    ∀ estimate ∈ waiting, ∃ cluster ∈ ledger.clusters, estimateOf cluster = estimate

namespace Sound

variable {Bandwidth Filter : Type} {next number : Nat} {time : QuicTime}
  {estimates : Estimates} {ledger after : Ledger Bandwidth} {calls : List (Call Bandwidth)}

theorem refs (sound : Sound next estimates ledger) :
    (ledger.clusters.map Prod.fst).Nodup :=
  sound.shape.live_refs

/-- Two live clusters at one address are the same cluster. -/
theorem eq_of_ref (sound : Sound next estimates ledger) {left right : LiveCluster Bandwidth}
    (leftLive : left ∈ ledger.clusters) (rightLive : right ∈ ledger.clusters)
    (same : left.1 = right.1) : left = right :=
  List.inj_on_of_nodup_map sound.refs leftLive rightLive same

theorem around (sound : Sound next estimates ledger)
    {before behind : List (LiveCluster Bandwidth)} {middle : LiveCluster Bandwidth}
    (split : ledger.clusters = before ++ middle :: behind) :
    (∀ cluster ∈ before, (outlineOf cluster).Older (outlineOf middle)) ∧
      ∀ cluster ∈ behind, (outlineOf middle).Older (outlineOf cluster) := by
  have shape := sound.shape
  rw [split] at shape
  exact shape.around

/-- Of two live clusters one is older, unless they are the same. -/
theorem eq_or_older (sound : Sound next estimates ledger) {left right : LiveCluster Bandwidth}
    (leftLive : left ∈ ledger.clusters) (rightLive : right ∈ ledger.clusters) :
    left = right ∨ (outlineOf left).Older (outlineOf right) ∨
      (outlineOf right).Older (outlineOf left) := by
  have ⟨before, behind, split⟩ := List.append_of_mem rightLive
  have ⟨earlier, later⟩ := sound.around split
  rw [split] at leftLive
  cases List.mem_append.mp leftLive with
  | inl front => exact Or.inr (Or.inl (earlier left front))
  | inr rest =>
      cases List.mem_cons.mp rest with
      | inl same => exact Or.inl same
      | inr back => exact Or.inr (Or.inr (later left back))

/-- Two live clusters with one id are the same cluster. -/
theorem eq_of_id (sound : Sound next estimates ledger) {left right : LiveCluster Bandwidth}
    (leftLive : left ∈ ledger.clusters) (rightLive : right ∈ ledger.clusters)
    (same : left.2.clusterId = right.2.clusterId) : left = right := by
  refine (sound.eq_or_older leftLive rightLive).resolve_right fun either => ?_
  cases either with
  | inl older => exact older.id.ne same
  | inr younger => exact younger.id.ne' same

/-- A packet is in the cluster of its round. -/
theorem number_mem (sound : Sound next estimates ledger) {round : Nat}
    (located : ledger.rounds.find? number = some round) {cluster : LiveCluster Bandwidth}
    (live : cluster ∈ ledger.clusters) (own : cluster.2.clusterId = round) :
    number ∈ cluster.2.numbers :=
  (sound.shape.located _ (OrderedMap.find?_eq_some.mp located)).2.1 (outlineOf cluster)
    (List.mem_map_of_mem live) own

/-- A packet that is not sent yet has no round. -/
theorem find?_unsent (sound : Sound next estimates ledger) (unsent : next ≤ number) :
    ledger.rounds.find? number = none := by
  refine OrderedMap.find?_eq_none.mpr fun entry member same => ?_
  have below := (sound.shape.located entry member).1
  omega

/-- A ledger without clusters is sound. -/
theorem of_no_cluster (empty : ledger.clusters = []) (noRound : ledger.rounds = OrderedMap.empty)
    (noEstimate : ledger.ackedClusters = []) (next : Nat) : Sound next [] ledger where
  shape := by
    rw [empty, noRound]
    exact Shape.cleared next _ _
  nonempty := by simp [empty]
  seen := by simp [empty]
  increasing := List.Pairwise.nil
  succeeded := by simp
  recent := ⟨[], [], rfl, by simp [noEstimate], Or.inl rfl, by simp⟩

theorem advances (sound : Sound next estimates ledger) (advanced : ledger.Advances after) :
    Sound next estimates after := by
  cases advanced with
  | stay => exact sound
  | next => exact { sound with shape := sound.shape.later (Nat.le_succ _) }

theorem moded (sound : Sound next estimates ledger) (changed : ledger.Moded after calls) :
    Sound next (estimatesAfter estimates calls) after := by
  cases changed with
  | kept later _ => exact { sound with shape := sound.shape.later later }
  | cleared mode round => exact of_no_cluster rfl rfl rfl next

/-- A packet goes to the newest cluster or to a new one. -/
theorem sent {zero : Bandwidth} {front : List (LiveCluster Bandwidth)}
    {newest : LiveCluster Bandwidth} {fresh : ClusterRef}
    (sound : Sound next estimates ledger) (time : QuicTime)
    (opens : ledger.Opens zero front newest fresh) (above : next ≤ number) (bytes : Nat) :
    Sound (number + 1) estimates
      { ledger with
        fresh := fresh
        clusters := front ++ [(newest.1, newest.2.onPacketSent time number bytes)]
        rounds := ledger.rounds.insert number ledger.round } := by
  obtain ⟨shape, sameRound⟩ := opens.shape sound.shape
  have carried : ∀ cluster ∈ ledger.clusters, ∃ other ∈
      front ++ [(newest.1, newest.2.onPacketSent time number bytes)],
        estimateOf other = estimateOf cluster ∧ other.2.firstAckTs = cluster.2.firstAckTs := by
    intro cluster member
    rcases opens.mem_cases member with old | rfl
    · exact ⟨cluster, by simp [old], rfl, rfl⟩
    · exact ⟨(cluster.1, cluster.2.onPacketSent time number bytes), by simp, rfl, rfl⟩
  refine ⟨?_, fun cluster member => ?_, fun cluster member stamped => ?_, sound.increasing,
    fun estimate member => ?_, ?_⟩
  · rw [List.map_append, List.map_singleton] at shape
    simpa [outlineOf] using shape.extended sameRound above
  · rcases List.mem_append.mp member with old | new
    · exact sound.nonempty cluster (opens.front_subset old)
    · obtain rfl := List.mem_singleton.mp new
      simp
  · rcases List.mem_append.mp member with old | new
    · exact sound.seen cluster (opens.front_subset old) stamped
    · obtain rfl := List.mem_singleton.mp new
      rcases opens.newest_cases with live | unstamped
      · obtain ⟨p, packet, below⟩ := sound.seen newest live stamped
        exact ⟨p, by simp [packet], below⟩
      · exact absurd unstamped stamped
  · obtain ⟨cluster, live, stamped, below⟩ := sound.succeeded estimate member
    obtain ⟨other, inside, sameEntry, sameStamp⟩ := carried cluster live
    exact ⟨other, inside, sameStamp ▸ stamped, sameEntry ▸ below⟩
  · obtain ⟨averaged, waiting, split, sameRefs, window, live⟩ := sound.recent
    refine ⟨averaged, waiting, split, sameRefs, window, fun estimate member => ?_⟩
    obtain ⟨cluster, found, rfl⟩ := live estimate member
    obtain ⟨other, inside, sameEntry, -⟩ := carried cluster found
    exact ⟨other, inside, sameEntry⟩

/-- An accepted number moves `last_ack_seq_` and may leave `seq_round_map_`. -/
theorem accept (sound : Sound next estimates ledger) (new : ledger.lastAck ≤ number)
    (rounds : OrderedMap Nat Nat)
    (fewer : ∀ entry ∈ rounds.entries, entry ∈ ledger.rounds.entries) :
    Sound next estimates { ledger with lastAck := number, rounds := rounds } :=
  { sound with
    shape :=
      { sound.shape with
        located := fun entry member => sound.shape.located entry (fewer entry member) }
    seen := fun cluster member stamped => by
      obtain ⟨p, packet, below⟩ := sound.seen cluster member stamped
      exact ⟨p, packet, below.trans new⟩ }

section Ack

variable [LinearOrder Bandwidth] {platform : Platform Bandwidth Filter}

/-- The live clusters with an ack are older than the cluster of a new ack,
unless it is one of them. -/
theorem stamped_older (sound : Sound next estimates ledger) (new : ledger.lastAck < number)
    {before behind : List (LiveCluster Bandwidth)} {acked cluster : LiveCluster Bandwidth}
    (split : ledger.clusters = before ++ acked :: behind) (inside : number ∈ acked.2.numbers)
    (live : cluster ∈ ledger.clusters) (stamped : cluster.2.firstAckTs ≠ 0)
    (unstamped : acked.2.firstAckTs = 0) : cluster ∈ before := by
  obtain ⟨p, packet, below⟩ := sound.seen cluster live stamped
  rw [split] at live
  rcases List.mem_append.mp live with older | rest
  · exact older
  · rcases List.mem_cons.mp rest with rfl | later
    · exact absurd unstamped stamped
    · have ordered := sound.shape.ordered
      rw [split, List.pairwise_map, List.pairwise_append, List.pairwise_cons] at ordered
      have := (ordered.2.1.1 cluster later).numbers number inside p packet
      omega

/-- What an estimate made now adds: it is above every earlier one, below the
acked cluster, and names a live cluster. -/
structure FreshEstimates (estimates : Estimates) (ledger : Ledger Bandwidth)
    (acked : LiveCluster Bandwidth) (fresh : Estimates) : Prop where
  pairwise : fresh.Pairwise EstimatedBefore
  above : ∀ estimate ∈ fresh, (∀ old ∈ estimates, EstimatedBefore old estimate) ∧
    EstimatedBefore estimate (estimateOf acked) ∧
    ∃ cluster ∈ ledger.clusters, estimateOf cluster = estimate

/-- The calls of a credited ack extend the estimates. -/
theorem estimatesAfter_credited (counted : ledger.Credited platform time number after calls) :
    estimatesAfter estimates calls = estimates ++ estimatesOf calls := by
  cases counted with
  | unknown _ => simp [estimatesAfter, estimatesOf]
  | removed _ _ => simp [estimatesAfter, estimatesOf]
  | credited _ _ triggered _ _ =>
      rcases triggered.estimates_cases with rfl | ⟨_, _, _, _, _, rfl⟩ <;>
        simp [estimatesAfter, estimatesOf]

theorem fresh_estimates (sound : Sound next estimates ledger) (new : ledger.lastAck < number)
    {before estimated behind : List (LiveCluster Bandwidth)} {ref : ClusterRef}
    {cluster : SentClusterInfo Bandwidth}
    (split : ledger.clusters = before ++ (ref, cluster) :: behind)
    (inside : number ∈ cluster.numbers) (triggered : Ledger.Triggered platform before estimated calls)
    (firstOnly : calls ≠ [] → cluster.firstAckTs = 0) :
    FreshEstimates estimates ledger (ref, cluster) (estimatesOf calls) := by
  rcases triggered.estimates_cases with rfl | ⟨front, previous, data, rfl, -, rfl⟩
  · exact ⟨List.Pairwise.nil, by simp [estimatesOf]⟩
  · refine ⟨by simp [estimatesOf], fun estimate member => ?_⟩
    obtain rfl : estimate = estimateOf (previous, data) := by
      simpa [estimatesOf, estimateOf] using member
    have beforeAcked := (sound.around split).1 (previous, data) (by simp)
    refine ⟨fun old recorded => ?_, ⟨beforeAcked.ref, beforeAcked.id⟩,
      (previous, data), by simp [split], rfl⟩
    -- An earlier estimate lies below some acked cluster, and those end here.
    obtain ⟨witness, live, stamped, below⟩ := sound.succeeded old recorded
    have older := sound.stamped_older new split inside live stamped (firstOnly (by simp))
    rcases List.mem_append.mp older with inFront | last
    · rw [List.append_assoc, List.singleton_append] at split
      have step := (sound.around split).1 witness inFront
      exact below.trans ⟨step.ref, step.id⟩
    · obtain rfl := List.mem_singleton.mp last
      exact below

/-- How a credited ack changes each cluster. -/
theorem refreshed (sound : Sound next estimates ledger)
    {before estimated behind : List (LiveCluster Bandwidth)} {ref : ClusterRef}
    {cluster : SentClusterInfo Bandwidth}
    (split : ledger.clusters = before ++ (ref, cluster) :: behind)
    (triggered : Ledger.Triggered platform before estimated calls) (time : QuicTime)
    (number : Nat) :
    List.Forall₂ (Refreshed time number cluster.clusterId) ledger.clusters
      (estimated ++ (ref, cluster.acked time number) :: behind) := by
  obtain ⟨earlier, later⟩ := sound.around split
  rw [split]
  refine List.rel_append (triggered.refreshed fun other member => (earlier other member).id.ne) ?_
  exact List.Forall₂.cons ⟨rfl, Or.inl ⟨rfl, rfl⟩⟩
    (forall₂_refreshed fun other member => (later other member).id.ne')

/-- The effect of a credited ack on the ledger. -/
theorem credited (sound : Sound next estimates ledger) (new : ledger.lastAck < number)
    (positive : time ≠ 0) (counted : ledger.Credited platform time number after calls) :
    Sound next (estimates ++ estimatesOf calls) after := by
  cases counted with
  | unknown absent => simpa [estimatesOf] using sound.accept new.le ledger.rounds fun _ member => member
  | removed located absent =>
      have accepted := sound.accept new.le (ledger.rounds.erase number)
        fun _ member => (OrderedMap.mem_erase.mp member).1
      simpa [estimatesOf] using accepted
  | @credited before estimated behind ref cluster calls located split triggered firstOnly _ =>
      have accepted := sound.accept new.le (ledger.rounds.erase number)
        fun _ member => (OrderedMap.mem_erase.mp member).1
      have live : (ref, cluster) ∈ ledger.clusters := by simp [split]
      have inside : number ∈ cluster.numbers := sound.number_mem located live rfl
      have refreshed := sound.refreshed split triggered time number
      have carried : ∀ old ∈ ledger.clusters, ∃ other ∈
          estimated ++ (ref, cluster.acked time number) :: behind,
          outlineOf other = outlineOf old ∧ (old.2.firstAckTs ≠ 0 → other.2.firstAckTs ≠ 0) := by
        intro old live
        obtain ⟨other, present, change⟩ := exists_right_of_forall₂ refreshed live
        exact ⟨other, present, change.outline, change.firstAckTs_ne⟩
      have fresh := sound.fresh_estimates new split inside triggered firstOnly
      refine ⟨?_, fun other member => ?_, fun other member stamped => ?_, ?_,
        fun estimate member => ?_, ?_⟩
      · rw [outlines_of_refreshed refreshed]
        exact accepted.shape
      · obtain ⟨old, live, change⟩ := exists_left_of_forall₂ refreshed member
        have sameNumbers := congrArg Outline.numbers change.outline
        exact fun none => sound.nonempty old live (sameNumbers.symm.trans none)
      · obtain ⟨old, live, change⟩ := exists_left_of_forall₂ refreshed member
        have sameNumbers : other.2.numbers = old.2.numbers :=
          congrArg Outline.numbers change.outline
        obtain ⟨-, ⟨sameRound, -⟩ | ⟨-, bw, same⟩⟩ := change
        · refine ⟨number, ?_, le_rfl⟩
          rw [sameNumbers]
          exact sound.number_mem located live sameRound
        · rw [sameNumbers]
          exact accepted.seen old live (by rwa [same] at stamped)
      · exact List.pairwise_append.mpr
          ⟨sound.increasing, fresh.pairwise, fun old member estimate new =>
            (fresh.above estimate new).1 old member⟩
      · rcases List.mem_append.mp member with old | new
        · obtain ⟨witness, live, stamped, below⟩ := sound.succeeded estimate old
          obtain ⟨other, present, sameOutline, stampKept⟩ := carried witness live
          exact ⟨other, present, stampKept stamped, estimateOf_eq sameOutline ▸ below⟩
        · refine ⟨(ref, cluster.acked time number), by simp,
            SentClusterInfo.firstAckTs_acked_ne positive number cluster, ?_⟩
          simpa [estimateOf] using (fresh.above estimate new).2.1
      · obtain ⟨averaged, waiting, sameEstimates, sameRefs, window, live⟩ := sound.recent
        refine ⟨averaged, waiting ++ estimatesOf calls, by rw [sameEstimates, List.append_assoc],
          by rw [List.map_append, sameRefs], window.imp_right fun full => ?_,
          fun estimate member => ?_⟩
        · rw [List.length_append]
          omega
        · have found : ∃ old ∈ ledger.clusters, estimateOf old = estimate :=
            (List.mem_append.mp member).elim (live estimate)
              fun new => (fresh.above estimate new).2.2
          obtain ⟨old, present, rfl⟩ := found
          obtain ⟨other, inNew, sameOutline, -⟩ := carried old present
          exact ⟨other, inNew, estimateOf_eq sameOutline⟩

end Ack

/-- Deleting clusters from the front keeps every younger one. -/
theorem survives {clusters : List (LiveCluster Bandwidth)} {cluster : LiveCluster Bandwidth}
    {bound : Nat} (live : cluster ∈ clusters) (above : bound < cluster.2.clusterId) :
    cluster ∈ clusters.dropWhile fun other => other.2.clusterId ≤ bound := by
  rw [← List.takeWhile_append_dropWhile
    (p := fun other : LiveCluster Bandwidth => decide (other.2.clusterId ≤ bound)) (l := clusters),
    List.mem_append] at live
  rcases live with front | back
  · have within : cluster.2.clusterId ≤ bound := by simpa using List.mem_takeWhile_imp front
    omega
  · exact back

/-- The clusters up to one of them are those whose id is at most its id. -/
theorem dropWhile_eq {before behind : List (LiveCluster Bandwidth)}
    {oldest : LiveCluster Bandwidth} (sound : Sound next estimates ledger)
    (split : ledger.clusters = before ++ oldest :: behind) :
    (ledger.clusters.dropWhile fun cluster => cluster.2.clusterId ≤ oldest.2.clusterId) =
      behind := by
  have ⟨earlier, later⟩ := sound.around split
  have upTo : ∀ cluster ∈ before ++ [oldest],
      decide (cluster.2.clusterId ≤ oldest.2.clusterId) = true := by
    intro cluster member
    rw [decide_eq_true_eq]
    cases List.mem_append.mp member with
    | inl front => exact (earlier cluster front).id.le
    | inr last => exact (List.mem_singleton.mp last) ▸ le_rfl
  rw [split, ← List.singleton_append, ← List.append_assoc, List.dropWhile_append_of_pos upTo,
    List.dropWhile_eq_self_iff]
  intro nonempty within
  have := (later behind[0] (List.getElem_mem nonempty)).id
  simp only [outlineOf, decide_eq_true_eq] at this within
  omega

/-- Averaging keeps the invariant, leaves less than a window, and averages over
the last ten estimates. -/
theorem averaged (sound : Sound next estimates ledger)
    (trimmed : ledger.Averaged after calls) :
    Sound next estimates after ∧
      after.ackedClusters.length < kAverageAckRateWindowSize ∧
      (calls = [] ∨ kAverageAckRateWindowSize ≤ estimates.length ∧ ∃ rate round, calls =
        [.averageBandwidth ((estimates.rtake kAverageAckRateWindowSize).map Prod.fst)
          rate round]) := by
  cases trimmed with
  | waiting short => exact ⟨sound, short, Or.inl rfl⟩
  | @trimmed oldest later full split live rate round =>
      obtain ⟨past, waiting, sameEstimates, sameRefs, window, present⟩ := sound.recent
      have waitingLength : waiting.length = kAverageAckRateWindowSize := by
        rw [← full, sameRefs, List.length_map]
      obtain ⟨first, rest, rfl⟩ : ∃ first rest, waiting = first :: rest := by
        cases waiting with
        | nil => simp [kAverageAckRateWindowSize] at waitingLength
        | cons first rest => exact ⟨first, rest, rfl⟩
      rw [sameRefs, List.map_cons, List.cons.injEq] at split
      obtain ⟨sameFirst, rfl⟩ := split
      have recorded : ∀ estimate ∈ first :: rest, estimate ∈ estimates := fun estimate member => by
        rw [sameEstimates]
        exact List.mem_append_right _ member
      have sameOldest : oldest.2.clusterId = first.2 := by
        obtain ⟨cluster, found, rfl⟩ := present first (by simp)
        rw [sound.eq_of_ref live found sameFirst.symm]
        rfl
      have increasing := sound.increasing
      rw [sameEstimates, List.pairwise_append, List.pairwise_cons] at increasing
      obtain ⟨successor, successorLive, successorStamped, above⟩ :=
        sound.succeeded first (recorded first (by simp))
      have belowRound : first.2 < ledger.round :=
        above.2.trans_le (sound.shape.bounded _ (List.mem_map_of_mem successorLive)).1
      refine ⟨⟨?_, fun cluster member => ?_, fun cluster member => ?_, sound.increasing,
        fun estimate member => ?_, ?_⟩, ?_, Or.inr ⟨?_, rate, round, ?_⟩⟩
      · have dropped := sound.shape.dropped belowRound
        rw [List.dropWhile_map] at dropped
        rw [sameOldest]
        exact dropped
      · exact sound.nonempty cluster ((List.dropWhile_sublist _).subset member)
      · exact sound.seen cluster ((List.dropWhile_sublist _).subset member)
      · rw [sameOldest]
        have place : EstimatedBefore estimate first ∨ estimate = first ∨
            EstimatedBefore first estimate := by
          rcases List.mem_append.mp (sameEstimates ▸ member) with old | young
          · exact Or.inl (increasing.2.2 estimate old first (by simp))
          · exact Or.inr ((List.mem_cons.mp young).imp_right (increasing.2.1.1 estimate))
        rcases place with earlier | rfl | later
        · exact ⟨successor, survives successorLive above.2, successorStamped, earlier.trans above⟩
        · exact ⟨successor, survives successorLive above.2, successorStamped, above⟩
        · obtain ⟨cluster, found, stamped, below⟩ := sound.succeeded estimate member
          exact ⟨cluster, survives found (later.trans below).2, stamped, below⟩
      · refine ⟨past ++ [first], rest, by simp [sameEstimates], rfl, Or.inr ?_,
          fun estimate member => ?_⟩
        · rw [← waitingLength, List.length_cons]
        · obtain ⟨cluster, found, rfl⟩ := present estimate (by simp [member])
          rw [sameOldest]
          exact ⟨cluster, survives found (increasing.2.1.1 _ member).2, rfl⟩
      · rw [List.length_map]
        simp only [List.length_cons] at waitingLength
        omega
      · rw [sameEstimates, List.length_append, waitingLength]
        omega
      · rw [sameRefs, sameEstimates, List.rtake, List.length_append, waitingLength,
          Nat.add_sub_cancel, List.drop_left]

end Sound

end StupidSimple.Bbr
