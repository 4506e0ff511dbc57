import StupidSimple.Bbr.LedgerInvariant
import StupidSimple.Library.LinkedSegment

/-!
Owns the refinement from the sender to the ledger. `Represents` relates the
heap, the links and `connection_info_` to the list of live clusters; each
member function of the sender has one lemma that gives its result and the step
of the ledger it makes. `exists_step` is the simulation: on a sound ledger every
event is enabled, so no member function touches a freed cluster.
-/

namespace StupidSimple.Bbr

open StupidSimple.Library

variable {Bandwidth Filter : Type}

/-- A cluster object with its links. -/
def clusterNode (links : Neighbours) (cluster : SentClusterInfo Bandwidth) :
    SentClusterInfo Bandwidth :=
  { cluster with prev := links.prev, next := links.next }

section Node

variable (links : Neighbours) (cluster : SentClusterInfo Bandwidth)

@[simp] theorem clusterId_clusterNode : (clusterNode links cluster).clusterId = cluster.clusterId :=
  rfl

@[simp] theorem prev_clusterNode : (clusterNode links cluster).prev = links.prev := rfl

@[simp] theorem packetInfos_clusterNode :
    (clusterNode links cluster).packetInfos = cluster.packetInfos := rfl

@[simp] theorem noSample_clusterNode :
    (clusterNode links cluster).noSample ↔ cluster.noSample := Iff.rfl

@[simp] theorem sample_clusterNode [LinearOrder Bandwidth] (platform : Platform Bandwidth Filter) :
    (clusterNode links cluster).sample platform = cluster.sample platform := rfl

theorem creditAck_clusterNode (headSeq seq : Nat) (now : QuicTime) :
    (clusterNode links cluster).creditAck headSeq seq now =
      clusterNode links (cluster.creditAck headSeq seq now) := by
  unfold SentClusterInfo.creditAck
  split
  · simp only [packetInfos_clusterNode]
    cases cluster.packetInfos[(seq - headSeq) % 2 ^ 32]? <;> rfl
  · rfl

end Node

/-- The heap holds exactly these clusters, linked in this order, and
`connection_info_` indexes them; no other object is live. -/
structure Represents (heap : Heap (SentClusterInfo Bandwidth))
    (connectionInfo : OrderedMap Nat ClusterRef) (clusters : List (LiveCluster Bandwidth)) :
    Prop where
  linked : Segment clusterNode heap none clusters none
  complete : ∀ ref, heap.read ref ≠ none → ref ∈ clusters.map Prod.fst
  indexed : connectionInfo.entries = clusters.map fun cluster => (cluster.2.clusterId, cluster.1)

/-- The ledger of a sender whose live clusters are `clusters`. -/
def ledgerOf (sender : MyBbrSender Bandwidth Filter) (clusters : List (LiveCluster Bandwidth)) :
    Ledger Bandwidth where
  mode := sender.mode
  round := sender.roundTripCount
  fresh := sender.heap.next
  clusters := clusters
  rounds := sender.seqRoundMap
  ackedClusters := sender.ackedClusters
  lastAck := sender.lastAckSeq

namespace Represents

variable {heap : Heap (SentClusterInfo Bandwidth)} {connectionInfo : OrderedMap Nat ClusterRef}
  {clusters : List (LiveCluster Bandwidth)} {next : Nat} {estimates : Estimates}

theorem find?_eq_some (represents : Represents heap connectionInfo clusters) {round : Nat}
    {ref : ClusterRef} :
    connectionInfo.find? round = some ref ↔
      ∃ cluster, (ref, cluster) ∈ clusters ∧ cluster.clusterId = round := by
  rw [OrderedMap.find?_eq_some, represents.indexed, List.mem_map]
  constructor
  · rintro ⟨⟨other, cluster⟩, live, same⟩
    obtain ⟨sameId, rfl⟩ := Prod.mk.inj same
    exact ⟨cluster, live, sameId⟩
  · rintro ⟨cluster, live, sameId⟩
    exact ⟨_, live, by rw [sameId]⟩

theorem find?_eq_none (represents : Represents heap connectionInfo clusters) {round : Nat} :
    connectionInfo.find? round = none ↔ ∀ cluster ∈ clusters, cluster.2.clusterId ≠ round := by
  rw [OrderedMap.find?_eq_none, represents.indexed, List.forall_mem_map]

/-- An update of one object that keeps its links and its id. -/
theorem modify {before behind : List (LiveCluster Bandwidth)} {ref : ClusterRef}
    {cluster : SentClusterInfo Bandwidth}
    (represents : Represents heap connectionInfo (before ++ (ref, cluster) :: behind))
    (distinct : ((before ++ (ref, cluster) :: behind).map Prod.fst).Nodup)
    (update : SentClusterInfo Bandwidth → SentClusterInfo Bandwidth)
    (written : SentClusterInfo Bandwidth)
    (updated : ∀ links, update (clusterNode links cluster) = clusterNode links written)
    (sameId : written.clusterId = cluster.clusterId) :
    ∃ after, heap.modify ref update = some after ∧ after.next = heap.next ∧
      Represents after connectionInfo (before ++ (ref, written) :: behind) := by
  obtain ⟨after, modified, sameNext, live, linked⟩ :=
    represents.linked.modify distinct update written updated
  refine ⟨after, modified, sameNext, linked, fun other present => ?_, ?_⟩
  · simpa using represents.complete other (live other present)
  · simpa [sameId] using represents.indexed

theorem last_eq (represents : Represents heap connectionInfo clusters) :
    connectionInfo.last?.map Prod.snd = backRef none clusters := by
  rw [OrderedMap.last?, represents.indexed, List.getLast?_map, Option.map_map, backRef,
    Option.or_none]
  rfl

end Represents

namespace MyBbrSender

variable {clusters : List (LiveCluster Bandwidth)} {next : Nat} {estimates : Estimates}

section Packets

variable (platform : Platform Bandwidth Filter) (sender : MyBbrSender Bandwidth Filter)

/-! ### Packets -/

/-- The cluster of the current round can only be the newest one. -/
theorem newest_of_current {ledger : Ledger Bandwidth} {ref : ClusterRef}
    {cluster : SentClusterInfo Bandwidth} (sound : Sound next estimates ledger)
    (live : (ref, cluster) ∈ ledger.clusters) (current : cluster.clusterId = ledger.round) :
    ∃ front, ledger.clusters = front ++ [(ref, cluster)] := by
  obtain ⟨before, behind, split⟩ := List.append_of_mem live
  have shape := sound.shape
  rw [split] at shape
  cases behind with
  | nil => exact ⟨before, split⟩
  | cons younger rest =>
      have above := (shape.around.2 younger (by simp)).id
      have below := (shape.bounded (outlineOf younger) (by simp)).1
      simp only [outlineOf] at above below
      omega

theorem addPacketInfoSampler_simulates
    (represents : Represents sender.heap sender.connectionInfo clusters)
    (sound : Sound next estimates (ledgerOf sender clusters)) (now : QuicTime)
    (number bytes : Nat) :
    ∃ after front newest fresh,
      sender.addPacketInfoSampler platform now number bytes =
        some (after, [.clusterPacketSent newest.1]) ∧
      (ledgerOf sender clusters).Opens platform.zero front newest fresh ∧
      Represents after.heap after.connectionInfo
        (front ++ [(newest.1, newest.2.onPacketSent now number bytes)]) ∧
      ledgerOf after (front ++ [(newest.1, newest.2.onPacketSent now number bytes)]) =
        { ledgerOf sender clusters with
          fresh := fresh
          clusters := front ++ [(newest.1, newest.2.onPacketSent now number bytes)]
          rounds := sender.seqRoundMap.insert number sender.roundTripCount } := by
  cases found : sender.connectionInfo.find? sender.roundTripCount with
  | some ref =>
      obtain ⟨cluster, live, current⟩ := represents.find?_eq_some.mp found
      obtain ⟨front, split⟩ := newest_of_current sound live current
      obtain rfl : clusters = front ++ [(ref, cluster)] := split
      obtain ⟨written, modified, sameNext, recorded⟩ := represents.modify sound.refs
        (SentClusterInfo.onPacketSent now number bytes) (cluster.onPacketSent now number bytes)
        (fun _ => rfl) rfl
      refine ⟨{ sender with
          heap := written
          seqRoundMap := sender.seqRoundMap.insert number sender.roundTripCount },
        front, (ref, cluster), sender.heap.next, ?_, .current rfl current, recorded, ?_⟩
      · simp only [addPacketInfoSampler, found, Option.bind_eq_bind, Option.bind_some, modified]
      · simp only [ledgerOf, sameNext]
  | none =>
      have others := represents.find?_eq_none.mp found
      have older : ∀ cluster ∈ clusters, cluster.2.clusterId < sender.roundTripCount := by
        intro cluster live
        exact lt_of_le_of_ne (sound.shape.bounded _ (List.mem_map_of_mem live)).1 (others cluster live)
      let opened := SentClusterInfo.create sender.roundTripCount platform.zero
      obtain ⟨allocated, linking, allocatedNext, live, extended⟩ :=
        represents.linked.link_last sound.refs opened
          (SentClusterInfo.setNext (some sender.heap.next)) fun _ _ => rfl
      have opens : (ledgerOf sender clusters).Opens platform.zero clusters
          (sender.heap.next, opened) (sender.heap.next + 1) := .created older
      have extendedRepresents : Represents allocated
          (sender.connectionInfo.insert sender.roundTripCount sender.heap.next)
          (clusters ++ [(sender.heap.next, opened)]) := by
        refine ⟨extended, fun other present => ?_, ?_⟩
        · rw [List.map_append, List.mem_append]
          exact (live other present).imp (represents.complete other) (by simp)
        · have above : ∀ entry ∈ sender.connectionInfo.entries,
              entry.1 < sender.roundTripCount := by
            rw [represents.indexed, List.forall_mem_map]
            exact older
          rw [OrderedMap.entries_insert_of_lt above, represents.indexed, List.map_append]
          rfl
      obtain ⟨written, modified, writtenNext, recorded⟩ := extendedRepresents.modify
        (opens.shape sound.shape).1.live_refs
        (SentClusterInfo.onPacketSent now number bytes) (opened.onPacketSent now number bytes)
        (fun _ => rfl) rfl
      refine ⟨{ sender with
          heap := written
          connectionInfo := sender.connectionInfo.insert sender.roundTripCount sender.heap.next
          seqRoundMap := sender.seqRoundMap.insert number sender.roundTripCount },
        clusters, (sender.heap.next, opened), sender.heap.next + 1, ?_, opens, recorded, ?_⟩
      · simp only [addPacketInfoSampler, found, represents.last_eq, Heap.alloc_fst,
          Option.bind_eq_bind]
        cases last : backRef none clusters with
        | none =>
            rw [last] at linking
            obtain rfl := Option.some.inj linking
            exact congrArg (Option.bind · _) modified
        | some ref =>
            rw [last] at linking
            exact (congrArg (Option.bind · _) linking).trans (congrArg (Option.bind · _) modified)
      · simp only [ledgerOf, writtenNext, allocatedNext]

/-! ### Deletions -/

theorem clusterInfoClear_simulates
    (represents : Represents sender.heap sender.connectionInfo clusters)
    (distinct : (clusters.map Prod.fst).Nodup) :
    ∃ after, sender.clusterInfoClear platform = some after ∧
      Represents after.heap after.connectionInfo [] ∧
      ledgerOf after [] =
        { ledgerOf sender clusters with
          clusters := []
          rounds := OrderedMap.empty
          ackedClusters := [] } := by
  have refs : sender.connectionInfo.entries.map Prod.snd = clusters.map Prod.fst := by
    rw [represents.indexed, List.map_map]
    rfl
  have live : ∀ entry ∈ sender.connectionInfo.entries,
      ∃ object, sender.heap.read entry.2 = some object := by
    rw [represents.indexed, List.forall_mem_map]
    intro cluster member
    obtain ⟨links, found⟩ := represents.linked.read_of_mem member
    exact ⟨_, found⟩
  obtain ⟨freed, freeing, sameNext, left⟩ :=
    Heap.exists_free_all Prod.snd (refs ▸ distinct) live
  have empty : ∀ ref, freed.read ref ≠ none → ref ∈ [] := by
    intro ref present
    obtain ⟨liveBefore, notFreed⟩ := left ref present
    obtain ⟨entry, member, same⟩ := List.mem_map.mp (refs ▸ represents.complete ref liveBefore)
    exact absurd same.symm (notFreed entry member)
  have cleared : sender.clusterInfoClear platform = some
      { sender with
        maxBandwidth := platform.reset sender.maxBandwidth platform.zero 0
        avergaeBandwidth := platform.reset sender.avergaeBandwidth platform.zero 0
        seqRoundMap := OrderedMap.empty
        ackedClusters := []
        averageRound := 0
        heap := freed
        connectionInfo := OrderedMap.empty } := by
    simp only [clusterInfoClear, freeing, Option.bind_eq_bind, Option.bind_some]
  exact ⟨_, cleared, ⟨Segment.nil, empty, rfl⟩, by simp only [ledgerOf, sameNext]⟩

/-- The loop of `RemoveClusterLE` unlinks and deletes a prefix of the list. -/
theorem removeCluster_prefix {heap : Heap (SentClusterInfo Bandwidth)}
    {gone kept : List (LiveCluster Bandwidth)}
    (linked : Segment clusterNode heap none (gone ++ kept) none)
    (distinct : ((gone ++ kept).map Prod.fst).Nodup) :
    ∃ after, (gone.map fun cluster => (cluster.2.clusterId, cluster.1)).foldlM removeCluster heap =
        some after ∧
      after.next = heap.next ∧
      (∀ other, after.read other ≠ none → heap.read other ≠ none ∧ other ∉ gone.map Prod.fst) ∧
      Segment clusterNode after none kept none := by
  induction gone generalizing heap with
  | nil => exact ⟨heap, rfl, rfl, fun _ live => ⟨live, by simp⟩, linked⟩
  | cons first rest inductionHypothesis =>
      obtain ⟨middle, unlinking, middleNext, middleLive, middleLinked⟩ := linked.unlink_first distinct
        (SentClusterInfo.setPrev none) fun _ _ => rfl
      rw [List.cons_append, List.map_cons, List.nodup_cons] at distinct
      obtain ⟨after, removing, sameNext, afterLive, afterLinked⟩ :=
        inductionHypothesis middleLinked distinct.2
      have removed : removeCluster heap (first.2.clusterId, first.1) = some middle := by
        simp only [removeCluster, linked.1, Option.bind_eq_bind, Option.bind_some, clusterNode]
        cases next : frontRef (rest.append kept) none <;> rw [next] at unlinking <;> exact unlinking
      refine ⟨after, ?_, sameNext.trans middleNext, fun other present => ?_, afterLinked⟩
      · rw [List.map_cons, List.foldlM_cons, removed]
        exact removing
      · obtain ⟨presentMiddle, notRest⟩ := afterLive other present
        obtain ⟨presentBefore, notFirst⟩ := middleLive other presentMiddle
        exact ⟨presentBefore, by simp_all⟩

theorem removeClusterLE_simulates
    (represents : Represents sender.heap sender.connectionInfo clusters)
    (distinct : (clusters.map Prod.fst).Nodup) (round : Nat) :
    ∃ after, sender.removeClusterLE round = some after ∧
      Represents after.heap after.connectionInfo
        (clusters.dropWhile fun cluster => cluster.2.clusterId ≤ round) ∧
      ∀ rest, ledgerOf after rest = { ledgerOf sender clusters with clusters := rest } := by
  let within := fun cluster : LiveCluster Bandwidth => decide (cluster.2.clusterId ≤ round)
  have split : clusters.takeWhile within ++ clusters.dropWhile within = clusters :=
    List.takeWhile_append_dropWhile
  have linked := represents.linked
  rw [← split] at linked distinct
  obtain ⟨removed, removing, sameNext, live, keptLinked⟩ := removeCluster_prefix linked distinct
  have taken : sender.connectionInfo.takeLE round =
      (clusters.takeWhile within).map fun cluster => (cluster.2.clusterId, cluster.1) := by
    rw [OrderedMap.takeLE, represents.indexed, List.takeWhile_map]
    rfl
  have erased : sender.removeClusterLE round = some
      { sender with heap := removed, connectionInfo := sender.connectionInfo.eraseLE round } := by
    simp only [removeClusterLE, taken, removing, Option.bind_eq_bind, Option.bind_some]
  refine ⟨_, erased, ⟨keptLinked, fun ref present => ?_, ?_⟩,
    fun rest => by simp only [ledgerOf, sameNext]⟩
  · obtain ⟨liveBefore, notGone⟩ := live ref present
    have listed := represents.complete ref liveBefore
    rw [← split, List.map_append, List.mem_append] at listed
    exact listed.resolve_left notGone
  · simp only [OrderedMap.eraseLE, represents.indexed, List.dropWhile_map]
    rfl

end Packets

/-! ### Acks -/

theorem accumulate_all (heap : Heap (SentClusterInfo Bandwidth)) (refs : List ClusterRef)
    (live : ∀ ref ∈ refs, ∃ cluster, heap.read ref = some cluster) (totals : RateTotals) :
    ∃ final, refs.foldlM (accumulate heap) totals = some final := by
  induction refs generalizing totals with
  | nil => exact ⟨totals, rfl⟩
  | cons first rest inductionHypothesis =>
      obtain ⟨cluster, found⟩ := live first (by simp)
      obtain ⟨next, added⟩ : ∃ next, accumulate heap totals first = some next := by
        simp [accumulate, found]
      obtain ⟨final, summed⟩ := inductionHypothesis (fun ref member => live ref (by simp [member])) next
      exact ⟨final, by rw [List.foldlM_cons, added]; exact summed⟩

section Acks

variable [LinearOrder Bandwidth] (platform : Platform Bandwidth Filter)
  (sender : MyBbrSender Bandwidth Filter)

theorem triggerBandwidthEstimate_simulates {front behind : List (LiveCluster Bandwidth)}
    {ref : ClusterRef} {cluster : SentClusterInfo Bandwidth}
    (represents : Represents sender.heap sender.connectionInfo (front ++ (ref, cluster) :: behind))
    (distinct : ((front ++ (ref, cluster) :: behind).map Prod.fst).Nodup) :
    ∃ after calls estimated,
      sender.triggerBandwidthEstimate platform ref = some (after, calls) ∧
      Ledger.Triggered platform (front ++ [(ref, cluster)]) estimated calls ∧
      (¬cluster.noSample → platform.zero < cluster.sample platform → calls ≠ []) ∧
      Represents after.heap after.connectionInfo (estimated ++ behind) ∧
      ∀ rest, ledgerOf after rest =
        { ledgerOf sender rest with
          ackedClusters := sender.ackedClusters ++ (estimatesOf calls).map Prod.fst } := by
  have stored := represents.linked.read_middle
  by_cases unsampled : cluster.noSample
  · refine ⟨sender, [], _, ?_, .silent, fun sampled => (sampled unsampled).elim, ?_, fun rest => ?_⟩
    · simp only [triggerBandwidthEstimate, stored, Option.bind_eq_bind, Option.bind_some,
        noSample_clusterNode, if_pos unsampled]
    · rw [List.append_assoc]
      exact represents
    · simp [ledgerOf, estimatesOf]
  · obtain ⟨heap, modified, sameNext, written⟩ := represents.modify distinct
      (fun object => { object with bw := cluster.sample platform })
      { cluster with bw := cluster.sample platform } (fun _ => rfl) rfl
    have relinked : Represents heap sender.connectionInfo
        ((front ++ [(ref, { cluster with bw := cluster.sample platform })]) ++ behind) := by
      rw [List.append_assoc]
      exact written
    by_cases positive : platform.zero < cluster.sample platform
    · have entered : sender.triggerBandwidthEstimate platform ref =
          some (onEstimateBandwidth platform ref cluster.clusterId (cluster.sample platform)
            { sender with heap := heap }) := by
        simp only [triggerBandwidthEstimate, stored, Option.bind_eq_bind, Option.bind_some,
          noSample_clusterNode, if_neg unsampled, sample_clusterNode, clusterId_clusterNode,
          modified]
        exact if_pos positive
      refine ⟨_, _, _, entered, .estimated unsampled positive,
        fun _ _ => List.cons_ne_nil _ _, relinked, fun rest => ?_⟩
      simp [ledgerOf, estimatesOf, sameNext]
    · have silent : sender.triggerBandwidthEstimate platform ref =
          some ({ sender with heap := heap }, []) := by
        simp only [triggerBandwidthEstimate, stored, Option.bind_eq_bind, Option.bind_some,
          noSample_clusterNode, if_neg unsampled, sample_clusterNode, modified]
        exact if_neg positive
      refine ⟨_, _, _, silent, .stored _, fun _ above => (positive above).elim, relinked,
        fun rest => ?_⟩
      simp [ledgerOf, estimatesOf, sameNext]

/-- The time stamp of a first ack. -/
def stampFirst (now : QuicTime) (cluster : SentClusterInfo Bandwidth) :
    SentClusterInfo Bandwidth :=
  { cluster with firstAckTs := if cluster.firstAckTs = 0 then now else cluster.firstAckTs }

theorem clusterFirstAck_simulates {before behind : List (LiveCluster Bandwidth)}
    {ref : ClusterRef} {cluster : SentClusterInfo Bandwidth}
    (represents : Represents sender.heap sender.connectionInfo (before ++ (ref, cluster) :: behind))
    (distinct : ((before ++ (ref, cluster) :: behind).map Prod.fst).Nodup) (now : QuicTime)
    (next : Option ClusterRef) :
    ∃ after calls estimated,
      sender.clusterFirstAck platform ref (clusterNode ⟨backRef none before, next⟩ cluster) now =
        some (after, calls) ∧
      Ledger.Triggered platform before estimated calls ∧
      (calls ≠ [] → cluster.firstAckTs = 0) ∧
      (cluster.firstAckTs = 0 → Ledger.Samples platform before → calls ≠ []) ∧
      Represents after.heap after.connectionInfo
        (estimated ++ (ref, stampFirst now cluster) :: behind) ∧
      ∀ rest, ledgerOf after rest =
        { ledgerOf sender rest with
          ackedClusters := sender.ackedClusters ++ (estimatesOf calls).map Prod.fst } := by
  by_cases first : cluster.firstAckTs = 0
  · obtain ⟨heap, modified, sameNext, stamped⟩ := represents.modify distinct
      (fun object => { object with firstAckTs := now }) (stampFirst now cluster)
      (fun _ => by simp only [stampFirst, if_pos first]; rfl) rfl
    have entered : sender.clusterFirstAck platform ref
          (clusterNode ⟨backRef none before, next⟩ cluster) now =
        (backRef none before).elim (some ({ sender with heap := heap }, [])) fun prev =>
          triggerBandwidthEstimate platform prev { sender with heap := heap } := by
      rw [clusterFirstAck, if_pos (by exact first), modified]
      cases backRef none before with
      | none => rfl
      | some prev => rfl
    rw [entered]
    rcases List.eq_nil_or_concat before with rfl | ⟨front, ⟨prev, data⟩, rfl⟩
    · have unsampled : ¬Ledger.Samples platform ([] : List (LiveCluster Bandwidth)) := by
        rintro ⟨front, newest, split, _⟩
        simp at split
      refine ⟨_, _, _, rfl, .silent, fun _ => first, fun _ sampled => (unsampled sampled).elim,
        stamped, fun rest => ?_⟩
      simp [ledgerOf, estimatesOf, sameNext]
    · rw [List.concat_eq_append] at stamped distinct ⊢
      rw [backRef_concat]
      rw [List.append_assoc, List.singleton_append] at stamped distinct
      have stampedDistinct :
          ((front ++ (prev, data) :: (ref, stampFirst now cluster) :: behind).map
            Prod.fst).Nodup := by
        simpa using distinct
      obtain ⟨after, calls, estimated, triggering, triggered, due, estimatedRepresents,
        sameLedger⟩ :=
        triggerBandwidthEstimate_simulates platform { sender with heap := heap } stamped
          stampedDistinct
      refine ⟨after, calls, estimated, triggering, triggered, fun _ => first, ?_,
        estimatedRepresents, fun rest => ?_⟩
      · rintro _ ⟨others, newest, split, sampled, positive⟩
        obtain ⟨_, sameNewest⟩ := List.append_inj' split rfl
        cases sameNewest
        exact due sampled positive
      · rw [sameLedger]
        simp only [ledgerOf, sameNext]
  · refine ⟨sender, [], before, ?_, .silent, fun absurd => (absurd rfl).elim,
      fun unacked => (first unacked).elim, ?_, fun rest => ?_⟩
    · rw [clusterFirstAck, if_neg (by exact first)]
    · simpa only [stampFirst, if_neg first] using represents
    · simp [ledgerOf, estimatesOf]

theorem clusterOnAck_simulates {before behind : List (LiveCluster Bandwidth)}
    {ref : ClusterRef} {cluster : SentClusterInfo Bandwidth}
    (represents : Represents sender.heap sender.connectionInfo (before ++ (ref, cluster) :: behind))
    (distinct : ((before ++ (ref, cluster) :: behind).map Prod.fst).Nodup)
    (nonempty : cluster.numbers ≠ []) (seq : Nat) (now : QuicTime) :
    ∃ after calls estimated,
      sender.clusterOnAck platform ref seq now = some (after, calls) ∧
      Ledger.Triggered platform before estimated calls ∧
      (calls ≠ [] → cluster.firstAckTs = 0) ∧
      (cluster.firstAckTs = 0 → Ledger.Samples platform before → calls ≠ []) ∧
      Represents after.heap after.connectionInfo
        (estimated ++ (ref, cluster.acked now seq) :: behind) ∧
      ∀ rest, ledgerOf after rest =
        { ledgerOf sender rest with
          ackedClusters := sender.ackedClusters ++ (estimatesOf calls).map Prod.fst } := by
  obtain ⟨head, packets, split⟩ : ∃ head packets, cluster.packetInfos = head :: packets := by
    cases found : cluster.packetInfos with
    | nil => simp [SentClusterInfo.numbers, found] at nonempty
    | cons head packets => exact ⟨head, packets, rfl⟩
  obtain ⟨middle, calls, estimated, stamping, triggered, firstOnly, due, stamped, sameLedger⟩ :=
    clusterFirstAck_simulates platform sender represents distinct now (frontRef behind none)
  have sameRefs : ((estimated ++ (ref, stampFirst now cluster) :: behind).map Prod.fst).Nodup := by
    rw [List.map_append, triggered.refs, ← List.map_append]
    simpa using distinct
  obtain ⟨heap, modified, sameNext, written⟩ := stamped.modify sameRefs
    (fun object => SentClusterInfo.creditAck head.seq seq now { object with lastAckTs := now })
    (cluster.acked now seq) (fun links => by
      have headNumber : cluster.numbers.headD 0 = head.seq := by
        simp [SentClusterInfo.numbers, split]
      rw [SentClusterInfo.acked, headNumber]
      exact creditAck_clusterNode links (cluster.stampAck now) head.seq seq now)
    (by simp [stampFirst])
  refine ⟨{ middle with heap := heap }, calls, estimated, ?_, triggered, firstOnly, due,
    written, fun rest => ?_⟩
  · simp only [clusterOnAck, represents.linked.read_middle, stamping, packetInfos_clusterNode, split,
      List.head?_cons, modified, Option.bind_eq_bind, Option.bind_some]
  · rw [← sameLedger]
    simp only [ledgerOf, sameNext]

theorem creditAckedPacket_simulates
    (represents : Represents sender.heap sender.connectionInfo clusters) {lastAck : Nat}
    (sound : Sound next estimates { ledgerOf sender clusters with lastAck := lastAck })
    (now : QuicTime) :
    ∃ after calls left,
      sender.creditAckedPacket platform now sender.lastAckSeq = some (after, calls) ∧
      Represents after.heap after.connectionInfo left ∧
      Ledger.Credited platform now sender.lastAckSeq
        { ledgerOf sender clusters with lastAck := lastAck } (ledgerOf after left) calls := by
  cases located : sender.seqRoundMap.find? sender.lastAckSeq with
  | none =>
      exact ⟨sender, [], clusters, by simp only [creditAckedPacket, located], represents,
        .unknown located⟩
  | some round =>
      let erased := { sender with seqRoundMap := sender.seqRoundMap.erase sender.lastAckSeq }
      cases found : sender.connectionInfo.find? round with
      | none =>
          exact ⟨erased, [], clusters, by simp only [creditAckedPacket, located, found, erased],
            represents, .removed located (represents.find?_eq_none.mp found)⟩
      | some ref =>
          obtain ⟨cluster, live, rfl⟩ := represents.find?_eq_some.mp found
          obtain ⟨before, behind, rfl⟩ := List.append_of_mem live
          obtain ⟨after, calls, estimated, acking, triggered, firstOnly, due, linked, sameLedger⟩ :=
            clusterOnAck_simulates platform erased represents sound.refs (sound.nonempty _ live)
              sender.lastAckSeq now
          have credited : Ledger.Credited platform now sender.lastAckSeq
              { ledgerOf sender (before ++ (ref, cluster) :: behind) with lastAck := lastAck } _
              calls := .credited located rfl triggered firstOnly due
          refine ⟨after, calls, _, ?_, linked, ?_⟩
          · simp only [creditAckedPacket, located, found]
            exact acking
          · rw [sameLedger]
            exact credited

theorem updateAverageBandwidth_simulates
    (represents : Represents sender.heap sender.connectionInfo clusters)
    (sound : Sound next estimates (ledgerOf sender clusters))
    (bounded : sender.ackedClusters.length ≤ kAverageAckRateWindowSize) :
    ∃ after calls left,
      sender.updateAverageBandwidth platform = some (after, calls) ∧
      Represents after.heap after.connectionInfo left ∧
      (ledgerOf sender clusters).Averaged (ledgerOf after left) calls := by
  by_cases full : kAverageAckRateWindowSize ≤ sender.ackedClusters.length
  · have exactly := le_antisymm bounded full
    have listed : ∀ ref ∈ sender.ackedClusters, ∃ cluster ∈ clusters, cluster.1 = ref := by
      obtain ⟨_, waiting, -, sameRefs, -, present⟩ := sound.recent
      intro ref member
      have waits : ref ∈ waiting.map Prod.fst := sameRefs ▸ member
      obtain ⟨estimate, inWaiting, rfl⟩ := List.mem_map.mp waits
      obtain ⟨cluster, live, rfl⟩ := present estimate inWaiting
      exact ⟨cluster, live, rfl⟩
    obtain ⟨totals, summed⟩ := accumulate_all sender.heap sender.ackedClusters (fun ref member => by
      obtain ⟨cluster, live, rfl⟩ := listed ref member
      obtain ⟨links, found⟩ := represents.linked.read_of_mem live
      exact ⟨_, found⟩) ⟨0, 0, 0, 0, 0⟩
    obtain ⟨first, later, split⟩ : ∃ first later, sender.ackedClusters = first :: later := by
      cases acked : sender.ackedClusters with
      | nil => simp [acked, kAverageAckRateWindowSize] at full
      | cons first later => exact ⟨first, later, rfl⟩
    obtain ⟨oldest, live, rfl⟩ := listed first (by simp [split])
    obtain ⟨links, found⟩ := represents.linked.read_of_mem live
    let round := sender.averageRound + totals.clusterId % kAverageAckRateWindowSize
    let averaged := { sender with
      averageRound := round
      avergaeBandwidth :=
        platform.update sender.avergaeBandwidth (averageRate platform totals sender) round }
    obtain ⟨after, removed, linked, sameLedger⟩ := removeClusterLE_simulates
      { averaged with ackedClusters := later } represents sound.refs oldest.2.clusterId
    have trimmed : dropStale 1 averaged = some after := by
      simp only [dropStale, averaged, split, found, clusterId_clusterNode, Option.bind_eq_bind,
        Option.bind_some]
      simp only [averaged] at removed
      rw [removed]
      rfl
    have entered : sender.updateAverageBandwidth platform = some (after,
        [.averageBandwidth sender.ackedClusters (averageRate platform totals sender) round]) := by
      simp only [updateAverageBandwidth, if_pos full, summed, Option.bind_eq_bind, Option.bind_some]
      have oneStale : sender.ackedClusters.length - (kAverageAckRateWindowSize - 1) = 1 := by
        rw [exactly]
        rfl
      rw [oneStale]
      exact congrArg (Option.bind · _) trimmed
    refine ⟨after, _, _, entered, linked, ?_⟩
    rw [sameLedger]
    exact .trimmed exactly split live _ _
  · exact ⟨sender, [], clusters, by rw [updateAverageBandwidth]; exact if_neg full, represents,
      .waiting (not_le.mp full)⟩

end Acks

/-! ### Modes -/

/-- What a change of times and modes leaves alone. -/
structure KeepsClusters (before after : MyBbrSender Bandwidth Filter) : Prop where
  heap : after.heap = before.heap
  connectionInfo : after.connectionInfo = before.connectionInfo
  seqRoundMap : after.seqRoundMap = before.seqRoundMap
  ackedClusters : after.ackedClusters = before.ackedClusters
  lastAckSeq : after.lastAckSeq = before.lastAckSeq
  round : before.roundTripCount ≤ after.roundTripCount
  mode : before.mode = .probeBw → after.mode = .probeBw

namespace KeepsClusters

variable {before middle after : MyBbrSender Bandwidth Filter}

theorem refl (sender : MyBbrSender Bandwidth Filter) : KeepsClusters sender sender :=
  ⟨rfl, rfl, rfl, rfl, rfl, le_rfl, id⟩

theorem trans (first : KeepsClusters before middle) (second : KeepsClusters middle after) :
    KeepsClusters before after where
  heap := second.heap.trans first.heap
  connectionInfo := second.connectionInfo.trans first.connectionInfo
  seqRoundMap := second.seqRoundMap.trans first.seqRoundMap
  ackedClusters := second.ackedClusters.trans first.ackedClusters
  lastAckSeq := second.lastAckSeq.trans first.lastAckSeq
  round := first.round.trans second.round
  mode := second.mode ∘ first.mode

theorem represents (kept : KeepsClusters before after)
    (represents : Represents before.heap before.connectionInfo clusters) :
    Represents after.heap after.connectionInfo clusters := by
  rw [kept.heap, kept.connectionInfo]
  exact represents

theorem ledger (kept : KeepsClusters before after) :
    ledgerOf after clusters =
      { ledgerOf before clusters with mode := after.mode, round := after.roundTripCount } := by
  simp only [ledgerOf, kept.heap, kept.seqRoundMap, kept.ackedClusters, kept.lastAckSeq]

end KeepsClusters

theorem keeps_updateRtt (sender : MyBbrSender Bandwidth Filter) (now : QuicTime) (number : Nat) :
    KeepsClusters sender (sender.updateRtt now number) := by
  unfold updateRtt
  dsimp only
  repeat' split
  all_goals exact ⟨rfl, rfl, rfl, rfl, rfl, le_rfl, id⟩

theorem keeps_enterProbeBandwidthMode (sender : MyBbrSender Bandwidth Filter) (now : QuicTime)
    (draw : Nat) : KeepsClusters sender (sender.enterProbeBandwidthMode now draw) := by
  unfold enterProbeBandwidthMode
  split
  · exact KeepsClusters.refl sender
  · exact ⟨rfl, rfl, rfl, rfl, rfl, Nat.le_succ _, fun _ => rfl⟩

theorem keeps_exitProbeRtt (sender : MyBbrSender Bandwidth Filter) (now : QuicTime) (draw : Nat) :
    KeepsClusters sender (sender.exitProbeRtt now draw) := by
  have timed : ∀ exitAt recorded, KeepsClusters sender
      { sender with exitProbeRttAt := exitAt, recoredMinRtt := recorded } := fun _ _ =>
    ⟨rfl, rfl, rfl, rfl, rfl, le_rfl, id⟩
  unfold exitProbeRtt
  dsimp only
  repeat' split
  · exact (timed _ 0).trans (keeps_enterProbeBandwidthMode _ now draw)
  · exact timed _ sender.recoredMinRtt
  · exact (timed sender.exitProbeRttAt 0).trans (keeps_enterProbeBandwidthMode _ now draw)
  · exact KeepsClusters.refl sender
  · exact KeepsClusters.refl sender

theorem keeps_calculatePacingRate [LinearOrder Bandwidth] (platform : Platform Bandwidth Filter)
    (sender : MyBbrSender Bandwidth Filter) :
    KeepsClusters sender (sender.calculatePacingRate platform) := by
  unfold calculatePacingRate
  split <;> exact ⟨rfl, rfl, rfl, rfl, rfl, le_rfl, id⟩

theorem keeps_updateGainCyclePhase (sender : MyBbrSender Bandwidth Filter) (now : QuicTime) :
    ∀ clusters, (ledgerOf sender clusters).Advances
      (ledgerOf (sender.updateGainCyclePhase now) clusters) := by
  intro clusters
  unfold updateGainCyclePhase
  split
  · exact .next
  · exact .stay

section Steps

variable (platform : Platform Bandwidth Filter) (sender : MyBbrSender Bandwidth Filter)

theorem maybeEnterOrExitProbeRtt_simulates
    (represents : Represents sender.heap sender.connectionInfo clusters)
    (distinct : (clusters.map Prod.fst).Nodup) (now : QuicTime) (minRttExpired : Bool)
    (draw : Nat) :
    ∃ after calls left,
      sender.maybeEnterOrExitProbeRtt platform now minRttExpired draw = some (after, calls) ∧
      Represents after.heap after.connectionInfo left ∧
      (ledgerOf sender clusters).Moded (ledgerOf after left) calls := by
  by_cases enters : minRttExpired ∧ sender.mode ≠ .probeRtt
  · obtain ⟨cleared, clearing, empty, sameLedger⟩ := clusterInfoClear_simulates platform
      { sender with
        mode := .probeRtt
        pacingGain := 1
        exitProbeRttAt := 0
        roundTripCount := 0
        recoredMinRtt := sender.minRtt
        minRtt := 0
        seqTsMap := OrderedMap.empty } represents distinct
    have kept := keeps_exitProbeRtt cleared now draw
    refine ⟨cleared.exitProbeRtt now draw, [.clusterInfoClear], [], ?_, kept.represents empty, ?_⟩
    · rw [maybeEnterOrExitProbeRtt, if_pos enters]
      exact congrArg (Option.bind · _) clearing
    · rw [kept.ledger, sameLedger]
      exact .cleared _ _
  · have kept := keeps_exitProbeRtt sender now draw
    refine ⟨sender.exitProbeRtt now draw, [], clusters, ?_, kept.represents represents, ?_⟩
    · rw [maybeEnterOrExitProbeRtt, if_neg enters]
    · rw [kept.ledger]
      exact .kept kept.round kept.mode

/-- `OnPacketSent` is enabled on a sound ledger and makes one of its steps. -/
theorem onPacketSent_simulates [LinearOrder Bandwidth]
    (represents : Represents sender.heap sender.connectionInfo clusters)
    (sound : Sound next estimates (ledgerOf sender clusters)) (time : QuicTime)
    (number bytes : Nat) :
    ∃ after calls left,
      sender.onPacketSent platform time number bytes = some (after, calls) ∧
      Represents after.heap after.connectionInfo left ∧
      (ledgerOf sender clusters).Step platform (.packetSent time number bytes) calls
        (ledgerOf after left) := by
  let stamped := { sender with seqTsMap := sender.seqTsMap.insert number time }
  by_cases probing : sender.mode = .probeBw
  · have advances := keeps_updateGainCyclePhase stamped time clusters
    have sameBooks : (stamped.updateGainCyclePhase time).heap = sender.heap ∧
        (stamped.updateGainCyclePhase time).connectionInfo = sender.connectionInfo := by
      unfold updateGainCyclePhase
      split <;> exact ⟨rfl, rfl⟩
    obtain ⟨after, front, newest, fresh, sampling, opens, linked, sameLedger⟩ :=
      addPacketInfoSampler_simulates platform (stamped.updateGainCyclePhase time)
        (by rw [sameBooks.1, sameBooks.2]; exact represents) (Sound.advances sound advances)
        time number bytes
    refine ⟨after, [.clusterPacketSent newest.1], _, ?_, linked, ?_⟩
    · rw [onPacketSent]
      exact (if_pos probing).trans sampling
    · rw [sameLedger]
      exact .sampled probing advances opens
  · refine ⟨stamped, [], clusters, ?_, represents, .unsampled probing⟩
    rw [onPacketSent]
    exact if_neg probing

/-- `OnAck` is enabled on a sound ledger and makes one of its steps. -/
theorem onAck_simulates [LinearOrder Bandwidth]
    (represents : Represents sender.heap sender.connectionInfo clusters)
    (sound : Sound next estimates (ledgerOf sender clusters))
    (bounded : sender.ackedClusters.length < kAverageAckRateWindowSize) {time : QuicTime}
    (positive : time ≠ 0) (number draw : Nat) :
    ∃ after calls left,
      sender.onAck platform time number draw = some (after, calls) ∧
      Represents after.heap after.connectionInfo left ∧
      (ledgerOf sender clusters).Step platform (.ack time number draw) calls
        (ledgerOf after left) := by
  by_cases old : number ≤ sender.lastAckSeq
  · exact ⟨sender, [], clusters, by rw [onAck]; exact if_pos old, represents, .ignored old⟩
  · have new : sender.lastAckSeq < number := not_le.mp old
    let accepted := { sender with lastAckSeq := number }
    let timed := accepted.updateRtt time number
    let started := if timed.mode = .startUp then timed.enterProbeBandwidthMode time draw else timed
    have keptStarted : KeepsClusters accepted started := by
      refine (keeps_updateRtt accepted time number).trans ?_
      by_cases starting : timed.mode = .startUp
      · simp only [started, if_pos starting]
        exact keeps_enterProbeBandwidthMode timed time draw
      · simp only [started, if_neg starting]
        exact KeepsClusters.refl timed
    obtain ⟨moded, cleared, left, moding, modedRepresents, changed⟩ :=
      maybeEnterOrExitProbeRtt_simulates platform started (keptStarted.represents represents)
        sound.refs time (decide (started.minRttTimestamp + kMinRttExpiry < time)) draw
    let paced := moded.calculatePacingRate platform
    have keptPaced := keeps_calculatePacingRate platform moded
    have modedStep : (ledgerOf sender clusters).Moded
        { ledgerOf paced left with lastAck := sender.lastAckSeq } cleared := by
      rw [keptPaced.ledger]
      rw [keptStarted.ledger] at changed
      exact ((changed.of_later keptStarted.round keptStarted.mode).to_later keptPaced.round
        keptPaced.mode).with_lastAck sender.lastAckSeq
    have pacedNumber : paced.lastAckSeq = number :=
      keptPaced.lastAckSeq.trans (changed.lastAck_eq.trans keptStarted.lastAckSeq)
    have modedSound := sound.moded modedStep
    obtain ⟨credited, estimated, kept, crediting, creditedRepresents, counted⟩ :=
      creditAckedPacket_simulates platform paced (keptPaced.represents modedRepresents) modedSound
        time
    rw [pacedNumber] at crediting counted
    have creditedSound := modedSound.credited new positive counted
    have creditedBounded : credited.ackedClusters.length ≤ kAverageAckRateWindowSize := by
      have fewer : paced.ackedClusters.length ≤ sender.ackedClusters.length := modedStep.length_le
      have oneMore : credited.ackedClusters.length ≤ paced.ackedClusters.length + 1 :=
        counted.length_le
      omega
    obtain ⟨averaged, averages, last, averaging, averagedRepresents, trimmed⟩ :=
      updateAverageBandwidth_simulates platform credited creditedRepresents creditedSound
        creditedBounded
    refine ⟨averaged, cleared ++ estimated ++ averages, last, ?_, averagedRepresents,
      .accepted new modedStep counted trimmed⟩
    rw [onAck]
    refine (if_neg old).trans ?_
    refine (congrArg (Option.bind · _) moding).trans ?_
    refine (congrArg (Option.bind · _) crediting).trans ?_
    exact congrArg (Option.bind · _) averaging

end Steps

end MyBbrSender

end StupidSimple.Bbr
