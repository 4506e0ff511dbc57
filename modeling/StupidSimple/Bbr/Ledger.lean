import Mathlib.Data.List.Pairwise
import StupidSimple.Bbr.Sender

/-!
Owns the ledger: the abstract model of the cluster bookkeeping. A ledger lists
the live clusters, oldest first, and has no pointer between them; what an event
may do to it is the relation `Ledger.Step`.

`Ledger.Sound` is the ordering invariant over packet numbers, cluster ids and
acks, and `Ledger.Sound.step` is its preservation. That the sender simulates
the ledger is `Simulation`.
-/

namespace StupidSimple.Bbr

open StupidSimple.Library

/-- A live cluster: its address and its data. -/
abbrev LiveCluster (Bandwidth : Type) := ClusterRef × SentClusterInfo Bandwidth

namespace SentClusterInfo

variable {Bandwidth : Type}

/-- The numbers of the packets of a cluster, in sending order. -/
def numbers (cluster : SentClusterInfo Bandwidth) : List Nat := cluster.packetInfos.map (·.seq)

/-- The time stamps that `OnAck` writes before it looks for the packet. -/
def stampAck (now : QuicTime) (cluster : SentClusterInfo Bandwidth) : SentClusterInfo Bandwidth :=
  { cluster with
    firstAckTs := if cluster.firstAckTs = 0 then now else cluster.firstAckTs
    lastAckTs := now }

/-- What `OnAck` does to the data of the cluster it is called on. -/
def acked (now : QuicTime) (seq : Nat) (cluster : SentClusterInfo Bandwidth) :
    SentClusterInfo Bandwidth :=
  creditAck (cluster.numbers.headD 0) seq now (cluster.stampAck now)

@[simp] theorem numbers_onPacketSent (now : QuicTime) (seq len : Nat)
    (cluster : SentClusterInfo Bandwidth) :
    (cluster.onPacketSent now seq len).numbers = cluster.numbers ++ [seq] := by
  simp [numbers, onPacketSent]

@[simp] theorem clusterId_onPacketSent (now : QuicTime) (seq len : Nat)
    (cluster : SentClusterInfo Bandwidth) :
    (cluster.onPacketSent now seq len).clusterId = cluster.clusterId := rfl

/-- Crediting an ack writes the ack time of one packet and the byte counter. -/
theorem acked_cases (now : QuicTime) (seq : Nat) (cluster : SentClusterInfo Bandwidth) :
    cluster.acked now seq = cluster.stampAck now ∨
      ∃ offset target, cluster.packetInfos[offset]? = some target ∧
        cluster.acked now seq =
          { cluster.stampAck now with
            packetInfos := cluster.packetInfos.set offset { target with ackTs := now }
            ackedPackets := cluster.ackedPackets + target.len } := by
  unfold acked creditAck
  split
  · cases found : cluster.packetInfos[(seq - cluster.numbers.headD 0) % 2 ^ 32]? with
    | none => exact Or.inl (by simp only [stampAck, found])
    | some target => exact Or.inr ⟨_, target, found, by simp only [stampAck, found]⟩
  · exact Or.inl rfl

private theorem map_set_same {α β : Type*} (view : α → β) (values : List α) (index : Nat)
    {old new : α} (found : values[index]? = some old) (same : view new = view old) :
    (values.set index new).map view = values.map view := by
  rw [List.map_set, same]
  refine List.ext_getElem? fun position => ?_
  rw [List.getElem?_set]
  split
  · next here =>
      subst here
      simp only [List.length_map, List.getElem?_map, found, Option.map_some]
      rw [if_pos (List.getElem?_eq_some_iff.mp found).1]
  · rfl

@[simp] theorem numbers_acked (now : QuicTime) (seq : Nat) (cluster : SentClusterInfo Bandwidth) :
    (cluster.acked now seq).numbers = cluster.numbers := by
  rcases cluster.acked_cases now seq with same | ⟨offset, target, found, same⟩
  · rw [same]
    rfl
  · rw [same]
    exact map_set_same SentPacketInfo.seq cluster.packetInfos offset found rfl

@[simp] theorem clusterId_acked (now : QuicTime) (seq : Nat) (cluster : SentClusterInfo Bandwidth) :
    (cluster.acked now seq).clusterId = cluster.clusterId := by
  rcases cluster.acked_cases now seq with same | ⟨_, _, _, same⟩ <;> rw [same] <;> rfl

theorem firstAckTs_acked (now : QuicTime) (seq : Nat) (cluster : SentClusterInfo Bandwidth) :
    (cluster.acked now seq).firstAckTs =
      if cluster.firstAckTs = 0 then now else cluster.firstAckTs := by
  rcases cluster.acked_cases now seq with same | ⟨_, _, _, same⟩ <;> rw [same] <;> rfl

theorem firstAckTs_acked_ne {now : QuicTime} (positive : now ≠ 0) (seq : Nat)
    (cluster : SentClusterInfo Bandwidth) : (cluster.acked now seq).firstAckTs ≠ 0 := by
  rw [firstAckTs_acked]
  split
  · exact positive
  · assumption

end SentClusterInfo

/-- The clusters that the calls estimate, with their ids. -/
def estimatesOf {Bandwidth : Type} (calls : List (Call Bandwidth)) : List (ClusterRef × Nat) :=
  calls.filterMap fun call =>
    match call with
    | .estimateBandwidth cluster clusterId _ => some (cluster, clusterId)
    | _ => none

/-! ### The ledger and its steps -/

structure Ledger (Bandwidth : Type) where
  mode : Mode
  round : Nat
  /-- The address of the next cluster. -/
  fresh : ClusterRef
  clusters : List (LiveCluster Bandwidth)
  /-- The round of each packet whose ack still counts. -/
  rounds : OrderedMap Nat Nat
  /-- The estimated clusters that wait for an average. -/
  ackedClusters : List ClusterRef
  lastAck : Nat

namespace Ledger

variable {Bandwidth Filter : Type}

/-- A packet leaves in the current round or opens the next one. -/
inductive Advances (ledger : Ledger Bandwidth) : Ledger Bandwidth → Prop
  | stay : ledger.Advances ledger
  | next : ledger.Advances { ledger with round := ledger.round + 1 }

/-- The cluster that takes a packet of the current round: the newest one, or a
new one behind it. -/
inductive Opens (zero : Bandwidth) (ledger : Ledger Bandwidth) :
    List (LiveCluster Bandwidth) → LiveCluster Bandwidth → ClusterRef → Prop
  | current {front : List (LiveCluster Bandwidth)} {newest : LiveCluster Bandwidth}
      (split : ledger.clusters = front ++ [newest])
      (sameRound : newest.2.clusterId = ledger.round) :
      ledger.Opens zero front newest ledger.fresh
  | created (older : ∀ cluster ∈ ledger.clusters, cluster.2.clusterId < ledger.round) :
      ledger.Opens zero ledger.clusters
        (ledger.fresh, SentClusterInfo.create ledger.round zero) (ledger.fresh + 1)

/-- A change of mode on an ack keeps the clusters, or deletes them all. -/
inductive Moded (ledger : Ledger Bandwidth) : Ledger Bandwidth → List (Call Bandwidth) → Prop
  | kept {mode : Mode} {round : Nat} (later : ledger.round ≤ round)
      (probing : ledger.mode = .probeBw → mode = .probeBw) :
      ledger.Moded { ledger with mode := mode, round := round } []
  | cleared (mode : Mode) (round : Nat) :
      ledger.Moded
        { ledger with
          mode := mode
          round := round
          clusters := []
          rounds := OrderedMap.empty
          ackedClusters := [] }
        [.clusterInfoClear]

namespace Moded

variable {ledger after : Ledger Bandwidth} {calls : List (Call Bandwidth)}

/-- A change of mode composes with what happens to mode and round before it. -/
theorem of_later {mode : Mode} {round : Nat} (later : ledger.round ≤ round)
    (probing : ledger.mode = .probeBw → mode = .probeBw)
    (changed : Moded { ledger with mode := mode, round := round } after calls) :
    ledger.Moded after calls := by
  cases changed with
  | kept laterStill probingStill =>
      exact .kept (later.trans laterStill) (probingStill ∘ probing)
  | cleared mode round => exact .cleared mode round

/-- A change of mode composes with what happens to mode and round after it. -/
theorem to_later {mode : Mode} {round : Nat} (changed : ledger.Moded after calls)
    (later : after.round ≤ round) (probing : after.mode = .probeBw → mode = .probeBw) :
    ledger.Moded { after with mode := mode, round := round } calls := by
  cases changed with
  | kept laterStill probingStill =>
      exact .kept (laterStill.trans later) (probing ∘ probingStill)
  | cleared _ _ => exact .cleared mode round

/-- A change of mode does not look at the acked number. -/
theorem with_lastAck (changed : ledger.Moded after calls) (lastAck : Nat) :
    Moded { ledger with lastAck := lastAck } { after with lastAck := lastAck } calls := by
  cases changed with
  | kept later probing => exact .kept later probing
  | cleared mode round => exact .cleared mode round

theorem lastAck_eq (changed : ledger.Moded after calls) : after.lastAck = ledger.lastAck := by
  cases changed <;> rfl

theorem length_le (changed : ledger.Moded after calls) :
    after.ackedClusters.length ≤ ledger.ackedClusters.length := by
  cases changed <;> simp

end Moded

section Acks

variable [LinearOrder Bandwidth] (platform : Platform Bandwidth Filter)

/-- The estimate that the first ack of a cluster may make of the newest of the
clusters before it. -/
inductive Triggered : List (LiveCluster Bandwidth) → List (LiveCluster Bandwidth) →
    List (Call Bandwidth) → Prop
  | silent {before : List (LiveCluster Bandwidth)} : Triggered before before []
  | stored {front : List (LiveCluster Bandwidth)} {ref : ClusterRef}
      {cluster : SentClusterInfo Bandwidth} (bw : Bandwidth) :
      Triggered (front ++ [(ref, cluster)]) (front ++ [(ref, { cluster with bw := bw })]) []
  | estimated {front : List (LiveCluster Bandwidth)} {ref : ClusterRef}
      {cluster : SentClusterInfo Bandwidth} (sampled : ¬cluster.noSample)
      (positive : platform.zero < cluster.sample platform) :
      Triggered (front ++ [(ref, cluster)])
        (front ++ [(ref, { cluster with bw := cluster.sample platform })])
        [.estimateBandwidth ref cluster.clusterId (cluster.sample platform)]

/-- The newest of these clusters has a sample for the estimate. -/
def Samples (before : List (LiveCluster Bandwidth)) : Prop :=
  ∃ front newest, before = front ++ [newest] ∧ ¬newest.2.noSample ∧
    platform.zero < newest.2.sample platform

/-- An accepted ack is credited to the cluster of its round. -/
inductive Credited (time : QuicTime) (number : Nat) (ledger : Ledger Bandwidth) :
    Ledger Bandwidth → List (Call Bandwidth) → Prop
  | unknown (absent : ledger.rounds.find? number = none) :
      Credited time number ledger { ledger with lastAck := number } []
  | removed {round : Nat} (located : ledger.rounds.find? number = some round)
      (absent : ∀ cluster ∈ ledger.clusters, cluster.2.clusterId ≠ round) :
      Credited time number ledger
        { ledger with lastAck := number, rounds := ledger.rounds.erase number } []
  | credited {before after behind : List (LiveCluster Bandwidth)} {ref : ClusterRef}
      {cluster : SentClusterInfo Bandwidth} {calls : List (Call Bandwidth)}
      (located : ledger.rounds.find? number = some cluster.clusterId)
      (split : ledger.clusters = before ++ (ref, cluster) :: behind)
      (triggered : Triggered platform before after calls)
      (firstOnly : calls ≠ [] → cluster.firstAckTs = 0)
      (due : cluster.firstAckTs = 0 → Samples platform before → calls ≠ []) :
      Credited time number ledger
        { ledger with
          lastAck := number
          rounds := ledger.rounds.erase number
          clusters := after ++ (ref, cluster.acked time number) :: behind
          ackedClusters := ledger.ackedClusters ++ (estimatesOf calls).map Prod.fst }
        calls

/-- A full window of estimated clusters is averaged; then its oldest cluster
goes, with every cluster up to it. -/
inductive Averaged (ledger : Ledger Bandwidth) : Ledger Bandwidth → List (Call Bandwidth) → Prop
  | waiting (short : ledger.ackedClusters.length < kAverageAckRateWindowSize) :
      ledger.Averaged ledger []
  | trimmed {oldest : LiveCluster Bandwidth} {later : List ClusterRef}
      (full : ledger.ackedClusters.length = kAverageAckRateWindowSize)
      (split : ledger.ackedClusters = oldest.1 :: later) (live : oldest ∈ ledger.clusters)
      (rate : Bandwidth) (round : Nat) :
      ledger.Averaged
        { ledger with
          ackedClusters := later
          clusters := ledger.clusters.dropWhile fun cluster =>
            cluster.2.clusterId ≤ oldest.2.clusterId }
        [.averageBandwidth ledger.ackedClusters rate round]

/-- One event of a run. -/
inductive Step (ledger : Ledger Bandwidth) :
    Event → List (Call Bandwidth) → Ledger Bandwidth → Prop
  | unsampled {time : QuicTime} {number bytes : Nat} (idle : ledger.mode ≠ .probeBw) :
      Step ledger (.packetSent time number bytes) [] ledger
  | sampled {time : QuicTime} {number bytes : Nat} {advanced : Ledger Bandwidth}
      {front : List (LiveCluster Bandwidth)} {newest : LiveCluster Bandwidth} {fresh : ClusterRef}
      (probing : ledger.mode = .probeBw) (advances : ledger.Advances advanced)
      (opens : advanced.Opens platform.zero front newest fresh) :
      Step ledger (.packetSent time number bytes) [.clusterPacketSent newest.1]
        { advanced with
          fresh := fresh
          clusters := front ++ [(newest.1, newest.2.onPacketSent time number bytes)]
          rounds := advanced.rounds.insert number advanced.round }
  | ignored {time : QuicTime} {number draw : Nat} (old : number ≤ ledger.lastAck) :
      Step ledger (.ack time number draw) [] ledger
  | accepted {time : QuicTime} {number draw : Nat} {moded credited averaged : Ledger Bandwidth}
      {cleared estimated averages : List (Call Bandwidth)} (new : ledger.lastAck < number)
      (changed : ledger.Moded moded cleared)
      (counted : moded.Credited platform time number credited estimated)
      (trimmed : credited.Averaged averaged averages) :
      Step ledger (.ack time number draw) (cleared ++ estimated ++ averages) averaged

end Acks

end Ledger

end StupidSimple.Bbr
