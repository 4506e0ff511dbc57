import Mathlib.Algebra.Order.Ring.Rat
import StupidSimple.Bbr.Cluster
import StupidSimple.Library.Heap
import StupidSimple.Library.Machine
import StupidSimple.Library.OrderedMap

/-!
Owns `MyBbrSender`: its state, every member function, and the machine whose
events are the two calls a pacer makes. The clusters are heap objects that
`connection_info_`, `acked_clusters_` and the links name by address; every
dereference and every `delete` goes through the heap, so a step is `none`
exactly when the code would touch a freed object or read outside a container.

The calls of `OnEstimateBandwidth`, of `ClusterInfoClear`, of the average
filter and of a cluster's `OnPacketSent` are the output of a step, in the order
in which the code makes them.
-/

namespace StupidSimple.Bbr

open StupidSimple.Library

inductive Mode where
  | startUp
  | probeBw
  | probeRtt
deriving DecidableEq, Repr

/-! ### Constants -/

def kPacingGain : List ℚ := [5 / 4, 3 / 4, 1, 1, 1, 1, 1, 1]

/-- The length of the gain cycle. -/
def kGainCycleLength : Nat := kPacingGain.length

/-- The size of the bandwidth filter window, in round-trips. -/
def kBandwidthWindowSize : Nat := kGainCycleLength + 2

/-- The time after which the current `min_rtt` value expires. -/
def kMinRttExpiry : Delta := Delta.fromSeconds 10

/-- The minimum time the connection can spend in `PROBE_RTT` mode. -/
def kProbeRttTime : Delta := Delta.fromMilliseconds 200

def kSimilarMinRttThreshold : ℚ := 9 / 8

def kAverageAckRateWindowSize : Nat := 10

/-! ### State -/

structure MyBbrSender (Bandwidth Filter : Type) where
  minBps : Nat
  startBps : Nat
  maxBps : Nat
  mode : Mode
  roundTripCount : Nat
  /-- The live `SentClusterInfo` objects. -/
  heap : Heap (SentClusterInfo Bandwidth)
  connectionInfo : OrderedMap Nat ClusterRef
  seqRoundMap : OrderedMap Nat Nat
  seqTsMap : OrderedMap Nat QuicTime
  minRtt : Delta
  recoredMinRtt : Delta
  minRttTimestamp : QuicTime
  exitProbeRttAt : QuicTime
  pacingRate : Bandwidth
  pacingGain : ℚ
  cycleCurrentOffset : Nat
  lastCycleStart : QuicTime
  lastAckSeq : Nat
  maxBandwidth : Filter
  avergaeBandwidth : Filter
  averageRound : Nat
  ackedClusters : List ClusterRef

/-- The observable calls of one step. -/
inductive Call (Bandwidth : Type) where
  | clusterPacketSent (cluster : ClusterRef)
  | clusterInfoClear
  | estimateBandwidth (cluster : ClusterRef) (clusterId : Nat) (bw : Bandwidth)
  | averageBandwidth (clusters : List ClusterRef) (rate : Bandwidth) (round : Nat)
deriving DecidableEq, Repr

namespace MyBbrSender

variable {Bandwidth Filter : Type}

/-! ### Round-trip time and modes -/

def updateRtt (now : QuicTime) (packetNumber : Nat) (sender : MyBbrSender Bandwidth Filter) :
    MyBbrSender Bandwidth Filter :=
  let sampled :=
    match sender.seqTsMap.find? packetNumber with
    | none => sender
    | some sentTs =>
        let rtt := now - sentTs
        if sender.minRtt = 0 then { sender with minRtt := rtt, minRttTimestamp := now }
        else
          let lowered :=
            if rtt < sender.minRtt then { sender with minRtt := rtt, minRttTimestamp := now }
            else sender
          if lowered.minRtt < rtt ∧ rtt ≤ lowered.minRtt.scale kSimilarMinRttThreshold then
            { lowered with minRttTimestamp := now }
          else lowered
  { sampled with seqTsMap := sampled.seqTsMap.eraseLE packetNumber }

/-- `draw` is the value of `random_->RandUint64()`. -/
def enterProbeBandwidthMode (now : QuicTime) (draw : Nat) (sender : MyBbrSender Bandwidth Filter) :
    MyBbrSender Bandwidth Filter :=
  if sender.mode = .probeBw then sender
  else
    let drawn := draw % (kGainCycleLength - 1)
    let offset := if 1 ≤ drawn then drawn + 1 else drawn
    { sender with
      mode := .probeBw
      cycleCurrentOffset := offset
      lastCycleStart := now
      pacingGain := kPacingGain.getD offset 0
      roundTripCount := sender.roundTripCount + 1 }

def updateGainCyclePhase (now : QuicTime) (sender : MyBbrSender Bandwidth Filter) :
    MyBbrSender Bandwidth Filter :=
  if sender.minRtt < now - sender.lastCycleStart then
    let offset := (sender.cycleCurrentOffset + 1) % kGainCycleLength
    { sender with
      cycleCurrentOffset := offset
      lastCycleStart := now
      pacingGain := kPacingGain.getD offset 0
      roundTripCount := sender.roundTripCount + 1 }
  else sender

def hasSampledLastMinRtt (sender : MyBbrSender Bandwidth Filter) : Prop :=
  sender.minRtt ≠ 0 ∧ sender.recoredMinRtt ≠ 0 ∧
    sender.minRtt < sender.recoredMinRtt.scale kSimilarMinRttThreshold

instance (sender : MyBbrSender Bandwidth Filter) : Decidable sender.hasSampledLastMinRtt :=
  inferInstanceAs (Decidable (_ ∧ _ ∧ _))

section Platform

variable (platform : Platform Bandwidth Filter)

/-- Delete every cluster and forget every sample. -/
def clusterInfoClear (sender : MyBbrSender Bandwidth Filter) :
    Option (MyBbrSender Bandwidth Filter) := do
  let heap ← sender.connectionInfo.entries.foldlM (fun heap entry => heap.free entry.2) sender.heap
  some
    { sender with
      maxBandwidth := platform.reset sender.maxBandwidth platform.zero 0
      avergaeBandwidth := platform.reset sender.avergaeBandwidth platform.zero 0
      seqRoundMap := OrderedMap.empty
      ackedClusters := []
      averageRound := 0
      heap := heap
      connectionInfo := OrderedMap.empty }

/-- The first half of `MaybeEnterOrExitProbeRtt`. -/
def enterProbeRtt (sender : MyBbrSender Bandwidth Filter) : Option (MyBbrSender Bandwidth Filter) :=
  clusterInfoClear platform
    { sender with
      mode := .probeRtt
      pacingGain := 1
      exitProbeRttAt := 0
      roundTripCount := 0
      recoredMinRtt := sender.minRtt
      minRtt := 0
      seqTsMap := OrderedMap.empty }

/-- The second half of `MaybeEnterOrExitProbeRtt`. -/
def exitProbeRtt (now : QuicTime) (draw : Nat) (sender : MyBbrSender Bandwidth Filter) :
    MyBbrSender Bandwidth Filter :=
  if sender.mode = .probeRtt then
    let timed :=
      if sender.exitProbeRttAt = 0 then { sender with exitProbeRttAt := now + kProbeRttTime }
      else sender
    if timed.exitProbeRttAt < now ∨ timed.hasSampledLastMinRtt then
      enterProbeBandwidthMode now draw { timed with recoredMinRtt := 0 }
    else timed
  else sender

def maybeEnterOrExitProbeRtt (now : QuicTime) (minRttExpired : Bool) (draw : Nat)
    (sender : MyBbrSender Bandwidth Filter) :
    Option (MyBbrSender Bandwidth Filter × List (Call Bandwidth)) :=
  if minRttExpired ∧ sender.mode ≠ .probeRtt then do
    let entered ← enterProbeRtt platform sender
    some (exitProbeRtt now draw entered, [.clusterInfoClear])
  else some (exitProbeRtt now draw sender, [])

/-! ### Clusters -/

/-- `RemoveClusterLE` for one cluster: unlink it from its successor and delete
it. -/
def removeCluster (heap : Heap (SentClusterInfo Bandwidth)) (entry : Nat × ClusterRef) :
    Option (Heap (SentClusterInfo Bandwidth)) := do
  let cluster ← heap.read entry.2
  let unlinked ←
    match cluster.next with
    | none => some heap
    | some next => heap.modify next (SentClusterInfo.setPrev none)
  unlinked.free entry.2

/-- The loop takes clusters from the front while their id is at most `round`. -/
def removeClusterLE (round : Nat) (sender : MyBbrSender Bandwidth Filter) :
    Option (MyBbrSender Bandwidth Filter) := do
  let heap ← (sender.connectionInfo.takeLE round).foldlM removeCluster sender.heap
  some { sender with heap := heap, connectionInfo := sender.connectionInfo.eraseLE round }

/-- `AddPacketInfoSampler`: the cluster of the current round, created and
linked behind the last one when it does not exist, takes the packet. -/
def addPacketInfoSampler (now : QuicTime) (packetNumber bytes : Nat)
    (sender : MyBbrSender Bandwidth Filter) :
    Option (MyBbrSender Bandwidth Filter × List (Call Bandwidth)) := do
  let (cluster, heap, connectionInfo) ←
    match sender.connectionInfo.find? sender.roundTripCount with
    | some cluster => some (cluster, sender.heap, sender.connectionInfo)
    | none => do
        let prev := sender.connectionInfo.last?.map Prod.snd
        let (cluster, allocated) := sender.heap.alloc
          ((SentClusterInfo.create sender.roundTripCount platform.zero).setPrev prev)
        let linked ←
          match prev with
          | none => some allocated
          | some last => allocated.modify last (SentClusterInfo.setNext (some cluster))
        some (cluster, linked, sender.connectionInfo.insert sender.roundTripCount cluster)
  let written ← heap.modify cluster (SentClusterInfo.onPacketSent now packetNumber bytes)
  some
    ({ sender with
        heap := written
        connectionInfo := connectionInfo
        seqRoundMap := sender.seqRoundMap.insert packetNumber sender.roundTripCount },
      [.clusterPacketSent cluster])

def onPacketSent (now : QuicTime) (packetNumber bytes : Nat)
    (sender : MyBbrSender Bandwidth Filter) :
    Option (MyBbrSender Bandwidth Filter × List (Call Bandwidth)) :=
  let stamped := { sender with seqTsMap := sender.seqTsMap.insert packetNumber now }
  if stamped.mode = .probeBw then
    addPacketInfoSampler platform now packetNumber bytes (updateGainCyclePhase now stamped)
  else some (stamped, [])

/-! ### Estimates -/

def onEstimateBandwidth (cluster : ClusterRef) (clusterId : Nat) (bw : Bandwidth)
    (sender : MyBbrSender Bandwidth Filter) :
    MyBbrSender Bandwidth Filter × List (Call Bandwidth) :=
  ({ sender with
      ackedClusters := sender.ackedClusters ++ [cluster]
      maxBandwidth := platform.update sender.maxBandwidth bw clusterId },
    [.estimateBandwidth cluster clusterId bw])

variable [LinearOrder Bandwidth]

def calculatePacingRate (sender : MyBbrSender Bandwidth Filter) : MyBbrSender Bandwidth Filter :=
  let minRate := platform.fromBitsPerSecond sender.minBps
  match sender.mode with
  | .probeRtt | .startUp => { sender with pacingRate := minRate }
  | .probeBw =>
      let targetRate := platform.scaled sender.pacingGain (platform.getBest sender.maxBandwidth)
      { sender with pacingRate := if targetRate < minRate then minRate else targetRate }

/-- `SentClusterInfo::TriggerBandwidthEstimate` of the cluster at `ref`. -/
def triggerBandwidthEstimate (ref : ClusterRef) (sender : MyBbrSender Bandwidth Filter) :
    Option (MyBbrSender Bandwidth Filter × List (Call Bandwidth)) := do
  let cluster ← sender.heap.read ref
  if cluster.noSample then some (sender, [])
  else
    let bw := cluster.sample platform
    let heap ← sender.heap.modify ref fun object => { object with bw := bw }
    let stored := { sender with heap := heap }
    if platform.zero < bw then some (onEstimateBandwidth platform ref cluster.clusterId bw stored)
    else some (stored, [])

/-- The start of `SentClusterInfo::OnAck`: the first ack of a cluster estimates
the cluster before it. -/
def clusterFirstAck (ref : ClusterRef) (cluster : SentClusterInfo Bandwidth) (now : QuicTime)
    (sender : MyBbrSender Bandwidth Filter) :
    Option (MyBbrSender Bandwidth Filter × List (Call Bandwidth)) :=
  if cluster.firstAckTs = 0 then do
    let heap ← sender.heap.modify ref fun object => { object with firstAckTs := now }
    match cluster.prev with
    | none => some ({ sender with heap := heap }, [])
    | some prev => triggerBandwidthEstimate platform prev { sender with heap := heap }
  else some (sender, [])

/-- `SentClusterInfo::OnAck` of the cluster at `ref`. -/
def clusterOnAck (ref : ClusterRef) (seq : Nat) (now : QuicTime)
    (sender : MyBbrSender Bandwidth Filter) :
    Option (MyBbrSender Bandwidth Filter × List (Call Bandwidth)) := do
  let cluster ← sender.heap.read ref
  let (triggered, calls) ← clusterFirstAck platform ref cluster now sender
  let head ← cluster.packetInfos.head?
  let heap ← triggered.heap.modify ref fun object =>
    SentClusterInfo.creditAck head.seq seq now { object with lastAckTs := now }
  some ({ triggered with heap := heap }, calls)

/-- The part of `OnAck` that finds the cluster of an acked packet. -/
def creditAckedPacket (now : QuicTime) (packetNumber : Nat)
    (sender : MyBbrSender Bandwidth Filter) :
    Option (MyBbrSender Bandwidth Filter × List (Call Bandwidth)) :=
  match sender.seqRoundMap.find? packetNumber with
  | none => some (sender, [])
  | some round =>
      let erased := { sender with seqRoundMap := sender.seqRoundMap.erase packetNumber }
      match sender.connectionInfo.find? round with
      | none => some (erased, [])
      | some cluster => clusterOnAck platform cluster packetNumber now erased

/-! ### The average of the last ten clusters -/

/-- The accumulators of the averaging loop. -/
structure RateTotals where
  sentBytes : Nat
  ackedBytes : Nat
  sentDelta : Nat
  ackDelta : Nat
  clusterId : Nat

def accumulate (heap : Heap (SentClusterInfo Bandwidth)) (totals : RateTotals)
    (ref : ClusterRef) : Option RateTotals := do
  let cluster ← heap.read ref
  let (sentDelta, sentBytes) := cluster.getSentInfo
  let (ackDelta, ackedBytes) := cluster.getAckedInfo
  let sent :=
    if sentDelta ≠ 0 then
      { totals with
        sentDelta := totals.sentDelta + sentDelta
        sentBytes := totals.sentBytes + sentBytes }
    else totals
  some
    (if ackDelta ≠ 0 then
      { sent with
        ackDelta := sent.ackDelta + ackDelta
        ackedBytes := sent.ackedBytes + ackedBytes
        clusterId := cluster.clusterId }
    else sent)

/-- The rate passed to `avergae_bandwidth_.Update`. -/
def averageRate (totals : RateTotals) (sender : MyBbrSender Bandwidth Filter) : Bandwidth :=
  let sentRate :=
    if 0 < totals.sentDelta then
      platform.fromBytesAndTimeDelta totals.sentBytes (Delta.fromMilliseconds totals.sentDelta)
    else platform.infinite
  let ackedRate :=
    if 0 < totals.ackDelta then
      platform.fromBytesAndTimeDelta totals.ackedBytes (Delta.fromMilliseconds totals.ackDelta)
    else platform.infinite
  let rate := min sentRate ackedRate
  if rate = platform.infinite then platform.fromBitsPerSecond sender.minBps else rate

/-- Drop the oldest `stale` entries of `acked_clusters_`, with every cluster up
to each of them. -/
def dropStale : Nat → MyBbrSender Bandwidth Filter → Option (MyBbrSender Bandwidth Filter)
  | 0, sender => some sender
  | stale + 1, sender =>
      match sender.ackedClusters with
      | [] => none
      | ref :: rest => do
          let cluster ← sender.heap.read ref
          let removed ← removeClusterLE cluster.clusterId { sender with ackedClusters := rest }
          dropStale stale removed

/-- The end of `OnAck`: average over `acked_clusters_` once it holds a full
window. -/
def updateAverageBandwidth (sender : MyBbrSender Bandwidth Filter) :
    Option (MyBbrSender Bandwidth Filter × List (Call Bandwidth)) :=
  let total := sender.ackedClusters.length
  if kAverageAckRateWindowSize ≤ total then do
    let totals ← sender.ackedClusters.foldlM (accumulate sender.heap) ⟨0, 0, 0, 0, 0⟩
    let rate := averageRate platform totals sender
    let averageRound := sender.averageRound + totals.clusterId % kAverageAckRateWindowSize
    let averaged :=
      { sender with
        averageRound := averageRound
        avergaeBandwidth := platform.update sender.avergaeBandwidth rate averageRound }
    let trimmed ← dropStale (total - (kAverageAckRateWindowSize - 1)) averaged
    some (trimmed, [.averageBandwidth sender.ackedClusters rate averageRound])
  else some (sender, [])

/-! ### The interface -/

/-- At most one of the two mode changes below draws a random number, so one
`draw` serves both. -/
def onAck (eventTime : QuicTime) (packetNumber draw : Nat)
    (sender : MyBbrSender Bandwidth Filter) :
    Option (MyBbrSender Bandwidth Filter × List (Call Bandwidth)) :=
  if packetNumber ≤ sender.lastAckSeq then some (sender, [])
  else do
    let timed := updateRtt eventTime packetNumber { sender with lastAckSeq := packetNumber }
    let started :=
      if timed.mode = .startUp then enterProbeBandwidthMode eventTime draw timed else timed
    let minRttExpired := decide (started.minRttTimestamp + kMinRttExpiry < eventTime)
    let (moded, cleared) ← maybeEnterOrExitProbeRtt platform eventTime minRttExpired draw started
    let paced := calculatePacingRate platform moded
    let (credited, estimated) ← creditAckedPacket platform eventTime packetNumber paced
    let (averaged, averages) ← updateAverageBandwidth platform credited
    some (averaged, cleared ++ estimated ++ averages)

/-- The constructor. -/
def create (minBps startBps maxBps : Nat) : MyBbrSender Bandwidth Filter where
  minBps := minBps
  startBps := startBps
  maxBps := maxBps
  mode := .startUp
  roundTripCount := 0
  heap := Heap.empty
  connectionInfo := OrderedMap.empty
  seqRoundMap := OrderedMap.empty
  seqTsMap := OrderedMap.empty
  minRtt := 0
  recoredMinRtt := 0
  minRttTimestamp := 0
  exitProbeRttAt := 0
  pacingRate := platform.fromBitsPerSecond startBps
  pacingGain := 1
  cycleCurrentOffset := 0
  lastCycleStart := 0
  lastAckSeq := 0
  maxBandwidth := platform.filter kBandwidthWindowSize platform.zero 0
  avergaeBandwidth := platform.filter kAverageAckRateWindowSize platform.zero 0
  averageRound := 0
  ackedClusters := []

def paceRate (sender : MyBbrSender Bandwidth Filter) : Bandwidth := sender.pacingRate

def bandwidthEstimate (sender : MyBbrSender Bandwidth Filter) : Bandwidth :=
  platform.getBest sender.maxBandwidth

end Platform

end MyBbrSender

/-! ### Runs -/

/-- A call of `OnPacketSent`, or of `OnAck` together with the next value of the
random source. -/
inductive Event where
  | packetSent (time : QuicTime) (packetNumber bytes : Nat)
  | ack (time : QuicTime) (packetNumber draw : Nat)
deriving DecidableEq, Repr

namespace Event

def time : Event → QuicTime
  | packetSent time _ _ => time
  | ack time _ _ => time

/-- The number passed to `OnPacketSent`. -/
def sentNumber : Event → Option Nat
  | packetSent _ packetNumber _ => some packetNumber
  | ack _ _ _ => none

end Event

section Runs

variable {Bandwidth Filter : Type} [LinearOrder Bandwidth] (platform : Platform Bandwidth Filter)

def bbrMachine : Machine (MyBbrSender Bandwidth Filter) Event (List (Call Bandwidth)) where
  step sender
    | .packetSent time packetNumber bytes => sender.onPacketSent platform time packetNumber bytes
    | .ack time packetNumber draw => sender.onAck platform time packetNumber draw

/-- Positive, non-decreasing clock values. -/
structure ClockOrdered (events : List Event) : Prop where
  positive : ∀ event ∈ events, 0 < event.time
  monotone : events.Pairwise fun earlier later => earlier.time ≤ later.time

theorem ClockOrdered.sublist {events kept : List Event} (clock : ClockOrdered events)
    (inside : kept.Sublist events) : ClockOrdered kept where
  positive event member := clock.positive event (inside.subset member)
  monotone := clock.monotone.sublist inside

theorem ClockOrdered.restrict {events : List Event} {event : Event}
    (clock : ClockOrdered (events ++ [event])) : ClockOrdered events :=
  clock.sublist (List.sublist_append_left _ _)

/-- The numbers passed to `OnPacketSent` increase strictly. -/
def NumbersIncrease (events : List Event) : Prop :=
  (events.filterMap Event.sentNumber).Pairwise (· < ·)

end Runs

end StupidSimple.Bbr
