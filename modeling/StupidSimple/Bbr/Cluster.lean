import StupidSimple.Bbr.Platform

/-!
Owns `SentClusterInfo` of `my_bbr_sender`: the send and ack bookkeeping of one
cluster of packets. The links `prev` and `next` are heap addresses; the part of
`OnAck` that follows `prev` belongs to the sender, which owns the heap.
-/

namespace StupidSimple.Bbr

/-- The address of a `SentClusterInfo` object. -/
abbrev ClusterRef := Nat

structure SentPacketInfo where
  seq : Nat
  sentTs : QuicTime
  ackTs : QuicTime
  len : Nat
deriving DecidableEq, Repr

structure SentClusterInfo (Bandwidth : Type) where
  clusterId : Nat
  firstSendTs : QuicTime
  lastSendTs : QuicTime
  firstAckTs : QuicTime
  lastAckTs : QuicTime
  ackedPackets : Nat
  sentPackets : Nat
  packetInfos : List SentPacketInfo
  prev : Option ClusterRef
  next : Option ClusterRef
  bw : Bandwidth
deriving DecidableEq, Repr

namespace SentClusterInfo

variable {Bandwidth : Type}

/-- The constructor: no packet, all times zero, no link. -/
def create (clusterId : Nat) (zero : Bandwidth) : SentClusterInfo Bandwidth where
  clusterId := clusterId
  firstSendTs := 0
  lastSendTs := 0
  firstAckTs := 0
  lastAckTs := 0
  ackedPackets := 0
  sentPackets := 0
  packetInfos := []
  prev := none
  next := none
  bw := zero

def setPrev (prev : Option ClusterRef) (cluster : SentClusterInfo Bandwidth) :
    SentClusterInfo Bandwidth :=
  { cluster with prev := prev }

def setNext (next : Option ClusterRef) (cluster : SentClusterInfo Bandwidth) :
    SentClusterInfo Bandwidth :=
  { cluster with next := next }

def onPacketSent (now : QuicTime) (seq len : Nat) (cluster : SentClusterInfo Bandwidth) :
    SentClusterInfo Bandwidth :=
  { cluster with
    firstSendTs := if cluster.firstSendTs = 0 then now else cluster.firstSendTs
    lastSendTs := now
    packetInfos := cluster.packetInfos ++ [⟨seq, now, 0, len⟩]
    sentPackets := cluster.sentPackets + len }

/-- The end of `OnAck`: look up the packet by its offset from the head packet,
computed in `uint32_t`, and credit its bytes. -/
def creditAck (headSeq seq : Nat) (now : QuicTime) (cluster : SentClusterInfo Bandwidth) :
    SentClusterInfo Bandwidth :=
  if headSeq ≤ seq then
    let offset := (seq - headSeq) % 2 ^ 32
    match cluster.packetInfos[offset]? with
    | some target =>
        { cluster with
          packetInfos := cluster.packetInfos.set offset { target with ackTs := now }
          ackedPackets := cluster.ackedPackets + target.len }
    | none => cluster
  else cluster

/-- Milliseconds between the first and the last send, and the bytes sent. -/
def getSentInfo (cluster : SentClusterInfo Bandwidth) : Nat × Nat :=
  (Delta.toMilliseconds (cluster.lastSendTs - cluster.firstSendTs), cluster.sentPackets)

/-- Milliseconds between the first and the last ack, and the bytes acked. -/
def getAckedInfo (cluster : SentClusterInfo Bandwidth) : Nat × Nat :=
  (Delta.toMilliseconds (cluster.lastAckTs - cluster.firstAckTs), cluster.ackedPackets)

/-- The early return of `TriggerBandwidthEstimate`. -/
def noSample (cluster : SentClusterInfo Bandwidth) : Prop :=
  cluster.ackedPackets = 0 ∨ cluster.lastAckTs = cluster.firstAckTs

instance (cluster : SentClusterInfo Bandwidth) : Decidable cluster.noSample :=
  inferInstanceAs (Decidable (_ ∨ _))

variable {Filter : Type} [LinearOrder Bandwidth]

def sendRate (platform : Platform Bandwidth Filter) (cluster : SentClusterInfo Bandwidth) :
    Bandwidth :=
  if cluster.firstSendTs < cluster.lastSendTs then
    platform.fromBytesAndTimeDelta cluster.sentPackets (cluster.lastSendTs - cluster.firstSendTs)
  else platform.infinite

def ackRate (platform : Platform Bandwidth Filter) (cluster : SentClusterInfo Bandwidth) :
    Bandwidth :=
  platform.fromBytesAndTimeDelta cluster.ackedPackets (cluster.lastAckTs - cluster.firstAckTs)

/-- The bandwidth that `TriggerBandwidthEstimate` stores in `bw_`. -/
def sample (platform : Platform Bandwidth Filter) (cluster : SentClusterInfo Bandwidth) :
    Bandwidth :=
  min (cluster.sendRate platform) (cluster.ackRate platform)

end SentClusterInfo

end StupidSimple.Bbr
