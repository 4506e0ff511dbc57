import StupidSimple.Library.Machine
import StupidSimple.Library.OrderedMap
import StupidSimple.Mininet.Endpoint

/-!
Owns the `Sender` of the media session: `SendVideo` cuts a frame into segments and
keeps them in `pending_buf_`, the pacer calls back to send them, and `Process` reads
one datagram.

The pacer, the congestion controller and the socket are outside; a step gives the calls
they get. Two entries of the list are steps of the code itself: `newSegment` is an
allocation in `SendVideo`, and a sent message shows its body beside its bytes.
-/

namespace StupidSimple.Mininet

open StupidSimple.Library

structure Sender where
  running : Bool
  dst : SuAddr
  pendingBuf : OrderedMap UInt16 SimSegment
  frameSeed : UInt32
  packetSeed : UInt32
  transSeq : UInt16
  stream : BinStream
  firstTs : Int64
  uid : UInt32
  rtt : UInt32
  sumRtt : Int64
  rttNum : Int64
  minRtt : Int64
  maxRtt : Int64
  averageRtt : Int64
  updatePingTs : Int64

inductive SenderCall where
  | newSegment (seg : SimSegment)
  /-- `InsertPacket` of the pacer. -/
  | insertPacket (ssrc : UInt32) (sequenceNumber : UInt16) (captureTimeMs : Int64) (bytes : UInt16)
  | sendToNetwork (message : SentMessage)
  | addPacket (ssrc : UInt32) (sequenceNumber : UInt16) (length : Nat)
  | onSentPacket (packetId : UInt16) (sendTimeMs : Int64)
  | onRttUpdate (averageRtt maxRtt : Int64)
  /-- `OnTransportFeedback` with what `ParseFrom` makes of these bytes. -/
  | onTransportFeedback (feedback : List UInt8)
deriving DecidableEq, Repr

namespace Sender

/-- The constructor, then `SetPeer`. -/
def create (dst : SuAddr) : Sender where
  running := false
  dst := dst
  pendingBuf := .empty
  frameSeed := 1
  packetSeed := 1
  transSeq := 1
  stream := binStreamInit
  firstTs := -1
  uid := 1234
  rtt := 0
  sumRtt := 0
  rttNum := 0
  minRtt := 0
  maxRtt := 0
  averageRtt := 0
  updatePingTs := 0

def start (sender : Sender) : Sender := { sender with running := true }

def stop (sender : Sender) : Sender := { sender with running := false }

/-- `sim_encode_msg` on `stream_`, then `SendToNetwork`. -/
def sendMessage (mid : UInt8) (body : SimBody) (sender : Sender) :
    Option (Sender × List SenderCall) := do
  let (message, strm) ←
    encodeTo sender.dst (initSimHeader mid sender.uid) body sender.stream
  some ({ sender with stream := strm }, [.sendToNetwork message])

/-! ### Frames -/

def maxSplitNumber : Nat := 1024

/-- `FrameSplit`, for a size that the assertion of `SendVideo` lets through. -/
def frameSplit (size : Nat) : List { size : Nat // size ≤ simVideoSize } :=
  if small : size ≤ simVideoSize then [⟨size, small⟩]
  else
    let remainSize := size % simVideoSize
    List.replicate (size / simVideoSize) ⟨simVideoSize, le_rfl⟩ ++
      if 0 < remainSize then [⟨remainSize, (Nat.mod_lt _ (by decide)).le⟩] else []

/-- What the loop copies into the segments, from `pos` on. -/
def cutFrame : List { size : Nat // size ≤ simVideoSize } → List UInt8 → List (Buffer simVideoSize)
  | [], _ => []
  | size :: rest, pos =>
      ⟨pos.take size.1, (List.length_take_le _ _).trans size.2⟩ :: cutFrame rest (pos.drop size.1)

/-- What the segments of one frame have in common. -/
structure FrameInfo where
  payloadType : UInt8
  ftype : UInt8
  timestamp : UInt32
  total : UInt16

def simSegmentOverhead (seg : SimSegment) : UInt16 :=
  UInt16.ofNat (seg.data.1.length + simSegmentHeaderSize)

/-- The segment that `SendVideo` fills in for chunk `i`. -/
def newSegment (frame : FrameInfo) (i : UInt16) (chunk : Buffer simVideoSize) (sender : Sender) :
    SimSegment where
  packetId := sender.packetSeed
  fid := sender.frameSeed
  timestamp := frame.timestamp
  index := i
  total := frame.total
  ftype := frame.ftype
  payloadType := frame.payloadType
  remb := 1
  sendTs := 0
  transportSeq := sender.transSeq
  data := chunk

/-- The loop of `SendVideo`, with its local map and the segments it allocates. -/
structure FrameQueue where
  sender : Sender
  seqLenMap : OrderedMap UInt16 UInt16
  created : List SimSegment

/-- One round of the loop. -/
def queueSegment (frame : FrameInfo) (i : UInt16) (chunk : Buffer simVideoSize)
    (queue : FrameQueue) : FrameQueue :=
  let seg := queue.sender.newSegment frame i chunk
  { sender :=
      { queue.sender with
        packetSeed := queue.sender.packetSeed + 1
        transSeq := queue.sender.transSeq + 1
        pendingBuf := queue.sender.pendingBuf.insert seg.transportSeq seg }
    seqLenMap := queue.seqLenMap.insert seg.transportSeq (simSegmentOverhead seg)
    created := queue.created ++ [seg] }

def queueSegments (frame : FrameInfo) :
    (i : UInt16) → List (Buffer simVideoSize) → FrameQueue → FrameQueue
  | _, [], queue => queue
  | i, chunk :: rest, queue => queueSegments frame (i + 1) rest (queueSegment frame i chunk queue)

/-- `first_ts_` is the time of the first frame. -/
def startClock (now : Int64) (sender : Sender) : Sender :=
  if sender.firstTs = -1 then { sender with firstTs := now } else sender

/-- A frame that the assertion refuses ends the program. -/
def sendVideo (payloadType : UInt8) (ftype : Int32) (data : List UInt8) (now : Int64)
    (sender : Sender) : Option (Sender × List SenderCall) :=
  if sender.running = false then some (sender, [])
  else if data.length = 0 then some (sender, [])
  else if data.length / simVideoSize < maxSplitNumber then
    let started := sender.startClock now
    let splits := frameSplit data.length
    let frame : FrameInfo :=
      { payloadType := payloadType
        ftype := ftype.toUInt32.toUInt8
        timestamp := toUInt32 (now - started.firstTs)
        total := UInt16.ofNat splits.length }
    let queue := queueSegments frame 0 (cutFrame splits data) ⟨started, .empty, []⟩
    some ({ queue.sender with frameSeed := queue.sender.frameSeed + 1 },
      queue.created.map .newSegment ++ queue.seqLenMap.entries.map fun entry =>
        .insertPacket sender.uid entry.1 now entry.2)
  else none

/-! ### The callbacks of the pacer -/

def getSegment (sequenceNumber : UInt16) (sender : Sender) : Option SimSegment × Sender :=
  match sender.pendingBuf.find? sequenceNumber with
  | none => (none, sender)
  | some seg => (some seg, { sender with pendingBuf := sender.pendingBuf.erase sequenceNumber })

/-- The segment as `SendSegment` sends it. -/
def stamp (now : UInt32) (sender : Sender) (seg : SimSegment) : SimSegment :=
  { seg with sendTs := toUInt16 (toInt64 now - sender.firstTs - toInt64 seg.timestamp) }

def sendSegment (seg : SimSegment) (now : UInt32) (sender : Sender) :
    Option (Sender × List SenderCall) :=
  sender.sendMessage simSeg (.segment (sender.stamp now seg))

def timeToSendPacket (sequenceNumber : UInt16) (now : Int64) (sender : Sender) :
    Option (Sender × List SenderCall) :=
  match sender.getSegment sequenceNumber with
  | (none, sender) => some (sender, [])
  | (some seg, sender) => do
      let (sent, calls) ← sender.sendSegment seg (toUInt32 now)
      some (sent, calls ++ [
        .addPacket sender.uid sequenceNumber (simSegmentOverhead seg).toNat,
        .onSentPacket sequenceNumber now])

def maxPadSize : Nat := 500

/-- `sizeof(sim_header_t) + sizeof(sim_pad_t)`, with the alignment of `uint32_t`. -/
def paddingHeaderLen : Nat := 8 + 508

/-- The payload is what `stack` holds: the code leaves `pad.data` as it finds it. A
payload beyond the array is read from behind it. -/
def sendPadding (payloadLen : UInt16) (ts : UInt32) (stack : Vector UInt8 paddingDataSize)
    (sender : Sender) : Option (Sender × List SenderCall) :=
  if inside : payloadLen.toNat ≤ paddingDataSize then do
    let pad : SimPad :=
      ⟨ts, sender.transSeq, stack.toList.take payloadLen.toNat,
        (List.length_take_le _ _).trans inside⟩
    let (sent, calls) ←
      { sender with transSeq := sender.transSeq + 1 }.sendMessage simPad (.pad pad)
    some (sent, calls ++ [
      .addPacket sender.uid sender.transSeq (paddingHeaderLen + payloadLen.toNat),
      .onSentPacket sender.transSeq (toInt64 ts)])
  else none

/-- The loop of `TimeToSendPadding`. -/
def sendPaddings (now : Int64) (stack : Nat → Vector UInt8 paddingDataSize) (remain : Nat)
    (sender : Sender) : Option (Sender × List SenderCall) :=
  if 0 < remain then
    if maxPadSize ≤ remain then do
      let (sent, calls) ←
        sender.sendPadding (UInt16.ofNat maxPadSize) (toUInt32 now) (stack remain)
      let (last, later) ←
        sendPaddings now stack (remain - (paddingHeaderLen + maxPadSize)) sent
      some (last, calls ++ later)
    else if 100 ≤ remain then
      sender.sendPadding (UInt16.ofNat remain) (toUInt32 now) (stack remain)
    else some (sender, [])
  else some (sender, [])
termination_by remain
decreasing_by simp only [paddingHeaderLen, maxPadSize] at *; omega

/-- `remain` is an `int`, so a count of 2 ^ 31 or more may come out negative. -/
def timeToSendPadding (bytes : Nat) (now : Int64) (stack : Nat → Vector UInt8 paddingDataSize)
    (sender : Sender) : Option (Sender × List SenderCall) :=
  if bytes < 100 then some (sender, [])
  else sender.sendPaddings now stack (Int32.ofNat bytes).toInt.toNat

/-! ### Messages -/

def sendPing (now : Int64) (sender : Sender) : Option (Sender × List SenderCall) := do
  let (sent, calls) ← sender.sendMessage simPing (.ping ⟨now⟩)
  some ({ sent with updatePingTs := now }, calls)

def updateRtt (time : UInt32) (sender : Sender) : Sender × List SenderCall :=
  let keepRtt : UInt32 := if 5 < time then time else 5
  let firstRtt := if sender.rtt = 0 then keepRtt else sender.rtt
  let smoothed := (7 * firstRtt + keepRtt) / 8
  let rtt := if smoothed < 10 then 10 else smoothed
  let sample := toInt64 keepRtt
  if sender.rttNum = 0 then
    ({ sender with
      rtt := rtt
      sumRtt := sample
      maxRtt := sample
      minRtt := sample
      averageRtt := sample
      rttNum := sender.rttNum + 1 }, [.onRttUpdate sample sample])
  else
    let rttNum := sender.rttNum + 1
    let sumRtt := sender.sumRtt + sample
    let averageRtt := sumRtt / rttNum
    ({ sender with
      rtt := rtt
      rttNum := rttNum
      sumRtt := sumRtt
      averageRtt := averageRtt
      maxRtt := if sender.maxRtt < sample then sample else sender.maxRtt
      minRtt := if sample < sender.minRtt then sample else sender.minRtt },
      [.onRttUpdate averageRtt sender.maxRtt])

/-- The switch of `ProcessingMsg`. A pong of the wrong body type cannot come out of
`sim_decode_msg`. -/
def processingBody (header : SimHeader) (now : Int64) (strm : BinStream) (sender : Sender) :
    Option (Sender × List SenderCall) :=
  if header.mid = simPing then do
    let (decoded, strm) ← (simDecodeMsg header).run strm
    match decoded with
    | some (.ping ping) =>
        let (message, _) ←
          encodeTo sender.dst (initSimHeader simPong sender.uid) (.ping ping) strm
        some (sender, [.sendToNetwork message])
    | _ => none
  else if header.mid = simPong then do
    let (decoded, _) ← (simDecodeMsg header).run strm
    match decoded with
    | some (.ping pong) =>
        let rtt := now - pong.ts
        if 0 < rtt then some (sender.updateRtt (toUInt32 rtt)) else some (sender, [])
    | _ => none
  else if header.mid = simFeedback then do
    let (decoded, _) ← (simDecodeMsg header).run strm
    match decoded with
    | some (.feedback feedback) =>
        some (sender, [.onTransportFeedback feedback.feedback.1])
    | _ => some (sender, [])
  else some (sender, [])

def processingMsg (now : Int64) (strm : BinStream) (sender : Sender) :
    Option (Sender × List SenderCall) := do
  let (header, strm) ← simDecodeHeader.run strm
  match header with
  | none => some (sender, [])
  | some header =>
      if header.mid < minMsgId ∨ maxMsgId < header.mid then some (sender, [])
      else sender.processingBody header now strm

/-- The time between two pings. -/
def delta (sender : Sender) : UInt32 := if sender.rtt ≠ 0 then sender.rtt else 100

/-- The ping of `Process`, when it is due. -/
def pingIfDue (now : Int64) (sender : Sender) : Option (Sender × List SenderCall) :=
  if toInt64 sender.delta < now - sender.updatePingTs then sender.sendPing now
  else some (sender, [])

/-- `now` is read at the start, `later` where a pong is handled. -/
def process (now later : Int64) (arrived : Option Datagram) (sender : Sender) :
    Option (Sender × List SenderCall) :=
  if sender.running = false then some (sender, [])
  else do
    let (sender, pings) ← sender.pingIfDue now
    match suUdpRecv binStreamInit arrived with
    | none => some (sender, pings)
    | some (remote, rstream) =>
        let (sender, calls) ← { sender with dst := remote }.processingMsg later rstream
        some (sender, pings ++ calls)

end Sender

/-! ### Runs -/

inductive SenderEvent where
  | start
  | stop
  | sendVideo (payloadType : UInt8) (ftype : Int32) (data : List UInt8) (now : Int64)
  | timeToSendPacket (sequenceNumber : UInt16) (now : Int64)
  | timeToSendPadding (bytes : Nat) (now : Int64) (stack : Nat → Vector UInt8 paddingDataSize)
  | sendPadding (payloadLen : UInt16) (ts : UInt32) (stack : Vector UInt8 paddingDataSize)
  | process (now later : Int64) (arrived : Option Datagram)

namespace Sender

def step (sender : Sender) : SenderEvent → Option (Sender × List SenderCall)
  | .start => some (sender.start, [])
  | .stop => some (sender.stop, [])
  | .sendVideo payloadType ftype data now => sender.sendVideo payloadType ftype data now
  | .timeToSendPacket sequenceNumber now => sender.timeToSendPacket sequenceNumber now
  | .timeToSendPadding bytes now stack => sender.timeToSendPadding bytes now stack
  | .sendPadding payloadLen ts stack => sender.sendPadding payloadLen ts stack
  | .process now later arrived => sender.process now later arrived

def machine : Machine Sender SenderEvent (List SenderCall) where
  step := step

end Sender

end StupidSimple.Mininet
