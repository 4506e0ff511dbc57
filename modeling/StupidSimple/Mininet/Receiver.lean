import StupidSimple.Library.Machine
import StupidSimple.Mininet.Endpoint

/-!
Owns the `Receiver` of the media session: `Process` reads one datagram, the first one
sets the peer, and segments and paddings go to the congestion controller, which sends
its feedback through `SendTransportFeedback`.

The congestion controller and the socket are outside; a step gives the calls they get.
`onRecvSegment` and `onRecvPad` are steps of the code itself, with what they are given.
-/

namespace StupidSimple.Mininet

open StupidSimple.Library

structure Receiver where
  running : Bool
  sessionConnected : Bool
  firstPacket : Bool
  dst : SuAddr
  stream : BinStream
  /-- `receive_side_cc_` is set. -/
  congestionConfigured : Bool
  uid : UInt32
  rtt : UInt32
  sumRtt : Int64
  rttNum : Int64
  maxRtt : UInt32
  updatePingTs : Int64
  duration : UInt32
  stopTs : UInt32
  baseSeq : UInt32
deriving DecidableEq

inductive ReceiverCall where
  | sendToNetwork (message : SentMessage)
  | onRecvSegment (header : SimHeader) (seg : SimSegment)
  | onRecvPad (header : SimHeader) (body : SimPad)
  /-- `OnReceivedPacket` of the congestion controller. -/
  | onReceivedPacket (arrivalTimeMs payloadSize ssrc : UInt32) (transportSequenceNumber : UInt16)
  | onRttUpdate (averageRtt maxRtt : UInt32)
deriving DecidableEq, Repr

namespace Receiver

/-- The constructor, then `SetRunDuration`. The code leaves `dst_` as it finds it. -/
def create (dst : SuAddr) (duration : UInt32) : Receiver where
  running := true
  sessionConnected := false
  firstPacket := true
  dst := dst
  stream := binStreamInit
  congestionConfigured := false
  uid := 4321
  rtt := 0
  sumRtt := 0
  rttNum := 0
  maxRtt := 0
  updatePingTs := 0
  duration := duration
  stopTs := 0
  baseSeq := 0

/-- `sim_encode_msg` on `stream_`, then `SendToNetwork`. -/
def sendMessage (mid : UInt8) (body : SimBody) (receiver : Receiver) :
    Option (Receiver × List ReceiverCall) := do
  let (message, strm) ←
    encodeTo receiver.dst (initSimHeader mid receiver.uid) body receiver.stream
  some ({ receiver with stream := strm }, [.sendToNetwork message])

/-- Feedback that does not fit the array is not sent. -/
def sendTransportFeedback (serialized : List UInt8) (receiver : Receiver) :
    Option (Receiver × List ReceiverCall) :=
  if fits : serialized.length ≤ simFeedbackSize then
    receiver.sendMessage simFeedback (.feedback ⟨receiver.baseSeq, serialized, fits⟩)
  else some (receiver, [])

def sendPing (now : Int64) (receiver : Receiver) : Option (Receiver × List ReceiverCall) := do
  let (sent, calls) ← receiver.sendMessage simPing (.ping ⟨now⟩)
  some ({ sent with updatePingTs := now }, calls)

/-! ### Messages -/

def configureCongestion (receiver : Receiver) : Receiver :=
  { receiver with congestionConfigured := true }

def onRecvSegment (header : SimHeader) (seg : SimSegment) (now : UInt32) (receiver : Receiver) :
    Receiver × List ReceiverCall :=
  let configured := receiver.configureCongestion
  let overhead := UInt32.ofNat (seg.data.1.length + simSegmentHeaderSize)
  let counted :=
    if configured.firstPacket then
      { configured with firstPacket := false, stopTs := now + configured.duration }
    else configured
  (counted, [.onRecvSegment header seg, .onReceivedPacket now overhead header.uid seg.transportSeq])

/-- `sizeof(sim_header_t) + sizeof(sim_pad_t)`, with the alignment of `uint32_t`. -/
def paddingHeaderLen : Nat := 8 + 508

def onRecvPad (header : SimHeader) (body : SimPad) (now : UInt32) (receiver : Receiver) :
    Receiver × List ReceiverCall :=
  let overhead := UInt32.ofNat (body.data.1.length + paddingHeaderLen)
  (receiver.configureCongestion,
    [.onRecvPad header body, .onReceivedPacket now overhead header.uid body.transportSeq])

/-- The congestion controller hears of a sample only once it is there. -/
def updateRtt (time : UInt32) (receiver : Receiver) : Receiver × List ReceiverCall :=
  let keepRtt : UInt32 := if 5 < time then time else 5
  let firstRtt := if receiver.rtt = 0 then keepRtt else receiver.rtt
  let smoothed := (7 * firstRtt + keepRtt) / 8
  let rtt := if smoothed < 10 then 10 else smoothed
  if receiver.rttNum = 0 then
    ({ receiver with
      rtt := rtt
      sumRtt := toInt64 keepRtt
      maxRtt := keepRtt
      rttNum := receiver.rttNum + 1 },
      if receiver.congestionConfigured then [.onRttUpdate keepRtt keepRtt] else [])
  else
    let rttNum := receiver.rttNum + 1
    let sumRtt := receiver.sumRtt + toInt64 keepRtt
    let averageRtt := toUInt32 (sumRtt / rttNum)
    let maxRtt := if receiver.maxRtt < keepRtt then keepRtt else receiver.maxRtt
    ({ receiver with
      rtt := rtt
      rttNum := rttNum
      sumRtt := sumRtt
      maxRtt := maxRtt },
      if receiver.congestionConfigured then [.onRttUpdate averageRtt maxRtt] else [])

/-- The switch of `ProcessingMsg`. -/
def processingBody (header : SimHeader) (now : Int64) (strm : BinStream) (receiver : Receiver) :
    Option (Receiver × List ReceiverCall) :=
  if header.mid = simPing then do
    let (decoded, strm) ← (simDecodeMsg header).run strm
    match decoded with
    | some (.ping ping) =>
        let (message, _) ←
          encodeTo receiver.dst (initSimHeader simPong receiver.uid) (.ping ping) strm
        some (receiver, [.sendToNetwork message])
    | _ => none
  else if header.mid = simPong then do
    let (decoded, _) ← (simDecodeMsg header).run strm
    match decoded with
    | some (.ping pong) =>
        let rtt := now - pong.ts
        if 0 < rtt then some (receiver.updateRtt (toUInt32 rtt)) else some (receiver, [])
    | _ => none
  else if header.mid = simSeg then do
    let (decoded, _) ← (simDecodeMsg header).run strm
    match decoded with
    | some (.segment seg) => some (receiver.onRecvSegment header seg (toUInt32 now))
    | _ => some (receiver, [])
  else if header.mid = simPad then do
    let (decoded, _) ← (simDecodeMsg header).run strm
    match decoded with
    | some (.pad pad) => some (receiver.onRecvPad header pad (toUInt32 now))
    | _ => some (receiver, [])
  else some (receiver, [])

def processingMsg (now : Int64) (strm : BinStream) (receiver : Receiver) :
    Option (Receiver × List ReceiverCall) := do
  let (header, strm) ← simDecodeHeader.run strm
  match header with
  | none => some (receiver, [])
  | some header =>
      if header.mid < minMsgId ∨ maxMsgId < header.mid then some (receiver, [])
      else ({ receiver with sessionConnected := true }).processingBody header now strm

/-- The time between two pings. -/
def delta (receiver : Receiver) : UInt32 := if receiver.rtt ≠ 0 then receiver.rtt else 100

/-- The ping of `Process`, when it is due. `now` is a `uint32_t` here. -/
def pingIfDue (now : UInt32) (receiver : Receiver) : Option (Receiver × List ReceiverCall) :=
  if receiver.sessionConnected then
    if toInt64 receiver.delta < toInt64 now - receiver.updatePingTs then
      receiver.sendPing (toInt64 now)
    else some (receiver, [])
  else some (receiver, [])

/-- The peer is where the first datagram comes from. -/
def connect (remote : SuAddr) (receiver : Receiver) : Receiver :=
  if receiver.sessionConnected then receiver
  else { receiver with sessionConnected := true, dst := remote }

/-- `now` is read at the start, `later` where a message is handled. -/
def process (now later : Int64) (arrived : Option Datagram) (receiver : Receiver) :
    Option (Receiver × List ReceiverCall) :=
  if receiver.running = false then some (receiver, [])
  else do
    let (receiver, pings) ← receiver.pingIfDue (toUInt32 now)
    match suUdpRecv binStreamInit arrived with
    | none => some (receiver, pings)
    | some (remote, rstream) =>
        let (receiver, calls) ← (receiver.connect remote).processingMsg later rstream
        some (receiver, pings ++ calls)

end Receiver

/-! ### Runs -/

inductive ReceiverEvent where
  | process (now later : Int64) (arrived : Option Datagram)
  | sendTransportFeedback (serialized : List UInt8)
deriving DecidableEq, Repr

namespace Receiver

def step (receiver : Receiver) : ReceiverEvent → Option (Receiver × List ReceiverCall)
  | .process now later arrived => receiver.process now later arrived
  | .sendTransportFeedback serialized => receiver.sendTransportFeedback serialized

def machine : Machine Receiver ReceiverEvent (List ReceiverCall) where
  step := step

end Receiver

end StupidSimple.Mininet
