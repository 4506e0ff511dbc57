import StupidSimple.Bbr.Packets
import StupidSimple.Bbr.Sender
import StupidSimple.Library.Pacer

/-!
Owns `MyPacingSender` and the parts of the two sender apps that send through it,
with `MyBbrSenderApp` as a machine. The log, the address of the peer and the time
to stop are left out.

`TransferTime` of `QuicBandwidth` is not part of the repository; it is a function
over the carrier of bandwidths.
-/

namespace StupidSimple.Bbr

open StupidSimple.Library StupidSimple.Quic

/-! ### The pacer -/

/-- The members of `MyPacingSender`, but for the sender it is given. -/
structure MyPacingSender where
  idealNextPacketSendTime : QuicTime
deriving DecidableEq, Repr

namespace MyPacingSender

def create : MyPacingSender := ⟨0⟩

def alarmGranularity : Delta := Delta.fromMilliseconds 1

def timeUntilSend (now : QuicTime) (pacing : MyPacingSender) : Delta :=
  if now + alarmGranularity < pacing.idealNextPacketSendTime then
    pacing.idealNextPacketSendTime - now
  else 0

/-- What `OnPacketSent` does behind the call of the sender, for the delay at the
rate of the sender. -/
def delay (now : QuicTime) (delay : Delta) (pacing : MyPacingSender) : MyPacingSender where
  idealNextPacketSendTime := max (pacing.idealNextPacketSendTime + delay) (now + delay)

end MyPacingSender

/-! ### Sending through the pacer -/

/-- What an app does with chunks, its socket and its sender. The rate of a packet
is the one its delay is computed from. -/
inductive AppEvent (Bandwidth : Type) where
  | queued (chunk : Nat)
  | sent (type : TestProto) (seq : Nat) (time : QuicTime) (bytes : Nat) (rate : Bandwidth)
      (datagram : List UInt8)
  | congestionEvent (packetNumber : Nat)
deriving DecidableEq, Repr

/-- The members that both apps have. -/
structure PacedApp (Bandwidth Filter : Type) where
  /-- A `uint32_t`. -/
  seq : Nat
  pacing : MyPacingSender
  cc : MyBbrSender Bandwidth Filter

/-- What a call of `Process` gets from the clock, the source, the socket, the
random source and the memory behind its buffer. -/
structure AppInput where
  now : QuicTime
  frameLen : Int
  received : List UInt8
  draw : Nat
  beyond : List UInt8

section Apps

variable {Bandwidth Filter : Type} [LinearOrder Bandwidth] (io : QuicData)
  (platform : Platform Bandwidth Filter) (transferTime : Bandwidth → Nat → Delta)

namespace PacedApp

def create (minBps startBps maxBps : Nat) : PacedApp Bandwidth Filter where
  seq := 1
  pacing := .create
  cc := .create platform minBps startBps maxBps

/-- `SendFakePacket` and `SendPaddingPacket`, which differ in the type. -/
def sendPacket (type : TestProto) (now : QuicTime) (beyond : List UInt8)
    (app : PacedApp Bandwidth Filter) :
    Option (PacedApp Bandwidth Filter × List (AppEvent Bandwidth)) := do
  let seq := app.seq
  let payload := maxPacketSize - (1 + (getMinSeqLength seq).bytes)
  let (cc, _) ← app.cc.onPacketSent platform now seq payload
  let rate := cc.paceRate
  some
    ({ seq := (seq + 1) % 2 ^ 32
       pacing := app.pacing.delay now (transferTime rate payload)
       cc := cc },
      [.sent type seq now payload rate (sentPacket io type seq beyond)])

/-- `ProcessAckFrame`, where something is received. -/
def receive (now : QuicTime) (data : List UInt8) (draw : Nat) (app : PacedApp Bandwidth Filter) :
    Option (PacedApp Bandwidth Filter × List (AppEvent Bandwidth)) :=
  if data = [] then some (app, [])
  else do
    match ← ackedNumber io data with
    | none => some (app, [])
    | some num =>
        let (cc, _) ← app.cc.onAck platform now num draw
        some ({ app with cc := cc }, [.congestionEvent num])

end PacedApp

/-! ### The plain app -/

/-- `MyBbrSenderApp`. -/
structure MyBbrSenderApp (Bandwidth Filter : Type) where
  app : PacedApp Bandwidth Filter

namespace MyBbrSenderApp

def create (minBps startBps maxBps : Nat) : MyBbrSenderApp Bandwidth Filter :=
  ⟨.create platform minBps startBps maxBps⟩

def sendFakePacket (now : QuicTime) (beyond : List UInt8)
    (sender : MyBbrSenderApp Bandwidth Filter) :
    Option (MyBbrSenderApp Bandwidth Filter × List (AppEvent Bandwidth)) := do
  let (app, events) ← sender.app.sendPacket io platform transferTime .stream now beyond
  some (⟨app⟩, events)

def processAckFrame (now : QuicTime) (data : List UInt8) (draw : Nat)
    (sender : MyBbrSenderApp Bandwidth Filter) :
    Option (MyBbrSenderApp Bandwidth Filter × List (AppEvent Bandwidth)) := do
  let (app, events) ← sender.app.receive io platform now data draw
  some (⟨app⟩, events)

/-- The start of `Process`. -/
def sendIfDue (now : QuicTime) (beyond : List UInt8)
    (sender : MyBbrSenderApp Bandwidth Filter) :
    Option (MyBbrSenderApp Bandwidth Filter × List (AppEvent Bandwidth)) :=
  if sender.app.pacing.timeUntilSend now = 0 then
    sender.sendFakePacket io platform transferTime now beyond
  else some (sender, [])

def process (input : AppInput) (sender : MyBbrSenderApp Bandwidth Filter) :
    Option (MyBbrSenderApp Bandwidth Filter × List (AppEvent Bandwidth)) := do
  let (served, sent) ← sender.sendIfDue io platform transferTime input.now input.beyond
  let (informed, acked) ← served.processAckFrame io platform input.now input.received input.draw
  some (informed, sent ++ acked)

end MyBbrSenderApp

/-- Calls of `Process`. -/
def senderAppMachine :
    Machine (MyBbrSenderApp Bandwidth Filter) AppInput (List (AppEvent Bandwidth)) where
  step sender input := sender.process io platform transferTime input

end Apps

end StupidSimple.Bbr
