import StupidSimple.Library.Machine
import StupidSimple.Quic.Packets
import StupidSimple.Quic.SenderCalls

/-!
Owns the sending half of `MyQuicVideoSender`: `Process`, the functions it calls,
and the machine whose events are the activities that `Process` strings together.

The source of video frames, the clock and the socket are inputs. A step yields
what happens to chunks and what is handed to the socket. It is undefined where
the source would fail an assertion or overrun a buffer.
-/

namespace StupidSimple.Quic

open StupidSimple.Library

/-! ### Frames and chunks -/

def maxSplitNumber : Nat := 1024
def quicMaxVideoSize : Nat := 1000

/-- `FrameSplit`, for a size that the assertion of its callers lets through. -/
def frameSplit (size : Nat) : List Nat :=
  if size ≤ quicMaxVideoSize then [size]
  else
    List.replicate (size / quicMaxVideoSize) quicMaxVideoSize ++
      if 0 < size % quicMaxVideoSize then [size % quicMaxVideoSize] else []

/-- The chunks of what the source returned for a frame. -/
def frameChunks (frameLen : Int) : Option (List Nat) :=
  if 0 < frameLen then
    if frameLen / quicMaxVideoSize < maxSplitNumber then some (frameSplit frameLen.toNat) else none
  else some []

/-- What becomes of a chunk, and what is sent. -/
inductive VideoEvent where
  | queued (chunk : Nat)
  | transmitted (transmission : Transmission)
  | removed (seq chunk : Nat)
deriving DecidableEq, Repr

namespace MyQuicVideoSender

/-- The constructor, at a time. -/
def create (now : Nat) : MyQuicVideoSender where
  acks := ⟨[], now, 1, 0⟩
  seq := 1
  pendingQueue := []
  sentQueue := OrderedMap.empty

def queueFrame (frameLen : Int) (sender : MyQuicVideoSender) :
    Option (MyQuicVideoSender × List VideoEvent) := do
  let chunks ← frameChunks frameLen
  some ({ sender with pendingQueue := sender.pendingQueue ++ chunks }, chunks.map .queued)

/-! ### Incoming data -/

/-- The entries that the loop of `OnAckRange` removes. -/
def removedEntries : (count start : Nat) → OrderedMap Nat Nat → List (Nat × Nat)
  | 0, _, _ => []
  | count + 1, start, sentQueue =>
      ((sentQueue.find? start).map (Prod.mk start)).toList ++
        removedEntries count (start + 1) (removeAckedPacket start sentQueue)

def removedByCall (call : VisitorCall) (sender : MyQuicVideoSender) : List (Nat × Nat) :=
  match call with
  | .onAckRange start stop _ => removedEntries (stop - start) start sender.sentQueue
  | _ => []

/-- The entries that the calls of a datagram remove, one call after the other. -/
def removedByCalls (manager : QuicSentPacketManager) :
    List VisitorCall → MyQuicVideoSender → List (Nat × Nat)
  | [], _ => []
  | call :: calls, sender =>
      removedByCall call sender ++ removedByCalls manager calls (sender.onCall manager call)

/-- `OnIncomingData` and what it removes. Nothing is received as no bytes. -/
def receive (env : FramerEnv) (manager : QuicSentPacketManager) (now : Nat) (data : List UInt8)
    (sender : MyQuicVideoSender) : Option (MyQuicVideoSender × List VideoEvent) :=
  if data = [] then some (sender, [])
  else do
    let frames ← framePayload data
    let (_, after) ← sender.onIncomingData env manager now data
    let removed := removedByCalls manager (recordFrames env frames).2.visitor (sender.received now)
    some (after, removed.map fun entry => .removed entry.1 entry.2)

/-! ### Sending -/

section Sending

variable (io : QuicData)

/-- `OnPacketSent` for a packet that is not a retransmission. -/
def onPacketSent (packetNumber : Nat) (packetNumberLength : QuicPacketNumberLength)
    (encryptedLength : Nat) (hasRetransmittableData : Bool) (now : Nat)
    (sender : MyQuicVideoSender) : MyQuicVideoSender :=
  let frames := if hasRetransmittableData then [⟨0, false, 0, [], 0⟩] else []
  let info := ⟨packetNumber, packetNumberLength, encryptedLength, frames⟩
  { sender with
    acks := { sender.acks with
      sentPacketManager := sender.acks.sentPacketManager ++
        [.onPacketSent info 0 now .notRetransmission hasRetransmittableData] } }

/-- What is sent for a chunk: as many bytes of the packet's buffer as the header
and the chunk have. -/
def chunkPacket (seq chunk : Nat) : List UInt8 :=
  (packetBuffer kMaxPacketSize (writeStreamHeader io seq)).take
    ((writeStreamHeader io seq).length + chunk)

def sendFakePacket (now : Nat) (sender : MyQuicVideoSender) :
    MyQuicVideoSender × List VideoEvent :=
  match sender.pendingQueue with
  | [] => (sender, [])
  | chunk :: rest =>
      let seq := sender.seq
      let told := onPacketSent seq (getMinSeqLength seq) (chunk % 2 ^ 16) true now
        { sender with pendingQueue := rest }
      ({ told with sentQueue := told.sentQueue.insert seq chunk, seq := seq + 1 },
        [.transmitted (.stream (.data chunk) seq now (chunkPacket io seq chunk))])

def sendPaddingData (now : Nat) (sender : MyQuicVideoSender) :
    MyQuicVideoSender × List VideoEvent :=
  let seq := sender.seq
  let header := writeStreamHeader io seq
  let payload := quicMaxVideoSize - header.length
  let told := onPacketSent seq (getMinSeqLength seq) payload false now sender
  ({ told with seq := seq + 1 },
    [.transmitted (.stream .padding seq now (packetBuffer quicMaxVideoSize header))])

def sendDataOrPadding (manager : QuicSentPacketManager) (now : Nat) (sender : MyQuicVideoSender) :
    MyQuicVideoSender × List VideoEvent :=
  if sender.pendingQueue = [] then
    if manager.shouldSendProbingPacket sender.acks.sentPacketManager then
      sender.sendPaddingData io now
    else (sender, [])
  else sender.sendFakePacket io now

/-- `OnRetransPacket`: a number that is not in `sent_queue_` is passed over. -/
def onRetransPacket (pending : QuicPendingRetransmission) (now : Nat)
    (sender : MyQuicVideoSender) : MyQuicVideoSender × List VideoEvent :=
  let oldSeq := pending.packetNumber
  match sender.sentQueue.find? oldSeq with
  | none => (sender, [])
  | some chunk =>
      let seq := sender.seq
      let info := ⟨seq, getMinSeqLength seq, chunk % 2 ^ 16, pending.retransmittableFrames⟩
      ({ sender with
          acks := { sender.acks with
            sentPacketManager := sender.acks.sentPacketManager ++
              [.onPacketSent info oldSeq now .lossRetransmission true] }
          sentQueue := (sender.sentQueue.erase oldSeq).insert seq chunk
          seq := seq + 1 },
        [.transmitted
          (.stream (.retransmission oldSeq chunk) seq now (chunkPacket io seq chunk))])

def sendStopWaitingFrame (manager : QuicSentPacketManager) (sender : MyQuicVideoSender) :
    MyQuicVideoSender × List VideoEvent :=
  let unackSeq := manager.getLeastUnacked sender.acks.sentPacketManager
  ({ sender with acks := { sender.acks with stopWaitingCount := 0 } },
    [.transmitted
      (.stopWaiting sender.seq unackSeq (stopWaitingPacket io sender.seq unackSeq))])

end Sending

/-! ### Activities of `Process` -/

section Activities

variable (env : FramerEnv) (manager : QuicSentPacketManager)

def sendIfDue (now sentAt : Nat) (sender : MyQuicVideoSender) :
    MyQuicVideoSender × List VideoEvent :=
  if manager.timeUntilSend sender.acks.sentPacketManager now = some 0 then
    sender.sendDataOrPadding env.io manager sentAt
  else (sender, [])

def stopWaitingIfDue (sender : MyQuicVideoSender) : MyQuicVideoSender × List VideoEvent :=
  if 2 < sender.acks.stopWaitingCount then sender.sendStopWaitingFrame env.io manager
  else (sender, [])

/-- The loop of `SendRetransmission` goes on. -/
def retransmissionDue (now : Nat) (sender : MyQuicVideoSender) : Prop :=
  manager.timeUntilSend sender.acks.sentPacketManager now = some 0 ∧
    manager.hasPendingRetransmissions sender.acks.sentPacketManager = true

instance (now : Nat) (sender : MyQuicVideoSender) : Decidable (sender.retransmissionDue manager now) :=
  inferInstanceAs (Decidable (_ ∧ _))

/-- The body of the loop of `SendRetransmission`. -/
def retransmitNext (sentAt : Nat) (sender : MyQuicVideoSender) :
    MyQuicVideoSender × List VideoEvent :=
  sender.onRetransPacket env.io
    (manager.nextPendingRetransmission sender.acks.sentPacketManager) sentAt

/-- `SendRetransmission`, or `none` when its loop is not left within `bound`
rounds. The clock is read once for the loop and once for each packet. -/
def sendRetransmission (now : Nat) (sentAt : Nat → Nat) :
    (bound : Nat) → MyQuicVideoSender → Option (MyQuicVideoSender × List VideoEvent)
  | 0, sender => if sender.retransmissionDue manager now then none else some (sender, [])
  | bound + 1, sender =>
      if sender.retransmissionDue manager now then do
        let (next, sent) := sender.retransmitNext env manager (sentAt sender.seq)
        let (final, later) ← sendRetransmission now sentAt bound next
        some (final, sent ++ later)
      else some (sender, [])

end Activities

end MyQuicVideoSender

/-! ### Process -/

/-- What a call of `Process` gets from the clock, from the source and from the
socket. -/
structure ProcessInput where
  now : Nat
  frameLen : Int
  received : List UInt8
  receivedAt : Nat
  retransmittingAt : Nat
  /-- The clock when a packet number is handed to the manager. -/
  sentAt : Nat → Nat

section Machine

variable (env : FramerEnv) (manager : QuicSentPacketManager)

/-- `Process` up to `SendRetransmission`. -/
def MyQuicVideoSender.serve (input : ProcessInput) (sender : MyQuicVideoSender) :
    Option (MyQuicVideoSender × List VideoEvent) := do
  let (framed, queued) ← sender.queueFrame input.frameLen
  let (served, sent) := framed.sendIfDue env manager input.now (input.sentAt framed.seq)
  let (informed, removed) ← served.receive env manager input.receivedAt input.received
  let (answered, stopWaiting) := informed.stopWaitingIfDue env manager
  some (answered, queued ++ sent ++ removed ++ stopWaiting)

/-- `Process`, with a bound for the rounds of its loop. -/
def MyQuicVideoSender.process (bound : Nat) (input : ProcessInput) (sender : MyQuicVideoSender) :
    Option (MyQuicVideoSender × List VideoEvent) := do
  let (answered, events) ← sender.serve env manager input
  let (final, resent) ← answered.sendRetransmission env manager input.retransmittingAt input.sentAt
    bound
  some (final, events ++ resent)

/-- Calls of `Process`, each with a bound for its loop. -/
def processMachine : Machine MyQuicVideoSender (Nat × ProcessInput) (List VideoEvent) where
  step sender call := sender.process env manager call.1 call.2

/-- One activity of `Process`; a retransmission is one round of its loop. -/
inductive VideoActivity where
  | frame (frameLen : Int)
  | send (now sentAt : Nat)
  | receive (now : Nat) (data : List UInt8)
  | stopWaiting
  | retransmission (now sentAt : Nat)
deriving DecidableEq, Repr

/-- The activities in any order. -/
def videoMachine : Machine MyQuicVideoSender VideoActivity (List VideoEvent) where
  step sender
    | .frame frameLen => sender.queueFrame frameLen
    | .send now sentAt => some (sender.sendIfDue env manager now sentAt)
    | .receive now data => sender.receive env manager now data
    | .stopWaiting => some (sender.stopWaitingIfDue env manager)
    | .retransmission now sentAt =>
        if sender.retransmissionDue manager now then some (sender.retransmitNext env manager sentAt)
        else some (sender, [])

variable {env manager}

/-- The rounds of a loop that is left are retransmissions. -/
theorem MyQuicVideoSender.sendRetransmission_run {now : Nat} {sentAt : Nat → Nat} {bound : Nat}
    {sender final : MyQuicVideoSender} {events : List VideoEvent}
    (left : sender.sendRetransmission env manager now sentAt bound = some (final, events)) :
    ∃ history, (videoMachine env manager).Run sender history final ∧
      history.flatMap Prod.snd = events := by
  induction bound generalizing sender events with
  | zero =>
      rw [sendRetransmission] at left
      split_ifs at left
      cases left
      exact ⟨[], .nil, rfl⟩
  | succ bound inductionHypothesis =>
      rw [sendRetransmission] at left
      split_ifs at left with due
      · have ⟨result, later, same⟩ := Option.bind_eq_some_iff.mp left
        cases same
        have ⟨history, run, sameEvents⟩ := inductionHypothesis later
        have stepped : (videoMachine env manager).step sender
            (.retransmission now (sentAt sender.seq)) =
              some (sender.retransmitNext env manager (sentAt sender.seq)) := if_pos due
        refine ⟨_, run.cons stepped, ?_⟩
        rw [List.flatMap_cons, sameEvents]
      · cases left
        exact ⟨[], .nil, rfl⟩

/-- A call of `Process` strings activities together. -/
theorem MyQuicVideoSender.process_run {bound : Nat} {input : ProcessInput}
    {sender final : MyQuicVideoSender} {events : List VideoEvent}
    (processed : sender.process env manager bound input = some (final, events)) :
    ∃ history, (videoMachine env manager).Run sender history final ∧
      history.flatMap Prod.snd = events := by
  have ⟨answered, serving, rest⟩ := Option.bind_eq_some_iff.mp processed
  have ⟨resent, retransmitting, same⟩ := Option.bind_eq_some_iff.mp rest
  cases same
  have ⟨framed, framing, rest⟩ := Option.bind_eq_some_iff.mp serving
  have ⟨informed, receiving, same⟩ := Option.bind_eq_some_iff.mp rest
  cases same
  have ⟨history, run, sameEvents⟩ := sendRetransmission_run retransmitting
  let sent : MyQuicVideoSender × List VideoEvent :=
    framed.1.sendIfDue env manager input.now (input.sentAt framed.1.seq)
  have answering : (videoMachine env manager).step informed.1 .stopWaiting =
      some (informed.1.stopWaitingIfDue env manager) := rfl
  have received : (videoMachine env manager).step sent.1
      (.receive input.receivedAt input.received) = some informed := receiving
  have sending : (videoMachine env manager).step framed.1
      (.send input.now (input.sentAt framed.1.seq)) = some sent := rfl
  have queueing : (videoMachine env manager).step sender (.frame input.frameLen) =
      some framed := framing
  refine ⟨_, .cons queueing (.cons sending (.cons received (run.cons answering))), ?_⟩
  simp [sameEvents]

end Machine

end StupidSimple.Quic
