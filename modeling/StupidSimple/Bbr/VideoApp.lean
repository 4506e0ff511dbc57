import StupidSimple.Bbr.Pacing
import StupidSimple.Quic.AckRoundTrip
import StupidSimple.Quic.VideoSender

/-!
Owns `MyBbrVideoSenderApp` and the count of its chunks. `SendFakePacket` of this app
leaves the chunk it sends in `pending_queue_`, so the queue never gets shorter:
`chunks_counted_iff` says that the count is right exactly while nothing is sent for
a chunk.
-/

namespace StupidSimple.Bbr

open StupidSimple.Library StupidSimple.Quic

section App

variable {Bandwidth Filter : Type}

def MyBbrSender.shouldSendProbePacket (sender : MyBbrSender Bandwidth Filter) : Bool :=
  if sender.pacingGain ≤ 1 then false else true

/-- The members of the app, but for the log, the address and the video source. -/
structure MyBbrVideoSenderApp (Bandwidth Filter : Type) where
  app : PacedApp Bandwidth Filter
  pendingQueue : List Nat

namespace MyBbrVideoSenderApp

variable [LinearOrder Bandwidth] (io : QuicData) (platform : Platform Bandwidth Filter)
  (transferTime : Bandwidth → Nat → Delta)

def create (minBps startBps maxBps : Nat) : MyBbrVideoSenderApp Bandwidth Filter where
  app := .create platform minBps startBps maxBps
  pendingQueue := []

def queueFrame (frameLen : Int) (sender : MyBbrVideoSenderApp Bandwidth Filter) :
    Option (MyBbrVideoSenderApp Bandwidth Filter × List (AppEvent Bandwidth)) := do
  let chunks ← frameChunks frameLen
  some ({ sender with pendingQueue := sender.pendingQueue ++ chunks }, chunks.map .queued)

/-- `pending_queue_` is not touched. -/
def sendFakePacket (now : QuicTime) (beyond : List UInt8)
    (sender : MyBbrVideoSenderApp Bandwidth Filter) :
    Option (MyBbrVideoSenderApp Bandwidth Filter × List (AppEvent Bandwidth)) := do
  let (app, events) ← sender.app.sendPacket io platform transferTime .stream now beyond
  some ({ sender with app := app }, events)

def sendPaddingPacket (now : QuicTime) (beyond : List UInt8)
    (sender : MyBbrVideoSenderApp Bandwidth Filter) :
    Option (MyBbrVideoSenderApp Bandwidth Filter × List (AppEvent Bandwidth)) := do
  let (app, events) ← sender.app.sendPacket io platform transferTime .padding now beyond
  some ({ sender with app := app }, events)

def sendDataOrPadding (now : QuicTime) (beyond : List UInt8)
    (sender : MyBbrVideoSenderApp Bandwidth Filter) :
    Option (MyBbrVideoSenderApp Bandwidth Filter × List (AppEvent Bandwidth)) :=
  if sender.pendingQueue = [] then
    if sender.app.cc.shouldSendProbePacket then
      sender.sendPaddingPacket io platform transferTime now beyond
    else some (sender, [])
  else sender.sendFakePacket io platform transferTime now beyond

def sendIfDue (now : QuicTime) (beyond : List UInt8)
    (sender : MyBbrVideoSenderApp Bandwidth Filter) :
    Option (MyBbrVideoSenderApp Bandwidth Filter × List (AppEvent Bandwidth)) :=
  if sender.app.pacing.timeUntilSend now = 0 then
    sender.sendDataOrPadding io platform transferTime now beyond
  else some (sender, [])

def processAckFrame (now : QuicTime) (data : List UInt8) (draw : Nat)
    (sender : MyBbrVideoSenderApp Bandwidth Filter) :
    Option (MyBbrVideoSenderApp Bandwidth Filter × List (AppEvent Bandwidth)) := do
  let (app, events) ← sender.app.receive io platform now data draw
  some ({ sender with app := app }, events)

def process (input : AppInput) (sender : MyBbrVideoSenderApp Bandwidth Filter) :
    Option (MyBbrVideoSenderApp Bandwidth Filter × List (AppEvent Bandwidth)) := do
  let (framed, queued) ← sender.queueFrame input.frameLen
  let (served, sent) ← framed.sendIfDue io platform transferTime input.now input.beyond
  let (informed, acked) ← served.processAckFrame io platform input.now input.received input.draw
  some (informed, queued ++ sent ++ acked)

end MyBbrVideoSenderApp

/-- Calls of `Process`. -/
def videoAppMachine [LinearOrder Bandwidth] (io : QuicData) (platform : Platform Bandwidth Filter)
    (transferTime : Bandwidth → Nat → Delta) :
    Machine (MyBbrVideoSenderApp Bandwidth Filter) AppInput (List (AppEvent Bandwidth)) where
  step sender input := sender.process io platform transferTime input

end App

/-! ### Counting -/

section Counting

variable {Bandwidth Filter : Type}

def AppEvent.isQueued : AppEvent Bandwidth → Bool
  | .queued _ => true
  | _ => false

def AppEvent.isStreamPacket : AppEvent Bandwidth → Bool
  | .sent .stream _ _ _ _ _ => true
  | _ => false

def pushedChunks (events : List (AppEvent Bandwidth)) : Nat := events.countP AppEvent.isQueued

def streamPackets (events : List (AppEvent Bandwidth)) : Nat :=
  events.countP AppEvent.isStreamPacket

@[simp] theorem pushedChunks_append (first second : List (AppEvent Bandwidth)) :
    pushedChunks (first ++ second) = pushedChunks first + pushedChunks second :=
  List.countP_append

@[simp] theorem streamPackets_append (first second : List (AppEvent Bandwidth)) :
    streamPackets (first ++ second) = streamPackets first + streamPackets second :=
  List.countP_append

theorem pushedChunks_queued (chunks : List Nat) :
    pushedChunks (chunks.map AppEvent.queued : List (AppEvent Bandwidth)) = chunks.length := by
  induction chunks with
  | nil => rfl
  | cons chunk chunks inductionHypothesis =>
      rw [List.map_cons, List.length_cons, ← inductionHypothesis]
      exact List.countP_cons_of_pos rfl

theorem streamPackets_queued (chunks : List Nat) :
    streamPackets (chunks.map AppEvent.queued : List (AppEvent Bandwidth)) = 0 := by
  induction chunks with
  | nil => rfl
  | cons chunk chunks inductionHypothesis => exact inductionHypothesis

/-- The chunks of a frame are none exactly when there is no frame. -/
theorem frameChunks_eq_nil_iff {frameLen : Int} {chunks : List Nat}
    (split : frameChunks frameLen = some chunks) : chunks = [] ↔ ¬0 < frameLen := by
  unfold frameChunks at split
  split_ifs at split with frame small
  · cases split
    have some : frameSplit frameLen.toNat ≠ [] := by
      unfold frameSplit
      split_ifs with one more
      · simp
      · simp
      · have whole : 0 < frameLen.toNat / quicMaxVideoSize :=
          Nat.div_pos (Nat.le_of_not_le one) (by decide)
        simp [whole.ne']
    exact iff_of_false some (not_not.mpr frame)
  · cases split
    exact iff_of_true rfl frame

variable {io : QuicData} {platform : Platform Bandwidth Filter}
  {transferTime : Bandwidth → Nat → Delta}

/-- The pacer lets a packet out while a chunk is queued, the new frame included. -/
def ChunkDue (transition : Transition (MyBbrVideoSenderApp Bandwidth Filter) AppInput) : Prop :=
  transition.before.app.pacing.timeUntilSend transition.event.now = 0 ∧
    (transition.before.pendingQueue ≠ [] ∨ 0 < transition.event.frameLen)

theorem PacedApp.sendPacket_counts {type : TestProto} {now : QuicTime} {beyond : List UInt8}
    {app after : PacedApp Bandwidth Filter} {events : List (AppEvent Bandwidth)}
    (sent : app.sendPacket io platform transferTime type now beyond = some (after, events)) :
    pushedChunks events = 0 ∧ streamPackets events = if type = .stream then 1 else 0 := by
  have ⟨result, _, same⟩ := Option.bind_eq_some_iff.mp sent
  cases same
  cases type <;> exact ⟨rfl, rfl⟩

/-- What the middle of `Process` sends. -/
theorem MyBbrVideoSenderApp.sendIfDue_counts {now : QuicTime} {beyond : List UInt8}
    {sender after : MyBbrVideoSenderApp Bandwidth Filter} {events : List (AppEvent Bandwidth)}
    (served : sender.sendIfDue io platform transferTime now beyond = some (after, events)) :
    pushedChunks events = 0 ∧ after.pendingQueue = sender.pendingQueue ∧
      streamPackets events =
        if sender.app.pacing.timeUntilSend now = 0 ∧ sender.pendingQueue ≠ [] then 1 else 0 := by
  unfold sendIfDue sendDataOrPadding at served
  split_ifs at served with due empty probing
  · have ⟨result, sending, same⟩ := Option.bind_eq_some_iff.mp served
    cases same
    have ⟨pushed, sent⟩ := PacedApp.sendPacket_counts sending
    refine ⟨pushed, rfl, ?_⟩
    rw [sent]
    simp [empty]
  · cases served
    exact ⟨rfl, rfl, (if_neg fun both => both.2 empty).symm⟩
  · have ⟨result, sending, same⟩ := Option.bind_eq_some_iff.mp served
    cases same
    have ⟨pushed, sent⟩ := PacedApp.sendPacket_counts sending
    refine ⟨pushed, rfl, ?_⟩
    rw [sent]
    simp [due, empty]
  · cases served
    exact ⟨rfl, rfl, (if_neg fun both => due both.1).symm⟩

variable [LinearOrder Bandwidth]

theorem PacedApp.receive_counts {now : QuicTime} {data : List UInt8} {draw : Nat}
    {app after : PacedApp Bandwidth Filter} {events : List (AppEvent Bandwidth)}
    (received : app.receive io platform now data draw = some (after, events)) :
    pushedChunks events = 0 ∧ streamPackets events = 0 := by
  unfold PacedApp.receive at received
  split_ifs at received
  · cases received
    exact ⟨rfl, rfl⟩
  · have ⟨acked, _, rest⟩ := Option.bind_eq_some_iff.mp received
    cases acked with
    | none =>
        cases rest
        exact ⟨rfl, rfl⟩
    | some num =>
        have ⟨result, _, same⟩ := Option.bind_eq_some_iff.mp rest
        cases same
        exact ⟨rfl, rfl⟩

/-- A call of `Process` adds its chunks to the queue, and sends a stream packet
exactly when a chunk is due. -/
theorem MyBbrVideoSenderApp.process_counts {input : AppInput}
    {sender after : MyBbrVideoSenderApp Bandwidth Filter} {events : List (AppEvent Bandwidth)}
    (processed : sender.process io platform transferTime input = some (after, events)) :
    after.pendingQueue.length = sender.pendingQueue.length + pushedChunks events ∧
      (streamPackets events = 0 ↔ ¬ChunkDue ⟨sender, input, after⟩) := by
  have ⟨framed, framing, rest⟩ := Option.bind_eq_some_iff.mp processed
  have ⟨served, serving, rest⟩ := Option.bind_eq_some_iff.mp rest
  have ⟨informed, acking, same⟩ := Option.bind_eq_some_iff.mp rest
  cases same
  have ⟨chunks, split, sameFrame⟩ := Option.bind_eq_some_iff.mp framing
  cases sameFrame
  have ⟨received, receiving, sameApp⟩ := Option.bind_eq_some_iff.mp acking
  cases sameApp
  have ⟨noneAcked, silent⟩ := PacedApp.receive_counts receiving
  have ⟨nonePushed, kept, sent⟩ := sendIfDue_counts serving
  constructor
  · rw [pushedChunks_append, pushedChunks_append, pushedChunks_queued, nonePushed, noneAcked, kept,
      List.length_append]
    rfl
  · have queued : sender.pendingQueue ++ chunks ≠ [] ↔
        (sender.pendingQueue ≠ [] ∨ 0 < input.frameLen) := by
      rw [Ne, List.append_eq_nil_iff, not_and_or, frameChunks_eq_nil_iff split, not_not]
    have due : (sender.app.pacing.timeUntilSend input.now = 0 ∧
        sender.pendingQueue ++ chunks ≠ []) ↔ ChunkDue ⟨sender, input, ⟨received.1,
          served.1.pendingQueue⟩⟩ := and_congr_right fun _ => queued
    rw [streamPackets_append, streamPackets_append, streamPackets_queued, silent, sent, ← due]
    change 0 + (if sender.app.pacing.timeUntilSend input.now = 0 ∧
      sender.pendingQueue ++ chunks ≠ [] then 1 else 0) + 0 = 0 ↔ _
    split_ifs with isDue
    · exact iff_of_false (by decide) (not_not.mpr isDue)
    · exact iff_of_true rfl isDue

variable {minBps startBps maxBps : Nat} {sender : MyBbrVideoSenderApp Bandwidth Filter}
  {history : List (AppInput × List (AppEvent Bandwidth))}

/-- The queue keeps every chunk that was pushed. -/
theorem length_pendingQueue
    (run : (videoAppMachine io platform transferTime).Run
      (.create platform minBps startBps maxBps) history sender) :
    sender.pendingQueue.length = pushedChunks (history.flatMap Prod.snd) := by
  induction run with
  | nil => rfl
  | snoc before stepped inductionHypothesis =>
      have grown := (MyBbrVideoSenderApp.process_counts stepped).1
      rw [List.flatMap_append, List.flatMap_singleton, pushedChunks_append, grown,
        inductionHypothesis]

theorem streamPackets_eq_zero_iff
    (run : (videoAppMachine io platform transferTime).Run
      (.create platform minBps startBps maxBps) history sender) :
    streamPackets (history.flatMap Prod.snd) = 0 ↔
      ∀ transition ∈ (videoAppMachine io platform transferTime).transitions
        (.create platform minBps startBps maxBps) (history.map Prod.fst),
          ¬ChunkDue transition := by
  induction run with
  | nil => exact iff_of_true rfl fun transition member => absurd member List.not_mem_nil
  | snoc before stepped inductionHypothesis =>
      have own := (MyBbrVideoSenderApp.process_counts stepped).2
      rw [List.map_append, List.map_singleton, before.transitions_snoc stepped,
        List.flatMap_append, List.flatMap_singleton, streamPackets_append, Nat.add_eq_zero_iff,
        inductionHypothesis, own]
      simp only [List.mem_append, List.mem_singleton, or_imp, forall_and, forall_eq]

/-- In every run the stream packets and the queued chunks make up the chunks that
were pushed exactly when the pacer has never let a packet out while a chunk was
queued. -/
theorem chunks_counted_iff
    (run : (videoAppMachine io platform transferTime).Run
      (.create platform minBps startBps maxBps) history sender) :
    streamPackets (history.flatMap Prod.snd) + sender.pendingQueue.length =
        pushedChunks (history.flatMap Prod.snd) ↔
      ∀ transition ∈ (videoAppMachine io platform transferTime).transitions
        (.create platform minBps startBps maxBps) (history.map Prod.fst),
          ¬ChunkDue transition := by
  rw [length_pendingQueue run, ← streamPackets_eq_zero_iff run]
  omega

end Counting

/-! ### One chunk -/

/-- A frame of one chunk, and two more calls when the pacer lets packets out. -/
def oneChunkInputs : List AppInput :=
  [⟨1000, 1000, [], 0, []⟩, ⟨100000, 0, [], 0, []⟩, ⟨200000, 0, [], 0, []⟩]

theorem oneChunk_run :
    ∃ history sender,
      (videoAppMachine plainEnv.io Platform.bits fun _ _ => 11184).Run
        (.create Platform.bits 1000000 1000000 1000000) history sender ∧
      history.map Prod.fst = oneChunkInputs ∧ pushedChunks (history.flatMap Prod.snd) = 1 ∧
      streamPackets (history.flatMap Prod.snd) = 3 ∧ sender.pendingQueue = [1000] := by
  have ⟨history, sender, run, sameInputs, checked⟩ :=
    (videoAppMachine plainEnv.io Platform.bits fun _ _ => 11184).exists_run_of_check
      (.create Platform.bits 1000000 1000000 1000000) oneChunkInputs
      (fun result => pushedChunks (result.2.flatMap Prod.snd) = 1 ∧
        streamPackets (result.2.flatMap Prod.snd) = 3 ∧ result.1.pendingQueue = [1000])
      (by decide +kernel)
  exact ⟨history, sender, run, sameInputs, of_decide_eq_true checked⟩

/-- The chunk is sent three times and is still queued. -/
theorem chunks_miscounted_oneChunk :
    ∃ history sender,
      (videoAppMachine plainEnv.io Platform.bits fun _ _ => 11184).Run
        (.create Platform.bits 1000000 1000000 1000000) history sender ∧
      history.map Prod.fst = oneChunkInputs ∧ pushedChunks (history.flatMap Prod.snd) = 1 ∧
      streamPackets (history.flatMap Prod.snd) = 3 ∧ sender.pendingQueue = [1000] ∧
      streamPackets (history.flatMap Prod.snd) + sender.pendingQueue.length ≠
        pushedChunks (history.flatMap Prod.snd) := by
  have ⟨history, sender, run, sameInputs, pushed, sent, queue⟩ := oneChunk_run
  refine ⟨history, sender, run, sameInputs, pushed, sent, queue, ?_⟩
  rw [pushed, sent, queue]
  decide

theorem chunks_counted_iff_oneChunk :
    ∃ history sender,
      (videoAppMachine plainEnv.io Platform.bits fun _ _ => 11184).Run
        (.create Platform.bits 1000000 1000000 1000000) history sender ∧
      ¬∀ transition ∈ (videoAppMachine plainEnv.io Platform.bits fun _ _ => 11184).transitions
        (.create Platform.bits 1000000 1000000 1000000) (history.map Prod.fst),
          ¬ChunkDue transition := by
  have ⟨history, sender, run, _, pushed, sent, queue⟩ := oneChunk_run
  refine ⟨history, sender, run, ?_⟩
  rw [← chunks_counted_iff run, pushed, sent, queue]
  decide

end StupidSimple.Bbr
