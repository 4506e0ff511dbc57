import StupidSimple.Bbr.BogusAck
import StupidSimple.Bbr.Conformance
import StupidSimple.Bbr.HeaderRoundTrip
import StupidSimple.Bbr.LossRecord
import StupidSimple.Bbr.VideoApp
import StupidSimple.Library.Network

/-!
Owns sessions of the sender apps with `MyBbrReceiverApp`, over a network that may lose,
repeat, delay and reorder datagrams. The app is refined by a run of its controller, and
the controller hears of no packet that was not sent before and has not arrived.
-/

namespace StupidSimple.Bbr

open StupidSimple.Library StupidSimple.Quic

/-! ### The parties -/

section Parties

variable {Bandwidth Filter : Type}

/-- The datagram that an app hands to its socket. -/
def AppEvent.datagram : AppEvent Bandwidth → Option (List UInt8)
  | .sent _ _ _ _ _ datagram => some datagram
  | _ => none

def ReceiverAppEvent.datagram : ReceiverAppEvent → Option (List UInt8)
  | .ack datagram => some datagram
  | .loss _ => none

/-- A sender app; nothing is received as no bytes. -/
def senderAppParty {App : Type} (machine : Machine App AppInput (List (AppEvent Bandwidth))) :
    Party App AppInput (List (AppEvent Bandwidth)) (List UInt8) where
  machine := machine
  delivered input := if input.received = [] then [] else [input.received]
  sent events := events.filterMap AppEvent.datagram

def receiverAppParty (io : QuicData) :
    Party MyBbrReceiverApp (List UInt8) (List ReceiverAppEvent) (List UInt8) where
  machine := receiverAppMachine io
  delivered data := if data = [] then [] else [data]
  sent events := events.filterMap ReceiverAppEvent.datagram

section Receiver

variable (io : QuicData) {data : List UInt8} (app : MyBbrReceiverApp)

theorem filterMap_datagram_losses (seqs : List Nat) :
    (seqs.map ReceiverAppEvent.loss).filterMap ReceiverAppEvent.datagram = [] := by
  rw [List.filterMap_map]
  exact List.filterMap_eq_nil_iff.mpr fun _ _ => rfl

theorem datagrams_of_dataNumber_none (uncounted : dataNumber io data = none) :
    (app.process io data).2.filterMap ReceiverAppEvent.datagram = [] := by
  unfold dataNumber at uncounted
  unfold MyBbrReceiverApp.process MyBbrReceiverApp.onIncomingData
  dsimp only at uncounted ⊢
  split_ifs at uncounted ⊢ <;> rfl

/-- A number that arrives is acked once. -/
theorem datagrams_of_dataNumber_some {seq : Nat} (counted : dataNumber io data = some seq) :
    (app.process io data).2.filterMap ReceiverAppEvent.datagram =
      [writePacketHeader io .ack seq] := by
  unfold dataNumber at counted
  unfold MyBbrReceiverApp.process MyBbrReceiverApp.onIncomingData
  dsimp only at counted ⊢
  split_ifs at counted with empty answered
  have acked : (MyBbrReceiverApp.sendAck io seq).datagram =
      some (writePacketHeader io .ack seq) := rfl
  obtain rfl := Option.some.inj counted
  rw [if_neg empty, if_pos answered, List.filterMap_cons_some acked, filterMap_datagram_losses]

theorem delivered_of_dataNumber {seq : Nat} (counted : dataNumber io data = some seq) :
    data ∈ (receiverAppParty io).delivered data ∧ seq < 2 ^ 48 := by
  unfold dataNumber at counted
  dsimp only at counted
  split_ifs at counted with empty
  obtain rfl := Option.some.inj counted
  refine ⟨?_, readPacket_lt io data⟩
  show data ∈ if data = [] then [] else [data]
  rw [if_neg empty]
  exact List.mem_singleton_self data

/-- The receiver acks only numbers that have arrived. -/
theorem receiverAppParty_honest :
    (receiverAppParty io).Honest app (fun _ => True)
      (fun datagram number => ackedNumber io datagram = some (some number))
      (fun datagram number => dataNumber io datagram = some number) := by
  apply Party.Honest.of_step
  rintro state after data events stepped datagram member number asserted
  have processed : (state.process io data).2 = events :=
    congrArg Prod.snd (Option.some.inj stepped)
  rw [← processed] at member
  change datagram ∈ (state.process io data).2.filterMap ReceiverAppEvent.datagram at member
  cases counted : dataNumber io data with
  | none =>
      rw [datagrams_of_dataNumber_none io state counted] at member
      cases member
  | some seq =>
      have ⟨delivered, narrow⟩ := delivered_of_dataNumber io counted
      rw [datagrams_of_dataNumber_some io state counted, List.mem_singleton] at member
      rw [member, ackedNumber_ack io narrow] at asserted
      cases asserted
      exact ⟨data, delivered, counted⟩

end Receiver

end Parties

/-! ### The controller of an app -/

section Controller

variable {Bandwidth Filter : Type}

/-- The calls that an app makes to its controller, as events of the controller. -/
def controllerEvents (entry : AppInput × List (AppEvent Bandwidth)) : List Event :=
  entry.2.filterMap fun
    | .sent _ seq time bytes _ _ => some (.packetSent time seq bytes)
    | .congestionEvent number => some (.ack entry.1.now number entry.1.draw)
    | .queued _ => none

/-- The numbers that the apps give to the first packets; they are of type `uint32_t`. -/
def wrappedNumbers (count : Nat) : List Nat := (List.range count).map fun i => (i + 1) % 2 ^ 32

theorem wrappedNumbers_succ (count : Nat) :
    wrappedNumbers (count + 1) = wrappedNumbers count ++ [(count + 1) % 2 ^ 32] := by
  rw [wrappedNumbers, List.range_succ, List.map_append]
  rfl

/-- Every ack is an ack of a packet that was sent before. -/
def AcksSent (events : List Event) : Prop :=
  ∀ before time number draw after, events = before ++ .ack time number draw :: after →
    number ∈ numbersSent before

theorem AcksSent.append {events later : List Event} (sound : AcksSent events)
    (acked : ∀ before time number draw after, later = before ++ .ack time number draw :: after →
      number ∈ numbersSent (events ++ before)) : AcksSent (events ++ later) := by
  intro before time number draw after split
  rcases List.append_eq_append_iff.mp split with ⟨extra, rfl, rest⟩ | ⟨extra, rfl, rest⟩
  · exact acked extra time number draw after rest
  · cases extra with
    | nil =>
        have own := acked [] time number draw after (by simpa using rest.symm)
        simpa using own
    | cons event extra =>
        obtain ⟨rfl, rfl⟩ := List.cons.inj rest
        exact sound before time number draw extra rfl

theorem controllerEvents_append (input : AppInput) (first second : List (AppEvent Bandwidth)) :
    controllerEvents (input, first ++ second) =
      controllerEvents (input, first) ++ controllerEvents (input, second) :=
  List.filterMap_append

theorem controllerEvents_queued (input : AppInput) (chunks : List Nat) :
    controllerEvents (input, (chunks.map .queued : List (AppEvent Bandwidth))) = [] := by
  rw [controllerEvents, List.filterMap_map]
  exact List.filterMap_eq_nil_iff.mpr fun _ _ => rfl

theorem datagrams_queued (chunks : List Nat) :
    (chunks.map .queued : List (AppEvent Bandwidth)).filterMap AppEvent.datagram = [] := by
  rw [List.filterMap_map]
  exact List.filterMap_eq_nil_iff.mpr fun _ _ => rfl

variable [LinearOrder Bandwidth] (io : QuicData) (platform : Platform Bandwidth Filter)
  (transferTime : Bandwidth → Nat → Delta)

/-- The start of `Process`: nothing, or a packet. -/
inductive PacedApp.MaySend (input : AppInput) (app : PacedApp Bandwidth Filter) :
    PacedApp Bandwidth Filter → List (AppEvent Bandwidth) → Prop where
  | nothing : MaySend input app app []
  | packet {type : TestProto} {served : PacedApp Bandwidth Filter}
      {sent : List (AppEvent Bandwidth)} (data : type ≠ .ack)
      (sending : app.sendPacket io platform transferTime type input.now input.beyond =
        some (served, sent)) : MaySend input app served sent

/-- A call of `Process`, as both apps make it: chunks are queued, a packet may be sent, and
a datagram is read. -/
inductive PacedApp.Serves (input : AppInput) (app : PacedApp Bandwidth Filter) :
    PacedApp Bandwidth Filter → List (AppEvent Bandwidth) → Prop where
  | intro (chunks : List Nat) {served after : PacedApp Bandwidth Filter}
      {sent acked : List (AppEvent Bandwidth)}
      (sending : app.MaySend io platform transferTime input served sent)
      (receiving : served.receive io platform input.now input.received input.draw =
        some (after, acked)) :
      Serves input app after (chunks.map .queued ++ sent ++ acked)

variable {io platform transferTime}

theorem MyBbrSenderApp.serves {input : AppInput} {sender after : MyBbrSenderApp Bandwidth Filter}
    {events : List (AppEvent Bandwidth)}
    (processed : sender.process io platform transferTime input = some (after, events)) :
    sender.app.Serves io platform transferTime input after.app events := by
  have ⟨served, serving, rest⟩ := Option.bind_eq_some_iff.mp processed
  have ⟨informed, acking, same⟩ := Option.bind_eq_some_iff.mp rest
  cases same
  have ⟨received, receiving, sameApp⟩ := Option.bind_eq_some_iff.mp acking
  cases sameApp
  apply PacedApp.Serves.intro [] _ receiving
  unfold sendIfDue at serving
  split_ifs at serving
  · have ⟨result, sending, sameSent⟩ := Option.bind_eq_some_iff.mp serving
    cases sameSent
    exact .packet (by decide) sending
  · cases serving
    exact .nothing

theorem MyBbrVideoSenderApp.serves {input : AppInput}
    {sender after : MyBbrVideoSenderApp Bandwidth Filter} {events : List (AppEvent Bandwidth)}
    (processed : sender.process io platform transferTime input = some (after, events)) :
    sender.app.Serves io platform transferTime input after.app events := by
  have ⟨framed, framing, rest⟩ := Option.bind_eq_some_iff.mp processed
  have ⟨served, serving, rest⟩ := Option.bind_eq_some_iff.mp rest
  have ⟨informed, acking, same⟩ := Option.bind_eq_some_iff.mp rest
  cases same
  have ⟨chunks, _, sameFrame⟩ := Option.bind_eq_some_iff.mp framing
  cases sameFrame
  have ⟨received, receiving, sameApp⟩ := Option.bind_eq_some_iff.mp acking
  cases sameApp
  apply PacedApp.Serves.intro chunks _ receiving
  unfold sendIfDue sendDataOrPadding at serving
  split_ifs at serving
  · have ⟨result, sending, sameSent⟩ := Option.bind_eq_some_iff.mp serving
    cases sameSent
    exact .packet (by decide) sending
  · cases serving
    exact .nothing
  · have ⟨result, sending, sameSent⟩ := Option.bind_eq_some_iff.mp serving
    cases sameSent
    exact .packet (by decide) sending
  · cases serving
    exact .nothing

/-! ### One call -/

theorem PacedApp.sendPacket_spec {type : TestProto} {input : AppInput}
    {app served : PacedApp Bandwidth Filter} {sent : List (AppEvent Bandwidth)}
    (sending : app.sendPacket io platform transferTime type input.now input.beyond =
      some (served, sent)) :
    (∃ bytes calls,
      (bbrMachine platform).step app.cc (.packetSent input.now app.seq bytes) =
        some (served.cc, calls) ∧
      controllerEvents (input, sent) = [.packetSent input.now app.seq bytes]) ∧
    sent.filterMap AppEvent.datagram = [sentPacket io type app.seq input.beyond] ∧
    served.seq = (app.seq + 1) % 2 ^ 32 := by
  have ⟨result, told, same⟩ := Option.bind_eq_some_iff.mp sending
  cases same
  exact ⟨⟨_, _, told, rfl⟩, rfl, rfl⟩

/-- What is read makes no call to the controller, or is an ack of some number. -/
theorem PacedApp.receive_spec {input : AppInput} {app after : PacedApp Bandwidth Filter}
    {acked : List (AppEvent Bandwidth)}
    (receiving : app.receive io platform input.now input.received input.draw =
      some (after, acked)) :
    after.seq = app.seq ∧ acked.filterMap AppEvent.datagram = [] ∧
    ((controllerEvents (input, acked) = [] ∧ after.cc = app.cc) ∨
      ∃ number calls, input.received ≠ [] ∧
        ackedNumber io input.received = some (some number) ∧
        (bbrMachine platform).step app.cc (.ack input.now number input.draw) =
          some (after.cc, calls) ∧
        controllerEvents (input, acked) = [.ack input.now number input.draw]) := by
  unfold PacedApp.receive at receiving
  split_ifs at receiving with empty
  · cases receiving
    exact ⟨rfl, rfl, Or.inl ⟨rfl, rfl⟩⟩
  · have ⟨read, numbered, rest⟩ := Option.bind_eq_some_iff.mp receiving
    cases read with
    | none =>
        cases rest
        exact ⟨rfl, rfl, Or.inl ⟨rfl, rfl⟩⟩
    | some number =>
        have ⟨result, told, same⟩ := Option.bind_eq_some_iff.mp rest
        cases same
        exact ⟨rfl, rfl, Or.inr ⟨number, _, empty, numbered, told, rfl⟩⟩

/-! ### Runs -/

variable (io platform transferTime)

/-- Every step of a machine is a call of `Process` on the paced app in its state. -/
def PacesThrough {App : Type} (machine : Machine App AppInput (List (AppEvent Bandwidth)))
    (paced : App → PacedApp Bandwidth Filter) : Prop :=
  ∀ {state after input events}, machine.step state input = some (after, events) →
    (paced state).Serves io platform transferTime input (paced after) events

theorem pacesThrough_senderAppMachine :
    PacesThrough io platform transferTime (senderAppMachine io platform transferTime)
      MyBbrSenderApp.app :=
  MyBbrSenderApp.serves

theorem pacesThrough_videoAppMachine :
    PacesThrough io platform transferTime (videoAppMachine io platform transferTime)
      MyBbrVideoSenderApp.app :=
  MyBbrVideoSenderApp.serves

/-- The controller of an app that has been told some events, of which it is a run, and
the datagrams that the app has sent so far. -/
structure Controlled (start : MyBbrSender Bandwidth Filter) (told : List Event)
    (datagrams : List (List UInt8)) (app : PacedApp Bandwidth Filter) : Prop where
  trace : ∃ trace, (bbrMachine platform).Run start trace app.cc ∧ trace.map Prod.fst = told
  numbers : ∃ count, numbersSent told = wrappedNumbers count ∧ app.seq = (count + 1) % 2 ^ 32
  sent : ∀ datagram ∈ datagrams, ∀ number, dataNumber io datagram = some number →
    number ∈ numbersSent told

variable {io platform transferTime} {start : MyBbrSender Bandwidth Filter} {told : List Event}
  {datagrams : List (List UInt8)} {app served after : PacedApp Bandwidth Filter}
  {input : AppInput} {events : List (AppEvent Bandwidth)}

/-- The number in a packet is the one it was sent with. -/
theorem dataNumber_sentPacket {type : TestProto} {seq number : Nat} (narrow : seq < 2 ^ 32)
    {beyond : List UInt8} (read : dataNumber io (sentPacket io type seq beyond) = some number) :
    number = seq := by
  have numbered : readPacket io (sentPacket io type seq beyond) = (type.code, seq) := by
    rw [sentPacket, packetBuffer, List.append_assoc]
    exact readPacket_writePacketHeader io (narrow.trans (by decide)) type _
  unfold dataNumber at read
  rw [numbered] at read
  dsimp only at read
  split_ifs at read
  exact (Option.some.inj read).symm

theorem Controlled.initial {minBps startBps maxBps : Nat} :
    Controlled io platform (.create platform minBps startBps maxBps) [] []
      (.create platform minBps startBps maxBps : PacedApp Bandwidth Filter) where
  trace := ⟨[], .nil, rfl⟩
  numbers := ⟨0, rfl, rfl⟩
  sent _ member := absurd member List.not_mem_nil

theorem Controlled.send (controlled : Controlled io platform start told datagrams app)
    (sending : app.MaySend io platform transferTime input served events) :
    Controlled io platform start (told ++ controllerEvents (input, events))
      (datagrams ++ events.filterMap AppEvent.datagram) served := by
  cases sending with
  | nothing => simpa [controllerEvents] using controlled
  | packet data sending =>
      have ⟨⟨bytes, calls, stepped, toldNow⟩, sentNow, nextSeq⟩ :=
        PacedApp.sendPacket_spec sending
      have ⟨trace, run, same⟩ := controlled.trace
      have ⟨count, numbered, seq⟩ := controlled.numbers
      have numbers : numbersSent (told ++ controllerEvents (input, events)) =
          numbersSent told ++ [app.seq] := by
        rw [toldNow, numbersSent_append]
        rfl
      constructor
      · refine ⟨_, run.snoc stepped, ?_⟩
        rw [List.map_append, same, toldNow]
        rfl
      · refine ⟨count + 1, ?_, ?_⟩
        · rw [numbers, numbered, seq, wrappedNumbers_succ]
        · rw [nextSeq, seq]
          omega
      · rw [numbers, sentNow]
        intro datagram member number read
        rcases List.mem_append.mp member with earlier | now
        · exact List.mem_append_left _ (controlled.sent datagram earlier number read)
        · rw [List.mem_singleton.mp now] at read
          have narrow : app.seq < 2 ^ 32 := by
            rw [seq]
            exact Nat.mod_lt _ (by decide)
          rw [dataNumber_sentPacket narrow read]
          exact List.mem_append_right _ (List.mem_singleton_self _)

theorem Controlled.receive (controlled : Controlled io platform start told datagrams app)
    (receiving : app.receive io platform input.now input.received input.draw =
      some (after, events)) :
    Controlled io platform start (told ++ controllerEvents (input, events))
      (datagrams ++ events.filterMap AppEvent.datagram) after := by
  have ⟨sameSeq, noneSent, informs⟩ := PacedApp.receive_spec receiving
  have ⟨trace, run, same⟩ := controlled.trace
  have ⟨count, numbered, seq⟩ := controlled.numbers
  rw [noneSent, List.append_nil]
  rcases informs with ⟨silent, kept⟩ | ⟨number, calls, _, _, stepped, toldNow⟩
  · rw [silent, List.append_nil]
    exact ⟨⟨trace, kept ▸ run, same⟩, ⟨count, numbered, sameSeq.trans seq⟩, controlled.sent⟩
  · rw [toldNow]
    have numbers : numbersSent (told ++ [.ack input.now number input.draw]) =
        numbersSent told := by
      rw [numbersSent_append]
      exact List.append_nil _
    constructor
    · refine ⟨_, run.snoc stepped, ?_⟩
      rw [List.map_append, same]
      rfl
    · exact ⟨count, numbers.trans numbered, sameSeq.trans seq⟩
    · rw [numbers]
      exact controlled.sent

theorem Controlled.serve (controlled : Controlled io platform start told datagrams app)
    (serves : app.Serves io platform transferTime input after events) :
    Controlled io platform start (told ++ controllerEvents (input, events))
      (datagrams ++ events.filterMap AppEvent.datagram) after := by
  cases serves with
  | @intro chunks served _ sent acked sending receiving =>
      have final := (controlled.send sending).receive receiving
      rw [controllerEvents_append, controllerEvents_append, controllerEvents_queued,
        List.filterMap_append, List.filterMap_append, datagrams_queued, List.nil_append,
        List.nil_append, ← List.append_assoc, ← List.append_assoc]
      exact final

/-- The number that is read from an ack, if there is one. -/
def AcksNumber (io : QuicData) (input : AppInput) (number : Nat) : Prop :=
  input.received ≠ [] ∧ ackedNumber io input.received = some (some number)

/-- The acks of a call are those that are read. -/
theorem PacedApp.Serves.ack_cases (serves : app.Serves io platform transferTime input after events)
    {before rest : List Event} {time : QuicTime} {number draw : Nat}
    (split : controllerEvents (input, events) = before ++ .ack time number draw :: rest) :
    AcksNumber io input number := by
  have member : .ack time number draw ∈ controllerEvents (input, events) := by
    rw [split]
    exact List.mem_append_right _ List.mem_cons_self
  cases serves with
  | @intro chunks served _ sent acked sending receiving =>
      rw [controllerEvents_append, controllerEvents_append, controllerEvents_queued,
        List.nil_append] at member
      rcases List.mem_append.mp member with inSent | inAcked
      · cases sending with
        | nothing => cases inSent
        | packet data sending =>
            have ⟨⟨bytes, calls, _, toldNow⟩, _⟩ := PacedApp.sendPacket_spec sending
            rw [toldNow] at inSent
            cases List.mem_singleton.mp inSent
      · have ⟨_, _, informs⟩ := PacedApp.receive_spec receiving
        rcases informs with ⟨silent, _⟩ | ⟨number, calls, some, read, _, toldNow⟩
        · rw [silent] at inAcked
          cases inAcked
        · rw [toldNow] at inAcked
          cases List.mem_singleton.mp inAcked
          exact ⟨some, read⟩

theorem AcksSent.serve (sound : AcksSent told)
    (serves : app.Serves io platform transferTime input after events)
    (authentic : ∀ number, AcksNumber io input number → number ∈ numbersSent told) :
    AcksSent (told ++ controllerEvents (input, events)) := by
  apply sound.append
  intro before time number draw rest split
  rw [numbersSent_append]
  exact List.mem_append_left _ (authentic number (serves.ack_cases split))

end Controller

/-! ### Sessions -/

section Sessions

variable {Bandwidth Filter App : Type} [LinearOrder Bandwidth] {io : QuicData}
  {platform : Platform Bandwidth Filter} {transferTime : Bandwidth → Nat → Delta}
  {machine : Machine App AppInput (List (AppEvent Bandwidth))}
  {paced : App → PacedApp Bandwidth Filter} {startApp : App} {minBps startBps maxBps : Nat}

/-- What the controller is told in a session. -/
structure SoundSession (io : QuicData) (platform : Platform Bandwidth Filter)
    (start : MyBbrSender Bandwidth Filter)
    (machine : Machine App AppInput (List (AppEvent Bandwidth)))
    (paced : App → PacedApp Bandwidth Filter)
    (session : Session App AppInput (List (AppEvent Bandwidth)) MyBbrReceiverApp (List UInt8)
      (List ReceiverAppEvent)) : Prop where
  controlled : Controlled io platform start (session.leftHistory.flatMap controllerEvents)
    ((senderAppParty machine).allSent session.leftHistory) (paced session.left)
  acksSent : AcksSent (session.leftHistory.flatMap controllerEvents)
  acksArrived : ∀ time number draw,
    .ack time number draw ∈ session.leftHistory.flatMap controllerEvents →
      number ∈ HighWater.arrived (dataNumber io) session.rightHistory

theorem SoundSession.step {start : MyBbrSender Bandwidth Filter}
    (paces : PacesThrough io platform transferTime machine paced)
    {session after : Session App AppInput (List (AppEvent Bandwidth)) MyBbrReceiverApp (List UInt8)
      (List ReceiverAppEvent)}
    {event : AppInput ⊕ List UInt8}
    {output : List (AppEvent Bandwidth) ⊕ List ReceiverAppEvent}
    (faithful : session.Faithful (senderAppParty machine) (receiverAppParty io) startApp .create)
    (sound : SoundSession io platform start machine paced session)
    (stepped : (network (senderAppParty machine) (receiverAppParty io)).step session event =
      some (after, output)) :
    SoundSession io platform start machine paced after := by
  cases event with
  | inl input =>
      obtain ⟨authentic, left, events, moved, rfl⟩ := Session.actLeft_cases stepped
      have serves := paces moved
      -- What is read was sent by the receiver, which has seen the packet.
      have justified : ∀ number, AcksNumber io input number →
          ∃ source, source ∈ (senderAppParty machine).allSent session.leftHistory ∧
            source ∈ (receiverAppParty io).allDelivered session.rightHistory ∧
            dataNumber io source = some number := by
        rintro number ⟨some, read⟩
        have delivered : input.received ∈ (senderAppParty machine).delivered input := by
          show input.received ∈ if input.received = [] then [] else [input.received]
          rw [if_neg some]
          exact List.mem_singleton_self _
        exact faithful.justified (receiverAppParty_honest io .create) (fun _ _ => trivial)
          (authentic input.received delivered) read
      have snoc : (session.leftHistory ++ [(input, events)]).flatMap controllerEvents =
          session.leftHistory.flatMap controllerEvents ++ controllerEvents (input, events) := by
        rw [List.flatMap_append, List.flatMap_singleton]
      constructor
      · show Controlled io platform start (List.flatMap _ _) (Party.allSent _ _) _
        rw [snoc, Party.allSent_snoc]
        exact sound.controlled.serve serves
      · show AcksSent (List.flatMap _ _)
        rw [snoc]
        apply sound.acksSent.serve serves
        intro number acks
        have ⟨source, sent, _, read⟩ := justified number acks
        exact sound.controlled.sent source sent number read
      · intro time number draw member
        change _ ∈ List.flatMap _ _ at member
        rw [snoc] at member
        rcases List.mem_append.mp member with earlier | now
        · exact sound.acksArrived time number draw earlier
        · have ⟨before, rest, split⟩ := List.append_of_mem now
          have ⟨source, _, delivered, read⟩ := justified number (serves.ack_cases split)
          have ⟨entry, listed, own⟩ := List.mem_flatMap.mp delivered
          have same : source = entry.1 := by
            change source ∈ if entry.1 = [] then [] else [entry.1] at own
            split_ifs at own
            · cases own
            · exact List.mem_singleton.mp own
          exact List.mem_filterMap.mpr ⟨entry.1, List.mem_map_of_mem listed, same ▸ read⟩
  | inr data =>
      obtain ⟨_, right, events, _, rfl⟩ := Session.actRight_cases stepped
      constructor
      · exact sound.controlled
      · exact sound.acksSent
      · intro time number draw member
        rw [HighWater.arrived_snoc]
        exact List.mem_append_left _ (sound.acksArrived time number draw member)

theorem SoundSession.run (paces : PacesThrough io platform transferTime machine paced)
    (fresh : paced startApp = .create platform minBps startBps maxBps)
    {history : List ((AppInput ⊕ List UInt8) ×
      (List (AppEvent Bandwidth) ⊕ List ReceiverAppEvent))}
    {session : Session App AppInput (List (AppEvent Bandwidth)) MyBbrReceiverApp (List UInt8)
      (List ReceiverAppEvent)}
    (run : (network (senderAppParty machine) (receiverAppParty io)).Run (.start startApp .create)
      history session) :
    SoundSession io platform (.create platform minBps startBps maxBps) machine paced session := by
  induction run with
  | nil =>
      constructor
      · show Controlled io platform _ [] [] (paced startApp)
        rw [fresh]
        exact .initial
      · intro before time number draw after split
        have := congrArg List.length split
        simp [Session.start] at this
      · intro time number draw member
        cases member
  | snoc before stepped inductionHypothesis =>
      exact inductionHypothesis.step paces (Session.faithful_of_run before) stepped

variable (io platform transferTime minBps startBps maxBps)

/-- In every session of either sender app with the receiver, whatever the network loses,
repeats, delays or reorders, the controller of the app is in a state of a run of its own.
There the packets are numbered 1, 2, 3, ... in `uint32_t`, and every number that is acked
was sent before and has arrived. -/
theorem sessions_sound :
    (∀ {history session},
      (network (senderAppParty (senderAppMachine io platform transferTime))
        (receiverAppParty io)).Run
          (.start (.create platform minBps startBps maxBps) .create) history session →
      SoundSession io platform (.create platform minBps startBps maxBps)
        (senderAppMachine io platform transferTime) MyBbrSenderApp.app session) ∧
    ∀ {history session},
      (network (senderAppParty (videoAppMachine io platform transferTime))
        (receiverAppParty io)).Run
          (.start (.create platform minBps startBps maxBps) .create) history session →
      SoundSession io platform (.create platform minBps startBps maxBps)
        (videoAppMachine io platform transferTime) MyBbrVideoSenderApp.app session := by
  constructor
  · intro history session run
    exact .run (pacesThrough_senderAppMachine io platform transferTime) rfl run
  · intro history session run
    exact .run (pacesThrough_videoAppMachine io platform transferTime) rfl run

end Sessions

/-- A frame is sent as packets 1 and 2. Packet 1 is lost, packet 2 arrives twice, and both
of its acks are read. -/
def lossyEvents : List (AppInput ⊕ List UInt8) :=
  let packet := sentPacket .networkOrder .stream 2 []
  let ack := writePacketHeader .networkOrder .ack 2
  [.inl ⟨1000, 1000, [], 0, []⟩, .inl ⟨100000, 0, [], 0, []⟩, .inr packet, .inr packet,
    .inl ⟨100500, 0, ack, 0, []⟩, .inl ⟨100600, 0, ack, 0, []⟩]

theorem sessions_sound_lossy :
    ∃ history session,
      (network (senderAppParty (videoAppMachine .networkOrder Platform.bits bitsTransferTime))
        (receiverAppParty .networkOrder)).Run
          (.start (.create Platform.bits 1000000 1000000 1000000) .create) history session ∧
      session.leftHistory.flatMap controllerEvents = [.packetSent 1000 1 1398,
        .packetSent 100000 2 1398, .ack 100500 2 0, .ack 100600 2 0] ∧
      2 ∈ HighWater.arrived (dataNumber .networkOrder) session.rightHistory := by
  have ⟨history, session, run, _, checked⟩ :=
    (network (senderAppParty (videoAppMachine .networkOrder Platform.bits bitsTransferTime))
      (receiverAppParty .networkOrder)).exists_run_of_check
        (.start (.create Platform.bits 1000000 1000000 1000000) .create) lossyEvents
        (fun result => result.1.leftHistory.flatMap controllerEvents =
          [.packetSent 1000 1 1398, .packetSent 100000 2 1398, .ack 100500 2 0,
            .ack 100600 2 0])
        (by decide +kernel)
  have told := of_decide_eq_true checked
  have sound := (sessions_sound QuicData.networkOrder Platform.bits bitsTransferTime 1000000
    1000000 1000000).2 run
  refine ⟨history, session, run, told, sound.acksArrived 100500 2 0 ?_⟩
  rw [told]
  decide

end StupidSimple.Bbr
