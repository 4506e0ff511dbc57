import StupidSimple.Library.Network
import StupidSimple.Mininet.Attribution
import StupidSimple.Mininet.FrameSplit

/-!
Owns sessions of `Sender` with `Receiver`, over a network that may lose, repeat, delay and
reorder datagrams. Everything that one end tells its controller is put down to what the
other end did: segments to frames, transport numbers to announced packets, feedback to
feedback, and round trip times to own pings.
-/

namespace StupidSimple.Mininet

open StupidSimple.Library

/-! ### The parties -/

def SenderEvent.arrivals : SenderEvent → List (List UInt8)
  | .process _ _ (some datagram) => [datagram.data]
  | _ => []

def ReceiverEvent.arrivals : ReceiverEvent → List (List UInt8)
  | .process _ _ (some datagram) => [datagram.data]
  | _ => []

/-- The messages that a receiver sends. -/
def answeredMessages (calls : List ReceiverCall) : List SentMessage :=
  calls.filterMap fun
    | .sendToNetwork message => some message
    | _ => none

def senderParty : Party Sender SenderEvent (List SenderCall) (List UInt8) where
  machine := Sender.machine
  delivered := SenderEvent.arrivals
  sent calls := (sentMessages calls).map SentMessage.data

def receiverParty : Party Receiver ReceiverEvent (List ReceiverCall) (List UInt8) where
  machine := Receiver.machine
  delivered := ReceiverEvent.arrivals
  sent calls := (answeredMessages calls).map SentMessage.data

/-- A session of both. -/
abbrev MediaSession :=
  Session Sender SenderEvent (List SenderCall) Receiver ReceiverEvent (List ReceiverCall)

theorem mem_sentMessages {message : SentMessage} {calls : List SenderCall} :
    message ∈ sentMessages calls ↔ .sendToNetwork message ∈ calls := by
  constructor
  · intro member
    have ⟨call, listed, shown⟩ := List.mem_filterMap.mp member
    split at shown
    · cases shown
      exact listed
    · cases shown
  · exact fun listed => List.mem_filterMap.mpr ⟨_, listed, rfl⟩

theorem mem_answeredMessages {message : SentMessage} {calls : List ReceiverCall} :
    message ∈ answeredMessages calls ↔ .sendToNetwork message ∈ calls := by
  constructor
  · intro member
    have ⟨call, listed, shown⟩ := List.mem_filterMap.mp member
    split at shown
    · cases shown
      exact listed
    · cases shown
  · exact fun listed => List.mem_filterMap.mpr ⟨_, listed, rfl⟩

/-! ### Entries of the histories -/

/-- A segment as `SendVideo` makes it of a frame. -/
structure PartOf (data : List UInt8) (seg : SimSegment) : Prop where
  chunk : (cut (pieces simVideoSize data.length) data)[seg.index.toNat]? = some seg.data.1
  total : seg.total.toNat = (pieces simVideoSize data.length).length

theorem PartOf.index_lt {data : List UInt8} {seg : SimSegment} (part : PartOf data seg) :
    seg.index.toNat < seg.total.toNat := by
  have ⟨inside, _⟩ := List.getElem?_eq_some_iff.mp part.chunk
  have lengths := congrArg List.length (map_length_cut (sum_pieces simVideoSize data.length).le)
  rw [List.length_map] at lengths
  rw [part.total, ← lengths]
  exact inside

theorem Sender.partOf_created {sender after : Sender} {payloadType : UInt8} {ftype : Int32}
    {data : List UInt8} {now : Int64} {calls : List SenderCall}
    (sent : sender.sendVideo payloadType ftype data now = some (after, calls)) :
    ∀ seg ∈ createdSegments calls, PartOf data seg := by
  by_cases silent : sender.running = false ∨ data.length = 0
  · unfold sendVideo at sent
    rcases silent with stopped | empty
    · rw [if_pos stopped] at sent
      cases sent
      exact List.forall_mem_nil _
    · rw [if_pos empty] at sent
      split_ifs at sent
      · cases sent
        exact List.forall_mem_nil _
      · cases sent
        exact List.forall_mem_nil _
  obtain ⟨started, nonempty⟩ := not_or.mp silent
  have running : sender.running = true := eq_true_of_ne_false started
  have filled : data ≠ [] := List.ne_nil_of_length_pos (Nat.pos_of_ne_zero nonempty)
  have admitted : data.length / simVideoSize < maxSplitNumber := by
    by_contra refused
    rw [sendVideo, if_neg started, if_neg nonempty, if_neg refused] at sent
    cases sent
  obtain ⟨afterToo, callsToo, sentToo, totals, places⟩ :=
    sendVideo_segments running filled admitted payloadType ftype now
  rw [sent] at sentToo
  cases sentToo
  have few : (frameSplit data.length).length ≤ maxSplitNumber :=
    (length_frameSplit_le data.length).trans admitted
  have count : (pieces simVideoSize data.length).length = (frameSplit data.length).length := by
    rw [← map_frameSplit, List.length_map]
  intro seg member
  have listed : place seg ∈ (createdSegments calls).map place := List.mem_map_of_mem member
  rw [places] at listed
  obtain ⟨j, inside, placed⟩ := List.mem_mapIdx.mp listed
  have index : UInt16.ofNat j = seg.index := congrArg Prod.fst placed
  have chunk : (cutFrame (frameSplit data.length) data)[j] = seg.data :=
    congrArg (fun place => place.2.2) placed
  rw [length_cutFrame] at inside
  have narrow : maxSplitNumber < UInt16.size := by decide
  have number : seg.index.toNat = j := by
    rw [← index]
    exact UInt16.toNat_ofNat_of_lt' (by omega)
  constructor
  · rw [number, ← map_frameSplit, ← map_cutFrame, List.getElem?_map,
      List.getElem?_eq_getElem (by rwa [length_cutFrame]), chunk]
    rfl
  · rw [totals seg member, count]
    exact UInt16.toNat_ofNat_of_lt' (by omega)

/-- What is known of an entry of the sender's history. -/
structure Sender.EntrySound (event : SenderEvent) (calls : List SenderCall) : Prop where
  attributed : ∀ call ∈ calls, Attributed event call
  announced : Announced calls
  framed : ∀ seg ∈ createdSegments calls, ∃ payloadType ftype data now,
    event = .sendVideo payloadType ftype data now ∧ PartOf data seg

theorem Sender.entrySound_of_step {sender after : Sender} {event : SenderEvent}
    {calls : List SenderCall} (stored : sender.Stored)
    (stepped : machine.step sender event = some (after, calls)) : EntrySound event calls where
  attributed := step_attributed stepped
  announced := step_announced stored stepped
  framed := by
    intro seg member
    have called : .newSegment seg ∈ calls := by
      have ⟨call, listed, shown⟩ := List.mem_filterMap.mp member
      split at shown
      · cases shown
        exact listed
      · cases shown
    cases step_attributed stepped _ called with
    | newSegment own =>
        subst own
        exact ⟨_, _, _, _, rfl, partOf_created stepped seg member⟩

theorem Sender.entries_sound {start final : Sender}
    {history : List (SenderEvent × List SenderCall)} (fresh : start.pendingBuf = .empty)
    (run : machine.Run start history final) :
    ∀ entry ∈ history, EntrySound entry.1 entry.2 := by
  have initial : start.Stored := by
    intro entry member
    rw [fresh, OrderedMap.entries_empty] at member
    cases member
  have step {state after : Sender} {event : SenderEvent} {calls : List SenderCall}
      (stored : state.Stored) (stepped : machine.step state event = some (after, calls)) :
      after.Stored ∧ EntrySound event calls :=
    ⟨(step_accounts stored stepped).stored, entrySound_of_step stored stepped⟩
  exact (run.forall_entries step initial).2

theorem Receiver.entries_attributed {start final : Receiver}
    {history : List (ReceiverEvent × List ReceiverCall)}
    (run : machine.Run start history final) :
    ∀ entry ∈ history, ∀ call ∈ entry.2, Attributed entry.1 call := by
  have step {state after : Receiver} {event : ReceiverEvent} {calls : List ReceiverCall}
      (_ : True) (stepped : machine.step state event = some (after, calls)) :
      True ∧ ∀ call ∈ calls, Attributed event call := ⟨trivial, step_attributed stepped⟩
  exact (run.forall_entries step trivial).2

/-! ### Origins -/

section Origins

variable {startSender : Sender} {startReceiver : Receiver} {session : MediaSession}
  {data : List UInt8} {header : SimHeader} {body : SimBody}

/-- What the receiver reads was sent by the sender. -/
theorem origin_left
    (faithful : session.Faithful senderParty receiverParty startSender startReceiver)
    (fresh : startSender.pendingBuf = .empty)
    (cut : ∀ data ∈ senderParty.allSent session.leftHistory, SafelyCut data)
    (delivered : data ∈ receiverParty.allDelivered session.rightHistory)
    (read : Reads data header body) :
    ∃ entry ∈ session.leftHistory, ∃ message, .sendToNetwork message ∈ entry.2 ∧
      Sender.Sends entry.1 message ∧ message.header = header ∧ message.body.arrived = body := by
  have sent := faithful.deliveredRight data delivered
  have ⟨entry, listed, own⟩ := List.mem_flatMap.mp sent
  have ⟨message, member, same⟩ := List.mem_map.mp own
  have called := mem_sentMessages.mp member
  have sound := Sender.entries_sound fresh faithful.runLeft entry listed
  have sends : Sender.Sends entry.1 message := by
    cases sound.attributed _ called with
    | sendToNetwork sends => exact sends
  have carries : Carries message.data message.header message.body := by
    cases sends with
    | ping own sent => exact sent.carries
    | pong own read asked sent => exact sent.carries
    | segment own sent => exact sent.carries
    | pad own sent => exact sent.carries
  rw [same] at carries
  have ⟨_, sameHeader, sameBody⟩ := (carries.reads_iff (cut data sent)).mp read
  exact ⟨entry, listed, message, called, sends, sameHeader.symm, sameBody.symm⟩

theorem Receiver.Sends.carries {event : ReceiverEvent} {message : SentMessage}
    (sends : Sends event message) :
    Carries message.data message.header message.body ∧ FitsBuffer message.data := by
  unfold FitsBuffer
  rw [size_binStreamInit, defaultPacketSize]
  cases sends with
  | ping own sent =>
      have length := (sent.body ▸ sent.carries).length_ping
      exact ⟨sent.carries, by omega⟩
  | pong own read asked sent =>
      have length := (sent.body ▸ sent.carries).length_ping
      exact ⟨sent.carries, by omega⟩
  | @feedback feedback own sent =>
      have length := (sent.body ▸ sent.carries).length_feedback
      have bounded : feedback.feedback.1.length ≤ 1000 := feedback.feedback.2
      exact ⟨sent.carries, by omega⟩

/-- What the sender reads was sent by the receiver, whose messages all fit. -/
theorem origin_right
    (faithful : session.Faithful senderParty receiverParty startSender startReceiver)
    (delivered : data ∈ senderParty.allDelivered session.leftHistory)
    (read : Reads data header body) :
    ∃ entry ∈ session.rightHistory, ∃ message, .sendToNetwork message ∈ entry.2 ∧
      Receiver.Sends entry.1 message ∧ message.header = header ∧
      message.body.arrived = body := by
  have sent := faithful.deliveredLeft data delivered
  have ⟨entry, listed, own⟩ := List.mem_flatMap.mp sent
  have ⟨message, member, same⟩ := List.mem_map.mp own
  have called := mem_answeredMessages.mp member
  have sends : Receiver.Sends entry.1 message := by
    cases Receiver.entries_attributed faithful.runRight entry listed _ called with
    | sendToNetwork sends => exact sends
  have ⟨carries, fits⟩ := sends.carries
  rw [same] at carries fits
  have safely : SafelyCut data := fun cut => absurd fits cut
  have ⟨_, sameHeader, sameBody⟩ := (carries.reads_iff safely).mp read
  exact ⟨entry, listed, message, called, sends, sameHeader.symm, sameBody.symm⟩

/-! ### Round trips -/

/-- The body of a ping is not changed by the wire. -/
theorem eq_ping_of_arrived {body : SimBody} {ping : SimPing} (same : body.arrived = .ping ping) :
    body = .ping ping := by
  cases body with
  | ping => exact same
  | _ => cases same

/-- The party sent a ping at this time. -/
def Sender.Pinged (history : List (SenderEvent × List SenderCall)) (time : Int64) : Prop :=
  ∃ entry ∈ history, ∃ later arrived message, entry.1 = .process time later arrived ∧
    .sendToNetwork message ∈ entry.2 ∧ message.Is simPing (.ping ⟨time⟩)

/-- The same for a clock of 32 bits. -/
def Receiver.Pinged (history : List (ReceiverEvent × List ReceiverCall)) (time : Int64) : Prop :=
  ∃ entry ∈ history, ∃ now later arrived message, entry.1 = .process now later arrived ∧
    time = toInt64 (toUInt32 now) ∧ .sendToNetwork message ∈ entry.2 ∧
    message.Is simPing (.ping ⟨time⟩)

/-- A pong that the sender reads answers a ping of its own. -/
theorem pinged_left
    (faithful : session.Faithful senderParty receiverParty startSender startReceiver)
    (fresh : startSender.pendingBuf = .empty)
    (cut : ∀ data ∈ senderParty.allSent session.leftHistory, SafelyCut data) {ping : SimPing}
    (delivered : data ∈ senderParty.allDelivered session.leftHistory)
    (read : Reads data header (.ping ping)) (answered : header.mid = simPong) :
    Sender.Pinged session.leftHistory ping.ts := by
  have ⟨entry, listed, message, called, sends, sameHeader, sameBody⟩ :=
    origin_right faithful delivered read
  rw [← sameHeader] at answered
  have body := eq_ping_of_arrived sameBody
  cases sends with
  | ping own sent => exact absurd (sent.mid.symm.trans answered) (by decide)
  | feedback own sent => exact absurd (sent.body.symm.trans body) nofun
  | @pong now later datagram question asked own readPing kind sent =>
      obtain rfl := SimBody.ping.inj (sent.body.symm.trans body)
      have arrived : datagram.data ∈ receiverParty.allDelivered session.rightHistory :=
        List.mem_flatMap.mpr ⟨entry, listed, own ▸ List.mem_singleton_self _⟩
      have ⟨first, firstListed, asking, firstCalled, firstSends, firstHeader, firstBody⟩ :=
        origin_left faithful fresh cut arrived readPing
      rw [← firstHeader] at kind
      have content := eq_ping_of_arrived firstBody
      cases firstSends with
      | ping own sentFirst =>
          obtain rfl := SimBody.ping.inj (sentFirst.body.symm.trans content)
          exact ⟨first, firstListed, _, _, asking, own, firstCalled, sentFirst⟩
      | pong own read asked sent => exact absurd (sent.mid.symm.trans kind) (by decide)
      | segment own sent => exact absurd (sent.body.symm.trans content) nofun
      | pad own sent => exact absurd (sent.body.symm.trans content) nofun

theorem pinged_right
    (faithful : session.Faithful senderParty receiverParty startSender startReceiver)
    (fresh : startSender.pendingBuf = .empty)
    (cut : ∀ data ∈ senderParty.allSent session.leftHistory, SafelyCut data) {ping : SimPing}
    (delivered : data ∈ receiverParty.allDelivered session.rightHistory)
    (read : Reads data header (.ping ping)) (answered : header.mid = simPong) :
    Receiver.Pinged session.rightHistory ping.ts := by
  have ⟨entry, listed, message, called, sends, sameHeader, sameBody⟩ :=
    origin_left faithful fresh cut delivered read
  rw [← sameHeader] at answered
  have body := eq_ping_of_arrived sameBody
  cases sends with
  | ping own sent => exact absurd (sent.mid.symm.trans answered) (by decide)
  | segment own sent => exact absurd (sent.body.symm.trans body) nofun
  | pad own sent => exact absurd (sent.body.symm.trans body) nofun
  | @pong now later datagram question asked own readPing kind sent =>
      obtain rfl := SimBody.ping.inj (sent.body.symm.trans body)
      have arrived : datagram.data ∈ senderParty.allDelivered session.leftHistory :=
        List.mem_flatMap.mpr ⟨entry, listed, own ▸ List.mem_singleton_self _⟩
      have ⟨first, firstListed, asking, firstCalled, firstSends, firstHeader, firstBody⟩ :=
        origin_right faithful arrived readPing
      rw [← firstHeader] at kind
      have content := eq_ping_of_arrived firstBody
      cases firstSends with
      | ping own sentFirst =>
          obtain rfl := SimBody.ping.inj (sentFirst.body.symm.trans content)
          exact ⟨first, firstListed, _, _, _, asking, own, rfl, firstCalled, sentFirst⟩
      | pong own read asked sent => exact absurd (sent.mid.symm.trans kind) (by decide)
      | feedback own sent => exact absurd (sent.body.symm.trans content) nofun

end Origins

/-! ### Sessions -/

/-- What the two ends hear is put down to what the other one did. -/
structure SoundMedia (session : MediaSession) : Prop where
  segments : ∀ entry ∈ session.rightHistory, ∀ header seg, .onRecvSegment header seg ∈ entry.2 →
    ∃ frame ∈ session.leftHistory, ∃ payloadType ftype data now,
      frame.1 = .sendVideo payloadType ftype data now ∧
      ∃ made ∈ createdSegments frame.2, PartOf data made ∧
        ∃ sendTs, seg = { made.onWire with sendTs := sendTs }
  paddings : ∀ entry ∈ session.rightHistory, ∀ header pad, .onRecvPad header pad ∈ entry.2 →
    ∃ origin ∈ session.leftHistory, origin.1.IsPadding ∧
      ∃ message, .sendToNetwork message ∈ origin.2 ∧ message.body = .pad pad
  numbers : ∀ entry ∈ session.rightHistory, ∀ time size ssrc number,
    .onReceivedPacket time size ssrc number ∈ entry.2 →
    ∃ origin ∈ session.leftHistory, ∃ time, .onSentPacket number time ∈ origin.2
  feedback : ∀ entry ∈ session.leftHistory, ∀ feedback,
    .onTransportFeedback feedback ∈ entry.2 →
    ∃ origin ∈ session.rightHistory, origin.1 = .sendTransportFeedback feedback
  senderRtt : ∀ entry ∈ session.leftHistory, ∀ averageRtt maxRtt,
    .onRttUpdate averageRtt maxRtt ∈ entry.2 →
    ∃ now later arrived time, entry.1 = .process now later arrived ∧ 0 < later - time ∧
      Sender.Pinged session.leftHistory time ∧
      ∃ state : Sender, .onRttUpdate averageRtt maxRtt ∈
        (state.updateRtt (toUInt32 (later - time))).2
  receiverRtt : ∀ entry ∈ session.rightHistory, ∀ averageRtt maxRtt,
    .onRttUpdate averageRtt maxRtt ∈ entry.2 →
    ∃ now later arrived time, entry.1 = .process now later arrived ∧ 0 < later - time ∧
      Receiver.Pinged session.rightHistory time ∧
      ∃ state : Receiver, .onRttUpdate averageRtt maxRtt ∈
        (state.updateRtt (toUInt32 (later - time))).2

/-- A segment that is sent was made of a frame. -/
theorem frame_of_sent {start final : Sender} {history : List (SenderEvent × List SenderCall)}
    (fresh : start.pendingBuf = .empty) (run : Sender.machine.Run start history final)
    {entry : SenderEvent × List SenderCall} (listed : entry ∈ history) {message : SentMessage}
    {seg : SimSegment} (called : .sendToNetwork message ∈ entry.2)
    (body : message.body = .segment seg) :
    ∃ frame ∈ history, ∃ payloadType ftype data now,
      frame.1 = .sendVideo payloadType ftype data now ∧
      seg.unstamped ∈ createdSegments frame.2 ∧ PartOf data seg.unstamped := by
  have sent : seg ∈ sentSegments (Sender.callsOf history) := by
    refine List.mem_filterMap.mpr ⟨_, List.mem_flatMap.mpr ⟨entry, listed, called⟩, ?_⟩
    rcases message with ⟨peer, header, content, data⟩
    cases body
    rfl
  have ⟨_, lost, balance, _⟩ := Sender.run_accounts fresh run
  have kept : seg.unstamped ∈ final.pendingSegments ++
      (sentSegments (Sender.callsOf history)).map SimSegment.unstamped ++ lost :=
    List.mem_append_left _ (List.mem_append_right _ (List.mem_map_of_mem sent))
  have ⟨call, made, shown⟩ := List.mem_filterMap.mp (balance.mem_iff.mpr kept)
  have ⟨frame, frameListed, own⟩ := List.mem_flatMap.mp made
  have created : seg.unstamped ∈ createdSegments frame.2 :=
    List.mem_filterMap.mpr ⟨call, own, shown⟩
  have ⟨payloadType, ftype, data, now, event, part⟩ :=
    (Sender.entries_sound fresh run frame frameListed).framed _ created
  exact ⟨frame, frameListed, payloadType, ftype, data, now, event, created, part⟩

section Sessions

variable {startSender : Sender} {startReceiver : Receiver} {session : MediaSession}

theorem SoundMedia.of_faithful
    (faithful : session.Faithful senderParty receiverParty startSender startReceiver)
    (fresh : startSender.pendingBuf = .empty)
    (cut : ∀ data ∈ senderParty.allSent session.leftHistory, SafelyCut data) :
    SoundMedia session := by
  have arrivedRight {entry : ReceiverEvent × List ReceiverCall} {now later : Int64}
      {datagram : Datagram} (listed : entry ∈ session.rightHistory)
      (own : entry.1 = .process now later (some datagram)) :
      datagram.data ∈ receiverParty.allDelivered session.rightHistory :=
    List.mem_flatMap.mpr ⟨entry, listed, own ▸ List.mem_singleton_self _⟩
  have arrivedLeft {entry : SenderEvent × List SenderCall} {now later : Int64}
      {datagram : Datagram} (listed : entry ∈ session.leftHistory)
      (own : entry.1 = .process now later (some datagram)) :
      datagram.data ∈ senderParty.allDelivered session.leftHistory :=
    List.mem_flatMap.mpr ⟨entry, listed, own ▸ List.mem_singleton_self _⟩
  have right := Receiver.entries_attributed faithful.runRight
  have left := Sender.entries_sound fresh faithful.runLeft
  constructor
  · intro entry listed header seg called
    cases right entry listed _ called with
    | onRecvSegment own read =>
        have ⟨origin, originListed, message, sent, sends, _, sameBody⟩ :=
          origin_left faithful fresh cut (arrivedRight listed own) read
        cases sends with
        | @segment _ _ stamped _ is =>
            have ⟨frame, frameListed, payloadType, ftype, data, now, event, made, part⟩ :=
              frame_of_sent fresh faithful.runLeft originListed sent is.body
            refine ⟨frame, frameListed, payloadType, ftype, data, now, event, _, made, part,
              stamped.sendTs, ?_⟩
            have inside : stamped.index ≤ stamped.total := Nat.le_of_lt part.index_lt
            rw [is.body, SimBody.arrived, partSeen_of_le inside] at sameBody
            exact (SimBody.segment.inj sameBody).symm
        | ping _ is | pong _ _ _ is | pad _ is =>
            rw [is.body] at sameBody
            cases sameBody
  · intro entry listed header pad called
    cases right entry listed _ called with
    | onRecvPad own read =>
        have ⟨origin, originListed, message, sent, sends, _, sameBody⟩ :=
          origin_left faithful fresh cut (arrivedRight listed own) read
        cases sends with
        | pad padding is =>
            rw [is.body] at sameBody
            cases sameBody
            exact ⟨origin, originListed, padding, message, sent, is.body⟩
        | ping _ is | pong _ _ _ is | segment _ is =>
            rw [is.body] at sameBody
            cases sameBody
  · intro entry listed time size ssrc number called
    cases right entry listed _ called with
    | onReceivedPacket own read numbered =>
        have ⟨origin, originListed, message, sent, sends, _, sameBody⟩ :=
          origin_left faithful fresh cut (arrivedRight listed own) read
        have same : message.body.transportNumber = some number := by
          rw [← numbered, ← sameBody]
          cases message.body <;> rfl
        have ⟨time, told⟩ := (left origin originListed).announced message sent number same
        exact ⟨origin, originListed, time, told⟩
  · intro entry listed feedback called
    cases (left entry listed).attributed _ called with
    | onTransportFeedback own read =>
        have ⟨origin, originListed, message, _, sends, _, sameBody⟩ :=
          origin_right faithful (arrivedLeft listed own) read
        cases sends with
        | feedback source is =>
            rw [is.body] at sameBody
            cases sameBody
            exact ⟨origin, originListed, source⟩
        | ping _ is | pong _ _ _ is =>
            rw [is.body] at sameBody
            cases sameBody
  · intro entry listed averageRtt maxRtt called
    cases (left entry listed).attributed _ called with
    | onRttUpdate state own read answered positive reported =>
        have pinged := pinged_left faithful fresh cut (arrivedLeft listed own) read answered
        exact ⟨_, _, _, _, own, positive, pinged, state, reported⟩
  · intro entry listed averageRtt maxRtt called
    cases right entry listed _ called with
    | onRttUpdate state own read answered positive reported =>
        have pinged := pinged_right faithful fresh cut (arrivedRight listed own) read answered
        exact ⟨_, _, _, _, own, positive, pinged, state, reported⟩

/-- In every session of `Sender` and `Receiver` each end hears only of what the other one
did, whatever the network loses, repeats, delays or reorders, unless the checksum takes a
datagram that the buffer has cut for a whole one. -/
theorem media_session_sound (peer unset : SuAddr) (duration : UInt32)
    {history : List ((SenderEvent ⊕ ReceiverEvent) × (List SenderCall ⊕ List ReceiverCall))}
    {session : MediaSession}
    (run : (network senderParty receiverParty).Run
      (.start (.create peer) (.create unset duration)) history session)
    (cut : ∀ data ∈ senderParty.allSent session.leftHistory, SafelyCut data) :
    SoundMedia session :=
  .of_faithful (Session.faithful_of_run run) rfl cut

end Sessions

def theSender : SuAddr := ⟨1234, 0x0a000401⟩

def theReceiver : SuAddr := ⟨4321, 0x0a000402⟩

/-- The sender pings and sends a frame of three bytes. The segment arrives twice, before
the ping; the receiver answers with feedback and a pong, which arrive in the other order. -/
def crossedEvents : List (SenderEvent ⊕ ReceiverEvent) :=
  let ping := sealed (headerLayout (initSimHeader simPing 1234) ++ BigEndian.encode 8 200)
  let pong := sealed (headerLayout (initSimHeader simPong 4321) ++ BigEndian.encode 8 200)
  let segment : SimSegment := ⟨1, 1, 0, 0, 1, 1, 96, 1, 15, 1, ⟨[7, 8, 9], by decide⟩⟩
  let media := sealed (headerLayout (initSimHeader simSeg 1234) ++ segmentLayout segment)
  let feedback := sealed (headerLayout (initSimHeader simFeedback 4321) ++
    (BigEndian.encode 4 0 ++ dataLayout [5, 6]))
  [.inl .start, .inl (.process 200 200 none), .inl (.sendVideo 96 1 [7, 8, 9] 210),
    .inl (.timeToSendPacket 1 225), .inr (.process 230 230 (some ⟨theSender, media⟩)),
    .inr (.process 231 231 (some ⟨theSender, media⟩)), .inr (.sendTransportFeedback [5, 6]),
    .inr (.process 240 240 (some ⟨theSender, ping⟩)),
    .inl (.process 260 260 (some ⟨theReceiver, pong⟩)),
    .inl (.process 261 261 (some ⟨theReceiver, feedback⟩))]

/-- What the controllers hear of all this. -/
def crossedReports (session : MediaSession) : Prop :=
  (session.rightHistory.flatMap Prod.snd).countP (fun call => call matches .onRecvSegment _ _) = 2 ∧
    .onTransportFeedback [5, 6] ∈ session.leftHistory.flatMap Prod.snd ∧
    .onRttUpdate 60 60 ∈ session.leftHistory.flatMap Prod.snd ∧
    ∀ data ∈ senderParty.allSent session.leftHistory, FitsBuffer data

instance (session : MediaSession) : Decidable (crossedReports session) :=
  inferInstanceAs (Decidable (_ ∧ _ ∧ _ ∧ ∀ data ∈ _, _ ≤ _))

theorem media_session_sound_crossed :
    ∃ history session, (network senderParty receiverParty).Run
        (.start (.create theReceiver) (.create ⟨0, 0⟩ 1000)) history session ∧
      crossedReports session ∧ SoundMedia session := by
  have ⟨history, session, run, _, checked⟩ :=
    (network senderParty receiverParty).exists_run_of_check
      (.start (.create theReceiver) (.create ⟨0, 0⟩ 1000)) crossedEvents
      (fun result => crossedReports result.1) (by decide +kernel)
  have reports : crossedReports session := of_decide_eq_true checked
  have cut : ∀ data ∈ senderParty.allSent session.leftHistory, SafelyCut data :=
    fun data member refused => absurd (reports.2.2.2 data member) refused
  exact ⟨history, session, run, reports, media_session_sound _ _ _ run cut⟩

end StupidSimple.Mininet
