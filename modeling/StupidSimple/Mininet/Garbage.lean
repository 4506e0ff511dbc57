import StupidSimple.Mininet.Delivery

/-!
Owns what datagrams that are no messages do to a session. Both `Process` functions take
the address of a datagram before they look at it: `Sender` always, `Receiver` while it
has no session.

`garbage_harmless` says which datagrams leave the session as it was, and that a run in
which all garbage is of that kind is the run without the garbage.
-/

namespace StupidSimple.Mininet

open StupidSimple.Library

/-! ### Datagrams that are no messages -/

/-- `sim_decode_header` succeeds and the message id is in its range. -/
def headerAccepted (rstream : BinStream) : Bool :=
  match simDecodeHeader.run rstream with
  | some (some header, _) => !decide (header.mid < minMsgId ∨ maxMsgId < header.mid)
  | _ => false

/-- The datagram reaches the switch of `ProcessingMsg`. -/
def accepted (datagram : Datagram) : Bool :=
  (suUdpRecv binStreamInit (some datagram)).any fun received => headerAccepted received.2

/-- The datagram is received and is no message. -/
def Garbage (datagram : Datagram) : Prop := datagram.data ≠ [] ∧ accepted datagram = false

instance (datagram : Datagram) : Decidable (Garbage datagram) :=
  inferInstanceAs (Decidable (_ ∧ _))

/-- The header of a received stream is refused. -/
def Refused (rstream : BinStream) : Prop :=
  ∃ result strm, simDecodeHeader.run rstream = some (result, strm) ∧
    ∀ header, result = some header → header.mid < minMsgId ∨ maxMsgId < header.mid

/-- Garbage has no header, and the code fails on it, or its header is refused. -/
theorem Garbage.cases {datagram : Datagram} (garbage : Garbage datagram) :
    ∃ rstream, suUdpRecv binStreamInit (some datagram) = some (datagram.remote, rstream) ∧
      ((datagram.data.length < 4 ∧ simDecodeHeader.run rstream = none) ∨
        (4 ≤ datagram.data.length ∧ Refused rstream)) := by
  obtain ⟨rstream, received, readable, _, contents⟩ := suUdpRecv_init garbage.1
  have used := BinStream.length_contents readable.used
  have enough : 4 ≤ rstream.used ↔ 4 ≤ datagram.data.length := by
    rw [← used, contents, List.length_take, size_binStreamInit, defaultPacketSize]
    exact le_min_iff.trans (and_iff_right (by decide))
  refine ⟨rstream, received, ?_⟩
  by_cases long : 4 ≤ datagram.data.length
  · obtain ⟨result, strm, decoded⟩ := (simDecodeHeader_defined readable).mpr (enough.mpr long)
    refine Or.inr ⟨long, result, strm, decoded, fun header found => ?_⟩
    have verdict := garbage.2
    rw [found] at decoded
    rw [accepted, received, Option.any_some, headerAccepted, decoded] at verdict
    by_contra inside
    simp only [decide_eq_false inside, Bool.not_false, Bool.true_eq_false] at verdict
  · refine Or.inl ⟨Nat.lt_of_not_le long, Option.eq_none_iff_forall_ne_some.mpr ?_⟩
    intro pair decoded
    exact long (enough.mp ((simDecodeHeader_defined readable).mp ⟨pair.1, pair.2, decoded⟩))

namespace Sender

variable {sender after : Sender} {calls : List SenderCall} {datagram : Datagram}

/-- The peer and the statistics of the round trip time. -/
structure SameSession (before after : Sender) : Prop where
  dst : after.dst = before.dst
  rtt : after.rtt = before.rtt
  sumRtt : after.sumRtt = before.sumRtt
  rttNum : after.rttNum = before.rttNum
  minRtt : after.minRtt = before.minRtt
  maxRtt : after.maxRtt = before.maxRtt
  averageRtt : after.averageRtt = before.averageRtt

theorem pingIfDue_same {now : Int64} (pinged : sender.pingIfDue now = some (after, calls)) :
    SameSession sender after := by
  unfold pingIfDue at pinged
  split at pinged
  · have ⟨written, encoded, same⟩ := Option.bind_eq_some_iff.mp pinged
    have ⟨message, strm, _, _, sameAfter⟩ := sendMessage_cases encoded
    cases same
    rw [sameAfter]
    exact ⟨rfl, rfl, rfl, rfl, rfl, rfl, rfl⟩
  · cases pinged
    exact ⟨rfl, rfl, rfl, rfl, rfl, rfl, rfl⟩

theorem pingIfDue_defined (allocated : 0 < sender.stream.size) (now : Int64) :
    ∃ after calls, sender.pingIfDue now = some (after, calls) := by
  unfold pingIfDue
  split
  · have ⟨bytes, codes⟩ := codes_simPing ⟨now⟩
    have emits : Emits BinStream.view (simEncodeBody simPing (.ping ⟨now⟩)) bytes := codes.emits
    have ⟨strm, sent, _⟩ := sender.sendMessage_spec emits allocated
    rw [sendPing, sent]
    exact ⟨_, _, rfl⟩
  · exact ⟨_, _, rfl⟩

theorem processingMsg_refused {rstream : BinStream} (refused : Refused rstream) (now : Int64) :
    sender.processingMsg now rstream = some (sender, []) := by
  have ⟨result, strm, decoded, outside⟩ := refused
  rw [processingMsg, decoded]
  cases result with
  | none => rfl
  | some header => exact if_pos (outside header rfl)

/-- What `Process` does with garbage. -/
theorem process_garbage (running : sender.running = true) (garbage : Garbage datagram)
    (now later : Int64) :
    sender.process now later (some datagram) =
      if 4 ≤ datagram.data.length then
        (sender.pingIfDue now).map fun pinged =>
          ({ pinged.1 with dst := datagram.remote }, pinged.2)
      else none := by
  have ⟨rstream, received, verdict⟩ := garbage.cases
  rw [process, if_neg (by rw [running]; decide)]
  cases verdict with
  | inl short =>
      rw [if_neg (Nat.not_le_of_lt short.1)]
      cases sender.pingIfDue now with
      | none => rfl
      | some pinged =>
          simp only [Option.bind_eq_bind, Option.bind_some, received, processingMsg, short.2]
          rfl
  | inr long =>
      rw [if_pos long.1]
      cases sender.pingIfDue now with
      | none => rfl
      | some pinged =>
          simp only [Option.bind_eq_bind, Option.bind_some, received, processingMsg_refused long.2,
            List.append_nil, Option.map_some]

/-- Garbage leaves the session as it was. -/
def Undisturbed (now later : Int64) (datagram : Datagram) (sender : Sender) : Prop :=
  ∃ after calls, sender.process now later (some datagram) = some (after, calls) ∧
    SameSession sender after

/-- Garbage with room for a checksum, from the peer itself. -/
def Harmless (datagram : Datagram) (sender : Sender) : Prop :=
  sender.running = false ∨ (4 ≤ datagram.data.length ∧ datagram.remote = sender.dst)

theorem undisturbed_iff (allocated : 0 < sender.stream.size) (garbage : Garbage datagram)
    (now later : Int64) :
    sender.Undisturbed now later datagram ↔ sender.Harmless datagram := by
  have ⟨pinged, pings, sent⟩ := pingIfDue_defined allocated now
  have same := pingIfDue_same sent
  unfold Undisturbed Harmless
  cases running : sender.running with
  | false =>
      have idle : sender.process now later (some datagram) = some (sender, []) := if_pos running
      rw [idle]
      exact iff_of_true ⟨sender, [], rfl, rfl, rfl, rfl, rfl, rfl, rfl, rfl⟩ (Or.inl rfl)
  | true =>
      rw [process_garbage running garbage, sent, Option.map_some]
      simp only [Bool.true_eq_false, false_or]
      constructor
      · rintro ⟨after, calls, processed, kept⟩
        split at processed
        · next long =>
            cases processed
            exact ⟨long, kept.dst⟩
        · contradiction
      · rintro ⟨long, peer⟩
        rw [if_pos long]
        exact ⟨_, _, rfl, peer, same.rtt, same.sumRtt, same.rttNum, same.minRtt, same.maxRtt,
          same.averageRtt⟩

/-- Harmless garbage is as good as no datagram. -/
theorem process_harmless (garbage : Garbage datagram) (harmless : sender.Harmless datagram)
    (now later : Int64) :
    sender.process now later none = sender.process now later (some datagram) := by
  cases running : sender.running with
  | false => rw [process, process, if_pos running, if_pos running]
  | true =>
      have peer := harmless.resolve_left (by rw [running]; decide)
      rw [process_garbage running garbage, if_pos peer.1, process,
        if_neg (by rw [running]; decide)]
      cases sent : sender.pingIfDue now with
      | none => rfl
      | some pinged =>
          have same := (pingIfDue_same sent).dst.trans peer.2.symm
          rw [Option.map_some, ← same]
          rfl

/-- The event without its datagram, when that is garbage. -/
def withoutGarbage : SenderEvent → SenderEvent
  | .process now later (some datagram) =>
      .process now later (if Garbage datagram then none else some datagram)
  | event => event

/-- The garbage of an event is harmless. -/
def HarmlessEvent (sender : Sender) : SenderEvent → Prop
  | .process _ _ (some datagram) => Garbage datagram → sender.Harmless datagram
  | _ => True

theorem step_withoutGarbage {event : SenderEvent} (harmless : sender.HarmlessEvent event) :
    machine.step sender (withoutGarbage event) = machine.step sender event := by
  unfold withoutGarbage
  split
  · next now later datagram =>
      split
      · next garbage => exact process_harmless garbage (harmless garbage) now later
      · rfl
  · rfl

end Sender

namespace Receiver

variable {receiver after : Receiver} {calls : List ReceiverCall} {datagram : Datagram}

/-- The session, its peer and the statistics of the round trip time. -/
structure SameSession (before after : Receiver) : Prop where
  sessionConnected : after.sessionConnected = before.sessionConnected
  dst : after.dst = before.dst
  rtt : after.rtt = before.rtt
  sumRtt : after.sumRtt = before.sumRtt
  rttNum : after.rttNum = before.rttNum
  maxRtt : after.maxRtt = before.maxRtt

theorem pingIfDue_same {now : UInt32} (pinged : receiver.pingIfDue now = some (after, calls)) :
    SameSession receiver after := by
  unfold pingIfDue at pinged
  split_ifs at pinged
  · have ⟨written, sent, same⟩ := Option.bind_eq_some_iff.mp pinged
    have ⟨message, _, made⟩ := Option.bind_eq_some_iff.mp sent
    cases made
    cases same
    exact ⟨rfl, rfl, rfl, rfl, rfl, rfl⟩
  · cases pinged
    exact ⟨rfl, rfl, rfl, rfl, rfl, rfl⟩
  · cases pinged
    exact ⟨rfl, rfl, rfl, rfl, rfl, rfl⟩

theorem processingMsg_refused {rstream : BinStream} (refused : Refused rstream) (now : Int64) :
    receiver.processingMsg now rstream = some (receiver, []) := by
  have ⟨result, strm, decoded, outside⟩ := refused
  rw [processingMsg, decoded]
  cases result with
  | none => rfl
  | some header => exact if_pos (outside header rfl)

/-- What `Process` does with garbage. -/
theorem process_garbage (running : receiver.running = true) (garbage : Garbage datagram)
    (now later : Int64) :
    receiver.process now later (some datagram) =
      if 4 ≤ datagram.data.length then
        (receiver.pingIfDue (toUInt32 now)).map fun pinged =>
          (pinged.1.connect datagram.remote, pinged.2)
      else none := by
  have ⟨rstream, received, verdict⟩ := garbage.cases
  rw [process, if_neg (by rw [running]; decide)]
  cases verdict with
  | inl short =>
      rw [if_neg (Nat.not_le_of_lt short.1)]
      cases receiver.pingIfDue (toUInt32 now) with
      | none => rfl
      | some pinged =>
          simp only [Option.bind_eq_bind, Option.bind_some, received, processingMsg, short.2]
          rfl
  | inr long =>
      rw [if_pos long.1]
      cases receiver.pingIfDue (toUInt32 now) with
      | none => rfl
      | some pinged =>
          simp only [Option.bind_eq_bind, Option.bind_some, received, processingMsg_refused long.2,
            List.append_nil, Option.map_some]

/-- Garbage leaves the session as it was. -/
def Undisturbed (now later : Int64) (datagram : Datagram) (receiver : Receiver) : Prop :=
  ∃ after calls, receiver.process now later (some datagram) = some (after, calls) ∧
    SameSession receiver after

/-- Garbage with room for a checksum, once there is a session. -/
def Harmless (datagram : Datagram) (receiver : Receiver) : Prop :=
  receiver.running = false ∨ (4 ≤ datagram.data.length ∧ receiver.sessionConnected = true)

theorem undisturbed_iff (allocated : 0 < receiver.stream.size) (garbage : Garbage datagram)
    (now later : Int64) :
    receiver.Undisturbed now later datagram ↔ receiver.Harmless datagram := by
  have ⟨pinged, pings, sent, _⟩ := pingIfDue_defined allocated (toUInt32 now)
  have same := pingIfDue_same sent
  unfold Undisturbed Harmless
  cases running : receiver.running with
  | false =>
      have idle : receiver.process now later (some datagram) = some (receiver, []) := if_pos running
      rw [idle]
      exact iff_of_true ⟨receiver, [], rfl, rfl, rfl, rfl, rfl, rfl, rfl⟩ (Or.inl rfl)
  | true =>
      rw [process_garbage running garbage, sent, Option.map_some]
      simp only [Bool.true_eq_false, false_or]
      constructor
      · rintro ⟨after, calls, processed, kept⟩
        split at processed
        · next long =>
            cases processed
            refine ⟨long, ?_⟩
            by_contra fresh
            have connected := kept.sessionConnected
            rw [connect, if_neg (same.sessionConnected ▸ fresh)] at connected
            exact fresh connected.symm
        · contradiction
      · rintro ⟨long, connected⟩
        rw [if_pos long, connect, if_pos (same.sessionConnected.trans connected)]
        exact ⟨_, _, rfl, same⟩

/-- Harmless garbage is as good as no datagram. -/
theorem process_harmless (garbage : Garbage datagram) (harmless : receiver.Harmless datagram)
    (now later : Int64) :
    receiver.process now later none = receiver.process now later (some datagram) := by
  cases running : receiver.running with
  | false => rw [process, process, if_pos running, if_pos running]
  | true =>
      have session := harmless.resolve_left (by rw [running]; decide)
      rw [process_garbage running garbage, if_pos session.1, process,
        if_neg (by rw [running]; decide)]
      cases sent : receiver.pingIfDue (toUInt32 now) with
      | none => rfl
      | some pinged =>
          have connected := (pingIfDue_same sent).sessionConnected.trans session.2
          rw [Option.map_some, connect, if_pos connected]
          rfl

/-- The event without its datagram, when that is garbage. -/
def withoutGarbage : ReceiverEvent → ReceiverEvent
  | .process now later (some datagram) =>
      .process now later (if Garbage datagram then none else some datagram)
  | event => event

/-- The garbage of an event is harmless. -/
def HarmlessEvent (receiver : Receiver) : ReceiverEvent → Prop
  | .process _ _ (some datagram) => Garbage datagram → receiver.Harmless datagram
  | _ => True

theorem step_withoutGarbage {event : ReceiverEvent} (harmless : receiver.HarmlessEvent event) :
    machine.step receiver (withoutGarbage event) = machine.step receiver event := by
  unfold withoutGarbage
  split
  · next now later datagram =>
      split
      · next garbage => exact process_harmless garbage (harmless garbage) now later
      · rfl
  · rfl

end Receiver

/-! ### Sessions under garbage -/

/-- Garbage leaves a session as it was exactly when it is harmless, and a run whose
garbage is all harmless is the run without it: the same calls to the same peers. -/
theorem garbage_harmless {datagram : Datagram} (garbage : Garbage datagram) (now later : Int64) :
    (∀ sender : Sender, 0 < sender.stream.size →
      (sender.Undisturbed now later datagram ↔ sender.Harmless datagram)) ∧
    (∀ receiver : Receiver, 0 < receiver.stream.size →
      (receiver.Undisturbed now later datagram ↔ receiver.Harmless datagram)) ∧
    (∀ (start final : Sender) (history : List (SenderEvent × List SenderCall)),
      Sender.machine.Run start history final →
      (∀ transition ∈ Sender.machine.transitions start (history.map Prod.fst),
        transition.before.HarmlessEvent transition.event) →
      Sender.machine.Run start
        (history.map fun entry => (Sender.withoutGarbage entry.1, entry.2)) final) ∧
    (∀ (start final : Receiver) (history : List (ReceiverEvent × List ReceiverCall)),
      Receiver.machine.Run start history final →
      (∀ transition ∈ Receiver.machine.transitions start (history.map Prod.fst),
        transition.before.HarmlessEvent transition.event) →
      Receiver.machine.Run start
        (history.map fun entry => (Receiver.withoutGarbage entry.1, entry.2)) final) := by
  refine ⟨?_, ?_, ?_, ?_⟩
  · intro sender allocated
    exact Sender.undisturbed_iff allocated garbage now later
  · intro receiver allocated
    exact Receiver.undisturbed_iff allocated garbage now later
  · intro start final history run harmless
    exact run.replace Sender.withoutGarbage fun transition member =>
      Sender.step_withoutGarbage (harmless transition member)
  · intro start final history run harmless
    exact run.replace Receiver.withoutGarbage fun transition member =>
      Receiver.step_withoutGarbage (harmless transition member)

section Zeros

/-- The peer of the session. -/
def peer : SuAddr := ⟨4321, 0x0a000402⟩

/-- Another host. -/
def intruder : SuAddr := ⟨9, 0x0a000009⟩

theorem garbage_from_peer : Garbage ⟨peer, [0, 0, 0, 0]⟩ := by decide +kernel

theorem garbage_from_intruder : Garbage ⟨intruder, [0, 0, 0, 0]⟩ := by decide +kernel

theorem allocated_create : 0 < (Sender.create peer).start.stream.size :=
  size_binStreamInit ▸ by decide

/-- Zeros from the peer, and zeros from anywhere once there is a session. -/
theorem zeros_harmless :
    (Sender.create peer).start.Undisturbed 5 5 ⟨peer, [0, 0, 0, 0]⟩ ∧
      ({ Receiver.create peer 1000 with sessionConnected := true } : Receiver).Undisturbed 5 5
        ⟨intruder, [0, 0, 0, 0]⟩ ∧
      ∃ calls final, Sender.machine.Run (Sender.create peer)
          [(.start, []), (.process 5 5 none, calls)] final ∧
        (Sender.create peer).start.process 5 5 (some ⟨peer, [0, 0, 0, 0]⟩) =
          some (final, calls) := by
  have ⟨bySender, _, bySenderRun, _⟩ := garbage_harmless garbage_from_peer 5 5
  have fromPeer := (bySender (Sender.create peer).start allocated_create).mpr
    (Or.inr ⟨by decide, rfl⟩)
  have ⟨_, byReceiver, _⟩ := garbage_harmless garbage_from_intruder 5 5
  have inSession := (byReceiver { Receiver.create peer 1000 with sessionConnected := true }
    (size_binStreamInit ▸ by decide)).mpr (Or.inr ⟨by decide, rfl⟩)
  have ⟨final, calls, processed, _⟩ := fromPeer
  have started : Sender.machine.Run (Sender.create peer) [(.start, [])]
      (Sender.create peer).start := Machine.Run.nil.snoc rfl
  let event : SenderEvent := .process 5 5 (some ⟨peer, [0, 0, 0, 0]⟩)
  have stepped : Sender.machine.step (Sender.create peer).start event = some (final, calls) :=
    processed
  have harmless : ∀ transition ∈ Sender.machine.transitions (Sender.create peer)
      ([(SenderEvent.start, ([] : List SenderCall))].map Prod.fst ++ [event]),
      transition.before.HarmlessEvent transition.event := by
    rw [started.transitions_snoc stepped, List.forall_mem_append, List.forall_mem_singleton]
    refine ⟨fun transition member => ?_, fun _ => Or.inr ⟨by decide, rfl⟩⟩
    rw [List.mem_singleton.mp member]
    trivial
  have quiet := bySenderRun _ _ _ (started.snoc stepped) harmless
  refine ⟨fromPeer, inSession, calls, final, ?_, processed⟩
  have discarded : Sender.withoutGarbage event = .process 5 5 none := by
    rw [Sender.withoutGarbage, if_pos garbage_from_peer]
  rw [List.map_append, List.map_singleton, List.map_singleton, discarded] at quiet
  exact quiet

/-- Zeros from another host take over both ends of the session. -/
theorem zeros_redirect :
    Garbage ⟨intruder, [0, 0, 0, 0]⟩ ∧
    (∃ after calls, (Sender.create peer).start.process 5 5 (some ⟨intruder, [0, 0, 0, 0]⟩) =
        some (after, calls) ∧ after.dst = intruder ∧ intruder ≠ peer) ∧
    ∃ after calls, (Receiver.create peer 1000).process 5 5 (some ⟨intruder, [0, 0, 0, 0]⟩) =
        some (after, calls) ∧ after.sessionConnected = true ∧ after.dst = intruder := by
  refine ⟨garbage_from_intruder, ?_, ?_⟩
  · have ⟨pinged, pings, sent⟩ := Sender.pingIfDue_defined allocated_create 5
    refine ⟨{ pinged with dst := intruder }, pings, ?_, rfl, by decide⟩
    rw [Sender.process_garbage rfl garbage_from_intruder, sent]
    rfl
  · refine ⟨(Receiver.create peer 1000).connect intruder, [], ?_, rfl, rfl⟩
    rw [Receiver.process_garbage rfl garbage_from_intruder]
    rfl

end Zeros

end StupidSimple.Mininet
