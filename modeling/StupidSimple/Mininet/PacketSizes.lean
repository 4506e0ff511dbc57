import StupidSimple.Mininet.Delivery

/-!
Owns the sizes that both congestion controllers hear of. `Sender` and `Receiver` count a
segment as its data and `SIM_SEGMENT_HEADER_SIZE`, a padding as its data and two
structures; the datagram has fields of two widths, a length and a checksum.

`overhead_reported_iff` says for which packets the count is the length of the datagram.
-/

namespace StupidSimple.Mininet

open StupidSimple.Library

/-- The fields of a segment that take two bytes more than they might. -/
def wideFields (seg : SimSegment) : Nat :=
  (if u16Max < seg.packetId.toNat then 1 else 0) + (if u16Max < seg.fid.toNat then 1 else 0) +
    if u8Max < seg.total.toNat then 1 else 0

/-- The sizes of the packets that the controller of the sender hears of. -/
def senderOverheads (calls : List SenderCall) : List Nat :=
  calls.filterMap fun
    | .addPacket _ _ length => some length
    | _ => none

/-- The sizes of the packets that the controller of the receiver hears of. -/
def receiverOverheads (calls : List ReceiverCall) : List Nat :=
  calls.filterMap fun
    | .onReceivedPacket _ payloadSize _ _ => some payloadSize.toNat
    | _ => none

def sentMessages (calls : List SenderCall) : List SentMessage :=
  calls.filterMap fun
    | .sendToNetwork message => some message
    | _ => none

/-- Any receiver that gets the whole datagram tells its controller what these calls tell
the one of the sender. -/
def SameHeard (message : SentMessage) (calls : List SenderCall) : Prop :=
  ∀ (receiver : Receiver) (strm : BinStream) (now : Int64), strm.Readable → strm.rsize = 0 →
    strm.contents = message.data →
    (receiver.processingMsg now strm).map (fun processed => receiverOverheads processed.2) =
      some (senderOverheads calls)

/-- Both controllers hear of one packet, of as many bytes as the datagram has. -/
structure SizeReported (message : SentMessage) (calls : List SenderCall) : Prop where
  length : senderOverheads calls = [message.data.length]
  same : SameHeard message calls

/-! ### Lengths -/

theorem datagramLength_eq (seg : SimSegment) :
    datagramLength seg = seg.data.1.length + segmentOverhead + 2 * wideFields seg := by
  unfold datagramLength wideBytes wideFields
  split_ifs <;> omega

theorem toNat_simSegmentOverhead (seg : SimSegment) :
    (Sender.simSegmentOverhead seg).toNat = seg.data.1.length + simSegmentHeaderSize := by
  have short := seg.data.2
  simp only [simVideoSize] at short
  have fits : seg.data.1.length + simSegmentHeaderSize < 2 ^ 16 := by
    simp only [simSegmentHeaderSize, simHeaderSize]
    omega
  exact UInt16.toNat_ofNat_of_lt' fits

/-- Header, fields, length and checksum of a padding. -/
def padOverhead : Nat := 18

theorem length_pad (header : SimHeader) (body : SimPad) :
    (sealed (headerLayout header ++ padLayout body)).length = body.data.1.length + padOverhead := by
  simp only [sealed, headerLayout, padLayout, dataLayout, List.length_append,
    BigEndian.length_encode, padOverhead]
  omega

/-! ### The sender -/

namespace Sender

variable {sender after : Sender} {calls : List SenderCall}

/-- A stream that was written to has memory. -/
theorem allocated_of_sendMessage {mid : UInt8} {body : SimBody}
    (sent : sender.sendMessage mid body = some (after, calls)) : 0 < sender.stream.size := by
  have ⟨written, encoded, _⟩ := Option.bind_eq_some_iff.mp sent
  have ⟨final, ran, _⟩ := Option.map_eq_some_iff.mp encoded
  exact allocated_of_simEncodeMsg ran

/-- What `TimeToSendPacket` does with a segment that is there. -/
theorem timeToSendPacket_calls {sequenceNumber : UInt16} {now : Int64}
    (sent : sender.timeToSendPacket sequenceNumber now = some (after, calls)) {seg : SimSegment}
    (found : sender.pendingBuf.find? sequenceNumber = some seg) :
    calls = [.sendToNetwork ⟨sender.dst, initSimHeader simSeg sender.uid,
          .segment (sender.stamp (toUInt32 now) seg),
          sealed (headerLayout (initSimHeader simSeg sender.uid) ++
            segmentLayout (sender.stamp (toUInt32 now) seg))⟩,
        .addPacket sender.uid sequenceNumber (simSegmentOverhead seg).toNat,
        .onSentPacket sequenceNumber now] := by
  simp only [timeToSendPacket, getSegment, found] at sent
  have ⟨first, sentFirst, same⟩ := Option.bind_eq_some_iff.mp sent
  let taken : Sender := { sender with pendingBuf := sender.pendingBuf.erase sequenceNumber }
  have sentMessage : taken.sendMessage simSeg (.segment (taken.stamp (toUInt32 now) seg)) =
      some (first.1, first.2) := sentFirst
  have allocated : 0 < taken.stream.size := allocated_of_sendMessage sentMessage
  have ⟨strm, spec, _⟩ := taken.sendSegment_spec seg allocated (toUInt32 now)
  rw [spec] at sentFirst
  cases sentFirst
  cases same
  rfl

/-- What `SendPadding` does. -/
theorem sendPadding_calls {payloadLen : UInt16} {ts : UInt32}
    {stack : Vector UInt8 paddingDataSize}
    (sent : sender.sendPadding payloadLen ts stack = some (after, calls)) :
    ∃ pad : SimPad, pad.data.1.length = payloadLen.toNat ∧
      calls = [.sendToNetwork ⟨sender.dst, initSimHeader simPad sender.uid, .pad pad,
          sealed (headerLayout (initSimHeader simPad sender.uid) ++ padLayout pad)⟩,
        .addPacket sender.uid sender.transSeq (paddingHeaderLen + payloadLen.toNat),
        .onSentPacket sender.transSeq (toInt64 ts)] := by
  unfold sendPadding at sent
  split at sent
  · next inside =>
      have ⟨first, sentFirst, same⟩ := Option.bind_eq_some_iff.mp sent
      let numbered : Sender := { sender with transSeq := sender.transSeq + 1 }
      let pad : SimPad := ⟨ts, sender.transSeq, stack.toList.take payloadLen.toNat,
        (List.length_take_le _ _).trans inside⟩
      have emits : Emits BinStream.view (simEncodeBody simPad (.pad pad)) (padLayout pad) :=
        (codes_simPad pad).emits
      have ⟨strm, spec, _⟩ := numbered.sendMessage_spec emits (allocated_of_sendMessage sentFirst)
      have length : pad.data.1.length = payloadLen.toNat := by
        rw [List.length_take_of_le]
        rw [Vector.length_toList]
        exact inside
      refine ⟨pad, length, ?_⟩
      rw [spec] at sentFirst
      cases sentFirst
      cases same
      rfl
  · contradiction

end Sender

/-! ### The receiver -/

section Receiver

variable {strm : BinStream} {uid : UInt32}

/-- The controller of the receiver hears of the data and `SIM_SEGMENT_HEADER_SIZE`. -/
theorem receiverOverheads_segment (readable : strm.Readable) (start : strm.rsize = 0)
    {seg : SimSegment} (contents : strm.contents =
      sealed (headerLayout (initSimHeader simSeg uid) ++ segmentLayout seg))
    (receiver : Receiver) (now : Int64) :
    (receiver.processingMsg now strm).map (fun processed => receiverOverheads processed.2) =
      some [seg.data.1.length + simSegmentHeaderSize] := by
  have short := seg.data.2
  have fits : seg.data.1.length + simSegmentHeaderSize < 2 ^ 32 := by
    simp only [simVideoSize] at short
    simp only [simSegmentHeaderSize, simHeaderSize]
    omega
  rw [Receiver.processingMsg_anySegment readable start contents now]
  show some [(UInt32.ofNat (seg.data.1.length + simSegmentHeaderSize)).toNat] = _
  rw [UInt32.toNat_ofNat_of_lt' fits]

/-- The controller of the receiver hears of the data and both structures. -/
theorem receiverOverheads_pad (readable : strm.Readable) (start : strm.rsize = 0) {pad : SimPad}
    (contents : strm.contents =
      sealed (headerLayout (initSimHeader simPad uid) ++ padLayout pad))
    (receiver : Receiver) (now : Int64) :
    (receiver.processingMsg now strm).map (fun processed => receiverOverheads processed.2) =
      some [pad.data.1.length + Receiver.paddingHeaderLen] := by
  have short := pad.data.2
  have fits : pad.data.1.length + Receiver.paddingHeaderLen < 2 ^ 32 := by
    simp only [paddingDataSize] at short
    simp only [Receiver.paddingHeaderLen]
    omega
  have ⟨headed, decodedHeader, headedReadable, unread⟩ :=
    simDecodeHeader_spec readable start contents
  have ⟨decoded, decodedBody, _⟩ :=
    ((codes_simPad pad).map (some ∘ SimBody.pad)).takes headed _ headedReadable unread
  have known : ¬((initSimHeader simPad uid).mid < minMsgId ∨
      maxMsgId < (initSimHeader simPad uid).mid) := by
    show ¬(simPad < minMsgId ∨ maxMsgId < simPad)
    decide
  have body : ((simDecodeMsg (initSimHeader simPad uid)).run headed) =
      some (some (.pad pad), decoded) := decodedBody
  have processed : receiver.processingMsg now strm =
      some (({ receiver with sessionConnected := true }).onRecvPad (initSimHeader simPad uid) pad
        (toUInt32 now)) := by
    rw [Receiver.processingMsg_of_known decodedHeader known]
    show ((simDecodeMsg (initSimHeader simPad uid)).run headed).bind _ = _
    rw [body]
    rfl
  rw [processed]
  show some [(UInt32.ofNat (pad.data.1.length + Receiver.paddingHeaderLen)).toNat] = _
  rw [UInt32.toNat_ofNat_of_lt' fits]

end Receiver

/-! ### Both ends -/

theorem segment_reported {sender after : Sender} {sequenceNumber : UInt16} {now : Int64}
    {calls : List SenderCall}
    (sent : sender.timeToSendPacket sequenceNumber now = some (after, calls)) {seg : SimSegment}
    (found : sender.pendingBuf.find? sequenceNumber = some seg) :
    ∃ message, sentMessages calls = [message] ∧ SameHeard message calls ∧
      (SizeReported message calls ↔ wideFields seg = 1) := by
  have listed := Sender.timeToSendPacket_calls sent found
  let message : SentMessage := ⟨sender.dst, initSimHeader simSeg sender.uid,
    .segment (sender.stamp (toUInt32 now) seg),
    sealed (headerLayout (initSimHeader simSeg sender.uid) ++
      segmentLayout (sender.stamp (toUInt32 now) seg))⟩
  have overheads : senderOverheads calls = [seg.data.1.length + simSegmentHeaderSize] := by
    rw [← toNat_simSegmentOverhead, listed]
    rfl
  have length : message.data.length = seg.data.1.length + segmentOverhead + 2 * wideFields seg :=
    (length_segment _ _).trans (datagramLength_eq _)
  have same : SameHeard message calls := by
    intro receiver strm arrival readable start contents
    rw [overheads]
    exact receiverOverheads_segment readable start contents receiver arrival
  refine ⟨message, ?_, same, ?_⟩
  · rw [listed]
    rfl
  · have counted : SizeReported message calls ↔ senderOverheads calls = [message.data.length] :=
      ⟨SizeReported.length, fun reported => ⟨reported, same⟩⟩
    rw [counted, overheads, length, List.singleton_inj]
    simp only [simSegmentHeaderSize, simHeaderSize, segmentOverhead]
    omega

theorem padding_reported {sender after : Sender} {payloadLen : UInt16} {ts : UInt32}
    {stack : Vector UInt8 paddingDataSize} {calls : List SenderCall}
    (sent : sender.sendPadding payloadLen ts stack = some (after, calls)) :
    ∃ message, sentMessages calls = [message] ∧ SameHeard message calls ∧
      senderOverheads calls = [message.data.length + 498] := by
  have ⟨pad, payload, listed⟩ := Sender.sendPadding_calls sent
  let message : SentMessage := ⟨sender.dst, initSimHeader simPad sender.uid, .pad pad,
    sealed (headerLayout (initSimHeader simPad sender.uid) ++ padLayout pad)⟩
  have overheads : senderOverheads calls = [Sender.paddingHeaderLen + payloadLen.toNat] := by
    rw [listed]
    rfl
  have length : message.data.length = pad.data.1.length + padOverhead := length_pad _ _
  refine ⟨message, ?_, ?_, ?_⟩
  · rw [listed]
    rfl
  · intro receiver strm arrival readable start contents
    rw [overheads, ← payload, Nat.add_comm]
    exact receiverOverheads_pad readable start contents receiver arrival
  · rw [overheads, length, payload, List.singleton_inj]
    simp only [Sender.paddingHeaderLen, padOverhead]
    omega

/-- Both controllers always hear the same size. For a segment it is the length of the
datagram exactly when one of its three fields of two widths is wide. For a padding it
never is: both count the array that is not sent. -/
theorem overhead_reported_iff (sender after : Sender) (calls : List SenderCall) :
    (∀ (sequenceNumber : UInt16) (now : Int64) (seg : SimSegment),
      sender.timeToSendPacket sequenceNumber now = some (after, calls) →
      sender.pendingBuf.find? sequenceNumber = some seg →
      ∃ message, sentMessages calls = [message] ∧ SameHeard message calls ∧
        (SizeReported message calls ↔ wideFields seg = 1)) ∧
    ∀ (payloadLen : UInt16) (ts : UInt32) (stack : Vector UInt8 paddingDataSize),
      sender.sendPadding payloadLen ts stack = some (after, calls) →
      ∃ message, sentMessages calls = [message] ∧ SameHeard message calls ∧
        ¬SizeReported message calls := by
  refine ⟨fun _ _ _ sent found => segment_reported sent found, ?_⟩
  intro payloadLen ts stack sent
  have ⟨message, listed, same, overheads⟩ := padding_reported sent
  refine ⟨message, listed, same, fun reported => ?_⟩
  have counted := reported.length
  rw [overheads, List.singleton_inj] at counted
  omega

/-- The first segment of a session, of three bytes: 33 bytes are counted, 31 are sent. -/
theorem not_overhead_reported :
    ∃ framed frameCalls sent calls message,
      (Sender.create ⟨4321, 0x0a000402⟩).start.sendVideo 96 1 [1, 2, 3] 5 =
          some (framed, frameCalls) ∧
        framed.timeToSendPacket 1 6 = some (sent, calls) ∧ sentMessages calls = [message] ∧
        message.data.length = 31 ∧ senderOverheads calls = [33] ∧
        ¬SizeReported message calls := by
  have evaluated : (((Sender.create ⟨4321, 0x0a000402⟩).start.sendVideo 96 1 [1, 2, 3] 5).bind
      fun framed => framed.1.timeToSendPacket 1 6).map (fun sent =>
        ((sentMessages sent.2).map fun message => message.data.length, senderOverheads sent.2)) =
      some ([31], [33]) := by
    decide +kernel
  obtain ⟨⟨sent, calls⟩, paced, values⟩ := Option.map_eq_some_iff.mp evaluated
  obtain ⟨⟨framed, frameCalls⟩, video, packet⟩ := Option.bind_eq_some_iff.mp paced
  obtain ⟨lengths, overheads⟩ := Prod.mk.inj values
  obtain ⟨message, listed, length⟩ := List.map_eq_singleton_iff.mp lengths
  refine ⟨framed, frameCalls, sent, calls, message, video, packet, listed, length, overheads, ?_⟩
  intro reported
  have counted := reported.length
  rw [overheads, length] at counted
  exact absurd counted (by decide)

/-- A segment whose packet id alone is wide. -/
def wideSegment : SimSegment := ⟨65536, 3, 40, 0, 1, 1, 96, 1, 0, 7, ⟨[1, 2, 3], by decide⟩⟩

def wideSender : Sender :=
  { Sender.create ⟨4321, 0x0a000402⟩ with
    pendingBuf := (Sender.create ⟨4321, 0x0a000402⟩).pendingBuf.insert 7 wideSegment }

theorem overhead_reported_wideSegment :
    (∃ sent calls message, wideSender.timeToSendPacket 7 6 = some (sent, calls) ∧
      sentMessages calls = [message] ∧ SizeReported message calls) ∧
    ∃ sent calls message, wideSender.sendPadding 500 6 (Vector.replicate 500 0) =
        some (sent, calls) ∧
      sentMessages calls = [message] ∧ ¬SizeReported message calls := by
  have found : wideSender.pendingBuf.find? 7 = some wideSegment := by decide +kernel
  have paced : (wideSender.timeToSendPacket 7 6).isSome = true := by decide +kernel
  have padded : (wideSender.sendPadding 500 6 (Vector.replicate 500 0)).isSome = true := by
    decide +kernel
  obtain ⟨⟨sent, calls⟩, packet⟩ := Option.isSome_iff_exists.mp paced
  obtain ⟨⟨last, later⟩, padding⟩ := Option.isSome_iff_exists.mp padded
  obtain ⟨message, listed, _, reported⟩ :=
    (overhead_reported_iff wideSender sent calls).1 _ _ _ packet found
  obtain ⟨pad, padListed, _, unreported⟩ :=
    (overhead_reported_iff wideSender last later).2 _ _ _ padding
  exact ⟨⟨sent, calls, message, packet, listed, reported.mpr (by decide)⟩,
    ⟨last, later, pad, padding, padListed, unreported⟩⟩

end StupidSimple.Mininet
