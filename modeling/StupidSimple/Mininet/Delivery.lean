import StupidSimple.Mininet.Receiver
import StupidSimple.Mininet.SenderSteps

/-!
Owns the delivery of segments: from `SendSegment` over a network that changes nothing to
`OnRecvSegment`. The receive buffer is as long as `bin_stream_init` makes it, and the
system cuts what is longer.

`segments_delivered_iff` gives the frames whose segments all arrive: those that leave
room for the header of their first segment.
-/

namespace StupidSimple.Mininet

open StupidSimple.Library

/-! ### Length of a datagram -/

/-- The bytes that a wide id takes beyond two. -/
def wideBytes (id : UInt32) : Nat := if u16Max < id.toNat then 2 else 0

theorem length_idLayout (id : UInt32) : (idLayout id).length = 2 + wideBytes id := by
  unfold idLayout wideBytes
  split <;> rw [BigEndian.length_encode]

/-- The bytes of a segment around its data, with header and checksum, while no field
is wide. -/
def segmentOverhead : Nat := 28

/-- The length of the datagram of a segment. -/
def datagramLength (seg : SimSegment) : Nat :=
  seg.data.1.length + segmentOverhead + wideBytes seg.packetId + wideBytes seg.fid +
    if u8Max < seg.total.toNat then 2 else 0

theorem length_segment (header : SimHeader) (seg : SimSegment) :
    (sealed (headerLayout header ++ segmentLayout seg)).length = datagramLength seg := by
  have part : (partLayout seg.index seg.total).length =
      2 + if u8Max < seg.total.toNat then 2 else 0 := by
    unfold partLayout
    split <;> rw [List.length_append, BigEndian.length_encode, BigEndian.length_encode]
  simp only [sealed, headerLayout, segmentLayout, dataLayout, List.length_append,
    BigEndian.length_encode, length_idLayout, part, datagramLength, segmentOverhead]
  omega

/-! ### Receiving a segment -/

/-- What the receiver takes over from a segment: the packet and frame ids, the place in the
frame, both times, the transport number and the data. `ftype`, `payloadType` and `remb` are
left out. -/
structure SameMedia (seen sent : SimSegment) : Prop where
  packetId : seen.packetId = sent.packetId
  fid : seen.fid = sent.fid
  timestamp : seen.timestamp = sent.timestamp
  index : seen.index = sent.index
  total : seen.total = sent.total
  sendTs : seen.sendTs = sent.sendTs
  transportSeq : seen.transportSeq = sent.transportSeq
  data : seen.data = sent.data

theorem sameMedia_onWire (seg : SimSegment) : SameMedia seg.onWire seg :=
  ⟨rfl, rfl, rfl, rfl, rfl, rfl, rfl, rfl⟩

namespace Receiver

variable {receiver : Receiver}

theorem pingIfDue_defined (allocated : 0 < receiver.stream.size) (now : UInt32) :
    ∃ after calls, receiver.pingIfDue now = some (after, calls) ∧
      after.sessionConnected = receiver.sessionConnected := by
  unfold pingIfDue
  split_ifs
  · have ⟨bytes, codes⟩ := codes_simPing ⟨toInt64 now⟩
    have emits : Emits BinStream.view (simEncodeBody simPing (.ping ⟨toInt64 now⟩)) bytes :=
      codes.emits
    have ⟨strm, encoded, _⟩ :=
      encodeTo_spec (initSimHeader simPing receiver.uid) emits allocated receiver.dst
    rw [sendPing, sendMessage, encoded]
    exact ⟨_, _, rfl, rfl⟩
  · exact ⟨_, _, rfl, rfl⟩
  · exact ⟨_, _, rfl, rfl⟩

theorem processingMsg_of_known {strm headed : BinStream} {header : SimHeader}
    (decoded : simDecodeHeader.run strm = some (some header, headed))
    (known : ¬(header.mid < minMsgId ∨ maxMsgId < header.mid)) (now : Int64) :
    receiver.processingMsg now strm =
      ({ receiver with sessionConnected := true }).processingBody header now headed := by
  simp only [processingMsg, decoded, Option.bind_eq_bind, Option.bind_some, if_neg known]

/-- A segment that arrives whole is handed to `OnRecvSegment`, with as much of its index
as was sent. -/
theorem processingMsg_anySegment {strm : BinStream} (readable : strm.Readable)
    (start : strm.rsize = 0) {uid : UInt32} {seg : SimSegment}
    (contents : strm.contents = sealed (headerLayout (initSimHeader simSeg uid) ++
      segmentLayout seg)) (now : Int64) :
    receiver.processingMsg now strm =
      some (({ receiver with sessionConnected := true }).onRecvSegment
        (initSimHeader simSeg uid)
        { seg.onWire with index := (partSeen seg.index seg.total).1 } (toUInt32 now)) := by
  have ⟨headed, decodedHeader, headedReadable, unread⟩ :=
    simDecodeHeader_spec readable start contents
  have ⟨decoded, decodedBody, _⟩ :=
    ((codes_anySegment seg).map (some ∘ SimBody.segment)).takes headed _ headedReadable unread
  have known : ¬((initSimHeader simSeg uid).mid < minMsgId ∨
      maxMsgId < (initSimHeader simSeg uid).mid) := by
    show ¬(simSeg < minMsgId ∨ maxMsgId < simSeg)
    decide
  have body : ((simDecodeMsg (initSimHeader simSeg uid)).run headed) =
      some (some (.segment _), decoded) := decodedBody
  rw [processingMsg_of_known decodedHeader known]
  show ((simDecodeMsg (initSimHeader simSeg uid)).run headed).bind _ = _
  rw [body]
  rfl

theorem processingMsg_segment {strm : BinStream} (readable : strm.Readable)
    (start : strm.rsize = 0) {uid : UInt32} {seg : SimSegment} (inside : seg.index ≤ seg.total)
    (contents : strm.contents = sealed (headerLayout (initSimHeader simSeg uid) ++
      segmentLayout seg)) (now : Int64) :
    receiver.processingMsg now strm =
      some (({ receiver with sessionConnected := true }).onRecvSegment
        (initSimHeader simSeg uid) seg.onWire (toUInt32 now)) := by
  rw [processingMsg_anySegment readable start contents now, partSeen_of_le inside]
  rfl

theorem process_segment (running : receiver.running = true)
    (allocated : 0 < receiver.stream.size) {uid : UInt32} {seg : SimSegment}
    (inside : seg.index ≤ seg.total) (datagram : Datagram)
    (data : datagram.data = sealed (headerLayout (initSimHeader simSeg uid) ++ segmentLayout seg))
    (fits : datagram.data.length ≤ binStreamInit.size) (now later : Int64) :
    ∃ after calls, receiver.process now later (some datagram) = some (after, calls) ∧
      .onRecvSegment (initSimHeader simSeg uid) seg.onWire ∈ calls := by
  have ⟨pinged, pings, sentPing⟩ := pingIfDue_defined allocated (toUInt32 now)
  have filled : datagram.data ≠ [] := by
    rw [data]
    exact List.append_ne_nil_of_left_ne_nil (List.cons_ne_nil _ _) _
  have ⟨rstream, received, readable, start, kept⟩ := suUdpRecv_init filled
  have contents : rstream.contents = datagram.data := kept.trans (List.take_of_length_le fits)
  let processed := ({ pinged.connect datagram.remote with sessionConnected := true }).onRecvSegment
    (initSimHeader simSeg uid) seg.onWire (toUInt32 later)
  have handled : (pinged.connect datagram.remote).processingMsg later rstream = some processed :=
    processingMsg_segment readable start inside (contents.trans data) later
  refine ⟨processed.1, pings ++ processed.2, ?_, List.mem_append_right _ List.mem_cons_self⟩
  simp only [process, running, Bool.true_eq_false, if_false, sentPing, Option.bind_eq_bind,
    Option.bind_some, received, handled]

end Receiver

/-! ### Frames -/

/-- The segment is sent by this sender at this time in one datagram that fits the
buffer of the receiver, and any receiver hands it to `OnRecvSegment`. -/
def Delivered (sender : Sender) (now : UInt32) (seg : SimSegment) : Prop :=
  ∃ after message, sender.sendSegment seg now = some (after, [.sendToNetwork message]) ∧
    message.data.length ≤ binStreamInit.size ∧
    ∀ (receiver : Receiver) (remote : SuAddr) (arrival later : Int64), receiver.running = true →
      0 < receiver.stream.size →
      ∃ received calls seen, receiver.process arrival later (some ⟨remote, message.data⟩) =
          some (received, calls) ∧
        .onRecvSegment (initSimHeader simSeg sender.uid) seen ∈ calls ∧
        SameMedia seen (sender.stamp now seg)

section Delivered

variable {sender : Sender} {seg : SimSegment}

/-- A segment is delivered exactly when its datagram fits. -/
theorem delivered_iff (inside : seg.index ≤ seg.total) (allocated : 0 < sender.stream.size)
    (now : UInt32) : Delivered sender now seg ↔ datagramLength seg ≤ binStreamInit.size := by
  have ⟨strm, sent, _⟩ := sender.sendSegment_spec seg allocated now
  have length := length_segment (initSimHeader simSeg sender.uid) (sender.stamp now seg)
  constructor
  · rintro ⟨after, message, sentAgain, fits, _⟩
    rw [sent] at sentAgain
    cases sentAgain
    exact length.symm.trans_le fits
  · intro fits
    have fitsAll := length.trans_le fits
    refine ⟨_, _, sent, fitsAll, fun receiver remote arrival later running room => ?_⟩
    have ⟨received, calls, processed, handed⟩ :=
      receiver.process_segment running room (show (sender.stamp now seg).index ≤ _ from inside)
        ⟨remote, _⟩ rfl fitsAll arrival later
    exact ⟨received, calls, _, processed, handed, sameMedia_onWire _⟩

end Delivered

namespace Sender

theorem frameSplit_eq_cons (size : Nat) :
    ∃ first rest, frameSplit size = first :: rest ∧ first.1 = min size simVideoSize ∧
      (size ≤ simVideoSize → rest = []) := by
  unfold frameSplit
  split
  · next small => exact ⟨_, _, rfl, (min_eq_left small).symm, fun _ => rfl⟩
  · next large =>
      have below : simVideoSize ≤ size := Nat.le_of_not_le large
      have positive : 0 < size / simVideoSize := Nat.div_pos below (by decide)
      rw [← Nat.succ_pred_eq_of_pos positive, List.replicate_succ, List.cons_append]
      exact ⟨_, _, rfl, (min_eq_right below).symm, fun small => absurd small large⟩

theorem created_prefix (frame : FrameInfo) (i : UInt16) (chunks : List (Buffer simVideoSize))
    (queue : FrameQueue) : queue.created <+: (queueSegments frame i chunks queue).created := by
  induction chunks generalizing i queue with
  | nil => exact List.prefix_refl _
  | cons chunk rest inductionHypothesis =>
      have later := inductionHypothesis (i + 1) (queueSegment frame i chunk queue)
      exact (List.prefix_append queue.created _).trans later

/-- The first segment of a frame, which is the only one of a short frame. -/
structure FirstSegment (sender : Sender) (data : List UInt8) (first : SimSegment) : Prop where
  packetId : first.packetId = sender.packetSeed
  fid : first.fid = sender.frameSeed
  index : first.index = 0
  length : first.data.1.length = min data.length simVideoSize
  total : data.length ≤ simVideoSize → first.total = 1

theorem sendVideo_frame {sender : Sender} (running : sender.running = true) {data : List UInt8}
    (filled : data ≠ []) (admitted : data.length / simVideoSize < maxSplitNumber)
    (payloadType : UInt8) (ftype : Int32) (now : Int64) :
    ∃ after calls first rest,
      sender.sendVideo payloadType ftype data now = some (after, calls) ∧
        createdSegments calls = first :: rest ∧ FirstSegment sender data first ∧
        (data.length ≤ simVideoSize → rest = []) := by
  let started := sender.startClock now
  have same : started.packetSeed = sender.packetSeed ∧ started.frameSeed = sender.frameSeed := by
    simp only [started, startClock]
    split <;> exact ⟨rfl, rfl⟩
  have ⟨size, sizes, split, length, short⟩ := frameSplit_eq_cons data.length
  let frame : FrameInfo :=
    ⟨payloadType, ftype.toUInt32.toUInt8, toUInt32 (now - started.firstTs),
      UInt16.ofNat (frameSplit data.length).length⟩
  let chunk : Buffer simVideoSize :=
    ⟨data.take size.1, (List.length_take_le _ _).trans size.2⟩
  let queue := queueSegments frame 0 (cutFrame (frameSplit data.length) data) ⟨started, .empty, []⟩
  have chunks : cutFrame (frameSplit data.length) data =
      chunk :: cutFrame sizes (data.drop size.1) := by rw [split]; rfl
  have sent : sender.sendVideo payloadType ftype data now =
      some ({ queue.sender with frameSeed := queue.sender.frameSeed + 1 },
        queue.created.map .newSegment ++ queue.seqLenMap.entries.map fun entry =>
          .insertPacket sender.uid entry.1 now entry.2) := by
    have nonempty : ¬data.length = 0 := fun zero => filled (List.eq_nil_of_length_eq_zero zero)
    rw [sendVideo, if_neg (by rw [running]; decide), if_neg nonempty, if_pos admitted]
  have first : [started.newSegment frame 0 chunk] <+: queue.created := by
    simp only [queue, chunks]
    exact created_prefix frame 1 (cutFrame sizes (data.drop size.1))
      (queueSegment frame 0 chunk ⟨started, .empty, []⟩)
  have ⟨rest, whole⟩ := first
  refine ⟨_, _, started.newSegment frame 0 chunk, rest, sent, ?_, ?_, ?_⟩
  · rw [createdSegments_frame, ← whole]
    rfl
  · refine ⟨same.1, same.2, rfl, ?_, fun small => ?_⟩
    · show (data.take size.1).length = _
      rw [List.length_take, length, min_right_comm, min_self]
    · show UInt16.ofNat (frameSplit data.length).length = 1
      rw [split, short small]
      rfl
  · intro small
    rw [short small] at chunks
    have alone : queue.created = [started.newSegment frame 0 chunk] := by
      simp only [queue, chunks]
      rfl
    rw [alone] at whole
    exact List.append_cancel_left (whole.trans (List.append_nil _).symm)

end Sender

/-- All segments of a frame are delivered, whoever sends them and whenever, exactly when
the frame and the header of its first segment fit the buffer of the receiver. -/
theorem segments_delivered_iff {sender : Sender} (running : sender.running = true)
    {data : List UInt8} (filled : data ≠ [])
    (admitted : data.length / simVideoSize < Sender.maxSplitNumber) (payloadType : UInt8)
    (ftype : Int32) (now : Int64) :
    ∃ after calls, sender.sendVideo payloadType ftype data now = some (after, calls) ∧
      ((∀ seg ∈ createdSegments calls, ∀ pacing : Sender, 0 < pacing.stream.size →
          ∀ later, Delivered pacing later seg) ↔
        data.length + segmentOverhead + wideBytes sender.packetSeed +
          wideBytes sender.frameSeed ≤ binStreamInit.size) := by
  have ⟨after, calls, first, rest, sent, created, isFirst, alone⟩ :=
    Sender.sendVideo_frame running filled admitted payloadType ftype now
  have inside : first.index ≤ first.total := isFirst.index ▸ UInt16.zero_le
  have size : binStreamInit.size = 1024 := size_binStreamInit
  have length : datagramLength first = min data.length simVideoSize + segmentOverhead +
      wideBytes sender.packetSeed + wideBytes sender.frameSeed +
        if u8Max < first.total.toNat then 2 else 0 := by
    rw [datagramLength, isFirst.length, isFirst.packetId, isFirst.fid]
  refine ⟨after, calls, sent, ?_⟩
  rw [created, size]
  constructor
  · intro all
    have allocated : 0 < (Sender.create ⟨0, 0⟩).stream.size := size.symm ▸ by decide
    have delivered := all first List.mem_cons_self (Sender.create ⟨0, 0⟩) allocated 0
    have fits := (delivered_iff inside allocated 0).mp delivered
    rw [length, size] at fits
    simp only [simVideoSize, segmentOverhead] at fits ⊢
    omega
  · intro room seg member pacing allocated later
    have short : data.length ≤ simVideoSize := by
      simp only [simVideoSize, segmentOverhead] at room ⊢
      omega
    rw [alone short, List.mem_singleton] at member
    subst member
    apply (delivered_iff inside allocated later).mpr
    rw [length, min_eq_left short, isFirst.total short, size]
    exact room

/-- A frame of 400 bytes from a fresh sender. -/
theorem segments_delivered_short :
    ∃ after calls, (Sender.create ⟨4321, 0x0a000402⟩).start.sendVideo 96 1
        (List.replicate 400 7) 5 = some (after, calls) ∧
      ∀ seg ∈ createdSegments calls, ∀ pacing : Sender, 0 < pacing.stream.size →
        ∀ later, Delivered pacing later seg := by
  have length : (List.replicate 400 (7 : UInt8)).length = 400 := List.length_replicate
  have filled : List.replicate 400 (7 : UInt8) ≠ [] := List.cons_ne_nil _ _
  have admitted : (List.replicate 400 (7 : UInt8)).length / simVideoSize <
      Sender.maxSplitNumber := by
    rw [length]
    decide
  have ⟨after, calls, sent, delivered⟩ := segments_delivered_iff
    (show (Sender.create ⟨4321, 0x0a000402⟩).start.running = true from rfl) filled admitted 96 1 5
  refine ⟨after, calls, sent, delivered.mpr ?_⟩
  rw [length, size_binStreamInit]
  decide

/-- The first chunk of a frame of 1000 bytes makes a datagram of 1028 bytes. -/
theorem segment_cut_by_buffer :
    ∃ after calls, (Sender.create ⟨4321, 0x0a000402⟩).start.sendVideo 96 1
        (List.replicate 1000 7) 5 = some (after, calls) ∧
      ∃ seg ∈ createdSegments calls, ∀ pacing : Sender, 0 < pacing.stream.size →
        ∀ later, ¬Delivered pacing later seg := by
  have length : (List.replicate 1000 (7 : UInt8)).length = 1000 := List.length_replicate
  have filled : List.replicate 1000 (7 : UInt8) ≠ [] := List.cons_ne_nil _ _
  have admitted : (List.replicate 1000 (7 : UInt8)).length / simVideoSize <
      Sender.maxSplitNumber := by
    rw [length]
    decide
  have ⟨after, calls, first, rest, sent, created, isFirst, _⟩ := Sender.sendVideo_frame
    (show (Sender.create ⟨4321, 0x0a000402⟩).start.running = true from rfl) filled admitted 96 1 5
  refine ⟨after, calls, sent, first, created ▸ List.mem_cons_self, ?_⟩
  intro pacing allocated later delivered
  have inside : first.index ≤ first.total := isFirst.index ▸ UInt16.zero_le
  have fits := (delivered_iff inside allocated later).mp delivered
  rw [datagramLength, isFirst.length, length, size_binStreamInit] at fits
  simp only [simVideoSize, segmentOverhead, defaultPacketSize] at fits
  omega

end StupidSimple.Mininet
