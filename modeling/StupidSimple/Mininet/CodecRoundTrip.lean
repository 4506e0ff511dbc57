import StupidSimple.Mininet.Endpoint

/-!
Owns the round trip of the message codec. Each body has one lemma: its decoder undoes
its encoder. `codec_round_trip` adds the header and the checksum, for a stream that
grows while the message is written.
-/

namespace StupidSimple.Mininet

open StupidSimple.Library

/-! ### Bodies -/

section Bodies

theorem codes_machUint8 (val : UInt8) :
    Codes BinStream.view (machUint8Write val) machUint8Read (BigEndian.encode 1 val.toNat) val :=
  ⟨emits_machUint8Write val, takes_machUint8Read val⟩

theorem codes_machInt8 (val : Int8) :
    Codes BinStream.view (machInt8Write val) machInt8Read (BigEndian.encode 1 val.toUInt8.toNat)
      val :=
  ⟨emits_machInt8Write val, takes_machInt8Read val⟩

theorem codes_machUint16 (val : UInt16) :
    Codes BinStream.view (machUint16Write val) machUint16Read (BigEndian.encode 2 val.toNat) val :=
  ⟨emits_machUint16Write val, takes_machUint16Read val⟩

theorem codes_machUint32 (val : UInt32) :
    Codes BinStream.view (machUint32Write val) machUint32Read (BigEndian.encode 4 val.toNat) val :=
  ⟨emits_machUint32Write val, takes_machUint32Read val⟩

theorem codes_machInt64 (val : Int64) :
    Codes BinStream.view (machInt64Write val) machInt64Read
      (BigEndian.encode 8 val.toUInt64.toNat) val :=
  ⟨emits_machInt64Write val, takes_machInt64Read val⟩

theorem codes_machData {size : Nat} (small : size < 2 ^ 16) (str : Buffer size) :
    Codes BinStream.view (machDataWrite str.1) (machDataRead size) (dataLayout str.1) (some str) :=
  ⟨emits_machDataWrite (str.2.trans_lt small), takes_machDataRead small str⟩

theorem codes_simConnect (body : SimConnect) :
    ∃ bytes, Codes BinStream.view (simConnectEncode body) simConnectDecode bytes body := by
  have token : simTokenSize < 2 ^ 16 := by decide
  have type := (codes_machInt8 body.ccType.toInt8).last fun ccType =>
    SimConnect.mk body.cid body.token ccType.toUInt8
  rw [UInt8.toUInt8_toInt8] at type
  exact ⟨_, (codes_machUint32 body.cid).bind ((codes_machData token body.token).bind type)⟩

theorem codes_simConnectAck (body : SimConnectAck) :
    ∃ bytes, Codes BinStream.view (simConnectAckEncode body) simConnectAckDecode bytes body :=
  ⟨_, (codes_machUint32 body.cid).bind
    ((codes_machUint32 body.result).last fun result => SimConnectAck.mk body.cid result)⟩

theorem codes_simDisconnect (body : SimDisconnect) :
    ∃ bytes, Codes BinStream.view (simDisconnectEncode body) simDisconnectDecode bytes body :=
  ⟨_, (codes_machUint32 body.cid).last SimDisconnect.mk⟩

theorem codes_simPing (body : SimPing) :
    ∃ bytes, Codes BinStream.view (simPingEncode body) simPingDecode bytes body :=
  ⟨_, (codes_machInt64 body.ts).last SimPing.mk⟩

theorem codes_simFeedbak (body : SimFeedback) :
    ∃ bytes, Codes BinStream.view (simFeedbakEncode body) simFeedbakDecode bytes body := by
  have feedback : simFeedbackSize < 2 ^ 16 := by decide
  exact ⟨_, (codes_machUint32 body.basePacketId).bind ((codes_machData feedback body.feedback).last
    fun feedback => SimFeedback.mk body.basePacketId (received feedback))⟩

theorem codes_simFir (body : SimFir) :
    ∃ bytes, Codes BinStream.view (simFirEncode body) simFirDecode bytes body :=
  ⟨_, (codes_machUint32 body.firSeq).last SimFir.mk⟩

/-- The bytes of a padding. -/
def padLayout (body : SimPad) : List UInt8 :=
  BigEndian.encode 4 body.sendTs.toNat ++ (BigEndian.encode 2 body.transportSeq.toNat ++
    dataLayout body.data.1)

theorem codes_simPad (body : SimPad) :
    Codes BinStream.view (simPadEncode body) simPadDecode (padLayout body) body := by
  have data : paddingDataSize < 2 ^ 16 := by decide
  exact (codes_machUint32 body.sendTs).bind ((codes_machUint16 body.transportSeq).bind
    ((codes_machData data body.data).last
      fun data => SimPad.mk body.sendTs body.transportSeq (received data)))

theorem codes_nack {count : Nat} (nack : List UInt16) (length : nack.length = count) :
    ∃ bytes, Codes BinStream.view (nack.forM machUint16Write) (nackRead count) bytes
      ⟨nack, length⟩ := by
  subst length
  induction nack with
  | nil => exact ⟨[], Emits.pure, Takes.pure _⟩
  | cons first tail inductionHypothesis =>
      have ⟨bytes, others⟩ := inductionHypothesis
      let extend (rest : { nack : List UInt16 // nack.length = tail.length }) :
          { nack : List UInt16 // nack.length = tail.length + 1 } :=
        ⟨first :: rest.1, congrArg (· + 1) rest.2⟩
      exact ⟨_, (codes_machUint16 first).bind (others.last extend)⟩

theorem codes_simSegmentAck (body : SimSegmentAck) :
    ∃ bytes, Codes BinStream.view (simSegmentAckEncode body) simSegmentAckDecode bytes body := by
  have short : body.nack.1.length < 2 ^ 8 := body.nack.2.trans_lt (by decide)
  have count : body.nack.1.length = min (UInt8.ofNat body.nack.1.length).toNat nackNum := by
    rw [UInt8.toNat_ofNat_of_lt' short]
    exact (min_eq_left body.nack.2).symm
  have ⟨bytes, nack⟩ := codes_nack body.nack.1 count
  have behind := nack.last fun nack => SimSegmentAck.mk body.basePacketId body.ackedPacketId
    ⟨nack.1, nack.2.trans_le (Nat.min_le_right _ _)⟩
  exact ⟨_, (codes_machUint32 body.basePacketId).bind ((codes_machUint32 body.ackedPacketId).bind
    ((codes_machUint8 (UInt8.ofNat body.nack.1.length)).bind behind))⟩

/-! ### Segments -/

/-- Four flags beside a bit can be told apart. -/
theorem mask_flags : ∀ bit ∈ [(0 : UInt8), 1], ∀ wideId wideFid wideTotal noRemb : Bool,
    let mask := bit ||| (if wideId then 0x80 else 0) ||| (if wideFid then 0x40 else 0) |||
      (if wideTotal then 0x20 else 0) ||| (if noRemb then 0x10 else 0)
    (mask &&& 0x80 != 0) = wideId ∧ (mask &&& 0x40 != 0) = wideFid ∧
      (mask &&& 0x20 != 0) = wideTotal ∧ (mask &&& 0x10 != 0) = noRemb ∧ mask &&& 0x01 = bit := by
  decide +kernel

/-- The four flags of the first byte, and the frame type in its last bit. -/
theorem segmentMask_spec (body : SimSegment) :
    (segmentMask body &&& 0x80 != 0) = decide (u16Max < body.packetId.toNat) ∧
      (segmentMask body &&& 0x40 != 0) = decide (u16Max < body.fid.toNat) ∧
      (segmentMask body &&& 0x20 != 0) = decide (u8Max < body.total.toNat) ∧
      (segmentMask body &&& 0x10 != 0) = decide (body.remb = 0) ∧
      segmentMask body &&& 0x01 = body.ftype &&& 0x01 := by
  have parity : (body.ftype &&& 0x01).toNat = body.ftype.toNat % 2 := by
    rw [UInt8.toNat_and]
    exact Nat.and_one_is_mod _
  have bit : body.ftype &&& 0x01 ∈ [(0 : UInt8), 1] := by
    rw [List.mem_pair]
    exact (Nat.mod_two_eq_zero_or_one body.ftype.toNat).imp
      (fun even => UInt8.toNat_inj.mp (parity.trans even))
      (fun odd => UInt8.toNat_inj.mp (parity.trans odd))
  have flags := mask_flags _ bit (decide (u16Max < body.packetId.toNat))
    (decide (u16Max < body.fid.toNat)) (decide (u8Max < body.total.toNat)) (decide (body.remb = 0))
  simp only [decide_eq_true_eq] at flags
  exact flags

/-- The bytes of an id. -/
def idLayout (id : UInt32) : List UInt8 :=
  if u16Max < id.toNat then BigEndian.encode 4 id.toNat else BigEndian.encode 2 id.toNat

theorem codes_id (id : UInt32) :
    Codes BinStream.view (idWrite id) (idRead (decide (u16Max < id.toNat))) (idLayout id) id := by
  unfold idWrite idRead idLayout
  by_cases wide : u16Max < id.toNat
  · simp only [if_pos wide, decide_eq_true wide]
    exact codes_machUint32 id
  · have narrow : id.toNat < 2 ^ 16 := by
      simp only [u16Max] at wide
      omega
    have same : id.toUInt16.toNat = id.toNat := Nat.mod_eq_of_lt narrow
    have back : id.toUInt16.toUInt32 = id := UInt32.toNat_inj.mp same
    simp only [if_neg wide, decide_eq_false wide]
    have both := (codes_machUint16 id.toUInt16).map UInt16.toUInt32
    rwa [same, back] at both

/-- The bytes of index and total. -/
def partLayout (index total : UInt16) : List UInt8 :=
  if u8Max < total.toNat then BigEndian.encode 2 index.toNat ++ BigEndian.encode 2 total.toNat
  else BigEndian.encode 1 index.toNat ++ BigEndian.encode 1 total.toNat

/-- What is read back: beside a narrow total the index has one byte. -/
def partSeen (index total : UInt16) : UInt16 × UInt16 :=
  (if u8Max < total.toNat then index else index.toUInt8.toUInt16, total)

theorem codes_part (index total : UInt16) :
    Codes BinStream.view (partWrite index total) (partRead (decide (u8Max < total.toNat)))
      (partLayout index total) (partSeen index total) := by
  unfold partWrite partRead partLayout partSeen
  by_cases wide : u8Max < total.toNat
  · simp only [if_pos wide, decide_eq_true wide]
    exact (codes_machUint16 index).bind ((codes_machUint16 total).last fun total => (index, total))
  · have narrow : total.toNat < 2 ^ 8 := by
      simp only [u8Max] at wide
      omega
    have sameTotal : total.toUInt8.toNat = total.toNat := Nat.mod_eq_of_lt narrow
    have backTotal : total.toUInt8.toUInt16 = total := UInt16.toNat_inj.mp sameTotal
    have sameIndex : BigEndian.encode 1 index.toUInt8.toNat = BigEndian.encode 1 index.toNat := by
      rw [BigEndian.encode_one, BigEndian.encode_one, UInt8.ofNat_toNat]
      rfl
    have both : Codes BinStream.view
        (machUint8Write index.toUInt8 >>= fun _ => machUint8Write total.toUInt8)
        (machUint8Read >>= fun index => machUint8Read >>= fun total =>
          pure (index.toUInt16, total.toUInt16)) _ _ :=
      (codes_machUint8 index.toUInt8).bind
        ((codes_machUint8 total.toUInt8).last fun last => (index.toUInt8.toUInt16, last.toUInt16))
    rw [sameIndex, sameTotal, backTotal] at both
    simp only [if_neg wide, decide_eq_false wide]
    exact both

theorem partSeen_of_le {index total : UInt16} (inside : index ≤ total) :
    partSeen index total = (index, total) := by
  unfold partSeen
  split
  · rfl
  · next narrow =>
      have inside : index.toNat ≤ total.toNat := inside
      have small : index.toNat < 2 ^ 8 := by
        simp only [u8Max] at narrow
        omega
      have same : index.toUInt8.toNat = index.toNat := Nat.mod_eq_of_lt small
      have back : index.toUInt8.toUInt16 = index := UInt16.toNat_inj.mp same
      rw [back]

/-- What a segment looks like after the wire: `remb` is a flag. -/
def SimSegment.flagged (body : SimSegment) : SimSegment :=
  { body with remb := if body.remb = 0 then 0 else 0xff }

/-- The same for any frame type, of which one bit is sent. -/
def SimSegment.onWire (body : SimSegment) : SimSegment :=
  { body.flagged with ftype := body.ftype &&& 0x01 }

theorem SimSegment.onWire_eq_flagged {body : SimSegment} (type : body.ftype = 0 ∨ body.ftype = 1) :
    body.onWire = body.flagged := by
  have kept : body.ftype &&& 0x01 = body.ftype := by
    cases type with
    | inl key => rw [key]; decide
    | inr delta => rw [delta]; decide
  rw [onWire, kept]
  rfl

/-- The bytes of a segment. -/
def segmentLayout (body : SimSegment) : List UInt8 :=
  BigEndian.encode 1 (segmentMask body).toNat ++ (BigEndian.encode 1 body.payloadType.toNat ++
    (idLayout body.packetId ++ (idLayout body.fid ++ (BigEndian.encode 4 body.timestamp.toNat ++
      (partLayout body.index body.total ++ (BigEndian.encode 2 body.sendTs.toNat ++
        (BigEndian.encode 2 body.transportSeq.toNat ++ dataLayout body.data.1)))))))

theorem codes_anySegment (body : SimSegment) :
    Codes BinStream.view (simSegmentEncode body) simSegmentDecode (segmentLayout body)
      { body.onWire with index := (partSeen body.index body.total).1 } := by
  have ⟨wideId, wideFid, wideTotal, noRemb, sameType⟩ := segmentMask_spec body
  have data : simVideoSize < 2 ^ 16 := by decide
  apply (codes_machUint8 (segmentMask body)).bind
  apply (codes_machUint8 body.payloadType).bind
  rw [wideId, wideFid, wideTotal]
  apply (codes_id body.packetId).bind
  apply (codes_id body.fid).bind
  apply (codes_machUint32 body.timestamp).bind
  apply (codes_part body.index body.total).bind
  apply (codes_machUint16 body.sendTs).bind
  apply (codes_machUint16 body.transportSeq).bind
  rw [noRemb, sameType]
  have last := (codes_machData data body.data).last fun data =>
    { body with
      index := (partSeen body.index body.total).1
      ftype := body.ftype &&& 0x01
      remb := if decide (body.remb = 0) then 0 else 0xff
      data := received data }
  simp only [decide_eq_true_eq] at last ⊢
  exact last

theorem codes_simSegment {body : SimSegment} (inside : body.index ≤ body.total) :
    Codes BinStream.view (simSegmentEncode body) simSegmentDecode (segmentLayout body)
      body.onWire := by
  have codes := codes_anySegment body
  rw [partSeen_of_le inside] at codes
  exact codes

end Bodies

/-! ### Messages -/

namespace SimBody

/-- The body is the one of this message id. -/
def Fits (mid : UInt8) : SimBody → Prop
  | .connect _ => mid = simConnect
  | .connectAck _ => mid = simConnectAck ∨ mid = simDisconnectAck
  | .disconnect _ => mid = simDisconnect
  | .ping _ => mid = simPing ∨ mid = simPong
  | .segment _ => mid = simSeg
  | .segmentAck _ => mid = simSegAck
  | .feedback _ => mid = simFeedback
  | .fir _ => mid = simFir
  | .pad _ => mid = simPad

instance (mid : UInt8) (body : SimBody) : Decidable (body.Fits mid) := by
  cases body <;> unfold Fits <;> infer_instance

/-- What the code expects of a segment: a frame type of one bit, an index in the frame. -/
def Proper : SimBody → Prop
  | .segment body => (body.ftype = 0 ∨ body.ftype = 1) ∧ body.index ≤ body.total
  | _ => True

/-- What a body looks like after the wire. -/
def reproduced : SimBody → SimBody
  | .segment body => .segment body.flagged
  | body => body

end SimBody

section Messages

variable {header : SimHeader} {body : SimBody}

theorem codes_simBody (header : SimHeader) (fits : body.Fits header.mid) (proper : body.Proper) :
    ∃ bytes, Codes BinStream.view (simEncodeBody header.mid body) (simDecodeMsg header) bytes
      (some body.reproduced) := by
  unfold simDecodeMsg
  cases body with
  | connect body =>
      rw [show header.mid = simConnect from fits]
      exact (codes_simConnect body).imp fun _ codes => codes.map (some ∘ SimBody.connect)
  | connectAck body =>
      cases fits with
      | inl connected =>
          rw [connected]
          exact (codes_simConnectAck body).imp fun _ codes => codes.map (some ∘ SimBody.connectAck)
      | inr disconnected =>
          rw [disconnected]
          exact (codes_simConnectAck body).imp fun _ codes => codes.map (some ∘ SimBody.connectAck)
  | disconnect body =>
      rw [show header.mid = simDisconnect from fits]
      exact (codes_simDisconnect body).imp fun _ codes => codes.map (some ∘ SimBody.disconnect)
  | ping body =>
      cases fits with
      | inl ping =>
          rw [ping]
          exact (codes_simPing body).imp fun _ codes => codes.map (some ∘ SimBody.ping)
      | inr pong =>
          rw [pong]
          exact (codes_simPing body).imp fun _ codes => codes.map (some ∘ SimBody.ping)
  | segment body =>
      rw [show header.mid = simSeg from fits]
      have codes := (codes_simSegment proper.2).map (some ∘ SimBody.segment)
      rw [SimSegment.onWire_eq_flagged proper.1] at codes
      exact ⟨_, codes⟩
  | segmentAck body =>
      rw [show header.mid = simSegAck from fits]
      exact (codes_simSegmentAck body).imp fun _ codes => codes.map (some ∘ SimBody.segmentAck)
  | feedback body =>
      rw [show header.mid = simFeedback from fits]
      exact (codes_simFeedbak body).imp fun _ codes => codes.map (some ∘ SimBody.feedback)
  | fir body =>
      rw [show header.mid = simFir from fits]
      exact (codes_simFir body).imp fun _ codes => codes.map (some ∘ SimBody.fir)
  | pad body =>
      rw [show header.mid = simPad from fits]
      exact ⟨_, (codes_simPad body).map (some ∘ SimBody.pad)⟩

/-- The bytes of a header. -/
def headerLayout (header : SimHeader) : List UInt8 :=
  BigEndian.encode 1 header.ver.toNat ++ (BigEndian.encode 1 header.mid.toNat ++
    BigEndian.encode 4 header.uid.toNat)

/-- The reader of a header behind the check of `sim_decode_header`. -/
def headerRead : StreamM (Option SimHeader) := do
  let ver ← machUint8Read
  let mid ← machUint8Read
  let uid ← machUint32Read
  return some ⟨ver, mid, uid⟩

theorem codes_header (header : SimHeader) :
    Codes BinStream.view (simEncodeHeader header) headerRead (headerLayout header)
      (some header) :=
  (codes_machUint8 header.ver).bind ((codes_machUint8 header.mid).bind
    ((codes_machUint32 header.uid).last fun uid => some (SimHeader.mk header.ver header.mid uid)))

/-- The bytes of a message: its checksum covers all that stands before it. -/
def sealed (bytes : List UInt8) : List UInt8 :=
  bytes ++ BigEndian.encode 4 (crc32 crcVal bytes).toNat

theorem writable_rewind {strm : BinStream} (allocated : 0 < strm.size) :
    (binStreamRewind true strm).Writable :=
  ⟨rfl, rfl, rfl, Nat.zero_le _, allocated⟩

/-- The checksum is written last. -/
theorem simEncodeMsg_run (header : SimHeader) (body : SimBody) (strm : BinStream) :
    (simEncodeMsg header body).run strm =
      ((simEncodeHeader header >>= fun _ => simEncodeBody header.mid body).run
        (binStreamRewind true strm)).bind fun written =>
          (machUint32Write (crc32 crcVal written.2.contents)).run written.2 := by
  rw [StateT.run_bind]
  exact (Option.bind_assoc _ _ _).symm

theorem simEncodeMsg_spec {bytes : List UInt8}
    (emits : Emits BinStream.view (simEncodeBody header.mid body) bytes) {strm : BinStream}
    (allocated : 0 < strm.size) :
    ∃ sent, (simEncodeMsg header body).run strm = some ((), sent) ∧ sent.Writable ∧
      sent.contents = sealed (headerLayout header ++ bytes) := by
  have ⟨after, ran, writable, contents⟩ :=
    ((codes_header header).emits.bind emits) _ (writable_rewind allocated)
  have ⟨sent, last, sentWritable, sentContents⟩ :=
    emits_machUint32Write (crc32 crcVal after.contents) after writable
  have whole : after.contents = headerLayout header ++ bytes := contents
  refine ⟨sent, ?_, sentWritable, ?_⟩
  · rw [simEncodeMsg_run, ran]
    exact last
  · have written : sent.contents = after.contents ++ _ := sentContents
    rw [written, whole]
    rfl

/-- What an encoder does with a body that may not be the one of the message id. -/
def EmitsOrFails (writer : StreamM Unit) : Prop :=
  (∃ bytes, Emits BinStream.view writer bytes) ∨ writer = failure

theorem EmitsOrFails.ite {condition : Prop} [Decidable condition] {left right : StreamM Unit}
    (chosen : EmitsOrFails left) (otherwise : EmitsOrFails right) :
    EmitsOrFails (if condition then left else right) := by
  split
  · exact chosen
  · exact otherwise

theorem EmitsOrFails.of_codes {α : Type} {writer : StreamM Unit} {reader : StreamM α}
    {bytes : List UInt8} {value : α} (codes : Codes BinStream.view writer reader bytes value) :
    EmitsOrFails writer :=
  Or.inl ⟨bytes, codes.emits⟩

theorem simEncodeBody_emits_or_fails (mid : UInt8) (body : SimBody) :
    EmitsOrFails (simEncodeBody mid body) := by
  unfold simEncodeBody
  apply EmitsOrFails.ite
  · cases body with
    | connect body => exact (codes_simConnect body).elim fun _ codes => .of_codes codes
    | _ => exact Or.inr rfl
  apply EmitsOrFails.ite
  · cases body with
    | connectAck body => exact (codes_simConnectAck body).elim fun _ codes => .of_codes codes
    | _ => exact Or.inr rfl
  apply EmitsOrFails.ite
  · cases body with
    | disconnect body => exact (codes_simDisconnect body).elim fun _ codes => .of_codes codes
    | _ => exact Or.inr rfl
  apply EmitsOrFails.ite
  · cases body with
    | ping body => exact (codes_simPing body).elim fun _ codes => .of_codes codes
    | _ => exact Or.inr rfl
  apply EmitsOrFails.ite
  · cases body with
    | segment body => exact .of_codes (codes_anySegment body)
    | _ => exact Or.inr rfl
  apply EmitsOrFails.ite
  · cases body with
    | segmentAck body => exact (codes_simSegmentAck body).elim fun _ codes => .of_codes codes
    | _ => exact Or.inr rfl
  apply EmitsOrFails.ite
  · cases body with
    | feedback body => exact (codes_simFeedbak body).elim fun _ codes => .of_codes codes
    | _ => exact Or.inr rfl
  apply EmitsOrFails.ite
  · cases body with
    | fir body => exact (codes_simFir body).elim fun _ codes => .of_codes codes
    | _ => exact Or.inr rfl
  apply EmitsOrFails.ite
  · cases body with
    | pad body => exact .of_codes (codes_simPad body)
    | _ => exact Or.inr rfl
  exact Or.inl ⟨[], Emits.pure⟩

/-- Nothing is written to a stream without memory. -/
theorem allocated_of_simEncodeMsg {strm sent : BinStream}
    (ran : (simEncodeMsg header body).run strm = some ((), sent)) : 0 < strm.size := by
  by_contra unallocated
  have empty : (binStreamRewind true strm).size = 0 := Nat.eq_zero_of_not_pos unallocated
  have fails : (simEncodeHeader header).run (binStreamRewind true strm) = none := by
    rw [simEncodeHeader, StateT.run_bind, machUint8Write, machWrite_empty empty Nat.one_pos]
    rfl
  rw [simEncodeMsg_run, StateT.run_bind, fails] at ran
  contradiction

/-- Whatever `sim_encode_msg` makes is a header, a body and their checksum. -/
theorem simEncodeMsg_sealed {strm sent : BinStream}
    (ran : (simEncodeMsg header body).run strm = some ((), sent)) :
    ∃ bytes, sent.contents = sealed (headerLayout header ++ bytes) := by
  rcases simEncodeBody_emits_or_fails header.mid body with ⟨bytes, emits⟩ | fails
  · have ⟨other, ranToo, _, contents⟩ := simEncodeMsg_spec emits (allocated_of_simEncodeMsg ran)
    rw [ran] at ranToo
    cases ranToo
    exact ⟨bytes, contents⟩
  · rw [simEncodeMsg_run, StateT.run_bind, fails] at ran
    have ⟨_, written, _⟩ := Option.bind_eq_some_iff.mp ran
    have ⟨_, _, failed⟩ := Option.bind_eq_some_iff.mp written
    contradiction

theorem encodeTo_spec (header : SimHeader) {bytes : List UInt8}
    (emits : Emits BinStream.view (simEncodeBody header.mid body) bytes) {strm : BinStream}
    (allocated : 0 < strm.size) (peer : SuAddr) :
    ∃ sent, encodeTo peer header body strm =
        some (⟨peer, header, body, sealed (headerLayout header ++ bytes)⟩, sent) ∧
      0 < sent.size := by
  have ⟨sent, ran, writable, contents⟩ := simEncodeMsg_spec emits allocated
  refine ⟨sent, ?_, writable.allocated⟩
  rw [encodeTo, ran, ← contents]
  rfl

theorem trailer_sealed {arrived : BinStream} (readable : arrived.Readable) {bytes : List UInt8}
    (contents : arrived.contents = sealed bytes) :
    trailer arrived = some (crc32 crcVal bytes, bytes) := by
  have length := BinStream.length_contents readable.used
  rw [contents, sealed, List.length_append, BigEndian.length_encode] at length
  have start : arrived.used - 4 = bytes.length := by omega
  have enough : ¬arrived.used < 4 := by omega
  have value : UInt32.ofNat (BigEndian.decode (BigEndian.encode 4 (crc32 crcVal bytes).toNat)) =
      crc32 crcVal bytes := by
    rw [BigEndian.decode_encode_of_lt (crc32 crcVal bytes).toNat_lt, UInt32.ofNat_toNat]
  rw [trailer, if_neg enough, start, contents, sealed, List.drop_left, List.take_left, value]

/-- The header is read only behind a checksum that matches. -/
theorem simDecodeHeader_run {arrived : BinStream} {src : UInt32} {covered : List UInt8}
    (found : trailer arrived = some (src, covered)) :
    simDecodeHeader.run arrived =
      (if src = crc32 crcVal covered then headerRead else pure none).run arrived := by
  simp only [simDecodeHeader, StateT.run_bind, StateT.run_get, pure_bind, found]
  rfl

theorem simDecodeHeader_spec {arrived : BinStream} (readable : arrived.Readable)
    (start : arrived.rsize = 0) {bytes : List UInt8}
    (contents : arrived.contents = sealed (headerLayout header ++ bytes)) :
    ∃ headed, simDecodeHeader.run arrived = some (some header, headed) ∧ headed.Readable ∧
      headed.unread = bytes ++
        BigEndian.encode 4 (crc32 crcVal (headerLayout header ++ bytes)).toNat := by
  have unread : arrived.unread = headerLayout header ++ (bytes ++
      BigEndian.encode 4 (crc32 crcVal (headerLayout header ++ bytes)).toNat) := by
    rw [BinStream.unread, start, contents, sealed, List.append_assoc, List.drop_zero]
  obtain ⟨headed, ran, headedReadable, headedUnread⟩ :=
    (codes_header header).takes arrived _ readable unread
  have checked : simDecodeHeader.run arrived = headerRead.run arrived := by
    rw [simDecodeHeader_run (trailer_sealed readable contents), if_pos rfl]
  exact ⟨headed, checked.trans ran, headedReadable, headedUnread⟩

theorem total_headerRead : Total BinStream.view headerRead :=
  ((total_machRead 1).map UInt8.ofNat).bind fun _ =>
    ((total_machRead 1).map UInt8.ofNat).bind fun _ =>
      ((total_machRead 4).map UInt32.ofNat).bind fun _ => Total.pure _

/-- `sim_decode_header` needs a datagram with room for its checksum, and no more. -/
theorem simDecodeHeader_defined {arrived : BinStream} (readable : arrived.Readable) :
    (∃ result headed, simDecodeHeader.run arrived = some (result, headed)) ↔ 4 ≤ arrived.used := by
  constructor
  · rintro ⟨result, headed, decoded⟩
    by_contra short
    have missing : trailer arrived = none := if_pos (Nat.lt_of_not_le short)
    simp only [simDecodeHeader, StateT.run_bind, StateT.run_get, pure_bind, missing] at decoded
    contradiction
  · intro enough
    have found : trailer arrived =
        some (UInt32.ofNat (BigEndian.decode (arrived.contents.drop (arrived.used - 4))),
          arrived.contents.take (arrived.used - 4)) := if_neg (Nat.not_lt_of_le enough)
    rw [simDecodeHeader_run found]
    split
    · have ⟨result, headed, ran, _⟩ := total_headerRead arrived readable
      exact ⟨result, headed, ran⟩
    · exact ⟨none, arrived, rfl⟩

/-- A message that was written decodes to its header and its body, in any stream with
the same bytes. Its checksum stays unread. -/
theorem codec_round_trip {strm : BinStream} (allocated : 0 < strm.size)
    (fits : body.Fits header.mid) (proper : body.Proper) :
    ∃ sent, (simEncodeMsg header body).run strm = some ((), sent) ∧
      sent.Readable ∧ sent.rsize = 0 ∧
      ∀ arrived : BinStream, arrived.Readable → arrived.rsize = 0 →
        arrived.contents = sent.contents →
        ∃ headed decoded, simDecodeHeader.run arrived = some (some header, headed) ∧
          (simDecodeMsg header).run headed = some (some body.reproduced, decoded) ∧
          binStreamAvailableRead decoded = 4 := by
  have ⟨bytes, codes⟩ := codes_simBody header fits proper
  have ⟨sent, ran, writable, sentContents⟩ := simEncodeMsg_spec codes.emits allocated
  refine ⟨sent, ran, writable.readable, writable.rsize, ?_⟩
  intro arrived readable start same
  have ⟨headed, decodedHeader, headedReadable, unread⟩ :=
    simDecodeHeader_spec readable start (same.trans sentContents)
  have ⟨decoded, decodedBody, decodedReadable, left⟩ := codes.takes headed _ headedReadable unread
  refine ⟨headed, decoded, decodedHeader, decodedBody, ?_⟩
  rw [← BinStream.length_unread decodedReadable]
  have trailing : decoded.unread = _ := left
  rw [trailing, BigEndian.length_encode]

/-- The first segment of a long key frame, into a stream as `bin_stream_init` leaves it. -/
theorem codec_round_trip_segment :
    let segment : SimSegment := ⟨70000, 3, 40, 0, 300, 1, 96, 5, 12, 65535, ⟨[1, 2, 3], by decide⟩⟩
    ∃ sent headed decoded,
      (simEncodeMsg (initSimHeader simSeg 7) (.segment segment)).run binStreamInit =
        some ((), sent) ∧
      simDecodeHeader.run sent = some (some (initSimHeader simSeg 7), headed) ∧
      (simDecodeMsg (initSimHeader simSeg 7)).run headed =
        some (some (.segment { segment with remb := 0xff }), decoded) ∧
      binStreamAvailableRead decoded = 4 := by
  intro segment
  have fits : (SimBody.segment segment).Fits (initSimHeader simSeg 7).mid := rfl
  have proper : (SimBody.segment segment).Proper := ⟨Or.inr rfl, by decide⟩
  have allocated : 0 < binStreamInit.size := size_binStreamInit ▸ by decide
  have ⟨sent, ran, readable, start, decodes⟩ := codec_round_trip allocated fits proper
  have ⟨headed, decoded, decodedHeader, decodedBody, left⟩ := decodes sent readable start rfl
  exact ⟨sent, headed, decoded, ran, decodedHeader, decodedBody, left⟩

end Messages

end StupidSimple.Mininet
