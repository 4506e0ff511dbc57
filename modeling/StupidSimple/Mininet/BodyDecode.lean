import StupidSimple.Mininet.HeaderBounds
import StupidSimple.Mininet.Delivery

/-!
Owns what `sim_decode_msg` makes of bodies that are cut or whose array is too long. Its
readers give zero where the stream ends, `READ_DATA_ERROR` becomes an empty array, and
the stream goes on behind the body with the checksum.

`body_checked_iff` says that a body is checked exactly when there is nothing to check:
when all its fields are there.
-/

namespace StupidSimple.Mininet

open StupidSimple.Library

/-! ### Complete bodies -/

/-- The bytes between the header and the checksum. -/
def messageBody (strm : BinStream) : List UInt8 :=
  (strm.contents.take (strm.used - 4)).drop simHeaderSize

/-- The length that stands before an array. -/
def arrayLength (offset : Nat) (body : List UInt8) : Nat :=
  BigEndian.decode ((body.drop offset).take 2)

/-- The array behind the first `offset` bytes is there with its length, and no longer
than its bound. -/
def ArrayComplete (bound offset : Nat) (body : List UInt8) : Prop :=
  offset + 2 ≤ body.length ∧ arrayLength offset body ≤ bound ∧
    offset + 2 + arrayLength offset body ≤ body.length

/-- The bytes of a segment before its data; three bits of the mask each widen a field. -/
def segmentFields (mask : UInt8) : Nat :=
  16 + (if mask &&& 0x80 != 0 then 2 else 0) + (if mask &&& 0x40 != 0 then 2 else 0) +
    if mask &&& 0x20 != 0 then 2 else 0

/-- The message ids that `Sender::ProcessingMsg` or `Receiver::ProcessingMsg` handles. -/
def Handled (mid : UInt8) : Prop := mid ∈ [simPing, simPong, simSeg, simFeedback, simPad]

/-- The body holds every field of a handled message in full. -/
def Complete (mid : UInt8) (body : List UInt8) : Prop :=
  if mid = simPing ∨ mid = simPong then 8 ≤ body.length
  else if mid = simSeg then ArrayComplete simVideoSize (segmentFields (body.headD 0)) body
  else if mid = simFeedback then ArrayComplete simFeedbackSize 4 body
  else ArrayComplete paddingDataSize 6 body

theorem Complete.ne_nil {mid : UInt8} {body : List UInt8} (complete : Complete mid body) :
    body ≠ [] := by
  rintro rfl
  unfold Complete ArrayComplete at complete
  split_ifs at complete
  all_goals simp only [List.length_nil] at complete; omega

instance (bound offset : Nat) (body : List UInt8) : Decidable (ArrayComplete bound offset body) :=
  inferInstanceAs (Decidable (_ ∧ _ ∧ _))

instance (mid : UInt8) (body : List UInt8) : Decidable (Complete mid body) := by
  unfold Complete
  infer_instance

/-! ### Readers that never fail -/

theorem total_machDataRead (size : Nat) : Total BinStream.view (machDataRead size) := by
  apply ((total_machRead 2).map UInt16.ofNat).bind
  intro len strm readable
  show ∃ value after, (dite _ _ _ : StreamM (Option (Buffer size))).run strm =
    some (value, after) ∧ after.Readable
  by_cases cut : size < len.toNat ∨ strm.used < strm.rsize + len.toNat
  · rw [dif_pos cut]
    exact ⟨none, strm, rfl, readable⟩
  · rw [dif_neg cut]
    have length : (strm.unread.take len.toNat).length = len.toNat := by
      rw [List.length_take, BinStream.length_unread readable, binStreamAvailableRead]
      omega
    obtain ⟨after, loaded, afterReadable, _⟩ :=
      load_spec readable (List.take_append_drop len.toNat strm.unread).symm length
    rw [StateT.run_bind, loaded]
    exact ⟨_, after, rfl, afterReadable⟩

theorem total_idRead (wide : Bool) : Total BinStream.view (idRead wide) := by
  cases wide with
  | true => exact (total_machRead 4).map UInt32.ofNat
  | false => exact ((total_machRead 2).map UInt16.ofNat).map UInt16.toUInt32

theorem total_partRead (wide : Bool) : Total BinStream.view (partRead wide) := by
  cases wide with
  | true =>
      exact ((total_machRead 2).map UInt16.ofNat).bind fun _ =>
        ((total_machRead 2).map UInt16.ofNat).bind fun _ => Total.pure _
  | false =>
      exact ((total_machRead 1).map UInt8.ofNat).bind fun _ =>
        ((total_machRead 1).map UInt8.ofNat).bind fun _ => Total.pure _

theorem total_simPingDecode : Total BinStream.view simPingDecode :=
  ((total_machRead 8).map (UInt64.toInt64 ∘ UInt64.ofNat)).bind fun _ => Total.pure _

theorem total_simFeedbakDecode : Total BinStream.view simFeedbakDecode :=
  ((total_machRead 4).map UInt32.ofNat).bind fun _ =>
    (total_machDataRead simFeedbackSize).bind fun _ => Total.pure _

theorem total_simPadDecode : Total BinStream.view simPadDecode :=
  ((total_machRead 4).map UInt32.ofNat).bind fun _ =>
    ((total_machRead 2).map UInt16.ofNat).bind fun _ =>
      (total_machDataRead paddingDataSize).bind fun _ => Total.pure _

theorem total_simSegmentDecode : Total BinStream.view simSegmentDecode := by
  apply ((total_machRead 1).map UInt8.ofNat).bind
  intro mask
  apply ((total_machRead 1).map UInt8.ofNat).bind
  intro payloadType
  apply (total_idRead (mask &&& 0x80 != 0)).bind
  intro packetId
  apply (total_idRead (mask &&& 0x40 != 0)).bind
  intro fid
  apply ((total_machRead 4).map UInt32.ofNat).bind
  intro timestamp
  apply (total_partRead (mask &&& 0x20 != 0)).bind
  intro part
  apply ((total_machRead 2).map UInt16.ofNat).bind
  intro sendTs
  apply ((total_machRead 2).map UInt16.ofNat).bind
  intro transportSeq
  exact (total_machDataRead simVideoSize).bind fun _ => Total.pure _

/-- `sim_decode_msg` returns 0 for every handled message, whatever is left to read. -/
theorem simDecodeMsg_accepts {header : SimHeader} (handled : Handled header.mid)
    {headed : BinStream} (readable : headed.Readable) :
    ∃ body decoded, (simDecodeMsg header).run headed = some (some body, decoded) := by
  have accepts {α : Type} {read : StreamM α} (total : Total BinStream.view read)
      (wrap : α → SimBody) :
      ∃ body decoded, ((some ∘ wrap) <$> read).run headed = some (some body, decoded) := by
    obtain ⟨value, decoded, ran, _⟩ := total headed readable
    refine ⟨wrap value, decoded, ?_⟩
    rw [StateT.run_map, ran]
    rfl
  simp only [Handled, List.mem_cons, List.not_mem_nil, or_false] at handled
  unfold simDecodeMsg
  rcases handled with ping | pong | seg | feedback | pad
  · rw [ping]
    exact accepts total_simPingDecode .ping
  · rw [pong]
    exact accepts total_simPingDecode .ping
  · rw [seg]
    exact accepts total_simSegmentDecode .segment
  · rw [feedback]
    exact accepts total_simFeedbakDecode .feedback
  · rw [pad]
    exact accepts total_simPadDecode .pad

/-! ### Readers that find what they read -/

/-- The reader takes the first `count` bytes, and nothing behind them matters. -/
def TakesFirst {α : Type} (count : Nat) (bytes : List UInt8) (read : StreamM α) (value : α) :
    Prop :=
  Takes BinStream.view read (bytes.take count) value

/-- The reader finds all it reads in these bytes. -/
def FoundIn {α : Type} (bytes : List UInt8) (read : StreamM α) : Prop :=
  ∃ count value, TakesFirst count bytes read value

section Found

variable {α β : Type} {bytes : List UInt8} {count : Nat}

theorem TakesFirst.bind {more : Nat} {first : StreamM α} {second : α → StreamM β} {value : α}
    {result : β} (one : TakesFirst count bytes first value)
    (two : TakesFirst more (bytes.drop count) (second value) result) :
    TakesFirst (count + more) bytes (first >>= second) result := by
  rw [TakesFirst, List.take_add]
  exact Takes.bind one two

theorem FoundIn.bind {first : StreamM α} {second : α → StreamM β} {value : α}
    (one : TakesFirst count bytes first value) (two : FoundIn (bytes.drop count) (second value)) :
    FoundIn bytes (first >>= second) := by
  have ⟨more, result, later⟩ := two
  exact ⟨count + more, result, one.bind later⟩

theorem TakesFirst.last {read : StreamM α} {value : α} (one : TakesFirst count bytes read value)
    (function : α → β) :
    TakesFirst count bytes (read >>= fun last => Pure.pure (function last)) (function value) := by
  have takes : Takes BinStream.view (read >>= fun last => Pure.pure (function last))
      (bytes.take count ++ []) (function value) := Takes.bind one (Takes.pure (function value))
  rwa [List.append_nil] at takes

theorem FoundIn.last {read : StreamM α} {value : α} (one : TakesFirst count bytes read value)
    (function : α → β) : FoundIn bytes (read >>= fun last => Pure.pure (function last)) :=
  ⟨count, function value, one.last function⟩

theorem FoundIn.map {read : StreamM α} (found : FoundIn bytes read) (function : α → β) :
    FoundIn bytes (function <$> read) := by
  have ⟨taken, value, takes⟩ := found
  exact ⟨taken, function value, takes.map function⟩

theorem takesFirst_machRead (enough : count ≤ bytes.length) (function : Nat → α) :
    TakesFirst count bytes (function <$> machRead count)
      (function (BigEndian.decode (bytes.take count))) := by
  have length : (bytes.take count).length = count := List.length_take_of_le enough
  have fits : BigEndian.decode (bytes.take count) < 2 ^ (8 * count) := by
    have small := BigEndian.decode_lt (bytes.take count)
    rw [length] at small
    rwa [Nat.pow_mul]
  have encoded := BigEndian.encode_decode (bytes.take count)
  rw [length] at encoded
  have takes := (takes_machRead count fits).map function
  rwa [encoded] at takes

/-- The bytes of a field that may be wide. -/
def fieldWidth (wide : Bool) : Nat := 2 + if wide then 2 else 0

theorem takesFirst_idRead (wide : Bool) (enough : fieldWidth wide ≤ bytes.length) :
    ∃ value, TakesFirst (fieldWidth wide) bytes (idRead wide) value := by
  cases wide with
  | true => exact ⟨_, takesFirst_machRead enough UInt32.ofNat⟩
  | false => exact ⟨_, (takesFirst_machRead enough UInt16.ofNat).map UInt16.toUInt32⟩

theorem takesFirst_partRead (wide : Bool) (enough : fieldWidth wide ≤ bytes.length) :
    ∃ value, TakesFirst (fieldWidth wide) bytes (partRead wide) value := by
  cases wide with
  | true =>
      have four : 4 ≤ bytes.length := enough
      have behind : 2 ≤ (bytes.drop 2).length := by
        rw [List.length_drop]
        omega
      have index : TakesFirst 2 bytes machUint16Read _ :=
        takesFirst_machRead (by omega) UInt16.ofNat
      have total : TakesFirst 2 (bytes.drop 2) machUint16Read _ :=
        takesFirst_machRead behind UInt16.ofNat
      exact ⟨_, index.bind (total.last fun last => (_, last))⟩
  | false =>
      have two : 2 ≤ bytes.length := enough
      have behind : 1 ≤ (bytes.drop 1).length := by
        rw [List.length_drop]
        omega
      have index : TakesFirst 1 bytes machUint8Read _ :=
        takesFirst_machRead (by omega) UInt8.ofNat
      have total : TakesFirst 1 (bytes.drop 1) machUint8Read _ :=
        takesFirst_machRead behind UInt8.ofNat
      show ∃ value, TakesFirst (1 + 1) bytes (partRead false) value
      exact ⟨_, index.bind (total.last fun last => (UInt8.toUInt16 _, last.toUInt16))⟩

/-- An array that is complete is taken whole. -/
theorem ArrayComplete.takesFirst {bound offset : Nat} {body : List UInt8}
    (complete : ArrayComplete bound offset body) (small : bound < 2 ^ 16) :
    ∃ value, TakesFirst (2 + arrayLength offset body) (body.drop offset) (machDataRead bound)
      value := by
  have ⟨lengthThere, within, arrayThere⟩ := complete
  let len := arrayLength offset body
  let bytes := body.drop offset
  have length : bytes.length = body.length - offset := List.length_drop
  let str : Buffer bound := ⟨(bytes.drop 2).take len, (List.length_take_le _ _).trans within⟩
  have taken : str.1.length = len := by
    rw [List.length_take_of_le]
    rw [List.length_drop]
    omega
  have two : (bytes.take 2).length = 2 := List.length_take_of_le (by omega)
  have encoded := BigEndian.encode_decode (bytes.take 2)
  rw [two] at encoded
  have layout : dataLayout str.1 = bytes.take (2 + len) := by
    rw [dataLayout, taken, List.take_add]
    exact congrArg (· ++ str.1) encoded
  have takes := takes_machDataRead small str
  rw [layout] at takes
  exact ⟨_, takes⟩

end Found

theorem foundIn_simPingDecode {body : List UInt8} (complete : 8 ≤ body.length) :
    FoundIn body simPingDecode :=
  FoundIn.last (takesFirst_machRead complete (UInt64.toInt64 ∘ UInt64.ofNat)) SimPing.mk

theorem foundIn_simFeedbakDecode {body : List UInt8}
    (complete : ArrayComplete simFeedbackSize 4 body) : FoundIn body simFeedbakDecode := by
  have four : 4 ≤ body.length := (Nat.le_add_right 4 2).trans complete.1
  have ⟨feedback, array⟩ := complete.takesFirst (by decide)
  exact FoundIn.bind (takesFirst_machRead four UInt32.ofNat) (FoundIn.last array _)

theorem foundIn_simPadDecode {body : List UInt8}
    (complete : ArrayComplete paddingDataSize 6 body) : FoundIn body simPadDecode := by
  have six : 6 ≤ body.length := (Nat.le_add_right 6 2).trans complete.1
  have two : 2 ≤ (body.drop 4).length := by
    rw [List.length_drop]
    omega
  have ⟨data, array⟩ := complete.takesFirst (by decide)
  apply FoundIn.bind (takesFirst_machRead (by omega : 4 ≤ body.length) UInt32.ofNat)
  apply FoundIn.bind (takesFirst_machRead two UInt16.ofNat)
  rw [List.drop_drop]
  exact FoundIn.last array _

theorem foundIn_simSegmentDecode {body : List UInt8}
    (complete : ArrayComplete simVideoSize (segmentFields (body.headD 0)) body) :
    FoundIn body simSegmentDecode := by
  have enough := complete.1
  have ⟨data, array⟩ := complete.takesFirst (by decide)
  have mask : UInt8.ofNat (BigEndian.decode (body.take 1)) = body.headD 0 := by
    rcases body with _ | ⟨first, rest⟩
    · rfl
    · rw [List.take_succ_cons, List.take_zero, BigEndian.decode_singleton, UInt8.ofNat_toNat]
      rfl
  let wideId := body.headD 0 &&& 0x80 != 0
  let wideFid := body.headD 0 &&& 0x40 != 0
  let wideTotal := body.headD 0 &&& 0x20 != 0
  have fields : segmentFields (body.headD 0) =
      1 + 1 + fieldWidth wideId + fieldWidth wideFid + 4 + fieldWidth wideTotal + 2 + 2 := by
    simp only [segmentFields, fieldWidth, wideId, wideFid, wideTotal]
    omega
  rw [fields] at enough array
  have room (count : Nat) (left : Nat) (fits : count + left ≤ 1 + 1 + fieldWidth wideId +
      fieldWidth wideFid + 4 + fieldWidth wideTotal + 2 + 2) : left ≤ (body.drop count).length := by
    rw [List.length_drop]
    omega
  apply FoundIn.bind (takesFirst_machRead (by omega : 1 ≤ body.length) UInt8.ofNat)
  rw [mask]
  apply FoundIn.bind (takesFirst_machRead (room 1 1 (by omega)) UInt8.ofNat)
  rw [List.drop_drop]
  have ⟨packetId, takesId⟩ := takesFirst_idRead wideId (room (1 + 1) _ (by omega))
  apply FoundIn.bind takesId
  rw [List.drop_drop]
  have ⟨fid, takesFid⟩ := takesFirst_idRead wideFid (room (1 + 1 + fieldWidth wideId) _ (by omega))
  apply FoundIn.bind takesFid
  rw [List.drop_drop]
  apply FoundIn.bind (takesFirst_machRead (room _ 4 (by omega)) UInt32.ofNat)
  rw [List.drop_drop]
  have ⟨part, takesPart⟩ := takesFirst_partRead wideTotal
    (room (1 + 1 + fieldWidth wideId + fieldWidth wideFid + 4) _ (by omega))
  apply FoundIn.bind takesPart
  rw [List.drop_drop]
  apply FoundIn.bind (takesFirst_machRead (room _ 2 (by omega)) UInt16.ofNat)
  rw [List.drop_drop]
  apply FoundIn.bind (takesFirst_machRead (room _ 2 (by omega)) UInt16.ofNat)
  rw [List.drop_drop]
  exact FoundIn.last array _

theorem foundIn_simDecodeMsg {header : SimHeader} (handled : Handled header.mid)
    {body : List UInt8} (complete : Complete header.mid body) :
    FoundIn body (simDecodeMsg header) := by
  simp only [Handled, List.mem_cons, List.not_mem_nil, or_false] at handled
  unfold simDecodeMsg
  rcases handled with ping | pong | seg | feedback | pad
  · rw [ping] at complete ⊢
    exact (foundIn_simPingDecode complete).map (some ∘ SimBody.ping)
  · rw [pong] at complete ⊢
    exact (foundIn_simPingDecode complete).map (some ∘ SimBody.ping)
  · rw [seg] at complete ⊢
    exact (foundIn_simSegmentDecode complete).map (some ∘ SimBody.segment)
  · rw [feedback] at complete ⊢
    exact (foundIn_simFeedbakDecode complete).map (some ∘ SimBody.feedback)
  · rw [pad] at complete ⊢
    exact (foundIn_simPadDecode complete).map (some ∘ SimBody.pad)

/-! ### Received messages -/

/-- Behind an accepted header the stream can be read on. -/
theorem readable_of_header {arrived headed : BinStream} (readable : arrived.Readable)
    {header : SimHeader} (decoded : simDecodeHeader.run arrived = some (some header, headed)) :
    headed.Readable := by
  obtain ⟨covered, contents⟩ := (accepted_iff readable).mp ⟨header, headed, decoded⟩
  obtain ⟨result, after, read, afterReadable⟩ := total_headerRead arrived readable
  rw [simDecodeHeader_run (trailer_sealed readable contents), if_pos rfl, read] at decoded
  cases decoded
  exact afterReadable

/-- Six bytes are a header. -/
theorem exists_headerLayout {bytes : List UInt8} (six : bytes.length = simHeaderSize) :
    ∃ header, bytes = headerLayout header := by
  rcases bytes with _ | ⟨ver, _ | ⟨mid, uid⟩⟩
  · exact absurd six (by decide)
  · exact absurd six (by rw [List.length_singleton]; decide)
  · have four : uid.length = 4 := Nat.succ.inj (Nat.succ.inj six)
    have fits := BigEndian.decode_lt uid
    have encoded := BigEndian.encode_decode uid
    rw [four] at fits encoded
    refine ⟨⟨ver, mid, UInt32.ofNat (BigEndian.decode uid)⟩, ?_⟩
    rw [headerLayout, UInt32.toNat_ofNat_of_lt' fits, encoded, BigEndian.encode_one,
      BigEndian.encode_one, UInt8.ofNat_toNat, UInt8.ofNat_toNat]
    rfl

/-- Behind the header of a message come its body and the checksum. -/
theorem unread_of_header {arrived headed : BinStream} (readable : arrived.Readable)
    (start : arrived.rsize = 0) {header : SimHeader}
    (decoded : simDecodeHeader.run arrived = some (some header, headed))
    (filled : messageBody arrived ≠ []) :
    ∃ checksum, headed.unread = messageBody arrived ++ checksum := by
  obtain ⟨covered, contents⟩ := (accepted_iff readable).mp ⟨header, headed, decoded⟩
  have used := BinStream.length_contents readable.used
  rw [contents, sealed, List.length_append, BigEndian.length_encode] at used
  have body : messageBody arrived = covered.drop simHeaderSize := by
    rw [messageBody, contents, sealed, ← used, Nat.add_sub_cancel, List.take_left]
  have long : simHeaderSize ≤ covered.length := by
    by_contra short
    rw [body] at filled
    exact filled (List.drop_eq_nil_of_le (by omega))
  obtain ⟨first, layout⟩ := exists_headerLayout (List.length_take_of_le long)
  have whole : arrived.contents = sealed (headerLayout first ++ messageBody arrived) := by
    rw [contents, body, ← layout, List.take_append_drop]
  obtain ⟨behind, read, _, unread⟩ := simDecodeHeader_spec readable start whole
  rw [read] at decoded
  cases decoded
  exact ⟨_, unread⟩

/-- `UpdateRtt` and `InnerProcessFeedback` are not reached. -/
def Sender.Unreached (sender : Sender) (now : Int64) (arrived : BinStream) : Prop :=
  ∃ after calls, sender.processingMsg now arrived = some (after, calls) ∧
    after.rttNum = sender.rttNum ∧ ∀ feedback, .onTransportFeedback feedback ∉ calls

/-- `UpdateRtt`, `OnRecvSegment` and `OnRecvPad` are not reached. -/
def Receiver.Unreached (receiver : Receiver) (now : Int64) (arrived : BinStream) : Prop :=
  ∃ after calls, receiver.processingMsg now arrived = some (after, calls) ∧
    after.rttNum = receiver.rttNum ∧ (∀ header seg, .onRecvSegment header seg ∉ calls) ∧
    ∀ header body, .onRecvPad header body ∉ calls

/-- Only complete bodies are accepted, and no other reaches the session. -/
structure BodyChecked (arrived headed : BinStream) (header : SimHeader) : Prop where
  accepted : ∀ body decoded, (simDecodeMsg header).run headed = some (some body, decoded) →
    Complete header.mid (messageBody arrived)
  refused : ¬Complete header.mid (messageBody arrived) →
    ∃ decoded, (simDecodeMsg header).run headed = some (none, decoded)
  sender : ¬Complete header.mid (messageBody arrived) →
    ∀ (sender : Sender) (now : Int64), sender.Unreached now arrived
  receiver : ¬Complete header.mid (messageBody arrived) →
    ∀ (receiver : Receiver) (now : Int64), receiver.Unreached now arrived

/-- The body of a handled message is checked exactly when it is complete, for the
decoder returns 0 whatever it finds. What it makes of a complete body comes from the
bytes of the body. -/
theorem body_checked_iff {arrived headed : BinStream} (readable : arrived.Readable)
    (start : arrived.rsize = 0) {header : SimHeader}
    (decoded : simDecodeHeader.run arrived = some (some header, headed))
    (handled : Handled header.mid) :
    ∃ body after, (simDecodeMsg header).run headed = some (some body, after) ∧
      (BodyChecked arrived headed header ↔ Complete header.mid (messageBody arrived)) ∧
      (Complete header.mid (messageBody arrived) → ∃ count,
        TakesFirst count (messageBody arrived) (simDecodeMsg header) (some body)) := by
  have headedReadable := readable_of_header readable decoded
  have ⟨body, after, ran⟩ := simDecodeMsg_accepts handled headedReadable
  refine ⟨body, after, ran, ⟨fun checked => checked.accepted body after ran, ?_⟩, ?_⟩
  · intro complete
    exact ⟨fun _ _ _ => complete, absurd complete, absurd complete, absurd complete⟩
  · intro complete
    have ⟨count, value, takes⟩ := foundIn_simDecodeMsg handled complete
    have ⟨checksum, unread⟩ :=
      unread_of_header readable start decoded complete.ne_nil
    rw [← List.take_append_drop count (messageBody arrived), List.append_assoc] at unread
    have ⟨_, found, _⟩ := takes headed _ headedReadable unread
    rw [ran] at found
    cases found
    exact ⟨count, takes⟩

/-- A pong that ends behind its header. -/
def truncatedPong : BinStream :=
  { binStreamInit with
    data := [0x01, 0x16, 0, 0, 0x04, 0xd2, 0xbd, 0x0f, 0xf5, 0x94] ++ binStreamInit.data.drop 10
    used := 10 }

/-- What is left of it behind the header. -/
def truncatedPongHeaded : BinStream := { truncatedPong with rptr := 6, rsize := 6 }

theorem truncatedPong_headed : simDecodeHeader.run truncatedPong =
    some (some (initSimHeader simPong 1234), truncatedPongHeaded) := by
  decide +kernel

/-- The checksum stands where the time should be. The decoder takes it for a time of
zero, and both ends take the clock for a round trip. -/
theorem not_body_checked :
    truncatedPong.Readable ∧ truncatedPong.rsize = 0 ∧
    simDecodeHeader.run truncatedPong =
      some (some (initSimHeader simPong 1234), truncatedPongHeaded) ∧
    messageBody truncatedPong = [] ∧
    (simDecodeMsg (initSimHeader simPong 1234)).run truncatedPongHeaded =
      some (some (.ping ⟨0⟩), truncatedPongHeaded) ∧
    ((Sender.create ⟨4321, 0x0a000402⟩).processingMsg 5000 truncatedPong).map
      (fun processed => (processed.1.rttNum, processed.2)) = some (1, [.onRttUpdate 5000 5000]) ∧
    ((Receiver.create ⟨1234, 0x0a000401⟩ 1000).processingMsg 5000 truncatedPong).map
      (fun processed => processed.1.rttNum) = some 1 ∧
    ¬BodyChecked truncatedPong truncatedPongHeaded (initSimHeader simPong 1234) := by
  have pong : (simDecodeMsg (initSimHeader simPong 1234)).run truncatedPongHeaded =
      some (some (.ping ⟨0⟩), truncatedPongHeaded) := by
    decide +kernel
  refine ⟨⟨rfl, by decide, by decide +kernel⟩, rfl, truncatedPong_headed, by decide +kernel, pong,
    by decide +kernel, by decide +kernel, ?_⟩
  intro checked
  exact absurd (checked.accepted _ _ pong) (by decide +kernel)

theorem body_checked_iff_truncatedPong :
    ¬BodyChecked truncatedPong truncatedPongHeaded (initSimHeader simPong 1234) := by
  have readable : truncatedPong.Readable := ⟨rfl, by decide, by decide +kernel⟩
  have ⟨_, _, _, checked, _⟩ :=
    body_checked_iff readable rfl truncatedPong_headed (by decide : simPong ∈ _)
  rw [checked]
  decide +kernel

end StupidSimple.Mininet
