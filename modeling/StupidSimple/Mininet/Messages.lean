import StupidSimple.Mininet.Corruption
import StupidSimple.Mininet.PacketSizes
import StupidSimple.Mininet.PendingBuffer

/-!
Owns what a datagram means to the party that reads it. `Carries` names the message in a
datagram, and `Reads` what the decoder makes of one.

`Carries.reads_iff` is the rule for everything that arrives: the decoder finds the message
that was sent, or nothing where the buffer cuts it and the checksum tells.
-/

namespace StupidSimple.Mininet

open StupidSimple.Library

/-- What a body looks like after the wire, whatever the fields of a segment are. -/
def SimBody.arrived : SimBody → SimBody
  | .segment body =>
      .segment { body.onWire with index := (partSeen body.index body.total).1 }
  | body => body

theorem codes_anyBody {body : SimBody} (header : SimHeader) (fits : body.Fits header.mid) :
    ∃ bytes, Codes BinStream.view (simEncodeBody header.mid body) (simDecodeMsg header) bytes
      (some body.arrived) := by
  cases body with
  | segment seg =>
      unfold simDecodeMsg
      rw [show header.mid = simSeg from fits]
      exact ⟨_, (codes_anySegment seg).map (some ∘ SimBody.segment)⟩
  | _ => exact codes_simBody header fits trivial

/-! ### Messages of a datagram -/

/-- The datagram is this message, with its checksum. -/
structure Carries (data : List UInt8) (header : SimHeader) (body : SimBody) : Prop where
  fits : body.Fits header.mid
  encoded : ∃ bytes, Emits BinStream.view (simEncodeBody header.mid body) bytes ∧
    data = sealed (headerLayout header ++ bytes)

theorem encodeTo_carries {peer : SuAddr} {header : SimHeader} {body : SimBody}
    {strm sent : BinStream} {message : SentMessage}
    (ran : encodeTo peer header body strm = some (message, sent)) (fits : body.Fits header.mid) :
    message.header = header ∧ message.body = body ∧ Carries message.data header body := by
  have ⟨final, encoded, made⟩ := Option.map_eq_some_iff.mp ran
  have ⟨bytes, codes⟩ := codes_anyBody header fits
  have ⟨written, again, _, contents⟩ :=
    simEncodeMsg_spec codes.emits (allocated_of_simEncodeMsg encoded)
  rw [encoded] at again
  cases again
  cases made
  exact ⟨rfl, rfl, fits, bytes, codes.emits, contents⟩

/-- What the decoder makes of a datagram. -/
def Reads (data : List UInt8) (header : SimHeader) (body : SimBody) : Prop :=
  ∃ source remote rstream headed decoded,
    suUdpRecv binStreamInit (some ⟨source, data⟩) = some (remote, rstream) ∧
    simDecodeHeader.run rstream = some (some header, headed) ∧
    (simDecodeMsg header).run headed = some (some body, decoded)

/-- The datagram fits the buffer of both `Process` functions. -/
def FitsBuffer (data : List UInt8) : Prop := data.length ≤ binStreamInit.size

/-- The datagram fits the buffer, or what is left of it has no matching checksum. -/
def SafelyCut (data : List UInt8) : Prop :=
  ¬FitsBuffer data → ∀ covered, data.take binStreamInit.size ≠ sealed covered

section Carries

variable {data : List UInt8} {header : SimHeader} {body : SimBody}

theorem Carries.ne_nil (carries : Carries data header body) : data ≠ [] := by
  have ⟨bytes, _, same⟩ := carries.encoded
  rw [same]
  exact List.append_ne_nil_of_left_ne_nil (List.cons_ne_nil _ _) _

/-- A message comes back from any stream that holds it. -/
theorem Carries.decoded (carries : Carries data header body) {arrived : BinStream}
    (readable : arrived.Readable) (start : arrived.rsize = 0) (contents : arrived.contents = data) :
    ∃ headed decoded, simDecodeHeader.run arrived = some (some header, headed) ∧
      (simDecodeMsg header).run headed = some (some body.arrived, decoded) := by
  have ⟨bytes, emits, same⟩ := carries.encoded
  have ⟨other, codes⟩ := codes_anyBody header carries.fits
  have writable : (binStreamRewind true binStreamInit).Writable :=
    writable_rewind (size_binStreamInit ▸ by decide)
  rw [emits.unique codes.emits writable] at same
  have ⟨headed, decodedHeader, headedReadable, unread⟩ :=
    simDecodeHeader_spec readable start (contents.trans same)
  have ⟨decoded, decodedBody, _⟩ := codes.takes headed _ headedReadable unread
  exact ⟨headed, decoded, decodedHeader, decodedBody⟩

/-- A message is read as it was sent, or it is cut and refused. -/
theorem Carries.reads_iff (carries : Carries data header body) (cut : SafelyCut data)
    {header' : SimHeader} {body' : SimBody} :
    Reads data header' body' ↔ FitsBuffer data ∧ header' = header ∧ body' = body.arrived := by
  constructor
  · rintro ⟨source, remote, rstream, headed, decoded, received, readHeader, readBody⟩
    have filled : (Datagram.mk source data).data ≠ [] := carries.ne_nil
    have ⟨arrived, receivedToo, readable, start, contents⟩ := suUdpRecv_init filled
    rw [received] at receivedToo
    cases receivedToo
    by_cases short : FitsBuffer data
    · rw [List.take_of_length_le short] at contents
      have ⟨headedToo, decodedToo, sameHeader, sameBody⟩ :=
        carries.decoded readable start contents
      rw [readHeader] at sameHeader
      cases sameHeader
      rw [readBody] at sameBody
      cases sameBody
      exact ⟨short, rfl, rfl⟩
    · have ⟨covered, resealed⟩ := (accepted_iff readable).mp ⟨header', headed, readHeader⟩
      exact absurd (contents.symm.trans resealed) (cut short covered)
  · rintro ⟨short, rfl, rfl⟩
    have filled : (Datagram.mk ⟨0, 0⟩ data).data ≠ [] := carries.ne_nil
    have ⟨arrived, received, readable, start, contents⟩ := suUdpRecv_init filled
    have ⟨headed, decoded, readHeader, readBody⟩ :=
      carries.decoded readable start (contents.trans (List.take_of_length_le short))
    exact ⟨⟨0, 0⟩, ⟨0, 0⟩, arrived, headed, decoded, received, readHeader, readBody⟩

end Carries

/-! ### Lengths of messages -/

/-- A ping and a pong have the same length. -/
theorem Carries.length_ping {data : List UInt8} {header : SimHeader} {body : SimPing}
    (carries : Carries data header (.ping body)) : data.length = 18 := by
  have ⟨bytes, emits, same⟩ := carries.encoded
  have layout : Emits BinStream.view (simEncodeBody header.mid (.ping body))
      (BigEndian.encode 8 body.ts.toUInt64.toNat) := by
    rcases carries.fits with ping | pong
    · rw [ping]
      exact (codes_machInt64 body.ts).emits
    · rw [pong]
      exact (codes_machInt64 body.ts).emits
  have writable : (binStreamRewind true binStreamInit).Writable :=
    writable_rewind (size_binStreamInit ▸ by decide)
  rw [same, emits.unique layout writable, length_sealed, headerLayout]
  simp only [List.length_append, BigEndian.length_encode]

theorem Carries.length_feedback {data : List UInt8} {header : SimHeader} {body : SimFeedback}
    (carries : Carries data header (.feedback body)) :
    data.length = body.feedback.1.length + 16 := by
  have ⟨bytes, emits, same⟩ := carries.encoded
  have kind : header.mid = simFeedback := carries.fits
  rw [kind] at emits
  have small : simFeedbackSize < 2 ^ 16 := by decide
  have layout : Emits BinStream.view (simEncodeBody simFeedback (.feedback body))
      (BigEndian.encode 4 body.basePacketId.toNat ++ dataLayout body.feedback.1) :=
    (codes_machUint32 body.basePacketId).emits.bind (codes_machData small body.feedback).emits
  have writable : (binStreamRewind true binStreamInit).Writable :=
    writable_rewind (size_binStreamInit ▸ by decide)
  rw [same, emits.unique layout writable, length_sealed, headerLayout, dataLayout]
  simp only [List.length_append, BigEndian.length_encode]
  omega

end StupidSimple.Mininet
