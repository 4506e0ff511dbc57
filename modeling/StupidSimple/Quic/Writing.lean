import StupidSimple.Quic.AckBlocks

/-!
Owns the rule of append functions: `Writes append bytes` says that a function appends
just these bytes, or fails when they do not fit. A sequence of appends fails or writes as
a whole.
-/

namespace StupidSimple.Quic

open StupidSimple.Library

namespace QuicDataWriter

/-- The bytes written are within the writer's room. -/
def Sound (writer : QuicDataWriter) : Prop := writer.bytes.length ≤ writer.capacity

def create (capacity : Nat) : QuicDataWriter := ⟨capacity, []⟩

theorem sound_create (capacity : Nat) : (create capacity).Sound := Nat.zero_le capacity

theorem writeBytes_cases {data : List UInt8} {writer after : QuicDataWriter}
    (written : writer.writeBytes data = some after) :
    writer.bytes.length + data.length ≤ writer.capacity ∧ after = writer.append data := by
  unfold writeBytes at written
  split_ifs at written with fits
  cases written
  exact ⟨fits, rfl⟩

theorem sound_of_writeBytes {data : List UInt8} {writer after : QuicDataWriter}
    (written : writer.writeBytes data = some after) : after.Sound := by
  obtain ⟨fits, rfl⟩ := writeBytes_cases written
  show (writer.append data).bytes.length ≤ writer.capacity
  rw [length_append]
  exact fits

/-- Two writes are one. -/
theorem writeBytes_bind (writer : QuicDataWriter) (first second : List UInt8) :
    (writer.writeBytes first).bind (fun after => after.writeBytes second) =
      writer.writeBytes (first ++ second) := by
  unfold writeBytes
  by_cases fits : writer.bytes.length + first.length ≤ writer.capacity
  · rw [if_pos fits, Option.bind_some]
    simp only [List.length_append, Nat.add_assoc, List.append_assoc]
  · rw [if_neg fits, if_neg]
    · rfl
    · rw [List.length_append]
      omega

end QuicDataWriter

/-- The function appends the bytes, or fails when they do not fit. -/
def Writes (append : QuicDataWriter → Option QuicDataWriter) (bytes : List UInt8) : Prop :=
  ∀ writer : QuicDataWriter, writer.Sound → append writer = writer.writeBytes bytes

section Rules

variable {first second : QuicDataWriter → Option QuicDataWriter} {front rest : List UInt8}

theorem writes_nothing : Writes some [] := by
  intro writer sound
  have fits : writer.bytes.length + ([] : List UInt8).length ≤ writer.capacity := sound
  rw [QuicDataWriter.writeBytes_eq fits, QuicDataWriter.append_nil]

theorem writes_writeBytes (bytes : List UInt8) : Writes (QuicDataWriter.writeBytes bytes) bytes :=
  fun _ _ => rfl

theorem Writes.bind (writesFirst : Writes first front) (writesSecond : Writes second rest) :
    Writes (fun writer => first writer >>= second) (front ++ rest) := by
  intro writer sound
  show (first writer).bind second = _
  rw [writesFirst writer sound, ← QuicDataWriter.writeBytes_bind]
  apply Option.bind_congr
  intro after written
  exact writesSecond after (QuicDataWriter.sound_of_writeBytes written)

/-- A function that writes without failing leaves its bytes. -/
theorem Writes.append_eq {writer after : QuicDataWriter} (writes : Writes first front)
    (sound : writer.Sound) (written : first writer = some after) : after = writer.append front := by
  rw [writes writer sound] at written
  exact (QuicDataWriter.writeBytes_cases written).2

variable (io : QuicData)

theorem writes_writeUInt8 (value : Nat) : Writes (writeUInt8 value) (BigEndian.encode 1 value) := by
  intro writer sound
  rw [BigEndian.encode_one]
  rfl

theorem writes_bytesToUInt64 {count : Nat} (narrow : count ≤ 8) (value : Nat) :
    Writes (QuicDataWriter.writeBytes (io.writeBytesToUInt64 count value))
      (BigEndian.encode count value) := by
  rw [io.writeBytesToUInt64_eq count value narrow]
  exact writes_writeBytes _

theorem writes_appendPacketNumber (width : QuicPacketNumberLength) (value : Nat) :
    Writes (appendPacketNumber io width value) (BigEndian.encode width.bytes value) :=
  writes_bytesToUInt64 io (bytes_le_eight width) value

end Rules

end StupidSimple.Quic
