import StupidSimple.Library.BigEndian

/-!
Owns what the QUIC code takes from `QuicDataReader` and `QuicDataWriter`, which
are not part of the repository, and `my_quic_header`: packet number lengths and
the flags that name them.

A reader is its unread bytes. `QuicData` is the interface; its laws say that
integers are big-endian and that a `UFloat16` takes two
bytes, whatever they mean.
-/

namespace StupidSimple.Quic

open StupidSimple.Library

/-- `QuicPacketNumberLength`. -/
inductive QuicPacketNumberLength where
  | packet1Byte
  | packet2Byte
  | packet4Byte
  | packet6Byte
  | packet8Byte
deriving DecidableEq, Repr

def QuicPacketNumberLength.bytes : QuicPacketNumberLength → Nat
  | packet1Byte => 1
  | packet2Byte => 2
  | packet4Byte => 4
  | packet6Byte => 6
  | packet8Byte => 8

/-! ### Packet number flags -/

def packetFlags1BytePacket : Nat := 0
def packetFlags2BytePacket : Nat := 1
def packetFlags4BytePacket : Nat := 2
def packetFlags8BytePacket : Nat := 3

/-- `ReadSequenceNumberLength`, and `ReadAckPacketNumberLength` of version 43. -/
def readSequenceNumberLength (flags : Nat) : QuicPacketNumberLength :=
  let masked := flags &&& packetFlags8BytePacket
  if masked = packetFlags8BytePacket then .packet6Byte
  else if masked = packetFlags4BytePacket then .packet4Byte
  else if masked = packetFlags2BytePacket then .packet2Byte
  else .packet1Byte

/-- `GetMinSeqLength`, and `GetMinPacketNumberLength` of version 43. -/
def getMinSeqLength (packetNumber : Nat) : QuicPacketNumberLength :=
  if packetNumber < 2 ^ 8 then .packet1Byte
  else if packetNumber < 2 ^ 16 then .packet2Byte
  else if packetNumber < 2 ^ 32 then .packet4Byte
  else .packet6Byte

def getPacketNumberFlags : QuicPacketNumberLength → Nat
  | .packet1Byte => packetFlags1BytePacket
  | .packet2Byte => packetFlags2BytePacket
  | .packet4Byte => packetFlags4BytePacket
  | .packet6Byte | .packet8Byte => packetFlags8BytePacket

/-! ### Reading and writing -/

def kMaxPacketSize : Nat := 1452

/-- The operations of `QuicDataReader` and `QuicDataWriter` in network byte
order. A read gives the value and the bytes left, or fails. -/
structure QuicData where
  readBytesToUInt64 : Nat → List UInt8 → Option (Nat × List UInt8)
  writeBytesToUInt64 : Nat → Nat → List UInt8
  /-- The value of the two bytes of a `UFloat16`. -/
  uFloat16Value : List UInt8 → Nat
  /-- The two bytes of a value that is rounded to a `UFloat16`. -/
  uFloat16Bytes : Nat → List UInt8
  kUFloat16MaxValue : Nat
  readBytesToUInt64_eq : ∀ count bytes, count ≤ 8 →
    readBytesToUInt64 count bytes =
      if count ≤ bytes.length then some (BigEndian.decode (bytes.take count), bytes.drop count)
      else none
  writeBytesToUInt64_eq : ∀ count value, count ≤ 8 →
    writeBytesToUInt64 count value = BigEndian.encode count value
  length_uFloat16Bytes : ∀ value, (uFloat16Bytes value).length = 2

namespace QuicData

variable (io : QuicData)

def readUFloat16 (bytes : List UInt8) : Option (Nat × List UInt8) :=
  if 2 ≤ bytes.length then some (io.uFloat16Value (bytes.take 2), bytes.drop 2) else none

/-- `ReadStringPiece`. -/
def readStringPiece (length : Nat) (bytes : List UInt8) : Option (List UInt8 × List UInt8) :=
  if length ≤ bytes.length then some (bytes.take length, bytes.drop length) else none

/-- The reader and writer with a `UFloat16` that is two plain bytes, as small
values are encoded. -/
def networkOrder : QuicData where
  readBytesToUInt64 count bytes :=
    if count ≤ bytes.length then some (BigEndian.decode (bytes.take count), bytes.drop count)
    else none
  writeBytesToUInt64 := BigEndian.encode
  uFloat16Value := BigEndian.decode
  uFloat16Bytes value := BigEndian.encode 2 (min value (2 ^ 16 - 1))
  kUFloat16MaxValue := 0x3FFC0000000
  readBytesToUInt64_eq _ _ _ := rfl
  writeBytesToUInt64_eq _ _ _ := rfl
  length_uFloat16Bytes _ := BigEndian.length_encode _ _

end QuicData

/-- `QuicDataWriter`: what has been written, and the room for it. -/
structure QuicDataWriter where
  capacity : Nat
  bytes : List UInt8
deriving DecidableEq, Repr

namespace QuicDataWriter

/-- Append bytes, or fail when they do not fit. -/
def writeBytes (data : List UInt8) (writer : QuicDataWriter) : Option QuicDataWriter :=
  if writer.bytes.length + data.length ≤ writer.capacity then
    some { writer with bytes := writer.bytes ++ data }
  else none

theorem writeBytes_of_le {data : List UInt8} {writer : QuicDataWriter}
    (fits : writer.bytes.length + data.length ≤ writer.capacity) :
    writer.writeBytes data = some { writer with bytes := writer.bytes ++ data } :=
  if_pos fits

end QuicDataWriter

/-! ### Lengths and flags -/

theorem bytes_le_eight (length : QuicPacketNumberLength) : length.bytes ≤ 8 := by
  cases length <;> decide

/-- A packet number of six bytes fits into its least length. -/
theorem lt_getMinSeqLength {packetNumber : Nat} (narrow : packetNumber < 2 ^ 48) :
    packetNumber < 256 ^ (getMinSeqLength packetNumber).bytes := by
  unfold getMinSeqLength
  split_ifs with one two four
  · simpa [QuicPacketNumberLength.bytes] using one
  · simpa [QuicPacketNumberLength.bytes] using two
  · simpa [QuicPacketNumberLength.bytes] using four
  · simpa [QuicPacketNumberLength.bytes] using narrow

theorem getMinSeqLength_le_six (packetNumber : Nat) : (getMinSeqLength packetNumber).bytes ≤ 6 := by
  unfold getMinSeqLength
  split_ifs <;> decide

/-- The flags of a least length name it. -/
theorem readSequenceNumberLength_flags (packetNumber : Nat) :
    readSequenceNumberLength (getPacketNumberFlags (getMinSeqLength packetNumber)) =
      getMinSeqLength packetNumber := by
  unfold getMinSeqLength
  split_ifs <;> rfl

theorem readSequenceNumberLength_le_six (flags : Nat) :
    (readSequenceNumberLength flags).bytes ≤ 6 := by
  unfold readSequenceNumberLength
  simp only
  split_ifs <;> decide

end StupidSimple.Quic
