import StupidSimple.Quic.PacketNumber
import StupidSimple.Quic.Writing

/-!
Owns packet headers of `MyQuicFramer`: `AppendPacketHeader`, and `ProcessPublicHeader` with
`ProcessUnauthenticatedHeader`, which take them apart again. The version is
`QUIC_VERSION_43`; flags, sizes and version labels are those of the library.
-/

namespace StupidSimple.Quic

open StupidSimple.Library

inductive Perspective where
  | isServer
  | isClient
deriving DecidableEq, Repr

inductive QuicConnectionIdLength where
  | packet0ByteConnectionId
  | packet8ByteConnectionId
deriving DecidableEq, Repr

def QuicConnectionIdLength.bytes : QuicConnectionIdLength → Nat
  | packet0ByteConnectionId => 0
  | packet8ByteConnectionId => 8

/-! ### Values of the library -/

def packetPublicFlagsVersion : Nat := 1 <<< 0
def packetPublicFlagsRst : Nat := 1 <<< 1
def packetPublicFlagsNonce : Nat := 1 <<< 2
def packetPublicFlags0ByteConnectionId : Nat := 0
def packetPublicFlags8ByteConnectionId : Nat := 1 <<< 3
def packetPublicFlags8ByteConnectionIdOld : Nat := 1 <<< 3 ||| 1 <<< 2
def packetPublicFlagsMax : Nat := (1 <<< 6) - 1

def kPublicFlagsSize : Nat := 1
def kQuicVersionSize : Nat := 4
def kDiversificationNonceSize : Nat := 32

/-- `DiversificationNonce`. -/
structure DiversificationNonce where
  bytes : List UInt8
  length_bytes : bytes.length = kDiversificationNonceSize
deriving DecidableEq

@[ext]
theorem DiversificationNonce.ext {left right : DiversificationNonce}
    (same : left.bytes = right.bytes) : left = right := by
  cases left
  cases right
  cases same
  rfl

/-- The labels of versions. A label that names no version is parsed as none. -/
structure VersionLabels (Version : Type) where
  createQuicVersionLabel : Version → Nat
  parseQuicVersionLabel : Nat → Option Version
  createQuicVersionLabel_lt : ∀ version, createQuicVersionLabel version < 2 ^ 32
  parse_create : ∀ version,
    parseQuicVersionLabel (createQuicVersionLabel version) = some version

/-! ### Headers and framers -/

/-- `QuicPacketHeader`; a header without a version has an unsupported one. -/
structure QuicPublicHeader (Version : Type) where
  connectionId : Nat
  connectionIdLength : QuicConnectionIdLength
  resetFlag : Bool
  versionFlag : Bool
  packetNumberLength : QuicPacketNumberLength
  version : Option Version
  nonce : Option DiversificationNonce
  packetNumber : Nat
deriving DecidableEq

variable {Version : Type}

/-- The part of a header that frames depend on. -/
def QuicPublicHeader.packetHeader (header : QuicPublicHeader Version) : QuicPacketHeader where
  packetNumberLength := header.packetNumberLength
  packetNumber := header.packetNumber

/-- The members of `MyQuicFramer` that headers depend on. -/
structure HeaderState (Version : Type) where
  perspective : Perspective
  version : Version
  validateFlags : Bool
  largestPacketNumber : Nat
  lastSerializedConnectionId : Nat
  lastVersionLabel : Nat
  lastNonce : Option DiversificationNonce
deriving DecidableEq

/-- The number of bytes of a header. -/
def QuicPublicHeader.size (header : QuicPublicHeader Version) : Nat :=
  kPublicFlagsSize + header.connectionIdLength.bytes +
    (if header.versionFlag then kQuicVersionSize else 0) + header.packetNumberLength.bytes +
    (if header.nonce.isSome then kDiversificationNonceSize else 0)

section Codec

variable (io : QuicData) (labels : VersionLabels Version)

/-! ### Writing -/

/-- The public flags of a header, of which those of the connection id come last. -/
def publicFlags (perspective : Perspective) (header : QuicPublicHeader Version) : Nat :=
  let flags := (if header.resetFlag then packetPublicFlagsRst else 0) |||
    (if header.versionFlag then packetPublicFlagsVersion else 0) |||
    (getPacketNumberFlags header.packetNumberLength <<< kPublicHeaderSequenceNumberShift) |||
    (if header.nonce.isSome then packetPublicFlagsNonce else 0)
  match header.connectionIdLength with
  | .packet0ByteConnectionId => flags ||| packetPublicFlags0ByteConnectionId
  | .packet8ByteConnectionId => flags ||| packetPublicFlags8ByteConnectionId |||
      (if perspective = .isClient then packetPublicFlags8ByteConnectionIdOld else 0)

def appendConnectionId (perspective : Perspective) (header : QuicPublicHeader Version)
    (writer : QuicDataWriter) : Option QuicDataWriter := do
  let writer ← writeUInt8 (publicFlags perspective header) writer
  match header.connectionIdLength with
  | .packet0ByteConnectionId => some writer
  | .packet8ByteConnectionId =>
      writer.writeBytes (io.writeBytesToUInt64 8 header.connectionId)

/-- The label is written in network order. -/
def appendVersion (versionFlag : Bool) (version : Version) (writer : QuicDataWriter) :
    Option QuicDataWriter :=
  if versionFlag then
    writer.writeBytes (io.writeBytesToUInt64 4 (labels.createQuicVersionLabel version))
  else some writer

def appendNonce : Option DiversificationNonce → QuicDataWriter → Option QuicDataWriter
  | none, writer => some writer
  | some nonce, writer => writer.writeBytes nonce.bytes

/-- The fields behind the connection id. -/
def appendHeaderFields (version : Version) (header : QuicPublicHeader Version)
    (writer : QuicDataWriter) : Option QuicDataWriter := do
  let writer ← appendVersion io labels header.versionFlag version writer
  let writer ← appendNonce header.nonce writer
  appendPacketNumber io header.packetNumberLength header.packetNumber writer

def appendPacketHeader (header : QuicPublicHeader Version) (writer : QuicDataWriter)
    (framer : HeaderState Version) : Option QuicDataWriter × HeaderState Version :=
  match appendConnectionId io framer.perspective header writer with
  | none => (none, framer)
  | some writer => (appendHeaderFields io labels framer.version header writer,
      { framer with lastSerializedConnectionId := header.connectionId })

/-! ### Reading -/

/-- The connection id, or the one that was written last. -/
def processConnectionId (framer : HeaderState Version) (flags : Nat) (bytes : List UInt8) :
    Option (Nat × QuicConnectionIdLength × List UInt8) :=
  if flags &&& packetPublicFlags8ByteConnectionId = packetPublicFlags8ByteConnectionId then do
    let (connectionId, bytes) ← io.readBytesToUInt64 8 bytes
    some (connectionId, .packet8ByteConnectionId, bytes)
  else some (framer.lastSerializedConnectionId, .packet0ByteConnectionId, bytes)

/-- The version, which only a server reads. -/
def processVersion (versionFlag : Bool) (flags : Nat) (bytes : List UInt8)
    (framer : HeaderState Version) [DecidableEq Version] :
    Except String (Option Version × List UInt8) × HeaderState Version :=
  if versionFlag ∧ framer.perspective = .isServer then
    match io.readBytesToUInt64 4 bytes with
    | none => (.error "Unable to read protocol version.", framer)
    | some (versionLabel, bytes) =>
        let framer := { framer with lastVersionLabel := versionLabel }
        let version := labels.parseQuicVersionLabel versionLabel
        if version = some framer.version ∧ packetPublicFlagsMax < flags then
          (.error "Illegal public flags value.", framer)
        else (.ok (version, bytes), framer)
  else (.ok (none, bytes), framer)

def readNonce (bytes : List UInt8) : Option (DiversificationNonce × List UInt8) :=
  if enough : kDiversificationNonceSize ≤ bytes.length then
    some (⟨bytes.take kDiversificationNonceSize, List.length_take_of_le enough⟩,
      bytes.drop kDiversificationNonceSize)
  else none

/-- The nonce, which only a client reads. -/
def processNonce (flags : Nat) (bytes : List UInt8) (framer : HeaderState Version) :
    Except String (Option DiversificationNonce × List UInt8) × HeaderState Version :=
  if flags &&& packetPublicFlagsNonce ≠ 0 ∧ flags &&& packetPublicFlagsVersion = 0 ∧
      flags &&& packetPublicFlagsRst = 0 ∧ framer.perspective = .isClient then
    match readNonce bytes with
    | none => (.error "Unable to read nonce.", framer)
    | some (nonce, bytes) => (.ok (some nonce, bytes), { framer with lastNonce := some nonce })
  else (.ok (none, bytes), framer)

variable [DecidableEq Version]

/-- What `ProcessPublicHeader` reads behind the public flags. -/
def processAfterFlags (flags : Nat) (bytes : List UInt8) (framer : HeaderState Version) :
    Except String (QuicPublicHeader Version × List UInt8) × HeaderState Version :=
  let resetFlag := decide (flags &&& packetPublicFlagsRst ≠ 0)
  let versionFlag := decide (flags &&& packetPublicFlagsVersion ≠ 0)
  if framer.validateFlags ∧ ¬versionFlag ∧ packetPublicFlagsMax < flags then
    (.error "Illegal public flags value.", framer)
  else if resetFlag ∧ versionFlag then (.error "Got version flag in reset packet", framer)
  else
    match processConnectionId io framer flags bytes with
    | none => (.error "Unable to read ConnectionId.", framer)
    | some (connectionId, connectionIdLength, bytes) =>
        match processVersion io labels versionFlag flags bytes framer with
        | (.error detail, framer) => (.error detail, framer)
        | (.ok (version, bytes), framer) =>
            match processNonce flags bytes framer with
            | (.error detail, framer) => (.error detail, framer)
            | (.ok (nonce, bytes), framer) =>
                (.ok ({ connectionId, connectionIdLength, resetFlag, versionFlag, version, nonce,
                        packetNumberLength :=
                          readSequenceNumberLength (flags >>> kPublicHeaderSequenceNumberShift),
                        packetNumber := 0 }, bytes), framer)

/-- `ProcessPublicHeader`. -/
def processPublicHeader (bytes : List UInt8) (framer : HeaderState Version) :
    Except String (QuicPublicHeader Version × List UInt8) × HeaderState Version :=
  match io.readBytesToUInt64 1 bytes with
  | none => (.error "Unable to read public flags.", framer)
  | some (flags, bytes) => processAfterFlags io labels flags bytes framer

/-- `ProcessUnauthenticatedHeader` up to the call of the visitor. -/
def processPacketNumber (header : QuicPublicHeader Version) (bytes : List UInt8)
    (framer : HeaderState Version) :
    Except String (QuicPublicHeader Version × List UInt8) :=
  match io.readBytesToUInt64 header.packetNumberLength.bytes bytes with
  | none => .error "Unable to read packet number."
  | some (wirePacketNumber, bytes) =>
      let packetNumber := MyQuicFramer.calculatePacketNumberFromWire header.packetNumberLength
        framer.largestPacketNumber wirePacketNumber
      if packetNumber = 0 then .error "packet numbers cannot be 0."
      else .ok ({ header with packetNumber }, bytes)

end Codec

end StupidSimple.Quic
