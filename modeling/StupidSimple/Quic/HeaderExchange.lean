import StupidSimple.Quic.FrameWire
import StupidSimple.Quic.PacketHeader

/-!
Owns the exchange of packet headers: what `AppendPacketHeader` of one side writes is read
back by the other side, field by field.
-/

namespace StupidSimple.Quic

open StupidSimple.Library MyQuicFramer

/-! ### Public flags -/

section Flags

/-- The public flags, as a function of what they encode. -/
def publicFlagsOf (resetFlag versionFlag hasNonce eightBytes client : Bool)
    (numberFlags : Nat) : Nat :=
  let flags := (if resetFlag then packetPublicFlagsRst else 0) |||
    (if versionFlag then packetPublicFlagsVersion else 0) |||
    (numberFlags <<< kPublicHeaderSequenceNumberShift) |||
    (if hasNonce then packetPublicFlagsNonce else 0)
  if eightBytes then flags ||| packetPublicFlags8ByteConnectionId |||
    (if client then packetPublicFlags8ByteConnectionIdOld else 0)
  else flags ||| packetPublicFlags0ByteConnectionId

/-- What a reader makes of public flags; it looks for a nonce in those of a server only. -/
structure ReadsPublicFlags (resetFlag versionFlag hasNonce eightBytes client : Bool)
    (numberFlags flags : Nat) : Prop where
  legal : flags ≤ packetPublicFlagsMax
  reset : decide (flags &&& packetPublicFlagsRst ≠ 0) = resetFlag
  version : decide (flags &&& packetPublicFlagsVersion ≠ 0) = versionFlag
  connectionId : decide (flags &&& packetPublicFlags8ByteConnectionId =
    packetPublicFlags8ByteConnectionId) = eightBytes
  nonce : client = false → decide (flags &&& packetPublicFlagsNonce ≠ 0) = hasNonce
  number : readSequenceNumberLength (flags >>> kPublicHeaderSequenceNumberShift) =
    readSequenceNumberLength numberFlags

instance (resetFlag versionFlag hasNonce eightBytes client : Bool) (numberFlags flags : Nat) :
    Decidable
      (ReadsPublicFlags resetFlag versionFlag hasNonce eightBytes client numberFlags flags) :=
  decidable_of_iff
    (flags ≤ packetPublicFlagsMax ∧
      decide (flags &&& packetPublicFlagsRst ≠ 0) = resetFlag ∧
      decide (flags &&& packetPublicFlagsVersion ≠ 0) = versionFlag ∧
      decide (flags &&& packetPublicFlags8ByteConnectionId =
        packetPublicFlags8ByteConnectionId) = eightBytes ∧
      (client = false → decide (flags &&& packetPublicFlagsNonce ≠ 0) = hasNonce) ∧
      readSequenceNumberLength (flags >>> kPublicHeaderSequenceNumberShift) =
        readSequenceNumberLength numberFlags)
    ⟨fun ⟨legal, reset, version, connectionId, nonce, number⟩ =>
        ⟨legal, reset, version, connectionId, nonce, number⟩,
      fun reads => ⟨reads.legal, reads.reset, reads.version, reads.connectionId, reads.nonce,
        reads.number⟩⟩

theorem readsPublicFlags {numberFlags : Nat} (few : numberFlags < 4)
    (resetFlag versionFlag hasNonce eightBytes client : Bool) :
    ReadsPublicFlags resetFlag versionFlag hasNonce eightBytes client numberFlags
      (publicFlagsOf resetFlag versionFlag hasNonce eightBytes client numberFlags) := by
  have all : ∀ numberFlags < 4, ∀ resetFlag versionFlag hasNonce eightBytes client : Bool,
      ReadsPublicFlags resetFlag versionFlag hasNonce eightBytes client numberFlags
        (publicFlagsOf resetFlag versionFlag hasNonce eightBytes client numberFlags) := by
    decide +kernel
  exact all numberFlags few resetFlag versionFlag hasNonce eightBytes client

theorem getPacketNumberFlags_lt (length : QuicPacketNumberLength) :
    getPacketNumberFlags length < 4 := by
  cases length <;> decide

variable {Version : Type} (perspective : Perspective) (header : QuicPublicHeader Version)

theorem publicFlags_eq : publicFlags perspective header =
    publicFlagsOf header.resetFlag header.versionFlag header.nonce.isSome
      (header.connectionIdLength = .packet8ByteConnectionId) (perspective = .isClient)
      (getPacketNumberFlags header.packetNumberLength) := by
  unfold publicFlags publicFlagsOf
  cases header.connectionIdLength <;> simp

theorem readsPublicFlags_header :
    ReadsPublicFlags header.resetFlag header.versionFlag header.nonce.isSome
      (header.connectionIdLength = .packet8ByteConnectionId) (perspective = .isClient)
      (getPacketNumberFlags header.packetNumberLength) (publicFlags perspective header) := by
  rw [publicFlags_eq]
  exact readsPublicFlags (getPacketNumberFlags_lt _) _ _ _ _ _

end Flags

/-! ### Bytes of a header -/

section Wire

variable {Version : Type} (labels : VersionLabels Version)

/-- The bytes in front of the packet number. -/
def publicHeaderWire (perspective : Perspective) (version : Version)
    (header : QuicPublicHeader Version) : List UInt8 :=
  BigEndian.encode 1 (publicFlags perspective header) ++
    (BigEndian.encode header.connectionIdLength.bytes header.connectionId ++
      ((if header.versionFlag then BigEndian.encode 4 (labels.createQuicVersionLabel version)
        else []) ++ (header.nonce.map DiversificationNonce.bytes).getD []))

def headerWire (perspective : Perspective) (version : Version)
    (header : QuicPublicHeader Version) : List UInt8 :=
  publicHeaderWire labels perspective version header ++
    BigEndian.encode header.packetNumberLength.bytes header.packetNumber

theorem length_headerWire (perspective : Perspective) (version : Version)
    (header : QuicPublicHeader Version) :
    (headerWire labels perspective version header).length = header.size := by
  have nonce : ((header.nonce.map DiversificationNonce.bytes).getD []).length =
      if header.nonce.isSome then kDiversificationNonceSize else 0 := by
    cases header.nonce with
    | none => rfl
    | some nonce => exact nonce.length_bytes
  have version : (if header.versionFlag then
      BigEndian.encode 4 (labels.createQuicVersionLabel version) else []).length =
        if header.versionFlag then kQuicVersionSize else 0 := by
    split_ifs
    · exact BigEndian.length_encode 4 _
    · rfl
  simp only [headerWire, publicHeaderWire, List.length_append, BigEndian.length_encode, nonce,
    version, QuicPublicHeader.size, kPublicFlagsSize]
  omega

variable (io : QuicData)

theorem writes_appendConnectionId (perspective : Perspective) (header : QuicPublicHeader Version) :
    Writes (appendConnectionId io perspective header)
      (BigEndian.encode 1 (publicFlags perspective header) ++
        BigEndian.encode header.connectionIdLength.bytes header.connectionId) := by
  apply (writes_writeUInt8 _).bind
  cases header.connectionIdLength with
  | packet0ByteConnectionId => exact writes_nothing
  | packet8ByteConnectionId => exact writes_bytesToUInt64 io (by decide) _

theorem writes_appendVersion (versionFlag : Bool) (version : Version) :
    Writes (appendVersion io labels versionFlag version)
      (if versionFlag then BigEndian.encode 4 (labels.createQuicVersionLabel version)
        else []) := by
  cases versionFlag with
  | false => exact writes_nothing
  | true => exact writes_bytesToUInt64 io (by decide) _

theorem writes_appendNonce (nonce : Option DiversificationNonce) :
    Writes (appendNonce nonce) ((nonce.map DiversificationNonce.bytes).getD []) := by
  cases nonce with
  | none => exact writes_nothing
  | some nonce => exact writes_writeBytes nonce.bytes

theorem writes_appendHeaderFields (version : Version) (header : QuicPublicHeader Version) :
    Writes (appendHeaderFields io labels version header)
      ((if header.versionFlag then BigEndian.encode 4 (labels.createQuicVersionLabel version)
        else []) ++ ((header.nonce.map DiversificationNonce.bytes).getD [] ++
          BigEndian.encode header.packetNumberLength.bytes header.packetNumber)) :=
  (writes_appendVersion labels io header.versionFlag version).bind
    ((writes_appendNonce header.nonce).bind (writes_appendPacketNumber io _ _))

/-- A header is written as a whole, or not at all. -/
theorem appendPacketHeader_eq (header : QuicPublicHeader Version) {writer : QuicDataWriter}
    (sound : writer.Sound) (framer : HeaderState Version) :
    (appendPacketHeader io labels header writer framer).1 =
      writer.writeBytes (headerWire labels framer.perspective framer.version header) := by
  have whole := (writes_appendConnectionId io framer.perspective header).bind
    (writes_appendHeaderFields labels io framer.version header) writer sound
  rw [headerWire, publicHeaderWire]
  simp only [List.append_assoc] at whole ⊢
  rw [← whole, appendPacketHeader]
  cases appendConnectionId io framer.perspective header writer <;> rfl

end Wire

/-! ### Reading a header -/

def Perspective.other : Perspective → Perspective
  | isServer => isClient
  | isClient => isServer

/-- A header of a data packet: only clients send their version, only servers a nonce. -/
structure QuicPublicHeader.WellFormed {Version : Type} (perspective : Perspective)
    (header : QuicPublicHeader Version) : Prop where
  data : header.resetFlag = false
  flagged : Flagged header.packetNumberLength
  connectionId_lt : header.connectionId < 2 ^ 64
  version : header.versionFlag = true → perspective = .isClient
  nonce : header.nonce ≠ none → perspective = .isServer

section Reading

variable {Version : Type} (version : Version) (receiver : HeaderState Version)
  (header : QuicPublicHeader Version)

/-- A connection id that is not sent is the one that the receiver wrote last. -/
def receivedConnectionId : Nat :=
  match header.connectionIdLength with
  | .packet0ByteConnectionId => receiver.lastSerializedConnectionId
  | .packet8ByteConnectionId => header.connectionId

/-- The header as the other side sees it. -/
def receivedHeader (packetNumber : Nat) : QuicPublicHeader Version :=
  { header with
    connectionId := receivedConnectionId receiver header
    version := if header.versionFlag then some version else none
    packetNumber }

/-- The receiver behind the public header. -/
def receivedState (labels : VersionLabels Version) : HeaderState Version :=
  { receiver with
    lastVersionLabel := if header.versionFlag then labels.createQuicVersionLabel version
      else receiver.lastVersionLabel
    lastNonce := header.nonce.or receiver.lastNonce }

variable {version receiver header}

theorem receivedHeader_congr {other : HeaderState Version}
    (same : receiver.lastSerializedConnectionId = other.lastSerializedConnectionId)
    (packetNumber : Nat) :
    receivedHeader version receiver header packetNumber =
      receivedHeader version other header packetNumber := by
  have sameId : receivedConnectionId receiver header = receivedConnectionId other header := by
    unfold receivedConnectionId
    rw [same]
  rw [receivedHeader, sameId, receivedHeader]

variable (io : QuicData)

theorem readBytesToUInt64_encode_mod {count : Nat} (narrow : count ≤ 8) (value : Nat)
    (rest : List UInt8) :
    io.readBytesToUInt64 count (BigEndian.encode count value ++ rest) =
      some (value % 256 ^ count, rest) := by
  have length := BigEndian.length_encode count value
  rw [io.readBytesToUInt64_eq count _ narrow, if_pos (by rw [List.length_append]; omega),
    List.take_left' length, List.drop_left' length, BigEndian.decode_encode]

theorem readBytesToUInt64_encode {count value : Nat} (narrow : count ≤ 8)
    (fits : value < 256 ^ count) (rest : List UInt8) :
    io.readBytesToUInt64 count (BigEndian.encode count value ++ rest) = some (value, rest) := by
  rw [readBytesToUInt64_encode_mod io narrow, Nat.mod_eq_of_lt fits]

theorem readNonce_bytes (nonce : DiversificationNonce) (rest : List UInt8) :
    readNonce (nonce.bytes ++ rest) = some (nonce, rest) := by
  have enough : kDiversificationNonceSize ≤ (nonce.bytes ++ rest).length := by
    rw [List.length_append, nonce.length_bytes]
    exact Nat.le_add_right _ _
  have same : (nonce.bytes ++ rest).take kDiversificationNonceSize = nonce.bytes :=
    List.take_left' nonce.length_bytes
  rw [readNonce, dif_pos enough, List.drop_left' nonce.length_bytes]
  congr 2
  exact DiversificationNonce.ext same

theorem processConnectionId_wire (narrow : header.connectionId < 2 ^ 64) {flags : Nat}
    (reads : decide (flags &&& packetPublicFlags8ByteConnectionId =
      packetPublicFlags8ByteConnectionId) =
        decide (header.connectionIdLength = .packet8ByteConnectionId)) (rest : List UInt8) :
    processConnectionId io receiver flags
        (BigEndian.encode header.connectionIdLength.bytes header.connectionId ++ rest) =
      some (receivedConnectionId receiver header, header.connectionIdLength, rest) := by
  have iff := decide_eq_decide.mp reads
  unfold processConnectionId receivedConnectionId
  cases length : header.connectionIdLength with
  | packet0ByteConnectionId =>
      have absent : ¬flags &&& packetPublicFlags8ByteConnectionId =
          packetPublicFlags8ByteConnectionId := by
        rw [iff, length]
        decide
      rw [if_neg absent]
      rfl
  | packet8ByteConnectionId =>
      have read := readBytesToUInt64_encode io (by decide : 8 ≤ 8)
        (narrow : header.connectionId < 256 ^ 8) rest
      rw [if_pos (iff.mpr length), QuicConnectionIdLength.bytes, read]
      rfl

theorem processNonce_wire {perspective : Perspective} (wellFormed : header.WellFormed perspective)
    (faces : receiver.perspective = perspective.other) (rest : List UInt8) :
    processNonce (publicFlags perspective header)
        ((header.nonce.map DiversificationNonce.bytes).getD [] ++ rest) receiver =
      (.ok (header.nonce, rest),
        { receiver with lastNonce := header.nonce.or receiver.lastNonce }) := by
  have reads := readsPublicFlags_header perspective header
  unfold processNonce
  cases some : header.nonce with
  | none =>
      have absent : ¬(publicFlags perspective header &&& packetPublicFlagsNonce ≠ 0 ∧
          publicFlags perspective header &&& packetPublicFlagsVersion = 0 ∧
          publicFlags perspective header &&& packetPublicFlagsRst = 0 ∧
          receiver.perspective = .isClient) := by
        rintro ⟨flagged, _, _, client⟩
        rw [faces] at client
        have server : decide (perspective = .isClient) = false := by
          cases perspective with
          | isServer => rfl
          | isClient => cases client
        have unflagged := reads.nonce server
        rw [some] at unflagged
        simp at unflagged
        exact flagged unflagged
      rw [if_neg absent]
      rfl
  | some nonce =>
      have server := wellFormed.nonce (by rw [some]; simp)
      have noVersion : header.versionFlag = false := by
        by_contra flagged
        have client := wellFormed.version (by simpa using flagged)
        rw [server] at client
        cases client
      have present : publicFlags perspective header &&& packetPublicFlagsNonce ≠ 0 ∧
          publicFlags perspective header &&& packetPublicFlagsVersion = 0 ∧
          publicFlags perspective header &&& packetPublicFlagsRst = 0 ∧
          receiver.perspective = .isClient := by
        have nonceRead := reads.nonce (by rw [server]; rfl)
        have versionRead := reads.version
        have resetRead := reads.reset
        rw [noVersion] at versionRead
        rw [wellFormed.data] at resetRead
        rw [some] at nonceRead
        refine ⟨by simpa using nonceRead, by simpa using versionRead, by simpa using resetRead, ?_⟩
        rw [faces, server]
        rfl
      rw [if_pos present, Option.map_some, Option.getD_some, readNonce_bytes]
      rfl

/-- The other side restores a packet number in its window. -/
theorem processPacketNumber_wire {labels : VersionLabels Version} (some : header.packetNumber ≠ 0)
    (narrow : header.packetNumber < 2 ^ 64) (baseNarrow : receiver.largestPacketNumber + 1 < 2 ^ 64)
    (window : InWindow header.packetNumberLength receiver.largestPacketNumber header.packetNumber)
    (rest : List UInt8) :
    processPacketNumber io (receivedHeader version receiver header 0)
        (BigEndian.encode header.packetNumberLength.bytes header.packetNumber ++ rest)
        (receivedState version receiver header labels) =
      .ok (receivedHeader version receiver header header.packetNumber, rest) := by
  have read := readBytesToUInt64_encode_mod io (bytes_le_eight header.packetNumberLength)
    header.packetNumber rest
  have restored := calculatePacketNumberFromWire_of_inWindow window baseNarrow narrow
  unfold processPacketNumber
  rw [show (receivedHeader version receiver header 0).packetNumberLength =
    header.packetNumberLength from rfl, read]
  dsimp only
  rw [show (receivedState version receiver header labels).largestPacketNumber =
    receiver.largestPacketNumber from rfl, restored, if_neg some]
  rfl

variable [DecidableEq Version] {labels : VersionLabels Version}

theorem processVersion_wire {perspective : Perspective} (wellFormed : header.WellFormed perspective)
    (faces : receiver.perspective = perspective.other) {flags : Nat}
    (legal : flags ≤ packetPublicFlagsMax) (rest : List UInt8) :
    processVersion io labels header.versionFlag flags
        ((if header.versionFlag then BigEndian.encode 4 (labels.createQuicVersionLabel version)
          else []) ++ rest) receiver =
      (.ok (if header.versionFlag then some version else none, rest),
        { receiver with
          lastVersionLabel := if header.versionFlag then labels.createQuicVersionLabel version
            else receiver.lastVersionLabel }) := by
  unfold processVersion
  cases flagged : header.versionFlag with
  | false => simp
  | true =>
      have server : receiver.perspective = .isServer := by
        rw [faces, wellFormed.version flagged]
        rfl
      have read := readBytesToUInt64_encode io (by decide : 4 ≤ 8)
        (labels.createQuicVersionLabel_lt version : _ < 256 ^ 4) rest
      simp only [server, and_self, if_true, read, labels.parse_create, Nat.not_lt.mpr legal,
        and_false, if_false]

/-- The other side reads a public header as it was written. -/
theorem processPublicHeader_wire {perspective : Perspective}
    (wellFormed : header.WellFormed perspective)
    (faces : receiver.perspective = perspective.other) (rest : List UInt8) :
    processPublicHeader io labels
        (publicHeaderWire labels perspective version header ++ rest) receiver =
      (.ok (receivedHeader version receiver header 0, rest),
        receivedState version receiver header labels) := by
  have reads := readsPublicFlags_header perspective header
  have isByte : publicFlags perspective header < 256 ^ 1 :=
    Nat.lt_of_le_of_lt reads.legal (by decide)
  have number : readSequenceNumberLength
      (publicFlags perspective header >>> kPublicHeaderSequenceNumberShift) =
        header.packetNumberLength := reads.number.trans wellFormed.flagged
  have legal : ¬packetPublicFlagsMax < publicFlags perspective header := Nat.not_lt.mpr reads.legal
  unfold processPublicHeader publicHeaderWire
  simp only [List.append_assoc]
  rw [readBytesToUInt64_encode io (by decide) isByte]
  dsimp only
  unfold processAfterFlags
  rw [reads.reset, reads.version, wellFormed.data, number]
  simp only [legal, and_false, if_false, Bool.false_eq_true, false_and]
  rw [processConnectionId_wire io wellFormed.connectionId_lt reads.connectionId]
  dsimp only
  rw [processVersion_wire io wellFormed faces reads.legal]
  dsimp only
  rw [processNonce_wire wellFormed]
  · rw [← wellFormed.data]
    rfl
  · exact faces

end Reading

end StupidSimple.Quic
