import Mathlib.Data.List.Forall2
import StupidSimple.Quic.PacketExchange

/-!
Owns runs of packets through one framer: `packets_authentic` for whatever bytes arrive, and
`packets_delivered` for packets that arrive with their numbers in the window.
-/

namespace StupidSimple.Quic

open StupidSimple.Library

variable {Version Encrypter Decrypter : Type}

section Runs

variable [DecidableEq Version] (env : PacketEnv Version Encrypter Decrypter)

/-- What is reported of each packet, and the framer behind the last one. -/
def processPackets : List (List UInt8) → PacketFramer Version Decrypter →
    List (List (PacketCall Version)) × PacketFramer Version Decrypter
  | [], framer => ([], framer)
  | packet :: rest, framer =>
      let processed := processPacket env (.goOn Version) packet framer
      let later := processPackets rest processed.framer
      (processed.calls :: later.1, later.2)

variable {env} {Key : Decrypter → Prop} {perspective : Perspective} {version : Version}
  {sent : List (DataPacket Version perspective)}

theorem processPackets_authentic (authentic : Authentic env version Key sent)
    (closed : ∀ decrypter nonce, Key decrypter →
      Key (env.crypto.setDiversificationNonce decrypter nonce))
    {receiver : HeaderState Version} (packets : List (List UInt8)) :
    ∀ {framer}, Listening Key perspective receiver framer →
      (∀ calls ∈ (processPackets env packets framer).1, Genuine env version receiver sent calls) ∧
      ((processPackets env packets framer).2.headers.largestPacketNumber =
          framer.headers.largestPacketNumber ∨
        ∃ packet ∈ sent, (processPackets env packets framer).2.headers.largestPacketNumber =
          packet.header.packetNumber) := by
  induction packets with
  | nil =>
      intro framer listening
      exact ⟨fun calls member => absurd member List.not_mem_nil, Or.inl rfl⟩
  | cons packet rest inductionHypothesis =>
      intro framer listening
      have ⟨goesOn, own, number⟩ := processPacket_authentic authentic closed listening packet
      have ⟨others, largest⟩ := inductionHypothesis goesOn
      constructor
      · intro calls member
        rcases List.mem_cons.mp member with rfl | later
        · exact own
        · exact others calls later
      · rcases largest with same | sentLater
        · rw [processPackets]
          dsimp only
          rw [same]
          exact number
        · exact Or.inr sentLater

/-- Whatever bytes arrive, in whatever order: a framer reports nothing but packets that the
other side built, each with its own packet number and its own frames, and expects no number
beyond those that were sent. -/
theorem packets_authentic (authentic : Authentic env version Key sent)
    (closed : ∀ decrypter nonce, Key decrypter →
      Key (env.crypto.setDiversificationNonce decrypter nonce))
    {framer : PacketFramer Version Decrypter} (held : KeysHeld Key framer.keys)
    (faces : framer.headers.perspective = perspective.other) (packets : List (List UInt8)) :
    (∀ calls ∈ (processPackets env packets framer).1,
      Genuine env version framer.headers sent calls) ∧
    ((processPackets env packets framer).2.headers.largestPacketNumber =
        framer.headers.largestPacketNumber ∨
      ∃ packet ∈ sent, (processPackets env packets framer).2.headers.largestPacketNumber =
        packet.header.packetNumber) :=
  processPackets_authentic authentic closed packets ⟨faces, rfl, held⟩

end Runs

/-! ### Packets in their windows -/

section Delivery

variable (env : PacketEnv Version Encrypter Decrypter) {perspective : Perspective}

/-- A packet on its way: built, and encrypted in place. -/
def DataPacket.send (packet : DataPacket Version perspective) (encrypter : Encrypter)
    (bufferLen : Nat) (sender : HeaderState Version) : List UInt8 :=
  encryptInPlace env.crypto encrypter packet.header.packetNumber
    packet.header.size bufferLen
    (buildDataPacket env.io env.labels packet.header packet.frames packet.packetLength sender).1

/-- The packet can be encrypted within the buffer. -/
def DataPacket.Encrypted (packet : DataPacket Version perspective) (encrypter : Encrypter)
    (bufferLen : Nat) (version : Version) : Prop :=
  ∃ ciphertext, env.crypto.encryptPacket encrypter packet.header.packetNumber
      (packet.associatedData env.labels version) (packet.plaintext env.io) = some ciphertext ∧
    packet.header.size + ciphertext.length ≤ bufferLen

variable {env}

theorem DataPacket.send_eq {packet : DataPacket Version perspective} {encrypter : Encrypter}
    {bufferLen : Nat} {sender : HeaderState Version} (own : sender.perspective = perspective)
    (encrypted : packet.Encrypted env encrypter bufferLen sender.version) :
    ∃ ciphertext, env.crypto.encryptPacket encrypter packet.header.packetNumber
        (packet.associatedData env.labels sender.version) (packet.plaintext env.io) =
          some ciphertext ∧
      packet.send env encrypter bufferLen sender =
        packet.associatedData env.labels sender.version ++ ciphertext ∧
      (packet.send env encrypter bufferLen sender).length ≤ bufferLen := by
  have ⟨ciphertext, made, fits⟩ := encrypted
  have length : (packet.associatedData env.labels sender.version).length =
      packet.header.size := length_headerWire _ _ _ _
  have sent : packet.send env encrypter bufferLen sender =
      packet.associatedData env.labels sender.version ++ ciphertext := by
    have short : ciphertext.length ≤ bufferLen - packet.header.size := by omega
    unfold send encryptInPlace
    rw [packet.buildDataPacket_eq env.io env.labels own, List.take_left' length,
      List.drop_left' length, made, Option.filter_some, if_pos (decide_eq_true short)]
  refine ⟨ciphertext, made, sent, ?_⟩
  rw [sent, List.length_append, length]
  exact fits

/-- The calls in front of the frames of a packet that is delivered. -/
def headerCalls (publicHeader header : QuicPublicHeader Version) (level : EncryptionLevel) :
    List (PacketCall Version) :=
  [.onPacket, .onUnauthenticatedPublicHeader publicHeader, .onUnauthenticatedHeader header,
    .onDecryptedPacket level, .onPacketHeader header]

/-- What is reported of a packet that is delivered. -/
def Delivered (env : PacketEnv Version Encrypter Decrypter) (version : Version)
    (receiver : HeaderState Version) (level : EncryptionLevel)
    (packet : DataPacket Version perspective) (calls : List (PacketCall Version)) : Prop :=
  ∃ frameCalls, ReportedFrames ⟨env.io, env.limits, packet.header.packetHeader⟩ packet.room 0
      packet.frames frameCalls ∧
    calls = headerCalls (receivedHeader version receiver packet.header 0)
        (receivedHeader version receiver packet.header packet.header.packetNumber) level ++
      (frameCalls.map .onFrame ++ [.onPacketComplete])

/-- The framer behind a packet that is delivered. -/
def deliveredState (env : PacketEnv Version Encrypter Decrypter) (version : Version)
    (packet : DataPacket Version perspective) (framer : PacketFramer Version Decrypter) :
    PacketFramer Version Decrypter where
  headers := { receivedState version framer.headers packet.header env.labels with
    largestPacketNumber := max packet.header.packetNumber framer.headers.largestPacketNumber }
  keys := framer.keys

/-- The first decrypter that opens a payload stays the first. -/
theorem decryptPayload_first {keys : DecrypterState Decrypter}
    {header : QuicPublicHeader Version} {associatedData ciphertext plaintext : List UInt8}
    (opens : env.crypto.decryptPacket keys.decrypter header.packetNumber associatedData
      ciphertext = some plaintext) (perspective : Perspective) :
    decryptPayload env.crypto perspective header associatedData ciphertext keys =
      (some (plaintext, keys.decrypterLevel), keys) := by
  unfold decryptPayload
  rw [opens]

/-- A packet whose header is read, and whose payload opens, is reported. -/
theorem processDataPacket_opens {publicHeader header : QuicPublicHeader Version}
    {bytes unread encrypted plaintext : List UInt8} {framer : PacketFramer Version Decrypter}
    {level : EncryptionLevel} {keys : DecrypterState Decrypter}
    (numberRead : processPacketNumber env.io publicHeader unread framer.headers =
      .ok (header, encrypted))
    (decrypted : decryptPayload env.crypto framer.headers.perspective header
      (bytes.take header.size) encrypted framer.keys =
        (some (plaintext, level), keys)) :
    processDataPacket env (.goOn Version) publicHeader bytes unread framer =
      (processPayload env (.goOn Version) header bytes.length plaintext
        ⟨{ framer.headers with
            largestPacketNumber := max header.packetNumber framer.headers.largestPacketNumber },
          keys⟩).behind
        [.onUnauthenticatedHeader header, .onDecryptedPacket level, .onPacketHeader header] := by
  have goesOn : ¬¬(PacketAnswers.goOn Version).onUnauthenticatedHeader header = true := by
    simp [PacketAnswers.goOn]
  unfold processDataPacket processEncrypted
  rw [numberRead]
  dsimp only
  rw [if_neg goesOn, getAssociatedDataFromEncryptedPacket_eq, decrypted]
  rfl

theorem Delivered.congr {version : Version} {receiver other : HeaderState Version}
    (same : receiver.lastSerializedConnectionId = other.lastSerializedConnectionId)
    {level : EncryptionLevel} {packet : DataPacket Version perspective}
    {calls : List (PacketCall Version)}
    (delivered : Delivered env version receiver level packet calls) :
    Delivered env version other level packet calls := by
  have ⟨frameCalls, reported, all⟩ := delivered
  refine ⟨frameCalls, reported, ?_⟩
  rw [all, receivedHeader_congr same, receivedHeader_congr same]

variable [DecidableEq Version]

theorem processPacket_data {bytes unread : List UInt8} {framer : PacketFramer Version Decrypter}
    {publicHeader : QuicPublicHeader Version} {headers : HeaderState Version}
    (publicRead : processPublicHeader env.io env.labels bytes framer.headers =
      (.ok (publicHeader, unread), headers))
    (data : publicHeader.resetFlag = false)
    (toServer : publicHeader.versionFlag = true →
      headers.perspective = .isServer ∧ publicHeader.version = some headers.version) :
    processPacket env (.goOn Version) bytes framer =
      (processDataPacket env (.goOn Version) publicHeader bytes unread
        { framer with headers }).behind
        [.onPacket, .onUnauthenticatedPublicHeader publicHeader] := by
  have goesOn : ¬¬(PacketAnswers.goOn Version).onUnauthenticatedPublicHeader publicHeader =
      true := by
    simp [PacketAnswers.goOn]
  have matching : ¬(headers.perspective = .isServer ∧ publicHeader.versionFlag = true ∧
      publicHeader.version ≠ some headers.version) := by
    rintro ⟨_, flagged, mismatch⟩
    exact mismatch (toServer flagged).2
  have noNegotiation : ¬(headers.perspective = .isClient ∧ publicHeader.versionFlag = true) := by
    rintro ⟨client, flagged⟩
    rw [(toServer flagged).1] at client
    cases client
  have noReset : ¬publicHeader.resetFlag = true := by simp [data]
  unfold processPacket
  rw [publicRead]
  dsimp only
  rw [if_neg goesOn, if_neg matching, processKind, if_neg noNegotiation, if_neg noReset]

/-- A packet in its window is delivered, and raises the largest number. -/
theorem processPacket_delivered {packet : DataPacket Version perspective}
    {framer : PacketFramer Version Decrypter} {ciphertext : List UInt8}
    (faces : framer.headers.perspective = perspective.other)
    (baseNarrow : framer.headers.largestPacketNumber + 1 < 2 ^ 64)
    (window : InWindow packet.header.packetNumberLength framer.headers.largestPacketNumber
      packet.header.packetNumber)
    {level : EncryptionLevel} {keys : DecrypterState Decrypter}
    (decrypted : decryptPayload env.crypto framer.headers.perspective
      (receivedHeader framer.headers.version framer.headers packet.header
        packet.header.packetNumber)
      (packet.associatedData env.labels framer.headers.version) ciphertext framer.keys =
        (some (packet.plaintext env.io, level), keys))
    (short : (packet.associatedData env.labels framer.headers.version ++ ciphertext).length ≤
      kMaxPacketSize) :
    Delivered env framer.headers.version framer.headers level packet
      (processPacket env (.goOn Version)
        (packet.associatedData env.labels framer.headers.version ++ ciphertext) framer).calls ∧
    (processPacket env (.goOn Version)
      (packet.associatedData env.labels framer.headers.version ++ ciphertext) framer).framer =
        { deliveredState env framer.headers.version packet framer with keys } := by
  have length : (packet.associatedData env.labels framer.headers.version).length =
      packet.header.size := length_headerWire _ _ _ _
  have split : packet.associatedData env.labels framer.headers.version ++ ciphertext =
      publicHeaderWire env.labels perspective framer.headers.version packet.header ++
        (BigEndian.encode packet.header.packetNumberLength.bytes packet.header.packetNumber ++
          ciphertext) := List.append_assoc _ _ _
  have publicRead : processPublicHeader env.io env.labels
      (packet.associatedData env.labels framer.headers.version ++ ciphertext) framer.headers =
        (.ok (receivedHeader framer.headers.version framer.headers packet.header 0,
          BigEndian.encode packet.header.packetNumberLength.bytes packet.header.packetNumber ++
            ciphertext),
          receivedState framer.headers.version framer.headers packet.header env.labels) := by
    rw [split]
    exact processPublicHeader_wire env.io packet.wellFormed faces _
  have numberRead : processPacketNumber env.io
      (receivedHeader framer.headers.version framer.headers packet.header 0)
      (BigEndian.encode packet.header.packetNumberLength.bytes packet.header.packetNumber ++
        ciphertext)
      (receivedState framer.headers.version framer.headers packet.header env.labels) =
        .ok (receivedHeader framer.headers.version framer.headers packet.header
          packet.header.packetNumber, ciphertext) :=
    processPacketNumber_wire env.io packet.packetNumber_ne_zero
      (Nat.lt_of_succ_lt packet.packetNumber_lt) baseNarrow window ciphertext
  have toServer : packet.header.versionFlag = true →
      framer.headers.perspective = .isServer ∧
        (receivedHeader framer.headers.version framer.headers packet.header 0).version =
          some framer.headers.version := by
    intro flagged
    exact ⟨faces.trans (congrArg Perspective.other (packet.wellFormed.version flagged)),
      if_pos flagged⟩
  have opened : processDataPacket env (.goOn Version)
      (receivedHeader framer.headers.version framer.headers packet.header 0)
      (packet.associatedData env.labels framer.headers.version ++ ciphertext)
      (BigEndian.encode packet.header.packetNumberLength.bytes packet.header.packetNumber ++
        ciphertext)
      ⟨receivedState framer.headers.version framer.headers packet.header env.labels,
        framer.keys⟩ = _ := processDataPacket_opens numberRead
    ((congrArg (decryptPayload env.crypto _ _ · _ _) (List.take_left' length)).trans decrypted)
  have ⟨frameCalls, reported, payload⟩ := processPayload_sent env framer.headers.version
    framer.headers packet
    (packet.associatedData env.labels framer.headers.version ++ ciphertext).length
    { deliveredState env framer.headers.version packet framer with keys }
  rw [if_neg (Nat.not_lt.mpr short)] at payload
  rw [processPacket_data publicRead packet.wellFormed.data toServer, opened]
  constructor
  · refine ⟨frameCalls, reported, ?_⟩
    rw [← payload]
    rfl
  · exact processPayload_framer env _ _ _ _

/-- Each packet arrives in the window of the largest number before it. -/
def InWindows : (largest : Nat) → List (DataPacket Version perspective) → Prop
  | _, [] => True
  | largest, packet :: rest =>
      InWindow packet.header.packetNumberLength largest packet.header.packetNumber ∧
        InWindows (max packet.header.packetNumber largest) rest

/-- The decrypter undoes what the encrypter does. -/
def Decrypts (crypto : Crypto Encrypter Decrypter) (encrypter : Encrypter)
    (decrypter : Decrypter) : Prop :=
  ∀ packetNumber associatedData plaintext ciphertext,
    crypto.encryptPacket encrypter packetNumber associatedData plaintext = some ciphertext →
    crypto.decryptPacket decrypter packetNumber associatedData ciphertext = some plaintext

/-- Packets that arrive in their windows, lost, repeated and reordered ones among them, are
delivered one by one: each with the header and the frames that were sent. -/
theorem packets_delivered {encrypter : Encrypter} {bufferLen : Nat}
    (bufferShort : bufferLen ≤ kMaxPacketSize) {sender : HeaderState Version}
    (own : sender.perspective = perspective) {receiver : PacketFramer Version Decrypter}
    (faces : receiver.headers.perspective = perspective.other)
    (versions : receiver.headers.version = sender.version)
    (decrypts : Decrypts env.crypto encrypter receiver.keys.decrypter)
    (arrivals : List (DataPacket Version perspective))
    (encrypted : ∀ packet ∈ arrivals, packet.Encrypted env encrypter bufferLen sender.version)
    (narrow : receiver.headers.largestPacketNumber + 1 < 2 ^ 64)
    (windows : InWindows receiver.headers.largestPacketNumber arrivals) :
    List.Forall₂
        (Delivered env sender.version receiver.headers receiver.keys.decrypterLevel) arrivals
        (processPackets env
          (arrivals.map fun packet => packet.send env encrypter bufferLen sender) receiver).1 ∧
      (processPackets env
        (arrivals.map fun packet => packet.send env encrypter bufferLen sender)
        receiver).2.headers.largestPacketNumber =
          (arrivals.map fun packet => packet.header.packetNumber).foldl max
            receiver.headers.largestPacketNumber := by
  induction arrivals generalizing receiver with
  | nil => exact ⟨.nil, rfl⟩
  | cons packet rest inductionHypothesis =>
      have ⟨packetEncrypted, others⟩ := List.forall_mem_cons.mp encrypted
      have ⟨ciphertext, made, sent, fits⟩ := DataPacket.send_eq own packetEncrypted
      have ⟨delivered, after⟩ := processPacket_delivered faces narrow windows.1
        (decryptPayload_first (versions ▸ decrypts _ _ _ _ made) _)
        (by rw [versions, ← sent]; omega)
      rw [versions, ← sent] at delivered after
      have stillNarrow : max packet.header.packetNumber receiver.headers.largestPacketNumber + 1 <
          2 ^ 64 := by
        have := packet.packetNumber_lt
        omega
      let next := deliveredState env sender.version packet receiver
      have facesNext : next.headers.perspective = perspective.other := faces
      have ⟨later, largest⟩ :=
        inductionHypothesis facesNext versions decrypts others stillNarrow windows.2
      rw [List.map_cons, processPackets, after]
      constructor
      · apply List.Forall₂.cons delivered
        exact later.imp fun _ _ => Delivered.congr rfl
      · rw [List.map_cons, List.foldl_cons, Nat.max_comm]
        exact largest

end Delivery

/-! ### An ideal cipher -/

section Ideal

/-- A cipher that seals just the packets that were sent, and opens nothing else. -/
def idealSeal {perspective : Perspective} (io : QuicData) (labels : VersionLabels Version)
    (version : Version) (sent : List (DataPacket Version perspective)) (packetNumber : Nat)
    (associatedData text : List UInt8) : Option (List UInt8) :=
  if (packetNumber, associatedData, text) ∈ sent.map fun packet =>
      (packet.header.packetNumber, packet.associatedData labels version, packet.plaintext io) then
    some text
  else none

/-- Version 43 and its label. -/
def singleVersion : VersionLabels Unit where
  createQuicVersionLabel _ := 0x51303433
  parseQuicVersionLabel label := if label = 0x51303433 then some () else none
  createQuicVersionLabel_lt _ := by decide
  parse_create _ := rfl

def clientHeader (packetNumber : Nat) (versionFlag : Bool) : QuicPublicHeader Unit where
  connectionId := 7
  connectionIdLength := .packet8ByteConnectionId
  resetFlag := false
  versionFlag
  packetNumberLength := .packet2Byte
  version := none
  nonce := none
  packetNumber

theorem clientHeader_wellFormed (packetNumber : Nat) (versionFlag : Bool) :
    (clientHeader packetNumber versionFlag).WellFormed .isClient where
  data := rfl
  flagged := (rfl : readSequenceNumberLength 1 = .packet2Byte)
  connectionId_lt := (by decide : 7 < 2 ^ 64)
  version _ := rfl
  nonce some := absurd rfl some

/-- The first packet of a client, with its version. -/
def firstPacket : DataPacket Unit .isClient where
  header := clientHeader 1 true
  frames := [.ping, .padding (-1)]
  packetLength := 24
  wellFormed := clientHeader_wellFormed 1 true
  packetNumber_ne_zero := by decide
  packetNumber_lt := by decide
  someFrames := by decide
  framesWellFormed := by
    intro frame member
    rcases List.mem_pair.mp member with rfl | rfl
    · trivial
    · exact Or.inl rfl
  headerFits := by decide
  framesFit := ⟨by decide, by decide, trivial⟩

def laterPacket : DataPacket Unit .isClient where
  header := clientHeader 300 false
  frames := [.stream ⟨5, true, 0, [1, 2, 3], 3⟩]
  packetLength := 40
  wellFormed := clientHeader_wellFormed 300 false
  packetNumber_ne_zero := by decide
  packetNumber_lt := by decide
  someFrames := by decide
  framesWellFormed := by
    intro frame member
    obtain rfl := List.mem_singleton.mp member
    exact ⟨by decide, by decide, rfl, by decide⟩
  headerFits := by decide
  framesFit := ⟨by decide, trivial⟩

def idealEnv : PacketEnv Unit Unit Unit where
  io := .networkOrder
  limits := plainEnv.limits
  labels := singleVersion
  crypto :=
    { encryptPacket := fun _ => idealSeal .networkOrder singleVersion () [firstPacket, laterPacket]
      decryptPacket := fun _ => idealSeal .networkOrder singleVersion () [firstPacket, laterPacket]
      setDiversificationNonce := fun decrypter _ => decrypter }
  parseMessage _ := none
  getStartOfEncryptedData connectionIdLength includesVersion includesNonce packetNumberLength :=
    1 + connectionIdLength.bytes + (if includesVersion then 4 else 0) + packetNumberLength.bytes +
      (if includesNonce then 32 else 0)
  getStartOfEncryptedData_header _ := rfl

def freshHeaders (perspective : Perspective) : HeaderState Unit where
  perspective
  version := ()
  validateFlags := true
  largestPacketNumber := 0
  lastSerializedConnectionId := 0
  lastVersionLabel := 0
  lastNonce := none

def freshServer : PacketFramer Unit Unit where
  headers := freshHeaders .isServer
  keys := ⟨(), .none, none, .none, false⟩

theorem idealEnv_authentic :
    Authentic idealEnv () (fun _ => True) [firstPacket, laterPacket] := by
  intro decrypter packetNumber associatedData ciphertext plaintext _ opens
  change idealSeal .networkOrder singleVersion () [firstPacket, laterPacket] packetNumber
    associatedData ciphertext = some plaintext at opens
  unfold idealSeal at opens
  split_ifs at opens with sealed
  cases opens
  obtain ⟨packet, member, same⟩ := List.mem_map.mp sealed
  cases same
  exact ⟨packet, member, rfl, rfl, rfl⟩

theorem encrypted_of_mem {packet : DataPacket Unit .isClient}
    (member : packet ∈ [firstPacket, laterPacket]) : packet.Encrypted idealEnv () 100 () := by
  refine ⟨packet.plaintext idealEnv.io, if_pos (List.mem_map_of_mem member), ?_⟩
  rcases List.mem_pair.mp member with rfl | rfl <;> decide +kernel

/-- A packet that is too short, one with unknown flags, and a real one. -/
theorem packets_authentic_idealEnv :
    (∀ calls ∈ (processPackets idealEnv
        [[], [0xff, 1], firstPacket.send idealEnv () 100 (freshHeaders .isClient)]
        freshServer).1,
      Genuine idealEnv () freshServer.headers [firstPacket, laterPacket] calls) ∧
    (processPackets idealEnv
        [[], [0xff, 1], firstPacket.send idealEnv () 100 (freshHeaders .isClient)]
        freshServer).2.headers.largestPacketNumber = firstPacket.header.packetNumber := by
  refine ⟨?_, by decide +kernel⟩
  exact (packets_authentic idealEnv_authentic (fun _ _ _ => trivial)
    ⟨trivial, fun _ _ => trivial⟩ rfl _).1

/-- A later packet first, and a second time behind the first one. -/
theorem packets_delivered_idealEnv :
    List.Forall₂ (Delivered idealEnv () freshServer.headers .none)
      [laterPacket, firstPacket, laterPacket]
      (processPackets idealEnv ([laterPacket, firstPacket, laterPacket].map fun packet =>
        packet.send idealEnv () 100 (freshHeaders .isClient)) freshServer).1 := by
  have decrypts : Decrypts idealEnv.crypto () freshServer.keys.decrypter := by
    intro packetNumber associatedData plaintext ciphertext sealed
    have same : ciphertext = plaintext := by
      change idealSeal .networkOrder singleVersion () [firstPacket, laterPacket] packetNumber
        associatedData plaintext = some ciphertext at sealed
      unfold idealSeal at sealed
      split_ifs at sealed
      exact (Option.some.inj sealed).symm
    rw [same] at sealed ⊢
    exact sealed
  have encrypted : ∀ packet ∈ [laterPacket, firstPacket, laterPacket],
      packet.Encrypted idealEnv () 100 () := by
    intro packet member
    apply encrypted_of_mem
    simp only [List.mem_cons] at member ⊢
    tauto
  have own : (freshHeaders .isClient).perspective = .isClient := rfl
  have bufferShort : 100 ≤ kMaxPacketSize := by decide
  exact (packets_delivered bufferShort own rfl rfl decrypts _ encrypted (by decide)
    ⟨by decide, by decide, by decide, trivial⟩).1

end Ideal

end StupidSimple.Quic
