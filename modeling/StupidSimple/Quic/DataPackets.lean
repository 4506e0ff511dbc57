import StupidSimple.Quic.PacketHeader
import StupidSimple.Quic.FrameEncode

/-!
Owns whole packets of `MyQuicFramer`: `BuildDataPacket` with `EncryptInPlace` on one side,
`ProcessPacket` on the other one. Encryption and the parser of public resets are not part
of the repository; a packet buffer always has room for what is decrypted.
-/

namespace StupidSimple.Quic

open StupidSimple.Library

inductive EncryptionLevel where
  | none
  | initial
  | forwardSecure
deriving DecidableEq, Repr

/-- `QuicEncrypter` and `QuicDecrypter`. -/
structure Crypto (Encrypter Decrypter : Type) where
  encryptPacket : Encrypter → (packetNumber : Nat) → (associatedData plaintext : List UInt8) →
    Option (List UInt8)
  decryptPacket : Decrypter → (packetNumber : Nat) → (associatedData ciphertext : List UInt8) →
    Option (List UInt8)
  setDiversificationNonce : Decrypter → DiversificationNonce → Decrypter

/-- The decrypters of a framer. -/
structure DecrypterState (Decrypter : Type) where
  decrypter : Decrypter
  decrypterLevel : EncryptionLevel
  alternativeDecrypter : Option Decrypter
  alternativeDecrypterLevel : EncryptionLevel
  alternativeDecrypterLatch : Bool
deriving DecidableEq

inductive PacketErrorCode where
  | invalidPacketHeader
  | decryptionFailure
  | packetTooLarge
  | invalidVersionNegotiationPacket
  | invalidPublicRstPacket
  | invalidFrames (code : QuicErrorCode)
deriving DecidableEq, Repr

/-- A call of the visitor for a packet, those for its frames among them. -/
inductive PacketCall (Version : Type) where
  | onPacket
  | onUnauthenticatedPublicHeader (header : QuicPublicHeader Version)
  | onProtocolVersionMismatch (receivedVersion : Option Version)
  | onVersionNegotiationPacket (connectionId : Nat) (versions : List (Option Version))
  | onPublicResetPacket (connectionId nonceProof : Nat)
  | onUnauthenticatedHeader (header : QuicPublicHeader Version)
  | onDecryptedPacket (level : EncryptionLevel)
  | onPacketHeader (header : QuicPublicHeader Version)
  | onFrame (call : VisitorCall)
  | onPacketComplete
  | onError (code : PacketErrorCode)
deriving DecidableEq

/-- What the visitor answers for a packet. For frames it goes on. -/
structure PacketAnswers (Version : Type) where
  onUnauthenticatedPublicHeader : QuicPublicHeader Version → Bool
  onProtocolVersionMismatch : Option Version → Bool
  onUnauthenticatedHeader : QuicPublicHeader Version → Bool
  onPacketHeader : QuicPublicHeader Version → Bool

/-- `AbstractQuicFramerVisitor`. -/
def PacketAnswers.goOn (Version : Type) : PacketAnswers Version where
  onUnauthenticatedPublicHeader _ := true
  onProtocolVersionMismatch _ := true
  onUnauthenticatedHeader _ := true
  onPacketHeader _ := true

/-- A handshake message, as far as a public reset has it. -/
structure ResetMessage where
  isPublicReset : Bool
  nonceProof : Option Nat

/-- The library values that framers depend on. -/
structure PacketEnv (Version Encrypter Decrypter : Type) where
  io : QuicData
  limits : ErrorLimits
  labels : VersionLabels Version
  crypto : Crypto Encrypter Decrypter
  parseMessage : List UInt8 → Option ResetMessage
  getStartOfEncryptedData : (connectionIdLength : QuicConnectionIdLength) →
    (includesVersion includesDiversificationNonce : Bool) →
    (packetNumberLength : QuicPacketNumberLength) → Nat
  getStartOfEncryptedData_header : ∀ header : QuicPublicHeader Version,
    getStartOfEncryptedData header.connectionIdLength header.versionFlag header.nonce.isSome
      header.packetNumberLength = header.size

/-- The members of `MyQuicFramer` that reading depends on. -/
structure PacketFramer (Version Decrypter : Type) where
  headers : HeaderState Version
  keys : DecrypterState Decrypter
deriving DecidableEq

/-- What came of a packet: the text of `detailed_error_` where the source returns false. -/
structure Processed (Version Decrypter : Type) where
  result : Except String Unit
  framer : PacketFramer Version Decrypter
  calls : List (PacketCall Version)

variable {Version Encrypter Decrypter : Type}

def Processed.behind (calls : List (PacketCall Version)) (processed : Processed Version Decrypter) :
    Processed Version Decrypter :=
  { processed with calls := calls ++ processed.calls }

/-! ### Writing -/

section Writing

variable (io : QuicData) (labels : VersionLabels Version)

/-- `BuildDataPacket`; an empty result is a failure. -/
def buildDataPacket (header : QuicPublicHeader Version) (frames : List QuicFrame)
    (packetLength : Nat) (framer : HeaderState Version) : List UInt8 × HeaderState Version :=
  match appendPacketHeader io labels header (.create packetLength) framer with
  | (none, framer) => ([], framer)
  | (some writer, framer) =>
      (((appendFrames io header.packetHeader frames writer).map QuicDataWriter.bytes).getD [],
        framer)

/-- `EncryptInPlace`: what stands behind the first `adLen` bytes is encrypted into the room
of the buffer. An empty result is a failure. -/
def encryptInPlace (crypto : Crypto Encrypter Decrypter) (encrypter : Encrypter)
    (packetNumber adLen bufferLen : Nat) (buffer : List UInt8) : List UInt8 :=
  match (crypto.encryptPacket encrypter packetNumber (buffer.take adLen) (buffer.drop adLen)).filter
      (·.length ≤ bufferLen - adLen) with
  | none => []
  | some ciphertext => buffer.take adLen ++ ciphertext

end Writing

/-! ### Decryption -/

/-- The alternative decrypter, with the nonce of the header where it has one. -/
def diversified (crypto : Crypto Encrypter Decrypter) (nonce : Option DiversificationNonce)
    (decrypter : Decrypter) : Decrypter :=
  match nonce with
  | none => decrypter
  | some nonce => crypto.setDiversificationNonce decrypter nonce

/-- The alternative decrypter comes first from now on, or alone when it is latched. -/
def DecrypterState.switch (keys : DecrypterState Decrypter) (alternative : Decrypter) :
    DecrypterState Decrypter :=
  if keys.alternativeDecrypterLatch then
    { keys with
      decrypter := alternative
      decrypterLevel := keys.alternativeDecrypterLevel
      alternativeDecrypter := none
      alternativeDecrypterLevel := .none }
  else
    { keys with
      decrypter := alternative
      decrypterLevel := keys.alternativeDecrypterLevel
      alternativeDecrypter := some keys.decrypter
      alternativeDecrypterLevel := keys.decrypterLevel }

/-- `DecryptPayload`, with the level at which the payload was decrypted. -/
def decryptPayload (crypto : Crypto Encrypter Decrypter) (perspective : Perspective)
    (header : QuicPublicHeader Version) (associatedData encrypted : List UInt8)
    (keys : DecrypterState Decrypter) :
    Option (List UInt8 × EncryptionLevel) × DecrypterState Decrypter :=
  match crypto.decryptPacket keys.decrypter header.packetNumber associatedData encrypted with
  | some plaintext => (some (plaintext, keys.decrypterLevel), keys)
  | none =>
      match keys.alternativeDecrypter with
      | none => (none, keys)
      | some alternative =>
          let alternative := diversified crypto header.nonce alternative
          let keys := { keys with alternativeDecrypter := some alternative }
          if keys.alternativeDecrypterLevel = .initial ∧ perspective = .isClient ∧
              header.nonce = none then (none, keys)
          else
            match crypto.decryptPacket alternative header.packetNumber associatedData
                encrypted with
            | none => (none, keys)
            | some plaintext =>
                (some (plaintext, keys.alternativeDecrypterLevel), keys.switch alternative)

/-! ### Reading -/

section Reading

variable (env : PacketEnv Version Encrypter Decrypter) (answers : PacketAnswers Version)

/-- The payload of a packet, behind the call for its header. A packet that is too large sets
no text; the empty one stands for whatever `detailed_error_` was. -/
def processPayload (header : QuicPublicHeader Version) (packetLength : Nat)
    (plaintext : List UInt8) (framer : PacketFramer Version Decrypter) :
    Processed Version Decrypter :=
  if ¬answers.onPacketHeader header then ⟨.ok (), framer, []⟩
  else if kMaxPacketSize < packetLength then ⟨.error "", framer, [.onError .packetTooLarge]⟩
  else
    match record env.io (FramerEnv.processFrameData ⟨env.io, env.limits, header.packetHeader⟩)
        plaintext with
    | (.ok _, after) => ⟨.ok (), framer, after.visitor.map .onFrame ++ [.onPacketComplete]⟩
    | (.error (code, detail), after) =>
        ⟨.error detail, framer, after.visitor.map .onFrame ++ [.onError (.invalidFrames code)]⟩

/-- The bytes of a packet in front of those that are encrypted. -/
def getAssociatedDataFromEncryptedPacket (encrypted : List UInt8)
    (header : QuicPublicHeader Version) : List UInt8 :=
  encrypted.take (env.getStartOfEncryptedData header.connectionIdLength header.versionFlag
    header.nonce.isSome header.packetNumberLength)

theorem getAssociatedDataFromEncryptedPacket_eq (encrypted : List UInt8)
    (header : QuicPublicHeader Version) :
    getAssociatedDataFromEncryptedPacket env encrypted header = encrypted.take header.size := by
  rw [getAssociatedDataFromEncryptedPacket, env.getStartOfEncryptedData_header]

/-- `ProcessDataPacket` behind `ProcessUnauthenticatedHeader`. -/
def processEncrypted (header : QuicPublicHeader Version) (packet encrypted : List UInt8)
    (framer : PacketFramer Version Decrypter) : Processed Version Decrypter :=
  match decryptPayload env.crypto framer.headers.perspective header
      (getAssociatedDataFromEncryptedPacket env packet header) encrypted framer.keys with
  | (none, keys) => ⟨.error "Unable to decrypt payload.", { framer with keys },
      [.onError .decryptionFailure]⟩
  | (some (plaintext, level), keys) =>
      let headers := { framer.headers with
        largestPacketNumber := max header.packetNumber framer.headers.largestPacketNumber }
      (processPayload env answers header packet.length plaintext { headers, keys }).behind
        [.onDecryptedPacket level, .onPacketHeader header]

/-- `ProcessDataPacket`. -/
def processDataPacket (header : QuicPublicHeader Version) (packet unread : List UInt8)
    (framer : PacketFramer Version Decrypter) : Processed Version Decrypter :=
  match processPacketNumber env.io header unread framer.headers with
  | .error detail => ⟨.error detail, framer, [.onError .invalidPacketHeader]⟩
  | .ok (header, encrypted) =>
      if ¬answers.onUnauthenticatedHeader header then
        ⟨.error "Visitor asked to stop processing of unauthenticated header.", framer,
          [.onUnauthenticatedHeader header]⟩
      else
        (processEncrypted env answers header packet encrypted framer).behind
          [.onUnauthenticatedHeader header]

/-- The loop of `ProcessVersionNegotiationPacket`, which reads one label at least. -/
def readVersions : (bound : Nat) → List UInt8 → Option (List (Option Version))
  | 0, _ => none
  | bound + 1, bytes =>
      match env.io.readBytesToUInt64 4 bytes with
      | none => none
      | some (versionLabel, rest) =>
          let version := env.labels.parseQuicVersionLabel versionLabel
          if rest.isEmpty then some [version] else (readVersions bound rest).map (version :: ·)

def processVersionNegotiationPacket (header : QuicPublicHeader Version) (unread : List UInt8)
    (framer : PacketFramer Version Decrypter) : Processed Version Decrypter :=
  match readVersions env (unread.length + 1) unread with
  | none => ⟨.error "Unable to read supported version in negotiation.", framer,
      [.onError .invalidVersionNegotiationPacket]⟩
  | some versions =>
      ⟨.ok (), framer, [.onVersionNegotiationPacket header.connectionId versions]⟩

def processPublicResetPacket (header : QuicPublicHeader Version) (unread : List UInt8)
    (framer : PacketFramer Version Decrypter) : Processed Version Decrypter :=
  match env.parseMessage unread with
  | none => ⟨.error "Unable to read reset message.", framer,
      [.onError .invalidPublicRstPacket]⟩
  | some message =>
      if ¬message.isPublicReset then
        ⟨.error "Incorrect message tag.", framer, [.onError .invalidPublicRstPacket]⟩
      else
        match message.nonceProof with
        | none => ⟨.error "Unable to read nonce proof.", framer,
            [.onError .invalidPublicRstPacket]⟩
        | some nonceProof =>
            ⟨.ok (), framer, [.onPublicResetPacket header.connectionId nonceProof]⟩

/-- The part of `ProcessPacket` that depends on the kind of the packet. -/
def processKind (header : QuicPublicHeader Version) (packet unread : List UInt8)
    (framer : PacketFramer Version Decrypter) : Processed Version Decrypter :=
  if framer.headers.perspective = .isClient ∧ header.versionFlag then
    processVersionNegotiationPacket env header unread framer
  else if header.resetFlag then processPublicResetPacket env header unread framer
  else processDataPacket env answers header packet unread framer

variable [DecidableEq Version]

/-- `ProcessPacket`. -/
def processPacket (packet : List UInt8) (framer : PacketFramer Version Decrypter) :
    Processed Version Decrypter :=
  match processPublicHeader env.io env.labels packet framer.headers with
  | (.error detail, headers) => ⟨.error detail, { framer with headers },
      [.onPacket, .onError .invalidPacketHeader]⟩
  | (.ok (header, unread), headers) =>
      let framer := { framer with headers }
      if ¬answers.onUnauthenticatedPublicHeader header then
        ⟨.ok (), framer, [.onPacket, .onUnauthenticatedPublicHeader header]⟩
      else if headers.perspective = .isServer ∧ header.versionFlag ∧
          header.version ≠ some headers.version then
        if ¬answers.onProtocolVersionMismatch header.version then
          ⟨.ok (), framer, [.onPacket, .onUnauthenticatedPublicHeader header,
            .onProtocolVersionMismatch header.version]⟩
        else
          (processKind env answers header packet unread framer).behind
            [.onPacket, .onUnauthenticatedPublicHeader header,
              .onProtocolVersionMismatch header.version]
      else
        (processKind env answers header packet unread framer).behind
          [.onPacket, .onUnauthenticatedPublicHeader header]

end Reading

end StupidSimple.Quic
