import StupidSimple.Quic.PacketRuns

/-!
Owns version negotiation of `MyQuicFramer`: `BuildVersionNegotiationPacket` of the server,
and what a client accepts in its place. `BuildConnectivityProbingPacket` stands beside it;
it builds a data packet of its own.
-/

namespace StupidSimple.Quic

open StupidSimple.Library

variable {Version Encrypter Decrypter : Type}

/-! ### Writing -/

section Writing

variable (io : QuicData) (labels : VersionLabels Version)

def getVersionNegotiationPacketSize (numberVersions : Nat) : Nat :=
  kPublicFlagsSize + QuicConnectionIdLength.packet8ByteConnectionId.bytes +
    numberVersions * kQuicVersionSize

def versionNegotiationFlags : Nat :=
  packetPublicFlagsVersion ||| packetPublicFlags8ByteConnectionId |||
    packetPublicFlags8ByteConnectionIdOld

/-- The loop of `BuildVersionNegotiationPacket`. -/
def appendVersionLabels : List Version → QuicDataWriter → Option QuicDataWriter
  | [], writer => some writer
  | version :: rest, writer => do
      let writer ←
        writer.writeBytes (io.writeBytesToUInt64 4 (labels.createQuicVersionLabel version))
      appendVersionLabels rest writer

def appendVersionNegotiation (connectionId : Nat) (versions : List Version)
    (writer : QuicDataWriter) : Option QuicDataWriter := do
  let writer ← writeUInt8 versionNegotiationFlags writer
  let writer ← writer.writeBytes (io.writeBytesToUInt64 8 connectionId)
  appendVersionLabels io labels versions writer

/-- `BuildVersionNegotiationPacket`, into a buffer of the size that it asks for. -/
def buildVersionNegotiationPacket (connectionId : Nat) (versions : List Version) :
    Option (List UInt8) :=
  (appendVersionNegotiation io labels connectionId versions
    (.create (getVersionNegotiationPacketSize versions.length))).map QuicDataWriter.bytes

/-- `BuildConnectivityProbingPacket`: a ping, and padding in the rest of the packet. -/
def buildConnectivityProbingPacket (header : QuicPublicHeader Version) (packetLength : Nat)
    (framer : HeaderState Version) : List UInt8 × HeaderState Version :=
  match appendPacketHeader io labels header (.create packetLength) framer with
  | (none, framer) => ([], framer)
  | (some writer, framer) =>
      let padded := do
        let writer ← appendTypeByte false .ping writer
        let writer ← appendTypeByte true (.padding (-1)) writer
        appendPaddingFrame (-1) writer
      ((padded.map QuicDataWriter.bytes).getD [], framer)

/-- A probing packet is the data packet of a ping and of padding without a length. -/
theorem buildConnectivityProbingPacket_eq (header : QuicPublicHeader Version) (packetLength : Nat)
    (framer : HeaderState Version) :
    buildConnectivityProbingPacket io labels header packetLength framer =
      buildDataPacket io labels header [.ping, .padding (-1)] packetLength framer := by
  unfold buildConnectivityProbingPacket buildDataPacket
  rcases appendPacketHeader io labels header (.create packetLength) framer with
    ⟨none | writer, after⟩
  · rfl
  · simp [appendFrames, appendFrame, appendTypeByte, appendFramePayload]

/-- The bytes of labels, one after the other. -/
def labelBytes (words : List Nat) : List UInt8 := words.flatMap (BigEndian.encode 4)

theorem length_labelBytes (words : List Nat) : (labelBytes words).length = words.length * 4 := by
  induction words with
  | nil => rfl
  | cons word rest inductionHypothesis =>
      rw [labelBytes, List.flatMap_cons, List.length_append, BigEndian.length_encode, ← labelBytes,
        inductionHypothesis, List.length_cons]
      omega

theorem writes_appendVersionLabels (versions : List Version) :
    Writes (appendVersionLabels io labels versions)
      (labelBytes (versions.map labels.createQuicVersionLabel)) := by
  induction versions with
  | nil => exact writes_nothing
  | cons version rest inductionHypothesis =>
      exact (writes_bytesToUInt64 io (by decide) _).bind inductionHypothesis

/-- The bytes of a version negotiation packet. -/
def versionNegotiationWire (connectionId : Nat) (versions : List Version) : List UInt8 :=
  BigEndian.encode 1 versionNegotiationFlags ++ (BigEndian.encode 8 connectionId ++
    labelBytes (versions.map labels.createQuicVersionLabel))

theorem length_versionNegotiationWire (connectionId : Nat) (versions : List Version) :
    (versionNegotiationWire labels connectionId versions).length =
      getVersionNegotiationPacketSize versions.length := by
  rw [versionNegotiationWire, List.length_append, List.length_append, BigEndian.length_encode,
    BigEndian.length_encode, length_labelBytes, List.length_map, getVersionNegotiationPacketSize,
    kPublicFlagsSize, kQuicVersionSize, Nat.add_assoc]
  rfl

/-- The packet fills the buffer that is made for it. -/
theorem buildVersionNegotiationPacket_eq (connectionId : Nat) (versions : List Version) :
    buildVersionNegotiationPacket io labels connectionId versions =
      some (versionNegotiationWire labels connectionId versions) := by
  have writes : Writes (appendVersionNegotiation io labels connectionId versions)
      (versionNegotiationWire labels connectionId versions) :=
    (writes_writeUInt8 versionNegotiationFlags).bind
      ((writes_bytesToUInt64 io (by decide) connectionId).bind
        (writes_appendVersionLabels io labels versions))
  have fits : ([] : List UInt8).length +
      (versionNegotiationWire labels connectionId versions).length ≤
        getVersionNegotiationPacketSize versions.length := by
    rw [length_versionNegotiationWire, List.length_nil, Nat.zero_add]
  rw [buildVersionNegotiationPacket, writes _ (QuicDataWriter.sound_create _),
    QuicDataWriter.writeBytes_of_le fits]
  rfl

end Writing

/-! ### Reading -/

section Reading

variable {env : PacketEnv Version Encrypter Decrypter}

/-- The loop takes as many labels as there are bytes for, and leaves none. -/
theorem readVersions_labelBytes {words : List Nat} (narrow : ∀ word ∈ words, word < 2 ^ 32)
    (filled : words ≠ []) {bound : Nat} (enough : words.length ≤ bound) :
    readVersions env bound (labelBytes words) =
      some (words.map env.labels.parseQuicVersionLabel) := by
  induction words generalizing bound with
  | nil => exact absurd rfl filled
  | cons word rest inductionHypothesis =>
      obtain ⟨bound, rfl⟩ := Nat.exists_eq_succ_of_ne_zero (Nat.ne_of_gt
        (Nat.lt_of_lt_of_le (Nat.succ_pos rest.length) enough))
      have ⟨first, others⟩ := List.forall_mem_cons.mp narrow
      have read := readBytesToUInt64_encode env.io (by decide : 4 ≤ 8) (first : word < 256 ^ 4)
        (labelBytes rest)
      rw [readVersions, show labelBytes (word :: rest) =
        BigEndian.encode 4 word ++ labelBytes rest from rfl, read]
      dsimp only
      cases rest with
      | nil => rfl
      | cons next more =>
          have behind := inductionHypothesis others (List.cons_ne_nil _ _)
            (Nat.le_of_succ_le_succ enough)
          have some : (labelBytes (next :: more)).isEmpty = false := by
            rw [List.isEmpty_eq_false_iff, ← List.length_pos_iff, length_labelBytes,
              List.length_cons]
            omega
          rw [some, behind]
          rfl

/-- What is read is a list of labels, of which there is one at least. -/
theorem labelBytes_of_readVersions {bound : Nat} {bytes : List UInt8}
    {versions : List (Option Version)} (read : readVersions env bound bytes = some versions) :
    ∃ words : List Nat, words ≠ [] ∧ (∀ word ∈ words, word < 2 ^ 32) ∧ bytes = labelBytes words ∧
      versions = words.map env.labels.parseQuicVersionLabel := by
  induction bound generalizing bytes versions with
  | zero => cases read
  | succ bound inductionHypothesis =>
      rw [readVersions, env.io.readBytesToUInt64_eq 4 bytes (by decide)] at read
      split_ifs at read with enough
      let word := BigEndian.decode (bytes.take 4)
      have four : (bytes.take 4).length = 4 := List.length_take_of_le enough
      have narrow : word < 2 ^ 32 := by
        have below := BigEndian.decode_lt (bytes.take 4)
        rwa [four] at below
      have whole : bytes = BigEndian.encode 4 word ++ bytes.drop 4 := by
        have encoded := BigEndian.encode_decode (bytes.take 4)
        rw [four] at encoded
        rw [encoded, List.take_append_drop]
      dsimp only at read
      split_ifs at read with done
      · have ended := List.isEmpty_iff.mp done
        rw [ended] at whole
        refine ⟨[word], List.cons_ne_nil _ _, List.forall_mem_singleton.mpr narrow, whole, ?_⟩
        exact (Option.some.inj read).symm
      · have ⟨later, readLater, same⟩ := Option.map_eq_some_iff.mp read
        have ⟨words, filled, others, behind, parsed⟩ := inductionHypothesis readLater
        rw [behind] at whole
        refine ⟨word :: words, List.cons_ne_nil _ _, List.forall_mem_cons.mpr ⟨narrow, others⟩,
          whole, ?_⟩
        rw [← same, parsed]
        rfl

/-- No call of these reports versions. -/
def Unnegotiated (calls : List (PacketCall Version)) : Prop :=
  ∀ connectionId versions, .onVersionNegotiationPacket connectionId versions ∉ calls

theorem unnegotiated_processPayload (answers : PacketAnswers Version)
    (header : QuicPublicHeader Version) (length : Nat) (plaintext : List UInt8)
    (framer : PacketFramer Version Decrypter) :
    Unnegotiated (processPayload env answers header length plaintext framer).calls := by
  intro connectionId versions
  unfold processPayload
  split_ifs
  · simp
  · split <;> simp
  · simp

theorem unnegotiated_processPublicResetPacket (header : QuicPublicHeader Version)
    (unread : List UInt8) (framer : PacketFramer Version Decrypter) :
    Unnegotiated (processPublicResetPacket env header unread framer).calls := by
  intro connectionId versions
  unfold processPublicResetPacket
  split
  · simp
  · split_ifs
    · split <;> simp
    · simp

theorem unnegotiated_processDataPacket (answers : PacketAnswers Version)
    (header : QuicPublicHeader Version) (packet unread : List UInt8)
    (framer : PacketFramer Version Decrypter) :
    Unnegotiated (processDataPacket env answers header packet unread framer).calls := by
  intro connectionId versions called
  unfold processDataPacket at called
  split at called
  · simp at called
  · next numbered encrypted _ =>
      split_ifs at called
      · have behind : .onVersionNegotiationPacket connectionId versions ∈
            (processEncrypted env answers numbered packet encrypted framer).calls := by
          simpa [Processed.behind] using called
        unfold processEncrypted at behind
        split at behind
        · simp at behind
        · apply unnegotiated_processPayload answers _ _ _ _ connectionId versions
          simpa [Processed.behind] using behind
      · simp at called

/-- Only a client reports versions, and only those of labels that it has read. -/
theorem of_processKind {answers : PacketAnswers Version} {header : QuicPublicHeader Version}
    {packet unread : List UInt8} {framer : PacketFramer Version Decrypter} {connectionId : Nat}
    {versions : List (Option Version)}
    (called : .onVersionNegotiationPacket connectionId versions ∈
      (processKind env answers header packet unread framer).calls) :
    framer.headers.perspective = .isClient ∧ header.versionFlag = true ∧
      connectionId = header.connectionId ∧
      readVersions env (unread.length + 1) unread = some versions ∧
      (processKind env answers header packet unread framer).framer = framer := by
  unfold processKind at called ⊢
  split_ifs at called ⊢ with negotiates reset
  · unfold processVersionNegotiationPacket at called ⊢
    cases read : readVersions env (unread.length + 1) unread with
    | none =>
        rw [read] at called
        simp at called
    | some found =>
        rw [read] at called
        have ⟨sameId, sameVersions⟩ :=
          PacketCall.onVersionNegotiationPacket.inj (List.mem_singleton.mp called)
        exact ⟨negotiates.1, negotiates.2, sameId, congrArg some sameVersions.symm, rfl⟩
  · exact absurd called (unnegotiated_processPublicResetPacket _ _ _ _ _)
  · exact absurd called (unnegotiated_processDataPacket _ _ _ _ _ _ _)

variable [DecidableEq Version]

/-- The public header of a version negotiation packet, as a client reads it. -/
def negotiationHeader (Version : Type) (connectionId : Nat) : QuicPublicHeader Version where
  connectionId := connectionId
  connectionIdLength := .packet8ByteConnectionId
  resetFlag := false
  versionFlag := true
  packetNumberLength := .packet1Byte
  version := none
  nonce := none
  packetNumber := 0

theorem processPublicHeader_negotiation (io : QuicData) (labels : VersionLabels Version)
    {framer : HeaderState Version} (client : framer.perspective = .isClient) {connectionId : Nat}
    (narrow : connectionId < 2 ^ 64) (rest : List UInt8) :
    processPublicHeader io labels (BigEndian.encode 1 versionNegotiationFlags ++
        (BigEndian.encode 8 connectionId ++ rest)) framer =
      (.ok (negotiationHeader Version connectionId, rest), framer) := by
  have flags := readBytesToUInt64_encode io (by decide : 1 ≤ 8)
    (by decide : versionNegotiationFlags < 256 ^ 1) (BigEndian.encode 8 connectionId ++ rest)
  have number := readBytesToUInt64_encode io (by decide : 8 ≤ 8)
    (narrow : connectionId < 256 ^ 8) rest
  have server : ¬framer.perspective = .isServer := by
    rw [client]
    decide
  have reset : decide (versionNegotiationFlags &&& packetPublicFlagsRst ≠ 0) = false := by decide
  have version : decide (versionNegotiationFlags &&& packetPublicFlagsVersion ≠ 0) = true := by
    decide
  have eight : versionNegotiationFlags &&& packetPublicFlags8ByteConnectionId =
      packetPublicFlags8ByteConnectionId := by decide
  have marked : ¬versionNegotiationFlags &&& packetPublicFlagsVersion = 0 := by decide
  rw [processPublicHeader, flags]
  dsimp only
  unfold processAfterFlags
  rw [reset, version, processConnectionId, if_pos eight, number]
  simp only [Option.bind_eq_bind, Option.bind_some, processVersion, processNonce, server, marked,
    and_false, false_and, if_false, not_true_eq_false, Bool.false_eq_true]
  rfl

/-- A client that is asked to go on reports every version that the server has written. -/
theorem processPacket_negotiation (answers : PacketAnswers Version)
    {framer : PacketFramer Version Decrypter}
    (client : framer.headers.perspective = .isClient) {connectionId : Nat}
    (narrow : connectionId < 2 ^ 64)
    (goOn : answers.onUnauthenticatedPublicHeader (negotiationHeader Version connectionId) = true)
    {versions : List Version} (filled : versions ≠ []) :
    processPacket env answers (versionNegotiationWire env.labels connectionId versions) framer =
      ⟨.ok (), framer, [.onPacket,
        .onUnauthenticatedPublicHeader (negotiationHeader Version connectionId),
        .onVersionNegotiationPacket connectionId (versions.map some)]⟩ := by
  let words := versions.map env.labels.createQuicVersionLabel
  have narrowWords : ∀ word ∈ words, word < 2 ^ 32 :=
    List.forall_mem_map.mpr fun version _ => env.labels.createQuicVersionLabel_lt version
  have someWords : words ≠ [] := fun empty => filled (List.map_eq_nil_iff.mp empty)
  have enough : words.length ≤ (labelBytes words).length + 1 := by
    rw [length_labelBytes]
    omega
  have read : readVersions env ((labelBytes words).length + 1) (labelBytes words) =
      some (words.map env.labels.parseQuicVersionLabel) :=
    readVersions_labelBytes narrowWords someWords enough
  have parsed : words.map env.labels.parseQuicVersionLabel = versions.map some := by
    rw [List.map_map]
    exact List.map_congr_left fun version _ => env.labels.parse_create version
  have server : ¬framer.headers.perspective = .isServer := by
    rw [client]
    decide
  have header := processPublicHeader_negotiation env.io env.labels client narrow (labelBytes words)
  rw [processPacket, versionNegotiationWire, header]
  dsimp only
  rw [if_neg (not_not_intro goOn), if_neg (fun both => server both.1), processKind,
    if_pos ⟨client, rfl⟩, processVersionNegotiationPacket, read, parsed]
  rfl

/-! ### What a client accepts -/

/-- The packet is one of version negotiation: flags, perhaps a connection id, and labels. -/
structure NegotiationPacket (headers : HeaderState Version) (packet : List UInt8)
    (connectionId : Nat) (words : List Nat) : Prop where
  filled : words ≠ []
  narrow : ∀ word ∈ words, word < 2 ^ 32
  layout : ∃ flags < 256, flags &&& packetPublicFlagsVersion ≠ 0 ∧
    flags &&& packetPublicFlagsRst = 0 ∧
    ((flags &&& packetPublicFlags8ByteConnectionId = packetPublicFlags8ByteConnectionId ∧
        connectionId < 2 ^ 64 ∧ packet = BigEndian.encode 1 flags ++
          (BigEndian.encode 8 connectionId ++ labelBytes words)) ∨
      (flags &&& packetPublicFlags8ByteConnectionId ≠ packetPublicFlags8ByteConnectionId ∧
        connectionId = headers.lastSerializedConnectionId ∧
        packet = BigEndian.encode 1 flags ++ labelBytes words))

/-- A header with a version that a client has read. -/
theorem processPublicHeader_version {io : QuicData} {labels : VersionLabels Version}
    {framer after : HeaderState Version} (client : framer.perspective = .isClient)
    {packet unread : List UInt8} {header : QuicPublicHeader Version}
    (read : processPublicHeader io labels packet framer = (.ok (header, unread), after))
    (versioned : header.versionFlag = true) :
    after = framer ∧ ∃ flags < 256, flags &&& packetPublicFlagsVersion ≠ 0 ∧
      flags &&& packetPublicFlagsRst = 0 ∧
      ((flags &&& packetPublicFlags8ByteConnectionId = packetPublicFlags8ByteConnectionId ∧
          header.connectionId < 2 ^ 64 ∧ packet = BigEndian.encode 1 flags ++
            (BigEndian.encode 8 header.connectionId ++ unread)) ∨
        (flags &&& packetPublicFlags8ByteConnectionId ≠ packetPublicFlags8ByteConnectionId ∧
          header.connectionId = framer.lastSerializedConnectionId ∧
          packet = BigEndian.encode 1 flags ++ unread)) := by
  have server : ¬framer.perspective = .isServer := by
    rw [client]
    decide
  rw [processPublicHeader, io.readBytesToUInt64_eq 1 packet (by decide)] at read
  split_ifs at read with nonempty
  · let flags := BigEndian.decode (packet.take 1)
    have one : (packet.take 1).length = 1 := List.length_take_of_le nonempty
    have narrow : flags < 256 := by
      have below := BigEndian.decode_lt (packet.take 1)
      rwa [one] at below
    have whole : packet = BigEndian.encode 1 flags ++ packet.drop 1 := by
      have encoded := BigEndian.encode_decode (packet.take 1)
      rw [one] at encoded
      rw [encoded, List.take_append_drop]
    change processAfterFlags io labels flags (packet.drop 1) framer = _ at read
    unfold processAfterFlags at read
    dsimp only at read
    split_ifs at read with illegal both
    · cases read
    · cases read
    cases identified : processConnectionId io framer flags (packet.drop 1) with
    | none =>
        rw [identified] at read
        cases read
    | some result =>
        obtain ⟨connectionId, connectionIdLength, bytes⟩ := result
        rw [identified] at read
        dsimp only at read
        rw [processVersion, if_neg (fun asked => server asked.2)] at read
        dsimp only at read
        by_cases flagged : flags &&& packetPublicFlagsVersion = 0
        · split at read
          · cases read
          · cases read
            exact absurd flagged (of_decide_eq_true versioned)
        · rw [processNonce, if_neg (fun asked => flagged asked.2.1)] at read
          cases read
          have unreset : flags &&& packetPublicFlagsRst = 0 := by
            by_contra reset
            exact both ⟨decide_eq_true reset, decide_eq_true flagged⟩
          refine ⟨rfl, flags, narrow, flagged, unreset, ?_⟩
          unfold processConnectionId at identified
          split_ifs at identified with eight
          · have ⟨⟨value, rest⟩, read, same⟩ := Option.bind_eq_some_iff.mp identified
            cases same
            rw [io.readBytesToUInt64_eq 8 _ (by decide)] at read
            split_ifs at read with enough
            obtain ⟨rfl, rfl⟩ := Prod.mk.inj (Option.some.inj read)
            have length : ((packet.drop 1).take 8).length = 8 := List.length_take_of_le enough
            have below := BigEndian.decode_lt ((packet.drop 1).take 8)
            have encoded := BigEndian.encode_decode ((packet.drop 1).take 8)
            rw [length] at below encoded
            refine Or.inl ⟨eight, below, ?_⟩
            show packet = BigEndian.encode 1 flags ++ (BigEndian.encode 8 _ ++ _)
            rw [encoded, List.take_append_drop]
            exact whole
          · cases identified
            exact Or.inr ⟨eight, rfl, whole⟩
  · cases read

theorem of_processPacket {answers : PacketAnswers Version} {packet : List UInt8}
    {framer : PacketFramer Version Decrypter} {connectionId : Nat}
    {versions : List (Option Version)}
    (called : .onVersionNegotiationPacket connectionId versions ∈
      (processPacket env answers packet framer).calls) :
    framer.headers.perspective = .isClient ∧
      (processPacket env answers packet framer).framer = framer ∧
      ∃ words, NegotiationPacket framer.headers packet connectionId words ∧
        versions = words.map env.labels.parseQuicVersionLabel := by
  -- What is called behind the public header is a call of the kind of the packet.
  have kind : ∃ header unread headers,
      processPublicHeader env.io env.labels packet framer.headers =
        (.ok (header, unread), headers) ∧
      .onVersionNegotiationPacket connectionId versions ∈
        (processKind env answers header packet unread { framer with headers }).calls ∧
      (processPacket env answers packet framer).framer =
        (processKind env answers header packet unread { framer with headers }).framer := by
    unfold processPacket at called ⊢
    split at called
    · simp at called
    · next header unread headers read =>
        refine ⟨header, unread, headers, read, ?_⟩
        dsimp only at called ⊢
        split_ifs at called ⊢
        · exact ⟨by simpa [Processed.behind] using called, rfl⟩
        · simp at called
        · exact ⟨by simpa [Processed.behind] using called, rfl⟩
        · simp at called
  obtain ⟨header, unread, headers, read, own, sameFramer⟩ := kind
  obtain ⟨clientBehind, versioned, sameId, readLabels, kept⟩ := of_processKind own
  obtain ⟨label, nonce, state⟩ := processPublicHeader_state env packet framer.headers
  rw [read] at state
  dsimp only at clientBehind state
  have client : framer.headers.perspective = .isClient := by
    rw [state] at clientBehind
    exact clientBehind
  obtain ⟨rfl, layout⟩ := processPublicHeader_version client read versioned
  obtain ⟨words, filled, narrow, bytes, parsed⟩ := labelBytes_of_readVersions readLabels
  subst sameId bytes
  exact ⟨client, sameFramer.trans kept, words, ⟨filled, narrow, layout⟩, parsed⟩

variable (env) in
/-- A client reports just the versions that a server has written. Whatever else arrives, it
reports versions only of a packet that consists of flags, an id and whole labels, one at
least, and such a packet leaves the framer as it was. -/
theorem version_negotiation (answers : PacketAnswers Version)
    {framer : PacketFramer Version Decrypter} (client : framer.headers.perspective = .isClient) :
    (∀ connectionId versions, connectionId < 2 ^ 64 → versions ≠ [] →
      answers.onUnauthenticatedPublicHeader (negotiationHeader Version connectionId) = true →
      ∃ packet, buildVersionNegotiationPacket env.io env.labels connectionId versions =
          some packet ∧
        packet.length = getVersionNegotiationPacketSize versions.length ∧
        processPacket env answers packet framer = ⟨.ok (), framer, [.onPacket,
          .onUnauthenticatedPublicHeader (negotiationHeader Version connectionId),
          .onVersionNegotiationPacket connectionId (versions.map some)]⟩) ∧
    ∀ packet connectionId versions, .onVersionNegotiationPacket connectionId versions ∈
        (processPacket env answers packet framer).calls →
      (processPacket env answers packet framer).framer = framer ∧
      ∃ words, NegotiationPacket framer.headers packet connectionId words ∧
        versions = words.map env.labels.parseQuicVersionLabel := by
  constructor
  · intro connectionId versions narrow filled goOn
    refine ⟨_, buildVersionNegotiationPacket_eq env.io env.labels connectionId versions,
      length_versionNegotiationWire env.labels connectionId versions, ?_⟩
    exact processPacket_negotiation answers client narrow goOn filled
  · intro packet connectionId versions called
    exact (of_processPacket called).2

end Reading

/-- Two versions and their labels. -/
def versionPair : VersionLabels Bool where
  createQuicVersionLabel newer := if newer then 0x51303433 else 0x51303339
  parseQuicVersionLabel label :=
    if label = 0x51303433 then some true else if label = 0x51303339 then some false else none
  createQuicVersionLabel_lt := by decide
  parse_create := by decide

def pairEnv : PacketEnv Bool Unit Unit where
  io := .networkOrder
  limits := idealEnv.limits
  labels := versionPair
  crypto := idealEnv.crypto
  parseMessage _ := none
  getStartOfEncryptedData := idealEnv.getStartOfEncryptedData
  getStartOfEncryptedData_header _ := rfl

def pairClient : PacketFramer Bool Unit where
  headers := ⟨.isClient, true, true, 0, 7, 0, none⟩
  keys := freshServer.keys

/-- The server offers both versions. The packet that is one byte too short is no offer. -/
theorem version_negotiation_pairClient :
    (∃ packet, buildVersionNegotiationPacket .networkOrder versionPair 7 [true, false] =
        some packet ∧ packet.length = 17 ∧
      processPacket pairEnv (.goOn Bool) packet pairClient = ⟨.ok (), pairClient, [.onPacket,
        .onUnauthenticatedPublicHeader (negotiationHeader Bool 7),
        .onVersionNegotiationPacket 7 [some true, some false]]⟩) ∧
    ∀ connectionId versions, .onVersionNegotiationPacket connectionId versions ∉
      (processPacket pairEnv (.goOn Bool)
        ((versionNegotiationWire versionPair 7 [true, false]).take 16) pairClient).calls := by
  have both := version_negotiation pairEnv (.goOn Bool) (rfl : pairClient.headers.perspective = _)
  constructor
  · exact both.1 7 [true, false] (by decide) (by decide) rfl
  · intro connectionId versions called
    have ⟨_, words, negotiation, _⟩ := both.2 _ connectionId versions called
    have length : ((versionNegotiationWire versionPair 7 [true, false]).take 16).length = 16 := by
      decide
    have ⟨flags, _, _, _, layout⟩ := negotiation.layout
    rcases layout with ⟨_, _, whole⟩ | ⟨_, _, whole⟩
    · rw [whole, List.length_append, List.length_append, BigEndian.length_encode,
        BigEndian.length_encode, length_labelBytes] at length
      omega
    · rw [whole, List.length_append, BigEndian.length_encode, length_labelBytes] at length
      omega

end StupidSimple.Quic
