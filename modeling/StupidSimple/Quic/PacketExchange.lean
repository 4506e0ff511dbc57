import StupidSimple.Quic.DataPackets
import StupidSimple.Quic.FrameSizes
import StupidSimple.Quic.HeaderExchange

/-!
Owns the exchange of data packets over a network that may lose, repeat, reorder, alter and
invent packets. What a framer reports was sent, whatever arrives, because the packet number
that it restores is part of what is authenticated; and it reports every packet that arrives
with its number in the window.
-/

namespace StupidSimple.Quic

open StupidSimple.Library

variable {Version Encrypter Decrypter : Type}

/-! ### Data packets -/

/-- A packet that one side can build: its fields are in range and its frames fit. -/
structure DataPacket (Version : Type) (perspective : Perspective) where
  header : QuicPublicHeader Version
  frames : List QuicFrame
  packetLength : Nat
  wellFormed : header.WellFormed perspective
  packetNumber_ne_zero : header.packetNumber ≠ 0
  packetNumber_lt : header.packetNumber + 1 < 2 ^ 64
  someFrames : frames ≠ []
  framesWellFormed : ∀ frame ∈ frames, frame.WellFormed header.packetHeader
  headerFits : header.size ≤ packetLength
  framesFit : FramesFit header.packetHeader
    (packetLength - header.size) frames

namespace DataPacket

variable {perspective : Perspective} (packet : DataPacket Version perspective)

/-- The room for frames. -/
def room : Nat := packet.packetLength - packet.header.size

def associatedData (labels : VersionLabels Version) (version : Version) : List UInt8 :=
  headerWire labels perspective version packet.header

def plaintext (io : QuicData) : List UInt8 :=
  framesBytes io packet.header.packetHeader packet.room packet.frames

variable (io : QuicData) (labels : VersionLabels Version)

/-- `BuildDataPacket` writes the packet. -/
theorem buildDataPacket_eq {framer : HeaderState Version}
    (own : framer.perspective = perspective) :
    (buildDataPacket io labels packet.header packet.frames packet.packetLength framer).1 =
      packet.associatedData labels framer.version ++ packet.plaintext io := by
  have sound := QuicDataWriter.sound_create packet.packetLength
  have length := length_headerWire labels framer.perspective framer.version packet.header
  have headerWritten := appendPacketHeader_eq labels io packet.header sound framer
  rw [QuicDataWriter.writeBytes_eq] at headerWritten
  · have headSound : ((QuicDataWriter.create packet.packetLength).append
        (headerWire labels framer.perspective framer.version packet.header)).Sound := by
      show (QuicDataWriter.append _ _).bytes.length ≤ packet.packetLength
      rw [QuicDataWriter.length_append, length]
      have := packet.headerFits
      exact (Nat.zero_add _).trans_le this
    have left : ((QuicDataWriter.create packet.packetLength).append
        (headerWire labels framer.perspective framer.version packet.header)).remaining =
          packet.room := by
      rw [QuicDataWriter.remaining_append, length]
      rfl
    have fits := packet.framesFit
    have framesWritten := appendFrames_of_fits io packet.framesWellFormed headSound
      (left ▸ fits)
    rw [left] at framesWritten
    unfold buildDataPacket
    rcases outcome : appendPacketHeader io labels packet.header (.create packet.packetLength)
      framer with ⟨_ | writer, after⟩
    · rw [outcome] at headerWritten
      cases headerWritten
    · rw [outcome] at headerWritten
      obtain rfl := Option.some.inj headerWritten
      dsimp only
      rw [framesWritten, own]
      rfl
  · rw [length]
    exact (Nat.zero_add _).trans_le packet.headerFits

end DataPacket

/-! ### Keys -/

section Keys

variable (crypto : Crypto Encrypter Decrypter)

/-- The framer has only such decrypters. -/
def KeysHeld (Key : Decrypter → Prop) (keys : DecrypterState Decrypter) : Prop :=
  Key keys.decrypter ∧ ∀ alternative, keys.alternativeDecrypter = some alternative → Key alternative

variable {crypto} {Key : Decrypter → Prop}

theorem diversified_held
    (closed : ∀ decrypter nonce, Key decrypter → Key (crypto.setDiversificationNonce decrypter nonce))
    {decrypter : Decrypter} (held : Key decrypter) (nonce : Option DiversificationNonce) :
    Key (diversified crypto nonce decrypter) := by
  cases nonce with
  | none => exact held
  | some nonce => exact closed decrypter nonce held

theorem KeysHeld.switch {keys : DecrypterState Decrypter} (held : KeysHeld Key keys)
    {alternative : Decrypter} (own : Key alternative) : KeysHeld Key (keys.switch alternative) := by
  unfold DecrypterState.switch
  split_ifs
  · exact ⟨own, by simp⟩
  · exact ⟨own, fun other same => Option.some.inj same ▸ held.1⟩

/-- A payload is decrypted by one of the decrypters, which remain the framer's. -/
theorem decryptPayload_spec
    (closed : ∀ decrypter nonce, Key decrypter → Key (crypto.setDiversificationNonce decrypter nonce))
    {keys : DecrypterState Decrypter} (held : KeysHeld Key keys) (perspective : Perspective)
    (header : QuicPublicHeader Version) (associatedData encrypted : List UInt8) :
    KeysHeld Key (decryptPayload crypto perspective header associatedData encrypted keys).2 ∧
      ∀ plaintext level,
        (decryptPayload crypto perspective header associatedData encrypted keys).1 =
          some (plaintext, level) →
        ∃ decrypter, Key decrypter ∧ crypto.decryptPacket decrypter header.packetNumber
          associatedData encrypted = some plaintext := by
  unfold decryptPayload
  cases first : crypto.decryptPacket keys.decrypter header.packetNumber associatedData encrypted with
  | some plaintext =>
      refine ⟨held, fun other level same => ?_⟩
      cases same
      exact ⟨keys.decrypter, held.1, first⟩
  | none =>
      cases found : keys.alternativeDecrypter with
      | none => exact ⟨held, fun _ _ same => by cases same⟩
      | some alternative =>
          have own := diversified_held closed (held.2 alternative found) header.nonce
          have stored : KeysHeld Key { keys with
              alternativeDecrypter := some (diversified crypto header.nonce alternative) } :=
            ⟨held.1, fun other same => Option.some.inj same ▸ own⟩
          dsimp only
          split_ifs with untried
          · exact ⟨stored, fun _ _ same => by cases same⟩
          · cases second : crypto.decryptPacket (diversified crypto header.nonce alternative)
              header.packetNumber associatedData encrypted with
            | none => exact ⟨stored, fun _ _ same => by cases same⟩
            | some plaintext =>
                refine ⟨stored.switch own, fun other level same => ?_⟩
                cases same
                exact ⟨_, own, second⟩

end Keys

/-! ### Packets that are opened -/

section Opening

variable (env : PacketEnv Version Encrypter Decrypter)

theorem processVersion_state [DecidableEq Version] (versionFlag : Bool) (flags : Nat)
    (bytes : List UInt8) (framer : HeaderState Version) :
    ∃ label, (processVersion env.io env.labels versionFlag flags bytes framer).2 =
      { framer with lastVersionLabel := label } := by
  unfold processVersion
  split_ifs
  · split
    · exact ⟨framer.lastVersionLabel, rfl⟩
    · dsimp only
      split_ifs <;> exact ⟨_, rfl⟩
  · exact ⟨framer.lastVersionLabel, rfl⟩

theorem processNonce_state (flags : Nat) (bytes : List UInt8) (framer : HeaderState Version) :
    ∃ nonce, (processNonce flags bytes framer).2 = { framer with lastNonce := nonce } := by
  unfold processNonce
  split_ifs
  · split <;> exact ⟨_, rfl⟩
  · exact ⟨framer.lastNonce, rfl⟩

theorem processAfterFlags_state [DecidableEq Version] (flags : Nat) (bytes : List UInt8)
    (framer : HeaderState Version) :
    ∃ label nonce, (processAfterFlags env.io env.labels flags bytes framer).2 =
      { framer with lastVersionLabel := label, lastNonce := nonce } := by
  have unchanged : ∃ label nonce, framer =
      { framer with lastVersionLabel := label, lastNonce := nonce } :=
    ⟨framer.lastVersionLabel, framer.lastNonce, rfl⟩
  unfold processAfterFlags
  dsimp only
  split_ifs
  · exact unchanged
  · exact unchanged
  · rcases processConnectionId env.io framer flags bytes with
      _ | ⟨connectionId, connectionIdLength, afterId⟩
    · exact unchanged
    · have ⟨label, versionState⟩ := processVersion_state env
        (decide (flags &&& packetPublicFlagsVersion ≠ 0)) flags afterId framer
      dsimp only
      rcases versionRead : processVersion env.io env.labels
        (decide (flags &&& packetPublicFlagsVersion ≠ 0)) flags afterId framer with
        ⟨detail | ⟨version, afterVersion⟩, behindVersion⟩
      · rw [versionRead] at versionState
        exact ⟨label, framer.lastNonce, versionState⟩
      · have ⟨nonce, nonceState⟩ := processNonce_state flags afterVersion behindVersion
        rw [versionRead] at versionState
        dsimp only at versionState ⊢
        rw [versionState] at nonceState ⊢
        rcases nonceRead : processNonce flags afterVersion
          { framer with lastVersionLabel := label } with
          ⟨detail | ⟨nonce, afterNonce⟩, behindNonce⟩
        · rw [nonceRead] at nonceState
          exact ⟨label, _, nonceState⟩
        · rw [nonceRead] at nonceState
          exact ⟨label, _, nonceState⟩

/-- A public header changes what was last seen, and nothing else. -/
theorem processPublicHeader_state [DecidableEq Version] (bytes : List UInt8)
    (framer : HeaderState Version) :
    ∃ label nonce, (processPublicHeader env.io env.labels bytes framer).2 =
      { framer with lastVersionLabel := label, lastNonce := nonce } := by
  unfold processPublicHeader
  split
  · exact ⟨framer.lastVersionLabel, framer.lastNonce, rfl⟩
  · exact processAfterFlags_state env _ _ framer

/-- A call that says something of what a packet carries. -/
def PacketCall.Reports : PacketCall Version → Prop
  | .onPacketHeader _ | .onFrame _ | .onPacketComplete => True
  | _ => False

def Quiet (calls : List (PacketCall Version)) : Prop := ∀ call ∈ calls, ¬call.Reports

theorem Quiet.append {first second : List (PacketCall Version)} (firstQuiet : Quiet first)
    (secondQuiet : Quiet second) : Quiet (first ++ second) := by
  intro call member
  exact (List.mem_append.mp member).elim (firstQuiet call) (secondQuiet call)

theorem processPayload_framer (header : QuicPublicHeader Version) (length : Nat)
    (plaintext : List UInt8) (framer : PacketFramer Version Decrypter) :
    (processPayload env (.goOn Version) header length plaintext framer).framer = framer := by
  unfold processPayload
  split_ifs
  · rfl
  · split <;> rfl
  · rfl

variable [DecidableEq Version]

/-- The way of a packet through `ProcessPacket` up to its plaintext. -/
structure Opened (packet : List UInt8) (framer : PacketFramer Version Decrypter) where
  publicHeader : QuicPublicHeader Version
  unread : List UInt8
  headers : HeaderState Version
  header : QuicPublicHeader Version
  encrypted : List UInt8
  plaintext : List UInt8
  level : EncryptionLevel
  keys : DecrypterState Decrypter
  publicRead : processPublicHeader env.io env.labels packet framer.headers =
    (.ok (publicHeader, unread), headers)
  numberRead : processPacketNumber env.io publicHeader unread headers = .ok (header, encrypted)
  decrypted : decryptPayload env.crypto headers.perspective header
    (packet.take header.size) encrypted framer.keys =
      (some (plaintext, level), keys)

variable {env} {packet : List UInt8} {framer : PacketFramer Version Decrypter}

/-- The framer behind a packet that was opened. -/
def Opened.after (opened : Opened env packet framer) : PacketFramer Version Decrypter where
  headers := { opened.headers with
    largestPacketNumber := max opened.header.packetNumber opened.headers.largestPacketNumber }
  keys := opened.keys

variable (env) in
/-- What a packet does: it is refused, or it is opened and its payload is processed. -/
inductive Course (Key : Decrypter → Prop) (packet : List UInt8)
    (framer : PacketFramer Version Decrypter) : Processed Version Decrypter → Prop
  | refused {processed : Processed Version Decrypter} (label : Nat)
      (nonce : Option DiversificationNonce)
      (headers : processed.framer.headers =
        { framer.headers with lastVersionLabel := label, lastNonce := nonce })
      (keys : KeysHeld Key processed.framer.keys) (quiet : Quiet processed.calls) :
      Course Key packet framer processed
  | opened {processed : Processed Version Decrypter} (opened : Opened env packet framer)
      (after : processed.framer = opened.after) {before : List (PacketCall Version)}
      (quiet : Quiet before)
      (calls : processed.calls = before ++ .onPacketHeader opened.header ::
        (processPayload env (.goOn Version) opened.header packet.length opened.plaintext
          opened.after).calls) :
      Course Key packet framer processed

variable {Key : Decrypter → Prop}

theorem Course.behind {processed : Processed Version Decrypter}
    (course : Course env Key packet framer processed) {front : List (PacketCall Version)}
    (frontQuiet : Quiet front) : Course env Key packet framer (processed.behind front) := by
  cases course with
  | refused label nonce headers keys quiet =>
      exact .refused label nonce headers keys (frontQuiet.append quiet)
  | opened opened after quiet calls =>
      refine .opened opened after (frontQuiet.append quiet) ?_
      rw [Processed.behind, calls, List.append_assoc]

/-- What follows a public header that was read. -/
theorem course_processDataPacket
    (closed : ∀ decrypter nonce, Key decrypter →
      Key (env.crypto.setDiversificationNonce decrypter nonce))
    (held : KeysHeld Key framer.keys) {publicHeader : QuicPublicHeader Version}
    {unread : List UInt8} {headers : HeaderState Version} {label : Nat}
    {nonce : Option DiversificationNonce}
    (state : headers = { framer.headers with lastVersionLabel := label, lastNonce := nonce })
    (publicRead : processPublicHeader env.io env.labels packet framer.headers =
      (.ok (publicHeader, unread), headers)) :
    Course env Key packet framer (processDataPacket env (.goOn Version) publicHeader packet unread
      { framer with headers }) := by
  unfold processDataPacket
  cases numberRead : processPacketNumber env.io publicHeader unread headers with
  | error detail => exact .refused label nonce state held (by simp [Quiet, PacketCall.Reports])
  | ok numbered =>
      obtain ⟨header, encrypted⟩ := numbered
      have goesOn : ¬¬(PacketAnswers.goOn Version).onUnauthenticatedHeader header = true := by
        simp [PacketAnswers.goOn]
      dsimp only
      rw [if_neg goesOn]
      apply Course.behind
      · unfold processEncrypted
        rw [getAssociatedDataFromEncryptedPacket_eq]
        have keysHeld := (decryptPayload_spec closed held headers.perspective header
          (packet.take header.size) encrypted).1
        rcases decrypted : decryptPayload env.crypto headers.perspective header
          (packet.take header.size) encrypted framer.keys with
          ⟨_ | ⟨plaintext, level⟩, keys⟩
        · rw [decrypted] at keysHeld
          exact .refused label nonce state keysHeld (by simp [Quiet, PacketCall.Reports])
        · let opened : Opened env packet framer := ⟨publicHeader, unread, headers, header,
            encrypted, plaintext, level, keys, publicRead, numberRead, decrypted⟩
          have quiet : Quiet [(.onDecryptedPacket level : PacketCall Version)] := by
            simp [Quiet, PacketCall.Reports]
          refine .opened opened ?_ quiet rfl
          exact processPayload_framer env _ _ _ _
      · simp [Quiet, PacketCall.Reports]

theorem course_processPublicResetPacket (held : KeysHeld Key framer.keys)
    {publicHeader : QuicPublicHeader Version} {unread : List UInt8}
    {headers : HeaderState Version} {label : Nat} {nonce : Option DiversificationNonce}
    (state : headers = { framer.headers with lastVersionLabel := label, lastNonce := nonce }) :
    Course env Key packet framer (processPublicResetPacket env publicHeader unread
      { framer with headers }) := by
  unfold processPublicResetPacket
  cases env.parseMessage unread with
  | none => exact .refused label nonce state held (by simp [Quiet, PacketCall.Reports])
  | some message =>
      dsimp only
      split_ifs
      · cases message.nonceProof with
        | none => exact .refused label nonce state held (by simp [Quiet, PacketCall.Reports])
        | some nonceProof =>
            exact .refused label nonce state held (by simp [Quiet, PacketCall.Reports])
      · exact .refused label nonce state held (by simp [Quiet, PacketCall.Reports])

theorem course_processPacket
    (closed : ∀ decrypter nonce, Key decrypter →
      Key (env.crypto.setDiversificationNonce decrypter nonce))
    (held : KeysHeld Key framer.keys) (packet : List UInt8) :
    Course env Key packet framer (processPacket env (.goOn Version) packet framer) := by
  have ⟨label, nonce, state⟩ := processPublicHeader_state env packet framer.headers
  unfold processPacket
  rcases publicRead : processPublicHeader env.io env.labels packet framer.headers with
    ⟨detail | ⟨publicHeader, unread⟩, headers⟩
  · rw [publicRead] at state
    exact .refused label nonce state held (by simp [Quiet, PacketCall.Reports])
  · rw [publicRead] at state
    dsimp only at state ⊢
    have kind : Course env Key packet framer (processKind env (.goOn Version) publicHeader packet
        unread { framer with headers }) := by
      unfold processKind
      split_ifs
      · unfold processVersionNegotiationPacket
        split <;> exact .refused label nonce state held (by simp [Quiet, PacketCall.Reports])
      · exact course_processPublicResetPacket held state
      · exact course_processDataPacket closed held state publicRead
    have goesOn : ¬¬(PacketAnswers.goOn Version).onUnauthenticatedPublicHeader publicHeader =
        true := by
      simp [PacketAnswers.goOn]
    rw [if_neg goesOn]
    split_ifs with mismatch goesOn
    · exact kind.behind (by simp [Quiet, PacketCall.Reports])
    · exact absurd rfl goesOn
    · exact kind.behind (by simp [Quiet, PacketCall.Reports])

end Opening

/-! ### Authenticity -/

section Authenticity

variable (env : PacketEnv Version Encrypter Decrypter) {Key : Decrypter → Prop}
  {perspective : Perspective} (version : Version)

/-- What opens under one of the keys was encrypted by the other side. -/
def Authentic (Key : Decrypter → Prop) (sent : List (DataPacket Version perspective)) : Prop :=
  ∀ decrypter packetNumber associatedData ciphertext plaintext, Key decrypter →
    env.crypto.decryptPacket decrypter packetNumber associatedData ciphertext = some plaintext →
    ∃ packet ∈ sent, packet.header.packetNumber = packetNumber ∧
      packet.associatedData env.labels version = associatedData ∧
      packet.plaintext env.io = plaintext

theorem header_of_processPacketNumber {publicHeader header : QuicPublicHeader Version}
    {unread encrypted : List UInt8} {headers : HeaderState Version}
    (read : processPacketNumber env.io publicHeader unread headers = .ok (header, encrypted)) :
    header = { publicHeader with packetNumber := header.packetNumber } := by
  unfold processPacketNumber at read
  split at read
  · cases read
  · dsimp only at read
    split_ifs at read
    cases read
    rfl

/-- The payload of a packet that was sent is reported, unless the packet is too large. -/
theorem processPayload_sent (receiver : HeaderState Version)
    (packet : DataPacket Version perspective) (length : Nat)
    (framer : PacketFramer Version Decrypter) :
    ∃ calls, ReportedFrames ⟨env.io, env.limits, packet.header.packetHeader⟩ packet.room 0
        packet.frames calls ∧
      (processPayload env (.goOn Version)
        (receivedHeader version receiver packet.header packet.header.packetNumber) length
        (packet.plaintext env.io) framer).calls =
          if kMaxPacketSize < length then [.onError .packetTooLarge]
          else calls.map .onFrame ++ [.onPacketComplete] := by
  have ⟨calls, reported, read⟩ := exists_record_framesBytes
    ⟨env.io, env.limits, packet.header.packetHeader⟩ packet.someFrames packet.framesWellFormed
    packet.framesFit
  refine ⟨calls, reported, ?_⟩
  unfold processPayload
  have goesOn : ¬¬(PacketAnswers.goOn Version).onPacketHeader
      (receivedHeader version receiver packet.header packet.header.packetNumber) = true := by
    simp [PacketAnswers.goOn]
  rw [if_neg goesOn]
  split_ifs
  · rfl
  · have same : (receivedHeader version receiver packet.header
        packet.header.packetNumber).packetHeader = packet.header.packetHeader := rfl
    have plain : packet.plaintext env.io = framesBytes env.io packet.header.packetHeader
        (packet.packetLength - packet.header.size) packet.frames := rfl
    rw [same, plain, read]

variable (Key perspective) in
/-- The framer reads packets of the other side, and has kept what it wrote last. -/
structure Listening (receiver : HeaderState Version) (framer : PacketFramer Version Decrypter) :
    Prop where
  faces : framer.headers.perspective = perspective.other
  connectionId : framer.headers.lastSerializedConnectionId = receiver.lastSerializedConnectionId
  held : KeysHeld Key framer.keys

variable {receiver : HeaderState Version} {framer : PacketFramer Version Decrypter}

variable [DecidableEq Version] {env version} {sent : List (DataPacket Version perspective)}

/-- A packet that is opened was sent: its header is the one that was written, whatever the
window is, and its plaintext are the frames that were written. -/
theorem Opened.authentic (authentic : Authentic env version Key sent)
    (closed : ∀ decrypter nonce, Key decrypter →
      Key (env.crypto.setDiversificationNonce decrypter nonce))
    {framer : PacketFramer Version Decrypter} (held : KeysHeld Key framer.keys)
    (faces : framer.headers.perspective = perspective.other) {bytes : List UInt8}
    (opened : Opened env bytes framer) :
    ∃ packet ∈ sent, opened.header =
        receivedHeader version framer.headers packet.header packet.header.packetNumber ∧
      opened.plaintext = packet.plaintext env.io := by
  have ⟨decrypter, own, opens⟩ := (decryptPayload_spec closed held opened.headers.perspective
    opened.header (bytes.take opened.header.size) opened.encrypted).2
    opened.plaintext opened.level (by rw [opened.decrypted])
  have ⟨packet, member, number, associated, plain⟩ := authentic _ _ _ _ _ own opens
  -- The bytes begin with the header that was sent, so that this is what was read.
  have split : bytes = publicHeaderWire env.labels perspective version packet.header ++
      (BigEndian.encode packet.header.packetNumberLength.bytes packet.header.packetNumber ++
        bytes.drop opened.header.size) := by
    rw [← List.append_assoc]
    exact (List.take_append_drop _ bytes).symm.trans (congrArg (· ++ _) associated.symm)
  have publicRead := (congrArg (processPublicHeader env.io env.labels · framer.headers)
    split).symm.trans opened.publicRead
  rw [processPublicHeader_wire env.io packet.wellFormed faces] at publicRead
  have publicHeader : receivedHeader version framer.headers packet.header 0 =
      opened.publicHeader := congrArg Prod.fst (Except.ok.inj (congrArg Prod.fst publicRead))
  have header := header_of_processPacketNumber env opened.numberRead
  refine ⟨packet, member, ?_, plain.symm⟩
  rw [header, ← publicHeader, ← number]
  rfl

variable (env version) in
/-- What may be reported of some bytes: nothing, or a packet that was sent, with its frames. -/
inductive Genuine (receiver : HeaderState Version) (sent : List (DataPacket Version perspective)) :
    List (PacketCall Version) → Prop
  | quiet {calls : List (PacketCall Version)} (quiet : Quiet calls) : Genuine receiver sent calls
  | tooLarge {packet : DataPacket Version perspective} (member : packet ∈ sent)
      {before : List (PacketCall Version)} (quiet : Quiet before) :
      Genuine receiver sent (before ++
        [.onPacketHeader (receivedHeader version receiver packet.header packet.header.packetNumber),
          .onError .packetTooLarge])
  | reported {packet : DataPacket Version perspective} (member : packet ∈ sent)
      {before : List (PacketCall Version)} (quiet : Quiet before) {calls : List VisitorCall}
      (reported : ReportedFrames ⟨env.io, env.limits, packet.header.packetHeader⟩ packet.room 0
        packet.frames calls) :
      Genuine receiver sent (before ++
        .onPacketHeader (receivedHeader version receiver packet.header packet.header.packetNumber) ::
          (calls.map .onFrame ++ [.onPacketComplete]))

theorem Opened.headers_eq {bytes : List UInt8} (opened : Opened env bytes framer) :
    ∃ label nonce, opened.headers =
      { framer.headers with lastVersionLabel := label, lastNonce := nonce } := by
  have state := processPublicHeader_state env bytes framer.headers
  rwa [opened.publicRead] at state

/-- One packet: the framer goes on listening, reports what is genuine, and takes over the
number of a packet that was sent. -/
theorem processPacket_authentic (authentic : Authentic env version Key sent)
    (closed : ∀ decrypter nonce, Key decrypter →
      Key (env.crypto.setDiversificationNonce decrypter nonce))
    (listening : Listening Key perspective receiver framer) (bytes : List UInt8) :
    Listening Key perspective receiver (processPacket env (.goOn Version) bytes framer).framer ∧
      Genuine env version receiver sent (processPacket env (.goOn Version) bytes framer).calls ∧
      ((processPacket env (.goOn Version) bytes framer).framer.headers.largestPacketNumber =
          framer.headers.largestPacketNumber ∨
        ∃ packet ∈ sent,
          (processPacket env (.goOn Version) bytes framer).framer.headers.largestPacketNumber =
            packet.header.packetNumber) := by
  cases course_processPacket closed listening.held bytes with
  | refused label nonce headers keys quiet =>
      refine ⟨⟨?_, ?_, keys⟩, .quiet quiet, Or.inl ?_⟩
      · rw [headers]
        exact listening.faces
      · rw [headers]
        exact listening.connectionId
      · rw [headers]
  | opened opened after quiet calls =>
      have ⟨packet, member, header, plain⟩ :=
        opened.authentic authentic closed listening.held listening.faces
      rw [receivedHeader_congr listening.connectionId] at header
      have ⟨label, nonce, headers⟩ := opened.headers_eq
      have keysHeld := (decryptPayload_spec closed listening.held opened.headers.perspective
        opened.header (bytes.take opened.header.size) opened.encrypted).1
      rw [opened.decrypted] at keysHeld
      have ⟨frameCalls, reported, payload⟩ := processPayload_sent env version receiver packet
        bytes.length opened.after
      rw [header, plain, payload] at calls
      rw [after, calls]
      refine ⟨⟨?_, ?_, keysHeld⟩, ?_, ?_⟩
      · rw [Opened.after, headers]
        exact listening.faces
      · rw [Opened.after, headers]
        exact listening.connectionId
      · split_ifs
        · exact .tooLarge member quiet
        · exact .reported member quiet reported
      · rw [Opened.after, headers]
        rcases Nat.le_total opened.header.packetNumber framer.headers.largestPacketNumber with
          old | new
        · exact Or.inl (Nat.max_eq_right old)
        · right
          refine ⟨packet, member, (Nat.max_eq_left new).trans ?_⟩
          rw [header]
          rfl

end Authenticity

end StupidSimple.Quic
