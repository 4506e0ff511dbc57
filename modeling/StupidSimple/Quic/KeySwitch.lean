import StupidSimple.Quic.PacketRuns

/-!
Owns the two decrypters of a framer over runs of packets. Without the latch packets of both
keys are delivered in any order within their windows, and those that carry a nonce make the
key ready that waits for it; with the latch the old key is never used again once the new one
has opened a packet.
-/

namespace StupidSimple.Quic

open StupidSimple.Library

variable {Version Encrypter Decrypter : Type}

/-- `SetDecrypter`, while there is no alternative. -/
def DecrypterState.setDecrypter (level : EncryptionLevel) (decrypter : Decrypter)
    (keys : DecrypterState Decrypter) : DecrypterState Decrypter :=
  { keys with decrypter, decrypterLevel := level }

def DecrypterState.setAlternativeDecrypter (level : EncryptionLevel) (decrypter : Decrypter)
    (latchOnceUsed : Bool) (keys : DecrypterState Decrypter) : DecrypterState Decrypter :=
  { keys with
    alternativeDecrypter := some decrypter
    alternativeDecrypterLevel := level
    alternativeDecrypterLatch := latchOnceUsed }

/-! ### Two keys without a latch -/

/-- What encrypts under a key, and its decrypters at one level: its own ones, of which some may
wait for a nonce that the packets of the key carry, and those that are ready to decrypt. -/
structure PacketKey (crypto : Crypto Encrypter Decrypter) where
  encrypter : Encrypter
  level : EncryptionLevel
  Own : Decrypter → Prop
  Ready : Decrypter → Prop
  Diversifies : DiversificationNonce → Prop
  own_of_ready : ∀ decrypter, Ready decrypter → Own decrypter
  decrypts : ∀ decrypter, Ready decrypter → Decrypts crypto encrypter decrypter
  ready_of_nonce : ∀ decrypter nonce, Own decrypter → Diversifies nonce →
    Ready (crypto.setDiversificationNonce decrypter nonce)

/-- A packet with a nonce of the key, or one without where no decrypter of the key waits for a
nonce. A client takes no packet without a nonce for an alternative of the initial level. -/
def PacketKey.Accepts {crypto : Crypto Encrypter Decrypter} (key : PacketKey crypto)
    (perspective : Perspective) : Option DiversificationNonce → Prop
  | some nonce => key.Diversifies nonce
  | none => (∀ decrypter, key.Own decrypter → key.Ready decrypter) ∧
      ¬(key.level = .initial ∧ perspective = .isClient)

section TwoKeys

variable {crypto : Crypto Encrypter Decrypter} {pair : Bool → PacketKey crypto}

/-- No decrypter of one key opens what is encrypted under the other. -/
def Exclusive (pair : Bool → PacketKey crypto) : Prop :=
  ∀ key decrypter packetNumber associatedData plaintext ciphertext, (pair !key).Own decrypter →
    crypto.encryptPacket (pair key).encrypter packetNumber associatedData plaintext =
      some ciphertext →
    crypto.decryptPacket decrypter packetNumber associatedData ciphertext = none

/-- The framer has both keys, one of them first and ready, and drops none. -/
def HasBoth (pair : Bool → PacketKey crypto) (keys : DecrypterState Decrypter) : Prop :=
  ∃ first decrypter alternative, (pair first).Ready decrypter ∧ (pair !first).Own alternative ∧
    keys = ⟨decrypter, (pair first).level, some alternative, (pair !first).level, false⟩

/-- A packet that the key accepts makes a decrypter of the key ready. -/
theorem ready_diversified {key : PacketKey crypto} {perspective : Perspective}
    {nonce : Option DiversificationNonce} (accepts : key.Accepts perspective nonce)
    {decrypter : Decrypter} (own : key.Own decrypter) :
    key.Ready (diversified crypto nonce decrypter) := by
  cases nonce with
  | none => exact accepts.1 decrypter own
  | some nonce => exact key.ready_of_nonce decrypter nonce own accepts

/-- Whichever key comes first, a packet is opened by its own one. -/
theorem decryptPayload_hasBoth (exclusive : Exclusive pair) {keys : DecrypterState Decrypter}
    (both : HasBoth pair keys) {perspective : Perspective} {header : QuicPublicHeader Version}
    {key : Bool} (accepts : (pair key).Accepts perspective header.nonce)
    {associatedData plaintext ciphertext : List UInt8}
    (encrypted : crypto.encryptPacket (pair key).encrypter header.packetNumber associatedData
      plaintext = some ciphertext) :
    ∃ after, decryptPayload crypto perspective header associatedData ciphertext keys =
      (some (plaintext, (pair key).level), after) ∧ HasBoth pair after := by
  obtain ⟨first, decrypter, alternative, ready, waiting, rfl⟩ := both
  by_cases own : first = key
  · subst own
    have opens := (pair first).decrypts decrypter ready _ _ _ _ encrypted
    refine ⟨_, ?_, first, decrypter, alternative, ready, waiting, rfl⟩
    unfold decryptPayload
    rw [opens]
  · have other : first = !key := by
      cases first <;> cases key <;> simp_all
    subst other
    rw [Bool.not_not] at waiting
    have readied := ready_diversified accepts waiting
    have refused := exclusive key decrypter _ _ _ _ ((pair !key).own_of_ready _ ready) encrypted
    have opens := (pair key).decrypts _ readied _ _ _ _ encrypted
    have tried : ¬((pair key).level = .initial ∧ perspective = .isClient ∧
        header.nonce = none) := by
      rintro ⟨initial, client, plain⟩
      rw [plain] at accepts
      exact accepts.2 ⟨initial, client⟩
    refine ⟨⟨diversified crypto header.nonce alternative, (pair key).level, some decrypter,
      (pair !key).level, false⟩, ?_, key, _, decrypter, readied,
        (pair !key).own_of_ready _ ready, rfl⟩
    unfold decryptPayload
    simp only [Bool.not_not, refused, opens, DecrypterState.switch, Bool.false_eq_true, if_false]
    rw [if_neg tried]

variable {env : PacketEnv Version Encrypter Decrypter} {perspective : Perspective}
  {pair : Bool → PacketKey env.crypto} [DecidableEq Version]

/-- Packets of two keys, in any order within their windows and each as often as it likes, are
delivered one by one at the level of their own key, and both keys are kept. -/
theorem packets_delivered_by_either_key (exclusive : Exclusive pair) {bufferLen : Nat}
    (bufferShort : bufferLen ≤ kMaxPacketSize) {sender : HeaderState Version}
    (own : sender.perspective = perspective) {receiver : PacketFramer Version Decrypter}
    (faces : receiver.headers.perspective = perspective.other)
    (versions : receiver.headers.version = sender.version)
    (both : HasBoth pair receiver.keys) (arrivals : List (DataPacket Version perspective × Bool))
    (accepted : ∀ arrival ∈ arrivals,
      (pair arrival.2).Accepts receiver.headers.perspective arrival.1.header.nonce)
    (encrypted : ∀ arrival ∈ arrivals,
      arrival.1.Encrypted env (pair arrival.2).encrypter bufferLen sender.version)
    (narrow : receiver.headers.largestPacketNumber + 1 < 2 ^ 64)
    (windows : InWindows receiver.headers.largestPacketNumber (arrivals.map Prod.fst)) :
    List.Forall₂
        (fun arrival calls => Delivered env sender.version receiver.headers
          (pair arrival.2).level arrival.1 calls) arrivals
        (processPackets env (arrivals.map fun arrival =>
          arrival.1.send env (pair arrival.2).encrypter bufferLen sender) receiver).1 ∧
      HasBoth pair (processPackets env (arrivals.map fun arrival =>
        arrival.1.send env (pair arrival.2).encrypter bufferLen sender) receiver).2.keys := by
  induction arrivals generalizing receiver with
  | nil => exact ⟨.nil, both⟩
  | cons arrival rest inductionHypothesis =>
      obtain ⟨packet, key⟩ := arrival
      have ⟨packetAccepted, othersAccepted⟩ := List.forall_mem_cons.mp accepted
      have ⟨packetEncrypted, others⟩ := List.forall_mem_cons.mp encrypted
      have ⟨ciphertext, made, sent, fits⟩ := DataPacket.send_eq own packetEncrypted
      have accepts : (pair key).Accepts receiver.headers.perspective
          (receivedHeader sender.version receiver.headers packet.header
            packet.header.packetNumber).nonce := packetAccepted
      have ⟨keys, decrypted, stillBoth⟩ := decryptPayload_hasBoth exclusive both accepts made
      have ⟨delivered, after⟩ := processPacket_delivered faces narrow windows.1
        (versions ▸ decrypted) (by rw [versions, ← sent]; omega)
      rw [versions, ← sent] at delivered after
      have stillNarrow : max packet.header.packetNumber receiver.headers.largestPacketNumber + 1 <
          2 ^ 64 := by
        have := packet.packetNumber_lt
        omega
      let next : PacketFramer Version Decrypter :=
        { deliveredState env sender.version packet receiver with keys }
      have facesNext : next.headers.perspective = perspective.other := faces
      have ⟨later, kept⟩ := inductionHypothesis facesNext versions stillBoth othersAccepted
        others stillNarrow windows.2
      rw [List.map_cons, processPackets, after]
      constructor
      · refine .cons ?_ ?_
        · exact delivered
        · exact later.imp fun _ _ => Delivered.congr rfl
      · exact kept

end TwoKeys

/-! ### The latch -/

/-- The levels at which packets were decrypted. -/
def decryptedLevels (calls : List (PacketCall Version)) : List EncryptionLevel :=
  calls.filterMap fun
    | .onDecryptedPacket level => some level
    | _ => none

theorem decryptedLevels_append (first second : List (PacketCall Version)) :
    decryptedLevels (first ++ second) = decryptedLevels first ++ decryptedLevels second :=
  List.filterMap_append

/-- A packet uses the keys once, or not at all. -/
inductive UsesKeys (crypto : Crypto Encrypter Decrypter) (perspective : Perspective)
    (keys : DecrypterState Decrypter) (processed : Processed Version Decrypter) : Prop where
  | not (kept : processed.framer.keys = keys) (silent : decryptedLevels processed.calls = [])
  | once (header : QuicPublicHeader Version) (associatedData encrypted : List UInt8)
      (after : processed.framer.keys =
        (decryptPayload crypto perspective header associatedData encrypted keys).2)
      (levels : decryptedLevels processed.calls = ((decryptPayload crypto perspective header
        associatedData encrypted keys).1.map Prod.snd).toList)

section Latch

variable {env : PacketEnv Version Encrypter Decrypter}

theorem UsesKeys.behind {perspective : Perspective} {keys : DecrypterState Decrypter}
    {processed : Processed Version Decrypter}
    (uses : UsesKeys env.crypto perspective keys processed) {front : List (PacketCall Version)}
    (silent : decryptedLevels front = []) :
    UsesKeys env.crypto perspective keys (processed.behind front) := by
  have same : decryptedLevels (processed.behind front).calls = decryptedLevels processed.calls := by
    show decryptedLevels (front ++ processed.calls) = _
    rw [decryptedLevels_append, silent, List.nil_append]
  cases uses with
  | not kept quiet => exact .not kept (same.trans quiet)
  | once header associatedData encrypted after levels =>
      exact .once header associatedData encrypted after (same.trans levels)

theorem decryptedLevels_processPayload (header : QuicPublicHeader Version) (length : Nat)
    (plaintext : List UInt8) (framer : PacketFramer Version Decrypter) :
    decryptedLevels
      (processPayload env (.goOn Version) header length plaintext framer).calls = [] := by
  have frames (calls : List VisitorCall) :
      decryptedLevels (calls.map .onFrame : List (PacketCall Version)) = [] := by
    rw [decryptedLevels, List.filterMap_map]
    exact List.filterMap_eq_nil_iff.mpr fun _ _ => rfl
  unfold processPayload
  split_ifs
  · rfl
  · split
    · rw [decryptedLevels_append, frames]
      rfl
    · rw [decryptedLevels_append, frames]
      rfl
  · rfl

theorem usesKeys_processDataPacket (header : QuicPublicHeader Version) (packet unread : List UInt8)
    (framer : PacketFramer Version Decrypter) :
    UsesKeys env.crypto framer.headers.perspective framer.keys
      (processDataPacket env (.goOn Version) header packet unread framer) := by
  unfold processDataPacket
  split
  · exact .not rfl rfl
  · next numbered encrypted _ =>
      split_ifs
      · apply UsesKeys.behind _ rfl
        refine .once numbered (packet.take numbered.size) encrypted ?_ ?_
        · unfold processEncrypted
          rw [getAssociatedDataFromEncryptedPacket_eq]
          split
          · next keys outcome => rw [outcome]
          · next plaintext level keys outcome =>
              rw [outcome]
              exact congrArg PacketFramer.keys (processPayload_framer env _ _ _ _)
        · unfold processEncrypted
          rw [getAssociatedDataFromEncryptedPacket_eq]
          split
          · next keys outcome =>
              rw [outcome]
              rfl
          · next plaintext level keys outcome =>
              rw [outcome, Processed.behind, decryptedLevels_append,
                decryptedLevels_processPayload]
              rfl
      · exact .not rfl rfl

variable (env) in
theorem usesKeys_processKind (header : QuicPublicHeader Version) (packet unread : List UInt8)
    (framer : PacketFramer Version Decrypter) :
    UsesKeys env.crypto framer.headers.perspective framer.keys
      (processKind env (.goOn Version) header packet unread framer) := by
  unfold processKind
  split_ifs
  · unfold processVersionNegotiationPacket
    split <;> exact .not rfl rfl
  · unfold processPublicResetPacket
    split
    · exact .not rfl rfl
    · split_ifs
      · split <;> exact .not rfl rfl
      · exact .not rfl rfl
  · exact usesKeys_processDataPacket header packet unread framer

variable (env) in
theorem usesKeys_processPacket [DecidableEq Version] (packet : List UInt8)
    (framer : PacketFramer Version Decrypter) :
    UsesKeys env.crypto framer.headers.perspective framer.keys
      (processPacket env (.goOn Version) packet framer) := by
  have ⟨label, nonce, state⟩ := processPublicHeader_state env packet framer.headers
  unfold processPacket
  split
  · exact .not rfl rfl
  · next header unread headers read =>
      rw [read] at state
      have faces : headers.perspective = framer.headers.perspective := by
        rw [show headers = _ from state]
      have kind := usesKeys_processKind env header packet unread { framer with headers }
      dsimp only at kind
      rw [faces] at kind
      dsimp only
      split_ifs
      · exact kind.behind rfl
      · exact .not rfl rfl
      · exact kind.behind rfl
      · exact .not rfl rfl

/-- The framer still has its old key, and a latched one beside it or none. -/
structure Waiting (NewKey : Decrypter → Prop) (old new : EncryptionLevel)
    (keys : DecrypterState Decrypter) : Prop where
  latched : keys.alternativeDecrypterLatch = true
  decrypterLevel : keys.decrypterLevel = old
  alternativeLevel : keys.alternativeDecrypterLevel = new
  alternative : ∀ alternative, keys.alternativeDecrypter = some alternative → NewKey alternative

/-- The framer has the new key, and no other. -/
structure Switched (NewKey : Decrypter → Prop) (new : EncryptionLevel)
    (keys : DecrypterState Decrypter) : Prop where
  decrypter : NewKey keys.decrypter
  decrypterLevel : keys.decrypterLevel = new
  alone : keys.alternativeDecrypter = none

variable {NewKey : Decrypter → Prop} {old new : EncryptionLevel} {keys : DecrypterState Decrypter}

/-- Before the switch a packet is opened by the old key, or it is the one that switches. -/
theorem Waiting.decryptPayload
    (closed : ∀ decrypter nonce, NewKey decrypter →
      NewKey (env.crypto.setDiversificationNonce decrypter nonce))
    (waiting : Waiting NewKey old new keys) (perspective : Perspective)
    (header : QuicPublicHeader Version) (associatedData encrypted : List UInt8) :
    let result := decryptPayload env.crypto perspective header associatedData encrypted keys
    (∃ few ≤ 1, (result.1.map Prod.snd).toList = List.replicate few old ∧
        Waiting NewKey old new result.2) ∨
      ((result.1.map Prod.snd).toList = [new] ∧ Switched NewKey new result.2) := by
  unfold Quic.decryptPayload
  cases env.crypto.decryptPacket keys.decrypter header.packetNumber associatedData encrypted with
  | some plaintext =>
      refine Or.inl ⟨1, le_rfl, ?_, waiting⟩
      show [keys.decrypterLevel] = [old]
      rw [waiting.decrypterLevel]
  | none =>
      cases found : keys.alternativeDecrypter with
      | none => exact Or.inl ⟨0, Nat.zero_le 1, rfl, waiting⟩
      | some alternative =>
          have own : NewKey (diversified env.crypto header.nonce alternative) :=
            diversified_held closed (waiting.alternative alternative found) header.nonce
          have still : Waiting NewKey old new { keys with
              alternativeDecrypter := some (diversified env.crypto header.nonce alternative) } :=
            ⟨waiting.latched, waiting.decrypterLevel, waiting.alternativeLevel,
              fun other same => Option.some.inj same ▸ own⟩
          dsimp only
          split_ifs
          · exact Or.inl ⟨0, Nat.zero_le 1, rfl, still⟩
          · cases env.crypto.decryptPacket (diversified env.crypto header.nonce alternative)
              header.packetNumber associatedData encrypted with
            | none => exact Or.inl ⟨0, Nat.zero_le 1, rfl, still⟩
            | some plaintext =>
                refine Or.inr ⟨congrArg (fun level => [level]) waiting.alternativeLevel, ?_⟩
                show Switched NewKey new (DecrypterState.switch _ _)
                rw [DecrypterState.switch, if_pos waiting.latched]
                exact ⟨own, waiting.alternativeLevel, rfl⟩

variable (env) in
/-- After the switch there is only the new key. -/
theorem Switched.decryptPayload (switched : Switched NewKey new keys) (perspective : Perspective)
    (header : QuicPublicHeader Version) (associatedData encrypted : List UInt8) :
    let result := decryptPayload env.crypto perspective header associatedData encrypted keys
    (∃ few ≤ 1, (result.1.map Prod.snd).toList = List.replicate few new) ∧
      Switched NewKey new result.2 := by
  unfold Quic.decryptPayload
  rw [switched.alone]
  cases env.crypto.decryptPacket keys.decrypter header.packetNumber associatedData encrypted with
  | some plaintext =>
      refine ⟨⟨1, le_rfl, ?_⟩, switched⟩
      show [keys.decrypterLevel] = [new]
      rw [switched.decrypterLevel]
  | none => exact ⟨⟨0, Nat.zero_le 1, rfl⟩, switched⟩

variable [DecidableEq Version]

/-- The levels of all packets of a run. -/
def levelsOfRun (env : PacketEnv Version Encrypter Decrypter) (packets : List (List UInt8))
    (framer : PacketFramer Version Decrypter) : List EncryptionLevel :=
  (processPackets env packets framer).1.flatMap decryptedLevels

theorem levelsOfRun_cons (packet : List UInt8) (rest : List (List UInt8))
    (framer : PacketFramer Version Decrypter) :
    levelsOfRun env (packet :: rest) framer =
      decryptedLevels (processPacket env (.goOn Version) packet framer).calls ++
        levelsOfRun env rest (processPacket env (.goOn Version) packet framer).framer :=
  List.flatMap_cons

variable (env) in
theorem Switched.run {framer : PacketFramer Version Decrypter}
    (switched : Switched NewKey new framer.keys) (packets : List (List UInt8)) :
    (∃ count, levelsOfRun env packets framer = List.replicate count new) ∧
      Switched NewKey new (processPackets env packets framer).2.keys := by
  induction packets generalizing framer with
  | nil => exact ⟨⟨0, rfl⟩, switched⟩
  | cons packet rest inductionHypothesis =>
      have step : (∃ few, decryptedLevels (processPacket env (.goOn Version) packet framer).calls =
            List.replicate few new) ∧
          Switched NewKey new (processPacket env (.goOn Version) packet framer).framer.keys := by
        cases usesKeys_processPacket env packet framer with
        | not kept silent => exact ⟨⟨0, silent⟩, kept ▸ switched⟩
        | once header associatedData encrypted after levels =>
            have ⟨⟨few, _, own⟩, still⟩ := switched.decryptPayload env
              framer.headers.perspective header associatedData encrypted
            exact ⟨⟨few, levels.trans own⟩, after ▸ still⟩
      have ⟨⟨few, own⟩, still⟩ := step
      have ⟨⟨count, later⟩, final⟩ := inductionHypothesis still
      refine ⟨⟨few + count, ?_⟩, final⟩
      rw [levelsOfRun_cons, own, later, List.replicate_append_replicate]

variable (env) in
/-- Whatever arrives, the levels of a latched framer change once at most, from the old one
to the new one; and once a packet was opened by the new key, the old key is gone. -/
theorem latch_never_goes_back
    (closed : ∀ decrypter nonce, NewKey decrypter →
      NewKey (env.crypto.setDiversificationNonce decrypter nonce))
    {framer : PacketFramer Version Decrypter} (waiting : Waiting NewKey old new framer.keys)
    (packets : List (List UInt8)) :
    ∃ before after,
      levelsOfRun env packets framer = List.replicate before old ++ List.replicate after new ∧
      (0 < after → Switched NewKey new (processPackets env packets framer).2.keys) ∧
      (after = 0 → Waiting NewKey old new (processPackets env packets framer).2.keys) := by
  induction packets generalizing framer with
  | nil => exact ⟨0, 0, rfl, fun none => absurd none (Nat.lt_irrefl 0), fun _ => waiting⟩
  | cons packet rest inductionHypothesis =>
      have step : (∃ few, decryptedLevels (processPacket env (.goOn Version) packet framer).calls =
            List.replicate few old ∧
            Waiting NewKey old new (processPacket env (.goOn Version) packet framer).framer.keys) ∨
          (decryptedLevels (processPacket env (.goOn Version) packet framer).calls = [new] ∧
            Switched NewKey new
              (processPacket env (.goOn Version) packet framer).framer.keys) := by
        cases usesKeys_processPacket env packet framer with
        | not kept silent => exact Or.inl ⟨0, silent, kept ▸ waiting⟩
        | once header associatedData encrypted after levels =>
            rw [levels, after]
            exact (waiting.decryptPayload closed framer.headers.perspective header associatedData
              encrypted).imp (fun ⟨few, _, all⟩ => ⟨few, all⟩) id
      rcases step with ⟨few, own, still⟩ | ⟨own, switched⟩
      · have ⟨before, after, later, final⟩ := inductionHypothesis still
        refine ⟨few + before, after, ?_, final⟩
        rw [levelsOfRun_cons, own, later, ← List.append_assoc, List.replicate_append_replicate]
      · have ⟨⟨count, later⟩, final⟩ := switched.run env rest
        refine ⟨0, count + 1, ?_, fun _ => final, fun none => absurd none (Nat.succ_ne_zero count)⟩
        rw [levelsOfRun_cons, own, later]
        rfl

end Latch

/-! ### A cipher of two keys -/

/-- A cipher that marks a packet with its key, and opens what has its mark. -/
def tagged : Crypto Bool Bool where
  encryptPacket key _ _ plaintext := some (key.toUInt8 :: plaintext)
  decryptPacket key _ _
    | mark :: plaintext => if mark = key.toUInt8 then some plaintext else none
    | [] => none
  setDiversificationNonce decrypter _ := decrypter

def taggedEnv : PacketEnv Unit Bool Bool where
  io := .networkOrder
  limits := idealEnv.limits
  labels := singleVersion
  crypto := tagged
  parseMessage _ := none
  getStartOfEncryptedData := idealEnv.getStartOfEncryptedData
  getStartOfEncryptedData_header _ := rfl

/-- A server with the old key and the new one as an alternative. -/
def changingServer (latchOnceUsed : Bool) : PacketFramer Unit Bool where
  headers := freshHeaders .isServer
  keys := (DecrypterState.setDecrypter .none false ⟨false, .none, none, .none, false⟩)
    |>.setAlternativeDecrypter .forwardSecure true latchOnceUsed

def sentUnder (packet : DataPacket Unit .isClient) (key : Bool) : List UInt8 :=
  packet.send taggedEnv key 100 (freshHeaders .isClient)

/-- With the latch the second packet under the old key is refused. -/
theorem latch_never_goes_back_tagged :
    let packets := [sentUnder firstPacket false, sentUnder laterPacket true,
      sentUnder firstPacket false]
    levelsOfRun taggedEnv packets (changingServer true) = [.none, .forwardSecure] ∧
      Switched (· = true) .forwardSecure
        (processPackets taggedEnv packets (changingServer true)).2.keys := by
  intro packets
  have levels : levelsOfRun taggedEnv packets (changingServer true) = [.none, .forwardSecure] := by
    decide +kernel
  have waiting : Waiting (· = true) .none .forwardSecure (changingServer true).keys :=
    ⟨rfl, rfl, rfl, fun _ same => (Option.some.inj same).symm⟩
  have ⟨before, after, split, switched, _⟩ :=
    latch_never_goes_back taggedEnv (fun _ _ same => same) waiting packets
  refine ⟨levels, switched ?_⟩
  by_contra none
  rw [Nat.eq_zero_of_not_pos none, levels, List.replicate_zero, List.append_nil] at split
  have old : EncryptionLevel.forwardSecure ∈ List.replicate before EncryptionLevel.none := by
    rw [← split]
    decide
  cases List.eq_of_mem_replicate old

/-! ### A key that waits for a nonce -/

/-- A cipher like `tagged`, whose decrypters open nothing until they are ready; a nonce makes
them so. -/
def waiting : Crypto Bool (Bool × Bool) where
  encryptPacket key _ _ plaintext := some (key.toUInt8 :: plaintext)
  decryptPacket decrypter _ _
    | mark :: plaintext =>
        if decrypter.2 ∧ mark = decrypter.1.toUInt8 then some plaintext else none
    | [] => none
  setDiversificationNonce decrypter _ := (decrypter.1, true)

/-- The key of the initial level waits for a nonce, the other one is ready. -/
def waitingKeys (key : Bool) : PacketKey waiting where
  encrypter := key
  level := if key then .initial else .none
  Own decrypter := decrypter.1 = key ∧ (key ∨ decrypter.2)
  Ready decrypter := decrypter = (key, true)
  Diversifies _ := True
  own_of_ready := by
    rintro _ rfl
    exact ⟨rfl, Or.inr rfl⟩
  decrypts := by
    rintro _ rfl packetNumber associatedData plaintext ciphertext encrypted
    cases encrypted
    exact if_pos ⟨rfl, rfl⟩
  ready_of_nonce := by
    rintro ⟨_, ready⟩ nonce ⟨rfl, _⟩ _
    rfl

theorem waitingKeys_exclusive : Exclusive waitingKeys := by
  rintro key ⟨_, ready⟩ packetNumber associatedData plaintext ciphertext ⟨rfl, _⟩ encrypted
  cases encrypted
  have marked : key.toUInt8 ≠ (!key).toUInt8 := by cases key <;> decide
  exact if_neg fun both => marked both.2

def waitingEnv : PacketEnv Unit Bool (Bool × Bool) where
  io := .networkOrder
  limits := idealEnv.limits
  labels := singleVersion
  crypto := waiting
  parseMessage _ := none
  getStartOfEncryptedData := idealEnv.getStartOfEncryptedData
  getStartOfEncryptedData_header _ := rfl

/-- A client whose alternative decrypter is of the initial level and waits for a nonce. -/
def waitingClient : PacketFramer Unit (Bool × Bool) where
  headers := freshHeaders .isClient
  keys := (DecrypterState.setDecrypter .none (false, true)
      ⟨(false, true), .none, none, .none, false⟩)
    |>.setAlternativeDecrypter .initial (true, false) false

def serverHeader (packetNumber : Nat) (nonce : Option DiversificationNonce) :
    QuicPublicHeader Unit :=
  { clientHeader packetNumber false with nonce }

theorem serverHeader_wellFormed (packetNumber : Nat) (nonce : Option DiversificationNonce) :
    (serverHeader packetNumber nonce).WellFormed .isServer where
  data := rfl
  flagged := (rfl : readSequenceNumberLength 1 = .packet2Byte)
  connectionId_lt := (by decide : 7 < 2 ^ 64)
  version flagged := absurd flagged Bool.false_ne_true
  nonce _ := rfl

theorem size_serverHeader_le (packetNumber : Nat) (nonce : Option DiversificationNonce) :
    (serverHeader packetNumber nonce).size ≤ 43 := by
  cases nonce with
  | none => exact (by decide : 11 ≤ 43)
  | some nonce => exact Nat.le_refl 43

def serverPacket (packetNumber : Nat) (nonce : Option DiversificationNonce)
    (some : packetNumber ≠ 0) (narrow : packetNumber + 1 < 2 ^ 64) :
    DataPacket Unit .isServer where
  header := serverHeader packetNumber nonce
  frames := [.ping]
  packetLength := 60
  wellFormed := serverHeader_wellFormed packetNumber nonce
  packetNumber_ne_zero := some
  packetNumber_lt := narrow
  someFrames := by decide
  framesWellFormed := by
    intro frame member
    obtain rfl := List.mem_singleton.mp member
    trivial
  headerFits := (size_serverHeader_le packetNumber nonce).trans (by decide)
  framesFit := by
    have size := size_serverHeader_le packetNumber nonce
    have room : 1 ≤ 60 - (serverHeader packetNumber nonce).size := by omega
    exact ⟨room, trivial⟩

def zeroNonce : DiversificationNonce := ⟨List.replicate 32 0, rfl⟩

/-- A packet with the nonce, one under the other key without, and the first one again. -/
def nonceArrivals : List (DataPacket Unit .isServer × Bool) :=
  [(serverPacket 2 (some zeroNonce) (by decide) (by decide), true),
    (serverPacket 1 none (by decide) (by decide), false),
    (serverPacket 2 (some zeroNonce) (by decide) (by decide), true)]

theorem packets_delivered_by_either_key_waiting :
    List.Forall₂
      (fun arrival calls => Delivered waitingEnv () waitingClient.headers
        (waitingKeys arrival.2).level arrival.1 calls) nonceArrivals
      (processPackets waitingEnv (nonceArrivals.map fun arrival =>
        arrival.1.send waitingEnv (waitingKeys arrival.2).encrypter 100 (freshHeaders .isServer))
          waitingClient).1 := by
  have own : (freshHeaders .isServer).perspective = .isServer := rfl
  have bufferShort : 100 ≤ kMaxPacketSize := by decide
  have encrypted : ∀ arrival ∈ nonceArrivals,
      arrival.1.Encrypted waitingEnv (waitingKeys arrival.2).encrypter 100 () := by
    intro arrival member
    refine ⟨_, rfl, ?_⟩
    simp only [nonceArrivals, List.mem_cons, List.not_mem_nil, or_false] at member
    rcases member with rfl | rfl | rfl <;> decide +kernel
  have accepted : ∀ arrival ∈ nonceArrivals,
      (waitingKeys arrival.2).Accepts waitingClient.headers.perspective arrival.1.header.nonce := by
    intro arrival member
    simp only [nonceArrivals, List.mem_cons, List.not_mem_nil, or_false] at member
    rcases member with rfl | rfl | rfl
    · trivial
    · refine ⟨?_, fun initial => absurd initial.1 (by decide)⟩
      rintro ⟨_, ready⟩ ⟨rfl, isReady⟩
      simpa [waitingKeys] using isReady
    · trivial
  have both : HasBoth waitingKeys waitingClient.keys :=
    ⟨false, (false, true), (true, false), rfl, ⟨rfl, Or.inl rfl⟩, rfl⟩
  exact (packets_delivered_by_either_key waitingKeys_exclusive bufferShort own rfl rfl both
    nonceArrivals accepted encrypted (by decide) ⟨by decide, by decide, by decide, trivial⟩).1

end StupidSimple.Quic
