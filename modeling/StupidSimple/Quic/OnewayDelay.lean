import StupidSimple.Quic.AckRoundTrip
import StupidSimple.Quic.DelayedAck
import StupidSimple.Quic.PlainSender
import StupidSimple.Quic.VideoSender

/-!
Owns the layout of stream packets on both ends: what `MyQuicReceiver` reads of the
packets that the two senders write, and the one-way delay that it computes from them.
-/

namespace StupidSimple.Quic

open StupidSimple.Library

/-! ### Reading a header back -/

section Header

variable (io : QuicData)

/-- The public flags that are written name the length that is read. -/
theorem readSequenceNumberLength_publicFlags (seq : Nat) :
    readSequenceNumberLength ((UInt8.ofNat (getPacketNumberFlags (getMinSeqLength seq) <<<
      kPublicHeaderSequenceNumberShift)).toNat >>> kPublicHeaderSequenceNumberShift) =
        getMinSeqLength seq := by
  unfold getMinSeqLength
  split_ifs <;> rfl

/-- The packet that is read is the one that was written. -/
theorem readPacket_writeHeader (seq type : Nat) (narrow : type < 256) (rest : List UInt8) :
    MyQuicReceiver.readPacket io (writeHeader io seq ++ UInt8.ofNat type :: rest) =
      (getMinSeqLength seq, seq % 256 ^ (getMinSeqLength seq).bytes, type, rest) := by
  have wide := bytes_le_eight (getMinSeqLength seq)
  have written := io.writeBytesToUInt64_eq _ seq wide
  have read : io.readBytesToUInt64 (getMinSeqLength seq).bytes
      (BigEndian.encode (getMinSeqLength seq).bytes seq ++ UInt8.ofNat type :: rest) =
        some (seq % 256 ^ (getMinSeqLength seq).bytes, UInt8.ofNat type :: rest) := by
    rw [io.readBytesToUInt64_eq _ _ wide, if_pos (by simp), List.take_left' (by simp),
      List.drop_left' (by simp), BigEndian.decode_encode]
  have typed : (UInt8.ofNat type).toNat = type := by
    rw [UInt8.toNat_ofNat']
    exact Nat.mod_eq_of_lt narrow
  unfold MyQuicReceiver.readPacket
  simp only [writeHeader, written, List.cons_append, List.headD_cons, List.tail_cons,
    readSequenceNumberLength_publicFlags, read, typed]

theorem readPacket_writeStreamHeader (seq : Nat) (rest : List UInt8) :
    MyQuicReceiver.readPacket io (writeStreamHeader io seq ++ rest) =
      (getMinSeqLength seq, seq % 256 ^ (getMinSeqLength seq).bytes, streamFrame, rest) := by
  rw [writeStreamHeader, List.append_assoc]
  exact readPacket_writeHeader io seq streamFrame (by decide) rest

/-! ### The time behind the type -/

theorem readOrZero_written {value : Nat} (fits : value < 2 ^ 32) (rest : List UInt8) :
    MyQuicReceiver.readOrZero io 4 (io.writeBytesToUInt64 4 value ++ rest) = value := by
  unfold MyQuicReceiver.readOrZero
  rw [io.writeBytesToUInt64_eq 4 value (by decide), io.readBytesToUInt64_eq 4 _ (by decide),
    if_pos (by simp), List.take_left' (by simp)]
  exact BigEndian.decode_encode_of_lt fits

theorem decode_replicate_zero (count : Nat) : BigEndian.decode (List.replicate count 0) = 0 := by
  induction count with
  | zero => rfl
  | succ count inductionHypothesis =>
      rw [List.replicate_succ, BigEndian.decode, inductionHypothesis]
      simp

/-- Zeros are read as zero, and so is nothing. -/
theorem readOrZero_zeros (count : Nat) :
    MyQuicReceiver.readOrZero io 4 (List.replicate count 0) = 0 := by
  unfold MyQuicReceiver.readOrZero
  rw [io.readBytesToUInt64_eq 4 _ (by decide)]
  split_ifs with enough
  · rw [List.take_replicate]
    exact decode_replicate_zero _
  · rfl

end Header

/-! ### Delays -/

/-- The delays that are passed to `RecordOnewayDelay`. -/
def MyQuicReceiver.delays : List ReceiverEvent → List Nat :=
  List.filterMap fun
    | .onewayDelay _ owd => some owd
    | _ => none

/-- The milliseconds from `sent` to `received`, modulo 2^32. -/
def delayMs (sent received : Nat) : Nat := (((received : Int) - sent) % 2 ^ 32).toNat

section Delays

variable (io : QuicData) (manager : QuicReceivedPacketManager) (receiver : MyQuicReceiver)

theorem delays_maybeSendAck (now : Nat) :
    MyQuicReceiver.delays (receiver.maybeSendAck io manager now).2 = [] := by
  unfold MyQuicReceiver.maybeSendAck
  split_ifs <;> rfl

theorem delays_onStreamPacket (now seq : Nat) (rest : List UInt8) :
    MyQuicReceiver.delays (receiver.onStreamPacket io manager now seq rest).2 =
      [MyQuicReceiver.onewayDelay io now rest] := by
  have losses : ∀ missing : List Nat,
      MyQuicReceiver.delays (missing.map .loss) = [] := by
    intro missing
    simp [MyQuicReceiver.delays, List.filterMap_map]
  have logged : ∀ missing : List Nat, MyQuicReceiver.delays
      (.onewayDelay seq (MyQuicReceiver.onewayDelay io now rest) :: missing.map .loss) =
        [MyQuicReceiver.onewayDelay io now rest] := by
    intro missing
    show _ :: MyQuicReceiver.delays (missing.map .loss) = _
    rw [losses]
  unfold MyQuicReceiver.onStreamPacket
  simp only
  split_ifs
  · have split : ∀ first second : List ReceiverEvent, MyQuicReceiver.delays (first ++ second) =
        MyQuicReceiver.delays first ++ MyQuicReceiver.delays second := fun _ _ =>
      List.filterMap_append
    rw [split, logged, delays_maybeSendAck, List.append_nil]
  · exact logged _

/-- The receiver takes the delay from the four bytes behind the type. -/
theorem delays_streamPacket (now seq : Nat) (rest : List UInt8) :
    MyQuicReceiver.delays
      (receiver.onIncomingData io manager now (writeStreamHeader io seq ++ rest)).2 =
        [MyQuicReceiver.onewayDelay io now rest] := by
  unfold MyQuicReceiver.onIncomingData
  rw [readPacket_writeStreamHeader]
  exact delays_onStreamPacket io manager receiver now _ rest

end Delays

theorem timestamp_clockTime (ms : Nat) : timestamp (clockTime ms) = ms % 2 ^ 32 := by
  unfold timestamp clockTime
  omega

/-! ### Emitted packets -/

inductive SenderKind where
  | plain
  | video
deriving DecidableEq, Repr

/-- A sender of a kind emits a stream packet in some run, when its clock reads
`sent` milliseconds. -/
inductive Emits (env : FramerEnv) (manager : QuicSentPacketManager) :
    SenderKind → (sent : Nat) → List UInt8 → Prop
  | plain {start sender : MyQuicSender} {history : List (SenderActivity × List Transmission)}
      {purpose : Purpose} {seq sent : Nat} {datagram : List UInt8}
      (run : (senderMachine env manager).Run start history sender)
      (emitted : .stream purpose seq (clockTime sent) datagram ∈ history.flatMap Prod.snd) :
      Emits env manager .plain sent datagram
  | video {start sender : MyQuicVideoSender} {history : List (VideoActivity × List VideoEvent)}
      {purpose : Purpose} {seq sent : Nat} {datagram : List UInt8}
      (run : (videoMachine env manager).Run start history sender)
      (emitted : .transmitted (.stream purpose seq (clockTime sent) datagram) ∈
        history.flatMap Prod.snd) :
      Emits env manager .video sent datagram

section Layout

variable {env : FramerEnv} {manager : QuicSentPacketManager}

/-- A packet of the plain sender carries the time behind its header. -/
def CarriesTime (io : QuicData) : Transmission → Prop
  | .stream _ seq now datagram => ∃ zeros, datagram =
      writeStreamHeader io seq ++ (io.writeBytesToUInt64 4 (timestamp now) ++ zeros)
  | .stopWaiting _ _ _ => True

/-- A packet of the video sender is its header and zeros. -/
def CarriesZeros (io : QuicData) : VideoEvent → Prop
  | .transmitted (.stream _ seq _ datagram) => ∃ count, datagram =
      writeStreamHeader io seq ++ List.replicate count 0
  | _ => True

theorem carriesTime_streamPacket (io : QuicData) (purpose : Purpose) (seq now : Nat) :
    CarriesTime io (.stream purpose seq now (MyQuicSender.streamPacket io seq now)) := by
  have written : MyQuicSender.streamPacket io seq now =
      writeStreamHeader io seq ++ (io.writeBytesToUInt64 4 (timestamp now) ++ _) :=
    List.append_assoc _ _ _
  exact ⟨_, written⟩

theorem carriesZeros_chunkPacket (io : QuicData) (purpose : Purpose) (seq now chunk : Nat) :
    CarriesZeros io
      (.transmitted (.stream purpose seq now (MyQuicVideoSender.chunkPacket io seq chunk))) := by
  refine ⟨min chunk (kMaxPacketSize - (writeStreamHeader io seq).length), ?_⟩
  rw [MyQuicVideoSender.chunkPacket, packetBuffer, List.take_length_add_append,
    List.take_replicate]

theorem carriesTime_step {sender after : MyQuicSender} {activity : SenderActivity}
    {transmissions : List Transmission}
    (stepped : (senderMachine env manager).step sender activity = some (after, transmissions)) :
    ∀ transmission ∈ transmissions, CarriesTime env.io transmission := by
  cases activity with
  | send now sentAt =>
      have same : (sender.sendIfDue env manager now sentAt).2 = transmissions :=
        congrArg Prod.snd (Option.some.inj stepped)
      rw [← same]
      unfold MyQuicSender.sendIfDue
      split_ifs
      · intro transmission member
        rw [List.mem_singleton.mp member]
        exact carriesTime_streamPacket env.io _ _ _
      · simp
  | receive now data =>
      change sender.receive env manager now data = _ at stepped
      unfold MyQuicSender.receive at stepped
      split_ifs at stepped
      · cases stepped
        simp
      · have ⟨result, _, same⟩ := Option.bind_eq_some_iff.mp stepped
        cases same
        simp
  | retransmission now sentAt =>
      have same : (sender.retransmitIfDue env manager now sentAt).2 = transmissions :=
        congrArg Prod.snd (Option.some.inj stepped)
      rw [← same]
      unfold MyQuicSender.retransmitIfDue
      split_ifs
      · intro transmission member
        rw [List.mem_singleton.mp member]
        exact carriesTime_streamPacket env.io _ _ _
      · simp
  | stopWaiting =>
      have same : (sender.stopWaitingIfDue env manager).2 = transmissions :=
        congrArg Prod.snd (Option.some.inj stepped)
      rw [← same]
      unfold MyQuicSender.stopWaitingIfDue
      split_ifs
      · intro transmission member
        rw [List.mem_singleton.mp member]
        trivial
      · simp

theorem carriesZeros_sendDataOrPadding (sender : MyQuicVideoSender) (now : Nat) :
    ∀ event ∈ (sender.sendDataOrPadding env.io manager now).2, CarriesZeros env.io event := by
  unfold MyQuicVideoSender.sendDataOrPadding MyQuicVideoSender.sendFakePacket
  split_ifs with empty probing
  · intro event member
    rw [List.mem_singleton.mp member]
    exact ⟨_, rfl⟩
  · simp
  · cases sender.pendingQueue with
    | nil => simp
    | cons chunk rest =>
        intro event member
        rw [List.mem_singleton.mp member]
        exact carriesZeros_chunkPacket env.io _ _ _ _

theorem carriesZeros_retransmitNext (sender : MyQuicVideoSender) (sentAt : Nat) :
    ∀ event ∈ (sender.retransmitNext env manager sentAt).2, CarriesZeros env.io event := by
  unfold MyQuicVideoSender.retransmitNext MyQuicVideoSender.onRetransPacket
  simp only
  split
  · simp
  · intro event member
    rw [List.mem_singleton.mp member]
    exact carriesZeros_chunkPacket env.io _ _ _ _

theorem carriesZeros_step {sender after : MyQuicVideoSender} {activity : VideoActivity}
    {events : List VideoEvent}
    (stepped : (videoMachine env manager).step sender activity = some (after, events)) :
    ∀ event ∈ events, CarriesZeros env.io event := by
  cases activity with
  | frame frameLen =>
      have ⟨chunks, _, same⟩ := Option.bind_eq_some_iff.mp stepped
      cases same
      intro event member
      have ⟨chunk, _, queued⟩ := List.mem_map.mp member
      rw [← queued]
      trivial
  | send now sentAt =>
      have same : (sender.sendIfDue env manager now sentAt).2 = events :=
        congrArg Prod.snd (Option.some.inj stepped)
      rw [← same]
      unfold MyQuicVideoSender.sendIfDue
      split_ifs
      · exact carriesZeros_sendDataOrPadding sender sentAt
      · simp
  | receive now data =>
      change sender.receive env manager now data = _ at stepped
      unfold MyQuicVideoSender.receive at stepped
      split_ifs at stepped
      · cases stepped
        simp
      · have ⟨frames, _, rest⟩ := Option.bind_eq_some_iff.mp stepped
        have ⟨result, _, same⟩ := Option.bind_eq_some_iff.mp rest
        cases same
        intro event member
        have ⟨entry, _, removed⟩ := List.mem_map.mp member
        rw [← removed]
        trivial
  | stopWaiting =>
      have same : (sender.stopWaitingIfDue env manager).2 = events :=
        congrArg Prod.snd (Option.some.inj stepped)
      rw [← same]
      unfold MyQuicVideoSender.stopWaitingIfDue
      split_ifs
      · intro event member
        rw [List.mem_singleton.mp member]
        trivial
      · simp
  | retransmission now sentAt =>
      unfold videoMachine at stepped
      simp only at stepped
      split_ifs at stepped
      · have same : (sender.retransmitNext env manager sentAt).2 = events :=
          congrArg Prod.snd (Option.some.inj stepped)
        rw [← same]
        exact carriesZeros_retransmitNext sender sentAt
      · cases stepped
        simp

end Layout

/-- The receiver computes the delay of a packet from any run exactly when the
packet carries the time, or its time is one that the receiver reads anyway. -/
theorem oneway_delay_iff {env : FramerEnv} {sentManager : QuicSentPacketManager}
    {kind : SenderKind} {sent : Nat} {datagram : List UInt8}
    (emitted : Emits env sentManager kind sent datagram) (manager : QuicReceivedPacketManager)
    (receiver : MyQuicReceiver) (received : Nat) :
    MyQuicReceiver.delays (receiver.onIncomingData env.io manager (clockTime received)
        datagram).2 = [delayMs sent received] ↔
      kind = .plain ∨ sent % 2 ^ 32 = 0 := by
  cases emitted with
  | plain run emitted =>
      have ⟨zeros, layout⟩ := run.forall_outputs carriesTime_step _ emitted
      have fits : timestamp (clockTime sent) < 2 ^ 32 := Nat.mod_lt _ (by decide)
      have read : MyQuicReceiver.onewayDelay env.io (clockTime received)
          (env.io.writeBytesToUInt64 4 (timestamp (clockTime sent)) ++ zeros) =
            delayMs sent received := by
        unfold MyQuicReceiver.onewayDelay
        rw [readOrZero_written env.io fits, timestamp_clockTime, timestamp_clockTime]
        show (received % 2 ^ 32 + 2 ^ 32 - sent % 2 ^ 32) % 2 ^ 32 = delayMs sent received
        unfold delayMs
        omega
      rw [layout, delays_streamPacket, read]
      exact iff_of_true rfl (Or.inl rfl)
  | video run emitted =>
      have ⟨count, layout⟩ := run.forall_outputs carriesZeros_step _ emitted
      have read : MyQuicReceiver.onewayDelay env.io (clockTime received)
          (List.replicate count 0) = received % 2 ^ 32 := by
        unfold MyQuicReceiver.onewayDelay
        rw [readOrZero_zeros, timestamp_clockTime]
        show (received % 2 ^ 32 + 2 ^ 32 - 0) % 2 ^ 32 = received % 2 ^ 32
        omega
      rw [layout, delays_streamPacket, read]
      simp only [List.cons.injEq, and_true, reduceCtorEq, false_or]
      unfold delayMs
      omega

/-! ### The first packet of the video sender -/

/-- A manager that lets everything out. -/
def openManager : QuicSentPacketManager where
  getLeastUnacked _ := 1
  timeUntilSend _ _ := some 0
  hasPendingRetransmissions _ := false
  nextPendingRetransmission _ := ⟨0, []⟩
  shouldSendProbingPacket _ := false

/-- A chunk that is sent at 5 s. -/
def lateActivities : List VideoActivity := [.frame 500, .send 5000000 5000000]

/-- Its packet. -/
def latePacket : List UInt8 := MyQuicVideoSender.chunkPacket plainEnv.io 1 500

theorem emits_latePacket : Emits plainEnv openManager .video 5000 latePacket := by
  have ⟨history, sender, run, sameActivities, checked⟩ :=
    (videoMachine plainEnv openManager).exists_run_of_check (.create 0) lateActivities
      (fun result => .transmitted (.stream (.data 500) 1 (clockTime 5000) latePacket) ∈
        result.2.flatMap Prod.snd) (by decide +kernel)
  exact .video run (of_decide_eq_true checked)

/-- The packet is received 20 ms later, and the delay is that since the epoch. -/
theorem oneway_delay_wrong_latePacket :
    Emits plainEnv openManager .video 5000 latePacket ∧
    MyQuicReceiver.delays (MyQuicReceiver.create.onIncomingData plainEnv.io inOrderManager
      (clockTime 5020) latePacket).2 = [5020] ∧
    delayMs 5000 5020 = 20 := by
  exact ⟨emits_latePacket, by decide +kernel, by decide⟩

theorem oneway_delay_iff_latePacket :
    ¬MyQuicReceiver.delays (MyQuicReceiver.create.onIncomingData plainEnv.io inOrderManager
      (clockTime 5020) latePacket).2 = [delayMs 5000 5020] := by
  intro right
  have cases := (oneway_delay_iff emits_latePacket inOrderManager .create 5020).mp right
  revert cases
  decide

end StupidSimple.Quic
