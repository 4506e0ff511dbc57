import StupidSimple.Bbr.Pacing
import StupidSimple.Quic.OnewayDelay

/-!
Owns the round trip of packet headers in both test protocols, for all packet numbers
of six bytes: what a receiver reads is what the sender wrote, and the number that an
ack carries back is the number it answers.
-/

namespace StupidSimple.Bbr

open StupidSimple.Library StupidSimple.Quic

/-! ### The BBR protocol -/

section Protocol

variable (io : QuicData)

theorem readSequenceNumberLength_typedFlags (type : TestProto) (seq : Nat) :
    readSequenceNumberLength ((UInt8.ofNat (getPacketNumberFlags (getMinSeqLength seq) <<<
      kPublicHeaderSequenceNumberShift ||| type.code)).toNat >>>
        kPublicHeaderSequenceNumberShift) = getMinSeqLength seq := by
  unfold getMinSeqLength
  cases type <;> split_ifs <;> rfl

/-- The type is read back beside the length. -/
theorem type_typedFlags (type : TestProto) (seq : Nat) :
    (UInt8.ofNat (getPacketNumberFlags (getMinSeqLength seq) <<<
      kPublicHeaderSequenceNumberShift ||| type.code)).toNat &&& 0x0F = type.code := by
  unfold getMinSeqLength
  cases type <;> split_ifs <;> rfl

variable {seq : Nat} (narrow : seq < 2 ^ 48)

include narrow

theorem readBytesToUInt64_written (rest : List UInt8) :
    io.readBytesToUInt64 (getMinSeqLength seq).bytes
      (io.writeBytesToUInt64 (getMinSeqLength seq).bytes seq ++ rest) = some (seq, rest) := by
  have wide := bytes_le_eight (getMinSeqLength seq)
  rw [io.writeBytesToUInt64_eq _ seq wide, io.readBytesToUInt64_eq _ _ wide, if_pos (by simp),
    List.take_left' (by simp), List.drop_left' (by simp),
    BigEndian.decode_encode_of_lt (lt_getMinSeqLength narrow)]

theorem readPacket_writePacketHeader (type : TestProto) (rest : List UInt8) :
    readPacket io (writePacketHeader io type seq ++ rest) = (type.code, seq) := by
  unfold readPacket
  simp only [writePacketHeader, List.cons_append, List.headD_cons, List.tail_cons,
    readSequenceNumberLength_typedFlags, type_typedFlags, readBytesToUInt64_written io narrow]

theorem ackedNumber_ack : ackedNumber io (writePacketHeader io .ack seq) = some (some seq) := by
  have short : (writePacketHeader io .ack seq).length ≤ maxPacketSize := by
    have wide := bytes_le_eight (getMinSeqLength seq)
    rw [writePacketHeader, List.length_cons, io.writeBytesToUInt64_eq _ seq wide,
      BigEndian.length_encode]
    exact Nat.succ_le_succ (wide.trans (by decide))
  have read := readPacket_writePacketHeader io narrow .ack []
  rw [List.append_nil] at read
  unfold ackedNumber
  rw [if_pos short, read]
  rfl

/-- The receiver answers with an ack of the number. -/
theorem onIncomingData_sentPacket {type : TestProto} (data : type ≠ .ack) (beyond : List UInt8)
    (app : MyBbrReceiverApp) :
    ∃ losses : List Nat, (app.onIncomingData io (sentPacket io type seq beyond)).2 =
      .ack (writePacketHeader io .ack seq) :: losses.map .loss := by
  have read : readPacket io (sentPacket io type seq beyond) = (type.code, seq) := by
    rw [sentPacket, packetBuffer, List.append_assoc]
    exact readPacket_writePacketHeader io narrow type _
  have answered : type.code = TestProto.stream.code ∨ type.code = TestProto.padding.code := by
    cases type with
    | stream => exact Or.inl rfl
    | padding => exact Or.inr rfl
    | ack => exact absurd rfl data
  unfold MyBbrReceiverApp.onIncomingData
  simp only [read, if_pos answered]
  exact ⟨_, rfl⟩

end Protocol

/-- An ack of the number makes both apps report it to their sender. -/
theorem receive_ack {Bandwidth Filter : Type} [LinearOrder Bandwidth] (io : QuicData)
    (platform : Platform Bandwidth Filter) {seq : Nat} (narrow : seq < 2 ^ 48) (now : QuicTime)
    (draw : Nat) (app : PacedApp Bandwidth Filter) :
    app.receive io platform now (writePacketHeader io .ack seq) draw =
      (app.cc.onAck platform now seq draw).map fun result =>
        ({ app with cc := result.1 }, [.congestionEvent seq]) := by
  have nonempty : writePacketHeader io .ack seq ≠ [] := List.cons_ne_nil _ _
  unfold PacedApp.receive
  rw [if_neg nonempty, ackedNumber_ack io narrow]
  show (app.cc.onAck platform now seq draw).bind (fun result =>
    some ({ app with cc := result.1 }, [AppEvent.congestionEvent seq])) = _
  exact Option.map_eq_bind.symm

/-! ### The QUIC protocol -/

/-- The stream packets of both senders under a number. -/
inductive StreamPacket (io : QuicData) (seq : Nat) : List UInt8 → Prop
  | plain (now : Nat) : StreamPacket io seq (MyQuicSender.streamPacket io seq now)
  | chunk (chunk : Nat) : StreamPacket io seq (MyQuicVideoSender.chunkPacket io seq chunk)
  | padding : StreamPacket io seq (packetBuffer quicMaxVideoSize (writeStreamHeader io seq))

section Quic

variable (io : QuicData) {seq : Nat}

theorem StreamPacket.layout {datagram : List UInt8} (packet : StreamPacket io seq datagram) :
    ∃ rest, datagram = writeStreamHeader io seq ++ rest := by
  cases packet with
  | plain now =>
      have ⟨zeros, layout⟩ := carriesTime_streamPacket io .padding seq now
      exact ⟨_, layout⟩
  | chunk chunk =>
      have ⟨count, layout⟩ := carriesZeros_chunkPacket io .padding seq 0 chunk
      exact ⟨_, layout⟩
  | padding => exact ⟨_, rfl⟩

variable (manager : QuicReceivedPacketManager) (receiver : MyQuicReceiver) (now : Nat)

theorem maybeSendAck_calls :
    receiver.recvPacketManager <+: (receiver.maybeSendAck io manager now).1.recvPacketManager := by
  unfold MyQuicReceiver.maybeSendAck MyQuicReceiver.sendAck
  split_ifs
  · exact List.prefix_append _ _
  · exact List.prefix_append _ _
  · exact List.prefix_rfl
  · exact List.prefix_rfl

theorem mod_getMinSeqLength (narrow : seq < 2 ^ 48) :
    seq % 256 ^ (getMinSeqLength seq).bytes = seq :=
  Nat.mod_eq_of_lt (lt_getMinSeqLength narrow)

/-- The receiver records the number of a stream packet. -/
theorem onIncomingData_streamPacket (narrow : seq < 2 ^ 48) {datagram : List UInt8}
    (packet : StreamPacket io seq datagram) :
    receiver.recvPacketManager ++ [.recordPacketReceived seq now] <+:
      (receiver.onIncomingData io manager now datagram).1.recvPacketManager := by
  have ⟨rest, layout⟩ := packet.layout
  have recorded : receiver.recvPacketManager ++ [.recordPacketReceived seq now] =
      (receiver.recordPacket now seq).recvPacketManager := rfl
  unfold MyQuicReceiver.onIncomingData
  rw [layout, readPacket_writeStreamHeader, mod_getMinSeqLength narrow, recorded]
  simp only [if_true, MyQuicReceiver.onStreamPacket]
  split_ifs
  · exact maybeSendAck_calls io manager _ now
  · exact List.prefix_rfl

/-- The receiver reads the least unacked number of a stop-waiting packet. -/
theorem onIncomingData_stopWaitingPacket (narrow : seq < 2 ^ 48) {unackSeq : Nat}
    (below : unackSeq ≤ seq) :
    (receiver.onIncomingData io manager now (stopWaitingPacket io seq unackSeq)).1.recvPacketManager =
      receiver.recvPacketManager ++ [.dontWaitForPacketsBefore unackSeq] := by
  have layout : stopWaitingPacket io seq unackSeq =
      writeHeader io seq ++ UInt8.ofNat stopWaitingFrame ::
        io.writeBytesToUInt64 (getMinSeqLength seq).bytes unackSeq := by
    simp [stopWaitingPacket]
  have wide := bytes_le_eight (getMinSeqLength seq)
  have fits : unackSeq < 256 ^ (getMinSeqLength seq).bytes :=
    below.trans_lt (lt_getMinSeqLength narrow)
  have unacked : MyQuicReceiver.readOrZero io (getMinSeqLength seq).bytes
      (io.writeBytesToUInt64 (getMinSeqLength seq).bytes unackSeq) = unackSeq := by
    unfold MyQuicReceiver.readOrZero
    rw [io.writeBytesToUInt64_eq _ unackSeq wide, io.readBytesToUInt64_eq _ _ wide,
      if_pos (by simp), List.take_of_length_le (by simp), BigEndian.decode_encode_of_lt fits]
  unfold MyQuicReceiver.onIncomingData
  rw [layout, readPacket_writeHeader io seq stopWaitingFrame (by decide)]
  simp only [unacked]
  rfl

/-- The senders skip the header of an ack and read its frames. -/
theorem framePayload_writeHeader {frames : List UInt8}
    (fits : (writeHeader io seq ++ frames).length ≤ kMaxPacketSize) :
    framePayload (writeHeader io seq ++ frames) = some frames := by
  have headed : ((writeHeader io seq ++ frames).headD 0).toNat >>>
      kPublicHeaderSequenceNumberShift = (UInt8.ofNat (getPacketNumberFlags
        (getMinSeqLength seq) <<< kPublicHeaderSequenceNumberShift)).toNat >>>
          kPublicHeaderSequenceNumberShift := rfl
  have length : (writeHeader io seq).length = 1 + (getMinSeqLength seq).bytes :=
    length_writeHeader io seq
  unfold framePayload
  simp only [headed, readSequenceNumberLength_publicFlags]
  rw [if_pos ⟨fits, by rw [List.length_append, length]; exact Nat.le_add_right _ _⟩,
    List.drop_left' length]

end Quic

/-- For every number of six bytes and every kind of packet, what is decoded is what
was encoded: in the BBR protocol up to the number that an ack reports to the sender,
in the QUIC protocol up to the calls of the packet managers. -/
theorem header_round_trip {Bandwidth Filter : Type} [LinearOrder Bandwidth] (io : QuicData)
    (platform : Platform Bandwidth Filter) {seq : Nat} (narrow : seq < 2 ^ 48) :
    (∀ type beyond, readPacket io (sentPacket io type seq beyond) = (type.code, seq) ∧
      (type ≠ .ack → ∀ receiver : MyBbrReceiverApp, ∃ (ack : List UInt8) (losses : List Nat),
        (receiver.onIncomingData io (sentPacket io type seq beyond)).2 =
            .ack ack :: losses.map .loss ∧
          ∀ (now : QuicTime) (draw : Nat) (app : PacedApp Bandwidth Filter),
            app.receive io platform now ack draw =
              (app.cc.onAck platform now seq draw).map fun result =>
                ({ app with cc := result.1 }, [.congestionEvent seq]))) ∧
    ∀ (manager : QuicReceivedPacketManager) (receiver : MyQuicReceiver) (now : Nat),
      (∀ datagram, StreamPacket io seq datagram →
        receiver.recvPacketManager ++ [.recordPacketReceived seq now] <+:
          (receiver.onIncomingData io manager now datagram).1.recvPacketManager) ∧
      (∀ unackSeq ≤ seq,
        (receiver.onIncomingData io manager now
            (stopWaitingPacket io seq unackSeq)).1.recvPacketManager =
          receiver.recvPacketManager ++ [.dontWaitForPacketsBefore unackSeq]) ∧
      ∀ frames, (writeHeader io seq ++ frames).length ≤ kMaxPacketSize →
        framePayload (writeHeader io seq ++ frames) = some frames := by
  constructor
  · intro type beyond
    constructor
    · rw [sentPacket, packetBuffer, List.append_assoc]
      exact readPacket_writePacketHeader io narrow type _
    · intro data receiver
      obtain ⟨losses, answered⟩ := onIncomingData_sentPacket io narrow data beyond receiver
      exact ⟨_, losses, answered, receive_ack io platform narrow⟩
  · intro manager receiver now
    refine ⟨?_, ?_, ?_⟩
    · intro datagram packet
      exact onIncomingData_streamPacket io manager receiver now narrow packet
    · intro unackSeq below
      exact onIncomingData_stopWaitingPacket io manager receiver now narrow below
    · intro frames fits
      exact framePayload_writeHeader io fits

/-- A number of four bytes. -/
theorem header_round_trip_seventyThousand :
    readPacket QuicData.networkOrder (sentPacket .networkOrder .padding 70000 []) = (1, 70000) ∧
      (MyQuicReceiver.create.onIncomingData .networkOrder inOrderManager 7
        (stopWaitingPacket .networkOrder 70000 69000)).1.recvPacketManager =
          [.dontWaitForPacketsBefore 69000] := by
  have both := header_round_trip QuicData.networkOrder Platform.bits
    (by decide : 70000 < 2 ^ 48)
  exact ⟨(both.1 .padding []).1,
    (both.2 inOrderManager .create 7).2.1 69000 (by decide)⟩

end StupidSimple.Bbr
