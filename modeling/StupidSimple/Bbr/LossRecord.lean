import StupidSimple.Bbr.Packets
import StupidSimple.Library.HighWater
import StupidSimple.Quic.DelayedAck

/-!
Owns what the receivers of both test protocols record as lost: the calls of
`RecordLoss` in their `OnIncomingData`, over whole runs.

A packet number has at most six bytes, so `base_seq_ + 1` does not wrap. The destructor
of `MyQuicReceiver`, which records `base_seq_` at the end, is no part of a run.
-/

namespace StupidSimple.Bbr

open StupidSimple.Library StupidSimple.Library.HighWater StupidSimple.Quic

/-! ### What arrives and what is recorded -/

section Views

variable (io : QuicData)

/-- The packet number that `MyBbrReceiverApp::OnIncomingData` counts. -/
def dataNumber (data : List UInt8) : Option Nat :=
  if data = [] then none
  else
    let (type, seq) := readPacket io data
    if type = TestProto.stream.code ∨ type = TestProto.padding.code then some seq else none

/-- The packet number in the stream branch of `MyQuicReceiver::OnIncomingData`. -/
def streamNumber (call : Nat × List UInt8) : Option Nat :=
  if call.2 = [] then none
  else
    let (_, seq, type, _) := MyQuicReceiver.readPacket io call.2
    if type = streamFrame then some seq else none

end Views

def appLoss : ReceiverAppEvent → Option Nat
  | .ack _ => none
  | .loss seq => some seq

def quicLoss : ReceiverEvent → Option Nat
  | .onewayDelay _ _ => none
  | .loss seq => some seq
  | .ack _ => none

/-! ### Packet numbers -/

theorem lt_of_readBytesToUInt64 (io : QuicData) {flags seq : Nat} {bytes rest : List UInt8}
    (read : io.readBytesToUInt64 (readSequenceNumberLength flags).bytes bytes =
      some (seq, rest)) : seq < 2 ^ 48 := by
  have short := readSequenceNumberLength_le_six flags
  rw [io.readBytesToUInt64_eq _ _ (by omega)] at read
  split_ifs at read
  obtain ⟨rfl, -⟩ := Prod.mk.inj (Option.some.inj read)
  calc BigEndian.decode (bytes.take (readSequenceNumberLength flags).bytes)
      < 256 ^ (bytes.take (readSequenceNumberLength flags).bytes).length := BigEndian.decode_lt _
    _ ≤ 256 ^ 6 := Nat.pow_le_pow_right (by decide) ((List.length_take_le _ _).trans short)
    _ = 2 ^ 48 := by decide

theorem readPacket_lt (io : QuicData) (data : List UInt8) : (readPacket io data).2 < 2 ^ 48 := by
  unfold readPacket
  dsimp only
  split
  · decide
  next seq rest read => exact lt_of_readBytesToUInt64 io read

theorem quic_readPacket_lt (io : QuicData) (data : List UInt8) :
    (MyQuicReceiver.readPacket io data).2.1 < 2 ^ 48 := by
  unfold MyQuicReceiver.readPacket
  dsimp only
  split
  · show 0 < 2 ^ 48
    decide
  next seq read => exact lt_of_readBytesToUInt64 io read
  next seq type rest read => exact lt_of_readBytesToUInt64 io read

theorem filterMap_appLoss (seqs : List Nat) :
    (seqs.map ReceiverAppEvent.loss).filterMap appLoss = seqs := by
  rw [List.filterMap_map]
  exact List.filterMap_some

theorem filterMap_quicLoss (seqs : List Nat) :
    (seqs.map ReceiverEvent.loss).filterMap quicLoss = seqs := by
  rw [List.filterMap_map]
  exact List.filterMap_some

theorem ite_succ_le (mark seq : Nat) : (if mark + 1 ≤ seq then seq else mark) = max mark seq := by
  split_ifs with beyond
  · exact (max_eq_right (by omega)).symm
  · exact (max_eq_left (by omega)).symm

/-! ### The receivers -/

section Receivers

variable (io : QuicData)

section Bbr

variable {data : List UInt8} (app : MyBbrReceiverApp)

theorem process_of_dataNumber_none (uncounted : dataNumber io data = none) :
    (app.process io data).1.baseSeq = app.baseSeq ∧
      (app.process io data).2.filterMap appLoss = [] := by
  unfold dataNumber at uncounted
  unfold MyBbrReceiverApp.process MyBbrReceiverApp.onIncomingData
  dsimp only at uncounted ⊢
  split_ifs at uncounted ⊢
  · exact ⟨rfl, rfl⟩
  · exact ⟨rfl, rfl⟩

theorem process_of_dataNumber_some {seq : Nat} (counted : dataNumber io data = some seq) :
    (app.process io data).1.baseSeq = max app.baseSeq seq ∧
      (app.process io data).2.filterMap appLoss = skipped app.baseSeq seq := by
  unfold dataNumber at counted
  unfold MyBbrReceiverApp.process MyBbrReceiverApp.onIncomingData
  dsimp only at counted ⊢
  split_ifs at counted with empty answered
  obtain rfl := Option.some.inj counted
  rw [if_neg empty, if_pos answered]
  exact ⟨ite_succ_le _ _, filterMap_appLoss _⟩

theorem follows_receiverAppMachine :
    Follows (receiverAppMachine io) MyBbrReceiverApp.baseSeq (dataNumber io) appLoss :=
  .of_total (fun _ _ => rfl) (fun app _ => process_of_dataNumber_none io app)
    fun app _ _ => process_of_dataNumber_some io app

end Bbr

section Quic

variable (manager : QuicReceivedPacketManager) (now : Nat) (receiver : MyQuicReceiver)

/-- The decision about an ack moves no mark and records no loss. -/
theorem maybeSendAck_silent :
    (receiver.maybeSendAck io manager now).1.baseSeq = receiver.baseSeq ∧
      (receiver.maybeSendAck io manager now).2.filterMap quicLoss = [] := by
  unfold MyQuicReceiver.maybeSendAck
  split_ifs
  · exact ⟨rfl, rfl⟩
  · exact ⟨rfl, rfl⟩
  · exact ⟨rfl, rfl⟩
  · exact ⟨rfl, rfl⟩

theorem checkAlarm_silent :
    (receiver.checkAlarm io manager now).1.baseSeq = receiver.baseSeq ∧
      (receiver.checkAlarm io manager now).2.filterMap quicLoss = [] := by
  unfold MyQuicReceiver.checkAlarm
  dsimp only
  split_ifs
  · exact ⟨rfl, rfl⟩
  · exact ⟨rfl, rfl⟩

theorem onStreamPacket_spec (seq : Nat) (rest : List UInt8) :
    (receiver.onStreamPacket io manager now seq rest).1.baseSeq = max receiver.baseSeq seq ∧
      (receiver.onStreamPacket io manager now seq rest).2.filterMap quicLoss =
        skipped receiver.baseSeq seq := by
  obtain ⟨kept, unreported⟩ := maybeSendAck_silent io manager now (receiver.recordPacket now seq)
  have raised : (receiver.recordPacket now seq).baseSeq = max receiver.baseSeq seq :=
    ite_succ_le _ _
  have logged : (ReceiverEvent.onewayDelay seq (MyQuicReceiver.onewayDelay io now rest) ::
      (skipped receiver.baseSeq seq).map .loss).filterMap quicLoss =
        skipped receiver.baseSeq seq := filterMap_quicLoss _
  unfold MyQuicReceiver.onStreamPacket
  dsimp only
  split_ifs
  · constructor
    · rw [kept, raised]
    · rw [List.filterMap_append, unreported, List.append_nil]
      exact logged
  · exact ⟨raised, logged⟩

variable {now}

theorem receive_of_streamNumber_none {data : List UInt8}
    (uncounted : streamNumber io (now, data) = none) :
    (receiver.receive io manager now data).1.baseSeq = receiver.baseSeq ∧
      (receiver.receive io manager now data).2.filterMap quicLoss = [] := by
  unfold streamNumber at uncounted
  unfold MyQuicReceiver.receive MyQuicReceiver.onIncomingData
  dsimp only at uncounted ⊢
  split_ifs at uncounted ⊢
  · exact ⟨rfl, rfl⟩
  · exact ⟨rfl, rfl⟩
  · exact ⟨rfl, rfl⟩

theorem receive_of_streamNumber_some {data : List UInt8} {seq : Nat}
    (counted : streamNumber io (now, data) = some seq) :
    (receiver.receive io manager now data).1.baseSeq = max receiver.baseSeq seq ∧
      (receiver.receive io manager now data).2.filterMap quicLoss =
        skipped receiver.baseSeq seq := by
  unfold streamNumber at counted
  unfold MyQuicReceiver.receive MyQuicReceiver.onIncomingData
  dsimp only at counted ⊢
  split_ifs at counted ⊢
  obtain rfl := Option.some.inj counted
  exact onStreamPacket_spec io manager now receiver _ _

theorem process_of_streamNumber_none {data : List UInt8}
    (uncounted : streamNumber io (now, data) = none) :
    (receiver.process io manager now data).1.baseSeq = receiver.baseSeq ∧
      (receiver.process io manager now data).2.filterMap quicLoss = [] := by
  obtain ⟨kept, unreported⟩ := receive_of_streamNumber_none io manager receiver uncounted
  obtain ⟨checked, quiet⟩ :=
    checkAlarm_silent io manager now (receiver.receive io manager now data).1
  unfold MyQuicReceiver.process
  dsimp only
  rw [checked, kept, List.filterMap_append, unreported, quiet]
  exact ⟨rfl, rfl⟩

theorem process_of_streamNumber_some {data : List UInt8} {seq : Nat}
    (counted : streamNumber io (now, data) = some seq) :
    (receiver.process io manager now data).1.baseSeq = max receiver.baseSeq seq ∧
      (receiver.process io manager now data).2.filterMap quicLoss =
        skipped receiver.baseSeq seq := by
  obtain ⟨raised, skips⟩ := receive_of_streamNumber_some io manager receiver counted
  obtain ⟨checked, quiet⟩ :=
    checkAlarm_silent io manager now (receiver.receive io manager now data).1
  unfold MyQuicReceiver.process
  dsimp only
  rw [checked, raised, List.filterMap_append, skips, quiet, List.append_nil]
  exact ⟨rfl, rfl⟩

theorem follows_receiverMachine :
    Follows (receiverMachine io manager) MyQuicReceiver.baseSeq (streamNumber io) quicLoss :=
  .of_total (fun _ _ => rfl) (fun receiver _ => process_of_streamNumber_none io manager receiver)
    fun receiver _ _ => process_of_streamNumber_some io manager receiver

end Quic

/-- `base_seq_ + 1` does not wrap in the BBR receiver. -/
theorem receiverApp_baseSeq_lt {datagrams : List (List UInt8 × List ReceiverAppEvent)}
    {app : MyBbrReceiverApp} (run : (receiverAppMachine io).Run .create datagrams app) :
    app.baseSeq < 2 ^ 48 := by
  apply (follows_receiverAppMachine io).mark_lt run rfl (by decide)
  intro data seq counted
  unfold dataNumber at counted
  dsimp only at counted
  split_ifs at counted
  obtain rfl := Option.some.inj counted
  exact readPacket_lt io data

/-- `base_seq_ + 1` does not wrap in the QUIC receiver. -/
theorem receiver_baseSeq_lt {manager : QuicReceivedPacketManager}
    {calls : List ((Nat × List UInt8) × List ReceiverEvent)} {receiver : MyQuicReceiver}
    (run : (receiverMachine io manager).Run .create calls receiver) :
    receiver.baseSeq < 2 ^ 48 := by
  apply (follows_receiverMachine io manager).mark_lt run rfl (by decide)
  intro call seq counted
  unfold streamNumber at counted
  dsimp only at counted
  split_ifs at counted
  obtain rfl := Option.some.inj counted
  exact quic_readPacket_lt io call.2

/-- What both receivers record in any runs on any datagrams, lost, reordered and
duplicated as they may be, is an account of the packet numbers that arrive; on equal
numbers both record the same. -/
theorem loss_record (manager : QuicReceivedPacketManager) :
    (∀ {datagrams app}, (receiverAppMachine io).Run .create datagrams app →
      Accounts (arrived (dataNumber io) datagrams) (reported appLoss datagrams)
        (advanced (receiverAppMachine io) .create MyBbrReceiverApp.baseSeq (dataNumber io)
          datagrams) app.baseSeq) ∧
    (∀ {calls receiver}, (receiverMachine io manager).Run .create calls receiver →
      Accounts (arrived (streamNumber io) calls) (reported quicLoss calls)
        (advanced (receiverMachine io manager) .create MyQuicReceiver.baseSeq (streamNumber io)
          calls) receiver.baseSeq) ∧
    ∀ {datagrams app calls receiver}, (receiverAppMachine io).Run .create datagrams app →
      (receiverMachine io manager).Run .create calls receiver →
      arrived (dataNumber io) datagrams = arrived (streamNumber io) calls →
      reported appLoss datagrams = reported quicLoss calls := by
  have bbr := follows_receiverAppMachine io
  have quic := follows_receiverMachine io manager
  refine ⟨?_, ?_, ?_⟩
  · intro datagrams app run
    exact bbr.accounts run rfl
  · intro calls receiver run
    exact quic.accounts run rfl
  · intro datagrams app calls receiver bbrRun quicRun same
    obtain ⟨-, bbrLosses, -⟩ := bbr.run bbrRun rfl
    obtain ⟨-, quicLosses, -⟩ := quic.run quicRun rfl
    rw [bbrLosses, quicLosses, same]

end Receivers

/-- Packets 3 and 5 come before 1 and 2, 5 comes twice and 4 and 6 never. -/
theorem loss_record_reordered :
    ∃ datagrams app calls receiver,
      (receiverAppMachine .networkOrder).Run .create datagrams app ∧
      (receiverMachine .networkOrder inOrderManager).Run .create calls receiver ∧
      arrived (dataNumber .networkOrder) datagrams = [3, 1, 5, 5, 2, 7] ∧
      Accounts [3, 1, 5, 5, 2, 7] (reported appLoss datagrams)
        (advanced (receiverAppMachine .networkOrder) .create MyBbrReceiverApp.baseSeq
          (dataNumber .networkOrder) datagrams) app.baseSeq ∧
      Accounts [3, 1, 5, 5, 2, 7] (reported quicLoss calls)
        (advanced (receiverMachine .networkOrder inOrderManager) .create MyQuicReceiver.baseSeq
          (streamNumber .networkOrder) calls) receiver.baseSeq ∧
      reported appLoss datagrams = reported quicLoss calls := by
  let seqs : List UInt8 := [3, 1, 5, 5, 2, 7]
  obtain ⟨⟨app, datagrams⟩, executed⟩ : ∃ result, (receiverAppMachine .networkOrder).exec .create
      (seqs.map fun seq => [0, seq]) = some result := ⟨_, rfl⟩
  obtain ⟨⟨receiver, calls⟩, called⟩ : ∃ result,
      (receiverMachine .networkOrder inOrderManager).exec .create
        (seqs.map fun seq => (7, [0, seq, 8, 0, 0, 0, 0])) = some result := ⟨_, rfl⟩
  have bbrNumbers : arrived (dataNumber .networkOrder) datagrams = [3, 1, 5, 5, 2, 7] := by
    rw [arrived, Machine.exec_events executed]
    decide
  have quicNumbers : arrived (streamNumber .networkOrder) calls = [3, 1, 5, 5, 2, 7] := by
    rw [arrived, Machine.exec_events called]
    decide
  have bbrRun := Machine.exec_run executed
  have quicRun := Machine.exec_run called
  obtain ⟨bbr, quic, same⟩ := loss_record .networkOrder inOrderManager
  refine ⟨datagrams, app, calls, receiver, bbrRun, quicRun, bbrNumbers, ?_, ?_, ?_⟩
  · have account := bbr bbrRun
    rwa [bbrNumbers] at account
  · have account := quic quicRun
    rwa [quicNumbers] at account
  · exact same bbrRun quicRun (bbrNumbers.trans quicNumbers.symm)

end StupidSimple.Bbr
