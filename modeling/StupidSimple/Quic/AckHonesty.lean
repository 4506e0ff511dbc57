import StupidSimple.Bbr.LossRecord
import StupidSimple.Library.Network
import StupidSimple.Quic.AckRoundTrip
import StupidSimple.Quic.OnewayDelay
import StupidSimple.Quic.SenderCalls
import StupidSimple.Quic.Writing

/-!
Owns the honesty of `MyQuicReceiver`: whatever its acks make a sender read, each packet
number they list has arrived in a stream packet. `ReportsRecorded` is what is documented
of the ack frame of a received packet manager.
-/

namespace StupidSimple.Quic

open StupidSimple.Library MyQuicFramer

/-! ### What a written ack lists -/

theorem acked_iff_ackRanges {calls : List VisitorCall} {packetNumber : Nat} :
    Acked calls packetNumber ↔
      ∃ range ∈ ackRanges calls, range.1 ≤ packetNumber ∧ packetNumber < range.2 := by
  constructor
  · rintro ⟨start, stop, last, member, within⟩
    exact ⟨(start, stop), List.mem_filterMap.mpr ⟨_, member, rfl⟩, within⟩
  · rintro ⟨range, member, within⟩
    have ⟨call, called, same⟩ := List.mem_filterMap.mp member
    cases call with
    | onAckRange start stop last =>
        cases same
        exact ⟨start, stop, last, called, within⟩
    | _ => cases same

theorem mem_of_mem_fitting {intervals : List Interval} {interval : Interval} :
    ∀ {budget previousStart}, interval ∈ fitting budget previousStart intervals →
      interval ∈ intervals := by
  induction intervals with
  | nil =>
      intro budget previousStart member
      cases member
  | cons first rest inductionHypothesis =>
      intro budget previousStart member
      rw [fitting] at member
      split_ifs at member
      · rcases List.mem_cons.mp member with same | later
        · exact same ▸ List.mem_cons_self
        · exact List.mem_cons_of_mem first (inductionHypothesis later)
      · cases member

theorem mem_of_mem_reportedIntervals {budget : Nat} {intervals : List Interval}
    {interval : Interval} (member : interval ∈ reportedIntervals budget intervals) :
    interval ∈ intervals := by
  cases intervals with
  | nil => cases member
  | cons top rest =>
      rcases List.mem_cons.mp member with same | later
      · exact same ▸ List.mem_cons_self
      · exact List.mem_cons_of_mem top (mem_of_mem_fitting later)

section Written

variable (env : FramerEnv) {frame : QuicAckFrame} {seq packetNumber : Nat} {bytes : List UInt8}

/-- A frame of packets lists only these. -/
theorem holds_of_acked_wellFormed (wellFormed : frame.WellFormed)
    (written : sendAck env.io seq frame = some bytes)
    (acked : Acked (recordFrames env bytes).2.visitor packetNumber) :
    frame.packets.Holds packetNumber := by
  obtain ⟨top, rest, split, topMax⟩ := top_of_isGreatest wellFormed.largest
  obtain ⟨ack, largest, topStart, count, blocks, complete, laidOut⟩ :=
    sendAck_eq wellFormed split env.io seq
  have descending := descending_intervals split
  have reported : ackRanges ack.ranges = (reportedIntervals (ackBlockBudget seq frame)
      frame.packets.descending).map Interval.range := by
    rw [ackRanges_ranges, topStart, blocks, ackRanges_take_gapBlocks descending, count, split,
      reportedIntervals, blocksNeeded, fitting_min descending, List.map_cons, Interval.range,
      topMax, largest]
  rw [laidOut] at written
  cases written
  rw [recordFrames, record_processFrameData_ack env ackTypeByte_lt startsAckFrame_ackTypeByte
    complete, acked_calls_iff, acked_iff_ackRanges, reported] at acked
  obtain ⟨range, member, within⟩ := acked
  obtain ⟨interval, listed, same⟩ := List.mem_map.mp member
  rw [← same] at within
  exact ⟨interval, List.mem_reverse.mp (mem_of_mem_reportedIntervals listed), within⟩

/-- A frame without packets is the fields before its blocks, and no time stamps. -/
theorem writes_ackFields_nil (io : QuicData) (none : frame.packets.intervals = [])
    (largestLength blockLength : QuicPacketNumberLength) :
    Writes (appendAckFields io false largestLength blockLength 0 0 frame)
      (BigEndian.encode 1 (ackTypeByte false largestLength blockLength) ++
        (BigEndian.encode largestLength.bytes frame.largestAcked ++
          (io.uFloat16Bytes (frame.ackDelayTime.getD io.kUFloat16MaxValue) ++
            ([] ++ (BigEndian.encode blockLength.bytes 0 ++ ([] ++ BigEndian.encode 1 0)))))) := by
  have noIntervals : appendIntervals io blockLength frame.packets.descending 0 = some := by
    rw [PacketNumberQueue.descending, none]
    rfl
  apply (writes_writeUInt8 _).bind
  apply (writes_appendPacketNumber io _ _).bind
  apply (writes_writeBytes _).bind
  apply writes_nothing.bind
  apply (writes_appendPacketNumber io _ _).bind
  rw [noIntervals]
  exact writes_nothing.bind (writes_writeUInt8 0)

/-- What `SendAck` writes for a frame without packets. -/
theorem sendAck_of_nil (io : QuicData) (none : frame.packets.intervals = [])
    (written : sendAck io seq frame = some bytes) :
    ∃ frameType, StartsAckFrame frameType ∧ frameType < 256 ∧ hasAckBlocks frameType = false ∧
      ackBlockLength frameType = .packet1Byte ∧ ∃ delay : List UInt8, delay.length = 2 ∧
      bytes = BigEndian.encode 1 frameType ++
        (BigEndian.encode (largestAckedLength frameType).bytes frame.largestAcked ++
          (delay ++ (BigEndian.encode 1 0 ++ BigEndian.encode 1 0))) := by
  have noInfo : getAckFrameInfo frame = ⟨0, 0, 0⟩ := by
    rw [getAckFrameInfo, PacketNumberQueue.descending, none]
    rfl
  obtain ⟨writer, appended, same⟩ := Option.bind_eq_some_iff.mp written
  have fields : appendAckFields io false (getMinSeqLength frame.largestAcked) (getMinSeqLength 0)
      0 0 frame (ackWriter seq) = some writer := by
    unfold appendAckFrameAndTypeByte at appended
    simpa [noInfo] using appended
  have sound : (ackWriter seq).Sound := Nat.zero_le _
  have laidOut := (writes_ackFields_nil io none _ _).append_eq sound fields
  refine ⟨ackTypeByte false (getMinSeqLength frame.largestAcked) (getMinSeqLength 0),
    startsAckFrame_ackTypeByte, ackTypeByte_lt, hasAckBlocks_ackTypeByte, ?_,
    io.uFloat16Bytes (frame.ackDelayTime.getD io.kUFloat16MaxValue),
    io.length_uFloat16Bytes _, ?_⟩
  · rw [ackBlockLength_ackTypeByte (flagged_getMinSeqLength _)]
    rfl
  · rw [largestAckedLength_ackTypeByte (flagged_getMinSeqLength _)]
    cases same
    rw [laidOut]
    rfl

/-- The reader of a frame without blocks whose first block has no packets. -/
theorem record_emptyAck (io : QuicData) (largestAcked : Nat) {frameType : Nat} {delay : List UInt8}
    (noBlocks : hasAckBlocks frameType = false) (oneByte : ackBlockLength frameType = .packet1Byte)
    (lengthDelay : delay.length = 2) :
    let outcome := record io (processAckFrame io.kUFloat16MaxValue frameType)
      (BigEndian.encode (largestAckedLength frameType).bytes largestAcked ++
        (delay ++ (BigEndian.encode 1 0 ++ BigEndian.encode 1 0)))
    (∀ packetNumber, ¬Acked outcome.2.visitor packetNumber) ∧
      (outcome.2.reader = [] ∨ ∃ detail, outcome.1 = .error detail) := by
  intro outcome
  rcases processAckFrame_cases io frameType
      (BigEndian.encode (largestAckedLength frameType).bytes largestAcked ++
        (delay ++ (BigEndian.encode 1 0 ++ BigEndian.encode 1 0))) with
    ⟨ack, rest, laidOut, calls, stops⟩ | ⟨calls, ⟨detail, unread, failed⟩, noRange⟩
  · have noneCounted := ack.numAckBlocks_eq_zero noBlocks
    have noneRead : ack.blocks = [] :=
      List.length_eq_zero_iff.mp (Nat.le_zero.mp (noneCounted ▸ ack.length_blocks_le))
    have firstFits := ack.firstBlockLength_lt
    have width : ack.wire = BigEndian.encode (largestAckedLength frameType).bytes ack.largestAcked ++
        (ack.delay ++ BigEndian.encode 1 ack.firstBlockLength) := by
      simp [AckPrefix.wire, AckPrefix.countWire, AckPrefix.blocksWire, noBlocks, oneByte, noneRead,
        QuicPacketNumberLength.bytes]
    -- The fields have fixed widths, so the bytes determine the first block.
    rw [width, List.append_assoc, List.append_assoc] at laidOut
    obtain ⟨_, behindLargest⟩ := List.append_inj laidOut (by simp)
    obtain ⟨_, behindDelay⟩ := List.append_inj behindLargest (by rw [lengthDelay, ack.length_delay])
    obtain ⟨sameFirst, sameRest⟩ := List.append_inj behindDelay (by simp)
    rw [oneByte] at firstFits
    have noFirst : ack.firstBlockLength = 0 :=
      (BigEndian.encode_inj (Nat.pow_pos (by decide)) firstFits sameFirst).symm
    obtain ⟨noLargest, _⟩ := ack.acksSome noFirst
    have noRanges : ∀ packetNumber, ¬Acked (ack.calls io) packetNumber := by
      intro packetNumber acked
      obtain ⟨range, member, within⟩ := acked_iff_ackRanges.mp
        ((acked_calls_iff ack io packetNumber).mp acked)
      rw [ackRanges_ranges, noneRead, AckPrefix.firstReceived, noLargest, noFirst] at member
      rw [List.mem_singleton.mp member] at within
      change 0 + 1 - 0 ≤ packetNumber ∧ packetNumber < 0 + 1 at within
      omega
    constructor
    · intro packetNumber acked
      rw [calls] at acked
      exact noRanges packetNumber acked
    · rcases stops with complete | failed
      · left
        have read := record_complete io complete []
        rw [width, List.append_nil, List.append_assoc, List.append_assoc, sameRest, ← laidOut]
          at read
        exact congrArg (fun result => result.2.reader) read
      · exact Or.inr failed
  · constructor
    · rintro packetNumber ⟨start, stop, last, member, _⟩
      change .onAckRange start stop last ∈ (record io _ _).2.visitor at member
      rw [failed] at member
      exact noRange start stop last member
    · exact Or.inr ⟨detail, congrArg Prod.fst failed⟩

/-- A frame without packets lists none. -/
theorem not_acked_of_nil (none : frame.packets.intervals = [])
    (written : sendAck env.io seq frame = some bytes) :
    ¬Acked (recordFrames env bytes).2.visitor packetNumber := by
  obtain ⟨frameType, starts, isByte, noBlocks, oneByte, delay, lengthDelay, rfl⟩ :=
    sendAck_of_nil env.io none written
  have typeByte : (UInt8.ofNat frameType).toNat = frameType := by
    rw [UInt8.toNat_ofNat']
    exact Nat.mod_eq_of_lt isByte
  have ⟨noRanges, ends⟩ := record_emptyAck env.io frame.largestAcked noBlocks oneByte lengthDelay
  have frameRead := record_processFrame_ack env starts
    (BigEndian.encode (largestAckedLength frameType).bytes frame.largestAcked ++
      (delay ++ (BigEndian.encode 1 0 ++ BigEndian.encode 1 0)))
  rw [recordFrames, BigEndian.encode_one, List.singleton_append, record_processFrameData_cons,
    List.length_cons, record_processFrames_cons, typeByte, frameRead]
  rcases outcome : record env.io (processAckFrame env.io.kUFloat16MaxValue frameType)
      (BigEndian.encode (largestAckedLength frameType).bytes frame.largestAcked ++
        (delay ++ (BigEndian.encode 1 0 ++ BigEndian.encode 1 0))) with
    ⟨detail | value, unread, calls⟩
  · rw [outcome] at noRanges
    exact noRanges packetNumber
  · rw [outcome] at noRanges ends
    rcases ends with finished | ⟨detail, failed⟩
    · change unread = [] at finished
      rw [finished]
      simp only [Except.map, Except.mapError, record_processFrames_nil, prepend, List.append_nil]
      exact noRanges packetNumber
    · cases failed

end Written

/-! ### The manager -/

/-- The packets of an ack frame are packets that were recorded, and the largest of them is
the largest acked. -/
structure ReportsRecorded (manager : QuicReceivedPacketManager) : Prop where
  recorded : ∀ calls packetNumber, (manager.updatedAckFrame calls).packets.Holds packetNumber →
    ∃ receiptTime, .recordPacketReceived packetNumber receiptTime ∈ calls
  largest : ∀ calls, (manager.updatedAckFrame calls).packets.intervals ≠ [] →
    IsGreatest {packetNumber | (manager.updatedAckFrame calls).packets.Holds packetNumber}
      (manager.updatedAckFrame calls).largestAcked

/-- A packet number that a receiver can read and a sender gives. -/
def Numbered (packetNumber : Nat) : Prop := 1 ≤ packetNumber ∧ packetNumber < 2 ^ 48

/-- An ack lists only numbers that were recorded before. -/
theorem ReportsRecorded.recorded_of_acked {manager : QuicReceivedPacketManager}
    (reports : ReportsRecorded manager) (env : FramerEnv) {calls : List ReceivedCall}
    (numbered : ∀ packetNumber receiptTime,
      .recordPacketReceived packetNumber receiptTime ∈ calls → Numbered packetNumber)
    {seq packetNumber : Nat} {bytes : List UInt8}
    (written : sendAck env.io seq (manager.updatedAckFrame calls) = some bytes)
    (acked : Acked (recordFrames env bytes).2.visitor packetNumber) :
    ∃ receiptTime, .recordPacketReceived packetNumber receiptTime ∈ calls := by
  by_cases none : (manager.updatedAckFrame calls).packets.intervals = []
  · exact absurd acked (not_acked_of_nil env none written)
  · have wellFormed : (manager.updatedAckFrame calls).WellFormed := by
      constructor
      · exact reports.largest calls none
      · intro number holds
        have ⟨receiptTime, member⟩ := reports.recorded calls number holds
        exact (numbered number receiptTime member).1
      · intro number holds
        have ⟨receiptTime, member⟩ := reports.recorded calls number holds
        exact (numbered number receiptTime member).2
    exact reports.recorded calls packetNumber (holds_of_acked_wellFormed env wellFormed written acked)

/-! ### One call of the receiver -/

namespace MyQuicReceiver

variable {io : QuicData} {manager : QuicReceivedPacketManager} {arrived : Nat → Prop}

/-- What a call does: it records only numbers that have arrived, and every ack it sends is
the manager's frame behind some calls made so far. -/
structure Answers (io : QuicData) (manager : QuicReceivedPacketManager) (arrived : Nat → Prop)
    (before after : MyQuicReceiver) (events : List ReceiverEvent) : Prop where
  kept : ∀ call ∈ before.recvPacketManager, call ∈ after.recvPacketManager
  recorded : ∀ packetNumber receiptTime,
    .recordPacketReceived packetNumber receiptTime ∈ after.recvPacketManager →
      .recordPacketReceived packetNumber receiptTime ∈ before.recvPacketManager ∨
        arrived packetNumber
  acks : ∀ datagram, .ack (some datagram) ∈ events → ∃ calls seq frames,
    (∀ call ∈ calls, call ∈ after.recvPacketManager) ∧ datagram = writeHeader io seq ++ frames ∧
      Quic.sendAck io seq (manager.updatedAckFrame calls) = some frames

theorem Answers.trans {before middle after : MyQuicReceiver} {first second : List ReceiverEvent}
    (early : Answers io manager arrived before middle first)
    (late : Answers io manager arrived middle after second) :
    Answers io manager arrived before after (first ++ second) where
  kept call member := late.kept call (early.kept call member)
  recorded packetNumber receiptTime member := by
    rcases late.recorded packetNumber receiptTime member with there | here
    · exact early.recorded packetNumber receiptTime there
    · exact Or.inr here
  acks datagram sent := by
    rcases List.mem_append.mp sent with there | here
    · have ⟨calls, seq, frames, made, rest⟩ := early.acks datagram there
      exact ⟨calls, seq, frames, fun call member => late.kept call (made call member), rest⟩
    · exact late.acks datagram here

/-- Calls that record nothing and send nothing. -/
theorem Answers.of_silent {before after : MyQuicReceiver} {events : List ReceiverEvent}
    {calls : List ReceivedCall}
    (same : after.recvPacketManager = before.recvPacketManager ++ calls)
    (unrecorded : ∀ packetNumber receiptTime,
      .recordPacketReceived packetNumber receiptTime ∈ calls → arrived packetNumber)
    (unsent : ∀ datagram, .ack (some datagram) ∉ events) :
    Answers io manager arrived before after events where
  kept call member := by
    rw [same]
    exact List.mem_append_left _ member
  recorded packetNumber receiptTime member := by
    rw [same] at member
    exact (List.mem_append.mp member).imp id (unrecorded packetNumber receiptTime)
  acks datagram sent := absurd sent (unsent datagram)

variable (receiver : MyQuicReceiver) (now : Nat)

theorem answers_sendAck : Answers io manager arrived receiver (receiver.sendAck io manager now).1
    (receiver.sendAck io manager now).2 where
  kept call member := List.mem_append_left _ member
  recorded packetNumber receiptTime member := by
    rcases List.mem_append.mp member with there | here
    · exact Or.inl there
    · cases List.mem_singleton.mp here
  acks datagram sent := by
    have same := ReceiverEvent.ack.inj (List.mem_singleton.mp sent)
    have ⟨frames, written, headed⟩ := Option.map_eq_some_iff.mp same.symm
    exact ⟨_, _, frames, fun call member => member, headed.symm, written⟩

theorem answers_maybeSendAck : Answers io manager arrived receiver
    (receiver.maybeSendAck io manager now).1 (receiver.maybeSendAck io manager now).2 := by
  have silent : ∀ after : MyQuicReceiver,
      after.recvPacketManager = receiver.recvPacketManager →
        Answers io manager arrived receiver after [] := by
    intro after same
    apply Answers.of_silent
    · rw [same, List.append_nil]
    · exact fun _ _ member => absurd member List.not_mem_nil
    · exact fun _ => List.not_mem_nil
  unfold maybeSendAck
  split_ifs
  · exact answers_sendAck receiver now
  · exact answers_sendAck receiver now
  · exact silent _ rfl
  · exact silent _ rfl

theorem answers_onStreamPacket {seq : Nat} (rest : List UInt8) (came : arrived seq) :
    Answers io manager arrived receiver (receiver.onStreamPacket io manager now seq rest).1
      (receiver.onStreamPacket io manager now seq rest).2 := by
  have recorded : ∀ missing : List Nat, Answers io manager arrived receiver
      (receiver.recordPacket now seq)
        (.onewayDelay seq (onewayDelay io now rest) :: missing.map .loss) := by
    intro missing
    apply Answers.of_silent rfl
    · intro packetNumber receiptTime member
      cases List.mem_singleton.mp member
      exact came
    · intro datagram member
      rcases List.mem_cons.mp member with same | later
      · cases same
      · have ⟨_, _, same⟩ := List.mem_map.mp later
        cases same
  unfold onStreamPacket
  dsimp only
  split_ifs
  · exact (recorded _).trans (answers_maybeSendAck _ now)
  · exact recorded _

theorem answers_receive (data : List UInt8) :
    Answers io manager (fun packetNumber => Bbr.streamNumber io (now, data) = some packetNumber)
      receiver (receiver.receive io manager now data).1
      (receiver.receive io manager now data).2 := by
  have silent : ∀ (after : MyQuicReceiver) (calls : List ReceivedCall),
      after.recvPacketManager = receiver.recvPacketManager ++ calls →
      (∀ packetNumber receiptTime, .recordPacketReceived packetNumber receiptTime ∉ calls) →
        Answers io manager (fun packetNumber =>
          Bbr.streamNumber io (now, data) = some packetNumber) receiver after [] := by
    intro after calls same none
    apply Answers.of_silent same
    · exact fun packetNumber receiptTime member => absurd member (none packetNumber receiptTime)
    · exact fun _ => List.not_mem_nil
  unfold receive onIncomingData
  dsimp only
  split_ifs with empty isStream isStopWaiting
  · exact silent _ [] (List.append_nil _).symm fun _ _ => List.not_mem_nil
  · apply answers_onStreamPacket
    show (if data = [] then none else _) = _
    rw [if_neg empty]
    exact if_pos isStream
  · apply silent _ _ rfl
    intro packetNumber receiptTime member
    cases List.mem_singleton.mp member
  · exact silent _ [] (List.append_nil _).symm fun _ _ => List.not_mem_nil

theorem answers_checkAlarm : Answers io manager arrived receiver
    (receiver.checkAlarm io manager now).1 (receiver.checkAlarm io manager now).2 := by
  unfold checkAlarm
  dsimp only
  split_ifs
  · have sent : Answers io manager arrived
        { receiver with ackAlarm := (receiver.ackAlarm.isExpired now).2 } _ _ :=
      answers_sendAck _ now
    exact ⟨sent.kept, sent.recorded, sent.acks⟩
  · have same : ({ receiver with ackAlarm := (receiver.ackAlarm.isExpired now).2 } :
        MyQuicReceiver).recvPacketManager = receiver.recvPacketManager ++ [] :=
      (List.append_nil _).symm
    apply Answers.of_silent same
    · exact fun _ _ member => absurd member List.not_mem_nil
    · exact fun _ => List.not_mem_nil

theorem answers_process (data : List UInt8) :
    Answers io manager (fun packetNumber => Bbr.streamNumber io (now, data) = some packetNumber)
      receiver (receiver.process io manager now data).1
      (receiver.process io manager now data).2 :=
  (answers_receive receiver now data).trans (answers_checkAlarm _ now)

end MyQuicReceiver

/-! ### Runs of the receiver -/

/-- The datagram of an ack that could be written. -/
def ReceiverEvent.datagram : ReceiverEvent → Option (List UInt8)
  | .ack datagram => datagram
  | _ => none

def receiverParty (io : QuicData) (manager : QuicReceivedPacketManager) :
    Party MyQuicReceiver (Nat × List UInt8) (List ReceiverEvent) (List UInt8) where
  machine := receiverMachine io manager
  delivered call := if call.2 = [] then [] else [call.2]
  sent events := events.filterMap ReceiverEvent.datagram

/-- The packet number of a datagram that the receiver takes for a stream packet; it does
not depend on the time. -/
def arrivingNumber (io : QuicData) (datagram : List UInt8) : Option Nat :=
  Bbr.streamNumber io (0, datagram)

/-- The packets that a sender reads as acked. -/
def DatagramAcks (env : FramerEnv) (datagram : List UInt8) (packetNumber : Nat) : Prop :=
  ∃ frames, framePayload datagram = some frames ∧
    Acked (recordFrames env frames).2.visitor packetNumber

section Runs

variable {env : FramerEnv} {manager : QuicReceivedPacketManager}
  {history : List ((Nat × List UInt8) × List ReceiverEvent)} {receiver : MyQuicReceiver}

theorem recorded_arrived
    (run : (receiverMachine env.io manager).Run .create history receiver) :
    ∀ packetNumber receiptTime,
      .recordPacketReceived packetNumber receiptTime ∈ receiver.recvPacketManager →
        ∃ source ∈ (receiverParty env.io manager).allDelivered history,
          arrivingNumber env.io source = some packetNumber := by
  induction run with
  | nil => exact fun _ _ member => absurd member List.not_mem_nil
  | @snoc history state after call events before stepped inductionHypothesis =>
      intro packetNumber receiptTime member
      have same : (state.process env.io manager call.1 call.2).1 = after :=
        congrArg Prod.fst (Option.some.inj stepped)
      have answers : MyQuicReceiver.Answers env.io manager _ state _ _ :=
        MyQuicReceiver.answers_process state call.1 call.2
      rw [Party.allDelivered_snoc]
      rw [← same] at member
      rcases answers.recorded packetNumber receiptTime member with there | here
      · have ⟨source, delivered, numbered⟩ := inductionHypothesis packetNumber receiptTime there
        exact ⟨source, List.mem_append_left _ delivered, numbered⟩
      · refine ⟨call.2, List.mem_append_right _ ?_, here⟩
        show call.2 ∈ if call.2 = [] then [] else [call.2]
        rw [if_neg]
        · exact List.mem_singleton_self _
        · intro empty
          unfold Bbr.streamNumber at here
          rw [if_pos empty] at here
          cases here

/-- What a sender skips of an ack is its header. -/
theorem framePayload_written {io : QuicData} {seq : Nat} {frames payload : List UInt8}
    (read : framePayload (writeHeader io seq ++ frames) = some payload) : payload = frames := by
  have headed : ((writeHeader io seq ++ frames).headD 0).toNat >>>
      kPublicHeaderSequenceNumberShift = (UInt8.ofNat (getPacketNumberFlags
        (getMinSeqLength seq) <<< kPublicHeaderSequenceNumberShift)).toNat >>>
          kPublicHeaderSequenceNumberShift := rfl
  unfold framePayload at read
  simp only [headed, readSequenceNumberLength_publicFlags] at read
  split_ifs at read
  cases read
  exact List.drop_left' (length_writeHeader io seq)

theorem arrivingNumber_lt {io : QuicData} {datagram : List UInt8} {packetNumber : Nat}
    (arrives : arrivingNumber io datagram = some packetNumber) : packetNumber < 2 ^ 48 := by
  unfold arrivingNumber Bbr.streamNumber at arrives
  dsimp only at arrives
  split_ifs at arrives
  cases arrives
  exact Bbr.quic_readPacket_lt io datagram

/-- Every number that an ack lists has arrived. -/
theorem receiverParty_honest (reports : ReportsRecorded manager) :
    (receiverParty env.io manager).Honest .create
      (fun datagram => ∀ packetNumber, arrivingNumber env.io datagram = some packetNumber →
        1 ≤ packetNumber)
      (DatagramAcks env) (fun datagram packetNumber =>
        arrivingNumber env.io datagram = some packetNumber) := by
  intro history receiver run genuine datagram sent packetNumber acks
  induction run with
  | nil => cases sent
  | @snoc history state after call events before stepped inductionHypothesis =>
      have arrived := recorded_arrived (before.snoc stepped)
      rw [Party.allSent_snoc] at sent
      rcases List.mem_append.mp sent with earlier | now
      · rw [Party.allDelivered_snoc] at genuine ⊢
        have ⟨source, delivered, numbered⟩ :=
          inductionHypothesis (List.forall_mem_append.mp genuine).1 earlier
        exact ⟨source, List.mem_append_left _ delivered, numbered⟩
      · have processed := Option.some.inj stepped
        have answers : MyQuicReceiver.Answers env.io manager _ state _ _ :=
          MyQuicReceiver.answers_process state call.1 call.2
        rw [processed] at answers
        have ⟨event, member, acked⟩ := List.mem_filterMap.mp now
        have isAck : event = .ack (some datagram) := by
          cases event with
          | ack _ => exact congrArg ReceiverEvent.ack acked
          | _ => cases acked
        have ⟨calls, seq, frames, made, headed, written⟩ :=
          answers.acks datagram (isAck ▸ member)
        have ⟨payload, read, lists⟩ := acks
        rw [headed] at read
        rw [framePayload_written read] at lists
        have numbered : ∀ number receiptTime,
            .recordPacketReceived number receiptTime ∈ calls → Numbered number := by
          intro number receiptTime recorded
          have ⟨source, delivered, arrives⟩ := arrived number receiptTime (made _ recorded)
          exact ⟨genuine source delivered number arrives, arrivingNumber_lt arrives⟩
        have ⟨receiptTime, recorded⟩ := reports.recorded_of_acked env numbered written lists
        exact arrived packetNumber receiptTime (made _ recorded)

end Runs

end StupidSimple.Quic
