import StupidSimple.Quic.Sender

/-!
Owns the frames that `ProcessFrameData` takes from its bytes one after the other.

`FrameAt` places a frame: the calls made before it, its type byte and the bytes
behind that byte. It speaks of the bytes only. A tolerant visitor is called for
the frames in this order, each one starting where the frame before it ended.
-/

namespace StupidSimple.Quic

open StupidSimple.Library Interaction MyQuicFramer

def VisitorCall.IsAckRange : VisitorCall → Prop
  | .onAckRange _ _ _ => True
  | _ => False

/-- The type byte is one that `ProcessFrameData` takes for an ack frame. -/
def StartsAckFrame (frameType : Nat) : Prop :=
  frameType &&& kQuicFrameTypeSpecialMask ≠ 0 ∧ isStreamFrame frameType = false ∧
    isAckFrame frameType = true

instance (frameType : Nat) : Decidable (StartsAckFrame frameType) :=
  inferInstanceAs (Decidable (_ ∧ _ ∧ _))

/-! ### Contracts of frames -/

section Contracts

variable {allowed : VisitorCall → Prop}

theorem callsOnly_readStreamData (hasDataLength : Bool) :
    CallsOnly allowed (fun _ => True) (readStreamData hasDataLength) := by
  unfold readStreamData
  split_ifs
  · exact Framer.callsOnly_readStringPiece16 _
  · exact ⟨trivial, fun remaining => Framer.callsOnly_readStringPiece remaining _⟩

theorem callsOnly_processStreamFrame (frameType : Nat) :
    CallsOnly allowed (fun _ => True) (processStreamFrame frameType) := by
  have idNarrow : (frameType &&& (255 - kQuicFrameTypeStreamMaskPre40) &&&
      kQuicStreamIDLengthMaskPre40) + 1 ≤ 8 := by
    have := Nat.and_le_right (n := frameType &&& (255 - kQuicFrameTypeStreamMaskPre40))
      (m := kQuicStreamIDLengthMaskPre40)
    have small : kQuicStreamIDLengthMaskPre40 ≤ 7 := by decide
    omega
  have offsetNarrow : ∀ offsetBits, offsetBits ≤ kQuicStreamOffsetMaskPre40 →
      (if 0 < offsetBits then offsetBits + 1 else offsetBits) ≤ 8 := by
    intro offsetBits bounded
    have small : kQuicStreamOffsetMaskPre40 = 7 := rfl
    split_ifs <;> omega
  apply Meets.bind (Framer.callsOnly_readBytesToUInt64 idNarrow _)
  intro streamId _
  apply Meets.bind (Framer.callsOnly_readBytesToUInt64 (offsetNarrow _ Nat.and_le_right) _)
  intro offset _
  apply Meets.bind (callsOnly_readStreamData _)
  intro data _
  trivial

theorem callsOnly_skipPadding (bound numPaddingBytes : Nat) :
    CallsOnly allowed (fun _ => True) (skipPadding bound numPaddingBytes) := by
  induction bound generalizing numPaddingBytes with
  | zero => trivial
  | succ bound inductionHypothesis =>
      apply Meets.bind Framer.callsOnly_isDoneReading
      intro finished _
      split_ifs
      · trivial
      · apply Meets.bind Framer.callsOnly_peekByte
        intro byte _
        split_ifs
        · exact ⟨(by decide : 1 ≤ 8), fun _ => inductionHypothesis _⟩
        · trivial

theorem callsOnly_processPaddingFrame :
    CallsOnly allowed (fun _ => True) processPaddingFrame :=
  ⟨trivial, fun remaining => callsOnly_skipPadding remaining 1⟩

theorem callsOnly_processStopWaitingFrame (header : QuicPacketHeader) :
    CallsOnly allowed (fun _ => True) (processStopWaitingFrame header) := by
  apply Meets.bind (Framer.callsOnly_readBytesToUInt64 (bytes_le_eight _) _)
  intro leastUnackedDelta _
  split_ifs <;> trivial

theorem callsOnly_processRstStreamFrame (limits : ErrorLimits) :
    CallsOnly allowed (fun call => ¬call.IsAckRange) (processRstStreamFrame limits) := by
  apply Meets.bind (Framer.callsOnly_readBytesToUInt64 (by decide) _)
  intro streamId _
  apply Meets.bind (Framer.callsOnly_readBytesToUInt64 (by decide) _)
  intro byteOffset _
  apply Meets.bind (Framer.callsOnly_readBytesToUInt64 (by decide) _)
  intro errorCode _
  exact id

theorem callsOnly_processConnectionCloseFrame (limits : ErrorLimits) :
    CallsOnly allowed (fun call => ¬call.IsAckRange) (processConnectionCloseFrame limits) := by
  apply Meets.bind (Framer.callsOnly_readBytesToUInt64 (by decide) _)
  intro errorCode _
  apply Meets.bind (Framer.callsOnly_readStringPiece16 _)
  intro errorDetails _
  exact id

theorem callsOnly_processGoAwayFrame (limits : ErrorLimits) :
    CallsOnly allowed (fun call => ¬call.IsAckRange) (processGoAwayFrame limits) := by
  apply Meets.bind (Framer.callsOnly_readBytesToUInt64 (by decide) _)
  intro errorCode _
  apply Meets.bind (Framer.callsOnly_readBytesToUInt64 (by decide) _)
  intro lastGoodStreamId _
  apply Meets.bind (Framer.callsOnly_readStringPiece16 _)
  intro reasonPhrase _
  exact id

theorem callsOnly_processWindowUpdateFrame :
    CallsOnly allowed (fun call => ¬call.IsAckRange) processWindowUpdateFrame := by
  apply Meets.bind (Framer.callsOnly_readBytesToUInt64 (by decide) _)
  intro streamId _
  apply Meets.bind (Framer.callsOnly_readBytesToUInt64 (by decide) _)
  intro byteOffset _
  exact id

theorem callsOnly_processBlockedFrame :
    CallsOnly allowed (fun call => ¬call.IsAckRange) processBlockedFrame := by
  apply Meets.bind (Framer.callsOnly_readBytesToUInt64 (by decide) _)
  intro streamId _
  exact id

theorem callsOnly_processAckBlocks (permitted : ∀ call, allowed call)
    (width : QuicPacketNumberLength) (remaining firstReceived : Nat) :
    CallsOnly allowed (fun _ => True) (processAckBlocks width remaining firstReceived) := by
  induction remaining generalizing firstReceived with
  | zero => trivial
  | succ remaining inductionHypothesis =>
      apply Meets.bind (Framer.callsOnly_readBytesToUInt64 (by decide) _)
      intro gap _
      apply Meets.bind (Framer.callsOnly_readBytesToUInt64 (bytes_le_eight width) _)
      intro currentBlockLength _
      split_ifs
      · trivial
      · exact (Framer.callsOnly_visitAck (permitted _)).bind fun _ _ => inductionHypothesis _
      · exact inductionHypothesis _

theorem callsOnly_processAckFrame (permitted : ∀ call, allowed call)
    (kUFloat16MaxValue frameType : Nat) :
    CallsOnly allowed (fun _ => True) (processAckFrame kUFloat16MaxValue frameType) := by
  apply Meets.bind (Framer.callsOnly_readBytesToUInt64 (bytes_le_eight _) _)
  intro largestAcked _
  apply Meets.bind (Framer.callsOnly_readUFloat16 _)
  intro ackDelayTimeUs _
  apply Meets.bind (Framer.callsOnly_visitAck (permitted _))
  intro _ _
  have counts : CallsOnly allowed (fun _ => True)
      (readNumAckBlocks (hasAckBlocks frameType)) := by
    unfold readNumAckBlocks
    split_ifs
    · exact Framer.callsOnly_readBytesToUInt64 (by decide) _
    · trivial
  apply Meets.bind counts
  intro numAckBlocks _
  apply Meets.bind (Framer.callsOnly_readBytesToUInt64 (bytes_le_eight _) _)
  intro firstBlockLength _
  split_ifs
  · trivial
  · trivial
  · apply Meets.bind (Framer.callsOnly_visitAck (permitted _))
    intro _ _
    apply Meets.bind (callsOnly_processAckBlocks permitted _ _ _)
    intro _ _
    apply Meets.bind (Framer.callsOnly_readBytesToUInt64 (by decide) _)
    intro numReceivedPackets _
    exact callsOnly_processTimestampsInAckFrame numReceivedPackets

theorem callsOnly_raiseError {α : Type} {Returns : α → Prop} {program : Framer α}
    (meets : CallsOnly allowed Returns program) (code : QuicErrorCode) :
    CallsOnly allowed Returns (raiseError code program) :=
  meets.rescue fun _ => ⟨trivial, fun _ => trivial⟩

/-- A frame that is reported makes one call. -/
theorem callsOnly_report {program : Framer VisitorCall} (meets : CallsOnly allowed allowed program)
    (code : QuicErrorCode) : CallsOnly allowed (fun _ => True) (report code program) :=
  (callsOnly_raiseError meets code).bind fun _ permitted => ⟨permitted, fun _ => trivial⟩

variable (env : FramerEnv)

/-- Only an ack frame acks packets. -/
theorem callsOnly_processFrame {frameType : Nat}
    (others : ∀ call : VisitorCall, ¬call.IsAckRange → allowed call)
    (acks : StartsAckFrame frameType → ∀ call, allowed call) :
    CallsOnly allowed (fun _ => True) (env.processFrame frameType) := by
  have frame : ∀ {program : Framer VisitorCall} {code : QuicErrorCode},
      CallsOnly allowed (fun call => ¬call.IsAckRange) program →
      CallsOnly allowed (fun _ => True) (report code program) := by
    intro program code meets
    exact callsOnly_report (meets.mono (fun _ asked => asked) others) code
  have illegal : ∀ {α : Type} (code : QuicErrorCode) (detail : String),
      CallsOnly allowed (fun _ => True) (raiseError (α := α) code (.fail detail)) :=
    fun code detail => callsOnly_raiseError (meets_fail detail) code
  unfold FramerEnv.processFrame processFrame
  split_ifs with special stream ack padding rst close goAway window blocked stopWaiting ping
  · exact frame ((callsOnly_processStreamFrame frameType).map fun _ _ => id)
  · have streamless : isStreamFrame frameType = false := Bool.eq_false_iff.mpr stream
    exact (callsOnly_raiseError (callsOnly_processAckFrame
      (acks ⟨special, streamless, ack⟩) _ _) _).bind fun _ _ => trivial
  · exact illegal _ _
  · exact frame (callsOnly_processPaddingFrame.map fun _ _ => id)
  · exact frame (callsOnly_processRstStreamFrame _)
  · exact frame (callsOnly_processConnectionCloseFrame _)
  · exact frame (callsOnly_processGoAwayFrame _)
  · exact frame callsOnly_processWindowUpdateFrame
  · exact frame callsOnly_processBlockedFrame
  · exact frame ((callsOnly_processStopWaitingFrame _).map fun _ _ => id)
  · exact ⟨others _ id, fun _ => trivial⟩
  · exact illegal _ _

end Contracts

/-! ### Frames in order -/

variable (env : FramerEnv)

theorem record_raiseError {α : Type} (io : QuicData) (code : QuicErrorCode) (program : Framer α)
    (bytes : List UInt8) :
    record io (raiseError code program) bytes =
      ((record io program bytes).1.mapError (code, ·), (record io program bytes).2) := by
  unfold record raiseError
  rw [run_rescue]
  split
  · next value after completed =>
      rw [completed]
      rfl
  · next detail after failed =>
      rw [failed]
      rfl

/-- The recording of an ack frame, whose failure raises `QUIC_INVALID_ACK_DATA`. -/
theorem record_processFrame_ack {frameType : Nat} (ack : StartsAckFrame frameType)
    (bytes : List UInt8) :
    let frame := record env.io (processAckFrame env.io.kUFloat16MaxValue frameType) bytes
    record env.io (env.processFrame frameType) bytes =
      ((frame.1.map fun _ => true).mapError (.invalidAckData, ·), frame.2) := by
  intro frame
  have raised := record_raiseError env.io .invalidAckData
    (processAckFrame env.io.kUFloat16MaxValue frameType) bytes
  unfold FramerEnv.processFrame processFrame
  rw [if_pos ack.1, if_neg (by simp [ack.2.1]), if_pos ack.2.2]
  rcases outcome : frame with ⟨detail | value, unread, calls⟩
  · rw [show record env.io _ bytes = _ from outcome] at raised
    exact record_bind_error env.io raised
  · rw [show record env.io _ bytes = _ from outcome] at raised
    rw [record_bind_ok env.io raised]
    simp [prepend, Except.map, Except.mapError]

/-- A frame among some bytes: the calls made for the frames before it, its type
byte and the bytes behind that. -/
inductive FrameAt : List UInt8 → List VisitorCall → Nat → List UInt8 → Prop
  | first (type : UInt8) (bytes : List UInt8) : FrameAt (type :: bytes) [] type.toNat bytes
  | later {type : UInt8} {bytes unread frame : List UInt8} {calls before : List VisitorCall}
      {frameType : Nat}
      (ended : record env.io (env.processFrame type.toNat) bytes = (.ok true, ⟨unread, calls⟩))
      (found : FrameAt unread before frameType frame) :
      FrameAt (type :: bytes) (calls ++ before) frameType frame

theorem record_isDoneReading {ε : Type} (io : QuicData) (bytes : List UInt8) :
    record io (Framer.isDoneReading : Interaction FramerQuery FramerQuery.Answer ε Bool) bytes =
      (.ok bytes.isEmpty, ⟨bytes, []⟩) := rfl

theorem record_processFrames_nil (bound : Nat) :
    record env.io (env.processFrames bound) [] = (.ok (), ⟨[], []⟩) := by
  cases bound <;> rfl

/-- What comes of the frames: the first one, and the others when it goes on. -/
theorem record_processFrames_cons (bound : Nat) (type : UInt8) (bytes : List UInt8) :
    let frame := record env.io (env.processFrame type.toNat) bytes
    record env.io (env.processFrames (bound + 1)) (type :: bytes) =
      match frame.1 with
      | .ok true => prepend frame.2.visitor
          (record env.io (env.processFrames bound) frame.2.reader)
      | .ok false => (.ok (), frame.2)
      | .error failure => (.error failure, frame.2) := by
  intro frame
  have typeRead : record env.io (raiseError .invalidFrameData
      (Framer.readUInt8 "Unable to read frame type.")) (type :: bytes) =
        (.ok type.toNat, ⟨bytes, []⟩) := by
    rw [record_raiseError, Framer.readUInt8,
      Framer.record_readBytesToUInt64 env.io (by decide), if_pos (by simp)]
    simp [Except.mapError]
  have reaches : record env.io (env.processFrames (bound + 1)) (type :: bytes) =
      record env.io (env.processFrame type.toNat >>= fun goOn =>
        if goOn then env.processFrames bound else pure ()) bytes := by
    rw [FramerEnv.processFrames, processFrames,
      record_bind_ok env.io (record_isDoneReading env.io (type :: bytes)), prepend_nil]
    simp only [List.isEmpty_cons, Bool.false_eq_true, if_false]
    rw [record_bind_ok env.io typeRead, prepend_nil]
    rfl
  rw [reaches]
  rcases outcome : frame with ⟨failure | goOn, unread, calls⟩
  · exact record_bind_error env.io outcome
  · rw [record_bind_ok env.io outcome]
    cases goOn with
    | false => simp [prepend]
    | true => rfl

/-- `ProcessFrameData` processes the frames, of which there must be one. -/
theorem record_processFrameData_cons (type : UInt8) (bytes : List UInt8) :
    record env.io env.processFrameData (type :: bytes) =
      record env.io (env.processFrames (type :: bytes).length) (type :: bytes) := by
  rw [FramerEnv.processFrameData, processFrameData,
    record_bind_ok env.io (record_isDoneReading env.io (type :: bytes)), prepend_nil]
  rfl

theorem length_record_processFrame (frameType : Nat) (bytes : List UInt8) :
    (record env.io (env.processFrame frameType) bytes).2.reader.length ≤ bytes.length := by
  have meets : CallsOnly (fun _ => True) (fun _ => True) (env.processFrame frameType) :=
    callsOnly_processFrame env (fun _ _ => trivial) fun _ _ => trivial
  exact (record_callsOnly env.io meets bytes).1.1

/-- Every frame that is placed is processed. -/
theorem FrameAt.processed {bytes frame : List UInt8} {before : List VisitorCall} {frameType : Nat}
    (found : FrameAt env bytes before frameType frame) :
    ∀ bound, bytes.length ≤ bound → ∃ later,
      (record env.io (env.processFrames bound) bytes).2.visitor =
        before ++ ((record env.io (env.processFrame frameType) frame).2.visitor ++ later) := by
  induction found with
  | first type bytes =>
      intro bound enough
      obtain ⟨fuel, rfl⟩ := Nat.exists_eq_succ_of_ne_zero (Nat.ne_zero_of_lt enough)
      rw [record_processFrames_cons]
      rcases record env.io (env.processFrame type.toNat) bytes with
        ⟨failure | goOn, unread, calls⟩
      · exact ⟨[], by simp⟩
      · cases goOn with
        | false => exact ⟨[], by simp⟩
        | true => exact ⟨_, rfl⟩
  | @later type bytes unread frame calls before frameType ended found inductionHypothesis =>
      intro bound enough
      obtain ⟨fuel, rfl⟩ := Nat.exists_eq_succ_of_ne_zero (Nat.ne_zero_of_lt enough)
      have shorter := length_record_processFrame env type.toNat bytes
      rw [ended] at shorter
      have unreadEnough : unread.length ≤ fuel := by
        have := shorter.trans (Nat.le_of_succ_le_succ enough)
        exact this
      have ⟨rest, others⟩ := inductionHypothesis fuel unreadEnough
      refine ⟨rest, ?_⟩
      rw [record_processFrames_cons, ended]
      simp only [prepend, others, List.append_assoc]

/-- Every call belongs to a frame. -/
theorem exists_frame_of_call {bound : Nat} {bytes : List UInt8} {call : VisitorCall}
    (called : call ∈ (record env.io (env.processFrames bound) bytes).2.visitor) :
    ∃ before frameType frame, FrameAt env bytes before frameType frame ∧
      call ∈ (record env.io (env.processFrame frameType) frame).2.visitor := by
  induction bound generalizing bytes with
  | zero => cases called
  | succ bound inductionHypothesis =>
      cases bytes with
      | nil => simp [record_processFrames_nil] at called
      | cons type bytes =>
          rw [record_processFrames_cons] at called
          rcases outcome : record env.io (env.processFrame type.toNat) bytes with
            ⟨failure | goOn, unread, calls⟩
          · rw [outcome] at called
            exact ⟨[], _, _, .first type bytes, by rwa [outcome]⟩
          · cases goOn with
            | false =>
                rw [outcome] at called
                exact ⟨[], _, _, .first type bytes, by rwa [outcome]⟩
            | true =>
                rw [outcome] at called
                rcases List.mem_append.mp called with here | later
                · exact ⟨[], _, _, .first type bytes, by rwa [outcome]⟩
                · have ⟨before, frameType, frame, found, member⟩ := inductionHypothesis later
                  exact ⟨_, _, _, .later outcome found, member⟩

end StupidSimple.Quic
