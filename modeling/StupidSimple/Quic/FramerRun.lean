import StupidSimple.Quic.Framer

/-!
Owns the runs of framer programs: the rule of each read, and visitors that never
end a frame. A program reads the same bytes under every such visitor, and the
visitor's state is the replay of the calls that a recorder saw.
-/

namespace StupidSimple.Quic

open StupidSimple.Library Interaction

/-! ### Tolerant visitors -/

namespace Visitor

variable {σ : Type}

/-- The visitor goes on after every call and ignores errors. -/
structure Tolerant (visitor : Visitor σ) : Prop where
  goesOn : ∀ call state, (visitor.call call state).1 = true
  ignoresErrors : ∀ code state, visitor.onError code state = state

/-- The state after some calls. -/
def replay (visitor : Visitor σ) (state : σ) (calls : List VisitorCall) : σ :=
  calls.foldl (fun state call => (visitor.call call state).2) state

@[simp] theorem replay_nil (visitor : Visitor σ) (state : σ) : visitor.replay state [] = state := rfl

@[simp] theorem replay_cons (visitor : Visitor σ) (state : σ) (call : VisitorCall)
    (calls : List VisitorCall) :
    visitor.replay state (call :: calls) =
      visitor.replay (visitor.call call state).2 calls := rfl

theorem replay_append (visitor : Visitor σ) (state : σ) (first second : List VisitorCall) :
    visitor.replay state (first ++ second) =
      visitor.replay (visitor.replay state first) second :=
  List.foldl_append

end Visitor

/-- The visitor that lists its calls. -/
def recorder : Visitor (List VisitorCall) where
  call call calls := (true, calls ++ [call])
  onError _ calls := calls

theorem recorder_tolerant : recorder.Tolerant where
  goesOn _ _ := rfl
  ignoresErrors _ _ := rfl

@[simp] theorem recorder_replay (seen calls : List VisitorCall) :
    recorder.replay seen calls = seen ++ calls := by
  induction calls generalizing seen with
  | nil => simp
  | cons call calls inductionHypothesis =>
      rw [Visitor.replay_cons, inductionHypothesis]
      exact List.append_assoc seen [call] calls

/-! ### Recordings -/

/-- What came of a program, behind some calls made before. -/
def prepend {ε α : Type} (calls : List VisitorCall)
    (outcome : Except ε α × Parsing (List VisitorCall)) :
    Except ε α × Parsing (List VisitorCall) :=
  (outcome.1, ⟨outcome.2.reader, calls ++ outcome.2.visitor⟩)

@[simp] theorem prepend_nil {ε α : Type} (outcome : Except ε α × Parsing (List VisitorCall)) :
    prepend [] outcome = outcome := rfl

theorem prepend_prepend {ε α : Type} (first second : List VisitorCall)
    (outcome : Except ε α × Parsing (List VisitorCall)) :
    prepend first (prepend second outcome) = prepend (first ++ second) outcome := by
  simp [prepend]

section Recording

variable {σ ε α β : Type} (io : QuicData)

/-- What a program returns, leaves unread and reports on some bytes. -/
def record (program : Interaction FramerQuery FramerQuery.Answer ε α) (bytes : List UInt8) :
    Except ε α × Parsing (List VisitorCall) :=
  program.run (framerHandler io recorder) ⟨bytes, []⟩

/-- A program does under any tolerant visitor what it does under the recorder. -/
theorem run_eq_record {visitor : Visitor σ} (tolerant : visitor.Tolerant)
    (program : Interaction FramerQuery FramerQuery.Answer ε α) (state : Parsing σ) :
    program.run (framerHandler io visitor) state =
      ((record io program state.reader).1,
        ⟨(record io program state.reader).2.reader,
          visitor.replay state.visitor (record io program state.reader).2.visitor⟩) := by
  have agree : ∀ question (left : Parsing σ) (right : Parsing (List VisitorCall)),
      (left.reader = right.reader ∧
        left.visitor = visitor.replay state.visitor right.visitor) →
      (framerHandler io visitor question left).1 = (framerHandler io recorder question right).1 ∧
        (framerHandler io visitor question left).2.reader =
          (framerHandler io recorder question right).2.reader ∧
        (framerHandler io visitor question left).2.visitor = visitor.replay state.visitor
          (framerHandler io recorder question right).2.visitor := by
    rintro question left right ⟨sameReader, replayed⟩
    cases question with
    | isDoneReading => exact ⟨congrArg List.isEmpty sameReader, sameReader, replayed⟩
    | bytesRemaining => exact ⟨congrArg List.length sameReader, sameReader, replayed⟩
    | peekByte =>
        exact ⟨congrArg (fun reader => (reader.headD 0).toNat) sameReader, sameReader, replayed⟩
    | readBytesToUInt64 count =>
        simp only [framerHandler, sameReader]
        cases io.readBytesToUInt64 count right.reader <;> exact ⟨rfl, rfl, replayed⟩
    | readUFloat16 =>
        simp only [framerHandler, sameReader]
        cases io.readUFloat16 right.reader <;> exact ⟨rfl, rfl, replayed⟩
    | readStringPiece length =>
        simp only [framerHandler, sameReader]
        cases QuicData.readStringPiece length right.reader <;> exact ⟨rfl, rfl, replayed⟩
    | visit call =>
        refine ⟨tolerant.goesOn call _, sameReader, ?_⟩
        simp [framerHandler, recorder, replayed, visitor.replay_append]
    | onError code =>
        exact ⟨rfl, sameReader, (tolerant.ignoresErrors code _).trans replayed⟩
  have lockstep := run_related (framerHandler io visitor) (framerHandler io recorder)
    (fun left right => left.reader = right.reader ∧
      left.visitor = visitor.replay state.visitor right.visitor)
    agree program (s := state) (t := ⟨state.reader, []⟩) ⟨rfl, rfl⟩
  obtain ⟨sameResult, sameReader, replayed⟩ := lockstep
  apply Prod.ext sameResult
  cases after : (program.run (framerHandler io visitor) state).2 with
  | mk reader visitorState =>
      rw [after] at sameReader replayed
      simp only at sameReader replayed
      rw [sameReader, replayed]
      rfl

/-- The recording of a completed part followed by the rest. -/
theorem record_bind_ok {program : Interaction FramerQuery FramerQuery.Answer ε α}
    {next : α → Interaction FramerQuery FramerQuery.Answer ε β} {bytes rest : List UInt8}
    {calls : List VisitorCall} {value : α}
    (first : record io program bytes = (.ok value, ⟨rest, calls⟩)) :
    record io (program >>= next) bytes = prepend calls (record io (next value) rest) := by
  have remainder := run_eq_record io recorder_tolerant (next value) ⟨rest, calls⟩
  rw [recorder_replay] at remainder
  exact (run_bind_ok first).trans remainder

theorem record_bind_error {program : Interaction FramerQuery FramerQuery.Answer ε α}
    {next : α → Interaction FramerQuery FramerQuery.Answer ε β} {bytes : List UInt8} {failure : ε}
    {after : Parsing (List VisitorCall)}
    (first : record io program bytes = (.error failure, after)) :
    record io (program >>= next) bytes = (.error failure, after) :=
  run_bind_error first

/-- A part that comes down to another one after some calls may be followed by a rest. -/
theorem record_bind_prepend {program other : Interaction FramerQuery FramerQuery.Answer ε α}
    {bytes rest : List UInt8} {calls : List VisitorCall}
    (reaches : record io program bytes = prepend calls (record io other rest))
    (next : α → Interaction FramerQuery FramerQuery.Answer ε β) :
    record io (program >>= next) bytes = prepend calls (record io (other >>= next) rest) := by
  rcases outcome : record io other rest with ⟨failure | value, unread, later⟩
  · rw [outcome] at reaches
    rw [record_bind_error io reaches, record_bind_error io outcome]
    rfl
  · rw [outcome] at reaches
    rw [record_bind_ok io reaches, record_bind_ok io outcome, prepend_prepend]

@[simp] theorem record_pure (value : α) (bytes : List UInt8) :
    record io (pure value : Interaction FramerQuery FramerQuery.Answer ε α) bytes =
      (.ok value, ⟨bytes, []⟩) := rfl

end Recording

/-! ### Contracts of framer programs -/

/-- A query that is defined, and a call only where `allowed` permits it. -/
def Within (allowed : VisitorCall → Prop) : FramerQuery → Prop
  | .readBytesToUInt64 count => count ≤ 8
  | .visit call => allowed call
  | _ => True

/-- The program calls its visitor only as `allowed` permits and returns only what
`Returns` permits. -/
abbrev CallsOnly {ε α : Type} (allowed : VisitorCall → Prop) (Returns : α → Prop)
    (program : Interaction FramerQuery FramerQuery.Answer ε α) : Prop :=
  program.Meets (Within allowed) Returns

@[simp] theorem Parsing.read_visitor {σ α : Type} (state : Parsing σ)
    (answer : Option (α × List UInt8)) : (state.read answer).2.visitor = state.visitor := by
  cases answer <;> rfl

/-- A query leaves no more bytes than it found. -/
theorem length_framerHandler {σ : Type} (io : QuicData) (visitor : Visitor σ)
    {allowed : VisitorCall → Prop} {query : FramerQuery} (asked : Within allowed query)
    (state : Parsing σ) :
    (framerHandler io visitor query state).2.reader.length ≤ state.reader.length := by
  cases query with
  | readBytesToUInt64 count =>
      simp only [framerHandler, io.readBytesToUInt64_eq count state.reader asked]
      split_ifs
      · simp only [Parsing.read, List.length_drop]
        omega
      · exact Nat.zero_le _
  | readUFloat16 =>
      simp only [framerHandler, QuicData.readUFloat16]
      split_ifs
      · simp only [Parsing.read, List.length_drop]
        omega
      · exact Nat.zero_le _
  | readStringPiece length =>
      simp only [framerHandler, QuicData.readStringPiece]
      split_ifs
      · simp only [Parsing.read, List.length_drop]
        omega
      · exact Nat.zero_le _
  | _ => exact Nat.le_refl _

section Contracts

variable {ε α : Type} {allowed : VisitorCall → Prop} {Returns : α → Prop}

/-- A program that meets a contract leaves no more bytes than it found, and its
calls and its value are permitted. -/
theorem record_callsOnly (io : QuicData)
    {program : Interaction FramerQuery FramerQuery.Answer ε α}
    (meets : CallsOnly allowed Returns program) (bytes : List UInt8) :
    ((record io program bytes).2.reader.length ≤ bytes.length ∧
      ∀ call ∈ (record io program bytes).2.visitor, allowed call) ∧
    ∀ value, (record io program bytes).1 = .ok value → Returns value := by
  apply Meets.run (framerHandler io recorder) (fun state =>
    state.reader.length ≤ bytes.length ∧ ∀ call ∈ state.visitor, allowed call) meets
  · rintro question state asked ⟨shorter, permitted⟩
    refine ⟨(length_framerHandler io recorder asked state).trans shorter, ?_⟩
    cases question with
    | visit call =>
        intro other member
        rcases List.mem_append.mp member with earlier | last
        · exact permitted other earlier
        · rw [List.mem_singleton.mp last]
          exact asked
    | readBytesToUInt64 count => simpa [framerHandler] using permitted
    | readUFloat16 => simpa [framerHandler] using permitted
    | readStringPiece length => simpa [framerHandler] using permitted
    | _ => exact permitted
  · exact ⟨Nat.le_refl _, by simp⟩

/-- A program that may not call makes no call. -/
theorem record_silent (io : QuicData)
    {program : Interaction FramerQuery FramerQuery.Answer ε α}
    (meets : CallsOnly (fun _ => False) Returns program) (bytes : List UInt8) :
    (record io program bytes).2.visitor = [] :=
  List.eq_nil_iff_forall_not_mem.mpr (record_callsOnly io meets bytes).1.2

end Contracts

/-! ### Reads -/

namespace Framer

variable (io : QuicData)

/-- A read takes an encoded value off its reader, or fails for want of bytes. -/
theorem record_readBytesToUInt64 {count : Nat} (narrow : count ≤ 8) (detail : String)
    (bytes : List UInt8) :
    record io (readBytesToUInt64 count detail) bytes =
      if count ≤ bytes.length then
        (.ok (BigEndian.decode (bytes.take count)), ⟨bytes.drop count, []⟩)
      else (.error detail, ⟨[], []⟩) := by
  have answered := io.readBytesToUInt64_eq count bytes narrow
  change run _ (orFail detail (Parsing.read ⟨bytes, []⟩ (io.readBytesToUInt64 count bytes)).1)
    (Parsing.read ⟨bytes, []⟩ (io.readBytesToUInt64 count bytes)).2 = _
  rw [answered]
  split_ifs <;> rfl

theorem record_readBytesToUInt64_encode {count value : Nat} (narrow : count ≤ 8)
    (fits : value < 256 ^ count) (detail : String) (rest : List UInt8) :
    record io (readBytesToUInt64 count detail) (BigEndian.encode count value ++ rest) =
      (.ok value, ⟨rest, []⟩) := by
  have width : (BigEndian.encode count value).length = count := BigEndian.length_encode count value
  rw [record_readBytesToUInt64 io narrow, if_pos (by simp [width]), List.take_left' width,
    List.drop_left' width, BigEndian.decode_encode_of_lt fits]

/-- A read that succeeds found an encoded value. -/
theorem readBytesToUInt64_cases {count : Nat} (narrow : count ≤ 8) (detail : String)
    (bytes : List UInt8) :
    (∃ value rest, value < 256 ^ count ∧ bytes = BigEndian.encode count value ++ rest) ∨
      record io (readBytesToUInt64 count detail) bytes = (.error detail, ⟨[], []⟩) := by
  rw [record_readBytesToUInt64 io narrow]
  by_cases enough : count ≤ bytes.length
  · have width : (bytes.take count).length = count := List.length_take_of_le enough
    left
    refine ⟨BigEndian.decode (bytes.take count), bytes.drop count, ?_, ?_⟩
    · simpa [width] using BigEndian.decode_lt (bytes.take count)
    · have encoded := BigEndian.encode_decode (bytes.take count)
      rw [width] at encoded
      rw [encoded, List.take_append_drop]
  · right
    exact if_neg enough

theorem record_readUFloat16 (detail : String) (bytes : List UInt8) :
    record io (readUFloat16 detail) bytes =
      if 2 ≤ bytes.length then
        (.ok (io.uFloat16Value (bytes.take 2)), ⟨bytes.drop 2, []⟩)
      else (.error detail, ⟨[], []⟩) := by
  change run _ (orFail detail (Parsing.read ⟨bytes, []⟩ (io.readUFloat16 bytes)).1)
    (Parsing.read ⟨bytes, []⟩ (io.readUFloat16 bytes)).2 = _
  unfold QuicData.readUFloat16
  split_ifs <;> rfl

theorem record_visitAck (call : VisitorCall) (bytes : List UInt8) :
    record io (visitAck call) bytes = (.ok (), ⟨bytes, [call]⟩) := rfl

/-! ### Contracts of reads -/

section Contracts

variable {allowed : VisitorCall → Prop}

theorem callsOnly_isDoneReading {ε : Type} :
    CallsOnly allowed (fun _ => True)
      (isDoneReading : Interaction FramerQuery FramerQuery.Answer ε Bool) :=
  ⟨trivial, fun _ => trivial⟩

theorem callsOnly_bytesRemaining {ε : Type} :
    CallsOnly allowed (fun _ => True)
      (bytesRemaining : Interaction FramerQuery FramerQuery.Answer ε Nat) :=
  ⟨trivial, fun _ => trivial⟩

theorem callsOnly_peekByte {ε : Type} :
    CallsOnly allowed (fun _ => True)
      (peekByte : Interaction FramerQuery FramerQuery.Answer ε Nat) :=
  ⟨trivial, fun _ => trivial⟩

theorem callsOnly_orFail {α : Type} (detail : String) (answer : Option α) :
    CallsOnly allowed (fun _ => True) (orFail detail answer) := by
  cases answer <;> trivial

theorem callsOnly_readBytesToUInt64 {count : Nat} (narrow : count ≤ 8) (detail : String) :
    CallsOnly allowed (fun _ => True) (readBytesToUInt64 count detail) :=
  ⟨narrow, callsOnly_orFail detail⟩

theorem callsOnly_readUFloat16 (detail : String) :
    CallsOnly allowed (fun _ => True) (readUFloat16 detail) :=
  ⟨trivial, callsOnly_orFail detail⟩

theorem callsOnly_readStringPiece (length : Nat) (detail : String) :
    CallsOnly allowed (fun _ => True) (readStringPiece length detail) :=
  ⟨trivial, callsOnly_orFail detail⟩

theorem callsOnly_readStringPiece16 (detail : String) :
    CallsOnly allowed (fun _ => True) (readStringPiece16 detail) :=
  (callsOnly_readBytesToUInt64 (by decide) detail).bind
    fun length _ => callsOnly_readStringPiece length detail

theorem callsOnly_visitAck {call : VisitorCall} (permitted : allowed call) :
    CallsOnly allowed (fun _ => True) (visitAck call) := by
  refine ⟨permitted, ?_⟩
  intro goOn
  cases goOn <;> trivial

end Contracts

end Framer

end StupidSimple.Quic
