import StupidSimple.Quic.Frames

/-!
Owns the memory that `OnIncomingData` of both senders gives to the framer: the
window behind the header, as the source computes it from the length of a datagram
and the flags in its first byte, and the offsets that `ProcessFrameData` touches.

The window holds the frames of `framePayload` where that is defined
(`bytes_frameWindow`). A header that is longer than its datagram makes the window
wrap, and the framer reads behind the datagram (`touches_beyond`).
-/

namespace StupidSimple.Quic

open StupidSimple.Library Interaction MyQuicFramer

/-! ### Windows -/

/-- Bytes of a buffer, by the offset of the first one. -/
structure Window where
  start : Nat
  length : Nat
deriving DecidableEq, Repr

namespace Window

variable (window : Window)

def stop : Nat := window.start + window.length

/-- What the memory holds from the start of the buffer on. -/
def bytes (memory : Nat → UInt8) : List UInt8 :=
  (List.range' window.start window.length).map memory

@[simp] theorem length_bytes (memory : Nat → UInt8) :
    (window.bytes memory).length = window.length := by
  simp [bytes]

end Window

/-- `header_len`, by the flags in the first byte. -/
def headerLen (data : List UInt8) : Nat :=
  1 + (readSequenceNumberLength
    ((data.headD 0).toNat >>> kPublicHeaderSequenceNumberShift)).bytes

/-- `buf + header_len` and `remain`, a `uint32_t`. -/
def frameWindow (data : List UInt8) : Window where
  start := headerLen data
  length := (data.length + 2 ^ 32 - headerLen data) % 2 ^ 32

/-! ### Offsets -/

/-- The bytes that a reader touches for a query, with `left` bytes to its end. A
read that fails touches none. -/
def FramerQuery.span (left : Nat) : FramerQuery → Nat
  | .isDoneReading | .bytesRemaining | .visit _ | .onError _ => 0
  | .peekByte => min 1 left
  | .readBytesToUInt64 count => if count ≤ left then count else 0
  | .readUFloat16 => if 2 ≤ left then 2 else 0
  | .readStringPiece length => if length ≤ left then length else 0

/-- The offsets that a query touches in a window. -/
def Window.touches {σ : Type} (window : Window) (query : FramerQuery) (state : Parsing σ) :
    List Nat :=
  List.range' (window.stop - state.reader.length) (query.span state.reader.length)

section Runs

variable {σ : Type} (env : FramerEnv) (visitor : Visitor σ) (memory : Nat → UInt8)
  (window : Window) (state : σ)

/-- `ProcessFrameData` on a window, with the offsets it touches. -/
def loggedRun : Except (QuicErrorCode × String) Unit × Parsing σ × List Nat :=
  env.processFrameData.run (logging (framerHandler env.io visitor) window.touches)
    (⟨window.bytes memory, state⟩, [])

def touchedOffsets : List Nat := (loggedRun env visitor memory window state).2.2

end Runs

/-! ### Offsets stay in the window -/

section Offsets

variable (env : FramerEnv)

theorem callsOnly_processFrames (bound : Nat) :
    CallsOnly (fun _ => True) (fun _ => True) (env.processFrames bound) := by
  induction bound with
  | zero => trivial
  | succ bound inductionHypothesis =>
      apply Meets.bind Framer.callsOnly_isDoneReading
      intro finished _
      split_ifs
      · trivial
      · apply Meets.bind (callsOnly_raiseError
          (Framer.callsOnly_readBytesToUInt64 (by decide) _) _)
        intro frameType _
        apply Meets.bind (callsOnly_processFrame env (fun _ _ => trivial) fun _ _ => trivial)
        intro goOn _
        split_ifs
        · exact inductionHypothesis
        · trivial

theorem callsOnly_processFrameData :
    CallsOnly (fun _ => True) (fun _ => True) env.processFrameData := by
  apply Meets.bind Framer.callsOnly_isDoneReading
  intro finished _
  split_ifs
  · exact callsOnly_raiseError (meets_fail _) _
  · apply Meets.bind Framer.callsOnly_bytesRemaining
    intro remaining _
    exact callsOnly_processFrames env remaining

variable {env} {σ : Type} {visitor : Visitor σ} {memory : Nat → UInt8} {window : Window} {state : σ}

theorem FramerQuery.span_le (query : FramerQuery) (left : Nat) : query.span left ≤ left := by
  cases query <;> simp only [span] <;> (try split_ifs) <;> omega

/-- The framer touches no byte outside its window. -/
theorem touched_inside :
    ∀ offset ∈ touchedOffsets env visitor memory window state,
      window.start ≤ offset ∧ offset < window.stop := by
  apply (callsOnly_processFrameData env).log (fun parsing => parsing.reader.length ≤ window.length)
  · intro query parsing asked shorter
    exact (length_framerHandler env.io visitor asked parsing).trans shorter
  · intro query parsing _ shorter offset member
    have spans := query.span_le parsing.reader.length
    have ⟨above, below⟩ := List.mem_range'_1.mp member
    have : window.stop = window.start + window.length := rfl
    omega
  · exact (window.length_bytes memory).le

/-- The framer reads the first byte of its window. -/
theorem start_touched (nonempty : 0 < window.length) :
    window.start ∈ touchedOffsets env visitor memory window state := by
  have length := window.length_bytes memory
  unfold touchedOffsets loggedRun
  cases bytes : window.bytes memory with
  | nil =>
      rw [bytes] at length
      exact absurd length nonempty.ne
  | cons type rest =>
      rw [bytes] at length
      -- The reader is not done, and the type byte is read before anything else.
      have first : ∃ (next : RaisingFramer Unit) (parsing : Parsing σ),
          env.processFrameData.run (logging (framerHandler env.io visitor) window.touches)
              (⟨type :: rest, state⟩, []) =
            next.run (logging (framerHandler env.io visitor) window.touches)
              (parsing, [] ++ window.touches (.readBytesToUInt64 1) ⟨type :: rest, state⟩) :=
        ⟨_, _, rfl⟩
      have ⟨next, parsing, runs⟩ := first
      have start : window.touches (.readBytesToUInt64 1) (⟨type :: rest, state⟩ : Parsing σ) =
          [window.start] := by
        simp [Window.touches, FramerQuery.span, Window.stop, ← length]
      rw [runs, start]
      exact (log_extends _ _ next (parsing, [window.start])).subset (List.mem_singleton_self _)

end Offsets

/-! ### Windows of datagrams -/

/-- The length of a header by bits 4 and 5 of its first byte. -/
def leastLength (first : UInt8) : Nat :=
  match first.toNat / 16 % 4 with
  | 0 => 2
  | 1 => 3
  | 2 => 5
  | _ => 7

theorem headerLen_eq (data : List UInt8) : headerLen data = leastLength (data.headD 0) := by
  have each : ∀ first : Fin 256,
      1 + (readSequenceNumberLength (first.val >>> kPublicHeaderSequenceNumberShift)).bytes =
        leastLength (UInt8.ofNat first.val) := by
    decide +kernel
  have first := each ⟨(data.headD 0).toNat, (data.headD 0).toNat_lt⟩
  rwa [UInt8.ofNat_toNat] at first

theorem headerLen_le_seven (data : List UInt8) : headerLen data ≤ 7 := by
  have narrow := readSequenceNumberLength_le_six
    ((data.headD 0).toNat >>> kPublicHeaderSequenceNumberShift)
  unfold headerLen
  omega

section Datagrams

variable {data : List UInt8}

/-- The window of a datagram that holds its header ends with the datagram. -/
theorem length_frameWindow (header : headerLen data ≤ data.length)
    (short : data.length < 2 ^ 32) :
    (frameWindow data).length = data.length - headerLen data := by
  have split : data.length + 2 ^ 32 - headerLen data =
      data.length - headerLen data + 2 ^ 32 := by
    omega
  rw [frameWindow, split, Nat.add_mod_right, Nat.mod_eq_of_lt (by omega)]

theorem stop_frameWindow (header : headerLen data ≤ data.length)
    (short : data.length < 2 ^ 32) : (frameWindow data).stop = data.length := by
  rw [Window.stop, length_frameWindow header short]
  exact Nat.add_sub_cancel' header

/-- A header that is longer than its datagram makes `remain` wrap. -/
theorem length_frameWindow_wraps (cut : data.length < headerLen data) :
    (frameWindow data).length = 2 ^ 32 - (headerLen data - data.length) := by
  have narrow := headerLen_le_seven data
  change (data.length + 2 ^ 32 - headerLen data) % 2 ^ 32 = _
  rw [Nat.mod_eq_of_lt (by omega)]
  omega

variable {env : FramerEnv} {σ : Type} {visitor : Visitor σ} {memory : Nat → UInt8} {state : σ}

/-- The framer reads only bytes of a datagram that holds its header. -/
theorem touches_datagram (header : headerLen data ≤ data.length) (short : data.length < 2 ^ 32) :
    ∀ offset ∈ touchedOffsets env visitor memory (frameWindow data) state,
      offset < data.length := by
  intro offset touched
  have inside := (touched_inside offset touched).2
  rwa [stop_frameWindow header short] at inside

/-- The framer reads behind a datagram that is shorter than its header. -/
theorem touches_beyond (cut : data.length < headerLen data) :
    ∃ offset ∈ touchedOffsets env visitor memory (frameWindow data) state,
      data.length ≤ offset := by
  have narrow := headerLen_le_seven data
  have wraps := length_frameWindow_wraps cut
  exact ⟨headerLen data, start_touched (by omega), cut.le⟩

/-- Where `framePayload` is defined, the window holds it. -/
theorem bytes_frameWindow {frames : List UInt8} (payload : framePayload data = some frames)
    (copied : ∀ offset (inside : offset < data.length), memory offset = data[offset]) :
    (frameWindow data).bytes memory = frames := by
  unfold framePayload at payload
  simp only at payload
  split_ifs at payload with fits
  cases payload
  have header : headerLen data ≤ data.length := fits.2
  have packet : kMaxPacketSize < 2 ^ 32 := by decide
  have length := length_frameWindow header (fits.1.trans_lt packet)
  apply List.ext_getElem
  · rw [Window.length_bytes, length, List.length_drop]
    rfl
  · intro index inWindow inFrames
    rw [Window.length_bytes, length] at inWindow
    have inside : headerLen data + index < data.length := by omega
    simp only [Window.bytes, List.getElem_map, List.getElem_range', List.getElem_drop, Nat.one_mul]
    exact copied _ inside

variable (env visitor state)

/-- The logged run on the window is the run on `framePayload`. -/
theorem loggedRun_frameWindow {frames : List UInt8} (payload : framePayload data = some frames)
    (copied : ∀ offset (inside : offset < data.length), memory offset = data[offset]) :
    let run := loggedRun env visitor memory (frameWindow data) state
    let plain := env.processFrameData.run (framerHandler env.io visitor) ⟨frames, state⟩
    run.1 = plain.1 ∧ run.2.1 = plain.2 := by
  rw [loggedRun, bytes_frameWindow payload copied]
  exact run_logging (framerHandler env.io visitor) (frameWindow data).touches
    env.processFrameData ⟨frames, state⟩ []

/-- The run whose offsets are logged is the run of `OnIncomingData`. -/
theorem onIncomingData_eq_loggedRun {frames : List UInt8}
    (payload : framePayload data = some frames)
    (copied : ∀ offset (inside : offset < data.length), memory offset = data[offset])
    (manager : QuicSentPacketManager) (now : Nat) :
    (∀ sender : MyQuicSender, sender.onIncomingData env manager now data =
      some ((loggedRun env (MyQuicSender.visitor manager) memory (frameWindow data)
          (sender.received now)).1,
        (loggedRun env (MyQuicSender.visitor manager) memory (frameWindow data)
          (sender.received now)).2.1.visitor)) ∧
    ∀ sender : MyQuicVideoSender, sender.onIncomingData env manager now data =
      some ((loggedRun env (MyQuicVideoSender.visitor manager) memory (frameWindow data)
          (sender.received now)).1,
        (loggedRun env (MyQuicVideoSender.visitor manager) memory (frameWindow data)
          (sender.received now)).2.1.visitor) := by
  constructor
  · intro sender
    have ⟨sameResult, sameState⟩ := loggedRun_frameWindow env (MyQuicSender.visitor manager)
      (sender.received now) payload copied
    rw [sameResult, sameState, MyQuicSender.onIncomingData, payload]
    rfl
  · intro sender
    have ⟨sameResult, sameState⟩ := loggedRun_frameWindow env (MyQuicVideoSender.visitor manager)
      (sender.received now) payload copied
    rw [sameResult, sameState, MyQuicVideoSender.onIncomingData, payload]
    rfl

end Datagrams

end StupidSimple.Quic
