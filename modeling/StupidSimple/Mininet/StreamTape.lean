import StupidSimple.Library.Refinement
import StupidSimple.Library.Tape
import StupidSimple.Mininet.Stream

/-!
Owns the calls of `cf_stream` in any order: writes and reads interleaved, rewinds, and the
functions that move or give back memory. A sound stream stands for a tape, and every call on
it stays inside its memory and does to the tape what `TapeStep` says, which knows no pointers
and no capacity.

The magic number is left out, and so is `bin_stream_set_used_size`, after which the pointers
no longer agree with the counters.
-/

namespace StupidSimple.Mininet

open StupidSimple.Library

/-! ### Memory -/

def binStreamReduce (strm : BinStream) : BinStream :=
  if defaultPacketSize * 2 < strm.size then
    { data := strm.data.take defaultPacketSize, rptr := 0, rsize := 0, wptr := 0, used := 0 }
  else strm

def binStreamReset (strm : BinStream) : BinStream := binStreamReduce (binStreamRewind true strm)

/-- The first branch of `bin_stream_move`: all has been read. -/
def clearRead (strm : BinStream) : BinStream :=
  if strm.used = strm.rsize ∧ 0 < strm.rsize then
    { strm with rptr := 0, rsize := 0, wptr := 0, used := 0 }
  else strm

/-- The local `size` of `bin_stream_move`, a `uint32_t`. -/
def movedSize (unread : Nat) : Nat := unread % 2 ^ 32

/-- The second branch of `bin_stream_move`: what is unread goes to the start. -/
def slide : StreamM Unit := fun strm =>
  if strm.rsize < strm.used ∧ strm.size / 2 < strm.rsize ∧ strm.size ≤ strm.used + 256 then
    let size := movedSize (strm.used - strm.rsize)
    if strm.rptr + size ≤ strm.size then
      some ((),
        { data := (strm.data.drop strm.rptr).take size ++ strm.data.drop size
          rptr := 0
          rsize := 0
          wptr := size
          used := size })
    else none
  else some ((), strm)

def binStreamMove : StreamM Unit := do
  modify clearRead
  slide

/-! ### Blocks -/

def machBlockWrite (str : List UInt8) : StreamM Unit := do
  modify (reserve str.length)
  store str

/-- Read a block of `size` bytes; `none` is `READ_DATA_ERROR`. -/
def machBlockRead (size : Nat) : StreamM (Option (Buffer size)) := do
  let strm ← get
  if strm.used < strm.rsize + size then return none
  else
    let str ← load size
    return some str

/-! ### Calls -/

/-- A call of a function of the stream; the integer functions are known by their width. -/
inductive StreamCall where
  | integerWrite (width value : Nat)
  | dataWrite (str : List UInt8)
  | blockWrite (str : List UInt8)
  | integerRead (width : Nat)
  | dataRead (size : Nat)
  | blockRead (size : Nat)
  | rewind (reset : Bool)
  | reset
  | resize (newSize : Nat)
  | reduce
  | move
deriving DecidableEq, Repr

/-- What a call gives back. -/
inductive StreamOutput where
  | nothing
  | integer (value : Nat)
  | array (result : UInt16) (copied : List UInt8)
deriving DecidableEq, Repr

def readDataError : UInt16 := 0xffff

/-- The return value of a read of an array, and what it copied. -/
def arrayOutput : Option (List UInt8) → StreamOutput
  | none => .array readDataError []
  | some str => .array (UInt16.ofNat str.length) str

def bufferOutput {size : Nat} (str : Option (Buffer size)) : StreamOutput :=
  arrayOutput (str.map Subtype.val)

def callStream : StreamCall → StreamM StreamOutput
  | .integerWrite width value => (fun _ => .nothing) <$> machWrite width value
  | .dataWrite str => (fun _ => .nothing) <$> machDataWrite str
  | .blockWrite str => (fun _ => .nothing) <$> machBlockWrite str
  | .integerRead width => .integer <$> machRead width
  | .dataRead size => bufferOutput <$> machDataRead size
  | .blockRead size => bufferOutput <$> machBlockRead size
  | .rewind reset => (fun _ => .nothing) <$> modify (binStreamRewind reset)
  | .reset => (fun _ => .nothing) <$> modify binStreamReset
  | .resize newSize => (fun _ => .nothing) <$> modify (binStreamResize newSize)
  | .reduce => (fun _ => .nothing) <$> modify binStreamReduce
  | .move => (fun _ => .nothing) <$> binStreamMove

def streamMachine : Machine BinStream StreamCall StreamOutput where
  step strm call := ((callStream call).run strm).map Prod.swap

/-! ### Tapes -/

/-- The bytes that a call writes; `mach_data_write` cuts a length to 16 bits. -/
def StreamCall.written : StreamCall → List UInt8
  | .integerWrite width value => BigEndian.encode width value
  | .dataWrite str => BigEndian.encode 2 (UInt16.ofNat str.length).toNat ++ str
  | .blockWrite str => str
  | _ => []

/-- The number of bytes that a read takes off a tape, and what it gives. -/
def readTape : StreamCall → List UInt8 → Nat × StreamOutput
  | .integerRead width, ahead =>
      if ahead.length < width then (0, .integer 0)
      else (width, .integer (BigEndian.decode (ahead.take width)))
  | .dataRead size, ahead =>
      if ahead.length < 2 then (0, arrayOutput (some []))
      else
        let len := BigEndian.decode (ahead.take 2)
        -- The length stays read when the array does not follow.
        if size < len ∨ ahead.length < 2 + len then (2, arrayOutput none)
        else (2 + len, arrayOutput (some ((ahead.drop 2).take len)))
  | .blockRead size, ahead =>
      if ahead.length < size then (0, arrayOutput none)
      else (size, arrayOutput (some (ahead.take size)))
  | _, _ => (0, .nothing)

/-- What a call may do to a tape. Whether memory is moved or given back depends on the
capacity, of which a tape knows nothing. -/
inductive TapeStep : Tape UInt8 → StreamCall → StreamOutput → Tape UInt8 → Prop where
  | integerWrite (tape : Tape UInt8) (width value : Nat) :
      TapeStep tape (.integerWrite width value) .nothing
        (tape.append (StreamCall.integerWrite width value).written)
  | dataWrite (tape : Tape UInt8) (str : List UInt8) :
      TapeStep tape (.dataWrite str) .nothing (tape.append (StreamCall.dataWrite str).written)
  | blockWrite (tape : Tape UInt8) (str : List UInt8) :
      TapeStep tape (.blockWrite str) .nothing (tape.append str)
  | integerRead (tape : Tape UInt8) (width : Nat) :
      TapeStep tape (.integerRead width) (readTape (.integerRead width) tape.ahead).2
        (tape.advance (readTape (.integerRead width) tape.ahead).1)
  | dataRead (tape : Tape UInt8) (size : Nat) :
      TapeStep tape (.dataRead size) (readTape (.dataRead size) tape.ahead).2
        (tape.advance (readTape (.dataRead size) tape.ahead).1)
  | blockRead (tape : Tape UInt8) (size : Nat) :
      TapeStep tape (.blockRead size) (readTape (.blockRead size) tape.ahead).2
        (tape.advance (readTape (.blockRead size) tape.ahead).1)
  | rewind (tape : Tape UInt8) : TapeStep tape (.rewind false) .nothing tape.rewind
  | rewindReset (tape : Tape UInt8) : TapeStep tape (.rewind true) .nothing Tape.blank
  | reset (tape : Tape UInt8) : TapeStep tape .reset .nothing Tape.blank
  | resize (tape : Tape UInt8) (newSize : Nat) : TapeStep tape (.resize newSize) .nothing tape
  | reduceKept (tape : Tape UInt8) : TapeStep tape .reduce .nothing tape
  | reduceCleared (tape : Tape UInt8) : TapeStep tape .reduce .nothing Tape.blank
  | moveKept (tape : Tape UInt8) : TapeStep tape .move .nothing tape
  | moveForgot (tape : Tape UInt8) :
      TapeStep tape .move .nothing ⟨[], tape.ahead.take (movedSize tape.ahead.length)⟩

/-! ### Soundness -/

namespace BinStream

/-- The pointers agree with the counters and stay inside the memory. -/
structure Sound (strm : BinStream) : Prop where
  wptr : strm.wptr = strm.used
  rptr : strm.rptr = strm.rsize
  rsize : strm.rsize ≤ strm.used
  used : strm.used ≤ strm.size
  allocated : 0 < strm.size

/-- What a sound stream stands for. -/
def tape (strm : BinStream) : Tape UInt8 := Tape.split strm.contents strm.rsize

/-- The stream with its read pointer elsewhere. -/
def seek (position : Nat) (strm : BinStream) : BinStream :=
  { strm with rptr := position, rsize := position }

theorem Sound.readable {strm : BinStream} (sound : strm.Sound) : strm.Readable :=
  ⟨sound.rptr, sound.rsize, sound.used⟩

theorem Sound.seek_rsize {strm : BinStream} (sound : strm.Sound) :
    strm.seek strm.rsize = strm := by
  obtain ⟨data, rptr, rsize, wptr, used⟩ := strm
  have same : rptr = rsize := sound.rptr
  subst same
  rfl

theorem Sound.seek {strm : BinStream} (sound : strm.Sound) {position : Nat}
    (inside : position ≤ strm.used) : (strm.seek position).Sound :=
  ⟨sound.wptr, rfl, inside, sound.used, sound.allocated⟩

theorem seek_on (position count : Nat) (strm : BinStream) :
    (strm.seek position).seek ((strm.seek position).rsize + count) =
      strm.seek (position + count) := rfl

theorem tape_seek (strm : BinStream) (count : Nat) :
    (strm.seek (strm.rsize + count)).tape = strm.tape.advance count :=
  Tape.split_add strm.contents strm.rsize count

theorem Sound.length_unread {strm : BinStream} (sound : strm.Sound) :
    strm.unread.length = strm.used - strm.rsize :=
  BinStream.length_unread sound.readable

/-- The stream read from its start is one that is written. -/
theorem Sound.writable {strm : BinStream} (sound : strm.Sound) : (strm.seek 0).Writable :=
  ⟨sound.wptr, rfl, rfl, sound.used, sound.allocated⟩

end BinStream

/-! ### Writes -/

theorem resize_seek (newSize position : Nat) (strm : BinStream) :
    binStreamResize newSize (strm.seek position) =
      (binStreamResize newSize strm).seek position := by
  rw [binStreamResize, binStreamResize, apply_ite (BinStream.seek position)]
  rfl

theorem reserve_seek (count position : Nat) (strm : BinStream) :
    reserve count (strm.seek position) = (reserve count strm).seek position := by
  rw [reserve, reserve, apply_ite (BinStream.seek position), ← resize_seek]
  rfl

theorem store_seek (bytes : List UInt8) (position : Nat) (strm : BinStream) :
    (store bytes).run (strm.seek position) =
      ((store bytes).run strm).map (Prod.map id (BinStream.seek position)) := by
  show _ = Option.map _ (if _ then _ else _)
  rw [apply_ite (Option.map (Prod.map id (BinStream.seek position)))]
  rfl

/-- The writer does not look at the read pointer. -/
def IgnoresReader (write : StreamM Unit) : Prop :=
  ∀ position strm, write.run (strm.seek position) =
    (write.run strm).map (Prod.map id (BinStream.seek position))

theorem IgnoresReader.bind {first second : StreamM Unit} (one : IgnoresReader first)
    (other : IgnoresReader second) : IgnoresReader (first >>= fun _ => second) := by
  intro position strm
  rw [StateT.run_bind, StateT.run_bind, one position strm]
  cases first.run strm with
  | none => rfl
  | some result => exact other position result.2

theorem ignoresReader_store (bytes : List UInt8) : IgnoresReader (store bytes) :=
  store_seek bytes

theorem ignoresReader_reserve (count : Nat) : IgnoresReader (modify (reserve count)) := by
  intro position strm
  show some ((), reserve count (strm.seek position)) = some ((), _)
  rw [reserve_seek]

theorem ignoresReader_machWrite (width value : Nat) : IgnoresReader (machWrite width value) :=
  (ignoresReader_reserve width).bind (ignoresReader_store _)

theorem emits_machBlockWrite (str : List UInt8) :
    Emits BinStream.view (machBlockWrite str) str := by
  intro strm writable
  have ⟨reserved, contents, used, room⟩ := reserve_spec writable str.length
  have ⟨after, stored, afterWritable, written, _⟩ := store_spec reserved (used ▸ room)
  refine ⟨after, stored, afterWritable, ?_⟩
  show after.contents = strm.contents ++ str
  rw [written, contents]

/-- A length that does not fit 16 bits is cut, the array is not. -/
theorem emits_machDataWrite_cut (str : List UInt8) :
    Emits BinStream.view (machDataWrite str) (StreamCall.dataWrite str).written := by
  intro strm writable
  have ⟨reserved, contents, used, room⟩ := reserve_spec writable (str.length + 2)
  have already : reserve 2 (reserve (str.length + 2) strm) = reserve (str.length + 2) strm :=
    if_neg (by omega)
  have length : (BigEndian.encode 2 (UInt16.ofNat str.length).toNat).length = 2 :=
    BigEndian.length_encode 2 _
  have roomForLength : (reserve (str.length + 2) strm).used +
      (BigEndian.encode 2 (UInt16.ofNat str.length).toNat).length ≤
        (reserve (str.length + 2) strm).size := by
    rw [length]
    omega
  have ⟨middle, storedLength, middleWritable, middleContents, sameSize, middleUsed⟩ :=
    store_spec reserved roomForLength
  have roomForArray : middle.used + str.length ≤ middle.size := by
    rw [sameSize, middleUsed, length]
    omega
  have ⟨after, storedArray, afterWritable, afterContents, _⟩ :=
    store_spec middleWritable roomForArray
  refine ⟨after, ?_, afterWritable, ?_⟩
  · show ((machWrite 2 _ >>= fun _ => store str).run (reserve (str.length + 2) strm)) = _
    rw [StateT.run_bind, machWrite_run, already, storedLength]
    exact storedArray
  · show after.contents = strm.contents ++ _
    rw [afterContents, middleContents, contents, List.append_assoc]
    rfl

/-- A writer appends to the tape. -/
theorem write_spec {write : StreamM Unit} {bytes : List UInt8}
    (emits : Emits BinStream.view write bytes) (ignores : IgnoresReader write)
    {strm : BinStream} (sound : strm.Sound) :
    ∃ after, write.run strm = some ((), after) ∧ after.Sound ∧
      after.tape = strm.tape.append bytes := by
  have ⟨start, wrote, writable, contents⟩ := emits (strm.seek 0) sound.writable
  have appended : start.contents = strm.contents ++ bytes := contents
  have ran : write.run strm = some ((), start.seek strm.rsize) := by
    have moved := ignores strm.rsize (strm.seek 0)
    rw [wrote] at moved
    rw [← sound.seek_rsize]
    exact moved
  have length := BinStream.length_contents sound.used
  have grown : strm.used + bytes.length = start.used := by
    rw [← BinStream.length_contents writable.used, appended, List.length_append, length]
  have inside : strm.rsize ≤ start.used := by
    have rsize := sound.rsize
    omega
  refine ⟨start.seek strm.rsize, ran, ?_, ?_⟩
  · exact ⟨writable.wptr, rfl, inside, writable.used, writable.allocated⟩
  · show Tape.split start.contents strm.rsize = _
    rw [appended]
    exact Tape.split_append (sound.rsize.trans length.ge) bytes

/-! ### Reads -/

theorem load_sound {strm : BinStream} (sound : strm.Sound) {count : Nat}
    (enough : count ≤ strm.unread.length) :
    (load count).run strm =
      some (⟨strm.unread.take count, List.length_take_le _ _⟩, strm.seek (strm.rsize + count)) := by
  have length := sound.length_unread
  have rsize := sound.rsize
  have used := sound.used
  have inside : strm.rptr + count ≤ strm.size := by
    rw [sound.rptr]
    omega
  have taken : (strm.data.drop strm.rptr).take count = strm.unread.take count := by
    rw [BinStream.unread, BinStream.contents, sound.rptr, List.drop_take, List.take_take,
      min_eq_left (by omega)]
  refine (if_pos inside).trans ?_
  simp only [taken]
  rw [BinStream.seek, ← sound.rptr]

/-- A call that reads goes forward as a tape says, and never beyond what is written. -/
def ReadsTape (call : StreamCall) : Prop :=
  ∀ strm : BinStream, strm.Sound →
    (readTape call strm.unread).1 ≤ strm.unread.length ∧
      (callStream call).run strm = some ((readTape call strm.unread).2,
        strm.seek (strm.rsize + (readTape call strm.unread).1))

theorem machRead_few {strm : BinStream} (sound : strm.Sound) {width : Nat}
    (few : strm.unread.length < width) : (machRead width).run strm = some (0, strm) := by
  have length := sound.length_unread
  have rsize := sound.rsize
  have cut : strm.used < strm.rsize + width := by omega
  show (if strm.used < strm.rsize + width then pure 0
    else load width >>= fun bytes => pure (BigEndian.decode bytes.1) : StreamM Nat).run strm = _
  rw [if_pos cut]
  rfl

theorem machRead_enough {strm : BinStream} (sound : strm.Sound) {width : Nat}
    (enough : width ≤ strm.unread.length) :
    (machRead width).run strm =
      some (BigEndian.decode (strm.unread.take width), strm.seek (strm.rsize + width)) := by
  have length := sound.length_unread
  have rsize := sound.rsize
  have whole : ¬strm.used < strm.rsize + width := by omega
  show (if strm.used < strm.rsize + width then pure 0
    else load width >>= fun bytes => pure (BigEndian.decode bytes.1) : StreamM Nat).run strm = _
  rw [if_neg whole, StateT.run_bind, load_sound sound enough]
  rfl

theorem readsTape_integerRead (width : Nat) : ReadsTape (.integerRead width) := by
  intro strm sound
  show _ ∧ (StreamOutput.integer <$> machRead width).run strm = _
  rw [StateT.run_map]
  by_cases few : strm.unread.length < width
  · rw [machRead_few sound few, readTape, if_pos few]
    refine ⟨Nat.zero_le _, ?_⟩
    rw [Nat.add_zero, sound.seek_rsize]
    rfl
  · have enough := Nat.le_of_not_lt few
    rw [machRead_enough sound enough, readTape, if_neg few]
    exact ⟨enough, rfl⟩

theorem readsTape_blockRead (size : Nat) : ReadsTape (.blockRead size) := by
  intro strm sound
  have length := sound.length_unread
  have rsize := sound.rsize
  show _ ∧ (bufferOutput <$>
    (if strm.used < strm.rsize + size then pure none
      else load size >>= fun str => pure (some str) : StreamM (Option (Buffer size)))).run strm = _
  rw [StateT.run_map]
  by_cases few : strm.unread.length < size
  · rw [if_pos (by omega), readTape, if_pos few]
    refine ⟨Nat.zero_le _, ?_⟩
    rw [Nat.add_zero, sound.seek_rsize]
    rfl
  · have enough := Nat.le_of_not_lt few
    rw [if_neg (by omega), readTape, if_neg few, StateT.run_bind, load_sound sound enough]
    exact ⟨enough, rfl⟩

/-- The part of `mach_data_read` after the length. -/
theorem readArray {strm : BinStream} (sound : strm.Sound) (size : Nat) {len : UInt16}
    {count : Nat} (whole : len.toNat = count) :
    (bufferOutput <$>
      (do
        let strm ← get
        if cut : size < len.toNat ∨ strm.used < strm.rsize + len.toNat then return none
        else
          let str ← load len.toNat
          return some ⟨str.1, str.2.trans (Nat.le_of_not_lt (not_or.mp cut).1)⟩ :
            StreamM (Option (Buffer size)))).run strm =
      if size < count ∨ strm.unread.length < count then some (arrayOutput none, strm)
      else some (arrayOutput (some (strm.unread.take count)),
        strm.seek (strm.rsize + count)) := by
  subst whole
  have length := sound.length_unread
  have rsize := sound.rsize
  have same : strm.used < strm.rsize + len.toNat ↔ strm.unread.length < len.toNat := by omega
  rw [StateT.run_map, StateT.run_bind]
  show Option.map _ ((dite _ _ _ : StreamM (Option (Buffer size))).run strm) = _
  by_cases cut : size < len.toNat ∨ strm.used < strm.rsize + len.toNat
  · rw [dif_pos cut, if_pos (cut.imp_right same.mp)]
    rfl
  · have enough : len.toNat ≤ strm.unread.length :=
      Nat.le_of_not_lt fun few => cut (Or.inr (same.mpr few))
    rw [dif_neg cut, if_neg (fun other => cut (other.imp_right same.mpr)), StateT.run_bind,
      load_sound sound enough]
    rfl

theorem readsTape_dataRead (size : Nat) : ReadsTape (.dataRead size) := by
  intro strm sound
  have length := sound.length_unread
  show _ ∧ (bufferOutput <$>
    ((UInt16.ofNat <$> machRead 2) >>= fun len => _)).run strm = _
  rw [map_bind, StateT.run_bind, StateT.run_map]
  by_cases few : strm.unread.length < 2
  · rw [machRead_few sound few, readTape, if_pos few]
    refine ⟨Nat.zero_le _, ?_⟩
    have nothing : (UInt16.ofNat 0).toNat = 0 := rfl
    refine (readArray sound size nothing).trans ?_
    rw [if_neg (by simp), Nat.add_zero, sound.seek_rsize]
    rfl
  · have two : 2 ≤ strm.unread.length := Nat.le_of_not_lt few
    have small : BigEndian.decode (strm.unread.take 2) < 2 ^ 16 := by
      have bound := BigEndian.decode_lt (strm.unread.take 2)
      rwa [List.length_take_of_le two] at bound
    have whole : (UInt16.ofNat (BigEndian.decode (strm.unread.take 2))).toNat =
        BigEndian.decode (strm.unread.take 2) := UInt16.toNat_ofNat_of_lt' small
    have inside : strm.rsize + 2 ≤ strm.used := by omega
    have rest : (strm.seek (strm.rsize + 2)).unread = strm.unread.drop 2 :=
      (List.drop_drop).symm
    have array := readArray (sound.seek inside) size whole
    rw [rest, List.length_drop] at array
    rw [machRead_enough sound two, readTape, if_neg few]
    simp only
    split_ifs with cut
    · refine ⟨two, array.trans ?_⟩
      rw [if_pos (by omega)]
    · refine ⟨by omega, array.trans ?_⟩
      rw [if_neg (by omega), BinStream.seek_on, Nat.add_assoc]

/-! ### The functions that move memory -/

theorem resize_spec {strm : BinStream} (sound : strm.Sound) (newSize : Nat) :
    (binStreamResize newSize strm).Sound ∧ (binStreamResize newSize strm).tape = strm.tape := by
  unfold binStreamResize
  split_ifs with enough
  · exact ⟨sound, rfl⟩
  · have grown : strm.size ≤ (strm.data ++ List.replicate
        (doubledSize newSize strm.size - strm.size) 0).length := by
      rw [List.length_append]
      exact Nat.le_add_right _ _
    refine ⟨⟨rfl, rfl, sound.rsize, sound.used.trans grown, sound.allocated.trans_le grown⟩, ?_⟩
    have same : (strm.data ++ List.replicate
        (doubledSize newSize strm.size - strm.size) 0).take strm.used = strm.contents :=
      List.take_append_of_le_length sound.used
    exact congrArg (Tape.split · strm.rsize) same

theorem rewind_spec {strm : BinStream} (sound : strm.Sound) :
    (binStreamRewind false strm).Sound ∧ (binStreamRewind false strm).tape = strm.tape.rewind :=
  ⟨sound.seek (Nat.zero_le _), Tape.split_zero strm.contents strm.rsize⟩

/-- A stream that holds nothing. -/
theorem tape_blank {strm : BinStream} (used : strm.used = 0) (rsize : strm.rsize = 0) :
    strm.tape = Tape.blank := by
  rw [BinStream.tape, BinStream.contents, used, rsize]
  rfl

theorem rewindReset_spec {strm : BinStream} (sound : strm.Sound) :
    (binStreamRewind true strm).Sound ∧ (binStreamRewind true strm).tape = Tape.blank :=
  ⟨⟨rfl, rfl, le_rfl, Nat.zero_le _, sound.allocated⟩, tape_blank rfl rfl⟩

theorem reduce_spec {strm : BinStream} (sound : strm.Sound) :
    (binStreamReduce strm).Sound ∧
      ((binStreamReduce strm).tape = strm.tape ∨ (binStreamReduce strm).tape = Tape.blank) := by
  unfold binStreamReduce
  split_ifs with large
  · have kept : (strm.data.take defaultPacketSize).length = defaultPacketSize :=
      List.length_take_of_le ((Nat.le_mul_of_pos_right _ (by decide)).trans large.le)
    have allocated : 0 < (strm.data.take defaultPacketSize).length := by
      rw [kept]
      decide
    exact ⟨⟨rfl, rfl, le_rfl, Nat.zero_le _, allocated⟩, Or.inr (tape_blank rfl rfl)⟩
  · exact ⟨sound, Or.inl rfl⟩

theorem reset_spec {strm : BinStream} (sound : strm.Sound) :
    (binStreamReset strm).Sound ∧ (binStreamReset strm).tape = Tape.blank := by
  have ⟨rewound, blank⟩ := rewindReset_spec sound
  have ⟨reduced, tape⟩ := reduce_spec rewound
  rw [blank, or_self_iff] at tape
  exact ⟨reduced, tape⟩

theorem clearRead_spec {strm : BinStream} (sound : strm.Sound) :
    (clearRead strm).Sound ∧ ((clearRead strm = strm) ∨
      (strm.unread = [] ∧ (clearRead strm).used = 0 ∧ (clearRead strm).rsize = 0)) := by
  unfold clearRead
  split_ifs with allRead
  · refine ⟨⟨rfl, rfl, le_rfl, Nat.zero_le _, sound.allocated⟩, Or.inr ⟨?_, rfl, rfl⟩⟩
    apply List.eq_nil_of_length_eq_zero
    rw [sound.length_unread, allRead.1, Nat.sub_self]
  · exact ⟨sound, Or.inl rfl⟩

theorem slide_spec {strm : BinStream} (sound : strm.Sound) :
    ∃ after, slide.run strm = some ((), after) ∧ after.Sound ∧
      (after = strm ∨ after.tape = ⟨[], strm.unread.take (movedSize strm.unread.length)⟩) := by
  have length := sound.length_unread
  have rsize := sound.rsize
  have used := sound.used
  have part : movedSize strm.unread.length ≤ strm.unread.length := Nat.mod_le _ _
  rw [length] at part ⊢
  show ∃ after, slide strm = some ((), after) ∧ _
  unfold slide
  simp only
  split_ifs with moves inside
  · have front : ((strm.data.drop strm.rptr).take (movedSize (strm.used - strm.rsize))).length =
        movedSize (strm.used - strm.rsize) := by
      rw [List.length_take_of_le]
      rw [List.length_drop]
      exact Nat.le_sub_of_add_le' inside
    have small : movedSize (strm.used - strm.rsize) ≤ strm.size := by omega
    have same : ((strm.data.drop strm.rptr).take (movedSize (strm.used - strm.rsize)) ++
        strm.data.drop (movedSize (strm.used - strm.rsize))).length = strm.size := by
      rw [List.length_append, front, List.length_drop]
      exact Nat.add_sub_cancel' small
    refine ⟨_, rfl, ⟨rfl, rfl, Nat.zero_le _, small.trans same.ge,
      sound.allocated.trans_le same.ge⟩, Or.inr ?_⟩
    have moved : (strm.data.drop strm.rptr).take (movedSize (strm.used - strm.rsize)) =
        strm.unread.take (movedSize (strm.used - strm.rsize)) := by
      rw [BinStream.unread, BinStream.contents, sound.rptr, List.drop_take, List.take_take,
        min_eq_left part]
    rw [BinStream.tape, BinStream.contents]
    simp only
    rw [List.take_left' front, moved]
    rfl
  · exact absurd (by rw [sound.rptr]; omega) inside
  · exact ⟨strm, rfl, sound, Or.inl rfl⟩

theorem move_spec {strm : BinStream} (sound : strm.Sound) :
    ∃ after, binStreamMove.run strm = some ((), after) ∧ after.Sound ∧
      (after.tape = strm.tape ∨
        after.tape = ⟨[], strm.unread.take (movedSize strm.unread.length)⟩) := by
  have ⟨clearedSound, cleared⟩ := clearRead_spec sound
  have ⟨after, ran, afterSound, slid⟩ := slide_spec clearedSound
  refine ⟨after, ran, afterSound, ?_⟩
  obtain same | ⟨allRead, used, rsize⟩ := cleared
  · rw [same] at slid
    exact slid.imp_left (congrArg BinStream.tape)
  · have nothing : (clearRead strm).unread = [] := by
      rw [BinStream.unread, BinStream.contents, used, List.take_zero, List.drop_nil]
    right
    rw [allRead]
    obtain same | moved := slid
    · rw [same]
      exact tape_blank used rsize
    · rw [moved, nothing]

/-! ### Calls in any order -/

/-- The call is defined, keeps the stream sound, and does to the tape what it may. -/
def Performs (strm : BinStream) (call : StreamCall) : Prop :=
  ∃ after output, streamMachine.step strm call = some (after, output) ∧ after.Sound ∧
    TapeStep strm.tape call output after.tape

theorem performs_write {call : StreamCall} {write : StreamM Unit} {bytes : List UInt8}
    (allowed : ∀ tape : Tape UInt8, TapeStep tape call .nothing (tape.append bytes))
    (isWrite : callStream call = (fun _ => .nothing) <$> write)
    (emits : Emits BinStream.view write bytes) (ignores : IgnoresReader write)
    {strm : BinStream} (sound : strm.Sound) : Performs strm call := by
  have ⟨after, wrote, afterSound, tape⟩ := write_spec emits ignores sound
  refine ⟨after, .nothing, ?_, afterSound, tape ▸ allowed strm.tape⟩
  show ((callStream call).run strm).map Prod.swap = _
  rw [isWrite, StateT.run_map, wrote]
  rfl

theorem performs_read {call : StreamCall}
    (allowed : ∀ tape : Tape UInt8, TapeStep tape call (readTape call tape.ahead).2
      (tape.advance (readTape call tape.ahead).1))
    (reads : ReadsTape call) {strm : BinStream} (sound : strm.Sound) : Performs strm call := by
  have ⟨inside, ran⟩ := reads strm sound
  rw [sound.length_unread] at inside
  have rsize := sound.rsize
  refine ⟨_, _, congrArg (Option.map Prod.swap) ran, sound.seek (by omega), ?_⟩
  rw [BinStream.tape_seek]
  exact allowed strm.tape

/-- One call of a sound stream, whatever it is. -/
theorem performs {strm : BinStream} (sound : strm.Sound) (call : StreamCall) :
    Performs strm call := by
  cases call with
  | integerWrite width value =>
      exact performs_write (.integerWrite · width value) rfl (emits_machWrite width value)
        (ignoresReader_machWrite width value) sound
  | dataWrite str =>
      exact performs_write (.dataWrite · str) rfl (emits_machDataWrite_cut str)
        ((ignoresReader_reserve _).bind
          ((ignoresReader_machWrite 2 _).bind (ignoresReader_store str))) sound
  | blockWrite str =>
      exact performs_write (.blockWrite · str) rfl (emits_machBlockWrite str)
        ((ignoresReader_reserve _).bind (ignoresReader_store str)) sound
  | integerRead width =>
      exact performs_read (.integerRead · width) (readsTape_integerRead width) sound
  | dataRead size => exact performs_read (.dataRead · size) (readsTape_dataRead size) sound
  | blockRead size => exact performs_read (.blockRead · size) (readsTape_blockRead size) sound
  | rewind reset =>
      cases reset with
      | false =>
          have ⟨kept, tape⟩ := rewind_spec sound
          exact ⟨_, _, rfl, kept, tape ▸ .rewind strm.tape⟩
      | true =>
          have ⟨kept, tape⟩ := rewindReset_spec sound
          exact ⟨_, _, rfl, kept, tape ▸ .rewindReset strm.tape⟩
  | reset =>
      have ⟨kept, tape⟩ := reset_spec sound
      exact ⟨_, _, rfl, kept, tape ▸ .reset strm.tape⟩
  | resize newSize =>
      have ⟨kept, tape⟩ := resize_spec sound newSize
      exact ⟨_, _, rfl, kept, tape.symm ▸ .resize strm.tape newSize⟩
  | reduce =>
      have ⟨kept, tape⟩ := reduce_spec sound
      refine ⟨_, _, rfl, kept, ?_⟩
      obtain same | blank := tape
      · exact same.symm ▸ .reduceKept strm.tape
      · exact blank.symm ▸ .reduceCleared strm.tape
  | move =>
      have ⟨after, ran, kept, tape⟩ := move_spec sound
      have stepped : streamMachine.step strm .move = some (after, .nothing) := by
        show (((fun _ => StreamOutput.nothing) <$> binStreamMove).run strm).map Prod.swap = _
        rw [StateT.run_map, ran]
        rfl
      refine ⟨after, .nothing, stepped, kept, ?_⟩
      obtain same | moved := tape
      · exact same.symm ▸ .moveKept strm.tape
      · exact moved.symm ▸ .moveForgot strm.tape

theorem sound_binStreamInit : binStreamInit.Sound :=
  ⟨rfl, rfl, le_rfl, Nat.zero_le _, size_binStreamInit ▸ by decide⟩

/-- A new stream stays inside its memory under all calls in any order, and what they give
back is what a tape could give. -/
theorem calls_of_tape (calls : List StreamCall) :
    ∃ history final, streamMachine.Run binStreamInit history final ∧
      history.map Prod.fst = calls ∧ final.Sound ∧
        Trace TapeStep Tape.blank history final.tape := by
  have blank : binStreamInit.tape = Tape.blank := tape_blank rfl rfl
  rw [← blank]
  exact streamMachine.exists_trace BinStream.tape (fun _ call sound => performs sound call)
    sound_binStreamInit calls

/-! ### Items -/

/-- What one write leaves in a stream for one read. -/
inductive StreamItem where
  | integer (width value : Nat)
  | data (str : List UInt8)
  | block (str : List UInt8)
deriving DecidableEq, Repr

namespace StreamItem

def put : StreamItem → StreamCall
  | integer width value => .integerWrite width value
  | data str => .dataWrite str
  | block str => .blockWrite str

/-- An item that its read can give back. -/
def Fits : StreamItem → Prop
  | integer width value => value < 256 ^ width
  | data str => str.length < 2 ^ 16
  | block _ => True

instance : (item : StreamItem) → Decidable item.Fits
  | integer width value => inferInstanceAs (Decidable (value < 256 ^ width))
  | data str => inferInstanceAs (Decidable (str.length < 2 ^ 16))
  | block _ => inferInstanceAs (Decidable True)

/-- The calls that read an item; an array may be read into a larger one. -/
inductive Asks : StreamItem → StreamCall → Prop where
  | integer (width value : Nat) : Asks (integer width value) (.integerRead width)
  | data {str : List UInt8} {size : Nat} (enough : str.length ≤ size) :
      Asks (data str) (.dataRead size)
  | block (str : List UInt8) : Asks (block str) (.blockRead str.length)

def answer : StreamItem → StreamOutput
  | integer _ value => .integer value
  | data str => arrayOutput (some str)
  | block str => arrayOutput (some str)

/-- A read takes the bytes of its item off the tape and no others. -/
theorem readTape_append {item : StreamItem} {call : StreamCall} (fits : item.Fits)
    (asks : item.Asks call) (rest : List UInt8) :
    readTape call (item.put.written ++ rest) = (item.put.written.length, item.answer) := by
  cases asks with
  | integer width value =>
      have length : (BigEndian.encode width value).length = width :=
        BigEndian.length_encode width value
      have enough : ¬(BigEndian.encode width value ++ rest).length < width := by
        rw [List.length_append, length]
        omega
      show readTape (.integerRead width) (BigEndian.encode width value ++ rest) =
        ((BigEndian.encode width value).length, .integer value)
      rw [readTape, if_neg enough, List.take_left' length, BigEndian.decode_encode_of_lt fits,
        length]
  | @data str size small =>
      have whole : (UInt16.ofNat str.length).toNat = str.length := UInt16.toNat_ofNat_of_lt' fits
      have length : (BigEndian.encode 2 str.length).length = 2 := BigEndian.length_encode 2 _
      have decoded : BigEndian.decode (BigEndian.encode 2 str.length) = str.length :=
        BigEndian.decode_encode_of_lt fits
      show readTape (.dataRead size)
        (BigEndian.encode 2 (UInt16.ofNat str.length).toNat ++ str ++ rest) =
          ((BigEndian.encode 2 (UInt16.ofNat str.length).toNat ++ str).length, _)
      rw [whole, List.append_assoc, readTape, List.take_left' length, List.drop_left' length,
        decoded, List.length_append, List.length_append, List.length_append, length]
      simp only
      rw [if_neg (by omega), if_neg (by omega), List.take_left' rfl]
      rfl
  | block str =>
      have enough : ¬(str ++ rest).length < str.length := by
        rw [List.length_append]
        omega
      show readTape (.blockRead str.length) (str ++ rest) = (str.length, arrayOutput (some str))
      rw [readTape, if_neg enough, List.take_left' rfl]

end StreamItem

/-- Calls that put items, and take them in the same order, each with the read for it. The
stream may be moved and resized at any point. -/
inductive Mailbox : List StreamItem → List StreamCall → List StreamOutput → Prop where
  | nil (pending : List StreamItem) : Mailbox pending [] []
  | put {pending : List StreamItem} {calls : List StreamCall} {outputs : List StreamOutput}
      {item : StreamItem} (fits : item.Fits) (rest : Mailbox (pending ++ [item]) calls outputs) :
      Mailbox pending (item.put :: calls) (.nothing :: outputs)
  | take {pending : List StreamItem} {calls : List StreamCall} {outputs : List StreamOutput}
      {item : StreamItem} {call : StreamCall} (fits : item.Fits) (asks : item.Asks call)
      (rest : Mailbox pending calls outputs) :
      Mailbox (item :: pending) (call :: calls) (item.answer :: outputs)
  | move {pending : List StreamItem} {calls : List StreamCall} {outputs : List StreamOutput}
      (rest : Mailbox pending calls outputs) :
      Mailbox pending (.move :: calls) (.nothing :: outputs)
  | resize {pending : List StreamItem} {calls : List StreamCall} {outputs : List StreamOutput}
      (newSize : Nat) (rest : Mailbox pending calls outputs) :
      Mailbox pending (.resize newSize :: calls) (.nothing :: outputs)

/-- The bytes of pending items. -/
def itemBytes (pending : List StreamItem) : List UInt8 :=
  pending.flatMap fun item => item.put.written

/-- One call of a mailbox, and then the others. -/
theorem exec_cons {strm after : BinStream} {call : StreamCall} {output : StreamOutput}
    {calls : List StreamCall} {outputs : List StreamOutput}
    (stepped : streamMachine.step strm call = some (after, output))
    (rest : ∃ final, streamMachine.exec after calls = some (final, calls.zip outputs)) :
    ∃ final, streamMachine.exec strm (call :: calls) =
      some (final, (call :: calls).zip (output :: outputs)) := by
  have ⟨final, executed⟩ := rest
  refine ⟨final, ?_⟩
  rw [Machine.exec, stepped]
  simp only
  rw [executed]
  rfl

section TapeSteps

variable {tape after : Tape UInt8} {call : StreamCall} {output : StreamOutput} {item : StreamItem}

theorem TapeStep.of_put (stepped : TapeStep tape item.put output after) :
    output = .nothing ∧ after = tape.append item.put.written := by
  cases item <;> cases stepped <;> exact ⟨rfl, rfl⟩

theorem TapeStep.of_take (asks : item.Asks call) (stepped : TapeStep tape call output after) :
    output = (readTape call tape.ahead).2 ∧
      after = tape.advance (readTape call tape.ahead).1 := by
  cases asks <;> cases stepped <;> exact ⟨rfl, rfl⟩

theorem TapeStep.of_resize {newSize : Nat}
    (stepped : TapeStep tape (.resize newSize) output after) :
    output = .nothing ∧ after = tape := by
  cases stepped
  exact ⟨rfl, rfl⟩

/-- A tape that is not too long loses nothing that is unread. -/
theorem TapeStep.of_move (stepped : TapeStep tape .move output after)
    (few : tape.ahead.length < 2 ^ 32) :
    output = .nothing ∧ (after = tape ∨ after = tape.forget) := by
  cases stepped with
  | moveKept => exact ⟨rfl, Or.inl rfl⟩
  | moveForgot =>
      have all : movedSize tape.ahead.length = tape.ahead.length := Nat.mod_eq_of_lt few
      refine ⟨rfl, Or.inr ?_⟩
      rw [Tape.forget, all, List.take_length]

end TapeSteps

theorem exec_mailbox {pending : List StreamItem} {calls : List StreamCall}
    {outputs : List StreamOutput} (mailbox : Mailbox pending calls outputs) {strm : BinStream}
    (sound : strm.Sound) (ahead : strm.tape.ahead = itemBytes pending)
    (few : (itemBytes pending ++ calls.flatMap StreamCall.written).length < 2 ^ 32) :
    ∃ final, streamMachine.exec strm calls = some (final, calls.zip outputs) := by
  induction mailbox generalizing strm with
  | nil pending => exact ⟨strm, rfl⟩
  | @put pending calls outputs item fits rest inductionHypothesis =>
      have ⟨after, output, stepped, kept, moved⟩ := performs sound item.put
      have ⟨same, appended⟩ := moved.of_put
      have grown : itemBytes (pending ++ [item]) = itemBytes pending ++ item.put.written := by
        rw [itemBytes, List.flatMap_append, List.flatMap_singleton]
        rfl
      apply exec_cons (same ▸ stepped)
      apply inductionHypothesis kept
      · rw [appended, grown, ← ahead]
        rfl
      · rwa [grown, List.append_assoc]
  | @take pending calls outputs item call fits asks rest inductionHypothesis =>
      have ⟨after, output, stepped, kept, moved⟩ := performs sound call
      have ⟨same, advanced⟩ := moved.of_take asks
      have first : itemBytes (item :: pending) = item.put.written ++ itemBytes pending := rfl
      rw [ahead, first, StreamItem.readTape_append fits asks] at same advanced
      apply exec_cons (same ▸ stepped)
      apply inductionHypothesis kept
      · rw [advanced]
        show strm.tape.ahead.drop item.put.written.length = _
        rw [ahead, first, List.drop_left]
      · rw [first, List.flatMap_cons] at few
        simp only [List.length_append] at few ⊢
        omega
  | move rest inductionHypothesis =>
      have ⟨after, output, stepped, kept, moved⟩ := performs sound .move
      have short : strm.tape.ahead.length < 2 ^ 32 := by
        rw [List.length_append, ← ahead] at few
        omega
      have ⟨same, keptOrForgot⟩ := moved.of_move short
      have unread : after.tape.ahead = strm.tape.ahead := by
        obtain untouched | forgot := keptOrForgot
        · rw [untouched]
        · rw [forgot]
          rfl
      exact exec_cons (same ▸ stepped) (inductionHypothesis kept (unread.trans ahead) few)
  | resize newSize rest inductionHypothesis =>
      have ⟨after, output, stepped, kept, moved⟩ := performs sound (.resize newSize)
      have ⟨same, unread⟩ := moved.of_resize
      exact exec_cons (same ▸ stepped) (inductionHypothesis kept (unread ▸ ahead) few)

/-- A new stream is a mailbox: items come out as they went in and in that order, however puts,
takes, moves and resizes follow each other, as long as the bytes put can be counted. -/
theorem items_in_order {calls : List StreamCall} {outputs : List StreamOutput}
    (mailbox : Mailbox [] calls outputs)
    (few : (calls.flatMap StreamCall.written).length < 2 ^ 32) :
    ∃ final, streamMachine.exec binStreamInit calls = some (final, calls.zip outputs) :=
  exec_mailbox mailbox sound_binStreamInit rfl few

theorem items_in_order_movedBetween :
    ∃ final, streamMachine.exec binStreamInit
        [.integerWrite 4 7, .dataWrite [1, 2], .integerRead 4, .resize 3000, .move,
          .blockWrite [3], .dataRead 10, .move, .blockRead 1] =
      some (final, List.zip
        [.integerWrite 4 7, .dataWrite [1, 2], .integerRead 4, .resize 3000, .move,
          .blockWrite [3], .dataRead 10, .move, .blockRead 1]
        [.nothing, .nothing, .integer 7, .nothing, .nothing, .nothing, .array 2 [1, 2],
          .nothing, .array 1 [3]]) := by
  have number : (StreamItem.integer 4 7).Fits := by decide
  have array : (StreamItem.data [1, 2]).Fits := by decide
  have block : (StreamItem.block [3]).Fits := trivial
  have last : Mailbox [.block [3]] [.blockRead 1] [.array 1 [3]] :=
    .take block (.block [3]) (.nil [])
  have second : Mailbox [.data [1, 2]]
      [.resize 3000, .move, .blockWrite [3], .dataRead 10, .move, .blockRead 1]
      [.nothing, .nothing, .nothing, .array 2 [1, 2], .nothing, .array 1 [3]] :=
    .resize 3000 (.move (.put block (.take array (.data (by decide)) (.move last))))
  exact items_in_order (.put number (.put array (.take number (.integer 4 7) second))) (by decide)

end StupidSimple.Mininet
