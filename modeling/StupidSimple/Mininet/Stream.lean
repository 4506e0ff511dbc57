import StupidSimple.Library.BigEndian
import StupidSimple.Library.ByteStream

/-!
Owns `bin_stream_t` of `cf_stream`: a growing byte buffer with a read pointer and a
write pointer. The pointers are offsets into the allocated bytes, kept beside the
counters `rsize` and `used` as the code keeps them; an access outside the
allocation is undefined.

The integer functions store in network order on either kind of host. What `malloc`
and `realloc` leave in fresh memory is never read before it is written; it is zero
here. `Emits` and `Takes` of each function are its specification.
-/

namespace StupidSimple.Mininet

open StupidSimple.Library

structure BinStream where
  /-- The allocated bytes. -/
  data : List UInt8
  rptr : Nat
  rsize : Nat
  wptr : Nat
  used : Nat
deriving DecidableEq, Repr

def defaultPacketSize : Nat := 1024

/-- The bytes in use of an array of `capacity` bytes. -/
abbrev Buffer (capacity : Nat) := { bytes : List UInt8 // bytes.length ≤ capacity }

def Buffer.empty {capacity : Nat} : Buffer capacity := ⟨[], Nat.zero_le capacity⟩

/-- A program over a stream; `none` is an access outside its memory. -/
abbrev StreamM := StateT BinStream Option

namespace BinStream

def size (strm : BinStream) : Nat := strm.data.length

/-- The bytes in use. -/
def contents (strm : BinStream) : List UInt8 := strm.data.take strm.used

def unread (strm : BinStream) : List UInt8 := strm.contents.drop strm.rsize

end BinStream

def binStreamInit : BinStream where
  data := List.replicate defaultPacketSize 0
  rptr := 0
  rsize := 0
  wptr := 0
  used := 0

theorem size_binStreamInit : binStreamInit.size = defaultPacketSize := List.length_replicate

def binStreamRewind (reset : Bool) (strm : BinStream) : BinStream :=
  let written := if reset then { strm with wptr := 0, used := 0 } else strm
  { written with rptr := 0, rsize := 0 }

def binStreamAvailableRead (strm : BinStream) : Nat := strm.used - strm.rsize

/-- The loop of `bin_stream_resize`; it doubles nothing in an empty allocation. The product of
`size_t` values is one of `Nat` here, as no allocation reaches half the address space. -/
def doubledSize (newSize allocSize : Nat) : Nat :=
  if allocSize < newSize ∧ 0 < allocSize then doubledSize newSize (allocSize * 2) else allocSize
termination_by newSize - allocSize

/-- `bin_stream_resize`, when `realloc` gives the memory. -/
def binStreamResize (newSize : Nat) (strm : BinStream) : BinStream :=
  if newSize ≤ strm.size then strm
  else
    { strm with
      data := strm.data ++ List.replicate (doubledSize newSize strm.size - strm.size) 0
      wptr := strm.used
      rptr := strm.rsize }

/-- The macro `RESIZE`. -/
def reserve (count : Nat) (strm : BinStream) : BinStream :=
  if strm.size < strm.used + count then binStreamResize (strm.used + count) strm else strm

/-! ### Copies to and from the pointers -/

/-- Copy to the write pointer and advance it. -/
def store (bytes : List UInt8) : StreamM Unit := fun strm =>
  if strm.wptr + bytes.length ≤ strm.size then
    some ((),
      { strm with
        data := strm.data.take strm.wptr ++ bytes ++ strm.data.drop (strm.wptr + bytes.length)
        wptr := strm.wptr + bytes.length
        used := strm.used + bytes.length })
  else none

/-- Copy from the read pointer and advance it. -/
def load (count : Nat) : StreamM (Buffer count) := fun strm =>
  if strm.rptr + count ≤ strm.size then
    some (⟨(strm.data.drop strm.rptr).take count, List.length_take_le _ _⟩,
      { strm with rptr := strm.rptr + count, rsize := strm.rsize + count })
  else none

/-! ### Integers -/

/-- The writer of an integer of `width` bytes. -/
def machWrite (width value : Nat) : StreamM Unit := do
  modify (reserve width)
  store (BigEndian.encode width value)

/-- The reader of an integer of `width` bytes: zero when fewer are left. -/
def machRead (width : Nat) : StreamM Nat := do
  let strm ← get
  if strm.used < strm.rsize + width then return 0
  else
    let bytes ← load width
    return BigEndian.decode bytes.1

def machUint8Write (val : UInt8) : StreamM Unit := machWrite 1 val.toNat

def machUint8Read : StreamM UInt8 := UInt8.ofNat <$> machRead 1

def machInt8Write (val : Int8) : StreamM Unit := machWrite 1 val.toUInt8.toNat

def machInt8Read : StreamM Int8 := (UInt8.toInt8 ∘ UInt8.ofNat) <$> machRead 1

def machUint16Write (val : UInt16) : StreamM Unit := machWrite 2 val.toNat

def machUint16Read : StreamM UInt16 := UInt16.ofNat <$> machRead 2

def machUint32Write (val : UInt32) : StreamM Unit := machWrite 4 val.toNat

def machUint32Read : StreamM UInt32 := UInt32.ofNat <$> machRead 4

def machInt64Write (val : Int64) : StreamM Unit := machWrite 8 val.toUInt64.toNat

def machInt64Read : StreamM Int64 := (UInt64.toInt64 ∘ UInt64.ofNat) <$> machRead 8

/-! ### Arrays -/

/-- A `uint16_t` length and that many bytes. -/
def machDataWrite (str : List UInt8) : StreamM Unit := do
  modify (reserve (str.length + 2))
  machUint16Write (UInt16.ofNat str.length)
  store str

/-- Read an array of at most `size` bytes; `none` is `READ_DATA_ERROR`, which is the
length of no array. -/
def machDataRead (size : Nat) : StreamM (Option (Buffer size)) := do
  let len ← machUint16Read
  let strm ← get
  if cut : size < len.toNat ∨ strm.used < strm.rsize + len.toNat then return none
  else
    let str ← load len.toNat
    return some ⟨str.1, str.2.trans (Nat.le_of_not_lt (not_or.mp cut).1)⟩

/-! ### Specifications -/

namespace BinStream

/-- A stream that is written from its start. -/
structure Writable (strm : BinStream) : Prop where
  wptr : strm.wptr = strm.used
  rptr : strm.rptr = 0
  rsize : strm.rsize = 0
  used : strm.used ≤ strm.size
  allocated : 0 < strm.size

/-- A stream whose read pointer is where its counter says. -/
structure Readable (strm : BinStream) : Prop where
  rptr : strm.rptr = strm.rsize
  rsize : strm.rsize ≤ strm.used
  used : strm.used ≤ strm.size

theorem Writable.readable {strm : BinStream} (writable : strm.Writable) : strm.Readable where
  rptr := writable.rptr.trans writable.rsize.symm
  rsize := writable.rsize ▸ Nat.zero_le _
  used := writable.used

def view : StreamView BinStream where
  Writable := Writable
  written := contents
  Readable := Readable
  unread := unread

theorem length_contents {strm : BinStream} (used : strm.used ≤ strm.size) :
    strm.contents.length = strm.used := by
  rw [contents, List.length_take]
  exact min_eq_left used

theorem length_unread {strm : BinStream} (readable : strm.Readable) :
    strm.unread.length = binStreamAvailableRead strm := by
  rw [unread, List.length_drop, length_contents readable.used, binStreamAvailableRead]

end BinStream

theorem le_doubledSize {newSize allocSize : Nat} (allocated : 0 < allocSize) :
    newSize ≤ doubledSize newSize allocSize := by
  fun_induction doubledSize newSize allocSize with
  | case1 allocSize grows inductionHypothesis => exact inductionHypothesis (by omega)
  | case2 allocSize enough => omega

/-- Making room keeps what is written. -/
theorem reserve_spec {strm : BinStream} (writable : strm.Writable) (count : Nat) :
    (reserve count strm).Writable ∧ (reserve count strm).contents = strm.contents ∧
      (reserve count strm).used = strm.used ∧ strm.used + count ≤ (reserve count strm).size := by
  unfold reserve
  split
  · next small =>
      have notEnough : ¬strm.used + count ≤ strm.size := Nat.not_le_of_lt small
      have room : strm.used + count ≤ doubledSize (strm.used + count) strm.size :=
        le_doubledSize writable.allocated
      have used := writable.used
      rw [binStreamResize, if_neg notEnough]
      have size : strm.size ≤ doubledSize (strm.used + count) strm.size := by omega
      have grown : (strm.data ++ List.replicate (doubledSize (strm.used + count) strm.size -
          strm.size) 0).length = doubledSize (strm.used + count) strm.size := by
        rw [List.length_append, List.length_replicate]
        exact Nat.add_sub_cancel' size
      refine ⟨⟨rfl, writable.rsize, writable.rsize, ?_, ?_⟩, ?_, rfl, ?_⟩
      · exact (used.trans size).trans grown.ge
      · exact (writable.allocated.trans_le size).trans_le grown.ge
      · exact List.take_append_of_le_length used
      · exact room.trans grown.ge
  · next enough => exact ⟨writable, rfl, rfl, Nat.le_of_not_lt enough⟩

theorem reserve_empty {strm : BinStream} (empty : strm.size = 0) (count : Nat) :
    (reserve count strm).size = 0 := by
  have nothing : doubledSize (strm.used + count) 0 = 0 := by
    rw [doubledSize, if_neg (by omega)]
  unfold reserve binStreamResize
  split_ifs
  · exact empty
  · show (strm.data ++ List.replicate (doubledSize _ strm.size - strm.size) 0).length = 0
    rw [empty, nothing, List.length_append]
    exact congrArg (· + 0) empty
  · exact empty

/-- An integer does not fit a stream without memory. -/
theorem machWrite_empty {strm : BinStream} (empty : strm.size = 0) {width : Nat}
    (positive : 0 < width) (value : Nat) : (machWrite width value).run strm = none := by
  refine if_neg ?_
  rw [reserve_empty empty, BigEndian.length_encode]
  omega

theorem store_spec {strm : BinStream} (writable : strm.Writable) {bytes : List UInt8}
    (room : strm.used + bytes.length ≤ strm.size) :
    ∃ after, (store bytes).run strm = some ((), after) ∧ after.Writable ∧
      after.contents = strm.contents ++ bytes ∧ after.size = strm.size ∧
      after.used = strm.used + bytes.length := by
  have used := writable.used
  have front : (strm.data.take strm.used).length = strm.used := BinStream.length_contents used
  have inside : strm.wptr + bytes.length ≤ strm.size := by rw [writable.wptr]; exact room
  have same : (strm.data.take strm.used ++ bytes ++ strm.data.drop (strm.used + bytes.length)).length
      = strm.size := by
    rw [List.length_append, List.length_append, List.length_drop, front]
    exact Nat.add_sub_cancel' room
  let after : BinStream :=
    { strm with
      data := strm.data.take strm.used ++ bytes ++ strm.data.drop (strm.used + bytes.length)
      wptr := strm.used + bytes.length
      used := strm.used + bytes.length }
  have stored : (store bytes).run strm = some ((), after) := by
    refine (if_pos inside).trans ?_
    rw [writable.wptr]
  refine ⟨after, stored, ⟨rfl, writable.rptr, writable.rsize, ?_, ?_⟩, ?_, same, rfl⟩
  · exact room.trans same.ge
  · exact writable.allocated.trans_le same.ge
  · show (strm.data.take strm.used ++ bytes ++ _).take (strm.used + bytes.length) = _
    rw [List.take_append_of_le_length (by rw [List.length_append, front]), List.take_of_length_le
      (by rw [List.length_append, front])]
    rfl

theorem load_spec {strm : BinStream} (readable : strm.Readable) {bytes rest : List UInt8}
    (unread : strm.unread = bytes ++ rest) {count : Nat} (width : bytes.length = count) :
    ∃ after, (load count).run strm = some (⟨bytes, width.le⟩, after) ∧ after.Readable ∧
      after.unread = rest := by
  have length := BinStream.length_unread readable
  rw [unread, List.length_append, binStreamAvailableRead, width] at length
  have used := readable.used
  have rsize := readable.rsize
  have inside : strm.rptr + count ≤ strm.size := by
    rw [readable.rptr]
    omega
  refine ⟨{ strm with rptr := strm.rptr + count, rsize := strm.rsize + count }, ?_, ?_, ?_⟩
  · have taken : (strm.data.drop strm.rptr).take count = bytes := by
      have front : strm.unread.take count = bytes := by
        rw [unread, List.take_append_of_le_length width.ge, List.take_of_length_le width.le]
      rw [← front, BinStream.unread, BinStream.contents, readable.rptr, List.drop_take,
        List.take_take]
      congr 1
      omega
    refine (if_pos inside).trans ?_
    simp only [taken]
  · exact ⟨congrArg (· + count) readable.rptr, by simp only; omega, used⟩
  · have dropped : strm.unread.drop count = rest := by
      rw [unread, ← width, List.drop_left]
    rw [← dropped, BinStream.unread, BinStream.unread, List.drop_drop]
    rfl

/-! ### The functions -/

theorem machWrite_run (width value : Nat) (strm : BinStream) :
    (machWrite width value).run strm =
      (store (BigEndian.encode width value)).run (reserve width strm) := by
  rw [machWrite, StateT.run_bind]
  rfl

theorem emits_machWrite (width value : Nat) :
    Emits BinStream.view (machWrite width value) (BigEndian.encode width value) := by
  intro strm writable
  have ⟨reserved, contents, used, room⟩ := reserve_spec writable width
  have enough : (reserve width strm).used + (BigEndian.encode width value).length ≤
      (reserve width strm).size := by
    rw [used, BigEndian.length_encode]
    exact room
  have ⟨after, stored, afterWritable, written, _⟩ := store_spec reserved enough
  refine ⟨after, (machWrite_run width value strm).trans stored, afterWritable, ?_⟩
  show after.contents = strm.contents ++ _
  rw [written, contents]

theorem takes_machRead (width : Nat) {value : Nat} (fits : value < 2 ^ (8 * width)) :
    Takes BinStream.view (machRead width) (BigEndian.encode width value) value := by
  intro strm rest readable unread
  have length := BinStream.length_unread readable
  have left : strm.unread = BigEndian.encode width value ++ rest := unread
  rw [left, List.length_append, BigEndian.length_encode, binStreamAvailableRead] at length
  have rsize := readable.rsize
  have enough : ¬strm.used < strm.rsize + width := by omega
  have ⟨after, loaded, afterReadable, afterUnread⟩ :=
    load_spec readable left (BigEndian.length_encode width value)
  refine ⟨after, ?_, afterReadable, afterUnread⟩
  show (if strm.used < strm.rsize + width then pure 0
    else load width >>= fun bytes => pure (BigEndian.decode bytes.1) : StreamM Nat).run strm = _
  rw [if_neg enough, StateT.run_bind, loaded]
  show some (BigEndian.decode (BigEndian.encode width value), after) = _
  rw [BigEndian.decode_encode_of_lt (by rw [Nat.pow_mul] at fits; exact fits)]

/-- A reader of an integer stays inside any stream. -/
theorem total_machRead (width : Nat) : Total BinStream.view (machRead width) := by
  intro strm readable
  show ∃ value after, (if strm.used < strm.rsize + width then pure 0
    else load width >>= fun bytes => pure (BigEndian.decode bytes.1) : StreamM Nat).run strm =
      some (value, after) ∧ after.Readable
  split
  · exact ⟨0, strm, rfl, readable⟩
  · next enough =>
      have length : (strm.unread.take width).length = width := by
        rw [List.length_take, BinStream.length_unread readable, binStreamAvailableRead]
        omega
      have ⟨after, loaded, afterReadable, _⟩ :=
        load_spec readable (List.take_append_drop width strm.unread).symm length
      rw [StateT.run_bind, loaded]
      exact ⟨_, after, rfl, afterReadable⟩

section Integers

theorem emits_machUint8Write (val : UInt8) :
    Emits BinStream.view (machUint8Write val) (BigEndian.encode 1 val.toNat) := emits_machWrite 1 _

theorem takes_machUint8Read (val : UInt8) :
    Takes BinStream.view machUint8Read (BigEndian.encode 1 val.toNat) val := by
  have read := (takes_machRead 1 val.toNat_lt).map UInt8.ofNat
  rwa [UInt8.ofNat_toNat] at read

theorem emits_machInt8Write (val : Int8) :
    Emits BinStream.view (machInt8Write val) (BigEndian.encode 1 val.toUInt8.toNat) :=
  emits_machWrite 1 _

theorem takes_machInt8Read (val : Int8) :
    Takes BinStream.view machInt8Read (BigEndian.encode 1 val.toUInt8.toNat) val := by
  have read := (takes_machRead 1 val.toUInt8.toNat_lt).map (UInt8.toInt8 ∘ UInt8.ofNat)
  rwa [Function.comp_apply, UInt8.ofNat_toNat, Int8.toInt8_toUInt8] at read

theorem emits_machUint16Write (val : UInt16) :
    Emits BinStream.view (machUint16Write val) (BigEndian.encode 2 val.toNat) := emits_machWrite 2 _

theorem takes_machUint16Read (val : UInt16) :
    Takes BinStream.view machUint16Read (BigEndian.encode 2 val.toNat) val := by
  have read := (takes_machRead 2 val.toNat_lt).map UInt16.ofNat
  rwa [UInt16.ofNat_toNat] at read

theorem emits_machUint32Write (val : UInt32) :
    Emits BinStream.view (machUint32Write val) (BigEndian.encode 4 val.toNat) := emits_machWrite 4 _

theorem takes_machUint32Read (val : UInt32) :
    Takes BinStream.view machUint32Read (BigEndian.encode 4 val.toNat) val := by
  have read := (takes_machRead 4 val.toNat_lt).map UInt32.ofNat
  rwa [UInt32.ofNat_toNat] at read

theorem emits_machInt64Write (val : Int64) :
    Emits BinStream.view (machInt64Write val) (BigEndian.encode 8 val.toUInt64.toNat) :=
  emits_machWrite 8 _

theorem takes_machInt64Read (val : Int64) :
    Takes BinStream.view machInt64Read (BigEndian.encode 8 val.toUInt64.toNat) val := by
  have read := (takes_machRead 8 val.toUInt64.toNat_lt).map (UInt64.toInt64 ∘ UInt64.ofNat)
  rwa [Function.comp_apply, UInt64.ofNat_toNat, Int64.toInt64_toUInt64] at read

end Integers

/-- The bytes of an array with its length. -/
def dataLayout (str : List UInt8) : List UInt8 := BigEndian.encode 2 str.length ++ str

theorem emits_machDataWrite {str : List UInt8} (short : str.length < 2 ^ 16) :
    Emits BinStream.view (machDataWrite str) (dataLayout str) := by
  intro strm writable
  have ⟨reserved, contents, used, room⟩ := reserve_spec writable (str.length + 2)
  have already : reserve 2 (reserve (str.length + 2) strm) = reserve (str.length + 2) strm :=
    if_neg (by omega)
  have length : (BigEndian.encode 2 (UInt16.ofNat str.length).toNat).length = 2 :=
    BigEndian.length_encode 2 _
  -- The room for the length and the array is there before either is stored.
  have roomForLength : (reserve (str.length + 2) strm).used +
      (BigEndian.encode 2 (UInt16.ofNat str.length).toNat).length ≤
        (reserve (str.length + 2) strm).size := by
    rw [length]
    omega
  have ⟨middle, storedLength, middleWritable, middleContents, sameSize, middleUsed⟩ :=
    store_spec reserved roomForLength
  have roomForArray : middle.used + str.length ≤ middle.size := by
    rw [sameSize, middleUsed, length]
    omega
  have ⟨after, storedArray, afterWritable, afterContents, _⟩ :=
    store_spec middleWritable roomForArray
  refine ⟨after, ?_, afterWritable, ?_⟩
  · rw [machDataWrite, StateT.run_bind]
    show (machUint16Write _ >>= fun _ => store str).run (reserve (str.length + 2) strm) = _
    rw [StateT.run_bind, machUint16Write, machWrite_run, already, storedLength]
    exact storedArray
  · show after.contents = strm.contents ++ dataLayout str
    rw [afterContents, middleContents, contents, List.append_assoc, dataLayout,
      UInt16.toNat_ofNat_of_lt' short]

theorem takes_machDataRead {size : Nat} (small : size < 2 ^ 16) (str : Buffer size) :
    Takes BinStream.view (machDataRead size) (dataLayout str.1) (some str) := by
  have short : str.1.length < 2 ^ 16 := str.2.trans_lt small
  have sameLength : (UInt16.ofNat str.1.length).toNat = str.1.length :=
    UInt16.toNat_ofNat_of_lt' short
  have first := takes_machUint16Read (UInt16.ofNat str.1.length)
  rw [sameLength] at first
  apply first.bind
  intro strm rest readable unread
  have left : strm.unread = str.1 ++ rest := unread
  have length := BinStream.length_unread readable
  rw [left, List.length_append, binStreamAvailableRead] at length
  have rsize := readable.rsize
  have fits := str.2
  have enough : ¬(size < (UInt16.ofNat str.1.length).toNat ∨
      strm.used < strm.rsize + (UInt16.ofNat str.1.length).toNat) := by
    rw [sameLength]
    omega
  have ⟨after, loaded, afterReadable, afterUnread⟩ := load_spec readable left sameLength.symm
  refine ⟨after, ?_, afterReadable, afterUnread⟩
  rw [StateT.run_bind]
  show ((dite _ _ _ : StreamM (Option (Buffer size))).run strm) = _
  rw [dif_neg enough, StateT.run_bind, loaded]
  rfl

end StupidSimple.Mininet
