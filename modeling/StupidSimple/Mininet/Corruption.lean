import StupidSimple.Library.ShiftRegister
import StupidSimple.Mininet.Garbage
import StupidSimple.Mininet.HeaderBounds

/-!
Owns the detection of damage by the checksum. The table of `crc32` makes its rounds a
register of four lanes; that rests on the highest bytes of the 256 entries being all
different.

`corruption_detected` says that a message damaged within four bytes is refused by both
ends.
-/

namespace StupidSimple.Mininet

open StupidSimple.Library

/-! ### The register -/

/-- The part of a round that does not depend on the byte. -/
def crc32Advance (crc : UInt32) : UInt32 :=
  crc32Tab.getD (crc &&& 0xff).toNat 0 ^^^ (crc >>> 8)

/-- The byte at a lane, lowest first. -/
def crc32Lane (lane : Nat) (crc : UInt32) : UInt8 := (crc >>> UInt32.ofNat (8 * lane)).toUInt8

def crc32Mix (lane : Nat) (byte : UInt8) (crc : UInt32) : UInt32 :=
  crc ^^^ (byte.toUInt32 <<< UInt32.ofNat (8 * lane))

theorem uint32_ext {left right : UInt32}
    (same : ∀ i < 32, left.toBitVec.getLsbD i = right.toBitVec.getLsbD i) : left = right :=
  UInt32.toBitVec_inj.mp (BitVec.eq_of_getLsbD_eq same)

theorem uint8_ext {left right : UInt8}
    (same : ∀ i < 8, left.toBitVec.getLsbD i = right.toBitVec.getLsbD i) : left = right :=
  UInt8.toBitVec_inj.mp (BitVec.eq_of_getLsbD_eq same)

theorem getLsbD_crc32Mix {lane : Nat} (inside : lane < 4) (byte : UInt8) (crc : UInt32) {i : Nat}
    (bit : i < 32) :
    (crc32Mix lane byte crc).toBitVec.getLsbD i = (crc.toBitVec.getLsbD i ^^
      (decide (8 * lane ≤ i) && byte.toBitVec.getLsbD (i - 8 * lane))) := by
  have amount : 8 * lane % 32 = 8 * lane := by omega
  have order : (!decide (i < 8 * lane)) = decide (8 * lane ≤ i) := by
    simp only [← decide_not, Nat.not_lt]
  simp [crc32Mix, amount, bit, order]

theorem getLsbD_crc32Lane {lane : Nat} (inside : lane < 4) (crc : UInt32) {i : Nat} (bit : i < 8) :
    (crc32Lane lane crc).toBitVec.getLsbD i = crc.toBitVec.getLsbD (8 * lane + i) := by
  have amount : 8 * lane % 32 = 8 * lane := by omega
  simp [crc32Lane, amount, bit]

theorem getLsbD_low (crc : UInt32) {i : Nat} (bit : i < 32) :
    (crc &&& 0xff).toBitVec.getLsbD i = (crc.toBitVec.getLsbD i && decide (i < 8)) := by
  have mask : ∀ i < 32, (0xff : UInt32).toBitVec.getLsbD i = decide (i < 8) := by decide
  rw [UInt32.toBitVec_and, BitVec.getLsbD_and, mask i bit]

theorem getLsbD_high (crc : UInt32) (i : Nat) :
    (crc >>> 8).toBitVec.getLsbD i = crc.toBitVec.getLsbD (8 + i) := by
  simp

theorem crc32Round_eq (crc : UInt32) (byte : UInt8) :
    crc32Round crc byte = crc32Advance (crc32Mix 0 byte crc) := by
  have plain : crc32Mix 0 byte crc = crc ^^^ byte.toUInt32 := by
    apply uint32_ext
    intro i bit
    rw [getLsbD_crc32Mix (by decide) byte crc bit]
    simp [bit]
  have high : (crc ^^^ byte.toUInt32) >>> 8 = crc >>> 8 := by
    apply uint32_ext
    intro i bit
    simp
  rw [plain, crc32Advance, high]
  rfl

/-- One step of the division by the polynomial, the entry at 128, backwards. -/
def crc32Undo (crc : UInt32) : UInt32 :=
  if crc < 0x80000000 then crc <<< 1 else (crc ^^^ 0xedb88320) <<< 1 ||| 1

/-- The highest byte of an entry gives its place. -/
theorem crc32Tab_undo : (crc32Tab.map fun entry : UInt32 =>
    (crc32Undo^[8] (entry >>> 24 <<< 24)).toUInt8.toNat) = List.range 256 := by
  decide +kernel

theorem crc32Tab_place {i : Nat} (inside : i < 256) :
    (crc32Undo^[8] (crc32Tab.getD i 0 >>> 24 <<< 24)).toUInt8.toNat = i := by
  have length : crc32Tab.length = 256 := by decide +kernel
  have within : i < crc32Tab.length := length ▸ inside
  have entry := congrArg (fun places => places[i]?) crc32Tab_undo
  simp only [List.getElem?_map, List.getElem?_range inside, List.getElem?_eq_getElem within,
    Option.map_some] at entry
  rw [List.getD_eq_getElem?_getD, List.getElem?_eq_getElem within, Option.getD_some]
  exact Option.some.inj entry

/-- So the highest bytes of the entries are all different. -/
theorem crc32Tab_inj {i j : Nat} (left : i < 256) (right : j < 256)
    (same : crc32Tab.getD i 0 >>> 24 = crc32Tab.getD j 0 >>> 24) : i = j := by
  have leftPlace := crc32Tab_place left
  rw [same, crc32Tab_place right] at leftPlace
  exact leftPlace.symm

theorem crc32Advance_injective : Function.Injective crc32Advance := by
  intro left right same
  have top (crc : UInt32) : crc32Advance crc >>> 24 =
      crc32Tab.getD (crc &&& 0xff).toNat 0 >>> 24 := by
    apply uint32_ext
    intro i bit
    have beyond : crc.toBitVec.getLsbD (8 + (24 + i)) = false :=
      BitVec.getLsbD_of_ge _ _ (by omega)
    simp [crc32Advance, beyond]
  have byte (crc : UInt32) : (crc &&& 0xff).toNat < 256 := by
    rw [UInt32.toNat_and]
    exact Nat.and_lt_two_pow _ (by decide : (0xff : UInt32).toNat < 2 ^ 8)
  have entries := congrArg (fun crc : UInt32 => crc >>> 24) same
  simp only [top] at entries
  have index := crc32Tab_inj (byte left) (byte right) entries
  have low : left &&& 0xff = right &&& 0xff := UInt32.toNat_inj.mp index
  have high : left >>> 8 = right >>> 8 := by
    rw [crc32Advance, crc32Advance, low] at same
    simpa using same
  apply uint32_ext
  intro i bit
  by_cases first : i < 8
  · have lowBits := congrArg (fun crc => crc.toBitVec.getLsbD i) low
    simp only [getLsbD_low _ bit, decide_eq_true first, Bool.and_true] at lowBits
    exact lowBits
  · have highBits := congrArg (fun crc => crc.toBitVec.getLsbD (i - 8)) high
    simp only [getLsbD_high] at highBits
    have position : 8 + (i - 8) = i := by omega
    rwa [position] at highBits

theorem crc32Advance_mix {lane : Nat} (inside : lane + 1 < 4) (byte : UInt8) (crc : UInt32) :
    crc32Advance (crc32Mix (lane + 1) byte crc) = crc32Mix lane byte (crc32Advance crc) := by
  have low : crc32Mix (lane + 1) byte crc &&& 0xff = crc &&& 0xff := by
    apply uint32_ext
    intro i bit
    rw [getLsbD_low _ bit, getLsbD_low _ bit, getLsbD_crc32Mix inside _ _ bit]
    by_cases first : i < 8
    · have below : decide (8 * (lane + 1) ≤ i) = false := decide_eq_false (by omega)
      rw [below, Bool.false_and, Bool.xor_false]
    · rw [decide_eq_false first, Bool.and_false, Bool.and_false]
  have high : crc32Mix (lane + 1) byte crc >>> 8 =
      (crc >>> 8) ^^^ (byte.toUInt32 <<< UInt32.ofNat (8 * lane)) := by
    apply uint32_ext
    intro i bit
    have laneInside : lane < 4 := by omega
    have mixed := getLsbD_crc32Mix laneInside byte (crc >>> 8) bit
    rw [crc32Mix] at mixed
    rw [mixed, getLsbD_high, getLsbD_high]
    by_cases within : 8 + i < 32
    · have position : 8 + i - 8 * (lane + 1) = i - 8 * lane := by omega
      have order : decide (8 * (lane + 1) ≤ 8 + i) = decide (8 * lane ≤ i) :=
        decide_eq_decide.mpr (by omega)
      rw [getLsbD_crc32Mix inside _ _ within, position, order]
    · have beyond : 32 ≤ 8 + i := Nat.le_of_not_lt within
      have past : 8 ≤ i - 8 * lane := by omega
      rw [BitVec.getLsbD_of_ge _ _ beyond, BitVec.getLsbD_of_ge _ _ beyond,
        BitVec.getLsbD_of_ge _ _ past, Bool.and_false, Bool.xor_false]
  rw [crc32Advance, low, high, crc32Mix, crc32Advance, UInt32.xor_assoc]

theorem crc32Lane_mix {lane : Nat} (inside : lane < 4) (byte : UInt8) (crc : UInt32) :
    crc32Lane lane (crc32Mix lane byte crc) = crc32Lane lane crc ^^^ byte := by
  apply uint8_ext
  intro i bit
  have within : 8 * lane + i < 32 := by omega
  have order : decide (8 * lane ≤ 8 * lane + i) = true := decide_eq_true (Nat.le_add_right _ _)
  rw [getLsbD_crc32Lane inside _ bit, getLsbD_crc32Mix inside _ _ within, order, Bool.true_and,
    Nat.add_sub_cancel_left, UInt8.toBitVec_xor, BitVec.getLsbD_xor, getLsbD_crc32Lane inside _ bit]

theorem crc32Lane_mix_of_ne {lane other : Nat} (inside : lane < 4) (within : other < 4)
    (apart : lane ≠ other) (byte : UInt8) (crc : UInt32) :
    crc32Lane lane (crc32Mix other byte crc) = crc32Lane lane crc := by
  apply uint8_ext
  intro i bit
  rw [getLsbD_crc32Lane inside _ bit, getLsbD_crc32Mix within _ _ (by omega),
    getLsbD_crc32Lane inside _ bit]
  by_cases below : lane < other
  · have order : decide (8 * other ≤ 8 * lane + i) = false := decide_eq_false (by omega)
    rw [order, Bool.false_and, Bool.xor_false]
  · have past : 8 ≤ 8 * lane + i - 8 * other := by omega
    rw [BitVec.getLsbD_of_ge _ _ past, Bool.and_false, Bool.xor_false]

/-- The checksum as a register of four lanes. -/
def crc32Register : ShiftRegister UInt32 UInt8 where
  width := 4
  advance := crc32Advance
  mix := crc32Mix
  peek := crc32Lane
  advance_injective := crc32Advance_injective
  mix_injective _ _ _ same := (UInt32.xor_left_inj _).mp same
  advance_mix inside byte crc := crc32Advance_mix inside byte crc
  peek_mix inside crc left right same := by
    simp only [crc32Lane_mix inside] at same
    exact (UInt8.xor_right_inj _).mp same
  peek_mix_of_ne inside within apart byte crc := crc32Lane_mix_of_ne inside within apart byte crc

theorem crc32_eq_run (crc : UInt32) (buf : List UInt8) :
    crc32 crc buf = crc32Register.run (crc ^^^ 0xffffffff) buf ^^^ 0xffffffff := by
  have rounds : crc32Round = crc32Register.step := by
    funext state byte
    exact crc32Round_eq state byte
  rw [crc32, rounds]
  rfl

/-- Buffers of one length that differ, and only within four consecutive bytes, have
different checksums. -/
theorem crc32_separates {before left right behind : List UInt8}
    (length : left.length = right.length) (few : left.length ≤ 4) (differ : left ≠ right)
    (crc : UInt32) :
    crc32 crc (before ++ left ++ behind) ≠ crc32 crc (before ++ right ++ behind) := by
  intro same
  rw [crc32_eq_run, crc32_eq_run] at same
  exact crc32Register.separates length few differ _ ((UInt32.xor_left_inj _).mp same)

/-! ### Damaged messages -/

/-- The bytes at which two datagrams differ lie in one window. -/
def DiffersWithin (start width : Nat) (left right : List UInt8) : Prop :=
  ∀ i, left[i]? ≠ right[i]? → start ≤ i ∧ i < start + width

instance (start width : Nat) (left right : List UInt8) :
    Decidable (DiffersWithin start width left right) :=
  decidable_of_iff
    (∀ i < max left.length right.length, left[i]? ≠ right[i]? → start ≤ i ∧ i < start + width) <| by
    constructor
    · intro inside i differ
      by_cases below : i < max left.length right.length
      · exact inside i below differ
      · rw [List.getElem?_eq_none (by omega), List.getElem?_eq_none (by omega)] at differ
        contradiction
    · intro within i _
      exact within i

namespace DiffersWithin

variable {start width : Nat} {left right : List UInt8}

theorem getElem?_eq (within : DiffersWithin start width left right) {i : Nat}
    (outside : i < start ∨ start + width ≤ i) : left[i]? = right[i]? := by
  by_contra differ
  have inside := within i differ
  omega

theorem take_eq (within : DiffersWithin start width left right) {count : Nat}
    (before : count ≤ start) : left.take count = right.take count := by
  apply List.ext_getElem?
  intro i
  rw [List.getElem?_take, List.getElem?_take]
  split
  · next below => exact within.getElem?_eq (Or.inl (by omega))
  · rfl

theorem drop_eq (within : DiffersWithin start width left right) {count : Nat}
    (behind : start + width ≤ count) : left.drop count = right.drop count := by
  apply List.ext_getElem?
  intro i
  rw [List.getElem?_drop, List.getElem?_drop]
  exact within.getElem?_eq (Or.inr (by omega))

end DiffersWithin

/-- All damage lies within four consecutive bytes before the checksum, or in the
checksum. -/
def Damaged (received message : List UInt8) : Prop :=
  received.length = message.length ∧ received ≠ message ∧
    ((∃ start, start + 4 ≤ message.length - 4 ∧ DiffersWithin start 4 received message) ∨
      DiffersWithin (message.length - 4) 4 received message)

theorem length_sealed (bytes : List UInt8) : (sealed bytes).length = bytes.length + 4 := by
  rw [sealed, List.length_append, BigEndian.length_encode]

/-- A buffer around a window of four bytes. -/
theorem append_window (bytes : List UInt8) (start : Nat) :
    bytes.take start ++ (bytes.drop start).take 4 ++ bytes.drop (start + 4) = bytes := by
  rw [List.append_assoc, ← List.drop_drop, List.take_append_drop, List.take_append_drop]

/-- Damage to what a checksum covers does not go with the same checksum. -/
theorem sealed_ne_of_window {covered other : List UInt8} (length : other.length = covered.length)
    (differ : sealed other ≠ sealed covered) {start : Nat} (inside : start + 4 ≤ covered.length) :
    ¬DiffersWithin start 4 (sealed other) (sealed covered) := by
  intro within
  have before : other.take start = covered.take start := by
    have taken := within.take_eq (Nat.le_refl start)
    rwa [sealed, sealed, List.take_append_of_le_length (by omega),
      List.take_append_of_le_length (by omega)] at taken
  have dropped := within.drop_eq (Nat.le_refl (start + 4))
  rw [sealed, sealed, List.drop_append_of_le_length (by omega),
    List.drop_append_of_le_length inside] at dropped
  obtain ⟨behind, checksums⟩ := List.append_inj dropped (by
    rw [List.length_drop, List.length_drop, length])
  have same : crc32 crcVal other = crc32 crcVal covered := by
    have values := congrArg BigEndian.decode checksums
    rw [BigEndian.decode_encode_of_lt (crc32 crcVal other).toNat_lt,
      BigEndian.decode_encode_of_lt (crc32 crcVal covered).toNat_lt] at values
    exact UInt32.toNat_inj.mp values
  have windows : ((other.drop start).take 4).length = ((covered.drop start).take 4).length := by
    simp only [List.length_take, List.length_drop, length]
  have apart : (other.drop start).take 4 ≠ (covered.drop start).take 4 := by
    intro equal
    apply differ
    rw [← append_window other start, ← append_window covered start, before, equal, behind]
  apply crc32_separates windows (List.length_take_le _ _) apart crcVal
  rw [append_window covered start, ← same, ← before, ← behind, append_window other start]

/-- Damage makes a message that is none. -/
theorem Damaged.unsealed {received covered : List UInt8}
    (damaged : Damaged received (sealed covered)) (other : List UInt8) :
    received ≠ sealed other := by
  intro resealed
  subst resealed
  obtain ⟨lengths, differ, place⟩ := damaged
  rw [length_sealed, length_sealed] at lengths
  have length : other.length = covered.length := Nat.add_right_cancel lengths
  have covers : (sealed covered).length - 4 = covered.length := by
    rw [length_sealed, Nat.add_sub_cancel]
  rw [covers] at place
  rcases place with ⟨start, inside, window⟩ | checksum
  · exact sealed_ne_of_window length differ inside window
  · have kept := checksum.take_eq (Nat.le_refl covered.length)
    rw [sealed, sealed, List.take_append_of_le_length length.ge, List.take_left,
      List.take_of_length_le length.le] at kept
    exact differ (congrArg sealed kept)

/-- Every message of `sim_encode_msg` that is damaged on its way is refused by
`sim_decode_header`, and dropped by both ends. -/
theorem corruption_detected {header : SimHeader} {body : SimBody} {strm sent : BinStream}
    (encoded : (simEncodeMsg header body).run strm = some ((), sent)) {arrived : BinStream}
    (readable : arrived.Readable) (damaged : Damaged arrived.contents sent.contents)
    (now : Int64) :
    (∃ headed, simDecodeHeader.run arrived = some (none, headed)) ∧
      (∀ sender : Sender, sender.processingMsg now arrived = some (sender, [])) ∧
      ∀ receiver : Receiver, receiver.processingMsg now arrived = some (receiver, []) := by
  have ⟨bytes, contents⟩ := simEncodeMsg_sealed encoded
  rw [contents] at damaged
  have length := BinStream.length_contents readable.used
  rw [damaged.1, length_sealed] at length
  obtain ⟨result, headed, decoded⟩ := (simDecodeHeader_defined readable).mpr (by omega)
  have none : result = none := by
    by_contra found
    have ⟨seen, same⟩ := Option.ne_none_iff_exists'.mp found
    rw [same] at decoded
    obtain ⟨other, resealed⟩ := (accepted_iff readable).mp ⟨seen, headed, decoded⟩
    exact damaged.unsealed other resealed
  subst none
  have refused : Refused arrived := ⟨none, headed, decoded, fun _ found => absurd found nofun⟩
  exact ⟨⟨headed, decoded⟩, fun _ => Sender.processingMsg_refused refused now,
    fun _ => Receiver.processingMsg_refused refused now⟩

/-- A ping of a sender, with one bit of its time changed. -/
def damagedPing : BinStream :=
  { binStreamInit with
    data := [0x01, 0x15, 0, 0, 0x04, 0xd2, 0, 0, 0, 0, 0, 0, 0, 0x07, 0x2c, 0x0f, 0x96, 0x2d] ++
      binStreamInit.data.drop 18
    used := 18 }

theorem corruption_detected_ping :
    (∃ headed, simDecodeHeader.run damagedPing = some (none, headed)) ∧
      (Sender.create ⟨4321, 0x0a000402⟩).processingMsg 9 damagedPing =
        some (Sender.create ⟨4321, 0x0a000402⟩, []) := by
  have encoded : ((simEncodeMsg (initSimHeader simPing 1234) (.ping ⟨5⟩)).run binStreamInit).map
      (fun written => written.2.contents) =
        some [0x01, 0x15, 0, 0, 0x04, 0xd2, 0, 0, 0, 0, 0, 0, 0, 0x05, 0x2c, 0x0f, 0x96, 0x2d] := by
    decide +kernel
  obtain ⟨⟨_, sent⟩, ran, contents⟩ := Option.map_eq_some_iff.mp encoded
  have readable : damagedPing.Readable := ⟨rfl, by decide, by decide +kernel⟩
  have damaged : Damaged damagedPing.contents sent.contents := by
    rw [contents]
    exact ⟨by decide +kernel, by decide +kernel, Or.inl ⟨10, by decide, by decide +kernel⟩⟩
  have ⟨refused, dropped, _⟩ := corruption_detected ran readable damaged 9
  exact ⟨refused, dropped _⟩

end StupidSimple.Mininet
