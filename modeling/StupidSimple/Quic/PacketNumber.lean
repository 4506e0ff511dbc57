import StupidSimple.Library.Epoch
import StupidSimple.Quic.AckRoundTrip

/-!
Owns what `MyQuicFramer` makes of a packet number of which only the low bytes are on the
wire.
-/

namespace StupidSimple.Quic

open StupidSimple.Library

/-- The distance of two numbers, as `uint64_t` has no negative ones. -/
def delta (a b : Nat) : Nat := if a < b then b - a else a - b

def closestTo (target a b : Nat) : Nat := if delta target a < delta target b then a else b

/-- `~` of a `uint64_t`. -/
def complement (value : Nat) : Nat := 2 ^ 64 - 1 - value

namespace MyQuicFramer

/-- No header announces the length of eight bytes, for which `epoch_delta` would be shifted
by the width of its type; the shift here is one of `Nat`. -/
def calculatePacketNumberFromWire (packetNumberLength : QuicPacketNumberLength)
    (basePacketNumber packetNumber : Nat) : Nat :=
  let epochDelta := 1 <<< (8 * packetNumberLength.bytes)
  let nextPacketNumber := (basePacketNumber + 1) % 2 ^ 64
  let epoch := basePacketNumber &&& complement (epochDelta - 1)
  let prevEpoch := (epoch + 2 ^ 64 - epochDelta) % 2 ^ 64
  let nextEpoch := (epoch + epochDelta) % 2 ^ 64
  closestTo nextPacketNumber ((epoch + packetNumber) % 2 ^ 64)
    (closestTo nextPacketNumber ((prevEpoch + packetNumber) % 2 ^ 64)
      ((nextEpoch + packetNumber) % 2 ^ 64))

end MyQuicFramer

open MyQuicFramer

/-! ### Epochs -/

theorem delta_eq_dist (a b : Nat) : delta a b = Nat.dist a b := by
  unfold delta Nat.dist
  split_ifs <;> omega

theorem closestTo_eq_closest (target a b : Nat) :
    closestTo target a b = Epoch.closest target a b := by
  unfold closestTo Epoch.closest
  rw [delta_eq_dist, delta_eq_dist]

theorem closestTo_epochs {bits base target low : Nat} (few : bits ≤ 64) (narrow : base < 2 ^ 64) :
    closestTo target (((base &&& complement (1 <<< bits - 1)) + low) % 2 ^ 64)
        (closestTo target
          ((((base &&& complement (1 <<< bits - 1)) + 2 ^ 64 - 1 <<< bits) % 2 ^ 64 + low) % 2 ^ 64)
          ((((base &&& complement (1 <<< bits - 1)) + 1 <<< bits) % 2 ^ 64 + low) % 2 ^ 64)) =
      Epoch.nearest (2 ^ 64) (2 ^ bits) base target low := by
  rw [Nat.one_shiftLeft, complement, Epoch.and_mask_eq narrow few, closestTo_eq_closest,
    closestTo_eq_closest, Nat.mod_add_mod, Nat.mod_add_mod]
  rfl

theorem calculatePacketNumberFromWire_eq {packetNumberLength : QuicPacketNumberLength}
    {base low : Nat} (narrow : base + 1 < 2 ^ 64) :
    calculatePacketNumberFromWire packetNumberLength base low =
      Epoch.nearest (2 ^ 64) (2 ^ (8 * packetNumberLength.bytes)) base (base + 1) low := by
  have few : 8 * packetNumberLength.bytes ≤ 64 := by
    have := bytes_le_eight packetNumberLength
    omega
  rw [← closestTo_epochs few (Nat.lt_of_succ_lt narrow), calculatePacketNumberFromWire,
    Nat.mod_eq_of_lt narrow]

theorem two_pow_bytes (packetNumberLength : QuicPacketNumberLength) :
    2 ^ (8 * packetNumberLength.bytes) = 256 ^ packetNumberLength.bytes := by
  rw [Nat.pow_mul]

/-! ### Half an epoch -/

/-- The number lies within half an epoch of the one that is expected next. -/
def InWindow (packetNumberLength : QuicPacketNumberLength) (base packetNumber : Nat) : Prop :=
  2 * delta (base + 1) packetNumber < 256 ^ packetNumberLength.bytes

instance (packetNumberLength : QuicPacketNumberLength) (base packetNumber : Nat) :
    Decidable (InWindow packetNumberLength base packetNumber) :=
  inferInstanceAs (Decidable (_ < _))

section Window

variable {packetNumberLength : QuicPacketNumberLength} {base packetNumber : Nat}

theorem calculatePacketNumberFromWire_of_inWindow
    (window : InWindow packetNumberLength base packetNumber) (baseNarrow : base + 1 < 2 ^ 64)
    (narrow : packetNumber < 2 ^ 64) :
    calculatePacketNumberFromWire packetNumberLength base
      (packetNumber % 256 ^ packetNumberLength.bytes) = packetNumber := by
  have few : 8 * packetNumberLength.bytes ≤ 64 := by
    have := bytes_le_eight packetNumberLength
    omega
  have baseSplit := Nat.div_add_mod' base (256 ^ packetNumberLength.bytes)
  have baseLow := Nat.mod_lt base (Nat.pow_pos (by decide) : 0 < 256 ^ packetNumberLength.bytes)
  unfold InWindow at window
  rw [delta_eq_dist] at window
  rw [calculatePacketNumberFromWire_eq baseNarrow, two_pow_bytes]
  apply Epoch.nearest_eq _ window (Nat.le_succ base) (by omega) narrow
  · rw [← two_pow_bytes]
    exact Nat.pow_le_pow_right (by decide) few
  · rw [← two_pow_bytes]
    exact Nat.pow_dvd_pow 2 few

/-- A packet number is restored from its low bytes when it is less than half an epoch away
from the next one expected; what is restored is never further away than that. -/
theorem packet_number_from_wire (baseNarrow : base + 1 < 2 ^ 64) (narrow : packetNumber < 2 ^ 64) :
    (InWindow packetNumberLength base packetNumber →
      calculatePacketNumberFromWire packetNumberLength base
        (packetNumber % 256 ^ packetNumberLength.bytes) = packetNumber) ∧
    (256 ^ packetNumberLength.bytes ≤ base →
      base + 2 * 256 ^ packetNumberLength.bytes ≤ 2 ^ 64 →
      2 * delta (base + 1) (calculatePacketNumberFromWire packetNumberLength base
        (packetNumber % 256 ^ packetNumberLength.bytes)) ≤ 256 ^ packetNumberLength.bytes) := by
  constructor
  · exact fun window => calculatePacketNumberFromWire_of_inWindow window baseNarrow narrow
  · intro lowest highest
    have positive : 0 < 256 ^ packetNumberLength.bytes := Nat.pow_pos (by decide)
    have baseSplit := Nat.div_add_mod' base (256 ^ packetNumberLength.bytes)
    have baseLow := Nat.mod_lt base positive
    rw [calculatePacketNumberFromWire_eq baseNarrow, two_pow_bytes, delta_eq_dist]
    exact Epoch.dist_nearest_le (Nat.mod_lt packetNumber positive) (Nat.le_succ base) (by omega)
      lowest highest

end Window

/-- A packet that arrives late, over the end of an epoch of two bytes. -/
theorem packet_number_from_wire_late :
    calculatePacketNumberFromWire .packet2Byte 131080 (131060 % 256 ^ 2) = 131060 :=
  (packet_number_from_wire (by decide) (by decide)).1 (by decide)

end StupidSimple.Quic
