import Mathlib.Algebra.Order.Ring.Nat
import Mathlib.Tactic.Ring

/-!
Owns big-endian byte strings of natural numbers: `encode` writes the low bytes
of a number, `decode` reads all bytes of a string, and each is the inverse of
the other on numbers that fit.
-/

namespace StupidSimple.Library.BigEndian

/-- The low `width` bytes of `value`, highest first. -/
def encode : Nat → Nat → List UInt8
  | 0, _ => []
  | width + 1, value => UInt8.ofNat (value / 256 ^ width) :: encode width value

/-- The number that a byte string spells, highest byte first. -/
def decode : List UInt8 → Nat
  | [] => 0
  | byte :: rest => byte.toNat * 256 ^ rest.length + decode rest

@[simp] theorem length_encode (width value : Nat) : (encode width value).length = width := by
  induction width with
  | zero => rfl
  | succ width inductionHypothesis => rw [encode, List.length_cons, inductionHypothesis]

theorem decode_encode (width value : Nat) : decode (encode width value) = value % 256 ^ width := by
  induction width with
  | zero => simp [encode, decode, Nat.mod_one]
  | succ width inductionHypothesis =>
      rw [encode, decode, inductionHypothesis, length_encode, UInt8.toNat_ofNat']
      have high : value / 256 ^ width % 2 ^ 8 = value / 256 ^ width % 256 := rfl
      rw [high, pow_succ, Nat.mod_mul, Nat.add_comm, Nat.mul_comm]

theorem decode_encode_of_lt {width value : Nat} (fits : value < 256 ^ width) :
    decode (encode width value) = value := by
  rw [decode_encode, Nat.mod_eq_of_lt fits]

theorem decode_lt (bytes : List UInt8) : decode bytes < 256 ^ bytes.length := by
  induction bytes with
  | nil => exact Nat.one_pos
  | cons byte rest inductionHypothesis =>
      have small : byte.toNat < 256 := byte.toNat_lt
      calc
        decode (byte :: rest) = byte.toNat * 256 ^ rest.length + decode rest := rfl
        _ < byte.toNat * 256 ^ rest.length + 256 ^ rest.length := by omega
        _ = (byte.toNat + 1) * 256 ^ rest.length := by ring
        _ ≤ 256 * 256 ^ rest.length := Nat.mul_le_mul_right _ small
        _ = 256 ^ (byte :: rest).length := by rw [List.length_cons, pow_succ, Nat.mul_comm]

theorem encode_decode (bytes : List UInt8) : encode bytes.length (decode bytes) = bytes := by
  have general : ∀ (high : Nat) (bytes : List UInt8),
      encode bytes.length (high * 256 ^ bytes.length + decode bytes) = bytes := by
    intro high bytes
    induction bytes generalizing high with
    | nil => rfl
    | cons byte rest inductionHypothesis =>
        have positive : 0 < 256 ^ rest.length := Nat.pow_pos (by decide)
        have small := decode_lt rest
        have total : high * 256 ^ (byte :: rest).length + decode (byte :: rest) =
            (high * 256 + byte.toNat) * 256 ^ rest.length + decode rest := by
          rw [List.length_cons, decode, pow_succ]
          ring
        have quotient : ((high * 256 + byte.toNat) * 256 ^ rest.length + decode rest) /
            256 ^ rest.length = high * 256 + byte.toNat := by
          rw [Nat.add_comm, Nat.add_mul_div_right _ _ positive, Nat.div_eq_of_lt small, Nat.zero_add]
        rw [total, List.length_cons, encode, quotient, inductionHypothesis]
        congr 1
        apply UInt8.toNat_inj.mp
        rw [UInt8.toNat_ofNat']
        have := byte.toNat_lt
        omega
  have exactly := general 0 bytes
  rwa [Nat.zero_mul, Nat.zero_add] at exactly

theorem encode_inj {width left right : Nat} (leftFits : left < 256 ^ width)
    (rightFits : right < 256 ^ width) (same : encode width left = encode width right) :
    left = right := by
  have decoded := congrArg decode same
  rwa [decode_encode_of_lt leftFits, decode_encode_of_lt rightFits] at decoded

@[simp] theorem decode_singleton (byte : UInt8) : decode [byte] = byte.toNat := by
  simp [decode]

theorem encode_one {value : Nat} : encode 1 value = [UInt8.ofNat value] := by
  simp [encode]

end StupidSimple.Library.BigEndian
