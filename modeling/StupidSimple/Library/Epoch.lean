import Mathlib.Data.Int.ModEq
import Mathlib.Data.Nat.Bitwise
import Mathlib.Data.Nat.Dist

/-!
Owns counters of which only the low part is sent. The reader takes, out of the epoch of a
number that it knows and the two beside it, the number nearest to the one that it expects.
-/

namespace StupidSimple.Library.Epoch

/-- The nearer one of two numbers; the second one where the first is not nearer. -/
def closest (target first second : Nat) : Nat :=
  if Nat.dist target first < Nat.dist target second then first else second

/-- Less than half an epoch lies between the numbers. -/
def Near (modulus target value : Nat) : Prop := 2 * Nat.dist target value < modulus

theorem closest_cases (target first second : Nat) :
    closest target first second = first ∨ closest target first second = second := by
  unfold closest
  split_ifs
  · exact Or.inl rfl
  · exact Or.inr rfl

theorem dist_closest (target first second : Nat) :
    Nat.dist target (closest target first second) =
      min (Nat.dist target first) (Nat.dist target second) := by
  unfold closest
  split_ifs with nearer
  · exact (Nat.min_eq_left nearer.le).symm
  · exact (Nat.min_eq_right (Nat.le_of_not_lt nearer)).symm

section Near

variable {modulus target value : Nat}

/-- A near number is nearer than every other one with the same low part. -/
theorem Near.dist_lt (near : Near modulus target value) {other : Nat}
    (same : other ≡ value [MOD modulus]) (different : other ≠ value) :
    Nat.dist target value < Nat.dist target other := by
  unfold Near at near
  have apart : modulus ≤ Nat.dist other value := by
    rcases Nat.lt_or_gt_of_ne different with below | above
    · have divides := (Nat.modEq_iff_dvd' below.le).mp same
      have := Nat.le_of_dvd (Nat.sub_pos_of_lt below) divides
      unfold Nat.dist
      omega
    · have divides := (Nat.modEq_iff_dvd' above.le).mp same.symm
      have := Nat.le_of_dvd (Nat.sub_pos_of_lt above) divides
      unfold Nat.dist
      omega
  unfold Nat.dist at near apart ⊢
  omega

theorem Near.closest_left (near : Near modulus target value) {other : Nat}
    (same : other ≡ value [MOD modulus]) : closest target value other = value := by
  by_cases equal : other = value
  · rw [equal]
    exact (closest_cases target value value).elim id id
  · exact if_pos (near.dist_lt same equal)

theorem Near.closest_right (near : Near modulus target value) {other : Nat}
    (same : other ≡ value [MOD modulus]) : closest target other value = value := by
  by_cases equal : other = value
  · rw [equal]
    exact (closest_cases target value value).elim id id
  · exact if_neg (Nat.lt_asymm (near.dist_lt same equal))

end Near

/-! ### Epochs -/

/-- The number out of three epochs that is nearest to the expected one, where numbers are
taken modulo `range`. -/
def nearest (range modulus base target low : Nat) : Nat :=
  let epoch := base / modulus * modulus
  closest target ((epoch + low) % range)
    (closest target ((epoch + range - modulus + low) % range) ((epoch + modulus + low) % range))

section Nearest

variable {range modulus base target value : Nat}

theorem modEq_of_epoch (divides : modulus ∣ range) {epoch : Nat} (whole : modulus ∣ epoch) :
    (epoch + value % modulus) % range ≡ value [MOD modulus] := by
  have reduced : (epoch + value % modulus) % range ≡ epoch + value % modulus [MOD modulus] :=
    Nat.mod_mod_of_dvd _ divides
  have low : epoch + value % modulus ≡ 0 + value [MOD modulus] :=
    (Nat.modEq_zero_iff_dvd.mpr whole).add (Nat.mod_modEq value modulus)
  rw [Nat.zero_add] at low
  exact reduced.trans low

/-- A near number lies in the epoch of the base or beside it. -/
theorem quotient_cases (near : Near modulus target value) (above : base ≤ target)
    (below : target ≤ base / modulus * modulus + modulus) :
    value / modulus = base / modulus ∨ value / modulus + 1 = base / modulus ∨
      value / modulus = base / modulus + 1 := by
  have positive : 0 < modulus := Nat.zero_lt_of_lt near
  have valueSplit := Nat.div_add_mod value modulus
  have baseSplit := Nat.div_add_mod base modulus
  have valueLow := Nat.mod_lt value positive
  have distance : 2 * (target - value) < modulus ∧ 2 * (value - target) < modulus := by
    unfold Near Nat.dist at near
    omega
  rw [Nat.mul_comm] at valueSplit baseSplit
  have notBelow : base / modulus ≤ value / modulus + 1 := by
    by_contra far
    have shifted := Nat.mul_le_mul_right modulus (by omega : value / modulus + 2 ≤ base / modulus)
    rw [Nat.add_mul] at shifted
    omega
  have notAbove : value / modulus ≤ base / modulus + 1 := by
    by_contra far
    have shifted := Nat.mul_le_mul_right modulus (by omega : base / modulus + 2 ≤ value / modulus)
    rw [Nat.add_mul] at shifted
    omega
  omega

/-- A number near the expected one is found by its low part. -/
theorem nearest_eq (divides : modulus ∣ range) (near : Near modulus target value)
    (above : base ≤ target) (below : target ≤ base / modulus * modulus + modulus)
    (inRange : value < range) (someEpochs : modulus ≤ range) :
    nearest range modulus base target (value % modulus) = value := by
  have whole : modulus ∣ base / modulus * modulus := Nat.dvd_mul_left _ _
  have own : (base / modulus * modulus + value % modulus) % range ≡ value [MOD modulus] :=
    modEq_of_epoch divides whole
  have later : (base / modulus * modulus + modulus + value % modulus) % range ≡
      value [MOD modulus] := modEq_of_epoch divides (Nat.dvd_add whole (Nat.dvd_refl modulus))
  have earlier : (base / modulus * modulus + range - modulus + value % modulus) % range ≡
      value [MOD modulus] := by
    apply modEq_of_epoch divides
    exact Nat.dvd_sub (Nat.dvd_add whole divides) (Nat.dvd_refl modulus)
  have split := Nat.div_add_mod' value modulus
  unfold nearest
  dsimp only
  rcases quotient_cases near above below with same | before | behind
  · have found : (base / modulus * modulus + value % modulus) % range = value := by
      rw [← same, split, Nat.mod_eq_of_lt inRange]
    rw [found]
    apply near.closest_left
    rcases closest_cases target
      ((base / modulus * modulus + range - modulus + value % modulus) % range)
      ((base / modulus * modulus + modulus + value % modulus) % range) with chosen | chosen
    · rw [chosen]
      exact earlier
    · rw [chosen]
      exact later
  · have shifted : base / modulus * modulus = value / modulus * modulus + modulus := by
      rw [← before, Nat.succ_mul]
    have found : (base / modulus * modulus + range - modulus + value % modulus) % range =
        value := by
      have whole : base / modulus * modulus + range - modulus + value % modulus =
          value + range := by omega
      rw [whole, Nat.add_mod_right, Nat.mod_eq_of_lt inRange]
    rw [found, near.closest_left later]
    exact near.closest_right own
  · have shifted : value / modulus * modulus = base / modulus * modulus + modulus := by
      rw [behind, Nat.succ_mul]
    have found : (base / modulus * modulus + modulus + value % modulus) % range = value := by
      have whole : base / modulus * modulus + modulus + value % modulus = value := by omega
      rw [whole, Nat.mod_eq_of_lt inRange]
    rw [found, near.closest_right earlier]
    exact near.closest_right own

/-- What is found lies within half an epoch of the expected number. -/
theorem dist_nearest_le {low : Nat} (short : low < modulus) (above : base ≤ target)
    (below : target ≤ base / modulus * modulus + modulus) (lowest : modulus ≤ base)
    (highest : base + 2 * modulus ≤ range) :
    2 * Nat.dist target (nearest range modulus base target low) ≤ modulus := by
  have positive : 0 < modulus := Nat.zero_lt_of_lt short
  have epochBelow : base / modulus * modulus ≤ base := Nat.div_mul_le_self base modulus
  have epochPositive : modulus ≤ base / modulus * modulus := by
    have some : 1 ≤ base / modulus := (Nat.one_le_div_iff positive).mpr lowest
    exact Nat.le_mul_of_pos_left modulus some
  have own : (base / modulus * modulus + low) % range = base / modulus * modulus + low :=
    Nat.mod_eq_of_lt (by omega)
  have later : (base / modulus * modulus + modulus + low) % range =
      base / modulus * modulus + modulus + low := Nat.mod_eq_of_lt (by omega)
  have earlier : (base / modulus * modulus + range - modulus + low) % range =
      base / modulus * modulus - modulus + low := by
    have whole : base / modulus * modulus + range - modulus + low =
        base / modulus * modulus - modulus + low + range := by omega
    rw [whole, Nat.add_mod_right, Nat.mod_eq_of_lt (by omega)]
  unfold nearest
  dsimp only
  rw [dist_closest, dist_closest, own, later, earlier]
  unfold Nat.dist
  omega

end Nearest

/-- A mask without its lowest bits takes the epoch out of a number. -/
theorem and_mask_eq {width bits value : Nat} (narrow : value < 2 ^ width) (few : bits ≤ width) :
    value &&& (2 ^ width - 1 - (2 ^ bits - 1)) = value / 2 ^ bits * 2 ^ bits := by
  have mask : 2 ^ width - 1 - (2 ^ bits - 1) = (2 ^ (width - bits) - 1) * 2 ^ bits := by
    have positive : 0 < 2 ^ bits := Nat.two_pow_pos bits
    rw [Nat.sub_mul, ← Nat.pow_add, Nat.sub_add_cancel few, Nat.one_mul]
    omega
  apply Nat.eq_of_testBit_eq
  intro i
  rw [mask, Nat.testBit_and, Nat.testBit_mul_two_pow, Nat.testBit_mul_two_pow,
    Nat.testBit_two_pow_sub_one, Nat.testBit_div_two_pow]
  by_cases low : bits ≤ i
  · rw [Nat.sub_add_cancel low]
    by_cases high : i < width
    · simp [low]
      omega
    · have none : value.testBit i = false :=
        Nat.testBit_lt_two_pow (narrow.trans_le (Nat.pow_le_pow_right (by decide) (by omega)))
      simp [none]
  · simp [low]

end StupidSimple.Library.Epoch
