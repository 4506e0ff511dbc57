import StupidSimple.Library.BigEndian

/-!
Owns integers of variable length: a number below `2 ^ 62` takes one, two, four or eight
bytes in big-endian order, and the two highest bits of the first byte tell how many. Reading
undoes writing, whatever follows.
-/

namespace StupidSimple.Library.VarInt

/-- The numbers of `2 ^ scale` bytes, two bits of which are taken, are below this. -/
def limit (scale : Nat) : Nat := 64 * 256 ^ (2 ^ scale - 1)

/-- The least scale whose bytes hold the number. -/
def scale (value : Nat) : Nat :=
  if value < limit 0 then 0 else if value < limit 1 then 1 else if value < limit 2 then 2 else 3

/-- The number behind its scale. -/
def tagged (value : Nat) : Nat := scale value * limit (scale value) + value

def encode (value : Nat) : Option (List UInt8) :=
  if value < limit 3 then some (BigEndian.encode (2 ^ scale value) (tagged value)) else none

def decode (bytes : List UInt8) : Option (Nat × List UInt8) :=
  let scale := (bytes.headD 0).toNat / 64
  if 2 ^ scale ≤ bytes.length then
    some (BigEndian.decode (bytes.take (2 ^ scale)) % limit scale, bytes.drop (2 ^ scale))
  else none

theorem limit_three : limit 3 = 2 ^ 62 := by decide

theorem limit_pos (scale : Nat) : 0 < limit scale :=
  Nat.mul_pos (by decide) (Nat.pow_pos (by decide))

/-- Two bits are left for the scale. -/
theorem four_mul_limit (scale : Nat) : 4 * limit scale = 256 ^ 2 ^ scale := by
  have positive : 0 < 2 ^ scale := Nat.two_pow_pos scale
  calc
    4 * limit scale = 256 ^ (2 ^ scale - 1) * 256 := by unfold limit; ring
    _ = 256 ^ (2 ^ scale - 1 + 1) := (pow_succ _ _).symm
    _ = 256 ^ 2 ^ scale := by rw [Nat.sub_add_cancel positive]

theorem scale_le_three (value : Nat) : scale value ≤ 3 := by
  unfold scale
  split_ifs <;> decide

section Tagged

variable {value : Nat} (narrow : value < limit 3)

include narrow

theorem lt_limit_scale : value < limit (scale value) := by
  unfold scale
  split_ifs <;> assumption

theorem tagged_div : tagged value / limit (scale value) = scale value := by
  rw [tagged, Nat.add_comm, Nat.add_mul_div_right _ _ (limit_pos _),
    Nat.div_eq_of_lt (lt_limit_scale narrow), Nat.zero_add]

theorem tagged_mod : tagged value % limit (scale value) = value := by
  rw [tagged, Nat.add_comm, Nat.add_mul_mod_self_right, Nat.mod_eq_of_lt (lt_limit_scale narrow)]

theorem tagged_lt : tagged value < 256 ^ 2 ^ scale value := by
  have few : scale value + 1 ≤ 4 := Nat.succ_le_succ (scale_le_three value)
  rw [← four_mul_limit]
  calc
    tagged value < scale value * limit (scale value) + limit (scale value) :=
      Nat.add_lt_add_left (lt_limit_scale narrow) _
    _ = (scale value + 1) * limit (scale value) := by ring
    _ ≤ 4 * limit (scale value) := Nat.mul_le_mul_right _ few

/-- The first byte tells the scale. -/
theorem scale_of_first (rest : List UInt8) :
    ((BigEndian.encode (2 ^ scale value) (tagged value) ++ rest).headD 0).toNat / 64 =
      scale value := by
  obtain ⟨width, split⟩ := Nat.exists_eq_succ_of_ne_zero (Nat.two_pow_pos (scale value)).ne'
  have below : 2 ^ scale value - 1 = width := by rw [split]; rfl
  have first : (BigEndian.encode (2 ^ scale value) (tagged value) ++ rest).headD 0 =
      UInt8.ofNat (tagged value / 256 ^ width) := by
    rw [split]
    rfl
  have isByte : tagged value / 256 ^ width < 256 := by
    rw [Nat.div_lt_iff_lt_mul (Nat.pow_pos (by decide)), ← pow_succ', ← Nat.succ_eq_add_one,
      ← split]
    exact tagged_lt narrow
  rw [first, UInt8.toNat_ofNat', Nat.mod_eq_of_lt isByte, Nat.div_div_eq_div_mul, Nat.mul_comm,
    ← below]
  exact tagged_div narrow

end Tagged

/-- What is written can be read, and what follows is left. -/
theorem decode_encode {value : Nat} {bytes : List UInt8} (written : encode value = some bytes)
    (rest : List UInt8) : decode (bytes ++ rest) = some (value, rest) := by
  unfold encode at written
  split_ifs at written with narrow
  obtain rfl := Option.some.inj written
  have length : (BigEndian.encode (2 ^ scale value) (tagged value)).length = 2 ^ scale value :=
    BigEndian.length_encode _ _
  have enough : 2 ^ scale value ≤
      (BigEndian.encode (2 ^ scale value) (tagged value) ++ rest).length := by
    rw [List.length_append, length]
    exact Nat.le_add_right _ _
  unfold decode
  simp only [scale_of_first narrow]
  rw [if_pos enough, List.take_left' length, List.drop_left' length,
    BigEndian.decode_encode_of_lt (tagged_lt narrow), tagged_mod narrow]

theorem exists_encode {value : Nat} (narrow : value < 2 ^ 62) :
    ∃ bytes, encode value = some bytes := by
  rw [← limit_three] at narrow
  exact ⟨_, if_pos narrow⟩

end StupidSimple.Library.VarInt
