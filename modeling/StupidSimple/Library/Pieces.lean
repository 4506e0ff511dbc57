import Mathlib.Algebra.BigOperators.Group.List.Basic
import Mathlib.Algebra.Group.Action.Defs
import Mathlib.Algebra.GroupWithZero.Nat
import Mathlib.Algebra.Order.BigOperators.Group.List
import Mathlib.Algebra.Order.Group.Nat
import Mathlib.Tactic.SplitIfs

/-!
Owns the division of a length into pieces of bounded size: as many full pieces as fit,
then the rest. `pieces` loses nothing, has no empty piece, and no division has fewer
pieces. `cut` takes a list apart along such sizes.
-/

namespace StupidSimple.Library

/-- Full pieces of `bound`, and what remains. -/
def pieces (bound size : Nat) : List Nat :=
  if size ≤ bound then [size]
  else
    List.replicate (size / bound) bound ++ if 0 < size % bound then [size % bound] else []

section Pieces

variable {bound size : Nat}

theorem sum_pieces (bound size : Nat) : (pieces bound size).sum = size := by
  have whole := Nat.div_add_mod size bound
  rw [Nat.mul_comm] at whole
  unfold pieces
  split_ifs with small remains
  · exact List.sum_singleton
  · rw [List.sum_append, List.sum_replicate, List.sum_singleton, smul_eq_mul, whole]
  · rw [List.append_nil, List.sum_replicate, smul_eq_mul]
    omega

theorem mem_pieces (filled : 0 < size) (positive : 0 < bound) {piece : Nat}
    (member : piece ∈ pieces bound size) : 0 < piece ∧ piece ≤ bound := by
  have remainder := Nat.mod_lt size positive
  unfold pieces at member
  split_ifs at member with small remains
  · rw [List.mem_singleton.mp member]
    exact ⟨filled, small⟩
  · rcases List.mem_append.mp member with full | rest
    · rw [List.eq_of_mem_replicate full]
      exact ⟨positive, Nat.le_refl _⟩
    · rw [List.mem_singleton.mp rest]
      exact ⟨remains, Nat.le_of_lt remainder⟩
  · rw [List.append_nil] at member
    rw [List.eq_of_mem_replicate member]
    exact ⟨positive, Nat.le_refl _⟩

theorem length_pieces (filled : 0 < size) (positive : 0 < bound) :
    (pieces bound size).length = (size + bound - 1) / bound := by
  have whole := Nat.div_add_mod size bound
  have remainder := Nat.mod_lt size positive
  have quotient (count rest : Nat) (split : size + bound - 1 = bound * count + rest)
      (below : rest < bound) : (size + bound - 1) / bound = count := by
    rw [split, Nat.mul_add_div positive, Nat.div_eq_of_lt below, Nat.add_zero]
  unfold pieces
  split_ifs with small remains
  · exact (quotient 1 (size - 1) (by omega) (by omega)).symm
  · rw [List.length_append, List.length_replicate, List.length_singleton]
    refine (quotient _ (size % bound - 1) ?_ (by omega)).symm
    rw [Nat.mul_add, Nat.mul_one]
    omega
  · rw [List.append_nil, List.length_replicate]
    exact (quotient _ (bound - 1) (by omega) (by omega)).symm

/-- No division into pieces of this size has fewer. -/
theorem length_pieces_le (filled : 0 < size) (positive : 0 < bound) {division : List Nat}
    (small : ∀ piece ∈ division, piece ≤ bound) (sum : division.sum = size) :
    (pieces bound size).length ≤ division.length := by
  have most := List.sum_le_card_nsmul division bound small
  rw [sum, smul_eq_mul] at most
  rw [length_pieces filled positive, ← Nat.lt_succ_iff, Nat.div_lt_iff_lt_mul positive,
    Nat.succ_mul]
  omega

end Pieces

section Cut

variable {α : Type}

/-- Take a list apart along these sizes. -/
def cut : List Nat → List α → List (List α)
  | [], _ => []
  | size :: rest, items => items.take size :: cut rest (items.drop size)

theorem flatten_cut (sizes : List Nat) (items : List α) :
    (cut sizes items).flatten = items.take sizes.sum := by
  induction sizes generalizing items with
  | nil => rfl
  | cons size rest inductionHypothesis =>
      rw [cut, List.flatten_cons, inductionHypothesis, List.sum_cons, List.take_add]

theorem map_length_cut {sizes : List Nat} {items : List α} (enough : sizes.sum ≤ items.length) :
    (cut sizes items).map List.length = sizes := by
  induction sizes generalizing items with
  | nil => rfl
  | cons size rest inductionHypothesis =>
      rw [List.sum_cons] at enough
      have behind : rest.sum ≤ (items.drop size).length := by
        rw [List.length_drop]
        omega
      rw [cut, List.map_cons, inductionHypothesis behind, List.length_take_of_le (by omega)]

end Cut

end StupidSimple.Library
