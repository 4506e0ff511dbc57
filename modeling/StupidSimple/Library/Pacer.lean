import Mathlib.Algebra.Order.Group.Defs
import Mathlib.Algebra.BigOperators.Group.List.Basic
import StupidSimple.Library.Machine

/-!
Owns pacers: departures that cost time, and an ideal time that each departure moves
on by its cost. A departure may be early by some slack.

`Paced.conforms` bounds the cost of every window of departures by its duration and
one slack; the slack does not add up.
-/

namespace StupidSimple.Library

/-- A departure at a time, and the time that it costs. -/
structure Departure (T : Type*) where
  time : T
  cost : T
deriving DecidableEq, Repr

def totalCost {T : Type*} [AddMonoid T] (departures : List (Departure T)) : T :=
  (departures.map Departure.cost).sum

theorem totalCost_snoc {T : Type*} [AddMonoid T] (departures : List (Departure T))
    (departure : Departure T) :
    totalCost (departures ++ [departure]) = totalCost departures + departure.cost := by
  simp [totalCost]

section Pacer

variable {T : Type*} [AddCommGroup T] [LinearOrder T]

/-- The ideal time of the next departure. -/
def idealAfter (ideal : T) (departure : Departure T) : T :=
  max (ideal + departure.cost) (departure.time + departure.cost)

/-- Departures that are not too early, oldest first, and the ideal time behind them. -/
inductive Paced (slack start : T) : List (Departure T) → T → Prop where
  | nil : Paced slack start [] start
  | snoc {departures : List (Departure T)} {ideal : T} {departure : Departure T}
      (before : Paced slack start departures ideal)
      (admitted : ideal ≤ departure.time + slack) :
      Paced slack start (departures ++ [departure]) (idealAfter ideal departure)

variable [IsOrderedAddMonoid T]

theorem le_idealAfter {departure : Departure T} (ideal : T) (nonneg : 0 ≤ departure.cost) :
    ideal ≤ idealAfter ideal departure :=
  (le_add_of_nonneg_right nonneg).trans (le_max_left _ _)

variable {slack start ideal : T} {departures : List (Departure T)}

/-- The ideal time is behind every departure and the costs since then. -/
theorem Paced.covered (paced : Paced slack start departures ideal) :
    ∀ {before : List (Departure T)} {first : Departure T} {rest : List (Departure T)},
      departures = before ++ first :: rest → first.time + totalCost (first :: rest) ≤ ideal := by
  induction paced with
  | nil =>
      intro before first rest split
      simp at split
  | @snoc departures ideal departure earlier admitted inductionHypothesis =>
      intro before first rest split
      cases split_snoc split with
      | inl last =>
          have ⟨alone, _, same⟩ := last
          rw [alone, same, totalCost, List.map_singleton, List.sum_singleton]
          exact le_max_right _ _
      | inr older =>
          have ⟨kept, splitKept⟩ := older
          rw [splitKept, List.append_assoc, List.cons_append] at split
          have sameRest : rest = kept ++ [departure] :=
            ((List.cons.inj (List.append_cancel_left split)).2).symm
          have covered := inductionHypothesis splitKept
          calc
            first.time + totalCost (first :: rest)
                = first.time + totalCost (first :: kept) + departure.cost := by
                  rw [sameRest, ← List.cons_append, totalCost_snoc, add_assoc]
            _ ≤ ideal + departure.cost := add_le_add_left covered _
            _ ≤ idealAfter ideal departure := le_max_left _ _

/-- What departs before the last of a window costs no more than the window lasts,
and one slack. -/
theorem Paced.conforms (paced : Paced slack start departures ideal) :
    ∀ {before : List (Departure T)} {first : Departure T} {middle : List (Departure T)}
      {last : Departure T} {after : List (Departure T)},
      departures = before ++ first :: (middle ++ last :: after) →
        totalCost (first :: middle) ≤ last.time - first.time + slack := by
  induction paced with
  | nil =>
      intro before first middle last after split
      simp at split
  | @snoc departures ideal departure earlier admitted inductionHypothesis =>
      intro before first middle last after split
      have regrouped : departures ++ [departure] = (before ++ first :: middle) ++ last :: after := by
        rw [split, List.append_assoc, List.cons_append]
      cases split_snoc regrouped with
      | inl newest =>
          have ⟨_, same, sameLast⟩ := newest
          have covered := earlier.covered same.symm
          rw [sameLast, sub_add_eq_add_sub, le_sub_iff_add_le, add_comm]
          exact covered.trans admitted
      | inr older =>
          have ⟨kept, splitKept⟩ := older
          rw [List.append_assoc, List.cons_append] at splitKept
          exact inductionHypothesis splitKept

end Pacer

end StupidSimple.Library
