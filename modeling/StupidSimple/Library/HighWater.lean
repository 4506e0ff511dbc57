import Mathlib.Data.List.Nodup
import Mathlib.Data.Nat.Basic
import Mathlib.Order.MinMax
import StupidSimple.Library.Machine

/-!
Owns the account of gaps by a high-water mark: a number that arrives beyond the mark
raises it, and the numbers it skips are reported.

`mem_losses` says what is reported in terms of the arrivals alone, `losses_perm` that
what is reported and what raised the mark fill the numbers up to it. `Follows` is a
machine with such a mark, and `Follows.run` its runs.
-/

namespace StupidSimple.Library.HighWater

/-! ### The account -/

def highest (arrivals : List Nat) : Nat := arrivals.foldl max 0

/-- The numbers between the mark and a number that arrives. -/
def skipped (mark seq : Nat) : List Nat := List.range' (mark + 1) (seq - (mark + 1))

/-- What is reported of arrivals, oldest first. -/
def losses (arrivals : List Nat) : List Nat :=
  collect (fun past seq => skipped (highest past) seq) arrivals

/-- The arrivals that raise the mark. -/
def advancing (arrivals : List Nat) : List Nat :=
  collect (fun past seq => if highest past < seq then [seq] else []) arrivals

/-- The number had not arrived when a larger one first did. -/
def Overtaken (arrivals : List Nat) (number : Nat) : Prop :=
  ∃ before larger after, arrivals = before ++ larger :: after ∧ number < larger ∧
    (∀ earlier ∈ before, ¬number < earlier) ∧ number ∉ before

/-- What an account of gaps is to say: the mark is the largest number, every number
that was overtaken is reported once, and with the arrivals that raised the mark the
reports fill the numbers up to it. -/
structure Accounts (arrivals reported advancing : List Nat) (mark : Nat) : Prop where
  mark_eq : mark = highest arrivals
  nodup : reported.Nodup
  mem_iff : ∀ number, number ∈ reported ↔
    (1 ≤ number ∧ number ≤ highest arrivals) ∧ Overtaken arrivals number
  fills : (reported ++ advancing).Perm (List.range' 1 mark)

variable {arrivals : List Nat} {mark number seq : Nat}

theorem mem_skipped : number ∈ skipped mark seq ↔ mark < number ∧ number < seq := by
  rw [skipped, List.mem_range'_1]
  omega

theorem highest_snoc : highest (arrivals ++ [seq]) = max (highest arrivals) seq := by
  rw [highest, List.foldl_append]
  rfl

theorem losses_snoc :
    losses (arrivals ++ [seq]) = losses arrivals ++ skipped (highest arrivals) seq :=
  collect_snoc _ _ _

theorem advancing_snoc : advancing (arrivals ++ [seq]) =
    advancing arrivals ++ if highest arrivals < seq then [seq] else [] :=
  collect_snoc _ _ _

theorem highest_lt_iff (positive : 0 < number) :
    highest arrivals < number ↔ ∀ earlier ∈ arrivals, earlier < number := by
  induction arrivals using List.reverseRecOn with
  | nil => simpa [highest] using positive
  | append_singleton arrivals last inductionHypothesis =>
      rw [highest_snoc, max_lt_iff, inductionHypothesis, List.forall_mem_append,
        List.forall_mem_singleton]

theorem le_highest (member : number ∈ arrivals) : number ≤ highest arrivals := by
  by_contra beyond
  have below := (highest_lt_iff (by omega)).mp (Nat.lt_of_not_le beyond) number member
  exact absurd below (Nat.lt_irrefl number)

/-- The numbers that the last arrival overtakes are those it skips. -/
theorem overtaken_snoc (positive : 0 < number) :
    Overtaken (arrivals ++ [seq]) number ↔
      Overtaken arrivals number ∨ highest arrivals < number ∧ number < seq := by
  constructor
  · rintro ⟨before, larger, after, split, below, first, absent⟩
    cases split_snoc split with
    | inl here =>
        have ⟨_, samePast, sameSeq⟩ := here
        refine Or.inr ⟨(highest_lt_iff positive).mpr ?_, sameSeq ▸ below⟩
        rw [← samePast]
        intro earlier member
        have : earlier ≠ number := by
          rintro rfl
          exact absent member
        have := first earlier member
        omega
    | inr behind =>
        have ⟨rest, sameArrivals⟩ := behind
        exact Or.inl ⟨before, larger, rest, sameArrivals, below, first, absent⟩
  · rintro (⟨before, larger, after, split, below, rest⟩ | ⟨beyond, below⟩)
    · exact ⟨before, larger, after ++ [seq], by simp [split], below, rest⟩
    · have all := (highest_lt_iff positive).mp beyond
      refine ⟨arrivals, seq, [], rfl, below, ?_, ?_⟩
      · intro earlier member
        have := all earlier member
        omega
      · intro member
        exact absurd (all number member) (Nat.lt_irrefl number)

theorem mem_losses : number ∈ losses arrivals ↔ 0 < number ∧ Overtaken arrivals number := by
  induction arrivals using List.reverseRecOn with
  | nil =>
      constructor
      · intro member
        cases member
      · rintro ⟨-, before, larger, after, split, -⟩
        simp at split
  | append_singleton arrivals last inductionHypothesis =>
      rw [losses_snoc, List.mem_append, inductionHypothesis, mem_skipped]
      constructor
      · rintro (⟨positive, overtaken⟩ | skip)
        · exact ⟨positive, (overtaken_snoc positive).mpr (Or.inl overtaken)⟩
        · have positive : 0 < number := by omega
          exact ⟨positive, (overtaken_snoc positive).mpr (Or.inr skip)⟩
      · rintro ⟨positive, overtaken⟩
        exact ((overtaken_snoc positive).mp overtaken).imp (And.intro positive) id

theorem Overtaken.lt_highest (overtaken : Overtaken arrivals number) :
    number < highest arrivals := by
  obtain ⟨before, larger, after, split, below, -⟩ := overtaken
  have member : larger ∈ arrivals := by simp [split]
  exact below.trans_le (le_highest member)

/-- The numbers up to an arrival beyond the mark. -/
theorem range'_eq_skipped (beyond : mark < seq) :
    List.range' 1 seq = List.range' 1 mark ++ (skipped mark seq ++ [seq]) := by
  have last : skipped mark seq ++ [seq] = List.range' (mark + 1) (seq - mark) := by
    have length : seq - mark = seq - (mark + 1) + 1 := by omega
    have final : mark + 1 + (seq - (mark + 1)) = seq := by omega
    rw [length, List.range'_concat, Nat.one_mul, final, skipped]
  have length : seq = mark + (seq - mark) := by omega
  rw [last, Nat.add_comm mark 1]
  conv_lhs => rw [length]
  exact List.range'_append_1.symm

theorem losses_perm :
    (losses arrivals ++ advancing arrivals).Perm (List.range' 1 (highest arrivals)) := by
  induction arrivals using List.reverseRecOn with
  | nil => exact List.Perm.refl _
  | append_singleton arrivals last inductionHypothesis =>
      rw [losses_snoc, advancing_snoc, highest_snoc]
      by_cases beyond : highest arrivals < last
      · rw [if_pos beyond, max_eq_right beyond.le, range'_eq_skipped beyond]
        calc losses arrivals ++ skipped (highest arrivals) last ++ (advancing arrivals ++ [last])
            = losses arrivals ++ (skipped (highest arrivals) last ++ advancing arrivals) ++
                [last] := by simp
          _ |>.Perm (losses arrivals ++ (advancing arrivals ++ skipped (highest arrivals) last) ++
                [last]) := (List.perm_append_comm.append_left _).append_right _
          _ = losses arrivals ++ advancing arrivals ++
                (skipped (highest arrivals) last ++ [last]) := by simp
          _ |>.Perm _ := inductionHypothesis.append_right _
      · have none : skipped (highest arrivals) last = [] := by
          rw [skipped, Nat.sub_eq_zero_of_le (by omega)]
          rfl
        rw [if_neg beyond, max_eq_left (by omega), none, List.append_nil, List.append_nil]
        exact inductionHypothesis

theorem accounts (arrivals : List Nat) :
    Accounts arrivals (losses arrivals) (advancing arrivals) (highest arrivals) where
  mark_eq := rfl
  nodup := by
    have all : (losses arrivals ++ advancing arrivals).Nodup :=
      losses_perm.nodup_iff.mpr (List.nodup_range' 1)
    exact all.of_append_left
  mem_iff number := by
    rw [mem_losses]
    constructor
    · rintro ⟨positive, overtaken⟩
      exact ⟨⟨positive, overtaken.lt_highest.le⟩, overtaken⟩
    · rintro ⟨⟨positive, -⟩, overtaken⟩
      exact ⟨positive, overtaken⟩
  fills := losses_perm

/-! ### Machines -/

section Follows

variable {State Event Item : Type*}

/-- A machine with a mark: what an event carries may be a number, and what is yielded
may report one. -/
structure Follows (machine : Machine State Event (List Item)) (mark : State → Nat)
    (number : Event → Option Nat) (report : Item → Option Nat) : Prop where
  silent : ∀ {state after event items}, machine.step state event = some (after, items) →
    number event = none → mark after = mark state ∧ items.filterMap report = []
  arrival : ∀ {state after event items seq}, machine.step state event = some (after, items) →
    number event = some seq → mark after = max (mark state) seq ∧
      items.filterMap report = skipped (mark state) seq

/-- A machine whose steps are all defined. -/
theorem Follows.of_total {machine : Machine State Event (List Item)} {mark : State → Nat}
    {number : Event → Option Nat} {report : Item → Option Nat}
    {next : State → Event → State × List Item}
    (total : ∀ state event, machine.step state event = some (next state event))
    (silent : ∀ state event, number event = none →
      mark (next state event).1 = mark state ∧ (next state event).2.filterMap report = [])
    (arrival : ∀ state event seq, number event = some seq →
      mark (next state event).1 = max (mark state) seq ∧
        (next state event).2.filterMap report = skipped (mark state) seq) :
    Follows machine mark number report where
  silent := by
    intro state after event items stepped carried
    rw [total] at stepped
    have spec := silent state event carried
    rwa [Option.some.inj stepped] at spec
  arrival := by
    intro state after event items seq stepped carried
    rw [total] at stepped
    have spec := arrival state event seq carried
    rwa [Option.some.inj stepped] at spec

/-- The numbers that arrive in a run. -/
def arrived (number : Event → Option Nat) (history : List (Event × List Item)) : List Nat :=
  (history.map Prod.fst).filterMap number

/-- The numbers that a run reports. -/
def reported (report : Item → Option Nat) (history : List (Event × List Item)) : List Nat :=
  (history.flatMap Prod.snd).filterMap report

/-- The numbers whose arrival raises the mark. -/
def advanced (machine : Machine State Event (List Item)) (start : State) (mark : State → Nat)
    (number : Event → Option Nat) (history : List (Event × List Item)) : List Nat :=
  (machine.transitions start (history.map Prod.fst)).filterMap fun transition =>
    if mark transition.before < mark transition.after then number transition.event else none

variable {machine : Machine State Event (List Item)} {mark : State → Nat}
  {number : Event → Option Nat} {report : Item → Option Nat} {start final : State}
  {history : List (Event × List Item)}

theorem arrived_snoc (event : Event) (items : List Item) :
    arrived number (history ++ [(event, items)]) =
      arrived number history ++ (number event).toList := by
  rw [arrived, List.map_append, List.filterMap_append, List.map_singleton, arrived]
  cases carried : number event with
  | none => rw [List.filterMap_cons_none carried, List.filterMap_nil, Option.toList_none]
  | some seq => rw [List.filterMap_cons_some carried, List.filterMap_nil, Option.toList_some]

theorem reported_snoc (event : Event) (items : List Item) :
    reported report (history ++ [(event, items)]) =
      reported report history ++ items.filterMap report := by
  rw [reported, List.flatMap_append, List.flatMap_singleton, List.filterMap_append, reported]

theorem advanced_snoc {middle after : State} {event : Event} {items : List Item}
    (run : machine.Run start history middle)
    (stepped : machine.step middle event = some (after, items)) :
    advanced machine start mark number (history ++ [(event, items)]) =
      advanced machine start mark number history ++
        if mark middle < mark after then (number event).toList else [] := by
  rw [advanced, List.map_append, List.map_singleton, run.transitions_snoc stepped,
    List.filterMap_append, advanced]
  by_cases raised : mark middle < mark after
  · cases carried : number event <;> simp [raised, carried]
  · simp [raised]

theorem Follows.run (follows : Follows machine mark number report)
    (run : machine.Run start history final) (fresh : mark start = 0) :
    mark final = highest (arrived number history) ∧
      reported report history = losses (arrived number history) ∧
      advanced machine start mark number history = advancing (arrived number history) := by
  induction run with
  | nil => exact ⟨fresh, rfl, rfl⟩
  | @snoc history state after event items before stepped inductionHypothesis =>
      obtain ⟨marked, told, raises⟩ := inductionHypothesis
      rw [arrived_snoc, reported_snoc, advanced_snoc before stepped, told, raises]
      cases carried : number event with
      | none =>
          obtain ⟨kept, unreported⟩ := follows.silent stepped carried
          rw [unreported, kept, if_neg (Nat.lt_irrefl _), Option.toList_none, List.append_nil,
            List.append_nil, List.append_nil]
          exact ⟨marked, rfl, rfl⟩
      | some seq =>
          obtain ⟨raised, skips⟩ := follows.arrival stepped carried
          rw [Option.toList_some, losses_snoc, advancing_snoc, highest_snoc, skips, raised, marked]
          have beyond_iff : highest (arrived number history) <
              max (highest (arrived number history)) seq ↔
                highest (arrived number history) < seq := by
            rw [lt_max_iff, or_iff_right (Nat.lt_irrefl _)]
          exact ⟨rfl, rfl, by rw [if_congr beyond_iff rfl rfl]⟩

/-- The reports of a run are an account of what has arrived. -/
theorem Follows.accounts (follows : Follows machine mark number report)
    (run : machine.Run start history final) (fresh : mark start = 0) :
    Accounts (arrived number history) (reported report history)
      (advanced machine start mark number history) (mark final) := by
  obtain ⟨marked, told, raises⟩ := follows.run run fresh
  rw [marked, told, raises]
  exact HighWater.accounts _

/-- The mark stays below a bound of the numbers. -/
theorem Follows.mark_lt (follows : Follows machine mark number report)
    (run : machine.Run start history final) (fresh : mark start = 0) {bound : Nat}
    (positive : 0 < bound) (bounded : ∀ event seq, number event = some seq → seq < bound) :
    mark final < bound := by
  rw [(follows.accounts run fresh).mark_eq, highest_lt_iff positive]
  intro seq member
  obtain ⟨event, -, carried⟩ := List.mem_filterMap.mp member
  exact bounded event seq carried

end Follows

end StupidSimple.Library.HighWater
