import Mathlib.Data.List.Induction

/-!
Owns partial deterministic machines: a step consumes one event, yields one
output, and may be undefined. A run records its history of events and outputs.

`Run.invariant` is the induction rule for history invariants, `exists_run`
turns "every admissible event is enabled" into the existence of whole runs, and
`exec` is the executable run, equal to the relation by `Run.exec` and `exec_run`.
-/

namespace StupidSimple.Library

/-- A machine whose step on an event is undefined or gives a state and an
output. -/
structure Machine (State Event Output : Type*) where
  step : State → Event → Option (State × Output)

namespace Machine

variable {State Event Output : Type*} (machine : Machine State Event Output)

/-- A run from `start` with its history, oldest entry first. -/
inductive Run (start : State) : List (Event × Output) → State → Prop where
  | nil : Run start [] start
  | snoc {history : List (Event × Output)} {state after : State} {event : Event} {output : Output}
      (before : Run start history state)
      (stepped : machine.step state event = some (after, output)) :
      Run start (history ++ [(event, output)]) after

/-- Execute a list of events. -/
def exec (start : State) : List Event → Option (State × List (Event × Output))
  | [] => some (start, [])
  | event :: rest =>
      match machine.step start event with
      | none => none
      | some (after, output) =>
          (exec after rest).map fun final => (final.1, (event, output) :: final.2)

variable {machine}

theorem Run.cons {start middle final : State} {event : Event} {output : Output}
    {history : List (Event × Output)}
    (stepped : machine.step start event = some (middle, output))
    (rest : machine.Run middle history final) :
    machine.Run start ((event, output) :: history) final := by
  induction rest with
  | nil =>
      have before : machine.Run start [] start := Run.nil
      exact before.snoc stepped
  | snoc _ last inductionHypothesis => exact inductionHypothesis.snoc last

/-- A history splits at any point into two consecutive runs. -/
theorem Run.split {start final : State} {left right : List (Event × Output)}
    (run : machine.Run start (left ++ right) final) :
    ∃ middle, machine.Run start left middle ∧ machine.Run middle right final := by
  generalize split : left ++ right = history at run
  induction run generalizing right with
  | nil =>
      obtain ⟨rfl, rfl⟩ := List.append_eq_nil_iff.mp split
      exact ⟨start, Run.nil, Run.nil⟩
  | @snoc history state after event output before stepped inductionHypothesis =>
      rcases List.eq_nil_or_concat right with rfl | ⟨body, last, rfl⟩
      · rw [List.append_nil] at split
        exact ⟨after, split ▸ before.snoc stepped, Run.nil⟩
      · rw [List.concat_eq_append, ← List.append_assoc] at split
        obtain ⟨rfl, same⟩ := List.append_inj' split rfl
        obtain rfl := List.singleton_inj.mp same
        obtain ⟨middle, first, second⟩ := inductionHypothesis rfl
        exact ⟨middle, first, by simpa using second.snoc stepped⟩

/-- What every step yields holds of all that a run yields. -/
theorem Run.forall_outputs {Item : Type*} {machine : Machine State Event (List Item)}
    {holds : Item → Prop}
    (step : ∀ {state after : State} {event : Event} {items : List Item},
      machine.step state event = some (after, items) → ∀ item ∈ items, holds item)
    {start final : State} {history : List (Event × List Item)}
    (run : machine.Run start history final) : ∀ item ∈ history.flatMap Prod.snd, holds item := by
  induction run with
  | nil => simp
  | snoc before stepped inductionHypothesis =>
      rw [List.flatMap_append, List.flatMap_singleton]
      intro item member
      cases List.mem_append.mp member with
      | inl older => exact inductionHypothesis item older
      | inr new => exact step stepped item new

/-- What a state invariant gives of every step holds of every entry of a run. -/
theorem Run.forall_entries {Invariant : State → Prop} {holds : Event → Output → Prop}
    (step : ∀ {state after : State} {event : Event} {output : Output}, Invariant state →
      machine.step state event = some (after, output) → Invariant after ∧ holds event output)
    {start final : State} {history : List (Event × Output)} (initial : Invariant start)
    (run : machine.Run start history final) :
    Invariant final ∧ ∀ entry ∈ history, holds entry.1 entry.2 := by
  induction run with
  | nil => exact ⟨initial, List.forall_mem_nil _⟩
  | snoc before stepped inductionHypothesis =>
      have ⟨kept, entries⟩ := inductionHypothesis
      have ⟨keptAfter, last⟩ := step kept stepped
      exact ⟨keptAfter, List.forall_mem_append.mpr ⟨entries, List.forall_mem_singleton.mpr last⟩⟩

/-- History invariants: true at the start and kept by every step that extends
an admissible history. Admissibility is a property of event lists that their
prefixes inherit. -/
theorem Run.invariant {start final : State} {history : List (Event × Output)}
    {Admissible : List Event → Prop} {Invariant : List (Event × Output) → State → Prop}
    (run : machine.Run start history final)
    (admissible : Admissible (history.map Prod.fst))
    (restrict : ∀ events event, Admissible (events ++ [event]) → Admissible events)
    (initial : Invariant [] start)
    (preserved : ∀ history state event after output,
      Invariant history state → Admissible (history.map Prod.fst ++ [event]) →
      machine.step state event = some (after, output) →
      Invariant (history ++ [(event, output)]) after) :
    Invariant history final := by
  induction run with
  | nil => exact initial
  | snoc before stepped inductionHypothesis =>
      rw [List.map_append] at admissible
      exact preserved _ _ _ _ _ (inductionHypothesis (restrict _ _ admissible)) admissible stepped

/-- When the invariant enables every admissible event, every admissible event
list has a run. -/
theorem exists_run (machine : Machine State Event Output) {start : State}
    (Admissible : List Event → Prop) (Invariant : List (Event × Output) → State → Prop)
    (restrict : ∀ events event, Admissible (events ++ [event]) → Admissible events)
    (initial : Invariant [] start)
    (enabled : ∀ history state event,
      Invariant history state → Admissible (history.map Prod.fst ++ [event]) →
      ∃ after output, machine.step state event = some (after, output) ∧
        Invariant (history ++ [(event, output)]) after)
    (events : List Event) (admissible : Admissible events) :
    ∃ history final, machine.Run start history final ∧ history.map Prod.fst = events ∧
      Invariant history final := by
  induction events using List.reverseRecOn with
  | nil => exact ⟨[], start, Run.nil, rfl, initial⟩
  | append_singleton events event inductionHypothesis =>
      obtain ⟨history, state, run, sameEvents, holds⟩ :=
        inductionHypothesis (restrict events event admissible)
      obtain ⟨after, output, stepped, holdsAfter⟩ :=
        enabled history state event holds (by rw [sameEvents]; exact admissible)
      exact ⟨history ++ [(event, output)], after, run.snoc stepped, by simp [sameEvents],
        holdsAfter⟩

/-- The execution of one more event. -/
theorem exec_snoc {start middle after : State} {events : List Event}
    {history : List (Event × Output)} {event : Event} {output : Output}
    (executed : machine.exec start events = some (middle, history))
    (stepped : machine.step middle event = some (after, output)) :
    machine.exec start (events ++ [event]) = some (after, history ++ [(event, output)]) := by
  induction events generalizing start history with
  | nil =>
      obtain ⟨rfl, rfl⟩ : start = middle ∧ [] = history := by simpa [exec] using executed
      simp [exec, stepped]
  | cons first rest inductionHypothesis =>
      rw [exec] at executed
      split at executed
      · contradiction
      · next next firstOutput firstStep =>
          obtain ⟨⟨last, tail⟩, executedTail, same⟩ := Option.map_eq_some_iff.mp executed
          obtain ⟨rfl, rfl⟩ : last = middle ∧ (first, firstOutput) :: tail = history := by
            simpa using same
          rw [List.cons_append, exec, firstStep]
          simp only [inductionHypothesis executedTail, Option.map_some, List.cons_append]

theorem Run.exec {start final : State} {history : List (Event × Output)}
    (run : machine.Run start history final) :
    machine.exec start (history.map Prod.fst) = some (final, history) := by
  induction run with
  | nil => rfl
  | snoc _ stepped inductionHypothesis =>
      rw [List.map_append]
      exact exec_snoc inductionHypothesis stepped

theorem exec_run {start final : State} {events : List Event} {history : List (Event × Output)}
    (executed : machine.exec start events = some (final, history)) :
    machine.Run start history final := by
  induction events generalizing start history with
  | nil =>
      obtain ⟨rfl, rfl⟩ : start = final ∧ [] = history := by simpa [exec] using executed
      exact Run.nil
  | cons event rest inductionHypothesis =>
      rw [exec] at executed
      split at executed
      · contradiction
      · next after output stepped =>
          obtain ⟨⟨last, tail⟩, executedTail, same⟩ := Option.map_eq_some_iff.mp executed
          obtain ⟨rfl, rfl⟩ : last = final ∧ (event, output) :: tail = history := by
            simpa using same
          exact Run.cons stepped (inductionHypothesis executedTail)

theorem exec_events {start final : State} {events : List Event}
    {history : List (Event × Output)}
    (executed : machine.exec start events = some (final, history)) :
    history.map Prod.fst = events := by
  induction events generalizing start history with
  | nil =>
      cases executed
      rfl
  | cons event rest inductionHypothesis =>
      rw [exec] at executed
      split at executed
      · contradiction
      · next after output stepped =>
          have ⟨result, executedTail, same⟩ := Option.map_eq_some_iff.mp executed
          cases same
          rw [List.map_cons, inductionHypothesis executedTail]

/-- The execution of two lists of events, one after the other. -/
theorem exec_append (start : State) (left right : List Event) :
    machine.exec start (left ++ right) =
      (machine.exec start left).bind fun middle =>
        (machine.exec middle.1 right).map fun final => (final.1, middle.2 ++ final.2) := by
  induction left generalizing start with
  | nil =>
      rw [List.nil_append, exec, Option.bind_some]
      cases machine.exec start right <;> rfl
  | cons event rest inductionHypothesis =>
      rw [List.cons_append, exec, exec]
      cases machine.step start event with
      | none => rfl
      | some result =>
          simp only [inductionHypothesis, Option.map_bind, Option.bind_map]
          cases machine.exec result.1 rest with
          | none => rfl
          | some middle =>
              simp only [Option.bind_some, Function.comp_apply, Option.map_map]
              rfl

/-- The run of an event list whose execution passes a check. -/
theorem exists_run_of_check (machine : Machine State Event Output) (start : State)
    (events : List Event) (check : State × List (Event × Output) → Bool)
    (checked : (machine.exec start events).any check = true) :
    ∃ history final, machine.Run start history final ∧ history.map Prod.fst = events ∧
      check (final, history) = true := by
  have ⟨result, executed, passed⟩ := (Option.any_eq_true _ _).mp checked
  exact ⟨result.2, result.1, exec_run executed, exec_events executed, passed⟩

end Machine

/-- One transition of an execution. -/
structure Transition (State Event : Type*) where
  before : State
  event : Event
  after : State

namespace Machine

variable {State Event Output : Type*} (machine : Machine State Event Output)

/-- The transitions of the execution of a list of events. -/
def transitions (start : State) : List Event → List (Transition State Event)
  | [] => []
  | event :: rest =>
      match machine.step start event with
      | none => []
      | some (after, _) => ⟨start, event, after⟩ :: transitions after rest

variable {machine}

theorem Run.transitions_snoc {start middle after : State} {history : List (Event × Output)}
    {event : Event} {output : Output} (run : machine.Run start history middle)
    (stepped : machine.step middle event = some (after, output)) :
    machine.transitions start (history.map Prod.fst ++ [event]) =
      machine.transitions start (history.map Prod.fst) ++ [⟨middle, event, after⟩] := by
  have executed := run.exec
  clear run
  induction history generalizing start with
  | nil =>
      obtain rfl : start = middle := by simpa [Machine.exec] using executed
      simp [transitions, stepped]
  | cons first rest inductionHypothesis =>
      rw [List.map_cons, Machine.exec] at executed
      split at executed
      · contradiction
      · next next firstOutput firstStep =>
          rcases Option.map_eq_some_iff.mp executed with ⟨⟨last, tail⟩, executedTail, same⟩
          obtain ⟨rfl, -, rfl⟩ : last = middle ∧ (first.1, firstOutput) = first ∧ tail = rest := by
            simpa using same
          rw [List.map_cons, List.cons_append, transitions, transitions, firstStep]
          simp only [inductionHypothesis executedTail, List.cons_append]

theorem Run.events_transitions {start final : State} {history : List (Event × Output)}
    (run : machine.Run start history final) :
    (machine.transitions start (history.map Prod.fst)).map Transition.event =
      history.map Prod.fst := by
  induction run with
  | nil => rfl
  | snoc before stepped inductionHypothesis =>
      rw [List.map_append, List.map_singleton, before.transitions_snoc stepped, List.map_append,
        inductionHypothesis]
      rfl

/-- Events may be replaced by others that do the same where they stand. -/
theorem Run.replace {start final : State} {history : List (Event × Output)}
    (run : machine.Run start history final) (other : Event → Event)
    (same : ∀ transition ∈ machine.transitions start (history.map Prod.fst),
      machine.step transition.before (other transition.event) =
        machine.step transition.before transition.event) :
    machine.Run start (history.map fun entry => (other entry.1, entry.2)) final := by
  induction run with
  | nil => exact Run.nil
  | snoc before stepped inductionHypothesis =>
      rw [List.map_append, List.map_singleton, before.transitions_snoc stepped,
        List.forall_mem_append, List.forall_mem_singleton] at same
      rw [List.map_append, List.map_singleton]
      exact (inductionHypothesis same.1).snoc (same.2.trans stepped)

/-- The transitions of an event list are those of the run of its longest prefix
on which every step is defined. -/
theorem exists_defined_run (machine : Machine State Event Output) (start : State)
    (events : List Event) :
    ∃ history final, machine.Run start history final ∧ history.map Prod.fst <+: events ∧
      machine.transitions start events = machine.transitions start (history.map Prod.fst) := by
  induction events generalizing start with
  | nil => exact ⟨[], start, Run.nil, List.nil_prefix, rfl⟩
  | cons event rest inductionHypothesis =>
      cases stepped : machine.step start event with
      | none =>
          refine ⟨[], start, Run.nil, List.nil_prefix, ?_⟩
          simp only [transitions, stepped, List.map_nil]
      | some result =>
          rcases result with ⟨after, output⟩
          rcases inductionHypothesis after with ⟨history, final, run, isPrefix, same⟩
          refine ⟨(event, output) :: history, final, run.cons stepped, ?_, ?_⟩
          · rw [List.map_cons]
            exact List.cons_prefix_cons.mpr ⟨rfl, isPrefix⟩
          · rw [List.map_cons, transitions, transitions, stepped]
            simp only [same]

end Machine

/-! ### Histories -/

/-- Where an entry of a history stands once one more entry is there. -/
theorem split_snoc {α : Type*} {history before after : List α} {entry last : α}
    (split : history ++ [last] = before ++ entry :: after) :
    (after = [] ∧ before = history ∧ entry = last) ∨
      ∃ rest, history = before ++ entry :: rest := by
  rcases List.eq_nil_or_concat after with rfl | ⟨rest, final, rfl⟩
  · rcases List.append_inj' split rfl with ⟨sameHistory, sameEntry⟩
    exact Or.inl ⟨rfl, sameHistory.symm, (List.singleton_inj.mp sameEntry).symm⟩
  · rw [List.concat_eq_append, ← List.cons_append, ← List.append_assoc] at split
    exact Or.inr ⟨rest, (List.append_inj' split rfl).1⟩

section Collect

variable {Entry View : Type*}

private def collectFrom (view : List Entry → Entry → List View) :
    List Entry → List Entry → List View
  | _, [] => []
  | past, entry :: rest => view past entry ++ collectFrom view (past ++ [entry]) rest

/-- What `view` shows of each entry of a history, given the entries before it. -/
def collect (view : List Entry → Entry → List View) (history : List Entry) : List View :=
  collectFrom view [] history

@[simp] theorem collect_nil (view : List Entry → Entry → List View) : collect view [] = [] := rfl

theorem collect_snoc (view : List Entry → Entry → List View) (history : List Entry)
    (entry : Entry) :
    collect view (history ++ [entry]) = collect view history ++ view history entry := by
  have general : ∀ past, collectFrom view past (history ++ [entry]) =
      collectFrom view past history ++ view (past ++ history) entry := by
    induction history with
    | nil =>
        intro past
        simp [collectFrom]
    | cons first rest inductionHypothesis =>
        intro past
        rw [List.cons_append, collectFrom, inductionHypothesis, collectFrom]
        simp
  exact general []

end Collect

section Throughout

variable {α : Type*} {holds : List α → α → Prop} {trail : List α} {now : α}

/-- Every entry of a list has the property, given the entries before it. -/
def Throughout (holds : List α → α → Prop) (trail : List α) : Prop :=
  ∀ past now rest, trail = past ++ now :: rest → holds past now

theorem throughout_nil : Throughout holds [] := by
  intro past now rest split
  exact absurd split.symm (List.append_ne_nil_of_right_ne_nil past (List.cons_ne_nil now rest))

theorem throughout_snoc :
    Throughout holds (trail ++ [now]) ↔ Throughout holds trail ∧ holds trail now := by
  constructor
  · intro all
    refine ⟨?_, all trail now [] rfl⟩
    intro past entry rest split
    exact all past entry (rest ++ [now]) (by simp [split])
  · intro ⟨earlier, last⟩ past entry rest split
    cases split_snoc split with
    | inl here =>
        have ⟨_, samePast, sameEntry⟩ := here
        rw [samePast, sameEntry]
        exact last
    | inr before =>
        have ⟨between, sameTrail⟩ := before
        exact earlier past entry between sameTrail

theorem throughout_cons {rest : List α} :
    Throughout holds (now :: rest) ↔
      holds [] now ∧ Throughout (fun past entry => holds (now :: past) entry) rest := by
  constructor
  · intro all
    refine ⟨all [] now rest rfl, ?_⟩
    intro past entry later split
    exact all (now :: past) entry later (by rw [split, List.cons_append])
  · rintro ⟨first, later⟩ past entry behind split
    cases past with
    | nil =>
        rw [List.nil_append] at split
        rw [← (List.cons.inj split).1]
        exact first
    | cons head past =>
        rw [List.cons_append] at split
        have same := List.cons.inj split
        rw [← same.1]
        exact later past entry behind same.2

instance instDecidableThroughout : (holds : List α → α → Prop) → (trail : List α) →
    [∀ past now, Decidable (holds past now)] → Decidable (Throughout holds trail)
  | _, [], _ => isTrue throughout_nil
  | holds, now :: rest, _ =>
      have := instDecidableThroughout (fun past entry => holds (now :: past) entry) rest
      decidable_of_iff _ throughout_cons.symm

/-- A property that does not look at the entries before. -/
theorem throughout_mem {holds : α → Prop} :
    Throughout (fun _ entry => holds entry) trail ↔ ∀ entry ∈ trail, holds entry := by
  constructor
  · intro all entry member
    have ⟨past, rest, split⟩ := List.append_of_mem member
    exact all past entry rest split
  · intro all past entry rest split
    exact all entry (by simp [split])

theorem Throughout.at_index (all : Throughout holds trail) {index : Nat}
    (found : trail[index]? = some now) : holds (trail.take index) now := by
  have ⟨inside, same⟩ := List.getElem?_eq_some_iff.mp found
  apply all _ _ (trail.drop (index + 1))
  rw [← same, ← List.drop_eq_getElem_cons inside, List.take_append_drop]

end Throughout

namespace Machine

variable {State Event Output : Type*} {machine : Machine State Event Output} {start : State}
  {Given Holds Condition : List (Transition State Event) → Transition State Event → Prop}
  {Invariant : List (Transition State Event) → State → Prop}

/-- An execution takes the events in order, as far as its steps are defined. -/
theorem events_transitions_prefix (machine : Machine State Event Output) (start : State)
    (events : List Event) :
    (machine.transitions start events).map Transition.event <+: events := by
  have ⟨history, final, run, isPrefix, same⟩ := machine.exists_defined_run start events
  rw [same, run.events_transitions]
  exact isPrefix

/-- What holds of a list of events and of its prefixes holds up to each step. -/
theorem throughout_of_prefix {P : List Event → Prop}
    (closed : ∀ left right, left <+: right → P right → P left) {events : List Event}
    (holds : P events) (machine : Machine State Event Output) (start : State) :
    Throughout (fun past now => P (past.map Transition.event ++ [now.event]))
      (machine.transitions start events) := by
  intro past now rest split
  have isPrefix := machine.events_transitions_prefix start events
  rw [split, List.map_append, List.map_cons] at isPrefix
  refine closed _ _ (List.IsPrefix.trans ?_ isPrefix) holds
  exact ⟨rest.map Transition.event, List.append_assoc ..⟩

/-- A property holds at every step of an execution exactly when a condition does, if
this is so at each step that an invariant leads to, and the property keeps the
invariant. -/
theorem throughout_iff (initial : Invariant [] start)
    (step : ∀ {trail middle event after output}, Invariant trail middle →
      machine.step middle event = some (after, output) → Given trail ⟨middle, event, after⟩ →
      (Holds trail ⟨middle, event, after⟩ ↔ Condition trail ⟨middle, event, after⟩) ∧
        (Holds trail ⟨middle, event, after⟩ → Invariant (trail ++ [⟨middle, event, after⟩]) after))
    {events : List Event} (given : Throughout Given (machine.transitions start events)) :
    Throughout Holds (machine.transitions start events) ↔
      Throughout Condition (machine.transitions start events) := by
  have ⟨history, final, run, same⟩ : ∃ history final, machine.Run start history final ∧
      machine.transitions start events = machine.transitions start (history.map Prod.fst) := by
    have ⟨history, final, run, _, same⟩ := machine.exists_defined_run start events
    exact ⟨history, final, run, same⟩
  rw [same] at given ⊢
  have both : (Throughout Holds (machine.transitions start (history.map Prod.fst)) ↔
      Throughout Condition (machine.transitions start (history.map Prod.fst))) ∧
        (Throughout Holds (machine.transitions start (history.map Prod.fst)) →
          Invariant (machine.transitions start (history.map Prod.fst)) final) := by
    clear same
    induction run with
    | nil => exact ⟨⟨fun _ => throughout_nil, fun _ => throughout_nil⟩, fun _ => initial⟩
    | snoc before stepped inductionHypothesis =>
        rw [List.map_append, List.map_singleton, before.transitions_snoc stepped,
          throughout_snoc] at given ⊢
        have ⟨equivalent, invariant⟩ := inductionHypothesis given.1
        rw [throughout_snoc, ← equivalent]
        constructor
        · apply and_congr_right
          intro earlier
          exact (step (invariant earlier) stepped given.2).1
        · intro ⟨earlier, now⟩
          exact (step (invariant earlier) stepped given.2).2 now
  exact both.1

/-- What an invariant implies at each step holds at every step of an execution. -/
theorem throughout_of_invariant (initial : Invariant [] start)
    (step : ∀ {trail middle event after output}, Invariant trail middle →
      machine.step middle event = some (after, output) → Given trail ⟨middle, event, after⟩ →
      Holds trail ⟨middle, event, after⟩ ∧ Invariant (trail ++ [⟨middle, event, after⟩]) after)
    {events : List Event} (given : Throughout Given (machine.transitions start events)) :
    Throughout Holds (machine.transitions start events) := by
  have equivalent : Throughout Holds (machine.transitions start events) ↔
      Throughout (fun _ _ => True) (machine.transitions start events) := by
    refine throughout_iff initial ?_ given
    intro trail middle event after output invariant stepped given
    have ⟨holds, next⟩ := step invariant stepped given
    exact ⟨iff_of_true holds trivial, fun _ => next⟩
  exact equivalent.mpr fun _ _ _ _ => trivial

/-- The same for an invariant, a property and a condition that do not look at the steps
before. -/
theorem forall_transitions_iff (Invariant : State → Prop)
    {Holds Condition : Transition State Event → Prop} (initial : Invariant start)
    (step : ∀ {middle event after output}, Invariant middle →
      machine.step middle event = some (after, output) →
      (Holds ⟨middle, event, after⟩ ↔ Condition ⟨middle, event, after⟩) ∧
        (Holds ⟨middle, event, after⟩ → Invariant after))
    (events : List Event) :
    (∀ now ∈ machine.transitions start events, Holds now) ↔
      ∀ now ∈ machine.transitions start events, Condition now := by
  have unconditional : Throughout (fun _ _ => True) (machine.transitions start events) :=
    fun _ _ _ _ => trivial
  rw [← throughout_mem, ← throughout_mem]
  refine @throughout_iff _ _ _ machine start _ _ _ (fun _ state => Invariant state) initial ?_ _
    unconditional
  intro trail middle event after output invariant stepped _
  exact step invariant stepped

end Machine

end StupidSimple.Library
