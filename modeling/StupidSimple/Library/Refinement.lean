import StupidSimple.Library.Machine

/-!
Owns refinement of a relation by a machine: each step of the machine is one the relation
allows between the states that the two states of the machine stand for. `exists_trace` lifts
this from steps to runs, and `Trace.invariant` is the induction rule of traces.
-/

namespace StupidSimple.Library

variable {Abstract State Event Output : Type*}

/-- A run of a relation with its history, oldest entry first. -/
inductive Trace (allowed : Abstract → Event → Output → Abstract → Prop) (start : Abstract) :
    List (Event × Output) → Abstract → Prop where
  | nil : Trace allowed start [] start
  | snoc {history : List (Event × Output)} {state after : Abstract} {event : Event}
      {output : Output} (before : Trace allowed start history state)
      (stepped : allowed state event output after) :
      Trace allowed start (history ++ [(event, output)]) after

/-- What holds at the start and of every step from where it held, as long as the events are
admissible. -/
theorem Trace.invariant {allowed : Abstract → Event → Output → Abstract → Prop}
    {start final : Abstract} {history : List (Event × Output)}
    {Admissible : List Event → Prop} {Invariant : List (Event × Output) → Abstract → Prop}
    (trace : Trace allowed start history final)
    (admissible : Admissible (history.map Prod.fst))
    (restrict : ∀ events event, Admissible (events ++ [event]) → Admissible events)
    (initial : Invariant [] start)
    (preserved : ∀ history state event output after,
      Invariant history state → Admissible (history.map Prod.fst ++ [event]) →
      allowed state event output after → Invariant (history ++ [(event, output)]) after) :
    Invariant history final := by
  induction trace with
  | nil => exact initial
  | snoc before stepped inductionHypothesis =>
      rw [List.map_append] at admissible
      exact preserved _ _ _ _ _ (inductionHypothesis (restrict _ _ admissible)) admissible stepped

/-- A machine whose every step keeps the invariant and is allowed has a run on every list of
events, and the run is a trace. -/
theorem Machine.exists_trace (machine : Machine State Event Output)
    {allowed : Abstract → Event → Output → Abstract → Prop} (represent : State → Abstract)
    {Invariant : State → Prop}
    (step : ∀ state event, Invariant state → ∃ after output,
      machine.step state event = some (after, output) ∧ Invariant after ∧
        allowed (represent state) event output (represent after))
    {start : State} (initial : Invariant start) (events : List Event) :
    ∃ history final, machine.Run start history final ∧ history.map Prod.fst = events ∧
      Invariant final ∧ Trace allowed (represent start) history (represent final) := by
  have ⟨history, final, run, same, kept, trace⟩ :=
    machine.exists_run (fun _ => True)
      (fun history state => Invariant state ∧
        Trace allowed (represent start) history (represent state))
      (fun _ _ _ => trivial) ⟨initial, Trace.nil⟩
      (by
        rintro history state event ⟨kept, trace⟩ _
        have ⟨after, output, stepped, keptAfter, permitted⟩ := step state event kept
        exact ⟨after, output, stepped, keptAfter, trace.snoc permitted⟩)
      events trivial
  exact ⟨history, final, run, same, kept, trace⟩

end StupidSimple.Library
