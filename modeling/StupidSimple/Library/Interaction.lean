/-!
Owns interaction programs: computations that put queries to an environment and
may fail. A program is written once and run under any handler of the queries.

The rules relate a run to the runs of its parts (`run_bind`), carry a property
of the handler's state through the run of a program that meets a contract
(`Meets.run`), and compare the runs of one program under two handlers whose
answers agree (`run_related`). A handler can log what its queries touch
(`Handler.logging`); the log changes no run.
-/

namespace StupidSimple.Library

/-- A program over queries with typed answers. -/
inductive Interaction (Query : Type) (Answer : Query → Type) (Failure : Type) (α : Type) where
  | done (value : α)
  | fail (failure : Failure)
  | ask (query : Query) (next : Answer query → Interaction Query Answer Failure α)

/-- An environment: it answers a query and moves to its next state. -/
def Handler (Query : Type) (Answer : Query → Type) (State : Type) : Type :=
  (query : Query) → State → Answer query × State

namespace Interaction

variable {Query : Type} {Answer : Query → Type} {Failure α β State : Type}

protected def bind : Interaction Query Answer Failure α →
    (α → Interaction Query Answer Failure β) → Interaction Query Answer Failure β
  | done value, next => next value
  | fail failure, _ => fail failure
  | ask query answer, next => ask query fun reply => (answer reply).bind next

/-- Run another program in place of a failure. -/
def rescue {Other : Type} : Interaction Query Answer Failure α →
    (Failure → Interaction Query Answer Other α) → Interaction Query Answer Other α
  | done value, _ => done value
  | fail failure, handle => handle failure
  | ask query answer, handle => ask query fun reply => (answer reply).rescue handle

instance : Monad (Interaction Query Answer Failure) where
  pure := done
  bind := Interaction.bind

/-- Put a query and return its answer. -/
def query (question : Query) : Interaction Query Answer Failure (Answer question) :=
  ask question done

/-- Run a program: its value or its failure, and the state it leaves. -/
def run (handler : Handler Query Answer State) :
    Interaction Query Answer Failure α → State → Except Failure α × State
  | done value, state => (.ok value, state)
  | fail failure, state => (.error failure, state)
  | ask question next, state =>
      run handler (next (handler question state).1) (handler question state).2

section Run

variable (handler : Handler Query Answer State) (state : State)

theorem run_bind (program : Interaction Query Answer Failure α)
    (next : α → Interaction Query Answer Failure β) :
    run handler (program >>= next) state =
      match run handler program state with
      | (.ok value, after) => run handler (next value) after
      | (.error failure, after) => (.error failure, after) := by
  change run handler (program.bind next) state = _
  induction program generalizing state with
  | done value => rfl
  | fail failure => rfl
  | ask question answer inductionHypothesis => exact inductionHypothesis _ _

theorem run_rescue {Other : Type} (program : Interaction Query Answer Failure α)
    (handle : Failure → Interaction Query Answer Other α) :
    run handler (program.rescue handle) state =
      match run handler program state with
      | (.ok value, after) => (.ok value, after)
      | (.error failure, after) => run handler (handle failure) after := by
  induction program generalizing state with
  | done value => rfl
  | fail failure => rfl
  | ask question answer inductionHypothesis => exact inductionHypothesis _ _

variable {handler state}

/-- A run that starts with a completed part is the run of the rest. -/
theorem run_bind_ok {program : Interaction Query Answer Failure α}
    {next : α → Interaction Query Answer Failure β} {value : α} {after : State}
    (first : run handler program state = (.ok value, after)) :
    run handler (program >>= next) state = run handler (next value) after := by
  rw [run_bind, first]

theorem run_bind_error {program : Interaction Query Answer Failure α}
    {next : α → Interaction Query Answer Failure β} {failure : Failure} {after : State}
    (first : run handler program state = (.error failure, after)) :
    run handler (program >>= next) state = (.error failure, after) := by
  rw [run_bind, first]

end Run

/-! ### Contracts -/

/-- The program puts only queries that `Asks` allows, and returns only values
that `Returns` allows, whatever it is answered. -/
def Meets (Asks : Query → Prop) (Returns : α → Prop) :
    Interaction Query Answer Failure α → Prop
  | done value => Returns value
  | fail _ => True
  | ask question next => Asks question ∧ ∀ reply, (next reply).Meets Asks Returns

section Contracts

variable {Asks : Query → Prop} {Returns : α → Prop}

theorem meets_fail (failure : Failure) :
    (fail failure : Interaction Query Answer Failure α).Meets Asks Returns :=
  trivial

theorem Meets.bind {program : Interaction Query Answer Failure β} {Between : β → Prop}
    {next : β → Interaction Query Answer Failure α} (first : program.Meets Asks Between)
    (rest : ∀ value, Between value → (next value).Meets Asks Returns) :
    (program >>= next).Meets Asks Returns := by
  change (program.bind next).Meets Asks Returns
  induction program with
  | done value => exact rest value first
  | fail failure => trivial
  | ask question answer inductionHypothesis =>
      exact ⟨first.1, fun reply => inductionHypothesis reply (first.2 reply)⟩

theorem Meets.map {program : Interaction Query Answer Failure β} {Between : β → Prop}
    {change : β → α} (first : program.Meets Asks Between)
    (rest : ∀ value, Between value → Returns (change value)) :
    (change <$> program).Meets Asks Returns :=
  first.bind rest

theorem Meets.rescue {Other : Type} {program : Interaction Query Answer Failure α}
    {handle : Failure → Interaction Query Answer Other α} (first : program.Meets Asks Returns)
    (rest : ∀ failure, (handle failure).Meets Asks Returns) :
    (program.rescue handle).Meets Asks Returns := by
  induction program with
  | done value => exact first
  | fail failure => exact rest failure
  | ask question answer inductionHypothesis =>
      exact ⟨first.1, fun reply => inductionHypothesis reply (first.2 reply)⟩

theorem Meets.mono {program : Interaction Query Answer Failure α} {AsksMore : Query → Prop}
    {ReturnsMore : α → Prop} (meets : program.Meets Asks Returns)
    (asks : ∀ question, Asks question → AsksMore question)
    (returns : ∀ value, Returns value → ReturnsMore value) :
    program.Meets AsksMore ReturnsMore := by
  induction program with
  | done value => exact returns value meets
  | fail failure => trivial
  | ask question answer inductionHypothesis =>
      exact ⟨asks question meets.1, fun reply => inductionHypothesis reply (meets.2 reply)⟩

/-- What the answers to allowed queries keep, every run keeps, and a completed
run returns an allowed value. -/
theorem Meets.run (handler : Handler Query Answer State) (Invariant : State → Prop)
    {program : Interaction Query Answer Failure α} (meets : program.Meets Asks Returns)
    (kept : ∀ question state, Asks question → Invariant state →
      Invariant (handler question state).2) {state : State} (holds : Invariant state) :
    Invariant (program.run handler state).2 ∧
      ∀ value, (program.run handler state).1 = .ok value → Returns value := by
  induction program generalizing state with
  | done value =>
      refine ⟨holds, ?_⟩
      intro returned same
      cases same
      exact meets
  | fail failure => exact ⟨holds, fun _ impossible => by cases impossible⟩
  | ask question next inductionHypothesis =>
      exact inductionHypothesis _ (meets.2 _) (kept question state meets.1 holds)

end Contracts

/-! ### Two handlers -/

/-- Under two handlers that give the same answers in related states, a program
has the same result and leaves related states. -/
theorem run_related {Left Right : Type} (left : Handler Query Answer Left)
    (right : Handler Query Answer Right) (Related : Left → Right → Prop)
    (agree : ∀ question s t, Related s t →
      (left question s).1 = (right question t).1 ∧
        Related (left question s).2 (right question t).2)
    (program : Interaction Query Answer Failure α) {s : Left} {t : Right} (related : Related s t) :
    (run left program s).1 = (run right program t).1 ∧
      Related (run left program s).2 (run right program t).2 := by
  induction program generalizing s t with
  | done value => exact ⟨rfl, related⟩
  | fail failure => exact ⟨rfl, related⟩
  | ask question next inductionHypothesis =>
      have step := agree question s t related
      rw [run, run, step.1]
      exact inductionHypothesis _ step.2

/-! ### Logging -/

section Logging

variable {Entry : Type} (handler : Handler Query Answer State)
  (touches : Query → State → List Entry)

/-- The handler, with a log of what each query touches. -/
def logging : Handler Query Answer (State × List Entry) := fun question state =>
  ((handler question state.1).1, (handler question state.1).2, state.2 ++ touches question state.1)

theorem run_logging (program : Interaction Query Answer Failure α) (state : State)
    (log : List Entry) :
    (run (logging handler touches) program (state, log)).1 = (run handler program state).1 ∧
      (run (logging handler touches) program (state, log)).2.1 =
        (run handler program state).2 := by
  apply run_related (logging handler touches) handler (fun logged plain => logged.1 = plain)
  · rintro question logged plain rfl
    exact ⟨rfl, rfl⟩
  · rfl

theorem log_extends (program : Interaction Query Answer Failure α) (state : State × List Entry) :
    state.2 <+: (run (logging handler touches) program state).2.2 := by
  induction program generalizing state with
  | done value => exact List.prefix_refl _
  | fail failure => exact List.prefix_refl _
  | ask question next inductionHypothesis =>
      have touched := List.prefix_append state.2 (touches question state.1)
      exact touched.trans (inductionHypothesis _ (logging handler touches question state).2)

variable {handler touches} {Asks : Query → Prop} {Returns : α → Prop}

/-- What is true of every entry in a state of the invariant is true of the log. -/
theorem Meets.log (Invariant : State → Prop) (Good : Entry → Prop)
    {program : Interaction Query Answer Failure α} (meets : program.Meets Asks Returns)
    (kept : ∀ question state, Asks question → Invariant state →
      Invariant (handler question state).2)
    (good : ∀ question state, Asks question → Invariant state →
      ∀ entry ∈ touches question state, Good entry) {state : State} (holds : Invariant state) :
    ∀ entry ∈ (program.run (logging handler touches) (state, [])).2.2, Good entry := by
  have goodLogs : ∀ question (logged : State × List Entry), Asks question →
      (Invariant logged.1 ∧ ∀ entry ∈ logged.2, Good entry) →
      Invariant (logging handler touches question logged).2.1 ∧
        ∀ entry ∈ (logging handler touches question logged).2.2, Good entry := by
    rintro question ⟨before, log⟩ asked ⟨invariant, goodLog⟩
    refine ⟨kept question before asked invariant, ?_⟩
    intro entry member
    rcases List.mem_append.mp member with earlier | here
    · exact goodLog entry earlier
    · exact good question before asked invariant entry here
  have start : Invariant (state, ([] : List Entry)).1 ∧
      ∀ entry ∈ (state, ([] : List Entry)).2, Good entry := ⟨holds, by simp⟩
  exact (meets.run (logging handler touches)
    (fun logged => Invariant logged.1 ∧ ∀ entry ∈ logged.2, Good entry) goodLogs start).1.2

end Logging

end Interaction

end StupidSimple.Library
