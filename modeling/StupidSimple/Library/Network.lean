import StupidSimple.Library.Machine

/-!
Owns two parties that talk over a network which may lose, repeat, delay and reorder
messages but makes none up: what is delivered to a party, the other one has sent before.

`network` is the machine of all interleavings. `Faithful` says what every one of its
states owes to its two parties, and `Faithful.justified` that a party can rely on what it is
told when the other one is honest.
-/

namespace StupidSimple.Library

/-- One end of a network: its machine, what an event delivers to it, and what an output
hands to the network. -/
structure Party (State Event Output Message : Type*) where
  machine : Machine State Event Output
  delivered : Event → List Message
  sent : Output → List Message

namespace Party

variable {State Event Output Message : Type*} (party : Party State Event Output Message)

def allDelivered (history : List (Event × Output)) : List Message :=
  history.flatMap fun entry => party.delivered entry.1

def allSent (history : List (Event × Output)) : List Message :=
  history.flatMap fun entry => party.sent entry.2

theorem allDelivered_snoc (history : List (Event × Output)) (event : Event) (output : Output) :
    party.allDelivered (history ++ [(event, output)]) =
      party.allDelivered history ++ party.delivered event := by
  rw [allDelivered, List.flatMap_append, List.flatMap_singleton]
  rfl

theorem allSent_snoc (history : List (Event × Output)) (event : Event) (output : Output) :
    party.allSent (history ++ [(event, output)]) = party.allSent history ++ party.sent output := by
  rw [allSent, List.flatMap_append, List.flatMap_singleton]
  rfl

variable {Fact : Type*} {start : State} {Genuine : Message → Prop}
  {Asserts Justifies : Message → Fact → Prop}

/-- A party that asserts a fact only when something delivered to it justifies the fact, as
long as it is delivered genuine messages. -/
def Honest (start : State) (Genuine : Message → Prop) (Asserts Justifies : Message → Fact → Prop) :
    Prop :=
  ∀ {history state}, party.machine.Run start history state →
    (∀ message ∈ party.allDelivered history, Genuine message) →
    ∀ message ∈ party.allSent history, ∀ fact, Asserts message fact →
      ∃ source ∈ party.allDelivered history, Justifies source fact

variable {party}

/-- A party is honest when each step asserts only what its own event justifies. -/
theorem Honest.of_step
    (step : ∀ {state after event output}, party.machine.step state event = some (after, output) →
      ∀ message ∈ party.sent output, ∀ fact, Asserts message fact →
        ∃ source ∈ party.delivered event, Justifies source fact) :
    party.Honest start Genuine Asserts Justifies := by
  intro history state run genuine message member fact asserted
  induction run with
  | nil => cases member
  | @snoc history _ after event output before stepped inductionHypothesis =>
      rw [party.allSent_snoc] at member
      rw [party.allDelivered_snoc] at genuine ⊢
      have genuineBefore := (List.forall_mem_append.mp genuine).1
      rcases List.mem_append.mp member with earlier | now
      · have ⟨source, delivered, justified⟩ := inductionHypothesis genuineBefore earlier
        exact ⟨source, List.mem_append_left _ delivered, justified⟩
      · have ⟨source, delivered, justified⟩ := step stepped message now fact asserted
        exact ⟨source, List.mem_append_right _ delivered, justified⟩

end Party

/-! ### Sessions -/

/-- Two parties, each with its history. -/
structure Session (L LEvent LOutput R REvent ROutput : Type*) where
  left : L
  leftHistory : List (LEvent × LOutput)
  right : R
  rightHistory : List (REvent × ROutput)

section Network

variable {L LEvent LOutput R REvent ROutput Message : Type*}
  (leftParty : Party L LEvent LOutput Message) (rightParty : Party R REvent ROutput Message)

namespace Session

def start (left : L) (right : R) : Session L LEvent LOutput R REvent ROutput :=
  ⟨left, [], right, []⟩

/-- Both histories are runs, and everything delivered was sent. -/
structure Faithful (startLeft : L) (startRight : R)
    (session : Session L LEvent LOutput R REvent ROutput) : Prop where
  runLeft : leftParty.machine.Run startLeft session.leftHistory session.left
  runRight : rightParty.machine.Run startRight session.rightHistory session.right
  deliveredLeft : ∀ message ∈ leftParty.allDelivered session.leftHistory,
    message ∈ rightParty.allSent session.rightHistory
  deliveredRight : ∀ message ∈ rightParty.allDelivered session.rightHistory,
    message ∈ leftParty.allSent session.leftHistory

variable {leftParty rightParty} {startLeft : L} {startRight : R}
  {session after : Session L LEvent LOutput R REvent ROutput}

/-- What an honest right party tells is justified by a message that the left party itself
has sent, and that has been delivered. -/
theorem Faithful.justified {Fact : Type*} {Genuine : Message → Prop}
    {Asserts Justifies : Message → Fact → Prop}
    (faithful : session.Faithful leftParty rightParty startLeft startRight)
    (honest : rightParty.Honest startRight Genuine Asserts Justifies)
    (genuine : ∀ message ∈ leftParty.allSent session.leftHistory, Genuine message)
    {message : Message} {fact : Fact}
    (sent : message ∈ rightParty.allSent session.rightHistory) (asserted : Asserts message fact) :
    ∃ source, source ∈ leftParty.allSent session.leftHistory ∧
      source ∈ rightParty.allDelivered session.rightHistory ∧ Justifies source fact := by
  have genuineDelivered : ∀ message ∈ rightParty.allDelivered session.rightHistory,
      Genuine message := fun message member =>
    genuine message (faithful.deliveredRight message member)
  have ⟨source, delivered, justified⟩ :=
    honest faithful.runRight genuineDelivered message sent fact asserted
  exact ⟨source, faithful.deliveredRight source delivered, delivered, justified⟩

/-! ### Interleavings -/

variable [DecidableEq Message] (leftParty rightParty)

/-- The left party takes an event whose messages the right one has sent. -/
def actLeft (event : LEvent) (session : Session L LEvent LOutput R REvent ROutput) :
    Option (Session L LEvent LOutput R REvent ROutput × (LOutput ⊕ ROutput)) :=
  if ∀ message ∈ leftParty.delivered event, message ∈ rightParty.allSent session.rightHistory then
    (leftParty.machine.step session.left event).map fun result =>
      ({ session with
          left := result.1
          leftHistory := session.leftHistory ++ [(event, result.2)] }, .inl result.2)
  else none

def actRight (event : REvent) (session : Session L LEvent LOutput R REvent ROutput) :
    Option (Session L LEvent LOutput R REvent ROutput × (LOutput ⊕ ROutput)) :=
  if ∀ message ∈ rightParty.delivered event, message ∈ leftParty.allSent session.leftHistory then
    (rightParty.machine.step session.right event).map fun result =>
      ({ session with
          right := result.1
          rightHistory := session.rightHistory ++ [(event, result.2)] }, .inr result.2)
  else none

variable {leftParty rightParty} {output : LOutput ⊕ ROutput}

theorem actLeft_cases {event : LEvent}
    (acted : session.actLeft leftParty rightParty event = some (after, output)) :
    (∀ message ∈ leftParty.delivered event,
      message ∈ rightParty.allSent session.rightHistory) ∧
    ∃ left result, leftParty.machine.step session.left event = some (left, result) ∧
      after = { session with
        left := left
        leftHistory := session.leftHistory ++ [(event, result)] } := by
  unfold actLeft at acted
  split_ifs at acted with authentic
  have ⟨result, stepped, same⟩ := Option.map_eq_some_iff.mp acted
  cases same
  exact ⟨authentic, result.1, result.2, stepped, rfl⟩

theorem actRight_cases {event : REvent}
    (acted : session.actRight leftParty rightParty event = some (after, output)) :
    (∀ message ∈ rightParty.delivered event,
      message ∈ leftParty.allSent session.leftHistory) ∧
    ∃ right result, rightParty.machine.step session.right event = some (right, result) ∧
      after = { session with
        right := right
        rightHistory := session.rightHistory ++ [(event, result)] } := by
  unfold actRight at acted
  split_ifs at acted with authentic
  have ⟨result, stepped, same⟩ := Option.map_eq_some_iff.mp acted
  cases same
  exact ⟨authentic, result.1, result.2, stepped, rfl⟩

end Session

variable [DecidableEq Message]

/-- The events of both parties in any order. An event that would deliver a message which
the other party has not sent is not defined. -/
def network :
    Machine (Session L LEvent LOutput R REvent ROutput) (LEvent ⊕ REvent) (LOutput ⊕ ROutput) where
  step session
    | .inl event => session.actLeft leftParty rightParty event
    | .inr event => session.actRight leftParty rightParty event

variable {leftParty rightParty} {startLeft : L} {startRight : R}
  {session after : Session L LEvent LOutput R REvent ROutput}

theorem Session.Faithful.step {event : LEvent ⊕ REvent} {output : LOutput ⊕ ROutput}
    (faithful : session.Faithful leftParty rightParty startLeft startRight)
    (stepped : (network leftParty rightParty).step session event = some (after, output)) :
    after.Faithful leftParty rightParty startLeft startRight := by
  cases event with
  | inl event =>
      obtain ⟨authentic, left, result, moved, rfl⟩ := actLeft_cases stepped
      constructor
      · exact faithful.runLeft.snoc moved
      · exact faithful.runRight
      · rw [leftParty.allDelivered_snoc]
        exact List.forall_mem_append.mpr ⟨faithful.deliveredLeft, authentic⟩
      · rw [leftParty.allSent_snoc]
        exact fun message member =>
          List.mem_append_left _ (faithful.deliveredRight message member)
  | inr event =>
      obtain ⟨authentic, right, result, moved, rfl⟩ := actRight_cases stepped
      constructor
      · exact faithful.runLeft
      · exact faithful.runRight.snoc moved
      · rw [rightParty.allSent_snoc]
        exact fun message member =>
          List.mem_append_left _ (faithful.deliveredLeft message member)
      · rw [rightParty.allDelivered_snoc]
        exact List.forall_mem_append.mpr ⟨faithful.deliveredRight, authentic⟩

theorem Session.faithful_of_run {history : List ((LEvent ⊕ REvent) × (LOutput ⊕ ROutput))}
    (run : (network leftParty rightParty).Run (.start startLeft startRight) history session) :
    session.Faithful leftParty rightParty startLeft startRight := by
  induction run with
  | nil =>
      constructor
      · exact .nil
      · exact .nil
      · exact fun _ member => absurd member List.not_mem_nil
      · exact fun _ member => absurd member List.not_mem_nil
  | snoc before stepped inductionHypothesis => exact inductionHypothesis.step stepped

end Network

end StupidSimple.Library
