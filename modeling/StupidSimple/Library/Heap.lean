import Mathlib.Logic.Function.Basic

/-!
Owns an object heap: fresh allocation, reading, in-place modification and
deallocation. Reading, modifying or freeing an address that holds no object
yields `none`, so a computation that succeeds never used a dangling pointer.
Addresses are never reused; `fresh` carries that as a field.
-/

namespace StupidSimple.Library

/-- Objects of type `α` at natural-number addresses. -/
structure Heap (α : Type*) where
  cells : Nat → Option α
  next : Nat
  fresh : ∀ address, next ≤ address → cells address = none

namespace Heap

variable {α : Type*}

def empty : Heap α := ⟨fun _ => none, 0, fun _ _ => rfl⟩

/-- The object at `address`, if it is live. -/
def read (heap : Heap α) (address : Nat) : Option α := heap.cells address

/-- Allocate `object`; the result is the address and the heap after. -/
def alloc (heap : Heap α) (object : α) : Nat × Heap α :=
  (heap.next,
    { cells := Function.update heap.cells heap.next (some object)
      next := heap.next + 1
      fresh := fun address above => by
        rw [Function.update_of_ne (by omega), heap.fresh address (by omega)] })

theorem lt_next_of_read {heap : Heap α} {address : Nat} {object : α}
    (live : heap.read address = some object) : address < heap.next := by
  by_contra above
  have absent := heap.fresh address (by omega)
  rw [read, absent] at live
  contradiction

/-- Apply `update` to a live object. -/
def modify (heap : Heap α) (address : Nat) (update : α → α) : Option (Heap α) :=
  match live : heap.read address with
  | none => none
  | some object => some
      { cells := Function.update heap.cells address (some (update object))
        next := heap.next
        fresh := fun other above => by
          have below := lt_next_of_read live
          rw [Function.update_of_ne (by omega), heap.fresh other above] }

/-- Deallocate a live object. -/
def free (heap : Heap α) (address : Nat) : Option (Heap α) :=
  match heap.read address with
  | none => none
  | some _ => some
      { cells := Function.update heap.cells address none
        next := heap.next
        fresh := fun other above => by
          by_cases same : other = address
          · rw [same, Function.update_self]
          · rw [Function.update_of_ne same, heap.fresh other above] }

/-- Heaps with the same reads and the same allocation counter are equal. -/
theorem ext {left right : Heap α} (reads : ∀ address, left.read address = right.read address)
    (sameNext : left.next = right.next) : left = right := by
  have sameCells : left.cells = right.cells := funext reads
  cases left
  cases right
  cases sameCells
  cases sameNext
  rfl

@[simp] theorem alloc_fst (heap : Heap α) (object : α) : (heap.alloc object).1 = heap.next := rfl

@[simp] theorem alloc_next (heap : Heap α) (object : α) :
    (heap.alloc object).2.next = heap.next + 1 := rfl

theorem read_alloc (heap : Heap α) (object : α) (address : Nat) :
    (heap.alloc object).2.read address =
      if address = heap.next then some object else heap.read address := by
  simp [alloc, read, Function.update_apply]

/-- `modify` succeeds exactly on a live address, and changes only that object. -/
theorem modify_eq_some {heap after : Heap α} {address : Nat} {update : α → α} :
    heap.modify address update = some after ↔
      ∃ object, heap.read address = some object ∧ after.next = heap.next ∧
        ∀ other, after.read other =
          if other = address then some (update object) else heap.read other := by
  constructor
  · intro modified
    unfold modify at modified
    split at modified
    · contradiction
    · next object live =>
        obtain rfl := Option.some.inj modified
        exact ⟨object, live, rfl, fun other => by simp [read, Function.update_apply]⟩
  · rintro ⟨object, live, sameNext, reads⟩
    unfold modify
    split
    · next absent =>
        rw [absent] at live
        contradiction
    · next stored present =>
        have sameObject : stored = object := Option.some.inj (present.symm.trans live)
        refine congrArg some (ext (fun other => ?_) sameNext.symm)
        rw [reads, ← sameObject]
        exact Function.update_apply heap.cells address _ other

/-- `free` succeeds exactly on a live address, and removes only that object. -/
theorem free_eq_some {heap after : Heap α} {address : Nat} :
    heap.free address = some after ↔
      (∃ object, heap.read address = some object) ∧ after.next = heap.next ∧
        ∀ other, after.read other = if other = address then none else heap.read other := by
  constructor
  · intro freed
    unfold free at freed
    split at freed
    · contradiction
    · next object live =>
        obtain rfl := Option.some.inj freed
        exact ⟨⟨object, live⟩, rfl, fun other => by simp [read, Function.update_apply]⟩
  · rintro ⟨⟨object, live⟩, sameNext, reads⟩
    unfold free
    rw [live]
    refine congrArg some (ext (fun other => ?_) sameNext.symm)
    rw [reads]
    exact Function.update_apply heap.cells address _ other

/-- A modification keeps the set of live addresses. -/
theorem live_of_modify {heap after : Heap α} {address other : Nat} {update : α → α}
    (modified : heap.modify address update = some after) (live : after.read other ≠ none) :
    heap.read other ≠ none := by
  obtain ⟨object, present, -, reads⟩ := modify_eq_some.mp modified
  rw [reads] at live
  by_cases same : other = address
  · rw [same, present]
    exact Option.some_ne_none object
  · rwa [if_neg same] at live

/-- A deallocation removes one address from the set of live addresses. -/
theorem live_of_free {heap after : Heap α} {address other : Nat}
    (freed : heap.free address = some after) (live : after.read other ≠ none) :
    heap.read other ≠ none ∧ other ≠ address := by
  obtain ⟨-, -, reads⟩ := free_eq_some.mp freed
  rw [reads] at live
  by_cases same : other = address
  · exact absurd (if_pos same) live
  · exact ⟨by rwa [if_neg same] at live, same⟩

/-- An allocation adds one address to the set of live addresses. -/
theorem live_of_alloc {heap : Heap α} {object : α} {other : Nat}
    (live : (heap.alloc object).2.read other ≠ none) :
    heap.read other ≠ none ∨ other = heap.next := by
  rw [read_alloc] at live
  by_cases same : other = heap.next
  · exact Or.inr same
  · exact Or.inl (by rwa [if_neg same] at live)

theorem exists_modify {heap : Heap α} {address : Nat} {object : α}
    (live : heap.read address = some object) (update : α → α) :
    ∃ after, heap.modify address update = some after := by
  unfold modify
  split
  · next absent =>
      rw [absent] at live
      contradiction
  · exact ⟨_, rfl⟩

theorem exists_free {heap : Heap α} {address : Nat} {object : α}
    (live : heap.read address = some object) : ∃ after, heap.free address = some after := by
  unfold free
  rw [live]
  exact ⟨_, rfl⟩

/-- Edits that allocate nothing, one after the other. -/
theorem next_foldlM {β : Type*} {edit : Heap α → β → Option (Heap α)}
    (keeps : ∀ {heap after : Heap α} {item : β}, edit heap item = some after →
      after.next = heap.next)
    {items : List β} {heap after : Heap α} (edited : items.foldlM edit heap = some after) :
    after.next = heap.next := by
  induction items generalizing heap with
  | nil => rw [Option.some.inj edited]
  | cons item rest inductionHypothesis =>
      rw [List.foldlM_cons] at edited
      have ⟨middle, first, others⟩ := Option.bind_eq_some_iff.mp edited
      exact (inductionHypothesis others).trans (keeps first)

/-- Distinct live addresses can all be freed. -/
theorem exists_free_all {β : Type*} (address : β → Nat) {heap : Heap α} {items : List β}
    (distinct : (items.map address).Nodup)
    (live : ∀ item ∈ items, ∃ object, heap.read (address item) = some object) :
    ∃ after, items.foldlM (fun heap item => heap.free (address item)) heap = some after ∧
      after.next = heap.next ∧ ∀ other, after.read other ≠ none →
        heap.read other ≠ none ∧ ∀ item ∈ items, other ≠ address item := by
  induction items generalizing heap with
  | nil => exact ⟨heap, rfl, rfl, fun _ live => ⟨live, by simp⟩⟩
  | cons first rest inductionHypothesis =>
      rw [List.map_cons, List.nodup_cons] at distinct
      obtain ⟨object, present⟩ := live first (by simp)
      obtain ⟨middle, freed⟩ := exists_free present
      obtain ⟨-, sameNext, reads⟩ := free_eq_some.mp freed
      have stillLive : ∀ item ∈ rest, ∃ object, middle.read (address item) = some object := by
        intro item member
        have different : address item ≠ address first := fun same =>
          distinct.1 (same ▸ List.mem_map_of_mem member)
        rw [reads, if_neg different]
        exact live item (by simp [member])
      obtain ⟨after, freedRest, restNext, left⟩ := inductionHypothesis distinct.2 stillLive
      refine ⟨after, by rw [List.foldlM_cons, freed]; exact freedRest, restNext.trans sameNext,
        fun other liveAfter => ?_⟩
      obtain ⟨liveMiddle, notRest⟩ := left other liveAfter
      obtain ⟨liveBefore, notFirst⟩ := live_of_free freed liveMiddle
      exact ⟨liveBefore, List.forall_mem_cons.mpr ⟨notFirst, notRest⟩⟩

end Heap

end StupidSimple.Library
