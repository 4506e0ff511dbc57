import Mathlib.Data.List.Basic

/-!
Owns tapes: lists with a position, from which items are read in order and to which items are
appended at the end. `whole` is what the tape holds, to which rewinding goes back, and
forgetting drops what has been read. A position of a list is a tape.
-/

namespace StupidSimple.Library

/-- What has been read, and what is still to be read. -/
@[ext] structure Tape (α : Type*) where
  behind : List α
  ahead : List α
deriving DecidableEq, Repr

namespace Tape

variable {α : Type*}

def blank : Tape α := ⟨[], []⟩

def whole (tape : Tape α) : List α := tape.behind ++ tape.ahead

def append (tape : Tape α) (items : List α) : Tape α := ⟨tape.behind, tape.ahead ++ items⟩

/-- Read some items. -/
def advance (tape : Tape α) (count : Nat) : Tape α :=
  ⟨tape.behind ++ tape.ahead.take count, tape.ahead.drop count⟩

/-- Go back to the start. -/
def rewind (tape : Tape α) : Tape α := ⟨[], tape.whole⟩

/-- Drop what has been read. -/
def forget (tape : Tape α) : Tape α := ⟨[], tape.ahead⟩

/-- The tape at a position of a list. -/
def split (items : List α) (position : Nat) : Tape α := ⟨items.take position, items.drop position⟩

@[simp] theorem whole_split (items : List α) (position : Nat) :
    (split items position).whole = items :=
  List.take_append_drop position items

theorem split_append {items : List α} {position : Nat} (inside : position ≤ items.length)
    (more : List α) : split (items ++ more) position = (split items position).append more := by
  rw [split, List.take_append_of_le_length inside, List.drop_append_of_le_length inside]
  rfl

theorem split_add (items : List α) (position count : Nat) :
    split items (position + count) = (split items position).advance count := by
  rw [split, List.take_add, ← List.drop_drop]
  rfl

theorem split_zero (items : List α) (position : Nat) :
    split items 0 = (split items position).rewind := by
  rw [rewind, whole_split]
  rfl

end Tape

end StupidSimple.Library
