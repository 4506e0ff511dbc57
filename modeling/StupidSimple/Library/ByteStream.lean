import Mathlib.Data.List.Basic

/-!
Owns the rules for programs that write to and read from a byte stream, one piece
after another. The state of the stream is arbitrary; a `StreamView` says what it
has written, what is left to read, and when it may be used.

`Emits` is the specification of a writer and `Takes` that of a reader. Both compose
along `bind`, so the layout of a message is read off its program: a reader undoes a
writer when both have the same bytes. `Total` readers need no layout.
-/

namespace StupidSimple.Library

/-- What a stream state stands for. -/
structure StreamView (State : Type) where
  Writable : State → Prop
  written : State → List UInt8
  Readable : State → Prop
  unread : State → List UInt8

variable {State α β : Type} (view : StreamView State)

/-- The writer appends these bytes. -/
def Emits (write : StateT State Option Unit) (bytes : List UInt8) : Prop :=
  ∀ state, view.Writable state →
    ∃ after, write.run state = some ((), after) ∧ view.Writable after ∧
      view.written after = view.written state ++ bytes

/-- The reader consumes these bytes, when they come first, and gives this value. -/
def Takes (read : StateT State Option α) (bytes : List UInt8) (value : α) : Prop :=
  ∀ state rest, view.Readable state → view.unread state = bytes ++ rest →
    ∃ after, read.run state = some (value, after) ∧ view.Readable after ∧
      view.unread after = rest

/-- The reader gives some value on every stream and never leaves its memory. -/
def Total (read : StateT State Option α) : Prop :=
  ∀ state, view.Readable state →
    ∃ value after, read.run state = some (value, after) ∧ view.Readable after

/-- The reader undoes the writer: both have these bytes, and the value comes back. -/
structure Codes (write : StateT State Option Unit) (read : StateT State Option α)
    (bytes : List UInt8) (value : α) : Prop where
  emits : Emits view write bytes
  takes : Takes view read bytes value

variable {view}

namespace Emits

theorem pure : Emits view (Pure.pure ()) [] := by
  intro state writable
  exact ⟨state, rfl, writable, (List.append_nil _).symm⟩

theorem bind {first second : StateT State Option Unit} {left right : List UInt8}
    (emitsFirst : Emits view first left) (emitsSecond : Emits view second right) :
    Emits view (first >>= fun _ => second) (left ++ right) := by
  intro state writable
  have ⟨middle, ran, middleWritable, middleBytes⟩ := emitsFirst state writable
  have ⟨after, ranOn, afterWritable, afterBytes⟩ := emitsSecond middle middleWritable
  refine ⟨after, ?_, afterWritable, ?_⟩
  · rw [StateT.run_bind, ran]
    exact ranOn
  · rw [afterBytes, middleBytes, List.append_assoc]

/-- A writer has one layout. -/
theorem unique {write : StateT State Option Unit} {left right : List UInt8}
    (one : Emits view write left) (other : Emits view write right) {state : State}
    (writable : view.Writable state) : left = right := by
  have ⟨after, ran, _, bytes⟩ := one state writable
  have ⟨afterToo, ranToo, _, bytesToo⟩ := other state writable
  rw [ran] at ranToo
  cases ranToo
  exact List.append_cancel_left (bytes.symm.trans bytesToo)

/-- A list of items, one after the other. -/
theorem forM {write : α → StateT State Option Unit} {layout : α → List UInt8}
    (emits : ∀ item, Emits view (write item) (layout item)) (items : List α) :
    Emits view (items.forM write) (items.flatMap layout) := by
  induction items with
  | nil => exact pure
  | cons head tail inductionHypothesis =>
      rw [List.flatMap_cons]
      exact (emits head).bind inductionHypothesis

end Emits

namespace Takes

theorem pure (value : α) : Takes view (Pure.pure value) [] value := by
  intro state rest readable unread
  exact ⟨state, rfl, readable, unread⟩

theorem bind {first : StateT State Option α} {second : α → StateT State Option β}
    {left right : List UInt8} {value : α} {result : β} (takesFirst : Takes view first left value)
    (takesSecond : Takes view (second value) right result) :
    Takes view (first >>= second) (left ++ right) result := by
  intro state rest readable unread
  rw [List.append_assoc] at unread
  have ⟨middle, ran, middleReadable, middleUnread⟩ := takesFirst state _ readable unread
  have ⟨after, ranOn, afterReadable, afterUnread⟩ :=
    takesSecond middle rest middleReadable middleUnread
  refine ⟨after, ?_, afterReadable, afterUnread⟩
  rw [StateT.run_bind, ran]
  exact ranOn

theorem map {read : StateT State Option α} {bytes : List UInt8} {value : α}
    (takes : Takes view read bytes value) (function : α → β) :
    Takes view (function <$> read) bytes (function value) := by
  intro state rest readable unread
  have ⟨after, ran, afterReadable, afterUnread⟩ := takes state rest readable unread
  refine ⟨after, ?_, afterReadable, afterUnread⟩
  rw [StateT.run_map, ran]
  rfl

end Takes

namespace Total

theorem pure (value : α) : Total view (Pure.pure value : StateT State Option α) := by
  intro state readable
  exact ⟨value, state, rfl, readable⟩

theorem bind {first : StateT State Option α} {second : α → StateT State Option β}
    (totalFirst : Total view first) (totalSecond : ∀ value, Total view (second value)) :
    Total view (first >>= second) := by
  intro state readable
  have ⟨value, middle, ran, middleReadable⟩ := totalFirst state readable
  have ⟨result, after, ranOn, afterReadable⟩ := totalSecond value middle middleReadable
  refine ⟨result, after, ?_, afterReadable⟩
  rw [StateT.run_bind, ran]
  exact ranOn

theorem map {read : StateT State Option α} (total : Total view read) (function : α → β) :
    Total view (function <$> read) := by
  intro state readable
  have ⟨value, after, ran, afterReadable⟩ := total state readable
  refine ⟨function value, after, ?_, afterReadable⟩
  rw [StateT.run_map, ran]
  rfl

end Total

namespace Codes

variable {write first second : StateT State Option Unit} {read : StateT State Option α}
  {bytes left right : List UInt8} {value : α} {result : β}

theorem bind {next : α → StateT State Option β} (one : Codes view first read left value)
    (two : Codes view second (next value) right result) :
    Codes view (first >>= fun _ => second) (read >>= next) (left ++ right) result where
  emits := one.emits.bind two.emits
  takes := one.takes.bind two.takes

/-- The last piece, after which the reader returns. -/
theorem last (one : Codes view write read bytes value) (function : α → β) :
    Codes view write (read >>= fun last => Pure.pure (function last)) bytes (function value) where
  emits := one.emits
  takes := by
    have takes : Takes view (read >>= fun last => Pure.pure (function last)) (bytes ++ [])
        (function value) := one.takes.bind (Takes.pure (function value))
    rwa [List.append_nil] at takes

theorem map (one : Codes view write read bytes value) (function : α → β) :
    Codes view write (function <$> read) bytes (function value) where
  emits := one.emits
  takes := one.takes.map function

end Codes

end StupidSimple.Library
