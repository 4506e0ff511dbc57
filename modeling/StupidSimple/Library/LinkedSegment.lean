import Mathlib.Data.List.Nodup
import StupidSimple.Library.Heap

/-!
Owns doubly linked segments in a heap. An object is a node: data together with
the addresses of its two neighbours. `Segment node heap prev cells next` says
that `cells` lists, in order, the addresses and the data of a segment that
stands between `prev` and `next`.

`Segment.append_iff` splits a segment at any seam. The edits of a linked list
are the theorems below it: overwrite the data of one cell, link a new cell
behind the last one, unlink and free the first cell.
-/

namespace StupidSimple.Library

/-- The neighbours of a node. -/
structure Neighbours where
  prev : Option Nat
  next : Option Nat
deriving DecidableEq, Repr

section Segment

variable {δ α : Type*}

/-- The first address of a segment, or the one that follows it. -/
def frontRef (cells : List (Nat × δ)) (next : Option Nat) : Option Nat :=
  (cells.head?.map Prod.fst).or next

/-- The last address of a segment, or the one that precedes it. -/
def backRef (prev : Option Nat) (cells : List (Nat × δ)) : Option Nat :=
  (cells.getLast?.map Prod.fst).or prev

@[simp] theorem frontRef_nil (next : Option Nat) : frontRef ([] : List (Nat × δ)) next = next := rfl

@[simp] theorem frontRef_cons (cell : Nat × δ) (rest : List (Nat × δ)) (next : Option Nat) :
    frontRef (cell :: rest) next = some cell.1 := rfl

@[simp] theorem backRef_nil (prev : Option Nat) : backRef prev ([] : List (Nat × δ)) = prev := rfl

@[simp] theorem backRef_concat (prev : Option Nat) (front : List (Nat × δ)) (cell : Nat × δ) :
    backRef prev (front ++ [cell]) = some cell.1 := by
  simp [backRef]

@[simp] theorem backRef_cons (prev : Option Nat) (cell : Nat × δ) (rest : List (Nat × δ)) :
    backRef prev (cell :: rest) = backRef (some cell.1) rest := by
  rcases List.eq_nil_or_concat rest with rfl | ⟨front, last, rfl⟩
  · rfl
  · rw [List.concat_eq_append, ← List.cons_append, backRef_concat, backRef_concat]

private theorem ref_mem {cells : List (Nat × δ)} {cell : Nat × δ} {ref : Nat}
    (member : cell ∈ cells) (same : cell.1 = ref) : ref ∈ cells.map Prod.fst :=
  List.mem_map.mpr ⟨cell, member, same⟩

variable (node : Neighbours → δ → α)

/-- `cells` is linked both ways and stands between `prev` and `next`. -/
def Segment (heap : Heap α) : Option Nat → List (Nat × δ) → Option Nat → Prop
  | _, [], _ => True
  | prev, (ref, data) :: rest, next =>
      heap.read ref = some (node ⟨prev, frontRef rest next⟩ data) ∧
        Segment heap (some ref) rest next

namespace Segment

variable {node} {heap after : Heap α} {prev next : Option Nat} {cells : List (Nat × δ)}

theorem nil : Segment node heap prev [] next := trivial

theorem cons_iff {ref : Nat} {data : δ} {rest : List (Nat × δ)} :
    Segment node heap prev ((ref, data) :: rest) next ↔
      heap.read ref = some (node ⟨prev, frontRef rest next⟩ data) ∧
        Segment node heap (some ref) rest next :=
  Iff.rfl

/-- A segment splits at every seam. -/
theorem append_iff {left right : List (Nat × δ)} :
    Segment node heap prev (left ++ right) next ↔
      Segment node heap prev left (frontRef right next) ∧
        Segment node heap (backRef prev left) right next := by
  induction left generalizing prev with
  | nil => simp [nil]
  | cons cell rest inductionHypothesis =>
      have sameFront : frontRef (rest ++ right) next = frontRef rest (frontRef right next) := by
        cases rest <;> rfl
      rw [List.cons_append, cons_iff, cons_iff, inductionHypothesis, sameFront, backRef_cons,
        and_assoc]

/-- A segment reads only the addresses of its own cells. -/
theorem frame (segment : Segment node heap prev cells next)
    (agree : ∀ cell ∈ cells, after.read cell.1 = heap.read cell.1) :
    Segment node after prev cells next := by
  induction cells generalizing prev with
  | nil => exact nil
  | cons cell rest inductionHypothesis =>
      obtain ⟨here, behind⟩ := segment
      exact ⟨by rw [agree cell (by simp), here],
        inductionHypothesis behind fun other member => agree other (by simp [member])⟩

/-- Every cell is a live node whose neighbours are cells or bound the segment. -/
theorem neighbours (segment : Segment node heap prev cells next) {cell : Nat × δ}
    (member : cell ∈ cells) :
    ∃ links, heap.read cell.1 = some (node links cell.2) ∧
      (links.prev = prev ∨ ∃ other ∈ cells, links.prev = some other.1) ∧
      (links.next = next ∨ ∃ other ∈ cells, links.next = some other.1) := by
  induction cells generalizing prev with
  | nil => simp at member
  | cons first rest inductionHypothesis =>
      obtain ⟨here, behind⟩ := segment
      rcases List.mem_cons.mp member with rfl | later
      · refine ⟨_, here, Or.inl rfl, ?_⟩
        cases rest with
        | nil => exact Or.inl rfl
        | cons second tail => exact Or.inr ⟨second, by simp, rfl⟩
      · obtain ⟨links, live, prevCase, nextCase⟩ := inductionHypothesis behind later
        refine ⟨links, live, Or.inr ?_, nextCase.imp_right ?_⟩
        · rcases prevCase with same | ⟨other, inRest, same⟩
          · exact ⟨first, by simp, same⟩
          · exact ⟨other, by simp [inRest], same⟩
        · rintro ⟨other, inRest, same⟩
          exact ⟨other, by simp [inRest], same⟩

theorem read_of_mem (segment : Segment node heap prev cells next) {cell : Nat × δ}
    (member : cell ∈ cells) : ∃ links, heap.read cell.1 = some (node links cell.2) :=
  (segment.neighbours member).imp fun _ found => found.1

theorem lt_next_of_mem (segment : Segment node heap prev cells next) {cell : Nat × δ}
    (member : cell ∈ cells) : cell.1 < heap.next := by
  obtain ⟨links, live⟩ := segment.read_of_mem member
  exact Heap.lt_next_of_read live

/-! ### Edits -/

/-- The cell between two parts of a segment, with both its links. -/
theorem read_middle {left right : List (Nat × δ)} {ref : Nat} {data : δ}
    (segment : Segment node heap prev (left ++ (ref, data) :: right) next) :
    heap.read ref = some (node ⟨backRef prev left, frontRef right next⟩ data) :=
  (append_iff.mp segment).2.1

/-- Overwriting one object rewrites that cell; the other cells stay. -/
theorem overwrite {left right : List (Nat × δ)} {ref : Nat} {data written : δ}
    (segment : Segment node heap prev (left ++ (ref, data) :: right) next)
    (distinct : ((left ++ (ref, data) :: right).map Prod.fst).Nodup)
    (stored : after.read ref = some (node ⟨backRef prev left, frontRef right next⟩ written))
    (others : ∀ other, other ≠ ref → after.read other = heap.read other) :
    Segment node after prev (left ++ (ref, written) :: right) next := by
  obtain ⟨before, -, behind⟩ := append_iff.mp segment
  rw [List.map_append, List.map_cons, List.nodup_middle, List.nodup_cons, List.mem_append] at distinct
  refine append_iff.mpr ⟨before.frame fun cell member => others _ ?_, stored,
    behind.frame fun cell member => others _ ?_⟩
  · exact fun same => distinct.1 (Or.inl (ref_mem member same))
  · exact fun same => distinct.1 (Or.inr (ref_mem member same))

/-- `modify` with an update of the data that keeps the links. -/
theorem modify {left right : List (Nat × δ)} {ref : Nat} {data : δ}
    (segment : Segment node heap prev (left ++ (ref, data) :: right) next)
    (distinct : ((left ++ (ref, data) :: right).map Prod.fst).Nodup) (update : α → α) (written : δ)
    (updated : ∀ links, update (node links data) = node links written) :
    ∃ after, heap.modify ref update = some after ∧ after.next = heap.next ∧
      (∀ other, after.read other ≠ none → heap.read other ≠ none) ∧
      Segment node after prev (left ++ (ref, written) :: right) next := by
  obtain ⟨after, modified⟩ := Heap.exists_modify segment.read_middle update
  obtain ⟨object, live, sameNext, reads⟩ := Heap.modify_eq_some.mp modified
  obtain rfl := Option.some.inj (segment.read_middle.symm.trans live)
  refine ⟨after, modified, sameNext, fun _ => Heap.live_of_modify modified,
    segment.overwrite distinct ?_ fun other different => ?_⟩
  · rw [reads, if_pos rfl, updated]
  · rw [reads, if_neg different]

/-- A cell allocated at the end of the heap and linked behind a whole list. -/
theorem link_last (segment : Segment node heap none cells none)
    (distinct : (cells.map Prod.fst).Nodup) (data : δ) (setNext : α → α)
    (linked : ∀ prev data, setNext (node ⟨prev, none⟩ data) = node ⟨prev, some heap.next⟩ data) :
    ∃ after,
      (match backRef none cells with
        | none => some (heap.alloc (node ⟨backRef none cells, none⟩ data)).2
        | some last =>
            (heap.alloc (node ⟨backRef none cells, none⟩ data)).2.modify last setNext) = some after ∧
      after.next = heap.next + 1 ∧
      (∀ other, after.read other ≠ none → heap.read other ≠ none ∨ other = heap.next) ∧
      Segment node after none (cells ++ [(heap.next, data)]) none := by
  rcases List.eq_nil_or_concat cells with rfl | ⟨front, ⟨ref, last⟩, rfl⟩
  · exact ⟨_, rfl, rfl, fun _ => Heap.live_of_alloc, by simp [Segment, Heap.read_alloc]⟩
  · rw [List.concat_eq_append] at segment distinct ⊢
    rw [backRef_concat]
    have live := segment.read_middle
    have below : ∀ cell ∈ front ++ [(ref, last)], cell.1 ≠ heap.next := fun cell member =>
      Nat.ne_of_lt (segment.lt_next_of_mem member)
    have liveAfter : (heap.alloc (node ⟨some ref, none⟩ data)).2.read ref =
        some (node ⟨backRef none front, none⟩ last) := by
      rw [Heap.read_alloc, if_neg (below (ref, last) (by simp)), live, frontRef_nil]
    obtain ⟨after, modified⟩ := Heap.exists_modify liveAfter setNext
    obtain ⟨object, found, sameNext, reads⟩ := Heap.modify_eq_some.mp modified
    obtain rfl := Option.some.inj (liveAfter.symm.trans found)
    refine ⟨after, modified, by rw [sameNext, Heap.alloc_next],
      fun _ live => Heap.live_of_alloc (Heap.live_of_modify modified live), ?_⟩
    rw [List.map_append, List.map_singleton, List.nodup_append] at distinct
    have frontFrame : ∀ cell ∈ front, after.read cell.1 = heap.read cell.1 := by
      intro cell member
      have different := distinct.2.2 cell.1 (List.mem_map_of_mem member) ref (by simp)
      rw [reads, if_neg different, Heap.read_alloc, if_neg (below cell (by simp [member]))]
    have lastLinked : after.read ref = some (node ⟨backRef none front, some heap.next⟩ last) := by
      rw [reads, if_pos rfl, linked]
    have newCell : after.read heap.next = some (node ⟨some ref, none⟩ data) := by
      rw [reads, if_neg (below (ref, last) (by simp)).symm, Heap.read_alloc, if_pos rfl]
    refine append_iff.mpr ⟨append_iff.mpr ⟨?_, lastLinked, nil⟩, ?_⟩
    · exact (append_iff.mp segment).1.frame frontFrame
    · rw [backRef_concat]
      exact ⟨newCell, nil⟩

/-- Unlink the first cell from its successor and free it. -/
theorem unlink_first {ref : Nat} {data : δ} {rest : List (Nat × δ)}
    (segment : Segment node heap prev ((ref, data) :: rest) none)
    (distinct : (((ref, data) :: rest).map Prod.fst).Nodup) (clearPrev : α → α)
    (cleared : ∀ links data, clearPrev (node links data) = node ⟨none, links.next⟩ data) :
    ∃ after,
      ((match frontRef rest none with
        | none => some heap
        | some next => heap.modify next clearPrev) >>= fun unlinked => unlinked.free ref) =
        some after ∧
      after.next = heap.next ∧
      (∀ other, after.read other ≠ none → heap.read other ≠ none ∧ other ≠ ref) ∧
      Segment node after none rest none := by
  obtain ⟨live, behind⟩ := segment
  rw [List.map_cons, List.nodup_cons] at distinct
  have absent : ∀ cell ∈ rest, cell.1 ≠ ref := fun cell member same =>
    distinct.1 (ref_mem member same)
  cases rest with
  | nil =>
      obtain ⟨after, freed⟩ := Heap.exists_free live
      exact ⟨after, freed, (Heap.free_eq_some.mp freed).2.1, fun _ => Heap.live_of_free freed, nil⟩
  | cons second tail =>
      obtain ⟨secondLive, others⟩ := behind
      obtain ⟨middle, modified⟩ := Heap.exists_modify secondLive clearPrev
      obtain ⟨object, found, middleNext, middleReads⟩ := Heap.modify_eq_some.mp modified
      obtain rfl := Option.some.inj (secondLive.symm.trans found)
      have stillLive : middle.read ref = some (node ⟨prev, some second.1⟩ data) := by
        rw [middleReads, if_neg (absent second (by simp)).symm, live, frontRef_cons]
      obtain ⟨after, freed⟩ := Heap.exists_free stillLive
      obtain ⟨-, afterNext, afterReads⟩ := Heap.free_eq_some.mp freed
      have left : ∀ other, after.read other ≠ none → heap.read other ≠ none ∧ other ≠ ref := by
        intro other live
        obtain ⟨liveMiddle, different⟩ := Heap.live_of_free freed live
        exact ⟨Heap.live_of_modify modified liveMiddle, different⟩
      refine ⟨after, ?_, afterNext.trans middleNext, left, ?_, others.frame fun cell member => ?_⟩
      · rw [frontRef_cons]
        exact (congrArg (· >>= _) modified).trans freed
      · rw [afterReads, if_neg (absent second (by simp)), middleReads, if_pos rfl, cleared]
      · have tailDistinct := (List.nodup_cons.mp distinct.2).1
        have different : cell.1 ≠ second.1 := fun same =>
          tailDistinct (ref_mem member same)
        rw [afterReads, if_neg (absent cell (by simp [member])), middleReads, if_neg different]

end Segment

end Segment

end StupidSimple.Library
