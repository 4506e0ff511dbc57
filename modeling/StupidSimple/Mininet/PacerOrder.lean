import StupidSimple.Mininet.FrameSplit

/-!
Owns the order in which `SendVideo` hands a frame to the pacer. It numbers the segments
with a counter of 16 bits, and reads the numbers back from a map that sorts them.

`pacer_order_iff` says that the order is that of the frame exactly when the counter does
not start over within it.
-/

namespace StupidSimple.Mininet

open StupidSimple.Library

/-- The numbers of the `InsertPacket` calls. -/
def insertedNumbers (calls : List SenderCall) : List UInt16 :=
  calls.filterMap fun
    | .insertPacket _ sequenceNumber _ _ => some sequenceNumber
    | _ => none

/-- The pacer gets the segments in the order in which they were made. -/
def PacedInOrder (calls : List SenderCall) : Prop :=
  insertedNumbers calls = (createdSegments calls).map SimSegment.transportSeq

/-- The next `count` numbers of the counter. -/
def nextNumbers (first : UInt16) (count : Nat) : List UInt16 :=
  (List.range count).map fun i => first + UInt16.ofNat i

/-- The numbers ascend unless the counter starts over. -/
theorem ascending_iff {first : UInt16} {count : Nat} :
    (nextNumbers first count).Pairwise (· < ·) ↔ first.toNat + count ≤ 2 ^ 16 := by
  have bound : first.toNat < 2 ^ 16 := first.toNat_lt
  have number (i : Nat) : (first + UInt16.ofNat i).toNat = (first.toNat + i) % 2 ^ 16 := by
    rw [UInt16.toNat_add, UInt16.toNat_ofNat', Nat.add_mod_mod]
  rw [nextNumbers, List.pairwise_map, List.pairwise_iff_getElem]
  constructor
  · intro ascending
    by_contra beyond
    -- The last number before the counter starts over, and the first behind it.
    have last : 2 ^ 16 - 1 - first.toNat < (List.range count).length := by
      rw [List.length_range]
      omega
    have next : 2 ^ 16 - first.toNat < (List.range count).length := by
      rw [List.length_range]
      omega
    have below := ascending _ _ last next (by omega)
    rw [List.getElem_range, List.getElem_range, UInt16.lt_iff_toNat_lt, number, number] at below
    omega
  · intro fits i j left right order
    rw [List.length_range] at left right
    rw [List.getElem_range, List.getElem_range, UInt16.lt_iff_toNat_lt, number, number,
      Nat.mod_eq_of_lt (by omega), Nat.mod_eq_of_lt (by omega)]
    omega

namespace Sender

/-- The entry of a segment in the map of `SendVideo`. -/
def lengthEntry (seg : SimSegment) : UInt16 × UInt16 := (seg.transportSeq, simSegmentOverhead seg)

theorem queueSegments_seqLenMap (frame : FrameInfo) (i : UInt16)
    (chunks : List (Buffer simVideoSize)) (queue : FrameQueue) :
    ∃ made, (queueSegments frame i chunks queue).created = queue.created ++ made ∧
      (queueSegments frame i chunks queue).seqLenMap =
        queue.seqLenMap.insertAll (made.map lengthEntry) := by
  induction chunks generalizing i queue with
  | nil => exact ⟨[], (List.append_nil _).symm, rfl⟩
  | cons chunk rest inductionHypothesis =>
      have ⟨made, created, lengths⟩ :=
        inductionHypothesis (i + 1) (queueSegment frame i chunk queue)
      exact ⟨queue.sender.newSegment frame i chunk :: made,
        created.trans (List.append_assoc _ _ _), lengths⟩

theorem insertedNumbers_frame (created : List SimSegment) (lengths : OrderedMap UInt16 UInt16)
    (ssrc : UInt32) (now : Int64) :
    insertedNumbers (created.map .newSegment ++
      lengths.entries.map fun entry => .insertPacket ssrc entry.1 now entry.2) = lengths.keys := by
  have segments : insertedNumbers (created.map .newSegment) = [] := by
    rw [insertedNumbers, List.filterMap_map]
    exact List.filterMap_eq_nil_iff.mpr fun _ _ => rfl
  rw [insertedNumbers, List.filterMap_append]
  show insertedNumbers _ ++ _ = _
  rw [segments, List.nil_append, List.filterMap_map, OrderedMap.keys]
  show lengths.entries.filterMap (fun entry => some entry.1) = _
  exact congrFun List.filterMap_eq_map' _

/-- The numbers come from a map into which the segments were put in their order. -/
theorem sendVideo_insertedNumbers {sender after : Sender} {payloadType : UInt8} {ftype : Int32}
    {data : List UInt8} {now : Int64} {calls : List SenderCall}
    (sent : sender.sendVideo payloadType ftype data now = some (after, calls)) :
    insertedNumbers calls =
      (OrderedMap.empty.insertAll ((createdSegments calls).map lengthEntry)).keys := by
  unfold sendVideo at sent
  split_ifs at sent
  · cases sent
    rfl
  · cases sent
    rfl
  · cases sent
    obtain ⟨made, created, lengths⟩ := queueSegments_seqLenMap
      ⟨payloadType, ftype.toUInt32.toUInt8, toUInt32 (now - (sender.startClock now).firstTs),
        UInt16.ofNat (frameSplit data.length).length⟩ 0 (cutFrame (frameSplit data.length) data)
      ⟨sender.startClock now, .empty, []⟩
    rw [insertedNumbers_frame, createdSegments_frame, lengths, created]
    rfl

end Sender

/-- The segments of a frame are made in the order of their indices, and the pacer gets
them in this order exactly when their numbers do not start over. -/
theorem pacer_order_iff {sender : Sender} (running : sender.running = true) {data : List UInt8}
    (filled : data ≠ []) (admitted : data.length / simVideoSize < Sender.maxSplitNumber)
    (payloadType : UInt8) (ftype : Int32) (now : Int64) :
    ∃ after calls, sender.sendVideo payloadType ftype data now = some (after, calls) ∧
      (createdSegments calls).map SimSegment.index =
        (List.range ((data.length + 999) / 1000)).map UInt16.ofNat ∧
      (PacedInOrder calls ↔ sender.transSeq.toNat + (data.length + 999) / 1000 ≤ 2 ^ 16) := by
  obtain ⟨after, calls, sent, _, places⟩ :=
    Sender.sendVideo_segments running filled admitted payloadType ftype now
  have count : (Sender.cutFrame (Sender.frameSplit data.length) data).length =
      (data.length + 999) / 1000 := by
    rw [Sender.length_cutFrame, ← List.length_map Subtype.val, Sender.map_frameSplit,
      length_pieces (List.length_pos_of_ne_nil filled) (by decide)]
    rfl
  have indices : (createdSegments calls).map SimSegment.index =
      (List.range ((data.length + 999) / 1000)).map UInt16.ofNat := by
    have mapped := congrArg (List.map Prod.fst) places
    rwa [List.map_map, map_mapIdx, mapIdx_index, count] at mapped
  have numbers : (createdSegments calls).map SimSegment.transportSeq =
      nextNumbers sender.transSeq ((data.length + 999) / 1000) := by
    have mapped := congrArg (List.map fun place => place.2.1) places
    rwa [List.map_map, map_mapIdx, mapIdx_index, count] at mapped
  have keys : ((createdSegments calls).map Sender.lengthEntry).map Prod.fst =
      (createdSegments calls).map SimSegment.transportSeq := by
    rw [List.map_map]
    rfl
  refine ⟨after, calls, sent, indices, ?_⟩
  rw [PacedInOrder, Sender.sendVideo_insertedNumbers sent, ← keys,
    OrderedMap.keys_insertAll_empty_iff, keys, numbers, ascending_iff]

/-- A session whose next number is the last before the counter starts over. -/
def beforeWrap : Sender := { (Sender.create ⟨4321, 0x0a000402⟩).start with transSeq := 65535 }

/-- Two segments get the numbers 65535 and 0. The pacer gets 0 first. -/
theorem not_paced_in_order :
    ∃ after calls, beforeWrap.sendVideo 96 1 (List.replicate 1001 7) 5 = some (after, calls) ∧
      (createdSegments calls).map SimSegment.transportSeq = [65535, 0] ∧
      insertedNumbers calls = [0, 65535] ∧ ¬PacedInOrder calls := by
  have evaluated : (beforeWrap.sendVideo 96 1 (List.replicate 1001 7) 5).map (fun sent =>
      ((createdSegments sent.2).map SimSegment.transportSeq, insertedNumbers sent.2)) =
      some ([65535, 0], [0, 65535]) := by
    decide +kernel
  obtain ⟨⟨after, calls⟩, sent, values⟩ := Option.map_eq_some_iff.mp evaluated
  obtain ⟨made, inserted⟩ := Prod.mk.inj values
  refine ⟨after, calls, sent, made, inserted, fun paced => ?_⟩
  have same := inserted.symm.trans (paced.trans made)
  exact absurd same (by decide)

theorem pacer_order_first_frame :
    ∃ after calls, (Sender.create ⟨4321, 0x0a000402⟩).start.sendVideo 96 1
        (List.replicate 1001 7) 5 = some (after, calls) ∧ PacedInOrder calls := by
  have length : (List.replicate 1001 (7 : UInt8)).length = 1001 := List.length_replicate
  have filled : List.replicate 1001 (7 : UInt8) ≠ [] := List.cons_ne_nil _ _
  have admitted : (List.replicate 1001 (7 : UInt8)).length / simVideoSize <
      Sender.maxSplitNumber := by
    rw [length]
    decide
  have ⟨after, calls, sent, _, paced⟩ := pacer_order_iff
    (show (Sender.create ⟨4321, 0x0a000402⟩).start.running = true from rfl) filled admitted 96 1 5
  refine ⟨after, calls, sent, paced.mpr ?_⟩
  rw [length]
  decide

end StupidSimple.Mininet
