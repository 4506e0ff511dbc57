import StupidSimple.Library.Pieces
import StupidSimple.Mininet.PendingBuffer
import StupidSimple.Quic.VideoSender

/-!
Owns `FrameSplit`, of which there is a copy in `sender.cc` and one in `my_quic_utils.cc`,
as it fills the array of its callers: counters of 16 bits, and a write behind the array
is undefined.

`frame_split_lossless` says that both copies fill in the same chunks, the fewest there
are, and that the segments of `SendVideo` carry the bytes of the frame in order.
-/

namespace StupidSimple.Mininet

open StupidSimple.Library

/-! ### The array -/

/-- The `uint16_t splits[MAX_SPLIT_NUMBER]` of the callers. -/
abbrev SplitArray := { splits : List UInt16 // splits.length = Sender.maxSplitNumber }

/-- `splits[index] = value` -/
def writeSplit (index value : UInt16) (splits : SplitArray) : Option SplitArray :=
  if index.toNat < Sender.maxSplitNumber then
    some ⟨splits.1.set index.toNat value, List.length_set.trans splits.2⟩
  else none

theorem toNat_add_one {i ret : UInt16} (below : i < ret) : (i + 1).toNat = i.toNat + 1 := by
  have order : i.toNat < ret.toNat := below
  have bound := ret.toNat_lt
  rw [UInt16.toNat_add]
  exact Nat.mod_eq_of_lt (by simp only [UInt16.toNat_one]; omega)

/-- The loop over the full chunks. -/
def fillSplits (videoSize ret i : UInt16) (splits : SplitArray) : Option SplitArray :=
  if i < ret then do
    let splits ← writeSplit i videoSize splits
    fillSplits videoSize ret (i + 1) splits
  else some splits
termination_by ret.toNat - i.toNat
decreasing_by
  next below =>
    have order : i.toNat < ret.toNat := below
    have next := toNat_add_one below
    omega

/-- `FrameSplit` with its maximum. The size is a `size_t`. -/
def splitFrame (videoSize : UInt16) (splits : SplitArray) (size : Nat) :
    Option (UInt16 × SplitArray) :=
  if size ≤ videoSize.toNat then do
    let splits ← writeSplit 0 (UInt16.ofNat size) splits
    some (1, splits)
  else do
    let ret := UInt16.ofNat (size / videoSize.toNat)
    let splits ← fillSplits videoSize ret 0 splits
    let remainSize := UInt16.ofNat (size % videoSize.toNat)
    if 0 < remainSize then do
      let splits ← writeSplit ret remainSize splits
      some (ret + 1, splits)
    else some (ret, splits)

/-- The static function of `sender.cc`. -/
def Sender.fillFrameSplit (splits : SplitArray) (size : Nat) : Option (UInt16 × SplitArray) :=
  splitFrame (UInt16.ofNat simVideoSize) splits size

/-- The function of `my_quic_utils.cc`. -/
def quicFillFrameSplit (splits : SplitArray) (size : Nat) : Option (UInt16 × SplitArray) :=
  splitFrame (UInt16.ofNat Quic.quicMaxVideoSize) splits size

/-! ### What it fills in -/

theorem writeSplit_spec {index : UInt16} (inside : index.toNat < Sender.maxSplitNumber)
    (value : UInt16) (splits : SplitArray) :
    ∃ after, writeSplit index value splits = some after ∧
      ∀ j, after.1[j]? = if j = index.toNat then some value else splits.1[j]? := by
  refine ⟨_, if_pos inside, fun j => ?_⟩
  have within : index.toNat < splits.1.length := inside.trans_eq splits.2.symm
  rw [List.getElem?_set]
  by_cases same : index.toNat = j
  · rw [if_pos same, if_pos within, if_pos same.symm]
  · rw [if_neg same, if_neg (Ne.symm same)]

theorem fillSplits_spec (videoSize : UInt16) {ret : UInt16}
    (inside : ret.toNat ≤ Sender.maxSplitNumber) (i : UInt16) (splits : SplitArray) :
    ∃ after, fillSplits videoSize ret i splits = some after ∧
      ∀ j, after.1[j]? =
        if i.toNat ≤ j ∧ j < ret.toNat then some videoSize else splits.1[j]? := by
  fun_induction fillSplits videoSize ret i splits with
  | case1 i splits below inductionHypothesis =>
      have order : i.toNat < ret.toNat := below
      obtain ⟨written, wrote, entry⟩ := writeSplit_spec (order.trans_le inside) videoSize splits
      obtain ⟨after, filled, entries⟩ := inductionHypothesis written
      refine ⟨after, ?_, fun j => ?_⟩
      · rw [wrote]
        exact filled
      · rw [entries, entry, toNat_add_one below]
        split_ifs <;> first | rfl | omega
  | case2 i splits done =>
      refine ⟨splits, rfl, fun j => ?_⟩
      have order : ret.toNat ≤ i.toNat := UInt16.not_lt.mp done
      rw [if_neg (by omega)]

/-- An array whose entries are known up to `count`, and old behind. -/
theorem eq_append_drop {entries after before : List UInt16}
    (front : ∀ j < entries.length, after[j]? = entries[j]?)
    (behind : ∀ j, entries.length ≤ j → after[j]? = before[j]?) :
    after = entries ++ before.drop entries.length := by
  apply List.ext_getElem?
  intro j
  by_cases within : j < entries.length
  · rw [front j within, List.getElem?_append_left within]
  · have beyond := Nat.le_of_not_lt within
    rw [behind j beyond, List.getElem?_append_right beyond, List.getElem?_drop,
      Nat.add_sub_cancel' beyond]

/-- The chunks of a frame as the array holds them. -/
def splitEntries (videoSize : UInt16) (size : Nat) : List UInt16 :=
  (pieces videoSize.toNat size).map UInt16.ofNat

section Split

variable {videoSize : UInt16} {size : Nat}

theorem splitFrame_small (small : size ≤ videoSize.toNat) (splits : SplitArray) :
    ∃ total after, splitFrame videoSize splits size = some (total, after) ∧
      total.toNat = (splitEntries videoSize size).length ∧
      after.1 = splitEntries videoSize size ++
        splits.1.drop (splitEntries videoSize size).length := by
  have alone : splitEntries videoSize size = [UInt16.ofNat size] := by
    rw [splitEntries, pieces, if_pos small]
    rfl
  obtain ⟨written, wrote, entry⟩ :=
    writeSplit_spec (show (0 : UInt16).toNat < _ from by decide) (UInt16.ofNat size) splits
  have ran : splitFrame videoSize splits size = some (1, written) := by
    rw [splitFrame, if_pos small, wrote]
    rfl
  rw [alone]
  refine ⟨1, written, ran, rfl, eq_append_drop (fun j below => ?_) (fun j beyond => ?_)⟩
  · have first : j = 0 := Nat.lt_one_iff.mp below
    rw [entry, first]
    rfl
  · have later : 1 ≤ j := beyond
    rw [entry, UInt16.toNat_zero, if_neg (by omega)]

/-- Behind the full chunks the rest is written, when there is one. -/
theorem splitFrame_large (positive : 0 < videoSize.toNat) (large : ¬size ≤ videoSize.toNat)
    (admitted : size / videoSize.toNat < Sender.maxSplitNumber) (splits : SplitArray) :
    ∃ total after, splitFrame videoSize splits size = some (total, after) ∧
      total.toNat = (splitEntries videoSize size).length ∧
      after.1 = splitEntries videoSize size ++
        splits.1.drop (splitEntries videoSize size).length := by
  have maximum : Sender.maxSplitNumber = 1024 := rfl
  let ret := UInt16.ofNat (size / videoSize.toNat)
  let remainSize := UInt16.ofNat (size % videoSize.toNat)
  have count : ret.toNat = size / videoSize.toNat :=
    UInt16.toNat_ofNat_of_lt' (show _ < 2 ^ 16 by omega)
  have rest : remainSize.toNat = size % videoSize.toNat :=
    UInt16.toNat_ofNat_of_lt' ((Nat.mod_lt size positive).trans videoSize.toNat_lt)
  have left : 0 < remainSize ↔ 0 < size % videoSize.toNat := by
    rw [UInt16.lt_iff_toNat_lt, rest, UInt16.toNat_zero]
  obtain ⟨filled, fill, full⟩ :=
    fillSplits_spec videoSize (count.trans_le (Nat.le_of_lt admitted)) 0 splits
  have front (j : Nat) (below : j < ret.toNat) : filled.1[j]? = some videoSize := by
    rw [full, if_pos ⟨Nat.zero_le j, below⟩]
  have behind (j : Nat) (beyond : ret.toNat ≤ j) : filled.1[j]? = splits.1[j]? := by
    rw [full, if_neg (by omega)]
  have filledAll : splitFrame videoSize splits size = if 0 < remainSize then
      (writeSplit ret remainSize filled).bind fun splits => some (ret + 1, splits)
      else some (ret, filled) := by
    rw [splitFrame, if_neg large]
    show (fillSplits videoSize ret 0 splits).bind _ = _
    rw [fill]
    rfl
  have whole : List.replicate (size / videoSize.toNat) videoSize =
      (List.replicate (size / videoSize.toNat) videoSize.toNat).map UInt16.ofNat := by
    rw [List.map_replicate, UInt16.ofNat_toNat]
  by_cases remains : 0 < size % videoSize.toNat
  · have divided : splitEntries videoSize size =
        List.replicate ret.toNat videoSize ++ [remainSize] := by
      rw [splitEntries, pieces, if_neg large, if_pos remains, List.map_append, ← whole, count]
      rfl
    obtain ⟨written, wrote, entry⟩ := writeSplit_spec (count.trans_lt admitted) remainSize filled
    have below : ret < 1024 := UInt16.lt_iff_toNat_lt.mpr (count.trans_lt admitted)
    have ran : splitFrame videoSize splits size = some (ret + 1, written) := by
      rw [filledAll, if_pos (left.mpr remains), wrote]
      rfl
    have length : (List.replicate ret.toNat videoSize ++ [remainSize]).length = ret.toNat + 1 := by
      rw [List.length_append, List.length_replicate]
      rfl
    rw [divided]
    refine ⟨_, written, ran, (toNat_add_one below).trans length.symm, eq_append_drop ?_ ?_⟩
    · intro j inside
      rw [length] at inside
      rw [entry]
      by_cases last : j = ret.toNat
      · rw [if_pos last, last, List.getElem?_append_right (by rw [List.length_replicate]),
          List.length_replicate, Nat.sub_self]
        rfl
      · rw [if_neg last, front j (by omega), List.getElem?_append_left (by
          rw [List.length_replicate]; omega), List.getElem?_replicate, if_pos (by omega)]
    · intro j beyond
      rw [length] at beyond
      rw [entry, if_neg (by omega), behind j (by omega)]
  · have divided : splitEntries videoSize size = List.replicate ret.toNat videoSize := by
      rw [splitEntries, pieces, if_neg large, if_neg remains, List.append_nil, ← whole, count]
    have ran : splitFrame videoSize splits size = some (ret, filled) := by
      rw [filledAll, if_neg (left.not.mpr remains)]
    rw [divided]
    refine ⟨_, filled, ran, List.length_replicate.symm, eq_append_drop ?_ ?_⟩
    · intro j inside
      rw [List.length_replicate] at inside
      rw [front j inside, List.getElem?_replicate, if_pos inside]
    · intro j beyond
      rw [List.length_replicate] at beyond
      exact behind j beyond

/-- The chunks stand at the front of the array, and nothing behind them is touched. -/
theorem splitFrame_spec (positive : 0 < videoSize.toNat)
    (admitted : size / videoSize.toNat < Sender.maxSplitNumber) (splits : SplitArray) :
    ∃ total after, splitFrame videoSize splits size = some (total, after) ∧
      total.toNat = (splitEntries videoSize size).length ∧
      after.1 = splitEntries videoSize size ++
        splits.1.drop (splitEntries videoSize size).length := by
  by_cases small : size ≤ videoSize.toNat
  · exact splitFrame_small small splits
  · exact splitFrame_large positive small admitted splits

end Split

/-! ### The segments -/

namespace Sender

theorem map_frameSplit (size : Nat) :
    (frameSplit size).map Subtype.val = pieces simVideoSize size := by
  unfold frameSplit pieces
  by_cases small : size ≤ simVideoSize
  · rw [dif_pos small, if_pos small]
    rfl
  · rw [dif_neg small, if_neg small, List.map_append, List.map_replicate]
    split_ifs <;> rfl

theorem map_cutFrame (splits : List { size : Nat // size ≤ simVideoSize }) (data : List UInt8) :
    (cutFrame splits data).map Subtype.val = cut (splits.map Subtype.val) data := by
  induction splits generalizing data with
  | nil => rfl
  | cons size rest inductionHypothesis =>
      rw [cutFrame, List.map_cons, inductionHypothesis]
      rfl

/-- What tells the segments of a frame apart. -/
def place (seg : SimSegment) : UInt16 × UInt16 × Buffer simVideoSize :=
  (seg.index, seg.transportSeq, seg.data)

/-- The loop of `SendVideo` numbers the chunks in their order. -/
theorem queueSegments_created (frame : FrameInfo) (i : UInt16)
    (chunks : List (Buffer simVideoSize)) (queue : FrameQueue) :
    ∃ made, (queueSegments frame i chunks queue).created = queue.created ++ made ∧
      (∀ seg ∈ made, seg.total = frame.total) ∧
      made.map place = chunks.mapIdx fun j chunk =>
        (i + UInt16.ofNat j, queue.sender.transSeq + UInt16.ofNat j, chunk) := by
  induction chunks generalizing i queue with
  | nil => exact ⟨[], (List.append_nil _).symm, fun _ => nofun, rfl⟩
  | cons chunk rest inductionHypothesis =>
      have ⟨made, created, totals, places⟩ :=
        inductionHypothesis (i + 1) (queueSegment frame i chunk queue)
      let seg := queue.sender.newSegment frame i chunk
      refine ⟨seg :: made, created.trans (List.append_assoc _ _ _), ?_, ?_⟩
      · exact List.forall_mem_cons.mpr ⟨rfl, totals⟩
      · rw [List.map_cons, places, List.mapIdx_cons]
        have zero (number : UInt16) : number + UInt16.ofNat 0 = number :=
          UInt16.add_zero number
        simp only [zero, add_ofNat_succ]
        rfl

/-- The segments of a frame: their places in it, and the number of all. -/
theorem sendVideo_segments {sender : Sender} (running : sender.running = true)
    {data : List UInt8} (filled : data ≠ [])
    (admitted : data.length / simVideoSize < maxSplitNumber) (payloadType : UInt8)
    (ftype : Int32) (now : Int64) :
    ∃ after calls, sender.sendVideo payloadType ftype data now = some (after, calls) ∧
      (∀ seg ∈ createdSegments calls,
        seg.total = UInt16.ofNat (pieces simVideoSize data.length).length) ∧
      (createdSegments calls).map place =
        (cutFrame (frameSplit data.length) data).mapIdx fun j chunk =>
          (UInt16.ofNat j, sender.transSeq + UInt16.ofNat j, chunk) := by
  have nonempty : ¬data.length = 0 := fun zero => filled (List.eq_nil_of_length_eq_zero zero)
  have sameNumber : (sender.startClock now).transSeq = sender.transSeq := by
    unfold startClock
    split <;> rfl
  have count : (frameSplit data.length).length = (pieces simVideoSize data.length).length := by
    rw [← map_frameSplit, List.length_map]
  have ⟨made, created, totals, places⟩ := queueSegments_created
    ⟨payloadType, ftype.toUInt32.toUInt8, toUInt32 (now - (sender.startClock now).firstTs),
      UInt16.ofNat (frameSplit data.length).length⟩ 0 (cutFrame (frameSplit data.length) data)
    ⟨sender.startClock now, .empty, []⟩
  rw [sendVideo, if_neg (by rw [running]; decide), if_neg nonempty, if_pos admitted]
  refine ⟨_, _, rfl, ?_, ?_⟩
  · rw [createdSegments_frame, created, ← count]
    exact totals
  · rw [createdSegments_frame, created, ← sameNumber]
    simp only [UInt16.zero_add] at places
    exact places

end Sender

/-! ### Both copies -/

/-- The frame is divided into chunks that are not empty, and into the fewest. -/
structure Divided (videoSize size : Nat) (chunks : List Nat) : Prop where
  bounded : ∀ chunk ∈ chunks, 1 ≤ chunk ∧ chunk ≤ videoSize
  sum : chunks.sum = size
  fewest : ∀ division : List Nat, (∀ chunk ∈ division, chunk ≤ videoSize) →
    division.sum = size → chunks.length ≤ division.length

/-- The segments stand in the order of their indices and carry the chunks of the frame. -/
structure Carried (total : UInt16) (chunks : List Nat) (data : List UInt8)
    (segments : List SimSegment) : Prop where
  indices : segments.map SimSegment.index = (List.range total.toNat).map UInt16.ofNat
  totals : ∀ seg ∈ segments, seg.total = total
  lengths : segments.map (fun seg => seg.data.1.length) = chunks
  bytes : segments.flatMap (fun seg => seg.data.1) = data

theorem divided_pieces {videoSize size : Nat} (positive : 0 < videoSize) (filled : 0 < size) :
    Divided videoSize size (pieces videoSize size) where
  bounded _ member := mem_pieces filled positive member
  sum := sum_pieces videoSize size
  fewest _ small sum := length_pieces_le filled positive small sum

theorem toNat_splitEntries {videoSize : UInt16} (positive : 0 < videoSize.toNat) {size : Nat}
    (filled : 0 < size) :
    (splitEntries videoSize size).map UInt16.toNat = pieces videoSize.toNat size := by
  rw [splitEntries, List.map_map]
  refine (List.map_congr_left fun chunk member => ?_).trans (List.map_id _)
  have bounded := (mem_pieces filled positive member).2
  exact UInt16.toNat_ofNat_of_lt' (bounded.trans_lt videoSize.toNat_lt)

section Indexed

variable {α β γ : Type} (items : List α)

theorem map_mapIdx (place : Nat → α → β) (function : β → γ) :
    (items.mapIdx place).map function = items.mapIdx fun j item => function (place j item) := by
  apply List.ext_getElem?
  intro j
  rw [List.getElem?_map, List.getElem?_mapIdx, List.getElem?_mapIdx, Option.map_map]
  rfl

theorem mapIdx_index (function : Nat → γ) :
    (items.mapIdx fun j _ => function j) = (List.range items.length).map function := by
  apply List.ext_getElem?
  intro j
  rw [List.getElem?_mapIdx, List.getElem?_map]
  by_cases inside : j < items.length
  · rw [List.getElem?_eq_getElem inside, List.getElem?_range inside]
    rfl
  · rw [List.getElem?_eq_none (by omega), List.getElem?_eq_none (by rw [List.length_range]; omega)]
    rfl

theorem mapIdx_item (function : α → γ) :
    (items.mapIdx fun _ item => function item) = items.map function := by
  apply List.ext_getElem?
  intro j
  rw [List.getElem?_mapIdx, List.getElem?_map]

end Indexed

theorem carried_sendVideo {segments : List SimSegment} {data : List UInt8} {first : UInt16}
    (few : (pieces simVideoSize data.length).length < 2 ^ 16)
    (totals : ∀ seg ∈ segments,
      seg.total = UInt16.ofNat (pieces simVideoSize data.length).length)
    (places : segments.map Sender.place =
      (Sender.cutFrame (Sender.frameSplit data.length) data).mapIdx fun j chunk =>
        (UInt16.ofNat j, first + UInt16.ofNat j, chunk)) :
    Carried (UInt16.ofNat (pieces simVideoSize data.length).length)
      (pieces simVideoSize data.length) data segments := by
  let parts := Sender.cutFrame (Sender.frameSplit data.length) data
  have sizes := Sender.map_frameSplit data.length
  have length : parts.length = (pieces simVideoSize data.length).length := by
    rw [Sender.length_cutFrame, ← sizes, List.length_map]
  have index : segments.map SimSegment.index =
      (List.range parts.length).map UInt16.ofNat := by
    have mapped := congrArg (List.map Prod.fst) places
    rwa [List.map_map, map_mapIdx, mapIdx_index] at mapped
  have chunks : segments.map (fun seg => seg.data.1) =
      cut (pieces simVideoSize data.length) data := by
    have mapped := congrArg (List.map fun place => place.2.2.1) places
    rw [List.map_map, map_mapIdx, mapIdx_item] at mapped
    rw [← sizes, ← Sender.map_cutFrame]
    exact mapped
  refine ⟨?_, totals, ?_, ?_⟩
  · rw [index, length, UInt16.toNat_ofNat_of_lt' few]
  · have measured := congrArg (List.map List.length) chunks
    rw [List.map_map] at measured
    exact measured.trans (map_length_cut (sum_pieces _ _).le)
  · rw [List.flatMap_def, chunks, flatten_cut, sum_pieces, List.take_length]

/-- The first chunks of the array, and what is behind them. -/
structure FilledIn (total : UInt16) (chunks : List Nat) (before after : SplitArray) : Prop where
  chunks : (after.1.take total.toNat).map UInt16.toNat = chunks
  behind : after.1.drop total.toNat = before.1.drop total.toNat

theorem splitFrame_filledIn {videoSize : UInt16} (positive : 0 < videoSize.toNat) {size : Nat}
    (filled : 0 < size) (admitted : size / videoSize.toNat < Sender.maxSplitNumber)
    (splits : SplitArray) :
    ∃ after, splitFrame videoSize splits size =
        some (UInt16.ofNat (pieces videoSize.toNat size).length, after) ∧
      FilledIn (UInt16.ofNat (pieces videoSize.toNat size).length) (pieces videoSize.toNat size)
        splits after := by
  obtain ⟨total, after, ran, count, entries⟩ := splitFrame_spec positive admitted splits
  have length : (splitEntries videoSize size).length = (pieces videoSize.toNat size).length :=
    List.length_map _
  have same : total = UInt16.ofNat (pieces videoSize.toNat size).length := by
    rw [← length, ← count, UInt16.ofNat_toNat]
  refine ⟨after, same ▸ ran, ?_⟩
  rw [← same]
  constructor
  · rw [entries, count, List.take_left, toNat_splitEntries positive filled]
  · rw [entries, count, List.drop_left]

/-- For a size that the callers admit, both copies return the same count and fill in the
same chunks, inside the array. They are as few as can be, not empty and not too large, and
make up the size. The callers go on with these, and the segments of a frame carry all of
its bytes in the order of their indices. -/
theorem frame_split_lossless {size : Nat} (filled : 0 < size)
    (admitted : size / simVideoSize < Sender.maxSplitNumber) (splits quicSplits : SplitArray) :
    ∃ total chunks after quicAfter,
      Sender.fillFrameSplit splits size = some (total, after) ∧
      quicFillFrameSplit quicSplits size = some (total, quicAfter) ∧
      FilledIn total chunks splits after ∧ FilledIn total chunks quicSplits quicAfter ∧
      total.toNat = chunks.length ∧ Divided simVideoSize size chunks ∧
      Quic.frameChunks size = some chunks ∧
      ∀ (sender : Sender) (payloadType : UInt8) (ftype : Int32) (data : List UInt8) (now : Int64),
        sender.running = true → data.length = size →
        ∃ sent calls, sender.sendVideo payloadType ftype data now = some (sent, calls) ∧
          Carried total chunks data (createdSegments calls) := by
  have positive : 0 < (UInt16.ofNat simVideoSize).toNat := by decide
  have few : (pieces simVideoSize size).length < 2 ^ 16 := by
    rw [length_pieces filled (by decide)]
    simp only [simVideoSize, Sender.maxSplitNumber] at admitted ⊢
    omega
  obtain ⟨after, ran, here⟩ := splitFrame_filledIn positive filled admitted splits
  obtain ⟨quicAfter, quicRan, there⟩ := splitFrame_filledIn positive filled admitted quicSplits
  have framed : Quic.frameChunks size = some (pieces simVideoSize size) := by
    have inside : (size : Int) / Quic.quicMaxVideoSize < Quic.maxSplitNumber := by
      have whole : (size : Int) / (1000 : Nat) < (1024 : Nat) := by exact_mod_cast admitted
      exact whole
    rw [Quic.frameChunks, if_pos (by omega), if_pos inside]
    rfl
  refine ⟨_, pieces simVideoSize size, after, quicAfter, ran, quicRan, here, there,
    UInt16.toNat_ofNat_of_lt' few, divided_pieces (by decide) filled, framed, ?_⟩
  intro sender payloadType ftype data now running length
  subst length
  have some_ : data ≠ [] := List.ne_nil_of_length_pos filled
  obtain ⟨sent, calls, video, totals, places⟩ :=
    Sender.sendVideo_segments running some_ admitted payloadType ftype now
  exact ⟨sent, calls, video, carried_sendVideo few totals places⟩

/-- A frame of three full chunks and one of a single byte. -/
theorem frame_split_3001 :
    ∃ total after sent calls,
      Sender.fillFrameSplit ⟨List.replicate 1024 0, List.length_replicate⟩ 3001 =
        some (total, after) ∧
      (after.1.take total.toNat).map UInt16.toNat = [1000, 1000, 1000, 1] ∧
      (Sender.create ⟨4321, 0x0a000402⟩).start.sendVideo 96 1 (List.replicate 3001 7) 5 =
        some (sent, calls) ∧
      Carried total [1000, 1000, 1000, 1] (List.replicate 3001 7) (createdSegments calls) := by
  have filled : 0 < 3001 := by decide
  obtain ⟨total, chunks, after, _, ran, _, here, _, _, _, framed, video⟩ :=
    frame_split_lossless filled (by decide) ⟨List.replicate 1024 0, List.length_replicate⟩
      ⟨List.replicate 1024 0, List.length_replicate⟩
  obtain rfl : [1000, 1000, 1000, 1] = chunks :=
    Option.some.inj ((show some [1000, 1000, 1000, 1] = _ by decide).trans framed)
  obtain ⟨sent, calls, ran', carried⟩ := video (Sender.create ⟨4321, 0x0a000402⟩).start 96 1
    (List.replicate 3001 7) 5 rfl List.length_replicate
  exact ⟨total, after, sent, calls, ran, here.chunks, ran', carried⟩

end StupidSimple.Mininet
