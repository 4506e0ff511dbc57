import StupidSimple.Mininet.SenderSteps
import Mathlib.Algebra.Order.Group.Multiset
import Mathlib.Tactic.Abel

/-!
Owns the account of the segments between `SendVideo` and `TimeToSendPacket`. Each
segment is in `pending_buf_`, was sent, or was lost: `std::map::insert` keeps an entry
that is there, and its key is a counter of 16 bits.

`segments_conserved_iff` says that no segment of a run is lost exactly when each
`SendVideo` finds the keys it hands out free.
-/

namespace StupidSimple.Mininet

open StupidSimple.Library

namespace Sender

variable {sender after : Sender} {calls : List SenderCall}

/-! ### Frames -/

/-- Each segment of the buffer is under its own number and not yet stamped. -/
def Stored (sender : Sender) : Prop :=
  ∀ entry ∈ sender.pendingBuf.entries, entry.2.transportSeq = entry.1 ∧ entry.2.sendTs = 0

/-- The next `count` transport numbers are not in the buffer. -/
def NumbersFree (count : Nat) (sender : Sender) : Prop :=
  ∀ i < count, sender.pendingBuf.find? (sender.transSeq + UInt16.ofNat i) = none

theorem add_ofNat_succ (number : UInt16) (i : Nat) :
    number + UInt16.ofNat (i + 1) = number + 1 + UInt16.ofNat i := by
  rw [UInt16.ofNat_add, UInt16.add_comm (UInt16.ofNat i), ← UInt16.add_assoc]
  rfl

theorem add_ofNat_ne_self {number : UInt16} {i : Nat} (positive : 0 < i) (small : i < 2 ^ 16) :
    number + UInt16.ofNat i ≠ number := by
  intro same
  have zero : UInt16.ofNat i = 0 := UInt16.add_eq_left.mp same
  have value : (UInt16.ofNat i).toNat = i := UInt16.toNat_ofNat_of_lt' small
  rw [zero] at value
  exact positive.ne value

/-- The numbers of one frame do not meet each other. -/
theorem numbersFree_succ {count : Nat} (few : count + 1 ≤ 2 ^ 16) (queue : FrameQueue)
    (frame : FrameInfo) (i : UInt16) (chunk : Buffer simVideoSize) :
    queue.sender.NumbersFree (count + 1) ↔
      queue.sender.pendingBuf.find? queue.sender.transSeq = none ∧
        (queueSegment frame i chunk queue).sender.NumbersFree count := by
  have others : (queueSegment frame i chunk queue).sender.NumbersFree count ↔
      ∀ j < count, queue.sender.pendingBuf.find?
        (queue.sender.transSeq + UInt16.ofNat (j + 1)) = none := by
    refine forall₂_congr fun j below => ?_
    have apart : queue.sender.transSeq + UInt16.ofNat (j + 1) ≠ queue.sender.transSeq :=
      add_ofNat_ne_self (Nat.succ_pos j) (by omega)
    show ((queue.sender.pendingBuf.insert queue.sender.transSeq _).find?
      (queue.sender.transSeq + 1 + UInt16.ofNat j)) = none ↔ _
    rw [← add_ofNat_succ, OrderedMap.find?_insert_of_ne apart]
  rw [others]
  constructor
  · intro free
    have first := free 0 (Nat.succ_pos count)
    rw [show UInt16.ofNat 0 = 0 from rfl, UInt16.add_zero] at first
    exact ⟨first, fun j below => free (j + 1) (Nat.succ_lt_succ below)⟩
  · rintro ⟨first, rest⟩ j below
    cases j with
    | zero => rwa [show UInt16.ofNat 0 = 0 from rfl, UInt16.add_zero]
    | succ j => exact rest j (Nat.lt_of_succ_lt_succ below)

theorem stored_queueSegment {queue : FrameQueue} (stored : queue.sender.Stored)
    (frame : FrameInfo) (i : UInt16) (chunk : Buffer simVideoSize) :
    (queueSegment frame i chunk queue).sender.Stored := by
  intro entry member
  cases OrderedMap.mem_insert.mp member with
  | inl old => exact stored entry old
  | inr new =>
      rw [new.1]
      exact ⟨rfl, rfl⟩

theorem stored_queueSegments {queue : FrameQueue} (stored : queue.sender.Stored)
    (frame : FrameInfo) (i : UInt16) (chunks : List (Buffer simVideoSize)) :
    (queueSegments frame i chunks queue).sender.Stored := by
  induction chunks generalizing i queue with
  | nil => exact stored
  | cons chunk rest inductionHypothesis =>
      exact inductionHypothesis (stored_queueSegment stored frame i chunk) (i + 1)

/-- The loop puts each segment into the buffer, or loses it when its number is taken. -/
theorem queueSegments_accounts {chunks : List (Buffer simVideoSize)}
    (few : chunks.length ≤ 2 ^ 16) (frame : FrameInfo) (i : UInt16) (queue : FrameQueue) :
    ∃ made lost, (queueSegments frame i chunks queue).created = queue.created ++ made ∧
      (queue.sender.pendingSegments ++ made).Perm
        ((queueSegments frame i chunks queue).sender.pendingSegments ++ lost) ∧
      (lost = [] ↔ queue.sender.NumbersFree chunks.length) := by
  induction chunks generalizing i queue with
  | nil =>
      refine ⟨[], [], (List.append_nil _).symm, List.Perm.refl _, ?_⟩
      exact iff_of_true rfl fun _ below => absurd below (Nat.not_lt_zero _)
  | cons chunk rest inductionHypothesis =>
      let seg := queue.sender.newSegment frame i chunk
      have ⟨made, lost, created, balance, free⟩ := inductionHypothesis
        ((Nat.le_succ _).trans few) (i + 1) (queueSegment frame i chunk queue)
      have createdAll : (queueSegments frame i (chunk :: rest) queue).created =
          queue.created ++ (seg :: made) :=
        created.trans (List.append_assoc _ _ _)
      rw [List.length_cons, numbersFree_succ few queue frame i chunk]
      by_cases key : queue.sender.pendingBuf.find? queue.sender.transSeq = none
      · have entered : ((queueSegment frame i chunk queue).sender.pendingSegments).Perm
            (seg :: queue.sender.pendingSegments) :=
          (OrderedMap.entries_insert_perm key).map Prod.snd
        refine ⟨seg :: made, lost, createdAll, ?_, ?_⟩
        · exact (List.perm_middle.trans (entered.symm.append_right made)).trans balance
        · rw [free, and_iff_right key]
      · have ignored : (queueSegment frame i chunk queue).sender.pendingSegments =
            queue.sender.pendingSegments :=
          congrArg (fun map => map.entries.map Prod.snd) (OrderedMap.insert_of_find? key)
        rw [ignored] at balance
        refine ⟨seg :: made, seg :: lost, createdAll, ?_, ?_⟩
        · exact (List.perm_middle.trans (balance.cons seg)).trans List.perm_middle.symm
        · exact iff_of_false (List.cons_ne_nil _ _) fun both => key both.1

theorem length_cutFrame (splits : List { size : Nat // size ≤ simVideoSize })
    (data : List UInt8) : (cutFrame splits data).length = splits.length := by
  induction splits generalizing data with
  | nil => rfl
  | cons size rest inductionHypothesis =>
      rw [cutFrame, List.length_cons, List.length_cons, inductionHypothesis]

theorem length_frameSplit_le (size : Nat) :
    (frameSplit size).length ≤ size / simVideoSize + 1 := by
  unfold frameSplit
  dsimp only
  split_ifs
  · exact Nat.le_add_left 1 _
  · rw [List.length_append, List.length_replicate]
    rfl
  · rw [List.length_append, List.length_replicate]
    exact Nat.le_succ _

/-! ### Steps -/

/-- A frame finds the numbers of its segments free. -/
def KeysFree (sender : Sender) : SenderEvent → Prop
  | .sendVideo _ _ data _ =>
      sender.running = true → data ≠ [] → sender.NumbersFree (frameSplit data.length).length
  | _ => True

/-- What one step does to the segments. -/
structure Accounts (before : Sender) (event : SenderEvent) (calls : List SenderCall)
    (after : Sender) : Prop where
  stored : after.Stored
  balance : ∃ lost, (before.pendingSegments ++ createdSegments calls).Perm
      (after.pendingSegments ++ (sentSegments calls).map SimSegment.unstamped ++ lost) ∧
    (lost = [] ↔ before.KeysFree event)

theorem Quiet.accounts {event : SenderEvent} (quiet : Quiet sender calls after)
    (stored : sender.Stored) (free : sender.KeysFree event) :
    Accounts sender event calls after where
  stored := fun entry member => stored entry (quiet.pendingBuf ▸ member)
  balance := by
    refine ⟨[], ?_, iff_of_true rfl free⟩
    rw [quiet.created, quiet.sent, pendingSegments, pendingSegments, quiet.pendingBuf]
    simp

theorem sendVideo_accounts (stored : sender.Stored) {payloadType : UInt8} {ftype : Int32}
    {data : List UInt8} {now : Int64}
    (sent : sender.sendVideo payloadType ftype data now = some (after, calls)) :
    Accounts sender (.sendVideo payloadType ftype data now) calls after := by
  unfold sendVideo at sent
  split_ifs at sent with stopped empty admitted
  · cases sent
    refine (Quiet.refl sender).accounts stored fun running => ?_
    rw [stopped] at running
    contradiction
  · cases sent
    exact (Quiet.refl sender).accounts stored fun _ some =>
      absurd (List.eq_nil_of_length_eq_zero empty) some
  · cases sent
    have running : sender.running = true := Bool.eq_true_of_not_eq_false stopped
    have some : data ≠ [] := fun nil => empty (congrArg List.length nil)
    have sameBuffer : (sender.startClock now).pendingBuf = sender.pendingBuf := by
      unfold startClock
      split <;> rfl
    have sameNumber : (sender.startClock now).transSeq = sender.transSeq := by
      unfold startClock
      split <;> rfl
    have few : (cutFrame (frameSplit data.length) data).length ≤ 2 ^ 16 := by
      rw [length_cutFrame]
      have count := length_frameSplit_le data.length
      simp only [maxSplitNumber] at admitted
      omega
    have ⟨made, lost, created, balance, free⟩ := queueSegments_accounts few
      ⟨payloadType, ftype.toUInt32.toUInt8, toUInt32 (now - (sender.startClock now).firstTs),
        UInt16.ofNat (frameSplit data.length).length⟩ 0 ⟨sender.startClock now, .empty, []⟩
    rw [length_cutFrame, NumbersFree, sameBuffer, sameNumber] at free
    rw [pendingSegments, sameBuffer] at balance
    refine ⟨?_, lost, ?_, ?_⟩
    · apply stored_queueSegments
      intro entry member
      exact stored entry (sameBuffer ▸ member)
    · rw [createdSegments_frame, sentSegments_frame, created]
      exact balance.trans (List.append_nil _ ▸ List.Perm.refl _)
    · exact free.trans ⟨fun all _ _ => all, fun all => all running some⟩

theorem timeToSendPacket_accounts (stored : sender.Stored) {sequenceNumber : UInt16} {now : Int64}
    (sent : sender.timeToSendPacket sequenceNumber now = some (after, calls)) :
    Accounts sender (.timeToSendPacket sequenceNumber now) calls after := by
  unfold timeToSendPacket getSegment at sent
  cases found : sender.pendingBuf.find? sequenceNumber with
  | none =>
      rw [found] at sent
      cases sent
      exact (Quiet.refl sender).accounts stored trivial
  | some seg =>
      rw [found] at sent
      have ⟨⟨written, messages⟩, encoded, same⟩ := Option.bind_eq_some_iff.mp sent
      have ⟨message, strm, sameBody, sameCalls, sameAfter⟩ := sendMessage_cases encoded
      cases same
      subst sameCalls sameAfter
      rcases message with ⟨peer, header, body, data⟩
      cases sameBody
      have member := OrderedMap.find?_eq_some.mp found
      have original : (stamp (toUInt32 now)
          { sender with pendingBuf := sender.pendingBuf.erase sequenceNumber } seg).unstamped =
            seg := by
        have zero := (stored _ member).2
        cases seg
        cases zero
        rfl
      constructor
      · intro entry kept
        exact stored entry (OrderedMap.mem_erase.mp kept).1
      · refine ⟨[], ?_, iff_of_true rfl trivial⟩
        have taken : sender.pendingSegments.Perm
            (seg :: (sender.pendingBuf.erase sequenceNumber).entries.map Prod.snd) :=
          (OrderedMap.entries_erase_perm found).map Prod.snd
        show (sender.pendingSegments ++ []).Perm
          ((sender.pendingBuf.erase sequenceNumber).entries.map Prod.snd ++ [_] ++ [])
        rw [original, List.append_nil, List.append_nil]
        exact taken.trans (List.perm_append_singleton _ _).symm

theorem step_accounts (stored : sender.Stored) {event : SenderEvent}
    (stepped : machine.step sender event = some (after, calls)) :
    Accounts sender event calls after := by
  cases event with
  | start =>
      cases stepped
      exact Quiet.accounts ⟨rfl, rfl, rfl⟩ stored trivial
  | stop =>
      cases stepped
      exact Quiet.accounts ⟨rfl, rfl, rfl⟩ stored trivial
  | sendVideo => exact sendVideo_accounts stored stepped
  | timeToSendPacket => exact timeToSendPacket_accounts stored stepped
  | timeToSendPadding => exact (quiet_timeToSendPadding stepped).accounts stored trivial
  | sendPadding => exact (quiet_sendPadding stepped).accounts stored trivial
  | process => exact (quiet_process stepped).accounts stored trivial

/-- The calls of a history. -/
def callsOf (history : List (SenderEvent × List SenderCall)) : List SenderCall :=
  history.flatMap Prod.snd

/-- Every frame of the run finds its numbers free. -/
def AlwaysFree (start : Sender) (history : List (SenderEvent × List SenderCall)) : Prop :=
  ∀ transition ∈ machine.transitions start (history.map Prod.fst),
    transition.before.KeysFree transition.event

theorem alwaysFree_snoc {start state : Sender} {history : List (SenderEvent × List SenderCall)}
    {event : SenderEvent} (before : machine.Run start history state)
    (stepped : machine.step state event = some (after, calls)) :
    AlwaysFree start (history ++ [(event, calls)]) ↔
      AlwaysFree start history ∧ state.KeysFree event := by
  rw [AlwaysFree, AlwaysFree, List.map_append, List.map_singleton,
    before.transitions_snoc stepped, List.forall_mem_append, List.forall_mem_singleton]

/-- The books of a run and of one more step. -/
theorem balance_snoc {α : Type} {made before sent lost new after sentNow lostNow : List α}
    (books : made.Perm (before ++ sent ++ lost))
    (step : (before ++ new).Perm (after ++ sentNow ++ lostNow)) :
    (made ++ new).Perm (after ++ (sent ++ sentNow) ++ (lostNow ++ lost)) := by
  simp only [← Multiset.coe_eq_coe, ← Multiset.coe_add] at books step ⊢
  calc (made : Multiset α) + new
      = before + new + (sent + lost) := by rw [books]; abel
    _ = after + sentNow + lostNow + (sent + lost) := by rw [step]
    _ = after + (sent + sentNow) + (lostNow + lost) := by abel

/-- What a run does to the segments. -/
theorem run_accounts {start final : Sender} {history : List (SenderEvent × List SenderCall)}
    (fresh : start.pendingBuf = .empty) (run : machine.Run start history final) :
    final.Stored ∧ ∃ lost, (createdSegments (callsOf history)).Perm
        (final.pendingSegments ++ (sentSegments (callsOf history)).map SimSegment.unstamped ++
          lost) ∧
      (lost = [] ↔ AlwaysFree start history) := by
  induction run with
  | nil =>
      have none : start.pendingBuf.entries = [] := by rw [fresh, OrderedMap.entries_empty]
      refine ⟨fun entry member => ?_, [], ?_, iff_of_true rfl fun transition member => ?_⟩
      · rw [none] at member
        contradiction
      · rw [pendingSegments, none]
        exact List.Perm.refl _
      · exact absurd member List.not_mem_nil
  | @snoc history state after event calls before stepped inductionHypothesis =>
      have ⟨stored, lost, balance, free⟩ := inductionHypothesis
      have ⟨storedAfter, newly, stepBalance, stepFree⟩ := step_accounts stored stepped
      have sameCalls : callsOf (history ++ [(event, calls)]) = callsOf history ++ calls := by
        rw [callsOf, List.flatMap_append, List.flatMap_singleton]
        rfl
      refine ⟨storedAfter, newly ++ lost, ?_, ?_⟩
      · rw [sameCalls, createdSegments_append, sentSegments_append, List.map_append]
        exact balance_snoc balance stepBalance
      · rw [List.append_eq_nil_iff, free, stepFree, alwaysFree_snoc before stepped]
        exact and_comm

/-- Each segment ever made is in the buffer under its own number, or was sent once. -/
structure Conserved (history : List (SenderEvent × List SenderCall)) (sender : Sender) :
    Prop where
  keyed : ∀ entry ∈ sender.pendingBuf.entries, entry.2.transportSeq = entry.1
  once : (createdSegments (callsOf history)).Perm
    (sender.pendingSegments ++ (sentSegments (callsOf history)).map SimSegment.unstamped)

/-- Nothing is lost from a run that conserves its segments. -/
theorem Conserved.lost_eq_nil {history : List (SenderEvent × List SenderCall)}
    (conserved : Conserved history sender) {lost : List SimSegment}
    (balance : (createdSegments (callsOf history)).Perm (sender.pendingSegments ++
      (sentSegments (callsOf history)).map SimSegment.unstamped ++ lost)) : lost = [] := by
  have lengths := balance.length_eq.symm.trans conserved.once.length_eq
  rw [List.length_append] at lengths
  exact List.eq_nil_of_length_eq_zero (Nat.add_eq_left.mp lengths)

/-- No segment of a run is lost or sent twice exactly when every frame finds the numbers
of its segments free. -/
theorem segments_conserved_iff {start final : Sender}
    {history : List (SenderEvent × List SenderCall)} (fresh : start.pendingBuf = .empty)
    (run : machine.Run start history final) :
    Conserved history final ↔ AlwaysFree start history := by
  have ⟨stored, lost, balance, free⟩ := run_accounts fresh run
  rw [← free]
  constructor
  · exact fun conserved => conserved.lost_eq_nil balance
  · intro none
    rw [none, List.append_nil] at balance
    exact ⟨fun entry member => (stored entry member).1, balance⟩

/-- A frame of one byte that the pacer sends. -/
theorem segments_conserved_byte :
    ∃ history final, machine.Run (create ⟨4321, 0x0a000402⟩) history final ∧
      history.map Prod.fst = [.start, .sendVideo 0 0 [0] 0, .timeToSendPacket 1 5] ∧
      Conserved history final := by
  let origin := create ⟨4321, 0x0a000402⟩
  let seg : SimSegment := ⟨1, 1, 0, 0, 1, 0, 0, 1, 0, 1, ⟨[0], by decide⟩⟩
  have ⟨queued, frameCalls, framed, found, stream⟩ : ∃ queued calls,
      machine.step origin.start (.sendVideo 0 0 [0] 0) = some (queued, calls) ∧
        queued.pendingBuf.find? 1 = some seg ∧ queued.stream = binStreamInit :=
    ⟨_, _, rfl, by decide, rfl⟩
  let taken : Sender := { queued with pendingBuf := queued.pendingBuf.erase 1 }
  have allocated : 0 < taken.stream.size := by
    show 0 < queued.stream.size
    rw [stream]
    exact size_binStreamInit ▸ by decide
  have ⟨strm, sent, _⟩ :=
    taken.sendSegment_spec seg allocated (toUInt32 5)
  have ⟨final, sentCalls, paced⟩ : ∃ final calls,
      machine.step queued (.timeToSendPacket 1 5) = some (final, calls) := by
    show ∃ final calls, queued.timeToSendPacket 1 5 = some (final, calls)
    rw [timeToSendPacket, getSegment, found]
    show ∃ final calls, (taken.sendSegment seg (toUInt32 5)).bind _ = some (final, calls)
    rw [sent]
    exact ⟨_, _, rfl⟩
  have started : machine.Run origin [(.start, [])] origin.start := Machine.Run.nil.snoc rfl
  have waiting := started.snoc framed
  have run := waiting.snoc paced
  have free : AlwaysFree origin [(.start, []), (.sendVideo 0 0 [0] 0, frameCalls),
      (.timeToSendPacket 1 5, sentCalls)] := by
    apply (alwaysFree_snoc waiting paced).mpr
    refine ⟨(alwaysFree_snoc started framed).mpr ⟨?_, fun _ _ i _ => rfl⟩, trivial⟩
    exact (alwaysFree_snoc Machine.Run.nil rfl).mpr ⟨(fun _ member => nomatch member), trivial⟩
  exact ⟨_, final, run, rfl, (segments_conserved_iff rfl run).mpr free⟩

/-! ### A run across the wrap -/

/-- One padding packet of this length takes one number. -/
theorem sendPadding_defined (allocated : 0 < sender.stream.size)
    (stack : Vector UInt8 paddingDataSize) :
    ∃ after calls, sender.sendPadding 100 0 stack = some (after, calls) ∧
      0 < after.stream.size ∧ after.transSeq = sender.transSeq + 1 ∧
      after.pendingBuf = sender.pendingBuf ∧ after.running = sender.running := by
  have inside : (100 : UInt16).toNat ≤ paddingDataSize := by decide
  let pad : SimPad := ⟨0, sender.transSeq, stack.toList.take (100 : UInt16).toNat,
    (List.length_take_le _ _).trans inside⟩
  let numbered : Sender := { sender with transSeq := sender.transSeq + 1 }
  have emits : Emits BinStream.view (simEncodeBody simPad (.pad pad)) (padLayout pad) :=
    (codes_simPad pad).emits
  have ⟨strm, sent, allocatedAfter⟩ := numbered.sendMessage_spec emits allocated
  have padded : sender.sendPadding 100 0 stack =
      (numbered.sendMessage simPad (.pad pad)).bind fun result =>
        some (result.1, result.2 ++ [
          .addPacket sender.uid sender.transSeq (paddingHeaderLen + (100 : UInt16).toNat),
          .onSentPacket sender.transSeq (toInt64 0)]) := dif_pos inside
  rw [sent] at padded
  exact ⟨_, _, padded, allocatedAfter, rfl, rfl, rfl⟩

/-- Paddings move the number on and leave the buffer as it is. -/
theorem run_paddings {start : Sender} {history : List (SenderEvent × List SenderCall)}
    (run : machine.Run start history sender) (allocated : 0 < sender.stream.size)
    (stack : Vector UInt8 paddingDataSize) (count : Nat) :
    ∃ padded state, machine.Run start (history ++ padded) state ∧
      padded.map Prod.fst = List.replicate count (.sendPadding 100 0 stack) ∧
      0 < state.stream.size ∧ state.transSeq = sender.transSeq + UInt16.ofNat count ∧
      state.pendingBuf = sender.pendingBuf ∧ state.running = sender.running := by
  induction count with
  | zero => exact ⟨[], sender, by rwa [List.append_nil], rfl, allocated, (UInt16.add_zero _).symm,
      rfl, rfl⟩
  | succ count inductionHypothesis =>
      have ⟨padded, state, ran, events, room, number, buffer, running⟩ := inductionHypothesis
      have ⟨after, calls, stepped, roomAfter, numberAfter, bufferAfter, runningAfter⟩ :=
        sendPadding_defined room stack
      refine ⟨padded ++ [(.sendPadding 100 0 stack, calls)], after, ?_, ?_, roomAfter, ?_,
        bufferAfter.trans buffer, runningAfter.trans running⟩
      · rw [← List.append_assoc]
        exact ran.snoc stepped
      · rw [List.map_append, events, List.replicate_succ']
        rfl
      · rw [numberAfter, number, UInt16.ofNat_add, UInt16.add_assoc]
        rfl

theorem sendVideo_byte (running : sender.running = true) :
    ∃ after calls, machine.step sender (.sendVideo 0 0 [0] 0) = some (after, calls) ∧
      after.stream = sender.stream ∧ after.transSeq = sender.transSeq + 1 ∧
      after.pendingBuf.find? sender.transSeq ≠ none ∧ after.running = true := by
  let started := sender.startClock 0
  have same : started.stream = sender.stream ∧ started.transSeq = sender.transSeq ∧
      started.running = sender.running := by
    simp only [started, startClock]
    split <;> exact ⟨rfl, rfl, rfl⟩
  let frame : FrameInfo := ⟨0, 0, toUInt32 (0 - started.firstTs), 1⟩
  let queue := queueSegment frame 0 ⟨[0], by decide⟩ ⟨started, .empty, []⟩
  have sent : sender.sendVideo 0 0 [0] 0 =
      some ({ queue.sender with frameSeed := queue.sender.frameSeed + 1 },
        queue.created.map .newSegment ++ queue.seqLenMap.entries.map fun entry =>
          .insertPacket sender.uid entry.1 0 entry.2) := by
    rw [sendVideo, if_neg (by simp [running])]
    rfl
  refine ⟨_, _, sent, same.1, congrArg (· + 1) same.2.1, ?_, same.2.2.trans running⟩
  rw [← same.2.1]
  exact OrderedMap.find?_insert_ne_none.mpr (Or.inr rfl)

/-- One segment waits while the counter goes around, and the next one takes its number. -/
theorem segment_lost_at_wrap :
    ∃ history final, machine.Run (create ⟨4321, 0x0a000402⟩) history final ∧
      history.map Prod.fst = [.start, .sendVideo 0 0 [0] 0] ++
        List.replicate 65535 (.sendPadding 100 0 (Vector.replicate paddingDataSize 0)) ++
        [.sendVideo 0 0 [0] 0] ∧
      ¬Conserved history final := by
  let origin := create ⟨4321, 0x0a000402⟩
  have ⟨first, firstCalls, framed, sameStream, number, taken, running⟩ :=
    sendVideo_byte (show origin.start.running = true from rfl)
  have started : machine.Run origin [(.start, [])] origin.start := Machine.Run.nil.snoc rfl
  have waiting := started.snoc framed
  have allocated : 0 < first.stream.size := by
    rw [sameStream]
    exact size_binStreamInit ▸ by decide
  have ⟨padded, state, run, events, _, numberAfter, sameBuffer, runningAfter⟩ :=
    run_paddings waiting allocated (Vector.replicate paddingDataSize 0) 65535
  have ⟨last, lastCalls, framedAgain, _⟩ := sendVideo_byte (runningAfter.trans running)
  have whole := run.snoc framedAgain
  refine ⟨_, last, whole, ?_, fun conserved => ?_⟩
  · rw [List.map_append, List.map_append, events]
    rfl
  · have ⟨_, lost, balance, free⟩ := run_accounts rfl whole
    have keys := ((alwaysFree_snoc run framedAgain).mp (free.mp (conserved.lost_eq_nil balance))).2
    have around : state.transSeq + UInt16.ofNat 0 = origin.transSeq := by
      rw [numberAfter, number]
      decide
    have unused := keys (runningAfter.trans running) (List.cons_ne_nil _ _) 0 (by decide)
    rw [around, sameBuffer] at unused
    exact taken unused

end Sender

end StupidSimple.Mininet
