import StupidSimple.Quic.AckRejection
import StupidSimple.Quic.ChunkLedger
import StupidSimple.Quic.ManagerLaws

/-!
Owns the progress of `SendRetransmission`. Its loop ends because every packet that
is outstanding in the manager is a key of `sent_queue_`. Sends, retransmissions and
ack frames that end keep this; an ack frame that is read only in part takes keys
away from under the manager.
-/

namespace StupidSimple.Quic

open StupidSimple.Library MyQuicFramer ManagerCall

/-! ### Ack frames that end -/

section Ended

variable (now : Nat) {ranges : List VisitorCall} {packetNumber : Nat}

theorem managerCalls_lastRange (start stop : Nat) (calls : List VisitorCall) :
    managerCalls now (.onAckRange start stop true :: calls) =
      .onAckRange start stop :: .onAckFrameEnd now :: managerCalls now calls := rfl

theorem not_hasLastRange_cons {call : VisitorCall} (unflagged : ¬HasLastRange (call :: ranges)) :
    ¬HasLastRange [call] ∧ ¬HasLastRange ranges := by
  rw [show call :: ranges = [call] ++ ranges from rfl, hasLastRange_append, not_or] at unflagged
  exact unflagged

/-- An unflagged range is passed on as it is. -/
theorem managerCalls_unflagged {call : VisitorCall} (range : call.IsAckRange)
    (unflagged : ¬HasLastRange [call]) (calls : List VisitorCall) :
    ∃ start stop, call = .onAckRange start stop false ∧
      managerCalls now (call :: calls) = .onAckRange start stop :: managerCalls now calls := by
  cases call with
  | onAckRange start stop last =>
      cases last with
      | false => exact ⟨start, stop, rfl, rfl⟩
      | true => exact absurd ⟨start, stop, List.mem_singleton_self _⟩ unflagged
  | _ => cases range

theorem endsFrame_managerCalls (all : ∀ call ∈ ranges, call.IsAckRange)
    (unflagged : ¬HasLastRange ranges) (start stop : Nat) (after : List VisitorCall) :
    endsFrame (managerCalls now (ranges ++ .onAckRange start stop true :: after)) = true := by
  induction ranges with
  | nil => rfl
  | cons call ranges inductionHypothesis =>
      have ⟨own, later⟩ := not_hasLastRange_cons unflagged
      have ⟨_, _, _, passed⟩ := managerCalls_unflagged now (all call List.mem_cons_self) own
        (ranges ++ .onAckRange start stop true :: after)
      rw [List.cons_append, passed]
      exact inductionHypothesis (fun other member => all other (List.mem_cons_of_mem _ member))
        later

theorem acksUntilEnd_managerCalls (all : ∀ call ∈ ranges, call.IsAckRange)
    (unflagged : ¬HasLastRange ranges) {start stop : Nat} (after : List VisitorCall)
    (acked : Acked (ranges ++ [.onAckRange start stop true]) packetNumber) :
    acksUntilEnd packetNumber
      (managerCalls now (ranges ++ .onAckRange start stop true :: after)) = true := by
  induction ranges with
  | nil =>
      have within := MyQuicVideoSender.acked_range.mp acked
      rw [List.nil_append, managerCalls_lastRange]
      simp [acksUntilEnd, endsFrame, within]
  | cons call ranges inductionHypothesis =>
      obtain ⟨own, later⟩ := not_hasLastRange_cons unflagged
      have rest : ∀ other ∈ ranges, other.IsAckRange := fun other member =>
        all other (List.mem_cons_of_mem _ member)
      have ends := endsFrame_managerCalls now rest later start stop after
      obtain ⟨first, bound, same, passed⟩ := managerCalls_unflagged now
        (all call List.mem_cons_self) own (ranges ++ .onAckRange start stop true :: after)
      have split : Acked [call] packetNumber ∨
          Acked (ranges ++ [.onAckRange start stop true]) packetNumber :=
        MyQuicVideoSender.acked_append.mp acked
      rw [List.cons_append, passed, acksUntilEnd, ends, Bool.and_true, Bool.or_eq_true]
      rw [same] at split
      apply split.imp _ (inductionHypothesis rest later)
      intro within
      obtain ⟨low, high⟩ := MyQuicVideoSender.acked_range.mp within
      simp [low, high]

/-- A frame that ends tells the manager all that it acks. -/
theorem completelyAcked_calls {frameType : Nat} (io : QuicData) {ack : AckPrefix frameType}
    (ends : ack.EndsAck) (acked : Acked (ack.calls io) packetNumber) :
    completelyAcked packetNumber (managerCalls now (ack.calls io)) = true := by
  obtain ⟨before, start, stop, after, split, early, late⟩ := completesOnce_calls ack io ends
  cases before with
  | nil =>
      rw [AckPrefix.calls, List.nil_append] at split
      cases (List.cons.inj split).1
  | cons first ranges =>
      rw [AckPrefix.calls, List.cons_append] at split
      obtain ⟨sameStart, sameRanges⟩ := List.cons.inj split
      have all : ∀ call ∈ ranges ++ .onAckRange start stop true :: after, call.IsAckRange := by
        rw [← sameRanges]
        exact isAckRange_of_mem_ranges ack
      have noneAfter : after = [] := by
        apply List.eq_nil_iff_forall_not_mem.mpr
        intro call member
        exact late call member
          (all call (List.mem_append_right _ (List.mem_cons_of_mem _ member)))
      have inRanges : Acked (ranges ++ [.onAckRange start stop true]) packetNumber := by
        have listed := (acked_calls_iff ack io packetNumber).mp acked
        rw [sameRanges, noneAfter] at listed
        exact listed
      have told := acksUntilEnd_managerCalls now
        (fun call member => all call (List.mem_append_left _ member))
        (not_hasLastRange_cons early).2 after inRanges
      have started : managerCalls now (ack.calls io) =
          .onAckFrameStart ack.largestAcked
            (ackDelayTime io.kUFloat16MaxValue (io.uFloat16Value ack.delay)) now ::
            managerCalls now ack.ranges := rfl
      rw [started, completelyAcked, sameRanges, told, Bool.true_or]

/-- So does the reader, when the bytes reach the range that ends the frame. -/
theorem completelyAcked_record {frameType : Nat} (io : QuicData) {bytes : List UInt8}
    (ends : EndsAck frameType bytes) (lists : ListsPacket frameType bytes packetNumber) :
    completelyAcked packetNumber (managerCalls now
      (record io (processAckFrame io.kUFloat16MaxValue frameType) bytes).2.visitor) = true := by
  have acked := (acked_record_iff io frameType bytes packetNumber).mpr lists
  have flagged := (hasLastRange_record_iff io frameType bytes).mpr ends
  cases processAckFrame_cases io frameType bytes with
  | inl stops =>
      have ⟨ack, rest, wired, calls, _⟩ := stops
      rw [calls] at acked flagged ⊢
      exact completelyAcked_calls now io ((hasLastRange_calls_iff ack io).mp flagged) acked
  | inr fails =>
      have ⟨calls, ⟨detail, unread, failed⟩, noRange⟩ := fails
      have ⟨start, stop, member⟩ := flagged
      rw [failed] at member
      exact absurd member (noRange start stop true)

end Ended

/-! ### The first frame that lists a packet -/

section Datagram

variable (env : FramerEnv)

/-- A call before a frame belongs to a frame before it. -/
theorem FrameAt.exists_earlier {frames bytes : List UInt8} {before : List VisitorCall}
    {frameType : Nat} (found : FrameAt env frames before frameType bytes) {call : VisitorCall}
    (called : call ∈ before) :
    ∃ earlier otherType other, FrameAt env frames earlier otherType other ∧
      earlier.length < before.length ∧
      call ∈ (record env.io (env.processFrame otherType) other).2.visitor := by
  induction found with
  | first type bytes => cases called
  | @later type bytes unread frame calls before frameType ended found inductionHypothesis =>
      cases List.mem_append.mp called with
      | inl own =>
          refine ⟨[], _, _, .first type bytes, ?_, ?_⟩
          · rw [List.length_append, List.length_nil]
            have := List.length_pos_of_mem own
            omega
          · rw [ended]
            exact own
      | inr behind =>
          have ⟨earlier, otherType, other, placed, shorter, member⟩ := inductionHypothesis behind
          refine ⟨_, _, _, .later ended placed, ?_, member⟩
          rw [List.length_append, List.length_append]
          omega

/-- Of the frames that list a packet there is a first one. -/
theorem exists_first_listing {frames bytes : List UInt8} {before : List VisitorCall}
    {frameType packetNumber : Nat} (found : FrameAt env frames before frameType bytes)
    (starts : StartsAckFrame frameType) (lists : ListsPacket frameType bytes packetNumber) :
    ∃ earlier otherType other, FrameAt env frames earlier otherType other ∧
      StartsAckFrame otherType ∧ ListsPacket otherType other packetNumber ∧
      ¬Acked earlier packetNumber := by
  by_cases acked : Acked before packetNumber
  · have ⟨start, stop, last, member, within⟩ := acked
    have ⟨earlier, otherType, other, placed, shorter, called⟩ := found.exists_earlier env member
    have ⟨otherStarts, otherLists⟩ := acked_processFrame env ⟨start, stop, last, called, within⟩
    exact exists_first_listing placed otherStarts otherLists
  · exact ⟨before, frameType, bytes, found, starts, lists, acked⟩
termination_by before.length

end Datagram

/-! ### Keys of outstanding packets -/

namespace MyQuicVideoSender

/-- The ack frames of a datagram that list a key of `sent_queue_`, as it is when
their turn comes, reach a range that can be flagged as the last. -/
def EndsAcks (env : FramerEnv) (manager : QuicSentPacketManager) (now : Nat) (data : List UInt8)
    (sender : MyQuicVideoSender) : Prop :=
  ∀ frames, framePayload data = some frames →
    ∀ before frameType bytes, FrameAt env frames before frameType bytes →
      StartsAckFrame frameType →
      (∃ packetNumber,
        ((visitor manager).replay (sender.received now) before).sentQueue.find? packetNumber ≠
          none ∧ ListsPacket frameType bytes packetNumber) →
      EndsAck frameType bytes

/-- What is outstanding in the manager can be sent again. -/
def Tracked (sender : MyQuicVideoSender) : Prop :=
  ∀ packetNumber ∈ outstanding sender.acks.sentPacketManager,
    sender.sentQueue.find? packetNumber ≠ none

section Steps

variable {sender after : MyQuicVideoSender}

theorem Tracked.initial (created : Nat) : (create created).Tracked := by
  intro packetNumber member
  cases member

theorem Tracked.of_untouched (tracked : sender.Tracked)
    (sameHistory : after.acks.sentPacketManager = sender.acks.sentPacketManager)
    (sameSent : after.sentQueue = sender.sentQueue) : after.Tracked := by
  unfold Tracked
  rw [sameHistory, sameSent]
  exact tracked

/-- A packet is handed over and its chunk stored under its number, in place of
the entry of its original. -/
theorem Tracked.sent {info : SerializedPacket} {original time chunk : Nat}
    {type : TransmissionType} {sentQueue : OrderedMap Nat Nat} (tracked : sender.Tracked)
    (told : after.acks.sentPacketManager =
      sender.acks.sentPacketManager ++ [.onPacketSent info original time type true])
    (kept : ∀ packetNumber, packetNumber ≠ original →
      sender.sentQueue.find? packetNumber ≠ none → sentQueue.find? packetNumber ≠ none)
    (stored : after.sentQueue = sentQueue.insert info.packetNumber chunk) : after.Tracked := by
  intro packetNumber member
  rw [told] at member
  rw [stored, OrderedMap.find?_insert_ne_none]
  cases outstanding_append member with
  | inl older =>
      have ⟨before, free⟩ := older
      left
      apply kept packetNumber _ (tracked packetNumber before)
      rintro rfl
      simp [untouched, retransmitted] at free
  | inr new =>
      right
      simpa [outstanding, untouched, retransmitted, completelyAcked] using new

theorem Tracked.sendFakePacket (io : QuicData) (now : Nat) (tracked : sender.Tracked) :
    (sender.sendFakePacket io now).1.Tracked := by
  unfold MyQuicVideoSender.sendFakePacket
  cases sender.pendingQueue with
  | nil => exact tracked
  | cons chunk rest => exact tracked.sent rfl (fun _ _ stored => stored) rfl

theorem Tracked.sendPaddingData (io : QuicData) (now : Nat) (tracked : sender.Tracked) :
    (sender.sendPaddingData io now).1.Tracked := by
  intro packetNumber member
  cases outstanding_append member with
  | inl older => exact tracked packetNumber older.1
  | inr new => cases new

theorem Tracked.onRetransPacket (io : QuicData) (pending : QuicPendingRetransmission) (now : Nat)
    (tracked : sender.Tracked) : (sender.onRetransPacket io pending now).1.Tracked := by
  unfold MyQuicVideoSender.onRetransPacket
  cases found : sender.sentQueue.find? pending.packetNumber with
  | none =>
      simp only [found]
      exact tracked
  | some chunk =>
      simp only [found]
      apply tracked.sent rfl _ rfl
      intro packetNumber other stored
      have ⟨value, member⟩ := OrderedMap.find?_ne_none.mp stored
      exact OrderedMap.find?_ne_none.mpr ⟨value, OrderedMap.mem_erase.mpr ⟨member, other⟩⟩

theorem managerCalls_unsent (now : Nat) (calls : List VisitorCall) :
    ∀ packet original time type retransmittable,
      .onPacketSent packet original time type retransmittable ∉ managerCalls now calls := by
  intro packet original time type retransmittable member
  have ⟨call, _, passed⟩ := List.mem_flatMap.mp member
  cases call with
  | onAckRange start stop last => cases last <;> simp at passed
  | _ => simp at passed

/-- What a datagram takes out of `sent_queue_` has been acked in a frame that ended. -/
theorem completelyAcked_recordFrames {env : FramerEnv} {manager : QuicSentPacketManager}
    {now : Nat} {data frames : List UInt8} {packetNumber : Nat}
    (payload : framePayload data = some frames) (ends : sender.EndsAcks env manager now data)
    (stored : sender.sentQueue.find? packetNumber ≠ none)
    (acked : Acked (recordFrames env frames).2.visitor packetNumber) :
    completelyAcked packetNumber (managerCalls now (recordFrames env frames).2.visitor) = true := by
  have ⟨before, frameType, bytes, found, starts, lists⟩ := (acked_recordFrames_iff env).mp acked
  have ⟨earlier, firstType, first, placed, firstStarts, firstLists, unacked⟩ :=
    exists_first_listing env found starts lists
  have storedStill : ((visitor manager).replay (sender.received now) earlier).sentQueue.find?
      packetNumber ≠ none := by
    intro gone
    have storedThen : (sender.received now).sentQueue.find? packetNumber ≠ none := stored
    exact unacked ((find?_replay_sentQueue manager storedThen).mp gone)
  have reaches := ends frames payload earlier firstType first placed firstStarts
    ⟨packetNumber, storedStill, firstLists⟩
  have told := completelyAcked_record now env.io reaches firstLists
  have ⟨later, split⟩ := exists_calls_split env placed firstStarts
  rw [split, managerCalls_append, managerCalls_append]
  exact completelyAcked_prepend _ (completelyAcked_append _ told)

theorem Tracked.receive {env : FramerEnv} {manager : QuicSentPacketManager} {now : Nat}
    {data : List UInt8} {events : List VideoEvent} (tracked : sender.Tracked)
    (ends : sender.EndsAcks env manager now data)
    (stepped : sender.receive env manager now data = some (after, events)) : after.Tracked := by
  unfold MyQuicVideoSender.receive at stepped
  split_ifs at stepped with empty
  · cases stepped
    exact tracked
  · have ⟨frames, payload, rest⟩ := Option.bind_eq_some_iff.mp stepped
    have ⟨handled, incoming, same⟩ := Option.bind_eq_some_iff.mp rest
    cases same
    have told := onIncomingData_sentPacketManager env manager payload incoming
    rw [onIncomingData_eq env manager now payload] at incoming
    cases incoming
    intro packetNumber member
    rw [told] at member
    cases outstanding_append member with
    | inl older =>
        have ⟨before, free⟩ := older
        have stored : (sender.received now).sentQueue.find? packetNumber ≠ none :=
          tracked packetNumber before
        intro gone
        have acked := (find?_replay_sentQueue manager stored).mp gone
        have ended := completelyAcked_recordFrames payload ends stored acked
        rw [untouched, ended] at free
        simp at free
    | inr new =>
        rw [outstanding_eq_nil (managerCalls_unsent now _)] at new
        cases new

end Steps

/-! ### Runs -/

section Runs

variable (env : FramerEnv) (manager : QuicSentPacketManager)

/-- The ack frames that are received in a transition end. -/
def AcksEnd (transition : Transition MyQuicVideoSender VideoActivity) : Prop :=
  match transition.event with
  | .receive now data => transition.before.EndsAcks env manager now data
  | _ => True

variable {env manager} {sender : MyQuicVideoSender}

theorem Tracked.step {activity : VideoActivity} {after : MyQuicVideoSender}
    {events : List VideoEvent} (tracked : sender.Tracked)
    (ends : AcksEnd env manager ⟨sender, activity, after⟩)
    (stepped : (videoMachine env manager).step sender activity = some (after, events)) :
    after.Tracked := by
  cases activity with
  | frame frameLen =>
      have ⟨chunks, _, same⟩ := Option.bind_eq_some_iff.mp stepped
      cases same
      exact tracked
  | send now sentAt =>
      have same : (sender.sendIfDue env manager now sentAt).1 = after :=
        congrArg Prod.fst (Option.some.inj stepped)
      rw [← same]
      unfold sendIfDue sendDataOrPadding
      split_ifs
      · exact tracked.sendPaddingData env.io sentAt
      · exact tracked
      · exact tracked.sendFakePacket env.io sentAt
      · exact tracked
  | receive now data => exact tracked.receive ends stepped
  | stopWaiting =>
      have same : (sender.stopWaitingIfDue env manager).1 = after :=
        congrArg Prod.fst (Option.some.inj stepped)
      rw [← same]
      unfold stopWaitingIfDue
      split_ifs
      · exact tracked.of_untouched rfl rfl
      · exact tracked
  | retransmission now sentAt =>
      unfold videoMachine at stepped
      simp only at stepped
      split_ifs at stepped with due
      · have same : (sender.retransmitNext env manager sentAt).1 = after :=
          congrArg Prod.fst (Option.some.inj stepped)
        rw [← same]
        exact tracked.onRetransPacket env.io _ sentAt
      · cases stepped
        exact tracked

theorem Tracked.run {created : Nat} {history : List (VideoActivity × List VideoEvent)}
    (run : (videoMachine env manager).Run (.create created) history sender)
    (ends : ∀ transition ∈ (videoMachine env manager).transitions (.create created)
      (history.map Prod.fst), AcksEnd env manager transition) : sender.Tracked := by
  induction run with
  | nil => exact .initial created
  | snoc before stepped inductionHypothesis =>
      rw [List.map_append, List.map_singleton, before.transitions_snoc stepped] at ends
      have tracked := inductionHypothesis fun transition member =>
        ends transition (List.mem_append_left _ member)
      exact tracked.step (ends _ (List.mem_append_right _ (List.mem_singleton_self _))) stepped

/-! ### The loop -/

variable {pending : List ManagerCall → Finset Nat}

/-- A round of the loop resolves the retransmission that is offered. -/
theorem retransmitNext_resolves (lawful : OffersOutstanding manager pending)
    (tracked : sender.Tracked) {now : Nat} (due : sender.retransmissionDue manager now)
    (sentAt : Nat) :
    let offered := (manager.nextPendingRetransmission sender.acks.sentPacketManager).packetNumber
    let next := (sender.retransmitNext env manager sentAt).1
    sender.sentQueue.find? offered ≠ none ∧ offered ∈ pending sender.acks.sentPacketManager ∧
      pending next.acks.sentPacketManager =
        (pending sender.acks.sentPacketManager).erase offered := by
  intro offered next
  have isPending : offered ∈ pending sender.acks.sentPacketManager := lawful.offers _ due.2
  have stored : sender.sentQueue.find? offered ≠ none :=
    tracked offered (lawful.pending_outstanding _ _ isPending)
  refine ⟨stored, isPending, ?_⟩
  have ⟨chunk, found⟩ := Option.ne_none_iff_exists'.mp stored
  have told : next.acks.sentPacketManager = sender.acks.sentPacketManager ++
      [.onPacketSent ⟨sender.seq, getMinSeqLength sender.seq, chunk % 2 ^ 16,
        (manager.nextPendingRetransmission
          sender.acks.sentPacketManager).retransmittableFrames⟩ offered sentAt
        .lossRetransmission true] := by
    simp only [next, retransmitNext, onRetransPacket]
    rw [found]
  rw [told]
  exact lawful.resolves _ _ _ _ _ _

/-- As many rounds as there are pending retransmissions suffice. -/
theorem sendRetransmission_returns (lawful : OffersOutstanding manager pending) (now : Nat)
    (sentAt : Nat → Nat) {bound : Nat} (tracked : sender.Tracked)
    (enough : (pending sender.acks.sentPacketManager).card ≤ bound) :
    ∃ final events,
      sender.sendRetransmission env manager now sentAt bound = some (final, events) := by
  induction bound generalizing sender with
  | zero =>
      have idle : ¬sender.retransmissionDue manager now := by
        intro due
        have isPending := lawful.offers _ due.2
        rw [Finset.card_eq_zero.mp (Nat.le_zero.mp enough)] at isPending
        cases isPending
      exact ⟨sender, [], by rw [sendRetransmission, if_neg idle]⟩
  | succ bound inductionHypothesis =>
      rw [sendRetransmission]
      split_ifs with due
      · have resolves := @retransmitNext_resolves env
        obtain ⟨_, isPending, resolved⟩ := resolves lawful tracked due (sentAt sender.seq)
        have trackedNext : (sender.retransmitNext env manager (sentAt sender.seq)).1.Tracked :=
          tracked.onRetransPacket env.io _ _
        have fewer : (pending (sender.retransmitNext env manager
            (sentAt sender.seq)).1.acks.sentPacketManager).card ≤ bound := by
          rw [resolved, Finset.card_erase_of_mem isPending]
          omega
        obtain ⟨final, events, left⟩ := inductionHypothesis trackedNext fewer
        simp only [left]
        exact ⟨_, _, rfl⟩
      · exact ⟨sender, [], rfl⟩

/-- A number that is not in `sent_queue_` is offered for ever. -/
theorem sendRetransmission_stuck {now : Nat} {sentAt : Nat → Nat}
    (due : sender.retransmissionDue manager now)
    (missing : sender.sentQueue.find?
      (manager.nextPendingRetransmission sender.acks.sentPacketManager).packetNumber = none) :
    ∀ bound, sender.sendRetransmission env manager now sentAt bound = none := by
  intro bound
  induction bound with
  | zero => rw [sendRetransmission, if_pos due]
  | succ bound inductionHypothesis =>
      have same : sender.retransmitNext env manager (sentAt sender.seq) = (sender, []) := by
        simp only [retransmitNext, onRetransPacket, missing]
      rw [sendRetransmission, if_pos due, same]
      simp only [inductionHypothesis]
      rfl

end Runs

end MyQuicVideoSender

section Progress

variable {env : FramerEnv} {manager : QuicSentPacketManager}
  {pending : List ManagerCall → Finset Nat}

/-- In a run whose ack frames end when they list keys of `sent_queue_`, every packet
that the manager offers is such a key, each round of the loop of
`SendRetransmission` resolves the packet that is offered, and the loop is left. -/
theorem retransmission_progress (lawful : OffersOutstanding manager pending) {created : Nat}
    {history : List (VideoActivity × List VideoEvent)} {sender : MyQuicVideoSender}
    (run : (videoMachine env manager).Run (.create created) history sender)
    (ends : ∀ transition ∈ (videoMachine env manager).transitions (.create created)
      (history.map Prod.fst), MyQuicVideoSender.AcksEnd env manager transition) :
    (manager.hasPendingRetransmissions sender.acks.sentPacketManager = true →
      sender.sentQueue.find?
        (manager.nextPendingRetransmission sender.acks.sentPacketManager).packetNumber ≠ none) ∧
    (∀ now sentAt, sender.retransmissionDue manager now →
      let offered := (manager.nextPendingRetransmission sender.acks.sentPacketManager).packetNumber
      let next := (sender.retransmitNext env manager sentAt).1
      offered ∈ pending sender.acks.sentPacketManager ∧
        pending next.acks.sentPacketManager =
          (pending sender.acks.sentPacketManager).erase offered) ∧
    ∀ now sentAt, ∃ bound final events,
      sender.sendRetransmission env manager now sentAt bound = some (final, events) := by
  have tracked := MyQuicVideoSender.Tracked.run run ends
  refine ⟨?_, ?_, ?_⟩
  · intro offers
    exact tracked _ (lawful.pending_outstanding _ _ (lawful.offers _ offers))
  · intro now sentAt due
    exact (MyQuicVideoSender.retransmitNext_resolves lawful tracked due sentAt).2
  · intro now sentAt
    have enough := Nat.le_refl (pending sender.acks.sentPacketManager).card
    exact ⟨_, MyQuicVideoSender.sendRetransmission_returns lawful now sentAt tracked enough⟩

end Progress

/-! ### Four packets, of which the first is lost -/

/-- An ack of packet 4, which ends. -/
def ackOfFour : List UInt8 := [0, 1, 0x40, 4, 0, 5, 1, 0]

/-- An ack of packet 1, with a block announced that does not follow. -/
def halfAckOfOne : List UInt8 := [0, 2, 0x60, 1, 0, 5, 1, 1]

def lossActivities : List VideoActivity :=
  [.frame 4000, .send 0 0, .send 1000 1000, .send 2000 2000, .send 3000 3000,
    .receive 3500 ackOfFour]

theorem endsAcks_ackOfFour (manager : QuicSentPacketManager) (now : Nat)
    (sender : MyQuicVideoSender) : sender.EndsAcks plainEnv manager now ackOfFour := by
  intro frames payload before frameType bytes found starts _
  have own : framePayload ackOfFour = some [0x40, 4, 0, 5, 1, 0] := by decide
  rw [own] at payload
  cases payload
  cases found with
  | first =>
      apply (hasLastRange_record_iff plainEnv.io _ _).mp
      have calls : (record plainEnv.io
          (processAckFrame plainEnv.io.kUFloat16MaxValue (0x40 : UInt8).toNat)
          [4, 0, 5, 1, 0]).2.visitor = [.onAckFrameStart 4 (some 5), .onAckRange 4 5 true] := by
        decide +kernel
      rw [calls]
      exact ⟨4, 5, by simp⟩
  | later ended found =>
      have unread : (record plainEnv.io (plainEnv.processFrame (0x40 : UInt8).toNat)
          [4, 0, 5, 1, 0]).2.reader = [] := by
        decide +kernel
      rw [ended] at unread
      cases unread
      cases found

theorem retransmission_progress_lossActivities :
    ∃ history sender,
      (videoMachine plainEnv pacedManager).Run (.create 0) history sender ∧
      history.map Prod.fst = lossActivities ∧
      sender.retransmissionDue pacedManager 4000 ∧
      ∀ now sentAt, ∃ bound final events,
        sender.sendRetransmission plainEnv pacedManager now sentAt bound =
          some (final, events) := by
  have ⟨history, sender, run, sameEvents, checked⟩ :=
    (videoMachine plainEnv pacedManager).exists_run_of_check (.create 0) lossActivities
      (fun result => result.1.retransmissionDue pacedManager 4000) (by decide +kernel)
  refine ⟨history, sender, run, sameEvents, of_decide_eq_true checked, ?_⟩
  refine (retransmission_progress pacedManager_offersOutstanding run ?_).2.2
  intro transition member
  have listed : transition.event ∈ lossActivities := by
    rw [← sameEvents, ← run.events_transitions]
    exact List.mem_map_of_mem member
  unfold MyQuicVideoSender.AcksEnd
  rcases event : transition.event with _ | _ | ⟨now, data⟩ | _ | _
  · trivial
  · trivial
  · rw [event] at listed
    have same : now = 3500 ∧ data = ackOfFour := by simpa [lossActivities] using listed
    rw [same.2]
    exact endsAcks_ackOfFour pacedManager now transition.before
  · trivial
  · trivial

/-- A call of `Process` that reads the clock once. -/
def processAt (now : Nat) (frameLen : Int) (received : List UInt8) : ProcessInput where
  now := now
  frameLen := frameLen
  received := received
  receivedAt := now
  retransmittingAt := now
  sentAt _ := now

/-- Four packets are sent and the first is lost, when it is too early to send. -/
def lossCalls : List (Nat × ProcessInput) :=
  [(0, processAt 0 4000 []), (0, processAt 1000 0 []), (0, processAt 2000 0 []),
    (0, processAt 3000 0 []), (0, processAt 3500 0 ackOfFour)]

/-- The packet that is lost is taken out of `sent_queue_` by half an ack, and the
manager goes on offering it: `Process` does not return. -/
theorem retransmission_stuck_halfAck :
    OffersOutstanding pacedManager (fun history => (lostPackets history).toFinset) ∧
    ∃ history sender answered events,
      (processMachine plainEnv pacedManager).Run (.create 0) history sender ∧
      history.map Prod.fst = lossCalls ∧
      sender.serve plainEnv pacedManager (processAt 4000 0 halfAckOfOne) =
        some (answered, events) ∧
      answered.retransmissionDue pacedManager 4000 ∧
      answered.sentQueue.find? (pacedManager.nextPendingRetransmission
        answered.acks.sentPacketManager).packetNumber = none ∧
      ∀ bound, sender.process plainEnv pacedManager bound
        (processAt 4000 0 halfAckOfOne) = none := by
  refine ⟨pacedManager_offersOutstanding, ?_⟩
  obtain ⟨history, sender, run, sameCalls, checked⟩ :=
    (processMachine plainEnv pacedManager).exists_run_of_check (.create 0) lossCalls
      (fun result => (result.1.serve plainEnv pacedManager (processAt 4000 0 halfAckOfOne)).any
        fun answered => answered.1.retransmissionDue pacedManager 4000 ∧
          answered.1.sentQueue.find? (pacedManager.nextPendingRetransmission
            answered.1.acks.sentPacketManager).packetNumber = none)
      (by decide +kernel)
  obtain ⟨⟨answered, events⟩, served, state⟩ := (Option.any_eq_true _ _).mp checked
  obtain ⟨due, missing⟩ := of_decide_eq_true state
  refine ⟨history, sender, answered, events, run, sameCalls, served, due, missing, ?_⟩
  intro bound
  have stuck : answered.sendRetransmission plainEnv pacedManager 4000
      (processAt 4000 0 halfAckOfOne).sentAt bound = none :=
    MyQuicVideoSender.sendRetransmission_stuck due missing bound
  have unfolded : sender.process plainEnv pacedManager bound (processAt 4000 0 halfAckOfOne) =
      (sender.serve plainEnv pacedManager (processAt 4000 0 halfAckOfOne)).bind fun answer =>
        (answer.1.sendRetransmission plainEnv pacedManager 4000
          (processAt 4000 0 halfAckOfOne).sentAt bound).map fun resent =>
            (resent.1, answer.2 ++ resent.2) := by
    simp only [Option.map_eq_bind]
    rfl
  rw [unfolded, served, Option.bind_some, stuck]
  rfl

end StupidSimple.Quic
