import StupidSimple.Library.Pacer
import StupidSimple.Library.Pieces
import StupidSimple.Quic.AckCompletion
import StupidSimple.Quic.ChunkLedger

/-!
Owns `FakeVideoGenerator` and the loop through it: `Process` takes a frame from the source,
and `UpdateSourceRate` tells the source the bandwidth that the manager estimates. The
estimate is arbitrary. What is proved holds whatever the estimates are and whatever the clock
shows.
-/

namespace StupidSimple.Quic

open StupidSimple.Library

/-- Rates in bits a second, the duration of a frame in milliseconds, times in microseconds. -/
structure FakeVideoGenerator where
  minRate : Int
  rate : Int
  maxRate : Int
  duration : Int
  next : Int
deriving DecidableEq, Repr

namespace FakeVideoGenerator

def defaultMaxRate : Int := 2000000

/-- The constructor; `fs` is not zero. -/
def create (fs startRate : Int) : FakeVideoGenerator where
  minRate := startRate
  rate := startRate
  maxRate := defaultMaxRate
  duration := (1000 : Int).tdiv fs
  next := 0

def updataRate (bps : Int) (source : FakeVideoGenerator) : FakeVideoGenerator :=
  let capped := if source.maxRate < bps then source.maxRate else bps
  { source with rate := if capped < source.minRate then source.minRate else capped }

/-- The bytes of a frame, or zero when none is due. -/
def getFrame (now : Int) (source : FakeVideoGenerator) : Int × FakeVideoGenerator :=
  let expect := (source.rate * source.duration).tdiv (1000 * 8)
  if source.next < now then (expect, { source with next := now + source.duration * 1000 })
  else (0, source)

/-- The rate that no frame exceeds. A start rate beyond the maximum stays in force. -/
def peakRate (startRate : Int) : Int := max startRate defaultMaxRate

/-- What calls keep of a source that was created with these parameters. -/
structure Within (fs startRate : Int) (source : FakeVideoGenerator) : Prop where
  minRate : source.minRate = startRate
  maxRate : source.maxRate = defaultMaxRate
  duration : source.duration = (1000 : Int).tdiv fs
  low : startRate ≤ source.rate
  high : source.rate ≤ peakRate startRate

variable {fs startRate : Int} {source : FakeVideoGenerator}

theorem within_create (fs startRate : Int) : Within fs startRate (create fs startRate) :=
  ⟨rfl, rfl, rfl, le_rfl, le_max_left _ _⟩

theorem Within.updataRate (within : Within fs startRate source) (bps : Int) :
    Within fs startRate (source.updataRate bps) where
  minRate := within.minRate
  maxRate := within.maxRate
  duration := within.duration
  low := by
    show startRate ≤ if _ then source.minRate else _
    rw [within.minRate]
    split_ifs <;> omega
  high := by
    show (if _ then source.minRate else _) ≤ max startRate defaultMaxRate
    rw [within.minRate, within.maxRate]
    split_ifs <;> omega

theorem Within.getFrame (within : Within fs startRate source) (now : Int) :
    Within fs startRate (source.getFrame now).2 := by
  unfold FakeVideoGenerator.getFrame
  simp only
  split_ifs
  · exact ⟨within.minRate, within.maxRate, within.duration, within.low, within.high⟩
  · exact within

/-- A frame is due only after the time of the source, and then has no more bits than its
duration takes at the peak rate. -/
theorem Within.frame (within : Within fs startRate source) (positive : 0 < fs) (now : Int) :
    source.next ≤ (source.getFrame now).2.next ∧
      (0 < (source.getFrame now).1 → source.next < now ∧
        8000 * (source.getFrame now).1 ≤ peakRate startRate * source.duration ∧
        (source.getFrame now).2.next = now + source.duration * 1000) := by
  have long : 0 ≤ source.duration := by
    rw [within.duration]
    exact Int.tdiv_nonneg (by decide) positive.le
  have high : source.rate * source.duration ≤ peakRate startRate * source.duration :=
    Int.mul_le_mul_of_nonneg_right within.high long
  unfold FakeVideoGenerator.getFrame
  simp only
  split_ifs with due
  · refine ⟨by simp only; omega, ?_⟩
    intro some
    refine ⟨due, ?_, rfl⟩
    have nonneg : 0 ≤ source.rate * source.duration := by
      by_contra negative
      have flipped : 0 ≤ (-(source.rate * source.duration)).tdiv (1000 * 8) :=
        Int.tdiv_nonneg (by omega) (by decide)
      rw [Int.neg_tdiv] at flipped
      omega
    rw [Int.tdiv_eq_ediv_of_nonneg nonneg]
    omega
  · exact ⟨le_rfl, fun some => absurd some (lt_irrefl 0)⟩

end FakeVideoGenerator

/-! ### The sender with its source -/

/-- `MyQuicVideoSender` with `source_` and `next_rate_update_`. -/
structure SourcedSender where
  sender : MyQuicVideoSender
  source : FakeVideoGenerator
  nextRateUpdate : Nat

namespace SourcedSender

def rateUpdataGap : Nat := 200

def create (now : Nat) (fs startRate : Int) : SourcedSender :=
  ⟨.create now, .create fs startRate, 0⟩

variable (env : FramerEnv) (manager : QuicSentPacketManager)
  (bandwidthEstimate : List ManagerCall → Int)

/-- The estimate is in kilobits a second. -/
def updateSourceRate (now : Nat) (self : SourcedSender) : SourcedSender :=
  if self.nextRateUpdate = 0 then { self with nextRateUpdate := now + rateUpdataGap * 1000 }
  else if self.nextRateUpdate < now then
    let bw := bandwidthEstimate self.sender.acks.sentPacketManager * 1000
    { self with
      source := self.source.updataRate bw
      nextRateUpdate := now + rateUpdataGap * 1000 }
  else self

/-- `Process`; the length of the frame is that of the source, whatever the input says. -/
def process (bound : Nat) (input : ProcessInput) (self : SourcedSender) :
    Option (SourcedSender × List VideoEvent) := do
  let frame := self.source.getFrame input.now
  let sent ← self.sender.process env manager bound { input with frameLen := frame.1 }
  let processed := { self with sender := sent.1, source := frame.2 }
  some (processed.updateSourceRate bandwidthEstimate input.now, sent.2)

/-- Calls of `Process`, each with a bound for its loop. -/
def sourcedMachine : Machine SourcedSender (Nat × ProcessInput) (List VideoEvent) where
  step self call := self.process env manager bandwidthEstimate call.1 call.2

end SourcedSender

/-! ### What a call queues -/

namespace MyQuicVideoSender

variable {env : FramerEnv} {manager : QuicSentPacketManager}

theorem queuedChunks_sendIfDue (now sentAt : Nat) (sender : MyQuicVideoSender) :
    queuedChunks (sender.sendIfDue env manager now sentAt).2 = [] := by
  unfold sendIfDue sendDataOrPadding sendPaddingData sendFakePacket
  split_ifs
  · rfl
  · rfl
  · split <;> rfl
  · rfl

theorem queuedChunks_receive {now : Nat} {data : List UInt8} {sender after : MyQuicVideoSender}
    {events : List VideoEvent}
    (received : sender.receive env manager now data = some (after, events)) :
    queuedChunks events = [] := by
  unfold receive at received
  split_ifs at received
  · cases received
    rfl
  · have ⟨frames, _, rest⟩ := Option.bind_eq_some_iff.mp received
    have ⟨result, _, same⟩ := Option.bind_eq_some_iff.mp rest
    cases same
    exact queuedChunks_removals _

theorem queuedChunks_stopWaitingIfDue (sender : MyQuicVideoSender) :
    queuedChunks (sender.stopWaitingIfDue env manager).2 = [] := by
  unfold stopWaitingIfDue sendStopWaitingFrame
  split_ifs <;> rfl

theorem queuedChunks_retransmitNext (sentAt : Nat) (sender : MyQuicVideoSender) :
    queuedChunks (sender.retransmitNext env manager sentAt).2 = [] := by
  unfold retransmitNext onRetransPacket
  simp only
  split <;> rfl

theorem queuedChunks_sendRetransmission {now : Nat} {sentAt : Nat → Nat} {bound : Nat}
    {sender final : MyQuicVideoSender} {events : List VideoEvent}
    (left : sender.sendRetransmission env manager now sentAt bound = some (final, events)) :
    queuedChunks events = [] := by
  induction bound generalizing sender events with
  | zero =>
      rw [sendRetransmission] at left
      split_ifs at left
      cases left
      rfl
  | succ bound inductionHypothesis =>
      rw [sendRetransmission] at left
      split_ifs at left with due
      · obtain ⟨result, later, same⟩ := Option.bind_eq_some_iff.mp left
        cases same
        show queuedChunks ((sender.retransmitNext env manager (sentAt sender.seq)).2 ++ _) = []
        rw [queuedChunks_append, queuedChunks_retransmitNext, inductionHypothesis later]
        rfl
      · cases left
        rfl

theorem queuedChunks_queueFrame {frameLen : Int} {sender after : MyQuicVideoSender}
    {events : List VideoEvent} (framed : sender.queueFrame frameLen = some (after, events)) :
    frameChunks frameLen = some (queuedChunks events) := by
  have ⟨chunks, split, same⟩ := Option.bind_eq_some_iff.mp framed
  cases same
  rw [queuedChunks_queued]
  exact split

/-- A call of `Process` queues the chunks of its frame and no others. -/
theorem queuedChunks_process {bound : Nat} {input : ProcessInput}
    {sender final : MyQuicVideoSender} {events : List VideoEvent}
    (processed : sender.process env manager bound input = some (final, events)) :
    frameChunks input.frameLen = some (queuedChunks events) := by
  have ⟨answered, serving, rest⟩ := Option.bind_eq_some_iff.mp processed
  have ⟨resent, retransmitting, same⟩ := Option.bind_eq_some_iff.mp rest
  cases same
  have ⟨framed, framing, rest⟩ := Option.bind_eq_some_iff.mp serving
  have ⟨informed, receiving, same⟩ := Option.bind_eq_some_iff.mp rest
  cases same
  show _ = some (queuedChunks (framed.2 ++
    (framed.1.sendIfDue env manager input.now (input.sentAt framed.1.seq)).2 ++ informed.2 ++
      (informed.1.stopWaitingIfDue env manager).2 ++ resent.2))
  simp only [queuedChunks_append, queuedChunks_sendIfDue, queuedChunks_receive receiving,
    queuedChunks_stopWaitingIfDue, queuedChunks_sendRetransmission retransmitting, List.append_nil]
  exact queuedChunks_queueFrame framing

end MyQuicVideoSender

/-- The bytes that events queue. -/
def queuedBytes (events : List VideoEvent) : Nat := (queuedChunks events).sum

theorem sum_frameChunks {frameLen : Int} {chunks : List Nat}
    (split : frameChunks frameLen = some chunks) : (chunks.sum : Int) = max frameLen 0 := by
  unfold frameChunks at split
  split_ifs at split with filled few
  · have whole : frameSplit frameLen.toNat = pieces quicMaxVideoSize frameLen.toNat := rfl
    cases split
    rw [whole, sum_pieces]
    omega
  · cases split
    rw [List.sum_nil]
    omega

/-! ### Runs -/

namespace SourcedSender

variable {env : FramerEnv} {manager : QuicSentPacketManager}
  {bandwidthEstimate : List ManagerCall → Int} {fs startRate : Int}

theorem source_updateSourceRate (bandwidthEstimate : List ManagerCall → Int) (now : Nat)
    (self : SourcedSender) :
    (self.updateSourceRate bandwidthEstimate now).source = self.source ∨
      ∃ bw, (self.updateSourceRate bandwidthEstimate now).source = self.source.updataRate bw := by
  unfold updateSourceRate
  split_ifs
  · exact Or.inl rfl
  · exact Or.inr ⟨_, rfl⟩
  · exact Or.inl rfl

/-- What a call of `Process` does to the source, and what it queues. -/
theorem process_spec {bound : Nat} {input : ProcessInput} {self after : SourcedSender}
    {events : List VideoEvent} (within : self.source.Within fs startRate)
    (processed : self.process env manager bandwidthEstimate bound input = some (after, events)) :
    after.source.Within fs startRate ∧
      after.source.next = (self.source.getFrame input.now).2.next ∧
      (queuedBytes events : Int) = max (self.source.getFrame input.now).1 0 := by
  have ⟨sent, processing, same⟩ := Option.bind_eq_some_iff.mp processed
  obtain ⟨rfl, rfl⟩ := Prod.mk.inj (Option.some.inj same)
  have split := MyQuicVideoSender.queuedChunks_process processing
  have framed := within.getFrame input.now
  have updated := source_updateSourceRate bandwidthEstimate input.now
    { self with sender := sent.1, source := (self.source.getFrame input.now).2 }
  refine ⟨?_, ?_, sum_frameChunks split⟩
  · obtain same | ⟨bw, same⟩ := updated
    · exact same ▸ framed
    · exact same ▸ framed.updataRate bw
  · obtain same | ⟨bw, same⟩ := updated <;> rw [same]
    rfl

/-- The frame of a call, if it queues one, in units in which the peak rate costs one for each
microsecond. -/
def departures (startRate : Int) (input : ProcessInput) (events : List VideoEvent) :
    List (Departure Int) :=
  if 0 < queuedBytes events then
    [⟨FakeVideoGenerator.peakRate startRate * input.now, 8000000 * queuedBytes events⟩]
  else []

/-- The frames of a history. -/
def framesOf (startRate : Int) (history : List ((Nat × ProcessInput) × List VideoEvent)) :
    List (Departure Int) :=
  history.flatMap fun entry => departures startRate entry.1.2 entry.2

theorem framesOf_snoc (history : List ((Nat × ProcessInput) × List VideoEvent))
    (call : Nat × ProcessInput) (events : List VideoEvent) :
    framesOf startRate (history ++ [(call, events)]) =
      framesOf startRate history ++ departures startRate call.2 events := by
  rw [framesOf, List.flatMap_append, List.flatMap_singleton]
  rfl

/-- The frames of a run are those of a pacer that the source is never ahead of. -/
theorem run_paced (positive : 0 < fs) {now : Nat} {final : SourcedSender}
    {history : List ((Nat × ProcessInput) × List VideoEvent)}
    (run : (sourcedMachine env manager bandwidthEstimate).Run (create now fs startRate) history
      final) :
    final.source.Within fs startRate ∧
      ∃ ideal, Paced 0 0 (framesOf startRate history) ideal ∧
        ideal ≤ FakeVideoGenerator.peakRate startRate * final.source.next := by
  induction run with
  | nil =>
      refine ⟨FakeVideoGenerator.within_create fs startRate, 0, Paced.nil, ?_⟩
      exact (mul_zero _).ge
  | @snoc history self after event events before stepped inductionHypothesis =>
      have ⟨within, ideal, paced, behind⟩ := inductionHypothesis
      have ⟨kept, next, queued⟩ := process_spec within stepped
      have ⟨later, due⟩ := within.frame positive event.2.now
      have peak : 0 ≤ FakeVideoGenerator.peakRate startRate :=
        (show (0 : Int) ≤ 2000000 by decide).trans (le_max_right _ _)
      refine ⟨kept, ?_⟩
      rw [framesOf_snoc, departures]
      split_ifs with some
      · have ⟨after, few, following⟩ := due (by omega)
        have admitted : ideal ≤ FakeVideoGenerator.peakRate startRate * event.2.now + 0 := by
          have before := Int.mul_le_mul_of_nonneg_left after.le peak
          omega
        refine ⟨_, paced.snoc admitted, ?_⟩
        have regrouped : FakeVideoGenerator.peakRate startRate * (self.source.duration * 1000) =
            1000 * (FakeVideoGenerator.peakRate startRate * self.source.duration) := by ring
        rw [idealAfter, max_eq_right (by simp only; omega), next, following, Int.mul_add, regrouped]
        simp only
        omega
      · refine ⟨ideal, ?_, behind.trans ?_⟩
        · rw [List.append_nil]
          exact paced
        · rw [next]
          exact Int.mul_le_mul_of_nonneg_left later peak

/-- Whatever the manager estimates and whatever the clock shows, the frames before the last of
a window have no more bits than the window lasts at the peak rate. -/
theorem frames_conform (positive : 0 < fs) {now : Nat} {final : SourcedSender}
    {history : List ((Nat × ProcessInput) × List VideoEvent)}
    (run : (sourcedMachine env manager bandwidthEstimate).Run (create now fs startRate) history
      final)
    {before middle after : List (Departure Int)} {first last : Departure Int}
    (split : framesOf startRate history = before ++ first :: (middle ++ last :: after)) :
    totalCost (first :: middle) ≤ last.time - first.time := by
  have ⟨_, ideal, paced, _⟩ := run_paced positive run
  have conforms := paced.conforms split
  rwa [add_zero] at conforms

/-- A call of `Process` at a time, when nothing arrives. -/
def quietInput (now : Nat) : ProcessInput where
  now := now
  frameLen := 0
  received := []
  receivedAt := now
  retransmittingAt := now
  sentAt _ := now

/-- Two frames at the start rate, none because it is too early, and one at the peak rate, since
the estimate is beyond it. -/
theorem frames_conform_raised :
    ∃ history final first middle last,
      (sourcedMachine plainEnv idleManager fun _ => 4000).Run (create 0 30 500000) history final ∧
      framesOf 500000 history = [] ++ first :: (middle ++ last :: []) ∧
      final.source.rate = 2000000 ∧ totalCost (first :: middle) = 2 * (8000000 * 2062) ∧
      totalCost (first :: middle) ≤ last.time - first.time := by
  have positive : (0 : Int) < 30 := by decide
  have ⟨history, final, run, _, checked⟩ :=
    (sourcedMachine plainEnv idleManager fun _ => 4000).exists_run_of_check (create 0 30 500000)
      [(0, quietInput 1000000), (0, quietInput 1010000), (0, quietInput 1300000),
        (0, quietInput 1341000)]
      (fun result => framesOf 500000 result.2 =
        [⟨2000000 * 1000000, 8000000 * 2062⟩, ⟨2000000 * 1300000, 8000000 * 2062⟩,
          ⟨2000000 * 1341000, 8000000 * 8250⟩] ∧ result.1.source.rate = 2000000)
      (by decide +kernel)
  obtain ⟨frames, raised⟩ := of_decide_eq_true checked
  have split : framesOf 500000 history = [] ++ ⟨2000000 * 1000000, 8000000 * 2062⟩ ::
      ([⟨2000000 * 1300000, 8000000 * 2062⟩] ++ ⟨2000000 * 1341000, 8000000 * 8250⟩ :: []) := frames
  exact ⟨history, final, _, _, _, run, split, raised, by decide,
    frames_conform positive run split⟩

theorem duration_le (fs : Int) : (1000 : Int).tdiv fs ≤ 1000 := by
  rw [Int.tdiv_eq_ediv_of_nonneg (by decide)]
  exact Int.ediv_le_self _ (by decide)

/-- No call of `Process` fails the assertion on the length of a frame, in no run and at no
time, exactly when a frame at the start rate passes it. -/
theorem frames_split_iff (positive : 0 < fs) (created : Nat) :
    (∀ history final, (sourcedMachine env manager bandwidthEstimate).Run
        (create created fs startRate) history final →
      ∀ now : Nat, frameChunks (final.source.getFrame now).1 ≠ none) ↔
    startRate * (1000 : Int).tdiv fs < 8192000000 := by
  constructor
  · intro always
    have first := always [] _ Machine.Run.nil 1
    by_contra large
    apply first
    have long : (1024000 : Int) ≤ (startRate * (1000 : Int).tdiv fs).tdiv (1000 * 8) := by
      rw [Int.tdiv_eq_ediv_of_nonneg (by omega)]
      omega
    show frameChunks ((startRate * (1000 : Int).tdiv fs).tdiv (1000 * 8)) = none
    rw [frameChunks, if_pos (by omega), if_neg]
    show ¬_ / ((1000 : Nat) : Int) < ((1024 : Nat) : Int)
    omega
  · intro small history final run now
    have ⟨within, _⟩ := run_paced positive run
    have ⟨_, due⟩ := within.frame positive now
    have peak : FakeVideoGenerator.peakRate startRate * (1000 : Int).tdiv fs < 8192000000 := by
      have short := duration_le fs
      unfold FakeVideoGenerator.peakRate FakeVideoGenerator.defaultMaxRate
      obtain same | same := max_choice startRate 2000000 <;> rw [same] <;> omega
    unfold frameChunks
    split_ifs with some few
    · exact Option.some_ne_none _
    · have ⟨_, bits, _⟩ := due some
      rw [within.duration] at bits
      have large : ¬_ / ((1000 : Nat) : Int) < ((1024 : Nat) : Int) := few
      omega
    · exact Option.some_ne_none _

/-- At 30 frames a second, of 33 ms each, a start rate of 248 Mbit/s is safe and one of
249 Mbit/s is not. -/
theorem frames_split_atThirty :
    (∀ history final, (sourcedMachine plainEnv idleManager fun _ => 4000).Run
        (create 0 30 248000000) history final →
      ∀ now : Nat, frameChunks (final.source.getFrame now).1 ≠ none) ∧
    ¬∀ history final, (sourcedMachine plainEnv idleManager fun _ => 4000).Run
        (create 0 30 249000000) history final →
      ∀ now : Nat, frameChunks (final.source.getFrame now).1 ≠ none := by
  have positive : (0 : Int) < 30 := by decide
  exact ⟨(frames_split_iff positive 0).mpr (by decide),
    fun always => absurd ((frames_split_iff positive 0).mp always) (by decide)⟩

end SourcedSender

end StupidSimple.Quic
