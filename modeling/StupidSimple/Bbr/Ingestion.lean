import StupidSimple.Bbr.VideoApp
import StupidSimple.Quic.AckCompletion
import StupidSimple.Quic.FrameWindow

/-!
Owns what happens to the memory of a datagram that `Process` has received: the
copies of `ProcessAckFrame` (`MyBbrSenderApp`, `MyBbrVideoSenderApp`) and of
`OnIncomingData` (`MyQuicSender`, `MyQuicVideoSender`), and the bytes that the frame
parser reads. `ingested_inside_iff` says for which datagrams all of them stay
inside.
-/

namespace StupidSimple.Bbr

open StupidSimple.Quic

/-- `max_len`, the size of the buffer that `Process` receives into. -/
def maxLen : Nat := 1500

/-- Every byte that `memcpy` writes lies in a buffer of `size` bytes. -/
def CopyFits (size : Nat) (data : List UInt8) : Prop := ∀ offset < data.length, offset < size

theorem copyFits_iff {size : Nat} {data : List UInt8} : CopyFits size data ↔ data.length ≤ size := by
  constructor
  · intro fits
    by_contra long
    exact absurd (fits size (Nat.lt_of_not_le long)) (Nat.lt_irrefl size)
  · intro short offset inside
    exact inside.trans_le short

/-- The acks of the apps are defined where their copy fits. -/
theorem isSome_ackedNumber_iff {io : QuicData} {data : List UInt8} :
    (ackedNumber io data).isSome ↔ CopyFits maxPacketSize data := by
  rw [copyFits_iff, ackedNumber]
  split_ifs with short
  · exact iff_of_true rfl short
  · exact iff_of_false (by simp) short

/-- `OnIncomingData` is defined where its copy fits and the header is inside. -/
theorem isSome_framePayload_iff {data : List UInt8} :
    (framePayload data).isSome ↔ CopyFits kMaxPacketSize data ∧ headerLen data ≤ data.length := by
  rw [copyFits_iff]
  unfold framePayload
  simp only
  split_ifs with inside
  · exact iff_of_true rfl inside
  · exact iff_of_false (by simp) inside

/-- Both senders let the parser read only bytes of the datagram. -/
def ReadsInside (env : FramerEnv) (data : List UInt8) : Prop :=
  ∀ manager memory,
    (∀ sender : MyQuicSender, ∀ offset ∈ touchedOffsets env (MyQuicSender.visitor manager) memory
      (frameWindow data) sender, offset < data.length) ∧
    ∀ sender : MyQuicVideoSender, ∀ offset ∈ touchedOffsets env
      (MyQuicVideoSender.visitor manager) memory (frameWindow data) sender, offset < data.length

/-- No function leaves the memory of the datagram and of its own buffer. -/
structure IngestedInside (env : FramerEnv) (data : List UInt8) : Prop where
  ackCopy : CopyFits maxPacketSize data
  dataCopy : CopyFits kMaxPacketSize data
  header : headerLen data ≤ data.length
  remain : headerLen data + (frameWindow data).length = data.length
  reads : ReadsInside env data

section Ingestion

variable (env : FramerEnv) (data : List UInt8)

/-- The parser leaves every datagram that is shorter than its header. -/
theorem readsInside_iff (short : data.length < 2 ^ 32) :
    ReadsInside env data ↔ leastLength (data.headD 0) ≤ data.length := by
  rw [← headerLen_eq]
  constructor
  · intro inside
    by_contra cut
    let sender : MyQuicSender := { acks := ⟨[], 0, 0, 0⟩, seq := 1 }
    have leaves : ∃ offset ∈ touchedOffsets env (MyQuicSender.visitor idleManager) (fun _ => 0)
        (frameWindow data) sender, data.length ≤ offset :=
      touches_beyond (Nat.lt_of_not_le cut)
    have ⟨offset, touched, beyond⟩ := leaves
    exact absurd ((inside idleManager fun _ => 0).1 sender offset touched) (Nat.not_lt.mpr beyond)
  · intro header manager memory
    exact ⟨fun sender => touches_datagram header short, fun sender => touches_datagram header short⟩

/-- The functions stay inside exactly for the datagrams of at most 1400 bytes that
are not shorter than their own header, and for these they are defined. Of the
parts: the copies of `ProcessAckFrame` fit up to 1400 bytes, those of
`OnIncomingData` up to 1452, and the parser leaves every received datagram that is
shorter than its header. -/
theorem ingested_inside_iff :
    (IngestedInside env data ↔
      data.length ≤ 1400 ∧ leastLength (data.headD 0) ≤ data.length) ∧
    (IngestedInside env data ↔
      (ackedNumber env.io data).isSome ∧ (framePayload data).isSome) ∧
    (CopyFits maxPacketSize data ↔ data.length ≤ 1400) ∧
    (CopyFits kMaxPacketSize data ↔ data.length ≤ 1452) ∧
    (data.length ≤ maxLen → (ReadsInside env data ↔ leastLength (data.headD 0) ≤ data.length)) := by
  have narrow : maxPacketSize ≤ kMaxPacketSize := by decide
  have received : maxLen < 2 ^ 32 := by decide
  have inside : IngestedInside env data ↔
      data.length ≤ 1400 ∧ leastLength (data.headD 0) ≤ data.length := by
    constructor
    · intro inside
      rw [← headerLen_eq]
      exact ⟨copyFits_iff.mp inside.ackCopy, inside.header⟩
    · rintro ⟨small, header⟩
      have short : data.length < 2 ^ 32 := by omega
      have headerInside : headerLen data ≤ data.length := by rwa [headerLen_eq]
      exact
        { ackCopy := copyFits_iff.mpr small
          dataCopy := copyFits_iff.mpr (small.trans narrow)
          header := headerInside
          remain := stop_frameWindow headerInside short
          reads := (readsInside_iff env data short).mpr header }
  refine ⟨inside, ?_, copyFits_iff, copyFits_iff,
    fun short => readsInside_iff env data (short.trans_lt received)⟩
  rw [inside, isSome_ackedNumber_iff, isSome_framePayload_iff, copyFits_iff, copyFits_iff,
    headerLen_eq]
  constructor
  · rintro ⟨small, header⟩
    exact ⟨small, small.trans narrow, header⟩
  · rintro ⟨small, _, header⟩
    exact ⟨small, header⟩

/-- A datagram of one byte announces a packet number of one byte more, and a datagram
that fills the buffer of `Process` fits into neither copy. -/
theorem not_ingested_inside :
    ([0].length ≤ maxLen ∧ headerLen [0] = 2 ∧ (frameWindow [0]).length = 4294967295 ∧
      ¬IngestedInside plainEnv [0] ∧ ¬ReadsInside plainEnv [0]) ∧
    ((List.replicate 1500 0).length ≤ maxLen ∧
      ¬CopyFits maxPacketSize (List.replicate 1500 0) ∧
      ¬CopyFits kMaxPacketSize (List.replicate 1500 0)) := by
  constructor
  · refine ⟨by decide, by decide, by decide, fun inside => absurd inside.header (by decide), ?_⟩
    rw [readsInside_iff plainEnv [0] (by decide)]
    decide
  · simp only [copyFits_iff, List.length_replicate]
    decide

end Ingestion

end StupidSimple.Bbr
