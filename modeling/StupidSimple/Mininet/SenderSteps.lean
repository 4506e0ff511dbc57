import StupidSimple.Mininet.Sender
import StupidSimple.Mininet.CodecRoundTrip

/-!
Owns the rules of the steps of `Sender`: what a sent message is made of, and that a
step other than `SendVideo` and `TimeToSendPacket` makes no segment, sends none, and
leaves `pending_buf_` as it is.
-/

namespace StupidSimple.Mininet

open StupidSimple.Library

/-- The segments that `SendVideo` allocates. -/
def createdSegments (calls : List SenderCall) : List SimSegment :=
  calls.filterMap fun
    | .newSegment seg => some seg
    | _ => none

/-- The segments whose messages go to the network. -/
def sentSegments (calls : List SenderCall) : List SimSegment :=
  calls.filterMap fun
    | .sendToNetwork ⟨_, _, .segment seg, _⟩ => some seg
    | _ => none

/-- The segment as `SendVideo` left it. -/
def SimSegment.unstamped (seg : SimSegment) : SimSegment := { seg with sendTs := 0 }

@[simp] theorem createdSegments_append (left right : List SenderCall) :
    createdSegments (left ++ right) = createdSegments left ++ createdSegments right :=
  List.filterMap_append

@[simp] theorem sentSegments_append (left right : List SenderCall) :
    sentSegments (left ++ right) = sentSegments left ++ sentSegments right :=
  List.filterMap_append

section Frame

variable (created : List SimSegment) (entries : List (UInt16 × UInt16)) (ssrc : UInt32)
  (now : Int64)

theorem createdSegments_frame :
    createdSegments (created.map .newSegment ++
      entries.map fun entry => .insertPacket ssrc entry.1 now entry.2) = created := by
  have packets : createdSegments
      (entries.map fun entry => .insertPacket ssrc entry.1 now entry.2) = [] := by
    rw [createdSegments, List.filterMap_map]
    exact List.filterMap_eq_nil_iff.mpr fun _ _ => rfl
  rw [createdSegments_append, packets, List.append_nil, createdSegments, List.filterMap_map]
  exact List.filterMap_some

theorem sentSegments_frame :
    sentSegments (created.map .newSegment ++
      entries.map fun entry => .insertPacket ssrc entry.1 now entry.2) = [] := by
  rw [sentSegments_append, sentSegments, sentSegments, List.filterMap_map, List.filterMap_map]
  apply List.append_eq_nil_iff.mpr
  exact ⟨List.filterMap_eq_nil_iff.mpr fun _ _ => rfl, List.filterMap_eq_nil_iff.mpr fun _ _ => rfl⟩

end Frame

namespace Sender

variable {sender after : Sender} {calls : List SenderCall}

def pendingSegments (sender : Sender) : List SimSegment := sender.pendingBuf.entries.map Prod.snd

/-! ### Steps without segments -/

/-- The step neither makes nor sends a segment. -/
structure Quiet (before : Sender) (calls : List SenderCall) (after : Sender) : Prop where
  pendingBuf : after.pendingBuf = before.pendingBuf
  created : createdSegments calls = []
  sent : sentSegments calls = []

namespace Quiet

theorem refl (sender : Sender) : Quiet sender [] sender := ⟨rfl, rfl, rfl⟩

theorem trans {first middle last : Sender} {left right : List SenderCall}
    (one : Quiet first left middle) (two : Quiet middle right last) :
    Quiet first (left ++ right) last where
  pendingBuf := two.pendingBuf.trans one.pendingBuf
  created := by rw [createdSegments_append, one.created, two.created, List.append_nil]
  sent := by rw [sentSegments_append, one.sent, two.sent, List.append_nil]

theorem congr {before other : Sender} (quiet : Quiet before calls after)
    (same : other.pendingBuf = before.pendingBuf) : Quiet other calls after :=
  ⟨quiet.pendingBuf.trans same.symm, quiet.created, quiet.sent⟩

end Quiet

theorem sendMessage_cases {mid : UInt8} {body : SimBody}
    (sent : sender.sendMessage mid body = some (after, calls)) :
    ∃ message strm, message.body = body ∧ calls = [.sendToNetwork message] ∧
      after = { sender with stream := strm } := by
  have ⟨written, encoded, same⟩ := Option.bind_eq_some_iff.mp sent
  have ⟨final, _, made⟩ := Option.map_eq_some_iff.mp encoded
  cases made
  cases same
  exact ⟨_, _, rfl, rfl, rfl⟩

/-- A message with a layout is sent as its header, its body and their checksum. -/
theorem sendMessage_spec (sender : Sender) {mid : UInt8} {body : SimBody} {bytes : List UInt8}
    (emits : Emits BinStream.view (simEncodeBody mid body) bytes)
    (allocated : 0 < sender.stream.size) :
    ∃ strm, sender.sendMessage mid body =
        some ({ sender with stream := strm }, [.sendToNetwork
          ⟨sender.dst, initSimHeader mid sender.uid, body,
            sealed (headerLayout (initSimHeader mid sender.uid) ++ bytes)⟩]) ∧
      0 < strm.size := by
  have ⟨strm, encoded, size⟩ :=
    encodeTo_spec (initSimHeader mid sender.uid) emits allocated sender.dst
  refine ⟨strm, ?_, size⟩
  rw [sendMessage, encoded]
  rfl

theorem sendSegment_spec (sender : Sender) (seg : SimSegment)
    (allocated : 0 < sender.stream.size) (now : UInt32) :
    ∃ strm, sender.sendSegment seg now =
        some ({ sender with stream := strm }, [.sendToNetwork
          ⟨sender.dst, initSimHeader simSeg sender.uid, .segment (sender.stamp now seg),
            sealed (headerLayout (initSimHeader simSeg sender.uid) ++
              segmentLayout (sender.stamp now seg))⟩]) ∧
      0 < strm.size := by
  have emits : Emits BinStream.view (simEncodeBody simSeg (.segment (sender.stamp now seg)))
      (segmentLayout (sender.stamp now seg)) := (codes_anySegment _).emits
  exact sender.sendMessage_spec emits allocated

theorem quiet_sendMessage {mid : UInt8} {body : SimBody}
    (sent : sender.sendMessage mid body = some (after, calls))
    (other : ∀ seg, body ≠ .segment seg) : Quiet sender calls after := by
  have ⟨message, strm, sameBody, sameCalls, sameAfter⟩ := sendMessage_cases sent
  subst sameBody sameCalls sameAfter
  refine ⟨rfl, rfl, ?_⟩
  rcases message with ⟨peer, header, body, data⟩
  cases body with
  | segment seg => exact absurd rfl (other seg)
  | _ => rfl

theorem quiet_sendPadding {payloadLen : UInt16} {ts : UInt32}
    {stack : Vector UInt8 paddingDataSize}
    (sent : sender.sendPadding payloadLen ts stack = some (after, calls)) :
    Quiet sender calls after := by
  unfold sendPadding at sent
  split at sent
  · have ⟨written, encoded, same⟩ := Option.bind_eq_some_iff.mp sent
    cases same
    have numbered := quiet_sendMessage encoded (fun _ => nofun)
    have padded : Quiet sender written.2 written.1 := numbered.congr rfl
    exact padded.trans ⟨rfl, rfl, rfl⟩
  · contradiction

theorem quiet_sendPaddings {now : Int64} {stack : Nat → Vector UInt8 paddingDataSize} {remain : Nat}
    (sent : sender.sendPaddings now stack remain = some (after, calls)) :
    Quiet sender calls after := by
  induction remain using Nat.strong_induction_on generalizing sender calls with
  | _ remain inductionHypothesis =>
      unfold sendPaddings at sent
      split at sent
      · next positive =>
          split at sent
          · next whole =>
              have ⟨first, padded, rest⟩ := Option.bind_eq_some_iff.mp sent
              have ⟨second, later, same⟩ := Option.bind_eq_some_iff.mp rest
              cases same
              have smaller : remain - (paddingHeaderLen + maxPadSize) < remain := by
                simp only [paddingHeaderLen, maxPadSize]
                omega
              exact (quiet_sendPadding padded).trans (inductionHypothesis _ smaller later)
          · split at sent
            · exact quiet_sendPadding sent
            · cases sent
              exact Quiet.refl _
      · cases sent
        exact Quiet.refl _

theorem quiet_timeToSendPadding {bytes : Nat} {now : Int64}
    {stack : Nat → Vector UInt8 paddingDataSize}
    (sent : sender.timeToSendPadding bytes now stack = some (after, calls)) :
    Quiet sender calls after := by
  unfold timeToSendPadding at sent
  split at sent
  · cases sent
    exact Quiet.refl _
  · exact quiet_sendPaddings sent

theorem quiet_updateRtt (time : UInt32) (sender : Sender) :
    Quiet sender (sender.updateRtt time).2 (sender.updateRtt time).1 := by
  unfold updateRtt
  dsimp only
  split <;> exact ⟨rfl, rfl, rfl⟩

theorem quiet_pingIfDue {now : Int64} (sent : sender.pingIfDue now = some (after, calls)) :
    Quiet sender calls after := by
  unfold pingIfDue at sent
  split at sent
  · have ⟨written, encoded, same⟩ := Option.bind_eq_some_iff.mp sent
    cases same
    have quiet := quiet_sendMessage encoded (fun _ => nofun)
    exact ⟨quiet.pendingBuf, quiet.created, quiet.sent⟩
  · cases sent
    exact Quiet.refl _

theorem quiet_processingBody {header : SimHeader} {now : Int64} {strm : BinStream}
    (ran : sender.processingBody header now strm = some (after, calls)) :
    Quiet sender calls after := by
  unfold processingBody at ran
  split_ifs at ran with ping pong feedback
  · have ⟨⟨decoded, _⟩, _, rest⟩ := Option.bind_eq_some_iff.mp ran
    dsimp only at rest
    split at rest
    · have ⟨written, encoded, same⟩ := Option.bind_eq_some_iff.mp rest
      have ⟨final, _, made⟩ := Option.map_eq_some_iff.mp encoded
      cases made
      cases same
      exact ⟨rfl, rfl, rfl⟩
    · contradiction
  · have ⟨⟨decoded, _⟩, _, rest⟩ := Option.bind_eq_some_iff.mp ran
    dsimp only at rest
    split at rest
    · next pong _ =>
        split_ifs at rest
        · have quiet := quiet_updateRtt (toUInt32 (now - pong.ts)) sender
          rwa [Option.some.inj rest] at quiet
        · cases rest
          exact Quiet.refl _
    · contradiction
  · have ⟨⟨decoded, _⟩, _, rest⟩ := Option.bind_eq_some_iff.mp ran
    dsimp only at rest
    split at rest
    · cases rest
      exact ⟨rfl, rfl, rfl⟩
    · cases rest
      exact Quiet.refl _
  · cases ran
    exact Quiet.refl _

theorem quiet_processingMsg {now : Int64} {strm : BinStream}
    (ran : sender.processingMsg now strm = some (after, calls)) : Quiet sender calls after := by
  have ⟨⟨decoded, _⟩, _, rest⟩ := Option.bind_eq_some_iff.mp ran
  dsimp only at rest
  split at rest
  · cases rest
    exact Quiet.refl _
  · split_ifs at rest
    · cases rest
      exact Quiet.refl _
    · exact quiet_processingBody rest

theorem quiet_process {now later : Int64} {arrived : Option Datagram}
    (ran : sender.process now later arrived = some (after, calls)) :
    Quiet sender calls after := by
  unfold process at ran
  split_ifs at ran
  · cases ran
    exact Quiet.refl _
  · have ⟨⟨pinged, pings⟩, sentPing, rest⟩ := Option.bind_eq_some_iff.mp ran
    dsimp only at rest
    have quietPing := quiet_pingIfDue sentPing
    split at rest
    · cases rest
      exact quietPing
    · have ⟨processed, message, same⟩ := Option.bind_eq_some_iff.mp rest
      cases same
      have redirected : Quiet pinged processed.2 processed.1 :=
        (quiet_processingMsg message).congr rfl
      exact quietPing.trans redirected

end Sender

end StupidSimple.Mininet
