import Mathlib.Data.Finset.Card
import StupidSimple.Quic.Sender

/-!
Owns what the senders rely on in a `QuicSentPacketManager`, over the calls made
to it: the packets that are outstanding behind some calls (`outstanding`), and
the laws of a manager that offers some of them for retransmission
(`OffersOutstanding`).

`pacedManager` is a manager that keeps the laws. It declares a packet lost once an
ack of a packet three numbers higher has ended.
-/

namespace StupidSimple.Quic

namespace ManagerCall

/-! ### Acks that end -/

/-- The ranges at the front are followed by the end of their frame. -/
def endsFrame : List ManagerCall → Bool
  | .onAckRange _ _ :: rest => endsFrame rest
  | .onAckFrameEnd _ :: _ => true
  | _ => false

/-- One of the ranges at the front holds the packet, and their frame ends. -/
def acksUntilEnd (packetNumber : Nat) : List ManagerCall → Bool
  | .onAckRange start stop :: rest =>
      (start ≤ packetNumber && packetNumber < stop && endsFrame rest) ||
        acksUntilEnd packetNumber rest
  | _ => false

/-- An ack frame that holds the packet starts and ends among the calls. -/
def completelyAcked (packetNumber : Nat) : List ManagerCall → Bool
  | [] => false
  | .onAckFrameStart _ _ _ :: rest =>
      acksUntilEnd packetNumber rest || completelyAcked packetNumber rest
  | _ :: rest => completelyAcked packetNumber rest

/-- The packet is named as the original of a packet that is sent. -/
def retransmitted (packetNumber : Nat) (calls : List ManagerCall) : Bool :=
  calls.any fun
    | .onPacketSent _ original _ _ _ => original = packetNumber
    | _ => false

/-! ### Outstanding packets -/

/-- The packet is as it was when it was sent: neither acked nor sent again. -/
def untouched (packetNumber : Nat) (calls : List ManagerCall) : Bool :=
  !retransmitted packetNumber calls && !completelyAcked packetNumber calls

/-- The packets with retransmittable data that are untouched since they were sent. -/
def outstanding : List ManagerCall → List Nat
  | [] => []
  | .onPacketSent packet _ _ _ retransmittable :: rest =>
      if retransmittable && untouched packet.packetNumber rest then
        packet.packetNumber :: outstanding rest
      else outstanding rest
  | _ :: rest => outstanding rest

end ManagerCall

open ManagerCall

/-- What the sender relies on. A pending retransmission is an outstanding packet,
the manager offers one whenever it has some, and handing over a packet resolves
its original and nothing else. -/
structure OffersOutstanding (manager : QuicSentPacketManager)
    (pending : List ManagerCall → Finset Nat) : Prop where
  pending_outstanding : ∀ history, ∀ packetNumber ∈ pending history,
    packetNumber ∈ outstanding history
  offers : ∀ history, manager.hasPendingRetransmissions history = true →
    (manager.nextPendingRetransmission history).packetNumber ∈ pending history
  resolves : ∀ history packet original sentTime transmissionType retransmittable,
    pending (history ++
      [.onPacketSent packet original sentTime transmissionType retransmittable]) =
        (pending history).erase original

/-! ### More calls -/

namespace ManagerCall

theorem endsFrame_append {calls : List ManagerCall} (later : List ManagerCall)
    (ends : endsFrame calls = true) : endsFrame (calls ++ later) = true := by
  induction calls with
  | nil => cases ends
  | cons call calls inductionHypothesis =>
      cases call with
      | onAckRange start stop => exact inductionHypothesis ends
      | onAckFrameEnd time => rfl
      | _ => cases ends

theorem acksUntilEnd_append {packetNumber : Nat} {calls : List ManagerCall}
    (later : List ManagerCall) (acked : acksUntilEnd packetNumber calls = true) :
    acksUntilEnd packetNumber (calls ++ later) = true := by
  induction calls with
  | nil => cases acked
  | cons call calls inductionHypothesis =>
      cases call with
      | onAckRange start stop =>
          simp only [List.cons_append, acksUntilEnd, Bool.or_eq_true, Bool.and_eq_true] at acked ⊢
          exact acked.imp (fun own => ⟨own.1, endsFrame_append later own.2⟩) inductionHypothesis
      | _ => cases acked

theorem completelyAcked_append {packetNumber : Nat} {calls : List ManagerCall}
    (later : List ManagerCall) (acked : completelyAcked packetNumber calls = true) :
    completelyAcked packetNumber (calls ++ later) = true := by
  induction calls with
  | nil => cases acked
  | cons call calls inductionHypothesis =>
      cases call with
      | onAckFrameStart largest delay time =>
          simp only [List.cons_append, completelyAcked, Bool.or_eq_true] at acked ⊢
          exact acked.imp (acksUntilEnd_append later) inductionHypothesis
      | _ => exact inductionHypothesis acked

theorem completelyAcked_prepend {packetNumber : Nat} (earlier : List ManagerCall)
    {calls : List ManagerCall} (acked : completelyAcked packetNumber calls = true) :
    completelyAcked packetNumber (earlier ++ calls) = true := by
  induction earlier with
  | nil => exact acked
  | cons call earlier inductionHypothesis =>
      cases call with
      | onAckFrameStart largest delay time =>
          simp only [List.cons_append, completelyAcked, Bool.or_eq_true]
          exact Or.inr inductionHypothesis
      | _ => exact inductionHypothesis

theorem retransmitted_append (packetNumber : Nat) (calls later : List ManagerCall) :
    retransmitted packetNumber (calls ++ later) =
      (retransmitted packetNumber calls || retransmitted packetNumber later) :=
  List.any_append

/-- What is untouched by some calls is so by both halves of them. -/
theorem untouched_append {packetNumber : Nat} {calls later : List ManagerCall}
    (kept : untouched packetNumber (calls ++ later) = true) :
    untouched packetNumber calls = true ∧ untouched packetNumber later = true := by
  simp only [untouched, Bool.and_eq_true, Bool.not_eq_true', retransmitted_append,
    Bool.or_eq_false_iff] at kept ⊢
  have ⟨⟨early, late⟩, unacked⟩ := kept
  refine ⟨⟨early, ?_⟩, late, ?_⟩
  · by_contra acked
    have := completelyAcked_append later (Bool.eq_true_of_not_eq_false acked)
    rw [unacked] at this
    cases this
  · by_contra acked
    have := completelyAcked_prepend calls (Bool.eq_true_of_not_eq_false acked)
    rw [unacked] at this
    cases this

/-- A packet that is outstanding behind more calls was sent by them, or was
outstanding before and is untouched by them. -/
theorem outstanding_append {packetNumber : Nat} {history later : List ManagerCall}
    (member : packetNumber ∈ outstanding (history ++ later)) :
    (packetNumber ∈ outstanding history ∧ untouched packetNumber later = true) ∨
      packetNumber ∈ outstanding later := by
  induction history with
  | nil => exact Or.inr member
  | cons call history inductionHypothesis =>
      cases call with
      | onPacketSent packet original time type retransmittable =>
          simp only [List.cons_append, outstanding] at member ⊢
          split_ifs at member with kept
          · have ⟨retransmits, whole⟩ := Bool.and_eq_true_iff.mp kept
            have ⟨early, late⟩ := untouched_append whole
            rw [if_pos (Bool.and_eq_true_iff.mpr ⟨retransmits, early⟩)]
            rcases List.mem_cons.mp member with rfl | older
            · exact Or.inl ⟨List.mem_cons_self, late⟩
            · exact (inductionHypothesis older).imp_left
                (And.imp_left (List.mem_cons_of_mem _))
          · refine (inductionHypothesis member).imp_left (And.imp_left fun older => ?_)
            split_ifs
            · exact List.mem_cons_of_mem _ older
            · exact older
      | _ => exact inductionHypothesis member

/-- Calls that send nothing leave nothing outstanding. -/
theorem outstanding_eq_nil {calls : List ManagerCall}
    (unsent : ∀ packet original time type retransmittable,
      .onPacketSent packet original time type retransmittable ∉ calls) :
    outstanding calls = [] := by
  induction calls with
  | nil => rfl
  | cons call calls inductionHypothesis =>
      have rest := inductionHypothesis fun packet original time type retransmittable member =>
        unsent packet original time type retransmittable (List.mem_cons_of_mem _ member)
      cases call with
      | onPacketSent packet original time type retransmittable =>
          exact absurd List.mem_cons_self (unsent packet original time type retransmittable)
      | _ => exact rest

end ManagerCall

/-! ### A manager with a loss threshold -/

section Paced

/-- An ack frame that ends has acked a packet three numbers above. -/
def ManagerCall.lostAfter (packetNumber : Nat) : List ManagerCall → Bool
  | [] => false
  | .onAckFrameStart largestAcked _ _ :: rest =>
      (packetNumber + 3 ≤ largestAcked && endsFrame rest) || lostAfter packetNumber rest
  | _ :: rest => lostAfter packetNumber rest

/-- The outstanding packets that are lost. -/
def ManagerCall.lostPackets : List ManagerCall → List Nat
  | [] => []
  | .onPacketSent packet _ _ _ retransmittable :: rest =>
      if retransmittable && untouched packet.packetNumber rest &&
          lostAfter packet.packetNumber rest then
        packet.packetNumber :: lostPackets rest
      else lostPackets rest
  | _ :: rest => lostPackets rest

def ManagerCall.isSent : ManagerCall → Bool
  | .onPacketSent _ _ _ _ _ => true
  | _ => false

/-- A packet every millisecond, and retransmissions of the packets that are lost. -/
def pacedManager : QuicSentPacketManager where
  getLeastUnacked history := (outstanding history).headD (history.countP isSent + 1)
  timeUntilSend history now := some (1000 * history.countP isSent - now)
  hasPendingRetransmissions history := !(lostPackets history).isEmpty
  nextPendingRetransmission history := ⟨(lostPackets history).headD 0, [⟨0, false, 0, [], 0⟩]⟩
  shouldSendProbingPacket _ := false

theorem lostPackets_subset {history : List ManagerCall} {packetNumber : Nat}
    (member : packetNumber ∈ lostPackets history) : packetNumber ∈ outstanding history := by
  induction history with
  | nil => cases member
  | cons call history inductionHypothesis =>
      cases call with
      | onPacketSent packet original time type retransmittable =>
          simp only [lostPackets, outstanding] at member ⊢
          by_cases kept : (retransmittable && untouched packet.packetNumber history) = true
          · rw [if_pos kept]
            split_ifs at member
            · cases List.mem_cons.mp member with
              | inl same => exact same ▸ List.mem_cons_self
              | inr older => exact List.mem_cons_of_mem _ (inductionHypothesis older)
            · exact List.mem_cons_of_mem _ (inductionHypothesis member)
          · rw [if_neg kept]
            rw [Bool.eq_false_of_not_eq_true kept, Bool.false_and, if_neg Bool.false_ne_true]
              at member
            exact inductionHypothesis member
      | _ => exact inductionHypothesis member

section Sent

variable (packet : SerializedPacket) (original time : Nat) (type : TransmissionType)
  (retransmittable : Bool) (packetNumber : Nat)

theorem endsFrame_sent (calls : List ManagerCall) :
    endsFrame (calls ++ [.onPacketSent packet original time type retransmittable]) =
      endsFrame calls := by
  induction calls with
  | nil => rfl
  | cons call calls inductionHypothesis =>
      cases call with
      | onAckRange start stop => exact inductionHypothesis
      | _ => rfl

theorem acksUntilEnd_sent (calls : List ManagerCall) :
    acksUntilEnd packetNumber
        (calls ++ [.onPacketSent packet original time type retransmittable]) =
      acksUntilEnd packetNumber calls := by
  induction calls with
  | nil => rfl
  | cons call calls inductionHypothesis =>
      cases call with
      | onAckRange start stop =>
          rw [List.cons_append, acksUntilEnd, acksUntilEnd, endsFrame_sent, inductionHypothesis]
      | _ => rfl

theorem completelyAcked_sent (calls : List ManagerCall) :
    completelyAcked packetNumber
        (calls ++ [.onPacketSent packet original time type retransmittable]) =
      completelyAcked packetNumber calls := by
  induction calls with
  | nil => rfl
  | cons call calls inductionHypothesis =>
      cases call with
      | onAckFrameStart largest delay receiveTime =>
          rw [List.cons_append, completelyAcked, completelyAcked, acksUntilEnd_sent,
            inductionHypothesis]
      | _ => exact inductionHypothesis

theorem lostAfter_sent (calls : List ManagerCall) :
    lostAfter packetNumber
        (calls ++ [.onPacketSent packet original time type retransmittable]) =
      lostAfter packetNumber calls := by
  induction calls with
  | nil => rfl
  | cons call calls inductionHypothesis =>
      cases call with
      | onAckFrameStart largest delay receiveTime =>
          rw [List.cons_append, lostAfter, lostAfter, endsFrame_sent, inductionHypothesis]
      | _ => exact inductionHypothesis

theorem untouched_sent (calls : List ManagerCall) :
    untouched packetNumber
        (calls ++ [.onPacketSent packet original time type retransmittable]) =
      (untouched packetNumber calls && decide (packetNumber ≠ original)) := by
  rw [untouched, untouched, completelyAcked_sent, retransmitted_append]
  by_cases same : packetNumber = original
  · simp [retransmitted, same]
  · simp [retransmitted, same, Ne.symm same]

/-- A packet that is sent takes its original off the lost ones. -/
theorem lostPackets_sent (history : List ManagerCall) :
    lostPackets (history ++ [.onPacketSent packet original time type retransmittable]) =
      (lostPackets history).filter (· ≠ original) := by
  induction history with
  | nil => simp [lostPackets, lostAfter]
  | cons call history inductionHypothesis =>
      cases call with
      | onPacketSent earlier _ _ _ earlierRetransmittable =>
          simp only [List.cons_append, lostPackets, untouched_sent, lostAfter_sent,
            inductionHypothesis]
          by_cases same : earlier.packetNumber = original
          · split_ifs <;> simp_all
          · split_ifs <;> simp_all
      | _ => exact inductionHypothesis

end Sent

theorem pacedManager_offersOutstanding :
    OffersOutstanding pacedManager fun history => (lostPackets history).toFinset where
  pending_outstanding history packetNumber member :=
    lostPackets_subset (List.mem_toFinset.mp member)
  offers history pending := by
    change (!(lostPackets history).isEmpty) = true at pending
    change (lostPackets history).headD 0 ∈ (lostPackets history).toFinset
    cases lost : lostPackets history with
    | nil =>
        rw [lost] at pending
        cases pending
    | cons first rest => simp
  resolves history packet original time type retransmittable := by
    rw [lostPackets_sent]
    ext packetNumber
    simp [and_comm]

end Paced

end StupidSimple.Quic
