import StupidSimple.Mininet.Receiver
import StupidSimple.Mininet.Sender
import Mathlib.Algebra.Order.BigOperators.Group.List
import Mathlib.Algebra.Group.Action.Defs
import Mathlib.Data.List.Infix
import Mathlib.Order.Bounds.Basic

/-!
Owns the reports of the two round trip estimators. `Sender::UpdateRtt` reports before it
updates `max_rtt_`, `Receiver::UpdateRtt` after; both divide a sum of 64 bits.

`rtt_reports_iff` says for which samples the reports are the same and describe the
samples so far: those of which none is larger than the first, while the sum fits.
-/

namespace StupidSimple.Mininet

open StupidSimple.Library

/-- A sample as both estimators count it. -/
def keepRtt (time : UInt32) : UInt32 := if 5 < time then time else 5

def kept (samples : List UInt32) : List Nat := samples.map fun time => (keepRtt time).toNat

/-! ### Reports -/

/-- The reports of `UpdateRtt` called for one sample after the other. -/
def Sender.rttReports : List UInt32 → Sender → List SenderCall
  | [], _ => []
  | time :: rest, sender =>
      (sender.updateRtt time).2 ++ rttReports rest (sender.updateRtt time).1

def Receiver.rttReports : List UInt32 → Receiver → List ReceiverCall
  | [], _ => []
  | time :: rest, receiver =>
      (receiver.updateRtt time).2 ++ rttReports rest (receiver.updateRtt time).1

/-- Average and maximum of each `OnRttUpdate`. -/
def senderStatistics (calls : List SenderCall) : List (Int × Int) :=
  calls.filterMap fun
    | .onRttUpdate averageRtt maxRtt => some (averageRtt.toInt, maxRtt.toInt)
    | _ => none

def receiverStatistics (calls : List ReceiverCall) : List (Int × Int) :=
  calls.filterMap fun
    | .onRttUpdate averageRtt maxRtt => some (averageRtt.toNat, maxRtt.toNat)
    | _ => none

/-- The maximum is the largest of these samples, and the average lies between the
smallest and the largest. -/
def Describes (sofar : List Nat) (statistics : Int × Int) : Prop :=
  ∃ least greatest, IsLeast { sample | sample ∈ sofar } least ∧
    IsGreatest { sample | sample ∈ sofar } greatest ∧
    statistics.2 = greatest ∧ (least : Int) ≤ statistics.1 ∧ statistics.1 ≤ greatest

/-- There is a report for each sample, and it describes the samples up to this one. -/
def Consistent (samples : List Nat) (statistics : List (Int × Int)) : Prop :=
  List.Forall₂ Describes samples.inits.tail statistics

/-! ### Arithmetic -/

theorem toInt64_eq (value : UInt32) : toInt64 value = Int64.ofNat value.toNat := by
  apply Int64.toBitVec_inj.mp
  apply BitVec.eq_of_toNat_eq
  simp [toInt64]

theorem toUInt32_ofNat (value : Nat) : toUInt32 (Int64.ofNat value) = UInt32.ofNat value := by
  apply UInt32.toBitVec_inj.mp
  simp [toUInt32]

theorem five_le_keepRtt (time : UInt32) : 5 ≤ (keepRtt time).toNat := by
  unfold keepRtt
  split
  · next larger => exact Nat.le_of_lt (UInt32.lt_iff_toNat_lt.mp larger)
  · decide

theorem exists_isLeast {samples : List Nat} {sample : Nat} (member : sample ∈ samples) :
    ∃ least, IsLeast { sample | sample ∈ samples } least := by
  have found : ∃ least, least ∈ samples := ⟨sample, member⟩
  exact ⟨Nat.find found, Nat.find_spec found, fun _ other => Nat.find_min' found other⟩

/-- Once a sum has overflowed, the quotient is not positive. -/
theorem wrapped_average {sum length : Nat} (overflow : 2 ^ 63 ≤ sum) (few : sum < 2 ^ 64)
    (positive : 0 < length) (small : length < 2 ^ 63) :
    (Int64.ofNat sum / Int64.ofNat length).toInt ≤ 0 := by
  have divisor : (Int64.ofNat length).toInt = length := Int64.toInt_ofNat_of_lt small
  have dividend : (Int64.ofNat sum).toInt = (sum : Int) - 2 ^ 64 := by
    rw [Int64.toInt_ofNat', Int.bmod_def]
    have size : Int64.size = 2 ^ 64 := rfl
    rw [size]
    omega
  have ordinary : Int64.ofNat length ≠ -1 := by
    intro minus
    rw [minus] at divisor
    have negative : (-1 : Int64).toInt = -1 := by decide
    omega
  have flipped : (sum : Int) - 2 ^ 64 = -(2 ^ 64 - sum) := by omega
  have quotient : 0 ≤ (2 ^ 64 - (sum : Int)).tdiv length :=
    Int.tdiv_nonneg (by omega) (Int.natCast_nonneg _)
  rw [Int64.toInt_div_of_ne_right _ _ ordinary, divisor, dividend, flipped, Int.neg_tdiv]
  omega

/-- What both estimators have counted, while the sum fits. -/
structure Tally (seen : List Nat) (high : Nat) : Prop where
  five : ∀ sample ∈ seen, 5 ≤ sample
  greatest : IsGreatest { sample | sample ∈ seen } high
  narrow : high < 2 ^ 32
  fits : seen.sum < 2 ^ 63

namespace Tally

variable {seen : List Nat} {high : Nat}

theorem length_pos (tally : Tally seen high) : 0 < seen.length :=
  List.length_pos_of_mem tally.greatest.1

theorem five_mul_length_le (tally : Tally seen high) : 5 * seen.length ≤ seen.sum := by
  have enough := List.card_nsmul_le_sum seen 5 tally.five
  rwa [smul_eq_mul, Nat.mul_comm] at enough

theorem length_lt (tally : Tally seen high) : seen.length < 2 ^ 63 - 1 := by
  have enough := tally.five_mul_length_le
  have fits := tally.fits
  omega

theorem snoc (tally : Tally seen high) {sample : Nat} (five : 5 ≤ sample) (below : sample ≤ high)
    (fits : (seen ++ [sample]).sum < 2 ^ 63) : Tally (seen ++ [sample]) high where
  five := by
    intro other member
    rcases List.mem_append.mp member with old | new
    · exact tally.five other old
    · rw [List.mem_singleton.mp new]
      exact five
  greatest := by
    refine ⟨List.mem_append_left _ tally.greatest.1, fun other member => ?_⟩
    rcases List.mem_append.mp member with old | new
    · exact tally.greatest.2 old
    · rw [List.mem_singleton.mp new]
      exact below
  narrow := tally.narrow
  fits := fits

/-- The average of the samples lies between them. -/
theorem average (tally : Tally seen high) {least : Nat}
    (isLeast : IsLeast { sample | sample ∈ seen } least) :
    least ≤ seen.sum / seen.length ∧ seen.sum / seen.length ≤ high := by
  have positive := tally.length_pos
  have above := List.card_nsmul_le_sum seen least fun sample member => isLeast.2 member
  have below := List.sum_le_card_nsmul seen high fun sample member => tally.greatest.2 member
  rw [smul_eq_mul] at above below
  constructor
  · exact (Nat.le_div_iff_mul_le positive).mpr (by rwa [Nat.mul_comm])
  · exact Nat.div_le_of_le_mul below

theorem describes (tally : Tally seen high) :
    Describes seen ((seen.sum / seen.length : Nat), high) := by
  have ⟨least, isLeast⟩ := exists_isLeast tally.greatest.1
  have ⟨above, below⟩ := tally.average isLeast
  exact ⟨least, high, isLeast, tally.greatest, rfl, Int.ofNat_le.mpr above, Int.ofNat_le.mpr below⟩

theorem ofNat_length_ne_zero (tally : Tally seen high) : Int64.ofNat seen.length ≠ 0 := by
  intro zero
  have positive := tally.length_pos
  have small : seen.length < 2 ^ 63 := tally.length_lt.trans (by decide)
  have value := Int64.toInt_ofNat_of_lt small
  rw [zero] at value
  have nothing : (0 : Int64).toInt = 0 := rfl
  omega

/-- The report of `Sender` describes the samples exactly when the new one is not the
largest and the sum fits. -/
theorem describes_iff (tally : Tally seen high) {sample : Nat} (five : 5 ≤ sample)
    (narrow : sample < 2 ^ 32) :
    Describes (seen ++ [sample])
        ((Int64.ofNat (seen ++ [sample]).sum / Int64.ofNat (seen ++ [sample]).length).toInt, high) ↔
      sample ≤ high ∧ (seen ++ [sample]).sum < 2 ^ 63 := by
  have positive : 0 < (seen ++ [sample]).length := by
    rw [List.length_append]
    exact Nat.succ_pos _
  have small : (seen ++ [sample]).length < 2 ^ 63 := by
    have before := tally.length_lt
    rw [List.length_append, List.length_singleton]
    omega
  constructor
  · rintro ⟨least, greatest, isLeast, isGreatest, maximum, above, _⟩
    have same : high = greatest := Int.ofNat_inj.mp maximum
    refine ⟨same ▸ isGreatest.2 (List.mem_append_right _ (List.mem_singleton_self _)), ?_⟩
    by_contra overflow
    have few : (seen ++ [sample]).sum < 2 ^ 64 := by
      have fits := tally.fits
      rw [List.sum_append, List.sum_singleton]
      omega
    have wrapped := wrapped_average (Nat.le_of_not_lt overflow) few positive small
    have large : 5 ≤ least := by
      rcases List.mem_append.mp isLeast.1 with old | new
      · exact tally.five least old
      · rw [List.mem_singleton.mp new]
        exact five
    simp only at above
    omega
  · rintro ⟨below, fits⟩
    have next := tally.snoc five below fits
    rw [← Int64.ofNat_div fits small, Int64.toInt_ofNat_of_lt ((Nat.div_le_self _ _).trans_lt fits)]
    exact next.describes

end Tally

/-! ### One sample -/

theorem ofNat_length_snoc (seen : List Nat) (sample : Nat) :
    Int64.ofNat seen.length + 1 = Int64.ofNat (seen ++ [sample]).length := by
  rw [List.length_append, Int64.ofNat_add]
  rfl

theorem ofNat_sum_snoc (seen : List Nat) (value : UInt32) :
    Int64.ofNat seen.sum + toInt64 value = Int64.ofNat (seen ++ [value.toNat]).sum := by
  rw [toInt64_eq, List.sum_append, List.sum_singleton, Int64.ofNat_add]

namespace Sender

variable {sender : Sender} {seen : List Nat} {high : Nat}

/-- The statistics of these samples. -/
structure Shows (seen : List Nat) (high : Nat) (sender : Sender) : Prop where
  rttNum : sender.rttNum = Int64.ofNat seen.length
  sumRtt : sender.sumRtt = Int64.ofNat seen.sum
  maxRtt : sender.maxRtt = Int64.ofNat high

theorem updateRtt_first (fresh : sender.rttNum = 0) (time : UInt32) :
    (sender.updateRtt time).1.Shows [(keepRtt time).toNat] (keepRtt time).toNat ∧
      (sender.updateRtt time).2 =
        [.onRttUpdate (Int64.ofNat (keepRtt time).toNat) (Int64.ofNat (keepRtt time).toNat)] := by
  rw [← toInt64_eq, updateRtt]
  simp only [if_pos fresh]
  refine ⟨⟨?_, ?_, toInt64_eq _⟩, rfl⟩
  · show sender.rttNum + 1 = _
    rw [fresh]
    rfl
  · exact (toInt64_eq _).trans (by rw [List.sum_singleton]; rfl)

theorem updateRtt_next (shows : sender.Shows seen high) (tally : Tally seen high)
    (time : UInt32) :
    let sofar := seen ++ [(keepRtt time).toNat]
    (sender.updateRtt time).2 =
        [.onRttUpdate (Int64.ofNat sofar.sum / Int64.ofNat sofar.length) (Int64.ofNat high)] ∧
      ((keepRtt time).toNat ≤ high → (sender.updateRtt time).1.Shows sofar high) := by
  intro sofar
  have counted : sender.rttNum + 1 = Int64.ofNat sofar.length :=
    shows.rttNum ▸ ofNat_length_snoc seen _
  have summed : sender.sumRtt + toInt64 (keepRtt time) = Int64.ofNat sofar.sum :=
    shows.sumRtt ▸ ofNat_sum_snoc seen _
  have started : sender.rttNum ≠ 0 := shows.rttNum ▸ tally.ofNat_length_ne_zero
  have high64 : high < 2 ^ 63 := tally.narrow.trans (by decide)
  rw [updateRtt]
  simp only [if_neg started]
  refine ⟨?_, fun below => ⟨counted, summed, ?_⟩⟩
  · rw [counted, ← shows.maxRtt]
    exact congrArg (fun sum => [SenderCall.onRttUpdate (sum / _) _]) summed
  · have smaller : ¬sender.maxRtt < toInt64 (keepRtt time) := by
      rw [shows.maxRtt, toInt64_eq, Int64.ofNat_lt_iff_lt high64 (below.trans_lt high64)]
      exact Nat.not_lt.mpr below
    exact (if_neg smaller).trans shows.maxRtt

end Sender

namespace Receiver

variable {receiver : Receiver} {seen : List Nat} {high : Nat}

/-- The statistics of these samples, with a congestion controller to hear them. -/
structure Shows (seen : List Nat) (high : Nat) (receiver : Receiver) : Prop where
  congestionConfigured : receiver.congestionConfigured = true
  rttNum : receiver.rttNum = Int64.ofNat seen.length
  sumRtt : receiver.sumRtt = Int64.ofNat seen.sum
  maxRtt : receiver.maxRtt = UInt32.ofNat high

theorem updateRtt_first (configured : receiver.congestionConfigured = true)
    (fresh : receiver.rttNum = 0) (time : UInt32) :
    (receiver.updateRtt time).1.Shows [(keepRtt time).toNat] (keepRtt time).toNat ∧
      (receiver.updateRtt time).2 = [.onRttUpdate (keepRtt time) (keepRtt time)] := by
  rw [updateRtt]
  simp only [if_pos fresh, if_pos configured]
  refine ⟨⟨configured, ?_, ?_, UInt32.ofNat_toNat.symm⟩, rfl⟩
  · show receiver.rttNum + 1 = _
    rw [fresh]
    rfl
  · exact (toInt64_eq _).trans (by rw [List.sum_singleton]; rfl)

theorem updateRtt_next (shows : receiver.Shows seen high) (tally : Tally seen high)
    {time : UInt32} (below : (keepRtt time).toNat ≤ high)
    (fits : (seen ++ [(keepRtt time).toNat]).sum < 2 ^ 63) :
    let sofar := seen ++ [(keepRtt time).toNat]
    (receiver.updateRtt time).2 =
        [.onRttUpdate (UInt32.ofNat (sofar.sum / sofar.length)) (UInt32.ofNat high)] ∧
      (receiver.updateRtt time).1.Shows sofar high := by
  intro sofar
  have counted : receiver.rttNum + 1 = Int64.ofNat sofar.length :=
    shows.rttNum ▸ ofNat_length_snoc seen _
  have summed : receiver.sumRtt + toInt64 (keepRtt time) = Int64.ofNat sofar.sum :=
    shows.sumRtt ▸ ofNat_sum_snoc seen _
  have started : receiver.rttNum ≠ 0 := shows.rttNum ▸ tally.ofNat_length_ne_zero
  have small : sofar.length < 2 ^ 63 := by
    have before := tally.length_lt
    rw [List.length_append, List.length_singleton]
    omega
  have smaller : ¬receiver.maxRtt < keepRtt time := by
    rw [shows.maxRtt, UInt32.lt_iff_toNat_lt, UInt32.toNat_ofNat_of_lt' tally.narrow]
    exact Nat.not_lt.mpr below
  have maximum : (if receiver.maxRtt < keepRtt time then keepRtt time else receiver.maxRtt) =
      UInt32.ofNat high := (if_neg smaller).trans shows.maxRtt
  have average : toUInt32 ((receiver.sumRtt + toInt64 (keepRtt time)) / (receiver.rttNum + 1)) =
      UInt32.ofNat (sofar.sum / sofar.length) := by
    rw [counted, summed, ← Int64.ofNat_div fits small, toUInt32_ofNat]
  rw [updateRtt]
  simp only [if_neg started]
  refine ⟨?_, shows.congestionConfigured, counted, summed, maximum⟩
  rw [if_pos shows.congestionConfigured]
  exact congrArg₂ (fun average high => [ReceiverCall.onRttUpdate average high]) average maximum

end Receiver

/-! ### All samples -/

/-- The samples so far, with each new one. -/
theorem sofar_cons (seen : List Nat) (sample : Nat) (rest : List Nat) :
    (sample :: rest).inits.tail.map (seen ++ ·) =
      (seen ++ [sample]) :: rest.inits.tail.map (seen ++ [sample] ++ ·) := by
  have inits : rest.inits = [] :: rest.inits.tail := by
    cases rest with
    | nil => rfl
    | cons next others => rw [List.inits_cons, List.tail_cons]
  rw [List.inits_cons, List.tail_cons, inits, List.map_cons, List.map_cons, List.map_map,
    List.tail_cons]
  have extend : ((fun sofar => seen ++ sofar) ∘ fun sofar => sample :: sofar) =
      fun sofar => seen ++ [sample] ++ sofar := by
    funext sofar
    simp
  rw [extend]

/-- The samples that `Sender` reports rightly: none above the largest before them, and a
sum that fits. -/
def Ordinary (seen : List Nat) (high : Nat) (samples : List Nat) : Prop :=
  (∀ sample ∈ samples, sample ≤ high) ∧ (seen ++ samples).sum < 2 ^ 63

theorem ordinary_cons {seen rest : List Nat} {high sample : Nat} :
    Ordinary seen high (sample :: rest) ↔
      (sample ≤ high ∧ (seen ++ [sample]).sum < 2 ^ 63) ∧
        Ordinary (seen ++ [sample]) high rest := by
  unfold Ordinary
  rw [List.forall_mem_cons, List.append_assoc, List.singleton_append]
  constructor
  · rintro ⟨⟨below, others⟩, fits⟩
    refine ⟨⟨below, ?_⟩, others, fits⟩
    rw [List.sum_append, List.sum_cons] at fits
    rw [List.sum_append, List.sum_singleton]
    omega
  · rintro ⟨⟨below, _⟩, others, fits⟩
    exact ⟨⟨below, others⟩, fits⟩

/-- From any tally on, the reports of `Sender` are right for ordinary samples only. -/
theorem consistent_iff_ordinary {seen : List Nat} {high : Nat} (tally : Tally seen high)
    {sender : Sender} (shows : sender.Shows seen high) (samples : List UInt32) :
    List.Forall₂ Describes ((kept samples).inits.tail.map (seen ++ ·))
        (senderStatistics (sender.rttReports samples)) ↔ Ordinary seen high (kept samples) := by
  induction samples generalizing seen sender with
  | nil =>
      have fits : (seen ++ []).sum < 2 ^ 63 := by
        rw [List.append_nil]
        exact tally.fits
      exact iff_of_true List.Forall₂.nil ⟨fun _ => nofun, fits⟩
  | cons time rest inductionHypothesis =>
      have ⟨reported, shown⟩ := Sender.updateRtt_next shows tally time
      have high64 : high < 2 ^ 63 := tally.narrow.trans (by decide)
      have five := five_le_keepRtt time
      have narrow : (keepRtt time).toNat < 2 ^ 32 := (keepRtt time).toNat_lt
      have statistics : senderStatistics (sender.rttReports (time :: rest)) =
          ((Int64.ofNat (seen ++ [(keepRtt time).toNat]).sum /
            Int64.ofNat (seen ++ [(keepRtt time).toNat]).length).toInt, (high : Int)) ::
            senderStatistics ((sender.updateRtt time).1.rttReports rest) := by
        rw [Sender.rttReports, reported, ← Int64.toInt_ofNat_of_lt high64]
        rfl
      rw [statistics, kept, List.map_cons, sofar_cons, List.forall₂_cons, ordinary_cons,
        tally.describes_iff five narrow]
      refine and_congr_right fun ⟨below, fits⟩ => ?_
      exact inductionHypothesis (tally.snoc five below fits) (shown below)

/-- On ordinary samples `Receiver` makes the same reports. -/
theorem sameStatistics_of_ordinary {seen : List Nat} {high : Nat} (tally : Tally seen high)
    {sender : Sender} (shows : sender.Shows seen high) {receiver : Receiver}
    (receiverShows : receiver.Shows seen high) {samples : List UInt32}
    (ordinary : Ordinary seen high (kept samples)) :
    senderStatistics (sender.rttReports samples) =
      receiverStatistics (receiver.rttReports samples) := by
  induction samples generalizing seen sender receiver with
  | nil => rfl
  | cons time rest inductionHypothesis =>
      have ⟨⟨below, fits⟩, others⟩ := ordinary_cons.mp ordinary
      have next := tally.snoc (five_le_keepRtt time) below fits
      have ⟨sent, senderShown⟩ := Sender.updateRtt_next shows tally time
      have ⟨received, receiverShown⟩ := Receiver.updateRtt_next receiverShows tally below fits
      have ⟨least, isLeast⟩ := exists_isLeast next.greatest.1
      have average := (next.average isLeast).2.trans_lt tally.narrow
      have average64 := average.trans (by decide : 2 ^ 32 < 2 ^ 63)
      have high64 : high < 2 ^ 63 := tally.narrow.trans (by decide)
      have small : (seen ++ [(keepRtt time).toNat]).length < 2 ^ 63 :=
        next.length_lt.trans (by decide)
      have later := inductionHypothesis next (senderShown below) receiverShown others
      simp only [Sender.rttReports, Receiver.rttReports, sent, received, senderStatistics,
        receiverStatistics, List.cons_append, List.nil_append, List.filterMap_cons] at later ⊢
      rw [later, ← Int64.ofNat_div fits small, Int64.toInt_ofNat_of_lt average64,
        Int64.toInt_ofNat_of_lt high64, UInt32.toNat_ofNat_of_lt' average,
        UInt32.toNat_ofNat_of_lt' tally.narrow]

/-- Both ends make the same reports, and they describe the samples. -/
def RttAgreed (sender : Sender) (receiver : Receiver) (samples : List UInt32) : Prop :=
  senderStatistics (sender.rttReports samples) =
      receiverStatistics (receiver.rttReports samples) ∧
    Consistent (kept samples) (senderStatistics (sender.rttReports samples))

/-- No sample is counted larger than the first, and the sum fits 63 bits. -/
def FirstLargest (samples : List UInt32) : Prop :=
  (∀ sample ∈ kept samples, ∀ first ∈ (kept samples).head?, sample ≤ first) ∧
    (kept samples).sum < 2 ^ 63

theorem Tally.singleton (time : UInt32) :
    Tally [(keepRtt time).toNat] (keepRtt time).toNat where
  five := List.forall_mem_singleton.mpr (five_le_keepRtt time)
  greatest := ⟨List.mem_singleton_self _, fun _ member => (List.mem_singleton.mp member).le⟩
  narrow := (keepRtt time).toNat_lt
  fits := (keepRtt time).toNat_lt.trans (by decide)

theorem firstLargest_cons (time : UInt32) (rest : List UInt32) :
    FirstLargest (time :: rest) ↔
      Ordinary [(keepRtt time).toNat] (keepRtt time).toNat (kept rest) := by
  refine and_congr_left fun _ => ?_
  rw [kept, List.map_cons, List.head?_cons, List.forall_mem_cons]
  simp only [Option.mem_some_iff, forall_eq', le_refl, true_and]
  rfl

/-- From the first sample on, both ends make the same reports and these describe the
samples exactly when the first sample stays the largest and the sum fits. -/
theorem rtt_reports_iff {sender : Sender} (fresh : sender.rttNum = 0) {receiver : Receiver}
    (receiverFresh : receiver.rttNum = 0) (configured : receiver.congestionConfigured = true)
    (samples : List UInt32) :
    RttAgreed sender receiver samples ↔ FirstLargest samples := by
  rcases samples with _ | ⟨time, rest⟩
  · exact iff_of_true ⟨rfl, List.Forall₂.nil⟩ ⟨fun _ => nofun, by decide⟩
  · have ⟨shows, sent⟩ := Sender.updateRtt_first fresh time
    have ⟨receiverShows, received⟩ := Receiver.updateRtt_first configured receiverFresh time
    have tally := Tally.singleton time
    have first64 : (keepRtt time).toNat < 2 ^ 63 := (keepRtt time).toNat_lt.trans (by decide)
    have statistics : senderStatistics (sender.rttReports (time :: rest)) =
        (((keepRtt time).toNat : Int), ((keepRtt time).toNat : Int)) ::
          senderStatistics ((sender.updateRtt time).1.rttReports rest) := by
      rw [Sender.rttReports, sent, ← Int64.toInt_ofNat_of_lt first64]
      rfl
    have receivedToo : receiverStatistics (receiver.rttReports (time :: rest)) =
        (((keepRtt time).toNat : Int), ((keepRtt time).toNat : Int)) ::
          receiverStatistics ((receiver.updateRtt time).1.rttReports rest) := by
      rw [Receiver.rttReports, received]
      rfl
    have first : Describes [(keepRtt time).toNat] ((keepRtt time).toNat, (keepRtt time).toNat) := by
      have described := tally.describes
      rwa [List.sum_singleton, List.length_singleton, Nat.div_one] at described
    have sofar := sofar_cons [] (keepRtt time).toNat (kept rest)
    simp only [List.nil_append, List.map_id'] at sofar
    rw [RttAgreed, statistics, receivedToo, firstLargest_cons, Consistent]
    show _ ∧ List.Forall₂ Describes (((keepRtt time).toNat :: kept rest).inits.tail) _ ↔ _
    rw [sofar, List.forall₂_cons, and_iff_right first, consistent_iff_ordinary tally shows]
    refine and_iff_right_of_imp fun ordinary => ?_
    rw [sameStatistics_of_ordinary tally shows receiverShows ordinary]

/-- A session that hears of round trips, before the first. -/
def hearing : Receiver := (Receiver.create ⟨1234, 0x0a000401⟩ 1000).configureCongestion

/-- Of a sample of 20 behind one of 10, `Sender` reports 10 as the maximum. -/
theorem not_rtt_reports :
    senderStatistics ((Sender.create ⟨4321, 0x0a000402⟩).rttReports [10, 20]) =
      [(10, 10), (15, 10)] ∧
    receiverStatistics (hearing.rttReports [10, 20]) = [(10, 10), (15, 20)] ∧
    ¬RttAgreed (Sender.create ⟨4321, 0x0a000402⟩) hearing [10, 20] := by
  have sent : senderStatistics ((Sender.create ⟨4321, 0x0a000402⟩).rttReports [10, 20]) =
      [(10, 10), (15, 10)] := by
    decide +kernel
  have received : receiverStatistics (hearing.rttReports [10, 20]) = [(10, 10), (15, 20)] := by
    decide +kernel
  refine ⟨sent, received, fun agreed => ?_⟩
  have same := agreed.1
  rw [sent, received] at same
  exact absurd same (by decide)

theorem rtt_reports_falling : RttAgreed (Sender.create ⟨4321, 0x0a000402⟩) hearing [20, 3, 10] := by
  have fresh : (Sender.create ⟨4321, 0x0a000402⟩).rttNum = 0 := rfl
  have falling : FirstLargest [20, 3, 10] := ⟨by decide, by decide⟩
  exact (rtt_reports_iff fresh rfl rfl [20, 3, 10]).mpr falling

end StupidSimple.Mininet
