import Mathlib.Data.List.Induction
import Mathlib.Logic.Function.Iterate

/-!
Owns checksums that run bytes through a register of several lanes. A byte is mixed into
the lowest lane, then the register advances: what stands in a higher lane moves one lane
down, and no two registers come together.

`separates` is the detection rule: two strings of one length that differ in at most
`width` consecutive bytes leave the register in different states.
-/

namespace StupidSimple.Library

/-- A register of `width` lanes, each holding a byte. -/
structure ShiftRegister (State Byte : Type) where
  width : Nat
  advance : State → State
  mix : Nat → Byte → State → State
  peek : Nat → State → Byte
  advance_injective : Function.Injective advance
  mix_injective (byte : Byte) : Function.Injective (mix 0 byte)
  advance_mix {lane : Nat} (inside : lane + 1 < width) (byte : Byte) (state : State) :
    advance (mix (lane + 1) byte state) = mix lane byte (advance state)
  peek_mix {lane : Nat} (inside : lane < width) (state : State) :
    Function.Injective fun byte => peek lane (mix lane byte state)
  peek_mix_of_ne {lane other : Nat} (inside : lane < width) (within : other < width)
    (apart : lane ≠ other) (byte : Byte) (state : State) :
    peek lane (mix other byte state) = peek lane state

namespace ShiftRegister

variable {State Byte : Type} (register : ShiftRegister State Byte)

/-- One byte of the input. -/
def step (state : State) (byte : Byte) : State := register.advance (register.mix 0 byte state)

def run (state : State) (bytes : List Byte) : State := bytes.foldl register.step state

/-- Mix bytes into the lanes from `lane` on. -/
def mixAll : (lane : Nat) → List Byte → State → State
  | _, [], state => state
  | lane, byte :: rest, state => mixAll (lane + 1) rest (register.mix lane byte state)

variable {register}

theorem mixAll_append (lane : Nat) (bytes : List Byte) (last : Byte) (state : State) :
    register.mixAll lane (bytes ++ [last]) state =
      register.mix (lane + bytes.length) last (register.mixAll lane bytes state) := by
  induction bytes generalizing lane state with
  | nil => rfl
  | cons byte rest inductionHypothesis =>
      rw [List.cons_append, mixAll, inductionHypothesis, mixAll, List.length_cons]
      have same : lane + 1 + rest.length = lane + (rest.length + 1) := by omega
      rw [same]

theorem step_injective (byte : Byte) :
    Function.Injective fun state => register.step state byte := by
  intro left right same
  exact register.mix_injective byte (register.advance_injective same)

theorem run_injective (bytes : List Byte) :
    Function.Injective fun state => register.run state bytes := by
  intro left right same
  induction bytes generalizing left right with
  | nil => exact same
  | cons byte rest inductionHypothesis => exact step_injective byte (inductionHypothesis same)

/-- A byte mixed in ahead of the lowest lane arrives there after as many steps. -/
theorem iterate_advance_mix (count : Nat) (inside : count < register.width) (byte : Byte)
    (state : State) :
    register.advance^[count] (register.mix count byte state) =
      register.mix 0 byte (register.advance^[count] state) := by
  induction count generalizing state with
  | zero => rfl
  | succ count inductionHypothesis =>
      rw [Function.iterate_succ_apply, register.advance_mix inside,
        inductionHypothesis (Nat.lt_of_succ_lt inside), ← Function.iterate_succ_apply]

/-- As many bytes as there are lanes can be mixed in at once. -/
theorem run_eq_mixAll {bytes : List Byte} (few : bytes.length ≤ register.width) (state : State) :
    register.run state bytes =
      register.advance^[bytes.length] (register.mixAll 0 bytes state) := by
  induction bytes using List.reverseRecOn with
  | nil => rfl
  | append_singleton bytes last inductionHypothesis =>
      rw [List.length_append, List.length_singleton] at few
      have inside : bytes.length < register.width := few
      have before := inductionHypothesis (Nat.le_of_lt inside)
      rw [run] at before
      rw [run, List.foldl_append, before, mixAll_append, List.length_append, List.length_singleton,
        Nat.zero_add, Function.iterate_succ_apply', iterate_advance_mix _ inside]
      rfl

theorem peek_mixAll_of_lt {lane start : Nat} (below : lane < start) {bytes : List Byte}
    (few : start + bytes.length ≤ register.width) (state : State) :
    register.peek lane (register.mixAll start bytes state) = register.peek lane state := by
  induction bytes generalizing start state with
  | nil => rfl
  | cons byte rest inductionHypothesis =>
      rw [List.length_cons] at few
      have within : start < register.width := by omega
      rw [mixAll, inductionHypothesis (by omega) (by omega),
        register.peek_mix_of_ne (Nat.lt_trans below within) within (Nat.ne_of_lt below)]

theorem mixAll_inj {start : Nat} {left right : List Byte} (length : left.length = right.length)
    (few : start + left.length ≤ register.width) {state : State}
    (same : register.mixAll start left state = register.mixAll start right state) :
    left = right := by
  induction left generalizing start right state with
  | nil => exact (List.eq_nil_of_length_eq_zero length.symm).symm
  | cons byte rest inductionHypothesis =>
      rcases right with _ | ⟨other, others⟩
      · contradiction
      · have shorter : rest.length = others.length := Nat.succ.inj length
        rw [List.length_cons] at few
        have inside : start < register.width := by omega
        have room : start + 1 + rest.length ≤ register.width := by omega
        have lanes := congrArg (register.peek start) same
        rw [mixAll, mixAll, peek_mixAll_of_lt (Nat.lt_succ_self start) room,
          peek_mixAll_of_lt (Nat.lt_succ_self start) (shorter ▸ room)] at lanes
        have first : byte = other := register.peek_mix inside state lanes
        subst first
        rw [inductionHypothesis shorter room same]

/-- Strings of one length that differ, and only in a window as wide as the register, are
told apart from any state. -/
theorem separates {before left right behind : List Byte} (length : left.length = right.length)
    (few : left.length ≤ register.width) (differ : left ≠ right) (state : State) :
    register.run state (before ++ left ++ behind) ≠
      register.run state (before ++ right ++ behind) := by
  intro same
  apply differ
  have split (window : List Byte) : register.run state (before ++ window ++ behind) =
      register.run (register.run (register.run state before) window) behind := by
    rw [run, List.foldl_append, List.foldl_append]
    rfl
  rw [split, split] at same
  have windows := run_injective behind same
  have fewRight : right.length ≤ register.width := length ▸ few
  rw [run_eq_mixAll few, run_eq_mixAll fewRight, ← length] at windows
  have mixed := register.advance_injective.iterate left.length windows
  exact mixAll_inj length (by omega) mixed

end ShiftRegister

end StupidSimple.Library
