import Mathlib.Data.Rat.Floor
import Mathlib.Order.Defs.LinearOrder

/-!
Owns the QUIC types below the BBR sender: points in time and time differences
in microseconds (`quic_time.h`), and the interface of the library code that is
used but not part of the repository, `QuicBandwidth` and `WindowedFilter`.

The library interface is a structure of functions over arbitrary carrier types.
It has no law, so every result about the sender holds whatever these functions
compute, unless a theorem states a law as a hypothesis.
-/

namespace StupidSimple.Bbr

/-- Microseconds since an unspecified epoch. -/
abbrev QuicTime := Int

/-- A signed number of microseconds. -/
abbrev Delta := Int

namespace Delta

def fromSeconds (secs : Int) : Delta := secs * 1000 * 1000

def fromMilliseconds (ms : Int) : Delta := ms * 1000

/-- Integer division that truncates, then the conversion to `uint64_t`. -/
def toMilliseconds (delta : Delta) : Nat := (delta.tdiv 1000 % 2 ^ 64).toNat

/-- `std::llround`: the nearest integer, halves away from zero. -/
def llround (value : ℚ) : Int :=
  if 0 ≤ value then ⌊value + 1 / 2⌋ else -⌊-value + 1 / 2⌋

/-- `operator*(Delta, double)` for a factor that a `double` represents. -/
def scale (delta : Delta) (factor : ℚ) : Delta := llround (delta * factor)

end Delta

/-- The operations of `QuicBandwidth` and of the maximum-filtering
`WindowedFilter` that the sender calls. -/
structure Platform (Bandwidth Filter : Type) where
  zero : Bandwidth
  infinite : Bandwidth
  fromBitsPerSecond : Nat → Bandwidth
  fromBytesAndTimeDelta : Nat → Delta → Bandwidth
  /-- `float * QuicBandwidth`. -/
  scaled : ℚ → Bandwidth → Bandwidth
  /-- A filter with a window length and an initial sample and round. -/
  filter : Nat → Bandwidth → Nat → Filter
  reset : Filter → Bandwidth → Nat → Filter
  update : Filter → Bandwidth → Nat → Filter
  getBest : Filter → Bandwidth

/-- `QuicBandwidth` in whole bits per second. The filter keeps the best sample
since its last reset, which is what `WindowedFilter` returns while a run is
shorter than its window. -/
def Platform.bits : Platform Nat Nat where
  zero := 0
  infinite := 2 ^ 63 - 1
  fromBitsPerSecond bits := bits
  fromBytesAndTimeDelta bytes delta := bytes * 8 * 1000000 / delta.toNat
  scaled factor bandwidth := (factor * bandwidth).floor.toNat
  filter _ sample _ := sample
  reset _ sample _ := sample
  update best sample _ := max best sample
  getBest best := best

end StupidSimple.Bbr
