import StupidSimple.Mininet.Proto
import Mathlib.Order.Defs.LinearOrder

/-!
Owns what `Sender` and `Receiver` share: addresses, the receive call of the platform,
conversions of integers, and the codec step that both take before `SendToNetwork`.
-/

namespace StupidSimple.Mininet

/-- `su_addr`, a `sockaddr_in`. -/
structure SuAddr where
  sinPort : UInt16
  sinAddr : UInt32
deriving DecidableEq, Repr

instance instLinearOrderUInt16 : LinearOrder UInt16 where
  le_refl := UInt16.le_refl
  le_trans _ _ _ := UInt16.le_trans
  le_antisymm _ _ := UInt16.le_antisymm
  le_total := UInt16.le_total
  lt_iff_le_not_ge a b := by
    rw [UInt16.lt_iff_toNat_lt, UInt16.le_iff_toNat_le, UInt16.le_iff_toNat_le]
    omega
  toDecidableLE := inferInstance

/-! ### Conversions -/

/-- `uint32_t` to `int64_t`. -/
def toInt64 (value : UInt32) : Int64 := value.toUInt64.toInt64

/-- `int64_t` to `uint32_t`. -/
def toUInt32 (value : Int64) : UInt32 := value.toUInt64.toUInt32

/-- `int64_t` to `uint16_t`. -/
def toUInt16 (value : Int64) : UInt16 := value.toUInt64.toUInt16

/-! ### Datagrams -/

/-- A datagram with the address of its other end. -/
structure Datagram where
  remote : SuAddr
  data : List UInt8
deriving DecidableEq, Repr

/-- `su_udp_recv` into a stream, with the `used` that its callers set. The system cuts a
datagram to the size of the buffer, and an empty one is an error. -/
def suUdpRecv (rstream : BinStream) : Option Datagram → Option (SuAddr × BinStream)
  | none => none
  | some datagram =>
      let received := datagram.data.take rstream.size
      if received = [] then none
      else
        some (datagram.remote,
          { rstream with
            data := received ++ rstream.data.drop received.length
            used := received.length })

/-- What arrives is read from its start, as far as the buffer goes. -/
theorem suUdpRecv_spec {buffer : BinStream} (allocated : 0 < buffer.size) (rptr : buffer.rptr = 0)
    (rsize : buffer.rsize = 0) {datagram : Datagram} (filled : datagram.data ≠ []) :
    ∃ rstream, suUdpRecv buffer (some datagram) = some (datagram.remote, rstream) ∧
      rstream.Readable ∧ rstream.rsize = 0 ∧
      rstream.contents = datagram.data.take buffer.size := by
  let received := datagram.data.take buffer.size
  have some : received ≠ [] := by
    intro nothing
    cases List.take_eq_nil_iff.mp nothing with
    | inl empty => exact allocated.ne' empty
    | inr nil => exact filled nil
  let rstream : BinStream :=
    { buffer with
      data := received ++ buffer.data.drop received.length
      used := received.length }
  have used : rstream.used ≤ rstream.size := by
    show received.length ≤ (received ++ _).length
    rw [List.length_append]
    exact Nat.le_add_right _ _
  refine ⟨rstream, if_neg some, ⟨rptr.trans rsize.symm, ?_, used⟩, rsize, List.take_left⟩
  exact rsize.le.trans (Nat.zero_le _)

/-- The same for the buffer of both `Process` functions. -/
theorem suUdpRecv_init {datagram : Datagram} (filled : datagram.data ≠ []) :
    ∃ rstream, suUdpRecv binStreamInit (some datagram) = some (datagram.remote, rstream) ∧
      rstream.Readable ∧ rstream.rsize = 0 ∧
      rstream.contents = datagram.data.take binStreamInit.size :=
  suUdpRecv_spec (size_binStreamInit ▸ by decide) rfl rfl filled

/-- The header and the body of a message beside its bytes. -/
structure SentMessage where
  peer : SuAddr
  header : SimHeader
  body : SimBody
  data : List UInt8
deriving DecidableEq, Repr

/-- `sim_encode_msg` and the arguments of the `SendToNetwork` behind it. -/
def encodeTo (peer : SuAddr) (header : SimHeader) (body : SimBody) (strm : BinStream) :
    Option (SentMessage × BinStream) :=
  ((simEncodeMsg header body).run strm).map fun sent =>
    (⟨peer, header, body, sent.2.contents⟩, sent.2)

end StupidSimple.Mininet
