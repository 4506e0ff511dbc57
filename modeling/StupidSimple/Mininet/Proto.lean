import StupidSimple.Mininet.Crc32
import StupidSimple.Mininet.Stream

/-!
Owns the messages of `sim_proto`: the header, the bodies with their array bounds,
and the codec of every message. A body holds the bytes in use of each array, so its
size fields are lengths and are within the bounds of the structures.
-/

namespace StupidSimple.Mininet

open StupidSimple.Library

/-! ### Messages -/

def minMsgId : UInt8 := 0x10
def simConnect : UInt8 := 0x11
def simConnectAck : UInt8 := 0x12
def simDisconnect : UInt8 := 0x13
def simDisconnectAck : UInt8 := 0x14
def simPing : UInt8 := 0x15
def simPong : UInt8 := 0x16
def simSeg : UInt8 := 0x17
def simSegAck : UInt8 := 0x18
def simFeedback : UInt8 := 0x19
def simFir : UInt8 := 0x1a
def simPad : UInt8 := 0x1b
def maxMsgId : UInt8 := 0x1c

def protocolVer : UInt8 := 0x01

def simHeaderSize : Nat := 6
def simVideoSize : Nat := 1000
def simTokenSize : Nat := 128
def nackNum : Nat := 80
def simFeedbackSize : Nat := 1000
def paddingDataSize : Nat := 500

structure SimHeader where
  ver : UInt8
  mid : UInt8
  uid : UInt32
deriving DecidableEq, Repr

/-- The macro `INIT_SIM_HEADER`. -/
def initSimHeader (msgId : UInt8) (userId : UInt32) : SimHeader := ⟨protocolVer, msgId, userId⟩

structure SimConnect where
  cid : UInt32
  token : Buffer simTokenSize
  ccType : UInt8
deriving DecidableEq, Repr

/-- Also `sim_disconnect_ack_t`. -/
structure SimConnectAck where
  cid : UInt32
  result : UInt32
deriving DecidableEq, Repr

structure SimDisconnect where
  cid : UInt32
deriving DecidableEq, Repr

structure SimSegment where
  packetId : UInt32
  fid : UInt32
  timestamp : UInt32
  index : UInt16
  total : UInt16
  ftype : UInt8
  payloadType : UInt8
  remb : UInt8
  sendTs : UInt16
  transportSeq : UInt16
  data : Buffer simVideoSize
deriving DecidableEq, Repr

def simSegmentHeaderSize : Nat := simHeaderSize + 24

structure SimSegmentAck where
  basePacketId : UInt32
  ackedPacketId : UInt32
  nack : { nack : List UInt16 // nack.length ≤ nackNum }
deriving DecidableEq, Repr

/-- Also `sim_pong_t`. -/
structure SimPing where
  ts : Int64
deriving DecidableEq, Repr

structure SimFeedback where
  basePacketId : UInt32
  feedback : Buffer simFeedbackSize
deriving DecidableEq, Repr

structure SimFir where
  firSeq : UInt32
deriving DecidableEq, Repr

structure SimPad where
  sendTs : UInt32
  transportSeq : UInt16
  data : Buffer paddingDataSize
deriving DecidableEq, Repr

/-- What the `void*` of a message points to. -/
inductive SimBody where
  | connect (body : SimConnect)
  | connectAck (body : SimConnectAck)
  | disconnect (body : SimDisconnect)
  | ping (body : SimPing)
  | segment (body : SimSegment)
  | segmentAck (body : SimSegmentAck)
  | feedback (body : SimFeedback)
  | fir (body : SimFir)
  | pad (body : SimPad)
deriving DecidableEq, Repr

/-! ### Bodies -/

def simConnectEncode (body : SimConnect) : StreamM Unit := do
  machUint32Write body.cid
  machDataWrite body.token.1
  machInt8Write body.ccType.toInt8

/-- The bytes of an array that was read, none after `READ_DATA_ERROR`. -/
def received {size : Nat} (str : Option (Buffer size)) : Buffer size := str.getD Buffer.empty

def simConnectDecode : StreamM SimConnect := do
  let cid ← machUint32Read
  let token ← machDataRead simTokenSize
  let ccType ← machInt8Read
  return ⟨cid, received token, ccType.toUInt8⟩

def simConnectAckEncode (body : SimConnectAck) : StreamM Unit := do
  machUint32Write body.cid
  machUint32Write body.result

def simConnectAckDecode : StreamM SimConnectAck := do
  let cid ← machUint32Read
  let result ← machUint32Read
  return ⟨cid, result⟩

def simDisconnectEncode (body : SimDisconnect) : StreamM Unit := machUint32Write body.cid

def simDisconnectDecode : StreamM SimDisconnect := do
  let cid ← machUint32Read
  return ⟨cid⟩

def simPingEncode (body : SimPing) : StreamM Unit := machInt64Write body.ts

def simPingDecode : StreamM SimPing := do
  let ts ← machInt64Read
  return ⟨ts⟩

def simFeedbakEncode (body : SimFeedback) : StreamM Unit := do
  machUint32Write body.basePacketId
  machDataWrite body.feedback.1

def simFeedbakDecode : StreamM SimFeedback := do
  let basePacketId ← machUint32Read
  let feedback ← machDataRead simFeedbackSize
  return ⟨basePacketId, received feedback⟩

def u16Max : Nat := 65535
def u8Max : Nat := 255

/-- The first byte of a segment: the frame type and four flags. -/
def segmentMask (body : SimSegment) : UInt8 :=
  (body.ftype &&& 0x01) |||
    (if u16Max < body.packetId.toNat then 0x80 else 0) |||
    (if u16Max < body.fid.toNat then 0x40 else 0) |||
    (if u8Max < body.total.toNat then 0x20 else 0) |||
    (if body.remb = 0 then 0x10 else 0)

/-- An id of four bytes, or of two when it fits. -/
def idWrite (id : UInt32) : StreamM Unit :=
  if u16Max < id.toNat then machUint32Write id else machUint16Write id.toUInt16

def idRead (wide : Bool) : StreamM UInt32 :=
  if wide then machUint32Read else UInt16.toUInt32 <$> machUint16Read

/-- Index and total, in two bytes each or in one when the total fits. -/
def partWrite (index total : UInt16) : StreamM Unit :=
  if u8Max < total.toNat then do
    machUint16Write index
    machUint16Write total
  else do
    machUint8Write index.toUInt8
    machUint8Write total.toUInt8

def partRead (wide : Bool) : StreamM (UInt16 × UInt16) :=
  if wide then do
    let index ← machUint16Read
    let total ← machUint16Read
    return (index, total)
  else do
    let index ← machUint8Read
    let total ← machUint8Read
    return (index.toUInt16, total.toUInt16)

def simSegmentEncode (body : SimSegment) : StreamM Unit := do
  machUint8Write (segmentMask body)
  machUint8Write body.payloadType
  idWrite body.packetId
  idWrite body.fid
  machUint32Write body.timestamp
  partWrite body.index body.total
  machUint16Write body.sendTs
  machUint16Write body.transportSeq
  machDataWrite body.data.1

def simSegmentDecode : StreamM SimSegment := do
  let mask ← machUint8Read
  let payloadType ← machUint8Read
  let packetId ← idRead (mask &&& 0x80 != 0)
  let fid ← idRead (mask &&& 0x40 != 0)
  let timestamp ← machUint32Read
  let part ← partRead (mask &&& 0x20 != 0)
  let sendTs ← machUint16Read
  let transportSeq ← machUint16Read
  let data ← machDataRead simVideoSize
  let body : SimSegment :=
    { packetId := packetId
      fid := fid
      timestamp := timestamp
      index := part.1
      total := part.2
      ftype := mask &&& 0x01
      payloadType := payloadType
      remb := if mask &&& 0x10 != 0 then 0 else 0xff
      sendTs := sendTs
      transportSeq := transportSeq
      data := received data }
  return body

def simSegmentAckEncode (body : SimSegmentAck) : StreamM Unit := do
  machUint32Write body.basePacketId
  machUint32Write body.ackedPacketId
  machUint8Write (UInt8.ofNat body.nack.1.length)
  body.nack.1.forM machUint16Write

/-- The loop over the entries of `nack`. -/
def nackRead : (count : Nat) → StreamM { nack : List UInt16 // nack.length = count }
  | 0 => return ⟨[], rfl⟩
  | count + 1 => do
      let first ← machUint16Read
      let rest ← nackRead count
      return ⟨first :: rest.1, congrArg (· + 1) rest.2⟩

def simSegmentAckDecode : StreamM SimSegmentAck := do
  let basePacketId ← machUint32Read
  let ackedPacketId ← machUint32Read
  let num ← machUint8Read
  let nack ← nackRead (min num.toNat nackNum)
  return ⟨basePacketId, ackedPacketId, ⟨nack.1, nack.2.trans_le (Nat.min_le_right _ _)⟩⟩

def simFirEncode (body : SimFir) : StreamM Unit := machUint32Write body.firSeq

def simFirDecode : StreamM SimFir := do
  let firSeq ← machUint32Read
  return ⟨firSeq⟩

def simPadEncode (body : SimPad) : StreamM Unit := do
  machUint32Write body.sendTs
  machUint16Write body.transportSeq
  machDataWrite body.data.1

def simPadDecode : StreamM SimPad := do
  let sendTs ← machUint32Read
  let transportSeq ← machUint16Read
  let data ← machDataRead paddingDataSize
  return ⟨sendTs, transportSeq, received data⟩

/-! ### Messages with header and checksum -/

def crcVal : UInt32 := 0x0e3dfc0a

def simEncodeHeader (header : SimHeader) : StreamM Unit := do
  machUint8Write header.ver
  machUint8Write header.mid
  machUint32Write header.uid

/-- The switch of `sim_encode_msg`. A body that is not the one of its message id is no
pointer the code can follow. -/
def simEncodeBody (mid : UInt8) (body : SimBody) : StreamM Unit :=
  if mid = simConnect then
    match body with
    | .connect body => simConnectEncode body
    | _ => failure
  else if mid = simConnectAck ∨ mid = simDisconnectAck then
    match body with
    | .connectAck body => simConnectAckEncode body
    | _ => failure
  else if mid = simDisconnect then
    match body with
    | .disconnect body => simDisconnectEncode body
    | _ => failure
  else if mid = simPing ∨ mid = simPong then
    match body with
    | .ping body => simPingEncode body
    | _ => failure
  else if mid = simSeg then
    match body with
    | .segment body => simSegmentEncode body
    | _ => failure
  else if mid = simSegAck then
    match body with
    | .segmentAck body => simSegmentAckEncode body
    | _ => failure
  else if mid = simFeedback then
    match body with
    | .feedback body => simFeedbakEncode body
    | _ => failure
  else if mid = simFir then
    match body with
    | .fir body => simFirEncode body
    | _ => failure
  else if mid = simPad then
    match body with
    | .pad body => simPadEncode body
    | _ => failure
  else return

def simEncodeMsg (header : SimHeader) (body : SimBody) : StreamM Unit := do
  modify (binStreamRewind true)
  simEncodeHeader header
  simEncodeBody header.mid body
  let strm ← get
  machUint32Write (crc32 crcVal strm.contents)

/-- The trailing checksum. Fewer than four bytes have none: the code would read before
the start of the data. -/
def trailer (strm : BinStream) : Option (UInt32 × List UInt8) :=
  if strm.used < 4 then none
  else
    some (UInt32.ofNat (BigEndian.decode (strm.contents.drop (strm.used - 4))),
      strm.contents.take (strm.used - 4))

/-- The result is `none` where the code returns -1. -/
def simDecodeHeader : StreamM (Option SimHeader) := do
  let strm ← get
  let (src, body) ← trailer strm
  if src = crc32 crcVal body then
    let ver ← machUint8Read
    let mid ← machUint8Read
    let uid ← machUint32Read
    return some ⟨ver, mid, uid⟩
  else return none

/-- The result is `none` where the code returns -1. -/
def simDecodeMsg (header : SimHeader) : StreamM (Option SimBody) :=
  if header.mid = simConnect then (some ∘ .connect) <$> simConnectDecode
  else if header.mid = simConnectAck ∨ header.mid = simDisconnectAck then
    (some ∘ .connectAck) <$> simConnectAckDecode
  else if header.mid = simDisconnect then (some ∘ .disconnect) <$> simDisconnectDecode
  else if header.mid = simPing ∨ header.mid = simPong then (some ∘ .ping) <$> simPingDecode
  else if header.mid = simSeg then (some ∘ .segment) <$> simSegmentDecode
  else if header.mid = simSegAck then (some ∘ .segmentAck) <$> simSegmentAckDecode
  else if header.mid = simFeedback then (some ∘ .feedback) <$> simFeedbakDecode
  else if header.mid = simFir then (some ∘ .fir) <$> simFirDecode
  else if header.mid = simPad then (some ∘ .pad) <$> simPadDecode
  else return none

end StupidSimple.Mininet
