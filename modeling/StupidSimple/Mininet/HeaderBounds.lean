import StupidSimple.Mininet.CodecRoundTrip
import StupidSimple.Mininet.Endpoint

/-!
Owns the memory that `sim_decode_header` reads: the four bytes of the checksum at the
end of a received stream, the bytes it covers, and the fields of the header. The decoder
looks at the length of a stream nowhere.

`header_validated_iff` says for which datagrams it stays inside and takes no field from
the checksum.
-/

namespace StupidSimple.Mininet

open StupidSimple.Library

/-! ### What is read -/

/-- The `size` that is passed to `crc32`, a `size_t`. -/
def crcLength (strm : BinStream) : Nat := (strm.used + 2 ^ 64 - 4) % 2 ^ 64

/-- The offsets that `machRead` reads. -/
def readOffsets (width : Nat) (strm : BinStream) : List Nat :=
  if strm.used < strm.rsize + width then [] else List.range' strm.rptr width

/-- The offsets of the header fields. -/
def headerOffsets (strm : BinStream) : Option (List Nat) := do
  let (_, behindVer) ← machUint8Read.run strm
  let (_, behindMid) ← machUint8Read.run behindVer
  return readOffsets 1 strm ++ readOffsets 1 behindVer ++ readOffsets 4 behindMid

/-- `sim_decode_header` returns 0. -/
def Accepted (strm : BinStream) : Prop :=
  ∃ header headed, simDecodeHeader.run strm = some (some header, headed)

/-- The decoder reads the byte at the offset from `data`: for `src`, for the checksum of
what comes before, or for a field of an accepted header. -/
inductive DecoderReads (strm : BinStream) : Int → Prop
  | src (index : Nat) (inside : index < 4) : DecoderReads strm ((strm.used : Int) - 4 + index)
  | covered (index : Nat) (inside : index < crcLength strm) : DecoderReads strm index
  | field (offsets : List Nat) (offset : Nat) (accepted : Accepted strm)
      (found : headerOffsets strm = some offsets) (member : offset ∈ offsets) :
      DecoderReads strm offset

/-- All reads lie in the datagram, the length of the checksum does not wrap, and an
accepted header stands before the checksum. -/
structure HeaderValidated (strm : BinStream) : Prop where
  inside : ∀ offset, DecoderReads strm offset → 0 ≤ offset ∧ offset < strm.used
  unwrapped : (crcLength strm : Int) = (strm.used : Int) - 4
  precedes : Accepted strm → simHeaderSize + 4 ≤ strm.used
  fields : Accepted strm → ∀ offsets, headerOffsets strm = some offsets →
    ∀ offset ∈ offsets, offset + 4 < strm.used

/-! ### Fields -/

/-- A reader of an integer moves on by its width, or stays. -/
theorem machRead_moves {strm after : BinStream} (readable : strm.Readable) {width value : Nat}
    (ran : (machRead width).run strm = some (value, after)) :
    after.Readable ∧ after.used = strm.used ∧ after.rptr ≤ strm.rptr + width := by
  change (if strm.used < strm.rsize + width then pure 0
    else load width >>= fun bytes => pure (BigEndian.decode bytes.1) : StreamM Nat).run strm =
      some (value, after) at ran
  by_cases short : strm.used < strm.rsize + width
  · rw [if_pos short] at ran
    cases ran
    exact ⟨readable, rfl, Nat.le_add_right _ _⟩
  · have rptr := readable.rptr
    have used := readable.used
    have within : strm.rptr + width ≤ strm.size := by omega
    rw [if_neg short, StateT.run_bind, StateT.run, load, if_pos within] at ran
    cases ran
    exact ⟨⟨congrArg (· + width) rptr, Nat.le_of_not_lt short, used⟩, rfl, Nat.le_refl _⟩

theorem machUint8Read_moves {strm after : BinStream} (readable : strm.Readable) {value : UInt8}
    (ran : machUint8Read.run strm = some (value, after)) :
    after.Readable ∧ after.used = strm.used ∧ after.rptr ≤ strm.rptr + 1 := by
  rw [machUint8Read, StateT.run_map] at ran
  have ⟨read, found, same⟩ := Option.map_eq_some_iff.mp ran
  cases same
  exact machRead_moves readable found

theorem mem_readOffsets {strm : BinStream} (readable : strm.Readable) {width offset : Nat}
    (member : offset ∈ readOffsets width strm) :
    offset < strm.rptr + width ∧ offset < strm.used := by
  have rptr := readable.rptr
  unfold readOffsets at member
  split_ifs at member with short
  · cases member
  · have ⟨_, below⟩ := List.mem_range'_1.mp member
    exact ⟨below, by omega⟩

/-- The fields are read from the first six bytes, as far as the stream goes. -/
theorem mem_headerOffsets {strm : BinStream} (readable : strm.Readable) (start : strm.rsize = 0)
    {offsets : List Nat} (found : headerOffsets strm = some offsets) {offset : Nat}
    (member : offset ∈ offsets) : offset < simHeaderSize ∧ offset < strm.used := by
  obtain ⟨⟨ver, behindVer⟩, readVer, afterVer⟩ := Option.bind_eq_some_iff.mp found
  obtain ⟨⟨mid, behindMid⟩, readMid, same⟩ := Option.bind_eq_some_iff.mp afterVer
  cases same
  have rptr : strm.rptr = 0 := readable.rptr.trans start
  have ⟨readableVer, usedVer, rptrVer⟩ := machUint8Read_moves readable readVer
  have ⟨readableMid, usedMid, rptrMid⟩ := machUint8Read_moves readableVer readMid
  have six : simHeaderSize = 6 := rfl
  rcases List.mem_append.mp member with earlier | uid
  · rcases List.mem_append.mp earlier with ver | mid
    · have := mem_readOffsets readable ver
      omega
    · have := mem_readOffsets readableVer mid
      omega
  · have := mem_readOffsets readableMid uid
    omega

/-! ### Checksums -/

/-- Behind the check a header always comes. -/
theorem exists_headerRead {strm : BinStream} (readable : strm.Readable) :
    ∃ header headed, headerRead.run strm = some (some header, headed) := by
  have ⟨ver, behindVer, readVer, readableVer⟩ := ((total_machRead 1).map UInt8.ofNat) strm readable
  have ⟨mid, behindMid, readMid, readableMid⟩ :=
    ((total_machRead 1).map UInt8.ofNat) behindVer readableVer
  have ⟨uid, behindUid, readUid, _⟩ :=
    ((total_machRead 4).map UInt32.ofNat) behindMid readableMid
  refine ⟨⟨ver, mid, uid⟩, behindUid, ?_⟩
  rw [headerRead, StateT.run_bind, machUint8Read, readVer, Option.bind_eq_bind, Option.bind_some,
    StateT.run_bind, readMid, Option.bind_eq_bind, Option.bind_some, StateT.run_bind,
    machUint32Read, readUid]
  rfl

/-- A header is accepted exactly when the stream ends with the checksum of the bytes
before it. -/
theorem accepted_iff {strm : BinStream} (readable : strm.Readable) :
    Accepted strm ↔ ∃ covered, strm.contents = sealed covered := by
  constructor
  · rintro ⟨header, headed, decoded⟩
    have enough := (simDecodeHeader_defined readable).mp ⟨_, _, decoded⟩
    have length := BinStream.length_contents readable.used
    let covered := strm.contents.take (strm.used - 4)
    let last := strm.contents.drop (strm.used - 4)
    have four : last.length = 4 := by
      rw [List.length_drop, length]
      omega
    have found : trailer strm = some (UInt32.ofNat (BigEndian.decode last), covered) :=
      if_neg (Nat.not_lt_of_le enough)
    rw [simDecodeHeader_run found] at decoded
    split_ifs at decoded with matched
    · have value : (crc32 crcVal covered).toNat = BigEndian.decode last := by
        rw [← matched]
        have narrow := BigEndian.decode_lt last
        rw [four] at narrow
        exact UInt32.toNat_ofNat_of_lt' narrow
      have encoded := BigEndian.encode_decode last
      rw [four] at encoded
      refine ⟨covered, ?_⟩
      rw [sealed, value, encoded]
      exact (List.take_append_drop _ _).symm
    · cases decoded
  · rintro ⟨covered, contents⟩
    obtain ⟨header, headed, read⟩ := exists_headerRead readable
    refine ⟨header, headed, ?_⟩
    rw [simDecodeHeader_run (trailer_sealed readable contents), if_pos rfl, read]

/-! ### Received datagrams -/

/-- The decoder stays inside a received stream and takes no field from the checksum
exactly when the stream has the four bytes of a checksum and is not a matching checksum
behind fewer than six bytes. -/
theorem headerValidated_iff {strm : BinStream} (readable : strm.Readable)
    (start : strm.rsize = 0) (small : strm.used < 2 ^ 64) :
    HeaderValidated strm ↔ 4 ≤ strm.contents.length ∧
      ∀ covered, covered.length < simHeaderSize → strm.contents ≠ sealed covered := by
  have length := BinStream.length_contents readable.used
  have six : simHeaderSize = 6 := rfl
  constructor
  · intro validated
    have first := validated.inside _ (.src 0 (by decide))
    refine ⟨by omega, ?_⟩
    intro covered short contents
    have enough := validated.precedes ((accepted_iff readable).mpr ⟨covered, contents⟩)
    rw [contents, sealed, List.length_append, BigEndian.length_encode] at length
    omega
  · rintro ⟨four, unsealed⟩
    have crc : crcLength strm = strm.used - 4 := by
      have split : strm.used + 2 ^ 64 - 4 = strm.used - 4 + 2 ^ 64 := by omega
      rw [crcLength, split, Nat.add_mod_right, Nat.mod_eq_of_lt (by omega)]
    have precedes : Accepted strm → simHeaderSize + 4 ≤ strm.used := by
      intro accepted
      obtain ⟨covered, contents⟩ := (accepted_iff readable).mp accepted
      by_contra short
      apply unsealed covered ?_ contents
      rw [contents, sealed, List.length_append, BigEndian.length_encode] at length
      omega
    refine ⟨?_, by omega, precedes, ?_⟩
    · intro offset reads
      cases reads with
      | src index inside => omega
      | covered index inside => omega
      | field offsets offset accepted found member =>
          have := mem_headerOffsets readable start found member
          omega
    · intro accepted offsets found offset member
      have enough := precedes accepted
      have := mem_headerOffsets readable start found member
      omega

/-- The stream that both `Process` functions fill from a datagram and hand to
`sim_decode_header`: the decoder has a result from four bytes on, and is as it should be
unless the stream is a matching checksum behind fewer than six bytes. -/
theorem header_validated_iff {datagram : Datagram} (filled : datagram.data ≠ []) :
    let bytes := datagram.data.take binStreamInit.size
    ∃ rstream, suUdpRecv binStreamInit (some datagram) = some (datagram.remote, rstream) ∧
      rstream.contents = bytes ∧
      (HeaderValidated rstream ↔ 4 ≤ bytes.length ∧
        ∀ covered, covered.length < simHeaderSize → bytes ≠ sealed covered) ∧
      ((∃ result headed, simDecodeHeader.run rstream = some (result, headed)) ↔
        4 ≤ bytes.length) := by
  intro bytes
  have ⟨rstream, received, readable, start, contents⟩ := suUdpRecv_init filled
  have length := BinStream.length_contents readable.used
  rw [contents] at length
  have small : rstream.used < 2 ^ 64 := by
    have size := size_binStreamInit
    have packet : defaultPacketSize = 1024 := rfl
    rw [← length, List.length_take]
    omega
  refine ⟨rstream, received, contents, ?_, ?_⟩
  · have validated := headerValidated_iff readable start small
    rwa [contents] at validated
  · rw [simDecodeHeader_defined readable, ← length]

/-- A datagram without room for a checksum. -/
def oneByte : Datagram := ⟨⟨4321, 0x0a000402⟩, [0]⟩

/-- The checksum of no bytes. -/
def bareChecksum : Datagram := ⟨⟨4321, 0x0a000402⟩, [0x0e, 0x3d, 0xfc, 0x0a]⟩

/-- What the buffer of `Process` holds behind it. -/
def checksumStream : BinStream :=
  { binStreamInit with
    data := bareChecksum.data ++ binStreamInit.data.drop 4
    used := 4 }

theorem checksumStream_accepted :
    (simDecodeHeader.run checksumStream).map Prod.fst = some (some ⟨0x0e, 0x3d, 0⟩) := by
  decide +kernel

/-- One byte makes the length wrap and puts the checksum before the data. A bare
checksum is accepted, with its own bytes as the version and the message id. -/
theorem not_header_validated :
    (∃ rstream, suUdpRecv binStreamInit (some oneByte) = some (oneByte.remote, rstream) ∧
      crcLength rstream = 2 ^ 64 - 3 ∧ DecoderReads rstream (-3) ∧ ¬HeaderValidated rstream) ∧
    suUdpRecv binStreamInit (some bareChecksum) = some (bareChecksum.remote, checksumStream) ∧
    (simDecodeHeader.run checksumStream).map Prod.fst = some (some ⟨0x0e, 0x3d, 0⟩) ∧
    headerOffsets checksumStream = some [0, 1] ∧ ¬HeaderValidated checksumStream := by
  constructor
  · have filled : oneByte.data ≠ [] := by decide
    have ⟨rstream, received, readable, _, contents⟩ := suUdpRecv_init filled
    have used : rstream.used = 1 := by
      rw [← BinStream.length_contents readable.used, contents, List.length_take,
        size_binStreamInit]
      decide
    have wraps : crcLength rstream = 2 ^ 64 - 3 := by
      rw [crcLength, used]
      decide
    have first : DecoderReads rstream ((rstream.used : Int) - 4 + (0 : Nat)) :=
      .src 0 (by decide)
    have before : DecoderReads rstream (-3) := by rwa [used] at first
    refine ⟨rstream, received, wraps, before, ?_⟩
    intro validated
    exact absurd (validated.inside _ before).1 (by decide)
  · have header := checksumStream_accepted
    refine ⟨by decide +kernel, header, by decide +kernel, ?_⟩
    intro validated
    have ⟨⟨found, headed⟩, decoded, same⟩ := Option.map_eq_some_iff.mp header
    cases same
    exact absurd (validated.precedes ⟨_, headed, decoded⟩) (by decide)

theorem header_validated_iff_bareChecksum :
    ∃ rstream, suUdpRecv binStreamInit (some bareChecksum) = some (bareChecksum.remote, rstream) ∧
      ¬HeaderValidated rstream := by
  have filled : bareChecksum.data ≠ [] := by decide
  have ⟨rstream, received, _, validated, _⟩ := header_validated_iff filled
  refine ⟨rstream, received, ?_⟩
  rw [validated]
  rintro ⟨_, unsealed⟩
  exact unsealed [] (by decide) (by decide +kernel)

end StupidSimple.Mininet
