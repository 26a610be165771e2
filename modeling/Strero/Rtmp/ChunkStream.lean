import Strero.Rtmp.ChunkHeader

/-!
# The chunk stream of the protocol

What a chunk header means according to the protocol, independent of the
server: the fields a sender puts into a header, their layout, and the header
that a receiver attributes to a chunk from the previous chunk of the same chunk
stream.
-/

namespace Rtmp.ChunkStream

open Wire

/-- The fields of one chunk header. `time` is the timestamp of type 0 and the
delta of types 1 and 2. `wide` asks for the three-byte form of an id that also
has a two-byte form. -/
structure Fields where
  fmt : ChunkType
  csId : UInt32
  time : UInt32
  length : UInt32
  typeId : UInt8
  streamId : UInt32
  wide : Bool := false
deriving DecidableEq, Repr

/-- The ids and the lengths that the layout can carry. -/
def Fields.WellFormed (f : Fields) : Prop :=
  2 ≤ f.csId.toNat ∧ f.csId.toNat ≤ 65599 ∧ f.length.toNat < 2 ^ 24

/-- The message header that a chunk stands for. -/
@[ext] structure Header where
  timestamp : UInt32
  length : UInt32
  typeId : UInt8
  streamId : UInt32
deriving DecidableEq, Repr

/-- What is remembered of a chunk stream: the header of its last chunk, and
the extended timestamp field if its last chunk of type 0, 1 or 2 had one. -/
structure StreamState where
  header : Header
  extended : Option UInt32
deriving DecidableEq, Repr

/-- The extended timestamp field that a timestamp or delta needs. -/
def extendedField (time : UInt32) : Option UInt32 := if time ≥ 0xFFFFFF then some time else none

/-- The state of a chunk stream after a chunk. Only a chunk of type 0 can be
the first. -/
def advance (prev : Option StreamState) (f : Fields) : Option StreamState :=
  match f.fmt with
  | .type0 => some ⟨⟨f.time, f.length, f.typeId, f.streamId⟩, extendedField f.time⟩
  | .type1 => prev.map fun s =>
    ⟨⟨s.header.timestamp + f.time, f.length, f.typeId, s.header.streamId⟩, extendedField f.time⟩
  | .type2 => prev.map fun s =>
    ⟨{ s.header with timestamp := s.header.timestamp + f.time }, extendedField f.time⟩
  | .type3 => prev

/-! ### Layout -/

/-- The basic header in its one-, two- or three-byte form. -/
def encodeBasicHeader (f : Fields) : List UInt8 :=
  let id := f.csId.toNat
  let fmt := f.fmt.code.toNat * 64
  if id < 64 then [UInt8.ofNat (fmt + id)]
  else if id < 320 ∧ f.wide = false then [UInt8.ofNat fmt, UInt8.ofNat (id - 64)]
  else [UInt8.ofNat (fmt + 1), UInt8.ofNat ((id - 64) % 256), UInt8.ofNat ((id - 64) / 256)]

/-- The three-byte timestamp field, which is all ones next to an extended field. -/
def encodeTime (time : UInt32) : List UInt8 :=
  putBe24 (if time ≥ 0xFFFFFF then 0xFFFFFF else time)

/-- The extended timestamp field. -/
def encodeExtended (extended : Option UInt32) : List UInt8 := extended.elim [] putBe32

/-- The message header of each type, with the extended timestamp field. A type
3 chunk repeats the field of its chunk stream. -/
def encodeMessageHeader (prev : Option StreamState) (f : Fields) : List UInt8 :=
  match f.fmt with
  | .type0 =>
    encodeTime f.time ++ putBe24 f.length ++ [f.typeId] ++ putLe32 f.streamId ++
      encodeExtended (extendedField f.time)
  | .type1 =>
    encodeTime f.time ++ putBe24 f.length ++ [f.typeId] ++ encodeExtended (extendedField f.time)
  | .type2 => encodeTime f.time ++ encodeExtended (extendedField f.time)
  | .type3 => encodeExtended (prev.bind (·.extended))

/-- A chunk header on the wire. -/
def encodeHeader (prev : Option StreamState) (f : Fields) : List UInt8 :=
  encodeBasicHeader f ++ encodeMessageHeader prev f

/-! ### The server's header functions against the layout -/

/-- The header fields as the server's structure holds them. -/
def Fields.chunkHeader (f : Fields) : ChunkHeader :=
  ⟨f.fmt, f.csId, f.time, f.length, f.typeId, f.streamId⟩

/-- The arithmetic form of the basic header byte is the one of shifts. -/
theorem basicHeader_ofNat (fmt : ChunkType) {n : ℕ} (hn : n < 64) :
    UInt8.ofNat (fmt.code.toNat * 64 + n) = (fmt.code <<< 6) ||| UInt8.ofNat n := by
  have hfmt : fmt.code.toNat ≤ 3 := by cases fmt <;> decide
  have hmod : (UInt8.ofNat n).toNat = n := by
    rw [UInt8.toNat_ofNat']
    omega
  apply UInt8.toNat_inj.mp
  rw [basicHeader_toNat fmt (by omega), hmod, UInt8.toNat_ofNat']
  omega

/-- The server reads the format and the id of every basic header of the
protocol, in each of its forms. -/
theorem encodeBasicHeader_read {f : Fields} (hf : f.WellFormed) (rest : List UInt8) :
    ∃ b tail, encodeBasicHeader f ++ rest = b :: tail ∧ ChunkType.ofBasicHeader b = f.fmt ∧
      readChunkStreamId (b &&& 0x3F).toUInt32 tail = some (f.csId, rest) := by
  obtain ⟨hlow, hhigh, -⟩ := hf
  have hbyte : ∀ {n : ℕ}, n < 64 → (UInt8.ofNat n).toNat = n := fun hn => by
    rw [UInt8.toNat_ofNat']
    omega
  unfold encodeBasicHeader
  dsimp only
  split_ifs with hone htwo
  · refine ⟨_, _, rfl, ?_, ?_⟩
    · rw [basicHeader_ofNat _ hone]
      exact ofBasicHeader_basicHeader _ (by rw [hbyte hone]; exact hone)
    · rw [basicHeader_ofNat _ hone, basicHeader_and_63 _ (by rw [hbyte hone]; exact hone)]
      have hback : (UInt8.ofNat f.csId.toNat).toUInt32 = f.csId := by
        apply UInt32.toNat_inj.mp
        rw [UInt8.toNat_toUInt32, hbyte hone]
      rw [hback]
      exact readChunkStreamId_one hlow rest
  · have hzero := basicHeader_ofNat f.fmt (n := 0) (by omega)
    rw [Nat.add_zero] at hzero
    refine ⟨_, _, rfl, ?_, ?_⟩
    · rw [hzero]
      exact ofBasicHeader_basicHeader _ (by decide)
    · rw [hzero, basicHeader_and_63 _ (by decide)]
      refine readChunkStreamId_two ?_ rest
      rw [UInt8.toNat_ofNat']
      omega
  · refine ⟨_, _, rfl, ?_, ?_⟩
    · rw [basicHeader_ofNat _ (by omega)]
      exact ofBasicHeader_basicHeader _ (by decide)
    · rw [basicHeader_ofNat _ (by omega), basicHeader_and_63 _ (by decide)]
      refine readChunkStreamId_three ?_ rest
      rw [UInt8.toNat_ofNat', UInt8.toNat_ofNat']
      omega

/-- The timestamp field is laid out as the server writes it. -/
theorem encodeTime_eq_write (time : UInt32) : encodeTime time = writeTimestamp time :=
  (writeTimestamp_eq time).symm

/-- Types 0, 1 and 2 are laid out as the server writes them. -/
theorem encodeMessageHeader_eq_write (prev : Option StreamState) {f : Fields}
    (hfmt : f.fmt ≠ .type3) :
    encodeMessageHeader prev f = writeMessageHeader f.chunkHeader f.fmt := by
  have htime := encodeTime_eq_write f.time
  have hextended : encodeExtended (extendedField f.time) = writeExtTimestamp f.time := by
    unfold encodeExtended extendedField writeExtTimestamp
    split_ifs <;> rfl
  cases hcase : f.fmt with
  | type3 => exact absurd hcase hfmt
  | type0 => simp [encodeMessageHeader, hcase, writeMessageHeader, Fields.chunkHeader, htime,
      hextended]
  | type1 => simp [encodeMessageHeader, hcase, writeMessageHeader, Fields.chunkHeader, htime,
      hextended]
  | type2 => simp [encodeMessageHeader, hcase, writeMessageHeader, Fields.chunkHeader, htime,
      hextended]

/-- The bytes that the server takes for chunk data although they belong to the
header: the extended timestamp field of a type 3 chunk. -/
def unreadHeader (prev : Option StreamState) (f : Fields) : List UInt8 :=
  if f.fmt = .type3 then encodeExtended (prev.bind (·.extended)) else []

/-- `rtmp_read_chunk_header` on a header of the protocol. -/
theorem rtmpReadChunkHeader_encode (h : ChunkHeader) (prev : Option StreamState) {f : Fields}
    (hf : f.WellFormed) (rest : List UInt8) :
    rtmpReadChunkHeader h (encodeHeader prev f ++ rest) =
      .ok (h.absorb f.fmt f.chunkHeader) (unreadHeader prev f ++ rest) := by
  obtain ⟨b, tail, hbytes, hfmt, hid⟩ := encodeBasicHeader_read hf
    (encodeMessageHeader prev f ++ rest)
  have hmessage : readMessageHeader { h with fmt := f.fmt, chunkStreamId := f.csId }
      (encodeMessageHeader prev f ++ rest) =
        some (h.absorb f.fmt f.chunkHeader, unreadHeader prev f ++ rest) := by
    by_cases h3 : f.fmt = .type3
    · simp [h3, readMessageHeader, unreadHeader, encodeMessageHeader, ChunkHeader.absorb,
        Fields.chunkHeader]
    · rw [encodeMessageHeader_eq_write prev h3, unreadHeader, if_neg h3, List.nil_append]
      exact readMessageHeader_write h f.chunkHeader hf.2.2 f.fmt rest
  rw [encodeHeader, List.append_assoc, hbytes]
  simp only [rtmpReadChunkHeader, hfmt, hid]
  rw [hmessage]

end Rtmp.ChunkStream
