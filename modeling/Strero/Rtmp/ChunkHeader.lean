import Strero.Lib.Wire

/-!
# Chunk headers of the RTMP server

A chunk starts with a basic header of one to three bytes, which carries the
format and the chunk stream id, and a message header whose length depends on
the format. This file embeds the server's reader `rtmp_read_chunk_header` and
writer `rtmp_write_chunk_header` and proves that the reader recovers what the
writer wrote, in every format and for every chunk stream id.
-/

namespace Rtmp

open Wire

/-- The two-bit chunk type, `RTMP_CHUNK_TYPE_0` to `RTMP_CHUNK_TYPE_3`. -/
inductive ChunkType
  | type0 | type1 | type2 | type3
deriving DecidableEq, Repr

/-- The number of a chunk type in the source. -/
def ChunkType.code : ChunkType → UInt8
  | type0 => 0
  | type1 => 1
  | type2 => 2
  | type3 => 3

/-- `(basic_header >> 6) & 0x03`. -/
def ChunkType.ofBasicHeader (b : UInt8) : ChunkType :=
  match ((b >>> 6) &&& 0x03).toNat with
  | 0 => type0
  | 1 => type1
  | 2 => type2
  | _ => type3

/-- `rtmp_chunk_header_t`. -/
structure ChunkHeader where
  fmt : ChunkType
  chunkStreamId : UInt32
  timestamp : UInt32
  messageLength : UInt32
  messageTypeId : UInt8
  messageStreamId : UInt32
deriving DecidableEq, Repr

/-- The header that `memset` leaves. -/
def ChunkHeader.zero : ChunkHeader := ⟨.type0, 0, 0, 0, 0, 0⟩

/-! ### Reading -/

/-- The basic header's id field, with the one or two bytes that follow it for
the values 0 and 1. -/
def readChunkStreamId (field : UInt32) (input : List UInt8) : Option (UInt32 × List UInt8) :=
  if field = 0 then
    match input with
    | csId :: rest => some (csId.toUInt32 + 64, rest)
    | [] => none
  else if field = 1 then
    match input with
    | b0 :: b1 :: rest => some (b1.toUInt32 * 256 + b0.toUInt32 + 64, rest)
    | _ => none
  else some (field, input)

/-- The four-byte extended timestamp. -/
def readExtTimestamp : List UInt8 → Option (UInt32 × List UInt8)
  | e0 :: e1 :: e2 :: e3 :: rest => some (getBe32 e0 e1 e2 e3, rest)
  | _ => none

/-- What types 1 and 2 do with the timestamp: the delta is added at once, and
an escaped delta is taken back and replaced by the extended one. -/
def readTimestampDelta (header : ChunkHeader) (delta : UInt32) (rest : List UInt8) :
    Option (ChunkHeader × List UInt8) :=
  let header := { header with timestamp := header.timestamp + delta }
  if delta = 0xFFFFFF then
    (readExtTimestamp rest).map fun (extDelta, rest) =>
      ({ header with timestamp := header.timestamp - delta + extDelta }, rest)
  else some (header, rest)

/-- The switch of `rtmp_read_chunk_header` over the chunk type. -/
def readMessageHeader (header : ChunkHeader) (input : List UInt8) :
    Option (ChunkHeader × List UInt8) :=
  match header.fmt with
  | .type0 =>
    match input with
    | m0 :: m1 :: m2 :: m3 :: m4 :: m5 :: m6 :: m7 :: m8 :: m9 :: m10 :: rest =>
      let header := { header with
        timestamp := getBe24 m0 m1 m2
        messageLength := getBe24 m3 m4 m5
        messageTypeId := m6
        messageStreamId := getLe32 m7 m8 m9 m10 }
      if header.timestamp = 0xFFFFFF then
        (readExtTimestamp rest).map fun (ext, rest) => ({ header with timestamp := ext }, rest)
      else some (header, rest)
    | _ => none
  | .type1 =>
    match input with
    | m0 :: m1 :: m2 :: m3 :: m4 :: m5 :: m6 :: rest =>
      let header := { header with messageLength := getBe24 m3 m4 m5, messageTypeId := m6 }
      readTimestampDelta header (getBe24 m0 m1 m2) rest
    | _ => none
  | .type2 =>
    match input with
    | m0 :: m1 :: m2 :: rest => readTimestampDelta header (getBe24 m0 m1 m2) rest
    | _ => none
  | .type3 => some (header, input)

/-- The results of `rtmp_read_chunk_header`: 0 when not even the first byte
can be read, -1 when a later byte is missing, and 1 with the filled header. -/
inductive HeaderResult
  | closed
  | failed
  | ok (header : ChunkHeader) (rest : List UInt8)
deriving DecidableEq, Repr

/-- `rtmp_read_chunk_header`. The input is what the peer still sends before
the first `recv` that fails. -/
def rtmpReadChunkHeader (header : ChunkHeader) : List UInt8 → HeaderResult
  | [] => .closed
  | basicHeader :: input =>
    let header := { header with fmt := .ofBasicHeader basicHeader }
    match readChunkStreamId (basicHeader &&& 0x3F).toUInt32 input with
    | none => .failed
    | some (csId, input) =>
      match readMessageHeader { header with chunkStreamId := csId } input with
      | none => .failed
      | some (header, rest) => .ok header rest

/-! ### Writing -/

/-- The basic header in its one-, two- or three-byte form. -/
def writeBasicHeader (csId : UInt32) (fmt : ChunkType) : List UInt8 :=
  if csId < 64 then [(fmt.code <<< 6) ||| csId.toUInt8]
  else if csId < 320 then [(fmt.code <<< 6) ||| 0, (csId - 64).toUInt8]
  else [(fmt.code <<< 6) ||| 1, lowByte (csId - 64), lowByte ((csId - 64) >>> 8)]

/-- The three timestamp bytes, all ones when the value needs the extended field. -/
def writeTimestamp (timestamp : UInt32) : List UInt8 :=
  if timestamp ≥ 0xFFFFFF then [0xFF, 0xFF, 0xFF] else putBe24 timestamp

/-- The extended timestamp, if needed. -/
def writeExtTimestamp (timestamp : UInt32) : List UInt8 :=
  if timestamp ≥ 0xFFFFFF then putBe32 timestamp else []

/-- The switch of `rtmp_write_chunk_header` over the chunk type. Types 1 and 2
take the delta from the timestamp field. -/
def writeMessageHeader (header : ChunkHeader) : ChunkType → List UInt8
  | .type0 =>
    writeTimestamp header.timestamp ++ putBe24 header.messageLength ++ [header.messageTypeId] ++
      putLe32 header.messageStreamId ++ writeExtTimestamp header.timestamp
  | .type1 =>
    writeTimestamp header.timestamp ++ putBe24 header.messageLength ++ [header.messageTypeId] ++
      writeExtTimestamp header.timestamp
  | .type2 => writeTimestamp header.timestamp ++ writeExtTimestamp header.timestamp
  | .type3 => []

/-- `rtmp_write_chunk_header`: the bytes it sends when every send succeeds. -/
def rtmpWriteChunkHeader (header : ChunkHeader) (fmt : ChunkType) : List UInt8 :=
  writeBasicHeader header.chunkStreamId fmt ++ writeMessageHeader header fmt

/-! ### The basic header -/

/-- Joining the format and a six-bit field is arithmetic. -/
theorem basicHeader_toNat (fmt : ChunkType) {x : UInt8} (hx : x.toNat < 64) :
    ((fmt.code <<< 6) ||| x).toNat = fmt.code.toNat * 64 + x.toNat := by
  have hshift : (fmt.code <<< 6).toNat = fmt.code.toNat <<< 6 := by cases fmt <;> rfl
  rw [UInt8.toNat_or, hshift]
  exact shiftLeft_or _ (i := 6) (by omega)

/-- The format survives in the two high bits. -/
theorem ofBasicHeader_basicHeader (fmt : ChunkType) {x : UInt8} (hx : x.toNat < 64) :
    ChunkType.ofBasicHeader ((fmt.code <<< 6) ||| x) = fmt := by
  have hbits : ((((fmt.code <<< 6) ||| x) >>> 6) &&& 0x03).toNat = fmt.code.toNat := by
    rw [UInt8.toNat_and, UInt8.toNat_shiftRight, basicHeader_toNat fmt hx]
    change (fmt.code.toNat * 64 + x.toNat) >>> 6 &&& 2 ^ 2 - 1 = _
    rw [Nat.and_two_pow_sub_one_eq_mod, Nat.shiftRight_eq_div_pow]
    cases fmt <;> simp [ChunkType.code] <;> omega
  unfold ChunkType.ofBasicHeader
  rw [hbits]
  cases fmt <;> rfl

/-- The id field survives in the six low bits. -/
theorem basicHeader_and_63 (fmt : ChunkType) {x : UInt8} (hx : x.toNat < 64) :
    (((fmt.code <<< 6) ||| x) &&& 0x3F) = x := by
  apply UInt8.toNat_inj.mp
  rw [UInt8.toNat_and, basicHeader_toNat fmt hx]
  change (fmt.code.toNat * 64 + x.toNat) &&& 2 ^ 6 - 1 = _
  rw [Nat.and_two_pow_sub_one_eq_mod]
  omega

/-- An id of at least 2 in the field itself. -/
theorem readChunkStreamId_one {csId : UInt32} (hlow : 2 ≤ csId.toNat) (input : List UInt8) :
    readChunkStreamId csId input = some (csId, input) := by
  have hne0 : csId ≠ 0 := by rintro rfl; simp at hlow
  have hne1 : csId ≠ 1 := by rintro rfl; simp at hlow
  simp [readChunkStreamId, hne0, hne1]

/-- The two-byte form, for any byte that encodes the id. -/
theorem readChunkStreamId_two {csId : UInt32} {b : UInt8} (hb : b.toNat + 64 = csId.toNat)
    (rest : List UInt8) : readChunkStreamId 0 (b :: rest) = some (csId, rest) := by
  have hid : b.toUInt32 + 64 = csId := by
    apply UInt32.toNat_inj.mp
    simp only [UInt32.toNat_add, UInt8.toNat_toUInt32, UInt32.reduceToNat]
    have := csId.toNat_lt
    omega
  exact congrArg (fun i => some (i, rest)) hid

/-- The three-byte form, for any two bytes that encode the id. -/
theorem readChunkStreamId_three {csId : UInt32} {b0 b1 : UInt8}
    (hb : b1.toNat * 256 + b0.toNat + 64 = csId.toNat) (rest : List UInt8) :
    readChunkStreamId 1 (b0 :: b1 :: rest) = some (csId, rest) := by
  have hid : b1.toUInt32 * 256 + b0.toUInt32 + 64 = csId := by
    apply UInt32.toNat_inj.mp
    simp only [UInt32.toNat_add, UInt32.toNat_mul, UInt8.toNat_toUInt32, UInt32.reduceToNat]
    have := csId.toNat_lt
    omega
  exact congrArg (fun i => some (i, rest)) hid

/-- The reader finds the format and the id of every basic header the writer
produces for an id the protocol allows. -/
theorem writeBasicHeader_read {csId : UInt32} (hlow : 2 ≤ csId.toNat) (hhigh : csId.toNat ≤ 65599)
    (fmt : ChunkType) (rest : List UInt8) :
    ∃ b tail, writeBasicHeader csId fmt ++ rest = b :: tail ∧ ChunkType.ofBasicHeader b = fmt ∧
      readChunkStreamId (b &&& 0x3F).toUInt32 tail = some (csId, rest) := by
  have h64 : csId < 64 ↔ csId.toNat < 64 := UInt32.lt_iff_toNat_lt
  have h320 : csId < 320 ↔ csId.toNat < 320 := UInt32.lt_iff_toNat_lt
  have hsub : 64 ≤ csId.toNat → (csId - 64).toNat = csId.toNat - 64 := fun h =>
    UInt32.toNat_sub_of_le _ _ (UInt32.le_iff_toNat_le.mpr h)
  unfold writeBasicHeader
  split_ifs with hone htwo
  · have hx : csId.toUInt8.toNat = csId.toNat := by
      rw [UInt32.toNat_toUInt8]
      have := h64.mp hone
      omega
    have hx64 : csId.toUInt8.toNat < 64 := by rw [hx]; exact h64.mp hone
    refine ⟨_, _, rfl, ofBasicHeader_basicHeader fmt hx64, ?_⟩
    have hback : csId.toUInt8.toUInt32 = csId := by
      apply UInt32.toNat_inj.mp
      rw [UInt8.toNat_toUInt32, hx]
    rw [basicHeader_and_63 fmt hx64, hback]
    exact readChunkStreamId_one hlow rest
  · refine ⟨_, _, rfl, ofBasicHeader_basicHeader fmt (by decide), ?_⟩
    rw [basicHeader_and_63 fmt (by decide)]
    have hge : 64 ≤ csId.toNat := by have := mt h64.mpr hone; omega
    have hlt : csId.toNat < 320 := h320.mp htwo
    refine readChunkStreamId_two ?_ rest
    rw [UInt32.toNat_toUInt8, hsub hge]
    omega
  · refine ⟨_, _, rfl, ofBasicHeader_basicHeader fmt (by decide), ?_⟩
    rw [basicHeader_and_63 fmt (by decide)]
    have hge : 320 ≤ csId.toNat := by have := mt h320.mpr htwo; omega
    refine readChunkStreamId_three ?_ rest
    simp only [lowByte_toNat, UInt32.toNat_shiftRight, UInt32.reduceToNat,
      Nat.shiftRight_eq_div_pow, Nat.reduceMod, Nat.reducePow]
    rw [hsub (by omega)]
    omega

/-! ### The message header -/

/-- What a header of format `fmt` with the fields of `w` makes of the fields
that the reader was called with. -/
def ChunkHeader.absorb (h : ChunkHeader) (fmt : ChunkType) (w : ChunkHeader) : ChunkHeader :=
  match fmt with
  | .type0 => { w with fmt := .type0 }
  | .type1 =>
    { w with fmt := .type1, timestamp := h.timestamp + w.timestamp,
             messageStreamId := h.messageStreamId }
  | .type2 =>
    { h with fmt := .type2, chunkStreamId := w.chunkStreamId,
             timestamp := h.timestamp + w.timestamp }
  | .type3 => { h with fmt := .type3, chunkStreamId := w.chunkStreamId }

/-- The three timestamp bytes, whether or not they are the escape. -/
theorem writeTimestamp_eq (timestamp : UInt32) :
    writeTimestamp timestamp = putBe24 (if timestamp ≥ 0xFFFFFF then 0xFFFFFF else timestamp) := by
  unfold writeTimestamp
  split_ifs
  · rfl
  · rfl

private theorem timestamp_field_lt (timestamp : UInt32) :
    (if timestamp ≥ 0xFFFFFF then 0xFFFFFF else timestamp).toNat < 2 ^ 24 := by
  split_ifs with h
  · decide
  · have := mt UInt32.le_iff_toNat_le.mpr h
    simp only [UInt32.reduceToNat] at this
    omega

/-- The timestamp field is the escape exactly when the extended field follows. -/
private theorem timestamp_field_escape (timestamp : UInt32) :
    (if timestamp ≥ 0xFFFFFF then 0xFFFFFF else timestamp) = 0xFFFFFF ↔ timestamp ≥ 0xFFFFFF := by
  split_ifs with h
  · simp [h]
  · refine ⟨fun heq => absurd ?_ h, fun hge => absurd hge h⟩
    rw [heq]
    decide

/-- The three timestamp bytes, read back: the escape or the value itself. -/
theorem getBe24_writeTimestamp (timestamp : UInt32) :
    ∃ t0 t1 t2, writeTimestamp timestamp = [t0, t1, t2] ∧
      (getBe24 t0 t1 t2 = 0xFFFFFF ↔ timestamp ≥ 0xFFFFFF) ∧
      (¬ timestamp ≥ 0xFFFFFF → getBe24 t0 t1 t2 = timestamp) := by
  refine ⟨_, _, _, writeTimestamp_eq timestamp, ?_, fun h => ?_⟩
  · rw [getBe24_putBe24 (timestamp_field_lt timestamp)]
    exact timestamp_field_escape timestamp
  · rw [getBe24_putBe24 (timestamp_field_lt timestamp), if_neg h]

private theorem readExtTimestamp_write (timestamp : UInt32) (rest : List UInt8) :
    readExtTimestamp (putBe32 timestamp ++ rest) = some (timestamp, rest) := by
  simp [putBe32, readExtTimestamp, getBe32_putBe32]

/-- A delta is added once, in the field of three bytes or in the extended one. -/
private theorem readTimestampDelta_write (h : ChunkHeader) {delta field : UInt32}
    (hescape : field = 0xFFFFFF ↔ delta ≥ 0xFFFFFF) (hfield : ¬ delta ≥ 0xFFFFFF → field = delta)
    (rest : List UInt8) :
    readTimestampDelta h field (writeExtTimestamp delta ++ rest) =
      some ({ h with timestamp := h.timestamp + delta }, rest) := by
  by_cases hext : delta ≥ 0xFFFFFF
  · simp [readTimestampDelta, writeExtTimestamp, hext, hescape.mpr hext, readExtTimestamp_write]
  · have hne : ¬ field = 0xFFFFFF := fun heq => hext (hescape.mp heq)
    rw [hfield hext] at hne ⊢
    simp [readTimestampDelta, writeExtTimestamp, hext, hne]

/-- The reader's switch undoes the writer's, in every format. -/
theorem readMessageHeader_write (h w : ChunkHeader) (hlen : w.messageLength.toNat < 2 ^ 24)
    (fmt : ChunkType) (rest : List UInt8) :
    readMessageHeader { h with fmt := fmt, chunkStreamId := w.chunkStreamId }
      (writeMessageHeader w fmt ++ rest) = some (h.absorb fmt w, rest) := by
  obtain ⟨t0, t1, t2, hwrite, hescape, hfield⟩ := getBe24_writeTimestamp w.timestamp
  have hlength := getBe24_putBe24 hlen
  cases fmt with
  | type0 =>
    by_cases hext : w.timestamp ≥ 0xFFFFFF
    · simp [readMessageHeader, writeMessageHeader, hwrite, putBe24, putLe32, writeExtTimestamp,
        hext, hescape.mpr hext, hlength, getLe32_putLe32, readExtTimestamp_write,
        ChunkHeader.absorb]
    · have hne : ¬ getBe24 t0 t1 t2 = 0xFFFFFF := fun heq => hext (hescape.mp heq)
      rw [hfield hext] at hne
      simp [readMessageHeader, writeMessageHeader, hwrite, putBe24, putLe32, writeExtTimestamp,
        hext, hne, hfield hext, hlength, getLe32_putLe32, ChunkHeader.absorb]
  | type1 =>
    have hread := readTimestampDelta_write
      { h with fmt := .type1, chunkStreamId := w.chunkStreamId,
               messageLength := w.messageLength, messageTypeId := w.messageTypeId }
      hescape hfield rest
    simpa [readMessageHeader, writeMessageHeader, hwrite, putBe24, hlength, ChunkHeader.absorb]
      using hread
  | type2 =>
    have hread := readTimestampDelta_write
      { h with fmt := .type2, chunkStreamId := w.chunkStreamId } hescape hfield rest
    simpa [readMessageHeader, writeMessageHeader, hwrite, ChunkHeader.absorb] using hread
  | type3 => simp [readMessageHeader, writeMessageHeader, ChunkHeader.absorb]

/-- The server's header reader recovers what its header writer wrote, for
every chunk stream id the protocol allows, and consumes exactly those bytes. -/
theorem rtmpReadChunkHeader_write (h : ChunkHeader) {w : ChunkHeader}
    (hlow : 2 ≤ w.chunkStreamId.toNat) (hhigh : w.chunkStreamId.toNat ≤ 65599)
    (hlen : w.messageLength.toNat < 2 ^ 24) (fmt : ChunkType) (rest : List UInt8) :
    rtmpReadChunkHeader h (rtmpWriteChunkHeader w fmt ++ rest) = .ok (h.absorb fmt w) rest := by
  obtain ⟨b, tail, hbytes, hfmt, hid⟩ :=
    writeBasicHeader_read hlow hhigh fmt (writeMessageHeader w fmt ++ rest)
  rw [rtmpWriteChunkHeader, List.append_assoc, hbytes]
  simp only [rtmpReadChunkHeader, hfmt, hid]
  rw [readMessageHeader_write h w hlen fmt rest]

/-- A header of type 0 is read as it was written, whatever the reader remembers of its stream. -/
theorem rtmpReadChunkHeader_writeType0 (h : ChunkHeader) {w : ChunkHeader}
    (hlow : 2 ≤ w.chunkStreamId.toNat) (hhigh : w.chunkStreamId.toNat ≤ 65599)
    (hlen : w.messageLength.toNat < 2 ^ 24) (rest : List UInt8) :
    rtmpReadChunkHeader h (rtmpWriteChunkHeader w .type0 ++ rest) =
      .ok { w with fmt := .type0 } rest := by
  exact rtmpReadChunkHeader_write h hlow hhigh hlen .type0 rest

/-- The largest values that the fields have, with an extended timestamp. -/
theorem rtmpReadChunkHeader_writeType0_largest :
    rtmpReadChunkHeader .zero (rtmpWriteChunkHeader
        ⟨.type0, 65599, 0xFFFFFFFF, 0xFFFFFF, 0xFF, 0xFFFFFFFF⟩ .type0 ++ [0xC3]) =
      .ok ⟨.type0, 65599, 0xFFFFFFFF, 0xFFFFFF, 0xFF, 0xFFFFFFFF⟩ [0xC3] :=
  rtmpReadChunkHeader_writeType0 .zero (by decide) (by decide) (by decide) [0xC3]

/-! ### Progress -/

private theorem readExtTimestamp_length {input rest : List UInt8} {x : UInt32}
    (h : readExtTimestamp input = some (x, rest)) : rest.length ≤ input.length := by
  unfold readExtTimestamp at h
  split at h
  · obtain ⟨-, rfl⟩ := Prod.mk.inj (Option.some.inj h)
    simp only [List.length_cons]
    omega
  · cases h

private theorem readChunkStreamId_length {field x : UInt32} {input rest : List UInt8}
    (h : readChunkStreamId field input = some (x, rest)) : rest.length ≤ input.length := by
  unfold readChunkStreamId at h
  split_ifs at h
  · split at h
    · obtain ⟨-, rfl⟩ := Prod.mk.inj (Option.some.inj h)
      simp
    · cases h
  · split at h
    · obtain ⟨-, rfl⟩ := Prod.mk.inj (Option.some.inj h)
      simp only [List.length_cons]
      omega
    · cases h
  · obtain ⟨-, rfl⟩ := Prod.mk.inj (Option.some.inj h)
    rfl

private theorem readTimestampDelta_length {a b : ChunkHeader} {delta : UInt32}
    {input rest : List UInt8} (h : readTimestampDelta a delta input = some (b, rest)) :
    rest.length ≤ input.length := by
  unfold readTimestampDelta at h
  dsimp only at h
  split_ifs at h
  · cases hext : readExtTimestamp input with
    | none => simp [hext] at h
    | some p =>
      rw [hext] at h
      obtain ⟨-, rfl⟩ := Prod.mk.inj (Option.some.inj h)
      exact readExtTimestamp_length hext
  · obtain ⟨-, rfl⟩ := Prod.mk.inj (Option.some.inj h)
    rfl

private theorem readMessageHeader_length {a b : ChunkHeader} {input rest : List UInt8}
    (h : readMessageHeader a input = some (b, rest)) : rest.length ≤ input.length := by
  unfold readMessageHeader at h
  split at h
  · split at h
    · dsimp only at h
      split_ifs at h
      · rename_i m0 m1 m2 m3 m4 m5 m6 m7 m8 m9 m10 tail _
        cases hext : readExtTimestamp tail with
        | none => simp [hext] at h
        | some p =>
          rw [hext] at h
          obtain ⟨-, rfl⟩ := Prod.mk.inj (Option.some.inj h)
          have := readExtTimestamp_length hext
          simp only [List.length_cons]
          omega
      · obtain ⟨-, rfl⟩ := Prod.mk.inj (Option.some.inj h)
        simp only [List.length_cons]
        omega
    · cases h
  · split at h
    · have := readTimestampDelta_length h
      simp only [List.length_cons]
      omega
    · cases h
  · split at h
    · have := readTimestampDelta_length h
      simp only [List.length_cons]
      omega
    · cases h
  · obtain ⟨-, rfl⟩ := Prod.mk.inj (Option.some.inj h)
    rfl

/-- What a successful header read went through. -/
theorem rtmpReadChunkHeader_eq_ok {h header : ChunkHeader} {input rest : List UInt8}
    (hread : rtmpReadChunkHeader h input = .ok header rest) :
    ∃ b tail csId left, input = b :: tail ∧
      readChunkStreamId (b &&& 0x3F).toUInt32 tail = some (csId, left) ∧
      readMessageHeader { h with fmt := .ofBasicHeader b, chunkStreamId := csId } left =
        some (header, rest) := by
  cases input with
  | nil => cases hread
  | cons b tail =>
    unfold rtmpReadChunkHeader at hread
    dsimp only at hread
    cases hid : readChunkStreamId (b &&& 0x3F).toUInt32 tail with
    | none =>
      rw [hid] at hread
      cases hread
    | some p =>
      obtain ⟨csId, left⟩ := p
      rw [hid] at hread
      dsimp only at hread
      cases hmessage : readMessageHeader
          { h with fmt := .ofBasicHeader b, chunkStreamId := csId } left with
      | none =>
        rw [hmessage] at hread
        cases hread
      | some q =>
        rw [hmessage] at hread
        cases hread
        exact ⟨b, tail, csId, left, rfl, hid, hmessage⟩

/-- A header is at least one byte long. -/
theorem rtmpReadChunkHeader_length {h header : ChunkHeader} {input rest : List UInt8}
    (hread : rtmpReadChunkHeader h input = .ok header rest) : rest.length < input.length := by
  obtain ⟨b, tail, csId, left, rfl, hid, hmessage⟩ := rtmpReadChunkHeader_eq_ok hread
  have hleft := readChunkStreamId_length hid
  have hrest := readMessageHeader_length hmessage
  simp only [List.length_cons]
  omega

end Rtmp
