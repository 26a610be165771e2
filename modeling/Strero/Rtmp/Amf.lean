import Strero.Lib.Wire
import Strero.Lib.CString

/-!
# AMF0 values

The server decodes command payloads with `amf_decode_value`,
`amf_decode_string` and `amf_decode_object`, which move an offset over a
buffer, and builds its replies from the `amf_encode_*` functions. The decoders
are embedded over the whole buffer and an offset, with every byte read checked
against the buffer, so that a read outside it is visible as such.
-/

namespace Rtmp

open Wire

/-! ### Encoding -/

/-- `amf_encode_number`: the marker and the eight bytes of the double, most
significant first. A double is represented by its bits. -/
def amfEncodeNumber (bits : UInt64) : List UInt8 :=
  0x00 :: ([56, 48, 40, 32, 24, 16, 8, 0] : List UInt64).map fun i =>
    ((bits >>> i) &&& 0xFF).toUInt8

/-- `amf_encode_boolean`. -/
def amfEncodeBoolean (boolean : UInt8) : List UInt8 := [0x01, if boolean ≠ 0 then 1 else 0]

/-- `amf_encode_string` of a C string, whose length is kept in sixteen bits. -/
def amfEncodeString (string : List UInt8) : List UInt8 :=
  0x02 :: putBe16 (UInt32.ofNat (string.length % 65536)) ++ string.take (string.length % 65536)

/-- `amf_encode_null`. -/
def amfEncodeNull : List UInt8 := [0x05]

/-- `amf_encode_object_start`. -/
def amfEncodeObjectStart : List UInt8 := [0x03]

/-- `amf_encode_object_end`. -/
def amfEncodeObjectEnd : List UInt8 := [0x00, 0x00, 0x09]

/-! ### Decoding -/

/-- `amf_value_t`, restricted to the types the decoder produces. -/
inductive AmfValue
  | number (bits : UInt64)
  | boolean (value : UInt8)
  | string (data : List UInt8)
  | object (properties : List (List UInt8 × AmfValue))
  | null
  | undefined

/-- How decoding ends without a value: the source's -1, a read outside the
buffer, or a recursion deeper than the fuel of the embedding. -/
inductive AmfFailure
  | malformed
  | outOfBounds
  | outOfFuel
deriving DecidableEq, Repr

/-- One byte of the buffer. -/
def amfByte (buffer : List UInt8) (i : ℕ) : Except AmfFailure UInt8 :=
  match buffer[i]? with
  | some b => .ok b
  | none => .error .outOfBounds

/-- `memcpy` of `n` bytes out of the buffer. -/
def amfBytes (buffer : List UInt8) (i n : ℕ) : Except AmfFailure (List UInt8) :=
  if i + n ≤ buffer.length then .ok ((buffer.drop i).take n) else .error .outOfBounds

/-- The double of an AMF number, assembled from its eight bytes. -/
def amfDecodeNumber (buffer : List UInt8) (offset : ℕ) : Except AmfFailure (AmfValue × ℕ) := do
  if offset + 8 > buffer.length then throw .malformed
  let bytes ← amfBytes buffer offset 8
  let bits := bytes.foldl (fun (acc : UInt64) b => (acc <<< 8) ||| b.toUInt64) 0
  return (.number bits, offset + 8)

/-- `amf_decode_string`: a sixteen-bit length and that many bytes. -/
def amfDecodeString (buffer : List UInt8) (offset : ℕ) : Except AmfFailure (List UInt8 × ℕ) := do
  if offset + 2 > buffer.length then throw .malformed
  let b0 ← amfByte buffer offset
  let b1 ← amfByte buffer (offset + 1)
  let length := (getBe16 b0 b1).toNat
  let offset := offset + 2
  if offset + length > buffer.length then throw .malformed
  let data ← amfBytes buffer offset length
  return (data, offset + length)

/-- The test for the object end marker at the head of the loop of
`amf_decode_object`. -/
def amfObjectEndAt (buffer : List UInt8) (offset : ℕ) : Except AmfFailure Bool := do
  if offset + 3 ≤ buffer.length then
    let b0 ← amfByte buffer offset
    let b1 ← amfByte buffer (offset + 1)
    let b2 ← amfByte buffer (offset + 2)
    return b0 = 0x00 ∧ b1 = 0x00 ∧ b2 = 0x09
  else return false

mutual

/-- `amf_decode_value`, with fuel for the nesting of objects. -/
def amfDecodeValue (buffer : List UInt8) : ℕ → ℕ → Except AmfFailure (AmfValue × ℕ)
  | 0, _ => .error .outOfFuel
  | fuel + 1, offset => do
    if offset ≥ buffer.length then throw .malformed
    let type ← amfByte buffer offset
    let offset := offset + 1
    match type.toNat with
    | 0x00 => amfDecodeNumber buffer offset
    | 0x01 =>
      if offset ≥ buffer.length then throw .malformed
      let b ← amfByte buffer offset
      return (.boolean (if b ≠ 0 then 1 else 0), offset + 1)
    | 0x02 =>
      let (data, offset) ← amfDecodeString buffer offset
      return (.string data, offset)
    | 0x05 => return (.null, offset)
    | 0x06 => return (.undefined, offset)
    | 0x03 =>
      let (properties, offset) ← amfDecodeObject buffer fuel offset
      return (.object properties, offset)
    | _ => throw .malformed

/-- The loop of `amf_decode_object`. It leaves at the end marker, and also when
the buffer ends. -/
def amfDecodeObject (buffer : List UInt8) :
    ℕ → ℕ → Except AmfFailure (List (List UInt8 × AmfValue) × ℕ)
  | 0, _ => .error .outOfFuel
  | fuel + 1, offset => do
    if offset ≥ buffer.length then return ([], offset)
    if ← amfObjectEndAt buffer offset then return ([], offset + 3)
    let (name, offset) ← amfDecodeString buffer offset
    let (value, offset) ← amfDecodeValue buffer fuel offset
    let (properties, offset) ← amfDecodeObject buffer fuel offset
    return ((name, value) :: properties, offset)

end

end Rtmp
