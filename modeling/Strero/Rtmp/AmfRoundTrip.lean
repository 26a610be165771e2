import Strero.Lib.Slices
import Strero.Rtmp.Amf

/-!
# Decoding what was encoded

A value of the AMF0 grammar is written with the functions of the server, an object property by
property. Wherever the bytes of a value stand in a buffer, `amf_decode_value` gives the value
back and moves the offset to their end.
-/

namespace Rtmp

open Wire Slices

/-! ### The bytes of a value -/

/-- A name or a string without its marker, the length in sixteen bits. -/
def encodeText (text : List UInt8) : List UInt8 :=
  putBe16 (UInt32.ofNat (text.length % 65536)) ++ text.take (text.length % 65536)

mutual

/-- The bytes of a value. -/
def AmfValue.encode : AmfValue → List UInt8
  | .number bits => amfEncodeNumber bits
  | .boolean value => amfEncodeBoolean value
  | .string data => amfEncodeString data
  | .object properties =>
    amfEncodeObjectStart ++ encodeProperties properties ++ amfEncodeObjectEnd
  | .null => amfEncodeNull
  | .undefined => [0x06]

/-- The bytes of the properties of an object. -/
def encodeProperties : List (List UInt8 × AmfValue) → List UInt8
  | [] => []
  | (name, value) :: properties =>
    encodeText name ++ value.encode ++ encodeProperties properties

end

mutual

/-- A value that survives its encoding: strings and names are shorter than 65536, and a Boolean
is 0 or 1. -/
def AmfValue.WellFormed : AmfValue → Prop
  | .string data => data.length < 65536
  | .boolean value => value = 0 ∨ value = 1
  | .object properties => WellFormedProperties properties
  | .number _ | .null | .undefined => True

@[inherit_doc AmfValue.WellFormed]
def WellFormedProperties : List (List UInt8 × AmfValue) → Prop
  | [] => True
  | (name, value) :: properties =>
    name.length < 65536 ∧ value.WellFormed ∧ WellFormedProperties properties

end

/-- A string is a text behind its marker. -/
theorem amfEncodeString_eq (data : List UInt8) : amfEncodeString data = 0x02 :: encodeText data :=
  rfl

/-! ### Decoding without nesting -/

section Decoding

variable {buffer data : List UInt8} {offset : ℕ}

/-- What follows a step that gives a result. -/
theorem ok_bind {α β : Type} (a : α) (next : α → Except AmfFailure β) :
    (Except.ok a >>= next) = next a := rfl

/-- A byte that stands in the buffer. -/
theorem amfByte_eq {b : UInt8} (h : StandsAt buffer offset (b :: data)) :
    amfByte buffer offset = .ok b := by
  rw [amfByte, h.getElem?]

/-- A copy of what stands in the buffer. -/
theorem amfBytes_eq (h : StandsAt buffer offset data) :
    amfBytes buffer offset data.length = .ok data := by
  rw [amfBytes, if_pos h.le_length, h.take_drop]

/-- A number behind its marker. -/
theorem amfDecodeNumber_eq {bits : UInt64} (h : StandsAt buffer offset (putBe64 bits)) :
    amfDecodeNumber buffer offset = .ok (.number bits, offset + 8) := by
  have hle := h.le_length
  rw [putBe64_length] at hle
  unfold amfDecodeNumber
  rw [if_neg (by omega), ← putBe64_length bits, amfBytes_eq h, ok_bind, foldl_putBe64]
  rfl

/-- The length of a text as the decoder reads it. -/
theorem getBe16_length (hlt : data.length < 65536) :
    (getBe16 (lowByte (UInt32.ofNat (data.length % 65536) >>> 8))
      (lowByte (UInt32.ofNat (data.length % 65536)))).toNat = data.length := by
  have hnat : (UInt32.ofNat (data.length % 65536)).toNat = data.length := by
    rw [UInt32.toNat_ofNat']
    omega
  rw [getBe16_putBe16 (by omega), hnat]

/-- A text that is kept whole. -/
theorem encodeText_of_lt (hlt : data.length < 65536) :
    encodeText data = lowByte (UInt32.ofNat (data.length % 65536) >>> 8) ::
      lowByte (UInt32.ofNat (data.length % 65536)) :: data := by
  have hmod : data.length % 65536 = data.length := Nat.mod_eq_of_lt hlt
  rw [encodeText, hmod, List.take_length]
  rfl

/-- A text. -/
theorem amfDecodeString_eq (hlt : data.length < 65536)
    (h : StandsAt buffer offset (encodeText data)) :
    amfDecodeString buffer offset = .ok (data, offset + (encodeText data).length) := by
  rw [encodeText_of_lt hlt] at h ⊢
  obtain ⟨hfirst, htail⟩ := standsAt_cons.mp h
  obtain ⟨hsecond, hdata⟩ := standsAt_cons.mp htail
  have hle := hdata.le_length
  unfold amfDecodeString
  rw [if_neg (by omega), amfByte_eq h, amfByte_eq htail]
  simp only [ok_bind, getBe16_length hlt]
  rw [if_neg (by omega), amfBytes_eq hdata, ok_bind]
  have hlength : offset + 2 + data.length = offset + (data.length + 1 + 1) := by omega
  rw [hlength, List.length_cons, List.length_cons]
  rfl

/-- No value begins with the marker of an object end. -/
theorem AmfValue.encode_eq_cons (value : AmfValue) :
    ∃ marker bytes, value.encode = marker :: bytes ∧ marker ≠ 0x09 := by
  cases value <;> unfold AmfValue.encode
  all_goals exact ⟨_, _, rfl, by decide⟩

/-- The test for the end of an object, where at least three bytes follow. -/
theorem amfObjectEndAt_eq {b₀ b₁ b₂ : UInt8} {rest : List UInt8}
    (h : StandsAt buffer offset (b₀ :: b₁ :: b₂ :: rest)) :
    amfObjectEndAt buffer offset = .ok (decide (b₀ = 0x00 ∧ b₁ = 0x00 ∧ b₂ = 0x09)) := by
  have hle := h.le_length
  simp only [List.length_cons] at hle
  have hsecond := (standsAt_cons.mp h).2
  have hthird := (standsAt_cons.mp hsecond).2
  unfold amfObjectEndAt
  rw [if_pos (by omega), amfByte_eq h, amfByte_eq hsecond, amfByte_eq hthird]
  rfl

/-- A property is not taken for the end. The length of its name is zero only if the name is
empty, and then the marker of its value follows. -/
theorem amfObjectEndAt_property {value : AmfValue} {rest : List UInt8}
    (hlt : data.length < 65536)
    (h : StandsAt buffer offset (encodeText data ++ value.encode ++ rest)) :
    amfObjectEndAt buffer offset = .ok false := by
  obtain ⟨marker, bytes, hencode, hmarker⟩ := value.encode_eq_cons
  have hlength := getBe16_length hlt
  rw [encodeText_of_lt hlt, hencode] at h
  cases data with
  | nil =>
    rw [amfObjectEndAt_eq h]
    simp [hmarker]
  | cons b data =>
    rw [amfObjectEndAt_eq h, decide_eq_false]
    rintro ⟨hhigh, hlow, -⟩
    rw [hhigh, hlow] at hlength
    exact absurd hlength (Nat.succ_ne_zero data.length).symm

end Decoding

/-! ### Decoding values and objects -/

mutual

/-- A value is decoded where its bytes stand. -/
theorem amfDecodeValue_encode (buffer : List UInt8) (fuel offset : ℕ) (value : AmfValue)
    (hvalue : value.WellFormed) (h : StandsAt buffer offset value.encode)
    (hfuel : value.encode.length ≤ fuel) :
    amfDecodeValue buffer fuel offset = .ok (value, offset + value.encode.length) := by
  cases fuel with
  | zero =>
    obtain ⟨marker, bytes, hencode, -⟩ := value.encode_eq_cons
    rw [hencode] at hfuel
    cases hfuel
  | succ fuel =>
    cases value with
    | number bits =>
      have hlt := h.lt_length
      rw [amfDecodeValue, if_neg (by omega), amfByte_eq h]
      exact amfDecodeNumber_eq (standsAt_cons.mp h).2
    | boolean b =>
      have hlt := h.lt_length
      have hbool := (standsAt_cons.mp h).2
      have hroom := hbool.lt_length
      rw [amfDecodeValue, if_neg (by omega), amfByte_eq h, ok_bind]
      change (if offset + 1 ≥ buffer.length then _ else _) = _
      rw [if_neg (by omega), amfByte_eq hbool]
      rcases hvalue with rfl | rfl <;> rfl
    | string data =>
      have hlt := h.lt_length
      rw [amfDecodeValue, if_neg (by omega), amfByte_eq h, ok_bind]
      have hdata := amfDecodeString_eq hvalue (standsAt_cons.mp h).2
      change (amfDecodeString buffer (offset + 1) >>= fun (data, offset) =>
        pure (AmfValue.string data, offset)) = _
      rw [hdata, ok_bind, Nat.add_assoc, Nat.add_comm 1]
      rfl
    | object properties =>
      have hlt := h.lt_length
      have hobject := amfDecodeObject_encode buffer fuel (offset + 1) properties hvalue
        (standsAt_cons.mp h).2 (Nat.le_of_succ_le_succ hfuel)
      rw [amfDecodeValue, if_neg (by omega), amfByte_eq h, ok_bind]
      change (amfDecodeObject buffer fuel (offset + 1) >>= fun (properties, offset) =>
        pure (AmfValue.object properties, offset)) = _
      rw [hobject, ok_bind, Nat.add_assoc, Nat.add_comm 1]
      rfl
    | null | undefined =>
      have hlt := h.lt_length
      rw [amfDecodeValue, if_neg (by omega), amfByte_eq h]
      rfl

/-- The properties of an object are decoded up to its end. -/
theorem amfDecodeObject_encode (buffer : List UInt8) (fuel offset : ℕ)
    (properties : List (List UInt8 × AmfValue)) (hproperties : WellFormedProperties properties)
    (h : StandsAt buffer offset (encodeProperties properties ++ amfEncodeObjectEnd))
    (hfuel : (encodeProperties properties ++ amfEncodeObjectEnd).length ≤ fuel) :
    amfDecodeObject buffer fuel offset =
      .ok (properties, offset + (encodeProperties properties ++ amfEncodeObjectEnd).length) := by
  cases fuel with
  | zero => simp [amfEncodeObjectEnd] at hfuel
  | succ fuel =>
    have hlt : offset < buffer.length := by
      have hle := h.le_length
      rw [List.length_append] at hle
      change offset + ((encodeProperties properties).length + 3) ≤ buffer.length at hle
      omega
    cases properties with
    | nil =>
      rw [amfDecodeObject, if_neg (by omega), amfObjectEndAt_eq h]
      rfl
    | cons property properties =>
      obtain ⟨name, value⟩ := property
      obtain ⟨hname, hvalue, hproperties⟩ := hproperties
      rw [encodeProperties, List.append_assoc] at h hfuel
      have hend := amfObjectEndAt_property hname h
      obtain ⟨hfirst, hrest⟩ := standsAt_append.mp h
      obtain ⟨htext, hbytes⟩ := standsAt_append.mp hfirst
      have htextLength : 2 ≤ (encodeText name).length := by
        rw [encodeText_of_lt hname]
        simp
      rw [List.length_append, ← Nat.add_assoc] at hrest
      rw [List.length_append, List.length_append] at hfuel
      have hdecodeValue := amfDecodeValue_encode buffer fuel _ value hvalue hbytes (by omega)
      have hdecodeRest := amfDecodeObject_encode buffer fuel _ properties hproperties hrest
        (by omega)
      rw [amfDecodeObject, if_neg (by omega), hend, ok_bind, if_neg Bool.false_ne_true,
        amfDecodeString_eq hname htext, ok_bind]
      change (amfDecodeValue buffer fuel (offset + (encodeText name).length) >>= fun decoded =>
        amfDecodeObject buffer fuel decoded.2 >>= fun decodedRest =>
          pure ((name, decoded.1) :: decodedRest.1, decodedRest.2)) = _
      rw [hdecodeValue, ok_bind, hdecodeRest, ok_bind, encodeProperties]
      simp only [List.length_append, Nat.add_assoc]
      rfl

end

end Rtmp
