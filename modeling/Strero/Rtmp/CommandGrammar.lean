import Strero.Lib.Amf0
import Strero.Rtmp.AmfBounds

/-!
# What the command parser accepts

The decoders of AMF0 values are compared with the grammar. They accept its values, and objects
that are not closed where the payload ends.
-/

namespace Rtmp

open Wire Amf0

variable {buffer rest : List UInt8} {offset next fuel : ℕ} {part : Part}

/-! ### What is left of the buffer -/

/-- A step that gives a result, and what follows it. -/
theorem exists_of_bind_eq_ok {α β : Type} {first : Except AmfFailure α}
    {step : α → Except AmfFailure β} {result : β} (h : (first >>= step) = .ok result) :
    ∃ a, first = .ok a ∧ step a = .ok result := by
  cases first with
  | error failure => cases h
  | ok a => exact ⟨a, rfl, h⟩

/-- The byte at the offset is the first one that is left. -/
theorem drop_of_amfByte {b : UInt8} (h : amfByte buffer offset = .ok b) :
    buffer.drop offset = b :: buffer.drop (offset + 1) := by
  unfold amfByte at h
  cases hget : buffer[offset]? with
  | none => simp [hget] at h
  | some a =>
    obtain ⟨hlt, rfl⟩ := List.getElem?_eq_some_iff.mp hget
    simp only [hget] at h
    obtain rfl := Except.ok.inj h
    exact List.drop_eq_getElem_cons hlt

/-- The first byte that is left is read. -/
theorem amfByte_of_drop {b : UInt8} (h : buffer.drop offset = b :: rest) :
    offset < buffer.length ∧ amfByte buffer offset = .ok b ∧ buffer.drop (offset + 1) = rest := by
  have hlt : offset < buffer.length := by
    have hlength := congrArg List.length h
    rw [List.length_drop, List.length_cons] at hlength
    omega
  obtain ⟨a, ha⟩ := exists_amfByte hlt
  have hdrop := drop_of_amfByte ha
  rw [h] at hdrop
  injection hdrop with hbyte hrest
  exact ⟨hlt, hbyte ▸ ha, hrest.symm⟩

/-! ### Strings and numbers -/

/-- A string that is decoded stands there. -/
theorem text_of_amfDecodeString {data : List UInt8}
    (h : amfDecodeString buffer offset = .ok (data, next)) :
    next ≤ buffer.length ∧ Text (buffer.drop offset) (buffer.drop next) := by
  unfold amfDecodeString at h
  split_ifs at h with hroom
  · cases h
  · obtain ⟨high, hhigh, h⟩ := exists_of_bind_eq_ok h
    obtain ⟨low, hlow, h⟩ := exists_of_bind_eq_ok h
    dsimp only at h
    split_ifs at h with hlong
    · cases h
    · obtain ⟨data, hdata, h⟩ := exists_of_bind_eq_ok h
      injection h with h
      injection h with _ hnext
      subst hnext
      refine ⟨by omega, ?_⟩
      rw [drop_of_amfByte hhigh, drop_of_amfByte hlow,
        ← List.take_append_drop (getBe16 high low).toNat (buffer.drop (offset + 1 + 1)),
        List.drop_drop]
      refine .mk high low _ _ ?_
      rw [List.length_take, List.length_drop, getBe16_toNat] at *
      omega

/-- Where a string stands, something is left. -/
theorem lt_length_of_text (h : Text (buffer.drop offset) rest) : offset < buffer.length := by
  by_contra hend
  rw [List.drop_eq_nil_of_le (by omega)] at h
  cases h

/-- A string that stands there is decoded. -/
theorem amfDecodeString_of_text (h : Text (buffer.drop offset) rest) :
    ∃ data next, amfDecodeString buffer offset = .ok (data, next) ∧ next ≤ buffer.length ∧
      buffer.drop next = rest := by
  generalize hinput : buffer.drop offset = input at h
  obtain ⟨high, low, data, rest, hlength⟩ := h
  obtain ⟨hfirst, hhigh, hinput⟩ := amfByte_of_drop hinput
  obtain ⟨hsecond, hlow, hinput⟩ := amfByte_of_drop hinput
  have hroom := congrArg List.length hinput
  rw [List.length_drop, List.length_append, hlength, ← getBe16_toNat] at hroom
  obtain ⟨bytes, hbytes⟩ := exists_amfBytes
    (show offset + 2 + (getBe16 high low).toNat ≤ buffer.length by omega)
  refine ⟨bytes, offset + 2 + (getBe16 high low).toNat, ?_, by omega, ?_⟩
  · unfold amfDecodeString
    rw [if_neg (by omega), hhigh, ok_bind, hlow, ok_bind]
    dsimp only
    rw [if_neg (by omega), hbytes]
    rfl
  · rw [← List.drop_drop, hinput, getBe16_toNat, ← hlength, List.drop_left]

/-- A number that is decoded stands there. -/
theorem double_of_amfDecodeNumber {value : AmfValue}
    (h : amfDecodeNumber buffer offset = .ok (value, next)) :
    next ≤ buffer.length ∧ (∃ bits, value = .number bits) ∧
      Double (buffer.drop offset) (buffer.drop next) := by
  unfold amfDecodeNumber at h
  split_ifs at h with hroom
  · cases h
  · obtain ⟨bytes, hbytes, h⟩ := exists_of_bind_eq_ok h
    injection h with h
    injection h with hvalue hnext
    subst hnext
    refine ⟨by omega, ⟨_, hvalue.symm⟩, ?_⟩
    rw [← List.take_append_drop 8 (buffer.drop offset), List.drop_drop]
    refine .mk _ _ ?_
    rw [List.length_take, List.length_drop]
    omega

/-- A number that stands there is decoded. -/
theorem amfDecodeNumber_of_double (h : Double (buffer.drop offset) rest) :
    ∃ bits, amfDecodeNumber buffer offset = .ok (.number bits, offset + 8) ∧
      offset + 8 ≤ buffer.length ∧ buffer.drop (offset + 8) = rest := by
  generalize hinput : buffer.drop offset = input at h
  obtain ⟨bytes, rest, hlength⟩ := h
  have hroom := congrArg List.length hinput
  rw [List.length_drop, List.length_append, hlength] at hroom
  obtain ⟨copied, hcopied⟩ := exists_amfBytes (show offset + 8 ≤ buffer.length by omega)
  have hnumber : ∃ bits, amfDecodeNumber buffer offset = .ok (.number bits, offset + 8) := by
    unfold amfDecodeNumber
    rw [if_neg (by omega), hcopied]
    exact ⟨_, rfl⟩
  obtain ⟨bits, hbits⟩ := hnumber
  refine ⟨bits, hbits, by omega, ?_⟩
  rw [← List.drop_drop, hinput, ← hlength, List.drop_left]

/-! ### The end of an object -/

/-- The test finds the marker that closes an object. -/
theorem amfObjectEndAt_true_iff :
    amfObjectEndAt buffer offset = .ok true ↔
      buffer.drop offset = 0x00 :: 0x00 :: 0x09 :: buffer.drop (offset + 3) := by
  constructor
  · intro h
    unfold amfObjectEndAt at h
    split_ifs at h with hroom
    · obtain ⟨b₀, hfirst, h⟩ := exists_of_bind_eq_ok h
      obtain ⟨b₁, hsecond, h⟩ := exists_of_bind_eq_ok h
      obtain ⟨b₂, hthird, h⟩ := exists_of_bind_eq_ok h
      obtain ⟨rfl, rfl, rfl⟩ := of_decide_eq_true (Except.ok.inj h)
      rw [drop_of_amfByte hfirst, drop_of_amfByte hsecond, drop_of_amfByte hthird]
    · cases h
  · intro h
    obtain ⟨_, hfirst, h⟩ := amfByte_of_drop h
    obtain ⟨_, hsecond, h⟩ := amfByte_of_drop h
    obtain ⟨hroom, hthird, _⟩ := amfByte_of_drop h
    unfold amfObjectEndAt
    rw [if_pos (by omega), hfirst, hsecond, hthird]
    rfl

/-! ### What is accepted -/

/-- The value or the object up to the next offset is one of the grammar, or the buffer ends in
it before it is closed. -/
def Accepted (buffer : List UInt8) (part : Part) (offset next : ℕ) : Prop :=
  next ≤ buffer.length ∧ (Closed part (buffer.drop offset) (buffer.drop next) ∨
    Unclosed part (buffer.drop offset) ∧ buffer.drop next = [])

/-- The marker that a value is decoded for. -/
def AmfValue.marker : AmfValue → UInt8
  | .number _ => 0x00
  | .boolean _ => 0x01
  | .string _ => 0x02
  | .object _ => 0x03
  | .null => 0x05
  | .undefined => 0x06

mutual

/-- A value that is decoded is accepted, behind its marker. -/
theorem accepted_of_amfDecodeValue (buffer : List UInt8) (fuel offset : ℕ) {value : AmfValue}
    {next : ℕ} (h : amfDecodeValue buffer fuel offset = .ok (value, next)) :
    Accepted buffer .value offset next ∧
      ∃ input, buffer.drop offset = value.marker :: input := by
  cases fuel with
  | zero => cases h
  | succ fuel =>
    rw [amfDecodeValue] at h
    split_ifs at h with hend
    · cases h
    · obtain ⟨type, htype, h⟩ := exists_of_bind_eq_ok h
      have hdrop := drop_of_amfByte htype
      unfold Accepted
      rw [hdrop]
      dsimp only at h
      split at h
      case h_1 hmarker =>
        obtain rfl : type = 0x00 := UInt8.toNat_inj.mp hmarker
        obtain ⟨hle, ⟨bits, rfl⟩, hdouble⟩ := double_of_amfDecodeNumber h
        exact ⟨⟨hle, .inl (.number hdouble)⟩, _, rfl⟩
      case h_2 hmarker =>
        obtain rfl : type = 0x01 := UInt8.toNat_inj.mp hmarker
        split_ifs at h with hlast
        · cases h
        · obtain ⟨b, hb, h⟩ := exists_of_bind_eq_ok h
          injection h with h
          injection h with hvalue hnext
          subst hvalue hnext
          rw [drop_of_amfByte hb]
          exact ⟨⟨by omega, .inl (.boolean b _)⟩, _, rfl⟩
      case h_3 hmarker =>
        obtain rfl : type = 0x02 := UInt8.toNat_inj.mp hmarker
        obtain ⟨⟨data, afterData⟩, hdata, h⟩ := exists_of_bind_eq_ok h
        injection h with h
        injection h with hvalue hnext
        subst hvalue hnext
        obtain ⟨hle, htext⟩ := text_of_amfDecodeString hdata
        exact ⟨⟨hle, .inl (.string htext)⟩, _, rfl⟩
      case h_4 hmarker =>
        obtain rfl : type = 0x05 := UInt8.toNat_inj.mp hmarker
        injection h with h
        injection h with hvalue hnext
        subst hvalue hnext
        exact ⟨⟨by omega, .inl (.null _)⟩, _, rfl⟩
      case h_5 hmarker =>
        obtain rfl : type = 0x06 := UInt8.toNat_inj.mp hmarker
        injection h with h
        injection h with hvalue hnext
        subst hvalue hnext
        exact ⟨⟨by omega, .inl (.undefined _)⟩, _, rfl⟩
      case h_6 hmarker =>
        obtain rfl : type = 0x03 := UInt8.toNat_inj.mp hmarker
        obtain ⟨⟨properties, afterObject⟩, hobject, h⟩ := exists_of_bind_eq_ok h
        injection h with h
        injection h with hvalue hnext
        subst hvalue hnext
        obtain ⟨hle, hclosed | ⟨hunclosed, hall⟩⟩ :=
          accepted_of_amfDecodeObject buffer fuel (offset + 1) (by omega) hobject
        · exact ⟨⟨hle, .inl (.object hclosed)⟩, _, rfl⟩
        · exact ⟨⟨hle, .inr ⟨.object hunclosed, hall⟩⟩, _, rfl⟩
      case h_7 => cases h

/-- So is an object. -/
theorem accepted_of_amfDecodeObject (buffer : List UInt8) (fuel offset : ℕ)
    {properties : List (List UInt8 × AmfValue)} {next : ℕ} (hoffset : offset ≤ buffer.length)
    (h : amfDecodeObject buffer fuel offset = .ok (properties, next)) :
    Accepted buffer .properties offset next := by
  cases fuel with
  | zero => cases h
  | succ fuel =>
    rw [amfDecodeObject] at h
    split_ifs at h with hend
    · injection h with h
      injection h with _ hnext
      subst hnext
      have hnil : buffer.drop offset = [] := List.drop_eq_nil_of_le hend
      exact ⟨hoffset, .inr ⟨by rw [hnil]; exact .ending, hnil⟩⟩
    · obtain ⟨ended, hended, h⟩ := exists_of_bind_eq_ok h
      split_ifs at h with htrue
      · subst htrue
        injection h with h
        injection h with _ hnext
        subst hnext
        have hmarker := amfObjectEndAt_true_iff.mp hended
        obtain ⟨_, hsame, hroom⟩ := exists_amfObjectEndAt buffer offset
        rw [hended] at hsame
        refine ⟨hroom (Except.ok.inj hsame).symm, .inl ?_⟩
        rw [hmarker]
        exact .ending _
      · obtain ⟨⟨name, afterName⟩, hname, h⟩ := exists_of_bind_eq_ok h
        obtain ⟨⟨value, afterValue⟩, hvalue, h⟩ := exists_of_bind_eq_ok h
        obtain ⟨⟨properties, afterProperties⟩, hrest, h⟩ := exists_of_bind_eq_ok h
        injection h with h
        injection h with _ hnext
        subst hnext
        obtain ⟨-, hname⟩ := text_of_amfDecodeString hname
        obtain ⟨hle, hvalue | ⟨hvalue, hall⟩⟩ :=
          (accepted_of_amfDecodeValue buffer fuel afterName hvalue).1
        · obtain ⟨hle, hrest | ⟨hrest, hall⟩⟩ :=
            accepted_of_amfDecodeObject buffer fuel afterValue hle hrest
          · exact ⟨hle, .inl (.property hname hvalue hrest)⟩
          · exact ⟨hle, .inr ⟨.property hname hvalue hrest, hall⟩⟩
        -- The value has taken all that is left, so that the loop over the properties ends.
        · obtain ⟨hle, hrest | ⟨-, hall⟩⟩ :=
            accepted_of_amfDecodeObject buffer fuel afterValue hle hrest
          · rw [hall] at hrest
            cases hrest with | property hname _ _ => cases hname
          · exact ⟨hle, .inr ⟨.inner hname hvalue, hall⟩⟩

end

/-- A value that is decoded has taken something. -/
theorem lt_of_amfDecodeValue {value : AmfValue} (hoffset : offset ≤ buffer.length)
    (h : amfDecodeValue buffer fuel offset = .ok (value, next)) : offset < next := by
  have hmoves := amfDecodeValue_bounded buffer fuel offset hoffset
  rw [h] at hmoves
  exact hmoves.1

/-- A string behind its marker is decoded. -/
theorem amfDecodeValue_of_text (fuel : ℕ) {text : List UInt8}
    (hinput : buffer.drop offset = 0x02 :: text) (h : Text text rest) :
    ∃ data next, amfDecodeValue buffer (fuel + 1) offset = .ok (.string data, next) ∧
      next ≤ buffer.length ∧ buffer.drop next = rest := by
  obtain ⟨hlt, hmarker, hafter⟩ := amfByte_of_drop hinput
  subst hafter
  obtain ⟨data, next, hdata, hle, hrest⟩ := amfDecodeString_of_text h
  refine ⟨data, next, ?_, hle, hrest⟩
  rw [amfDecodeValue, if_neg (by omega), hmarker, ok_bind]
  change (amfDecodeString buffer (offset + 1) >>= fun decoded =>
    pure (AmfValue.string decoded.1, decoded.2)) = _
  rw [hdata]
  rfl

/-- A number behind its marker is decoded. -/
theorem amfDecodeValue_of_double (fuel : ℕ) {number : List UInt8}
    (hinput : buffer.drop offset = 0x00 :: number) (h : Double number rest) :
    ∃ bits next, amfDecodeValue buffer (fuel + 1) offset = .ok (.number bits, next) ∧
      next ≤ buffer.length ∧ buffer.drop next = rest := by
  obtain ⟨hlt, hmarker, hafter⟩ := amfByte_of_drop hinput
  subst hafter
  obtain ⟨bits, hbits, hle, hrest⟩ := amfDecodeNumber_of_double h
  refine ⟨bits, offset + 1 + 8, ?_, hle, hrest⟩
  rw [amfDecodeValue, if_neg (by omega), hmarker, ok_bind]
  exact hbits

/-- The decoder for this part gives something, and leaves the rest. -/
def Decodes (buffer : List UInt8) (fuel : ℕ) : Part → ℕ → List UInt8 → Prop
  | .value, offset, rest => ∃ value next,
    amfDecodeValue buffer fuel offset = .ok (value, next) ∧ next ≤ buffer.length ∧
      buffer.drop next = rest
  | .properties, offset, rest => ∃ properties next,
    amfDecodeObject buffer fuel offset = .ok (properties, next) ∧ next ≤ buffer.length ∧
      buffer.drop next = rest

/-- An object behind its marker. -/
theorem decodes_object {input : List UInt8} (hinput : buffer.drop offset = 0x03 :: input)
    (h : Decodes buffer fuel .properties (offset + 1) rest) :
    Decodes buffer (fuel + 1) .value offset rest := by
  obtain ⟨properties, next, hobject, hle, hrest⟩ := h
  obtain ⟨hlt, hmarker, -⟩ := amfByte_of_drop hinput
  refine ⟨.object properties, next, ?_, hle, hrest⟩
  rw [amfDecodeValue, if_neg (by omega), hmarker, ok_bind]
  change (amfDecodeObject buffer fuel (offset + 1) >>= fun decoded =>
    pure (AmfValue.object decoded.1, decoded.2)) = _
  rw [hobject]
  rfl

/-- One property and the rest of its object. -/
theorem decodes_property {afterName afterValue : List UInt8}
    (hname : Text (buffer.drop offset) afterName)
    (hending : buffer.drop offset ≠ 0x00 :: 0x00 :: 0x09 :: buffer.drop (offset + 3))
    (hvalue : ∀ next, offset < next → next ≤ buffer.length → buffer.drop next = afterName →
      Decodes buffer fuel .value next afterValue)
    (hrest : ∀ next, offset < next → next ≤ buffer.length → buffer.drop next = afterValue →
      Decodes buffer fuel .properties next rest) :
    Decodes buffer (fuel + 1) .properties offset rest := by
  have hnonempty := lt_length_of_text hname
  obtain ⟨ended, hended, -⟩ := exists_amfObjectEndAt buffer offset
  have hfalse : ended = false := by
    by_contra htrue
    rw [Bool.not_eq_false] at htrue
    exact hending (amfObjectEndAt_true_iff.mp (htrue ▸ hended))
  obtain ⟨name, nameEnd, hdecodedName, hnameEnd, hafterName⟩ := amfDecodeString_of_text hname
  have hnameMoves := amfDecodeString_bounded buffer offset True
  rw [hdecodedName] at hnameMoves
  have hnameLe := hnameMoves.1
  obtain ⟨value, valueEnd, hdecodedValue, hvalueEnd, hafterValue⟩ :=
    hvalue nameEnd (by omega) hnameEnd hafterName
  have hvalueLe := lt_of_amfDecodeValue hnameEnd hdecodedValue
  obtain ⟨properties, next, hdecodedRest, hle, hrest⟩ :=
    hrest valueEnd (by omega) hvalueEnd hafterValue
  refine ⟨(name, value) :: properties, next, ?_, hle, hrest⟩
  rw [amfDecodeObject, if_neg (by omega), hended, ok_bind, hfalse, if_neg Bool.false_ne_true,
    hdecodedName, ok_bind]
  change (amfDecodeValue buffer fuel nameEnd >>= fun decoded =>
    amfDecodeObject buffer fuel decoded.2 >>= fun decodedRest =>
      pure ((name, decoded.1) :: decodedRest.1, decodedRest.2)) = _
  rw [hdecodedValue, ok_bind, hdecodedRest]
  rfl

/-- Whatever is of the grammar is decoded. -/
theorem decodes_of_closed {input : List UInt8} (h : Closed part input rest)
    (hinput : buffer.drop offset = input) (hoffset : offset ≤ buffer.length)
    (hfuel : buffer.length < offset + fuel) : Decodes buffer fuel part offset rest := by
  obtain ⟨fuel, rfl⟩ : ∃ n, fuel = n + 1 := Nat.exists_eq_succ_of_ne_zero (by omega)
  induction h generalizing offset fuel with
  | number h =>
    obtain ⟨bits, next, hbits, hle, hrest⟩ := amfDecodeValue_of_double _ hinput h
    exact ⟨.number bits, next, hbits, hle, hrest⟩
  | boolean b rest =>
    obtain ⟨hlt, hmarker, hafter⟩ := amfByte_of_drop hinput
    obtain ⟨hlast, hb, hrest⟩ := amfByte_of_drop hafter
    refine ⟨.boolean (if b ≠ 0 then 1 else 0), offset + 1 + 1, ?_, hlast, hrest⟩
    rw [amfDecodeValue, if_neg (by omega), hmarker, ok_bind]
    change (if offset + 1 ≥ buffer.length then _ else _) = _
    rw [if_neg (by omega), hb]
    rfl
  | string h =>
    obtain ⟨data, next, hdata, hle, hrest⟩ := amfDecodeValue_of_text _ hinput h
    exact ⟨.string data, next, hdata, hle, hrest⟩
  | object _ ih =>
    obtain ⟨hlt, -, hafter⟩ := amfByte_of_drop hinput
    obtain ⟨fuel, rfl⟩ : ∃ n, fuel = n + 1 := Nat.exists_eq_succ_of_ne_zero (by omega)
    exact decodes_object hinput (ih hafter hlt fuel (by omega))
  | null rest =>
    obtain ⟨hlt, hmarker, hafter⟩ := amfByte_of_drop hinput
    refine ⟨.null, offset + 1, ?_, hlt, hafter⟩
    rw [amfDecodeValue, if_neg (by omega), hmarker]
    rfl
  | undefined rest =>
    obtain ⟨hlt, hmarker, hafter⟩ := amfByte_of_drop hinput
    refine ⟨.undefined, offset + 1, ?_, hlt, hafter⟩
    rw [amfDecodeValue, if_neg (by omega), hmarker]
    rfl
  | ending rest =>
    obtain ⟨hlt, -, hsecond⟩ := amfByte_of_drop hinput
    obtain ⟨-, -, hthird⟩ := amfByte_of_drop hsecond
    obtain ⟨hroom, -, hrest⟩ := amfByte_of_drop hthird
    refine ⟨[], offset + 3, ?_, hroom, hrest⟩
    have hended : amfObjectEndAt buffer offset = .ok true := by
      rw [amfObjectEndAt_true_iff, hinput, hrest]
    rw [amfDecodeObject, if_neg (by omega), hended]
    rfl
  | property hname hvalue hrest ihvalue ihrest =>
    rw [← hinput] at hname
    have hlt := lt_length_of_text hname
    obtain ⟨fuel, rfl⟩ : ∃ n, fuel = n + 1 := Nat.exists_eq_succ_of_ne_zero (by omega)
    refine decodes_property hname (fun hending => ?_)
      (fun next hnext hle hdrop => ihvalue hdrop hle fuel (by omega))
      (fun next hnext hle hdrop => ihrest hdrop hle fuel (by omega))
    rw [hending] at hname
    exact (not_property_ending hname).1 _ hvalue

/-- So is an object at the end of the buffer that is not closed. -/
theorem decodes_of_unclosed {input : List UInt8} (h : Unclosed part input)
    (hinput : buffer.drop offset = input) (hoffset : offset ≤ buffer.length)
    (hfuel : buffer.length < offset + fuel) : Decodes buffer fuel part offset [] := by
  obtain ⟨fuel, rfl⟩ : ∃ n, fuel = n + 1 := Nat.exists_eq_succ_of_ne_zero (by omega)
  induction h generalizing offset fuel with
  | object _ ih =>
    obtain ⟨hlt, -, hafter⟩ := amfByte_of_drop hinput
    obtain ⟨fuel, rfl⟩ : ∃ n, fuel = n + 1 := Nat.exists_eq_succ_of_ne_zero (by omega)
    exact decodes_object hinput (ih hafter hlt fuel (by omega))
  | ending =>
    have hend : buffer.length ≤ offset := List.drop_eq_nil_iff.mp hinput
    refine ⟨[], offset, ?_, hoffset, hinput⟩
    rw [amfDecodeObject, if_pos hend]
    rfl
  | inner hname hvalue ihvalue =>
    rw [← hinput] at hname
    have hlt := lt_length_of_text hname
    obtain ⟨fuel, rfl⟩ : ∃ n, fuel = n + 1 := Nat.exists_eq_succ_of_ne_zero (by omega)
    refine decodes_property hname (fun hending => ?_)
      (fun next hnext hle hdrop => ihvalue hdrop hle fuel (by omega))
      (fun next hnext hle hdrop => ?_)
    · rw [hending] at hname
      exact (not_property_ending hname).2 hvalue
    -- Behind the value nothing is left, and the loop ends.
    · have hend : buffer.length ≤ next := List.drop_eq_nil_iff.mp hdrop
      refine ⟨[], next, ?_, hle, hdrop⟩
      rw [amfDecodeObject, if_pos hend]
      rfl
  | property hname hvalue hrest ihrest =>
    rw [← hinput] at hname
    have hlt := lt_length_of_text hname
    obtain ⟨fuel, rfl⟩ : ∃ n, fuel = n + 1 := Nat.exists_eq_succ_of_ne_zero (by omega)
    refine decodes_property hname (fun hending => ?_)
      (fun next hnext hle hdrop => decodes_of_closed hvalue hdrop hle (by omega))
      (fun next hnext hle hdrop => ihrest hdrop hle fuel (by omega))
    rw [hending] at hname
    exact (not_property_ending hname).1 _ hvalue

/-! ### The command -/

/-- Something begins with the name of a command and its transaction number. -/
def CommandHead (payload rest : List UInt8) : Prop :=
  ∃ text number, payload = 0x02 :: text ∧ Text text (0x00 :: number) ∧ Double number rest

/-- A command: a string, a number, and any number of values. -/
def IsCommand (payload : List UInt8) : Prop :=
  ∃ rest, CommandHead payload rest ∧ Values rest

/-- A command that ends in an object that is not closed. -/
def IsUnclosedCommand (payload : List UInt8) : Prop :=
  ∃ rest, CommandHead payload rest ∧ UnclosedValues rest

/-- The head of a command is determined. -/
theorem CommandHead.rest_eq {payload rest rest' : List UInt8} (h : CommandHead payload rest)
    (h' : CommandHead payload rest') : rest = rest' := by
  obtain ⟨text, number, rfl, htext, hnumber⟩ := h
  obtain ⟨text', number', heq, htext', hnumber'⟩ := h'
  injection heq with _ heq
  subst heq
  have hsame := htext.rest_eq htext'
  injection hsame with _ hsame
  subst hsame
  exact hnumber.rest_eq hnumber'

/-- The loop over the arguments accepts values up to the end of the payload. -/
theorem decodeArguments_iff (buffer : List UInt8) (fuel offset : ℕ)
    (hoffset : offset ≤ buffer.length) (hfuel : buffer.length < offset + fuel) :
    (∃ arguments, decodeArguments buffer fuel offset = .ok arguments) ↔
      Values (buffer.drop offset) ∨ UnclosedValues (buffer.drop offset) := by
  induction fuel generalizing offset with
  | zero => omega
  | succ fuel ih =>
    rw [decodeArguments]
    split_ifs with hend
    · have hnil : buffer.drop offset = [] := List.drop_eq_nil_of_le hend
      rw [hnil]
      exact ⟨fun _ => .inl .nil, fun _ => ⟨[], rfl⟩⟩
    · constructor
      · rintro ⟨arguments, h⟩
        obtain ⟨⟨argument, next⟩, hargument, h⟩ := exists_of_bind_eq_ok h
        obtain ⟨arguments, hrest, -⟩ := exists_of_bind_eq_ok h
        have hlt := lt_of_amfDecodeValue hoffset hargument
        obtain ⟨hle, hclosed | ⟨hunclosed, -⟩⟩ :=
          (accepted_of_amfDecodeValue buffer _ _ hargument).1
        · exact ((ih next hle (by omega)).mp ⟨arguments, hrest⟩).imp (.cons hclosed) (.cons hclosed)
        · exact .inr (.last hunclosed)
      · intro h
        have hdecodes : ∃ rest, Decodes buffer (buffer.length + 1) .value offset rest ∧
            (Values rest ∨ UnclosedValues rest) := by
          generalize hinput : buffer.drop offset = input at h
          rcases h with h | h
          · cases h with
            | nil => exact absurd (List.drop_eq_nil_iff.mp hinput) hend
            | cons hvalue hrest =>
              exact ⟨_, decodes_of_closed hvalue hinput hoffset (by omega), .inl hrest⟩
          · cases h with
            | last hunclosed =>
              exact ⟨_, decodes_of_unclosed hunclosed hinput hoffset (by omega), .inl .nil⟩
            | cons hvalue hrest =>
              exact ⟨_, decodes_of_closed hvalue hinput hoffset (by omega), .inr hrest⟩
        obtain ⟨rest, ⟨argument, next, hargument, hle, rfl⟩, hrest⟩ := hdecodes
        have hlt := lt_of_amfDecodeValue hoffset hargument
        obtain ⟨arguments, harguments⟩ := (ih next hle (by omega)).mpr hrest
        refine ⟨argument :: arguments, ?_⟩
        rw [hargument, ok_bind]
        change (decodeArguments buffer fuel next >>= fun arguments =>
          pure (argument :: arguments)) = _
        rw [harguments]
        rfl

/-- What is accepted behind the marker of a string is a string. -/
theorem text_of_accepted {text : List UInt8} (h : Accepted buffer .value offset next)
    (hinput : buffer.drop offset = 0x02 :: text) : Text text (buffer.drop next) := by
  obtain ⟨-, h | ⟨h, -⟩⟩ := h
  · rw [hinput] at h
    cases h with | string h => exact h
  · rw [hinput] at h
    cases h

/-- Behind the marker of a number it is a number. -/
theorem double_of_accepted {number : List UInt8} (h : Accepted buffer .value offset next)
    (hinput : buffer.drop offset = 0x00 :: number) : Double number (buffer.drop next) := by
  obtain ⟨-, h | ⟨h, -⟩⟩ := h
  · rw [hinput] at h
    cases h with | number h => exact h
  · rw [hinput] at h
    cases h

/-- The command object is like an argument in front of the others. -/
theorem decodeArguments_object (buffer : List UInt8) (fuel : ℕ) (hlt : offset < buffer.length) :
    decodeArguments buffer (fuel + 1) offset =
      amfDecodeValue buffer (buffer.length + 1) offset >>= fun decoded =>
        decodeArguments buffer fuel decoded.2 >>= fun arguments =>
          pure (decoded.1 :: arguments) := by
  rw [decodeArguments, if_neg (by omega)]

/-- The head of a command and the values behind it are accepted. -/
theorem rtmpCommandParse_iff (payload : List UInt8) :
    (∃ command, rtmpCommandParse payload = .ok command) ↔
      ∃ rest, CommandHead payload rest ∧ (Values rest ∨ UnclosedValues rest) := by
  constructor
  · rintro ⟨command, h⟩
    obtain ⟨⟨name, afterName⟩, hname, h⟩ := exists_of_bind_eq_ok h
    obtain ⟨hacceptedName, text, htext⟩ := accepted_of_amfDecodeValue payload _ _ hname
    cases name with
    | string data =>
      obtain ⟨⟨transaction, afterNumber⟩, htransaction, h⟩ := exists_of_bind_eq_ok h
      obtain ⟨hacceptedNumber, number, hnumber⟩ :=
        accepted_of_amfDecodeValue payload _ _ htransaction
      cases transaction with
      | number bits =>
        have hroom := hacceptedNumber.1
        refine ⟨payload.drop afterNumber, ⟨text, number, htext, ?_,
          double_of_accepted hacceptedNumber hnumber⟩, ?_⟩
        · have hbehind := text_of_accepted hacceptedName htext
          rwa [hnumber] at hbehind
        dsimp only at h
        split_ifs at h with hobject
        · obtain ⟨⟨commandObject, next⟩, hdecoded, h⟩ := exists_of_bind_eq_ok h
          obtain ⟨arguments, harguments, -⟩ := exists_of_bind_eq_ok h
          refine (decodeArguments_iff payload (payload.length + 1 + 1) afterNumber hroom
            (by omega)).mp ⟨commandObject :: arguments, ?_⟩
          rw [decodeArguments_object payload _ hobject, hdecoded, ok_bind, harguments]
          rfl
        · obtain ⟨_, hnone, h⟩ := exists_of_bind_eq_ok h
          obtain rfl := Except.ok.inj hnone
          obtain ⟨arguments, harguments, -⟩ := exists_of_bind_eq_ok h
          exact (decodeArguments_iff payload (payload.length + 1) afterNumber hroom
            (by omega)).mp ⟨arguments, harguments⟩
      | boolean | string | object | null | undefined => cases h
    | number | boolean | object | null | undefined => cases h
  · rintro ⟨rest, ⟨text, number, hpayload, htext, hnumber⟩, hvalues⟩
    obtain ⟨data, afterName, hname, -, hafterName⟩ :=
      amfDecodeValue_of_text payload.length (show payload.drop 0 = _ from hpayload) htext
    obtain ⟨bits, afterNumber, htransaction, hroom, rfl⟩ :=
      amfDecodeValue_of_double payload.length hafterName hnumber
    obtain ⟨arguments, harguments⟩ := (decodeArguments_iff payload (payload.length + 1 + 1)
      afterNumber hroom (by omega)).mpr hvalues
    unfold rtmpCommandParse
    rw [hname, ok_bind]
    dsimp only
    rw [htransaction, ok_bind]
    dsimp only
    split_ifs with hobject
    · rw [decodeArguments_object payload _ hobject] at harguments
      obtain ⟨⟨commandObject, next⟩, hdecoded, harguments⟩ := exists_of_bind_eq_ok harguments
      obtain ⟨arguments, harguments, -⟩ := exists_of_bind_eq_ok harguments
      rw [hdecoded, ok_bind, harguments]
      exact ⟨_, rfl⟩
    · have hnone : decodeArguments payload (payload.length + 1) afterNumber = .ok [] := by
        rw [decodeArguments, if_pos (by omega)]
        rfl
      refine ⟨⟨CString.cString data, bits, .number 0, []⟩, ?_⟩
      change (decodeArguments payload (payload.length + 1) afterNumber >>= fun arguments =>
        pure (⟨CString.cString data, bits, .number 0, arguments⟩ : Command)) = _
      rw [hnone]
      rfl

/-- The parser accepts exactly the commands exactly where the payload does not end in an object
that is not closed. -/
theorem rtmpCommandParse_grammar_iff (payload : List UInt8) :
    ((∃ command, rtmpCommandParse payload = .ok command) ↔ IsCommand payload) ↔
      ¬IsUnclosedCommand payload := by
  have haccepted : (∃ command, rtmpCommandParse payload = .ok command) ↔
      IsCommand payload ∨ IsUnclosedCommand payload := by
    rw [rtmpCommandParse_iff]
    simp only [and_or_left, exists_or, IsCommand, IsUnclosedCommand]
  rw [haccepted]
  constructor
  · intro h hunclosed
    obtain ⟨rest, hhead, hvalues⟩ := h.mp (.inr hunclosed)
    obtain ⟨rest', hhead', hunclosed⟩ := hunclosed
    obtain rfl := hhead.rest_eq hhead'
    exact hvalues.not_unclosed hunclosed
  · exact fun h => or_iff_left h

/-- A command with an object that the payload ends in. -/
def unclosedCommand : List UInt8 :=
  amfEncodeString (CString.ascii "connect") ++ amfEncodeNumber doubleOne ++ amfEncodeObjectStart

/-- It is accepted. -/
theorem not_isCommand_unclosed :
    ¬∀ payload, (∃ command, rtmpCommandParse payload = .ok command) ↔ IsCommand payload := by
  intro h
  obtain ⟨rest, hhead, hvalues⟩ := (h unclosedCommand).mp ⟨_, rfl⟩
  have hhead' : CommandHead unclosedCommand [0x03] :=
    ⟨_, _, rfl, .mk 0 7 (CString.ascii "connect") _ rfl,
      .mk [0x3F, 0xF0, 0, 0, 0, 0, 0, 0] [0x03] rfl⟩
  obtain rfl := hhead.rest_eq hhead'
  exact hvalues.not_unclosed (.last (.object .ending))

end Rtmp
