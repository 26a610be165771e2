import Strero.Rtmp.CommandRoundTrip
import Strero.RtmpClient.Commands

/-!
# The server reads the commands of the client

Every encoder of the client appends the bytes of an AMF0 value to a buffer of fixed size, or
fails when they do not fit. So a command that was built is read back by `rtmp_command_parse`
as what it was built from.
-/

namespace RtmpClient

open Wire CString Slices Rtmp

/-! ### Building a command -/

/-- `rtmp_client_encode_string` of a pointer that may be NULL. -/
def encodeStringOrNull (bufferSize : ℕ) (buffer : List UInt8) :
    Option (List UInt8) → Option (List UInt8)
  | none => encodeByte bufferSize buffer 0x05
  | some string => rtmpClientEncodeString bufferSize buffer string

/-- The properties of an object between its start and its end, or a null in its place. -/
def encodeCommandObject (bufferSize : ℕ) (buffer : List UInt8) :
    Option (List (List UInt8 × PropertyValue)) → Option (List UInt8)
  | none => encodeByte bufferSize buffer 0x05
  | some properties => do
    let buffer ← rtmpClientEncodeObjectStart bufferSize buffer
    let buffer ← properties.foldlM (fun buffer property =>
      rtmpClientEncodeObjectProperty bufferSize buffer property.1 property.2) buffer
    rtmpClientEncodeObjectEnd bufferSize buffer

/-- The payload of a command, built encoder by encoder. -/
def encodeCommand (bufferSize : ℕ) (name : List UInt8) (transactionId : UInt64)
    (object : Option (List (List UInt8 × PropertyValue))) (further : List (Option (List UInt8))) :
    Option (List UInt8) := do
  let buffer ← rtmpClientEncodeString bufferSize [] name
  let buffer ← rtmpClientEncodeNumber bufferSize buffer transactionId
  let buffer ← encodeCommandObject bufferSize buffer object
  further.foldlM (encodeStringOrNull bufferSize) buffer

/-- The properties of the connect command. -/
def Target.connectProperties (t : Target) : List (List UInt8 × PropertyValue) :=
  [(ascii "app", .string t.app), (ascii "type", .string (ascii "nonprivate")),
    (ascii "flashVer", .string (ascii "FMLE/3.0")), (ascii "tcUrl", .string t.tcUrl)]

/-- The connect command is built so. -/
theorem connectCommand_eq (t : Target) : connectCommand t =
    encodeCommand 1024 (ascii "connect") 0x3FF0000000000000 (some t.connectProperties) [] := by
  simp only [connectCommand, encodeCommand, encodeCommandObject, Target.connectProperties,
    List.foldlM_cons, List.foldlM_nil, bind_assoc, bind_pure]

/-- So is the command that creates the stream. -/
theorem createStreamCommand_eq : createStreamCommand =
    encodeCommand 256 (ascii "createStream") 0x4000000000000000 none [] := by
  simp only [createStreamCommand, encodeCommand, encodeCommandObject, List.foldlM_nil, bind_pure]

/-- And the command that publishes, unless there is nothing to publish under. -/
theorem publishCommand_eq (t : Target) (h : t.publishName.length ≠ 0) : publishCommand t =
    encodeCommand 512 (ascii "publish") 0 none [some t.publishName, some (ascii "live")] := by
  simp only [publishCommand, if_neg h, encodeCommand, encodeCommandObject, List.foldlM_cons,
    List.foldlM_nil, encodeStringOrNull, bind_pure]

/-! ### The bytes of a command -/

section Encoders

variable {size : ℕ} {buffer : List UInt8}

/-- A string. -/
theorem rtmpClientEncodeString_eq (string : List UInt8) :
    rtmpClientEncodeString size buffer string =
      appendWithin size (amfEncodeString string) buffer := by
  have hle := Nat.mod_le string.length 65536
  apply ite_eq_appendWithin
  · rw [amfEncodeString_eq, List.length_cons, encodeText, List.length_append, putBe16_length,
      List.length_take, Nat.min_eq_left hle]
    omega
  · rw [List.append_assoc]
    rfl

/-- A number. -/
theorem rtmpClientEncodeNumber_eq (bits : UInt64) :
    rtmpClientEncodeNumber size buffer bits = appendWithin size (amfEncodeNumber bits) buffer :=
  ite_eq_appendWithin rfl rfl

/-- A byte. -/
theorem encodeByte_eq (byte : UInt8) :
    encodeByte size buffer byte = appendWithin size [byte] buffer :=
  ite_eq_appendWithin rfl rfl

/-- The end of an object. -/
theorem rtmpClientEncodeObjectEnd_eq :
    rtmpClientEncodeObjectEnd size buffer = appendWithin size amfEncodeObjectEnd buffer :=
  ite_eq_appendWithin rfl rfl

end Encoders

/-- The value of a property as the server sees it. A Boolean is sent as 0 or 1. -/
def PropertyValue.toAmf : PropertyValue → AmfValue
  | .string value => .string value
  | .number bits => .number bits
  | .boolean value => .boolean (if value ≠ 0 then 1 else 0)

/-- The value of a property, by its type. -/
theorem PropertyValue.encode_eq (size : ℕ) (buffer : List UInt8) (value : PropertyValue) :
    (match value with
      | .string value => rtmpClientEncodeString size buffer value
      | .number bits => rtmpClientEncodeNumber size buffer bits
      | .boolean value =>
        if buffer.length + 2 > size then none
        else some (buffer ++ [0x01, if value ≠ 0 then 1 else 0])) =
      appendWithin size value.toAmf.encode buffer := by
  cases value with
  | string value => exact rtmpClientEncodeString_eq value
  | number bits => exact rtmpClientEncodeNumber_eq bits
  | boolean value =>
    apply ite_eq_appendWithin
    · rfl
    · by_cases hvalue : value = 0 <;> simp [hvalue, PropertyValue.toAmf, AmfValue.encode,
        amfEncodeBoolean]

/-- The bytes of a property. -/
def encodeProperty (property : List UInt8 × PropertyValue) : List UInt8 :=
  encodeText property.1 ++ property.2.toAmf.encode

/-- A property. -/
theorem rtmpClientEncodeObjectProperty_eq (size : ℕ) (buffer : List UInt8)
    (property : List UInt8 × PropertyValue) :
    rtmpClientEncodeObjectProperty size buffer property.1 property.2 =
      appendWithin size (encodeProperty property) buffer := by
  obtain ⟨name, value⟩ := property
  have hle := Nat.mod_le name.length 65536
  have hlength : (encodeText name).length = 2 + name.length % 65536 := by
    rw [encodeText, List.length_append, putBe16_length, List.length_take, Nat.min_eq_left hle]
  unfold rtmpClientEncodeObjectProperty
  dsimp only
  rw [encodeProperty, ← appendWithin_bind]
  dsimp only
  split
  · rw [appendWithin, if_neg (by omega)]
    rfl
  · rw [appendWithin, if_pos (by omega), Option.bind_some, List.append_assoc]
    exact value.encode_eq size (buffer ++ encodeText name)

/-! ### The bytes of a whole command -/

/-- The command object as the server sees it. -/
def commandObject : Option (List (List UInt8 × PropertyValue)) → AmfValue
  | none => .null
  | some properties => .object (properties.map fun property => (property.1, property.2.toAmf))

/-- A further string, or a null, as the server sees it. -/
def furtherArgument : Option (List UInt8) → AmfValue
  | none => .null
  | some string => .string string

/-- The bytes of an object are those of its properties one after the other. -/
theorem flatMap_encodeProperty (properties : List (List UInt8 × PropertyValue)) :
    properties.flatMap encodeProperty =
      encodeProperties (properties.map fun property => (property.1, property.2.toAmf)) := by
  induction properties with
  | nil => rfl
  | cons property properties ih =>
    rw [List.flatMap_cons, ih, List.map_cons, encodeProperties, encodeProperty]

/-- The command object. -/
theorem encodeCommandObject_eq (size : ℕ) (buffer : List UInt8)
    (object : Option (List (List UInt8 × PropertyValue))) :
    encodeCommandObject size buffer object =
      appendWithin size (commandObject object).encode buffer := by
  cases object with
  | none => exact encodeByte_eq 0x05
  | some properties =>
    have hobject : (commandObject (some properties)).encode = amfEncodeObjectStart ++
        properties.flatMap encodeProperty ++ amfEncodeObjectEnd := by
      rw [flatMap_encodeProperty, commandObject, AmfValue.encode]
    rw [hobject, ← appendWithin_bind, ← appendWithin_foldlM, Option.bind_assoc]
    simp only [encodeCommandObject, rtmpClientEncodeObjectStart, encodeByte_eq,
      rtmpClientEncodeObjectProperty_eq, rtmpClientEncodeObjectEnd_eq]
    rfl

/-- A string or a null. -/
theorem encodeStringOrNull_eq (size : ℕ) (buffer : List UInt8) (string : Option (List UInt8)) :
    encodeStringOrNull size buffer string =
      appendWithin size (furtherArgument string).encode buffer := by
  cases string with
  | none => exact encodeByte_eq 0x05
  | some string => exact rtmpClientEncodeString_eq string

/-- A command is built exactly if its bytes fit into the buffer. -/
theorem encodeCommand_eq (size : ℕ) (name : List UInt8) (transactionId : UInt64)
    (object : Option (List (List UInt8 × PropertyValue))) (further : List (Option (List UInt8))) :
    encodeCommand size name transactionId object further =
      appendWithin size (amfEncodeString name ++ (amfEncodeNumber transactionId ++
        ((commandObject object).encode ++
          (further.map furtherArgument).flatMap AmfValue.encode))) [] := by
  have hfurther : (further.map furtherArgument).flatMap AmfValue.encode =
      further.flatMap fun string => (furtherArgument string).encode := List.flatMap_map ..
  have hstring : encodeStringOrNull size = fun buffer string =>
      appendWithin size (furtherArgument string).encode buffer :=
    funext₂ (encodeStringOrNull_eq size)
  rw [hfurther, ← List.append_assoc, ← List.append_assoc, ← appendWithin_foldlM,
    ← appendWithin_bind, ← appendWithin_bind, Option.bind_assoc, Option.bind_assoc]
  simp only [encodeCommand, rtmpClientEncodeString_eq, rtmpClientEncodeNumber_eq,
    encodeCommandObject_eq, hstring]
  rfl

/-- No command is empty. -/
theorem encodeCommand_ne_nil {size : ℕ} {name : List UInt8} {transactionId : UInt64}
    {object : Option (List (List UInt8 × PropertyValue))} {further : List (Option (List UInt8))}
    {payload : List UInt8}
    (h : encodeCommand size name transactionId object further = some payload) : payload ≠ [] := by
  rw [encodeCommand_eq, appendWithin_eq_some] at h
  rw [← h.2, amfEncodeString_eq]
  exact List.cons_ne_nil _ _

/-- A connect command is never empty. -/
theorem connectCommand_ne_nil {t : Target} {payload : List UInt8}
    (h : connectCommand t = some payload) : payload ≠ [] := by
  rw [connectCommand_eq] at h
  exact encodeCommand_ne_nil h

/-- A publish command is never empty. -/
theorem publishCommand_ne_nil {t : Target} {payload : List UInt8}
    (h : publishCommand t = some payload) : payload ≠ [] := by
  by_cases hname : t.publishName.length = 0
  · rw [publishCommand, if_pos hname] at h
    cases h
  · rw [publishCommand_eq t hname] at h
    exact encodeCommand_ne_nil h

/-! ### Agreement -/

/-- A property whose name and string fit into sixteen bits of length survives the encoding. -/
theorem wellFormedProperties_map {properties : List (List UInt8 × PropertyValue)}
    (h : ∀ property ∈ properties, property.1.length < 65536 ∧
      ∀ string, property.2 = .string string → string.length < 65536) :
    WellFormedProperties (properties.map fun property => (property.1, property.2.toAmf)) := by
  induction properties with
  | nil => trivial
  | cons property properties ih =>
    rw [List.forall_mem_cons] at h
    obtain ⟨⟨hname, hstring⟩, hrest⟩ := h
    refine ⟨hname, ?_, ih hrest⟩
    cases hvalue : property.2 with
    | string string => exact hstring string hvalue
    | number bits => trivial
    | boolean value =>
      change (if value ≠ 0 then (1 : UInt8) else 0) = 0 ∨ (if value ≠ 0 then (1 : UInt8) else 0) = 1
      split_ifs
      · exact .inr rfl
      · exact .inl rfl

/-- What the client built is read back to its end. -/
theorem rtmpCommandParseTo_encodeCommand {size : ℕ} {name : List UInt8}
    (hname : (0 : UInt8) ∉ name) (hlength : name.length < 65536) {transactionId : UInt64}
    {object : Option (List (List UInt8 × PropertyValue))}
    (hobject : ∀ properties ∈ object, ∀ property ∈ properties, property.1.length < 65536 ∧
      ∀ string, property.2 = .string string → string.length < 65536)
    {further : List (Option (List UInt8))}
    (hfurther : ∀ string, some string ∈ further → string.length < 65536) {payload : List UInt8}
    (h : encodeCommand size name transactionId object further = some payload) :
    rtmpCommandParseTo payload = .ok (⟨name, transactionId, commandObject object,
      further.map furtherArgument⟩, payload.length) := by
  rw [encodeCommand_eq, appendWithin_eq_some, List.nil_append] at h
  apply rtmpCommandParseTo_encode hname hlength transactionId _ _ h.2.symm
  · cases object with
    | none => trivial
    | some properties => exact wellFormedProperties_map (hobject properties rfl)
  · intro argument hargument
    obtain ⟨string, hmem, rfl⟩ := List.mem_map.mp hargument
    cases string with
    | none => trivial
    | some string => exact hfurther string hmem

/-- The server reads every command of the client as what it was built from: the same name, the
same number, the same properties in the same order, and the same further arguments. It stops at
the end of the payload. -/
theorem rtmpCommandParse_encodeCommand {size : ℕ} {name : List UInt8}
    (hname : (0 : UInt8) ∉ name) (hlength : name.length < 65536) {transactionId : UInt64}
    {object : Option (List (List UInt8 × PropertyValue))}
    (hobject : ∀ properties ∈ object, ∀ property ∈ properties, property.1.length < 65536 ∧
      ∀ string, property.2 = .string string → string.length < 65536)
    {further : List (Option (List UInt8))}
    (hfurther : ∀ string, some string ∈ further → string.length < 65536) {payload : List UInt8}
    (h : encodeCommand size name transactionId object further = some payload) :
    rtmpCommandParse payload = .ok ⟨name, transactionId, commandObject object,
      further.map furtherArgument⟩ ∧
    rtmpCommandParseTo payload = .ok (⟨name, transactionId, commandObject object,
      further.map furtherArgument⟩, payload.length) := by
  have hto := rtmpCommandParseTo_encodeCommand hname hlength hobject hfurther h
  refine ⟨?_, hto⟩
  rw [rtmpCommandParse_eq_map, hto]
  rfl

/-- A command with an object of three properties, a null and a further string. -/
def callPayload : List UInt8 :=
  [0x02, 0, 4, 99, 97, 108, 108, 0x00, 0x40, 0, 0, 0, 0, 0, 0, 0, 0x03, 0, 3, 97, 112, 112, 0x02,
    0, 4, 108, 105, 118, 101, 0, 4, 102, 112, 97, 100, 0x01, 0, 0, 1, 110, 0x00, 0x40, 0x59, 0, 0,
    0, 0, 0, 0, 0, 0, 0x09, 0x05, 0x02, 0, 1, 107]

theorem rtmpCommandParse_encodeCommand_call :
    rtmpCommandParse callPayload = .ok ⟨ascii "call", 0x4000000000000000,
      .object [(ascii "app", .string (ascii "live")), (ascii "fpad", .boolean 0),
        (ascii "n", .number 0x4059000000000000)], [.null, .string (ascii "k")]⟩ ∧
    rtmpCommandParseTo callPayload = .ok (⟨ascii "call", 0x4000000000000000,
      .object [(ascii "app", .string (ascii "live")), (ascii "fpad", .boolean 0),
        (ascii "n", .number 0x4059000000000000)], [.null, .string (ascii "k")]⟩, 57) := by
  have hpayload : encodeCommand 64 (ascii "call") 0x4000000000000000
      (some [(ascii "app", .string (ascii "live")), (ascii "fpad", .boolean 0),
        (ascii "n", .number 0x4059000000000000)]) [none, some (ascii "k")] = some callPayload := by
    decide +kernel
  apply rtmpCommandParse_encodeCommand (by decide) (by decide) _ _ hpayload
  · rintro _ ⟨⟩
    simp only [List.forall_mem_cons, List.not_mem_nil, false_imp_iff, implies_true, and_true]
    refine ⟨⟨by decide, ?_⟩, ⟨by decide, ?_⟩, by decide, ?_⟩
    · rintro _ ⟨⟩
      decide
    · rintro _ ⟨⟩
    · rintro _ ⟨⟩
  · intro string hstring
    simp only [List.mem_cons, reduceCtorEq, Option.some.injEq, List.not_mem_nil, or_false,
      false_or] at hstring
    subst hstring
    decide

/-! ### The commands of the client -/

/-- The connect command is read back with the app and the URL of the target. -/
theorem rtmpCommandParse_connectCommand {t : Target} (happ : t.app.length < 65536)
    {payload : List UInt8} (h : connectCommand t = some payload) :
    rtmpCommandParse payload = .ok ⟨ascii "connect", doubleOne,
      .object [(ascii "app", .string t.app), (ascii "type", .string (ascii "nonprivate")),
        (ascii "flashVer", .string (ascii "FMLE/3.0")), (ascii "tcUrl", .string t.tcUrl)], []⟩ := by
  rw [connectCommand_eq] at h
  have hurl : t.tcUrl.length < 65536 := by
    have hle : t.tcUrl.length ≤ 511 := List.length_take_le ..
    omega
  rw [rtmpCommandParse_eq_map, rtmpCommandParseTo_encodeCommand (by decide) (by decide) ?_ ?_ h]
  · rfl
  · rintro _ ⟨⟩
    simp only [Target.connectProperties, List.forall_mem_cons, List.not_mem_nil, false_imp_iff,
      implies_true, and_true]
    refine ⟨⟨by decide, ?_⟩, ⟨by decide, ?_⟩, ⟨by decide, ?_⟩, by decide, ?_⟩
    · rintro _ ⟨⟩
      exact happ
    · rintro _ ⟨⟩
      decide
    · rintro _ ⟨⟩
      decide
    · rintro _ ⟨⟩
      exact hurl
  · rintro _ ⟨⟩

/-- So the server takes the name of the app that the client was configured with. -/
theorem rtmpCommandHandle_connectCommand {t : Target} (happ : t.app.length < 65536)
    {payload : List UInt8} (h : connectCommand t = some payload) (conn : Connection) :
    ∃ command, rtmpCommandParse payload = .ok command ∧
      (rtmpCommandHandle conn command).1.appName = strncpy 256 t.app := by
  refine ⟨_, rtmpCommandParse_connectCommand happ h, ?_⟩
  unfold rtmpCommandHandle
  rw [if_pos rfl]
  rfl

end RtmpClient
