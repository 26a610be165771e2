import Strero.Rtmp.AmfRoundTrip
import Strero.Rtmp.Command

/-!
# Commands that are read to their end

A command is its name, a transaction number, a command object and further arguments, each an
AMF0 value. `rtmp_command_parse` gives them back, and the offset at which it stops is the end
of the payload.
-/

namespace Rtmp

open Wire CString Slices

/-! ### The offset at the end -/

/-- The argument loop of `rtmp_command_parse`, with the offset at which it stops. -/
def decodeArgumentsTo (buffer : List UInt8) : ℕ → ℕ → Except AmfFailure (List AmfValue × ℕ)
  | 0, _ => .error .outOfFuel
  | fuel + 1, offset => do
    if offset ≥ buffer.length then return ([], offset)
    let (argument, offset) ← amfDecodeValue buffer (buffer.length + 1) offset
    let (arguments, offset) ← decodeArgumentsTo buffer fuel offset
    return (argument :: arguments, offset)

/-- `rtmp_command_parse`, with the offset that it ends at. -/
def rtmpCommandParseTo (buffer : List UInt8) : Except AmfFailure (Command × ℕ) := do
  let (name, offset) ← amfDecodeValue buffer (buffer.length + 1) 0
  match name with
  | .string data =>
    let (transaction, offset) ← amfDecodeValue buffer (buffer.length + 1) offset
    match transaction with
    | .number transactionId =>
      let (commandObject, offset) ←
        if offset < buffer.length then amfDecodeValue buffer (buffer.length + 1) offset
        else pure (.number 0, offset)
      let (arguments, offset) ← decodeArgumentsTo buffer (buffer.length + 1) offset
      return (⟨cString data, transactionId, commandObject, arguments⟩, offset)
    | _ => throw .malformed
  | _ => throw .malformed

/-- The arguments are those of the loop. -/
theorem decodeArguments_eq_map (buffer : List UInt8) (fuel offset : ℕ) :
    decodeArguments buffer fuel offset = (decodeArgumentsTo buffer fuel offset).map Prod.fst := by
  induction fuel generalizing offset with
  | zero => rfl
  | succ fuel ih =>
    unfold decodeArgumentsTo decodeArguments
    split_ifs
    · rfl
    · cases amfDecodeValue buffer (buffer.length + 1) offset with
      | error e => rfl
      | ok argument =>
        rw [ok_bind, ok_bind]
        dsimp only
        rw [ih]
        cases decodeArgumentsTo buffer fuel argument.2 <;> rfl

/-- The command is that of `rtmp_command_parse`. -/
theorem rtmpCommandParse_eq_map (buffer : List UInt8) :
    rtmpCommandParse buffer = (rtmpCommandParseTo buffer).map Prod.fst := by
  unfold rtmpCommandParseTo rtmpCommandParse
  cases amfDecodeValue buffer (buffer.length + 1) 0 with
  | error e => rfl
  | ok name =>
    obtain ⟨name, afterName⟩ := name
    rw [ok_bind, ok_bind]
    cases name with
    | string data =>
      dsimp only
      cases amfDecodeValue buffer (buffer.length + 1) afterName with
      | error e => rfl
      | ok transaction =>
        obtain ⟨transaction, afterTransaction⟩ := transaction
        rw [ok_bind, ok_bind]
        cases transaction with
        | number transactionId =>
          have hrest : ∀ object : AmfValue × ℕ,
              (decodeArguments buffer (buffer.length + 1) object.2 >>= fun arguments =>
                pure (Command.mk (cString data) transactionId object.1 arguments)) =
              (decodeArgumentsTo buffer (buffer.length + 1) object.2 >>= fun arguments =>
                pure (Command.mk (cString data) transactionId object.1 arguments.1,
                  arguments.2)).map Prod.fst := by
            intro object
            rw [decodeArguments_eq_map]
            cases decodeArgumentsTo buffer (buffer.length + 1) object.2 <;> rfl
          dsimp only
          split_ifs
          · cases amfDecodeValue buffer (buffer.length + 1) afterTransaction with
            | error e => rfl
            | ok object => exact hrest object
          · exact hrest (.number 0, afterTransaction)
        | boolean | string | object | null | undefined => rfl
    | number | boolean | object | null | undefined => rfl

/-! ### Reading a command back -/

/-- Every value has a marker. -/
theorem AmfValue.encode_pos (value : AmfValue) : 0 < value.encode.length := by
  obtain ⟨marker, bytes, hencode, -⟩ := value.encode_eq_cons
  rw [hencode]
  exact Nat.succ_pos bytes.length

/-- A value that stands in the payload, with the fuel of `rtmp_command_parse`. -/
theorem amfDecodeValue_of_standsAt {buffer : List UInt8} {offset : ℕ} {value : AmfValue}
    (hvalue : value.WellFormed) (h : StandsAt buffer offset value.encode) :
    amfDecodeValue buffer (buffer.length + 1) offset =
      .ok (value, offset + value.encode.length) := by
  have hle := h.le_length
  exact amfDecodeValue_encode buffer (buffer.length + 1) offset value hvalue h (by omega)

/-- Arguments that stand at the end of the payload. -/
theorem decodeArgumentsTo_encode {buffer : List UInt8} {arguments : List AmfValue}
    (harguments : ∀ argument ∈ arguments, argument.WellFormed) {fuel offset : ℕ}
    (hfuel : (arguments.flatMap AmfValue.encode).length < fuel)
    (h : StandsAt buffer offset (arguments.flatMap AmfValue.encode))
    (hend : offset + (arguments.flatMap AmfValue.encode).length = buffer.length) :
    decodeArgumentsTo buffer fuel offset = .ok (arguments, buffer.length) := by
  induction arguments generalizing fuel offset with
  | nil =>
    obtain ⟨fuel, rfl⟩ : ∃ n, fuel = n + 1 := ⟨fuel - 1, by omega⟩
    obtain rfl : offset = buffer.length := hend
    rw [decodeArgumentsTo, if_pos le_rfl]
    rfl
  | cons argument arguments ih =>
    obtain ⟨fuel, rfl⟩ : ∃ n, fuel = n + 1 := ⟨fuel - 1, by omega⟩
    rw [List.forall_mem_cons] at harguments
    rw [List.flatMap_cons, List.length_append] at hfuel hend
    rw [List.flatMap_cons] at h
    obtain ⟨hfirst, hrest⟩ := standsAt_append.mp h
    have hpos := argument.encode_pos
    have hlater : decodeArgumentsTo buffer fuel (offset + argument.encode.length) =
        .ok (arguments, buffer.length) :=
      ih harguments.2 (by omega) hrest (by omega)
    rw [decodeArgumentsTo, if_neg (by omega), amfDecodeValue_of_standsAt harguments.1 hfirst,
      ok_bind]
    dsimp only
    rw [hlater]
    rfl

/-- A command is read back from its values, to the end of the payload. -/
theorem rtmpCommandParseTo_encode {name : List UInt8} (hname : (0 : UInt8) ∉ name)
    (hlength : name.length < 65536) (transactionId : UInt64) {commandObject : AmfValue}
    (hobject : commandObject.WellFormed) {arguments : List AmfValue}
    (harguments : ∀ argument ∈ arguments, argument.WellFormed) {payload : List UInt8}
    (hpayload : payload = amfEncodeString name ++ (amfEncodeNumber transactionId ++
      (commandObject.encode ++ arguments.flatMap AmfValue.encode))) :
    rtmpCommandParseTo payload =
      .ok (⟨name, transactionId, commandObject, arguments⟩, payload.length) := by
  have hself := standsAt_self payload
  have hpos := commandObject.encode_pos
  nth_rewrite 2 [hpayload] at hself
  obtain ⟨hfirst, hself⟩ := standsAt_append.mp hself
  obtain ⟨hsecond, hself⟩ := standsAt_append.mp hself
  obtain ⟨hthird, hfourth⟩ := standsAt_append.mp hself
  have hend := congrArg List.length hpayload
  simp only [List.length_append] at hend
  have hle := hthird.le_length
  have hdecodeName : amfDecodeValue payload (payload.length + 1) 0 =
      .ok (.string name, 0 + (amfEncodeString name).length) :=
    amfDecodeValue_of_standsAt hlength hfirst
  have hdecodeNumber : amfDecodeValue payload (payload.length + 1)
      (0 + (amfEncodeString name).length) = .ok (.number transactionId,
        0 + (amfEncodeString name).length + (amfEncodeNumber transactionId).length) :=
    amfDecodeValue_of_standsAt trivial hsecond
  have hdecodeObject := amfDecodeValue_of_standsAt hobject hthird
  have hdecodeRest : decodeArgumentsTo payload (payload.length + 1)
      (0 + (amfEncodeString name).length + (amfEncodeNumber transactionId).length +
        commandObject.encode.length) = .ok (arguments, payload.length) :=
    decodeArgumentsTo_encode harguments (by omega) hfourth (by omega)
  unfold rtmpCommandParseTo
  rw [hdecodeName, ok_bind]
  dsimp only
  rw [hdecodeNumber, ok_bind]
  dsimp only
  rw [if_pos (by omega), hdecodeObject, ok_bind]
  dsimp only
  rw [hdecodeRest, ok_bind, cString_of_notMem hname]
  rfl

end Rtmp
