import Strero.ImpControl.Coherence
import Strero.ImpControl.Requests
import Strero.Lib.JsonSearch

/-!
# Answers with image parameters

The handlers answer with the parameters as JSON, and the handler of requests looks for the same
names in the text that it is given. So an answer is a copy of the parameters that can be sent back
at any later time: the parameters that are kept and the registers are then what they were.
-/

namespace ImpControl

open CString Json Registers Scanf

/-! ### What is printed -/

/-- `imp_control_day_night_mode_to_string`. -/
def dayNightModeToString : DayNightMode → List UInt8
  | .day => ascii "day"
  | .night => ascii "night"
  | .auto => ascii "auto"

/-- `imp_control_antiflicker_mode_to_string`. -/
def antiflickerModeToString : AntiflickerMode → List UInt8
  | .disable => ascii "disable"
  | .hz50 => ascii "50hz"
  | .hz60 => ascii "60hz"

/-- `imp_control_wb_mode_to_string`. -/
def wbModeToString : WbMode → List UInt8
  | .auto => ascii "auto"
  | .manual => ascii "manual"

/-- The name of a parameter in a text. -/
def Name.word : Name → List UInt8
  | .brightness => ascii "brightness"
  | .contrast => ascii "contrast"
  | .saturation => ascii "saturation"
  | .sharpness => ascii "sharpness"
  | .hue => ascii "hue"
  | .aeCompensation => ascii "ae_compensation"
  | .noiseReduction2d => ascii "noise_reduction_2d"
  | .noiseReduction3d => ascii "noise_reduction_3d"
  | .flipHorizontal => ascii "flip_horizontal"
  | .flipVertical => ascii "flip_vertical"
  | .dayNightMode => ascii "day_night_mode"
  | .antiFlicker => ascii "anti_flicker"
  | .backlightCompensation => ascii "backlight_compensation"
  | .highlightSuppression => ascii "highlight_suppression"
  | .whiteBalanceMode => ascii "white_balance_mode"
  | .whiteBalanceRGain => ascii "white_balance_r_gain"
  | .whiteBalanceBGain => ascii "white_balance_b_gain"
  | .drcStrength => ascii "drc_strength"
  | .defogStrength => ascii "defog_strength"

/-- The member for a parameter. -/
def Params.field (p : Params) (name : Name) : Field :=
  match name with
  | .brightness => .ofInt name.word p.brightness.toNat
  | .contrast => .ofInt name.word p.contrast.toNat
  | .saturation => .ofInt name.word p.saturation.toNat
  | .sharpness => .ofInt name.word p.sharpness.toNat
  | .hue => .ofInt name.word p.hue.toNat
  | .aeCompensation => .ofInt name.word p.aeCompensation.toNat
  | .noiseReduction2d => .ofInt name.word p.noiseReduction2d.toNat
  | .noiseReduction3d => .ofInt name.word p.noiseReduction3d.toNat
  | .flipHorizontal => .ofBool name.word p.flipHorizontal
  | .flipVertical => .ofBool name.word p.flipVertical
  | .dayNightMode => .ofString name.word (dayNightModeToString p.dayNightMode)
  | .antiFlicker => .ofString name.word (antiflickerModeToString p.antiFlicker)
  | .backlightCompensation => .ofInt name.word p.backlightCompensation.toNat
  | .highlightSuppression => .ofInt name.word p.highlightSuppression.toNat
  | .whiteBalanceMode => .ofString name.word (wbModeToString p.whiteBalanceMode)
  | .whiteBalanceRGain => .ofInt name.word p.whiteBalanceRGain.toNat
  | .whiteBalanceBGain => .ofInt name.word p.whiteBalanceBGain.toNat
  | .drcStrength => .ofInt name.word p.drcStrength.toNat
  | .defogStrength => .ofInt name.word p.defogStrength.toNat

/-- The order in which the parameters are printed. -/
def Name.all : List Name :=
  [.brightness, .contrast, .saturation, .sharpness, .hue, .aeCompensation, .noiseReduction2d,
    .noiseReduction3d, .flipHorizontal, .flipVertical, .dayNightMode, .antiFlicker,
    .backlightCompensation, .highlightSuppression, .whiteBalanceMode, .whiteBalanceRGain,
    .whiteBalanceBGain, .drcStrength, .defogStrength]

/-- The members that are printed. With a message there are two more. -/
def Params.fields (p : Params) (message : Option (List UInt8)) (now : Int64) : List Field :=
  (message.elim [] fun text =>
      [.ofBool (ascii "success") true, .ofString (ascii "message") text]) ++
    (Name.all.map p.field ++ [.ofInt (ascii "timestamp") now.toInt])

/-- The body that `send_params_json_response` sends, out of a buffer of 2048 bytes. -/
def sendParamsJsonResponse (p : Params) (message : Option (List UInt8)) (now : Int64) :
    List UInt8 :=
  (objectText (p.fields message now)).take 2047

/-! ### The handlers -/

/-- The requests to the module, that for a change with its body. Of a request to save it is known
whether the file can be written. -/
inductive Request
  | get
  | set (body : Option (List UInt8))
  | reset
  | save (written : Bool)

/-- An answer without parameters. -/
def errorText (reason : List UInt8) : List UInt8 := objectText [.ofString (ascii "error") reason]

/-- What an error may say. -/
def reasons : List (List UInt8) :=
  [ascii "Failed to get IMP parameters", ascii "Missing request body",
    ascii "Failed to set IMP parameters", ascii "Failed to reset IMP parameters",
    ascii "Failed to get current IMP parameters",
    ascii "Failed to save IMP parameters to configuration"]

/-- The handlers `imp_control_handle_get_params`, `imp_control_handle_set_params`,
`imp_control_handle_reset_params` and `imp_control_handle_save_params`: the body that each sends,
and the state behind it. -/
def State.handle (t31 : Bool) (s : State) (refuses : Register → Bool) (now : Int64) :
    Request → List UInt8 × State
  | .get =>
    match s.getParams t31 with
    | (none, s) => (errorText (ascii "Failed to get IMP parameters"), s)
    | (some p, s) => (sendParamsJsonResponse p none now, s)
  | .set none => (errorText (ascii "Missing request body"), s)
  | .set (some body) =>
    let set := s.handleSetParams t31 refuses body
    (if set.1 then sendParamsJsonResponse (requested body s.current) none now
      else errorText (ascii "Failed to set IMP parameters"), set.2)
  | .reset =>
    let reset := s.resetToDefaults t31 refuses
    (if reset.1 < 0 then errorText (ascii "Failed to reset IMP parameters")
      else sendParamsJsonResponse reset.2.config
        (some (ascii "IMP parameters reset to defaults")) now,
      reset.2)
  | .save written =>
    (match s.getParams t31 with
      | (none, _) => errorText (ascii "Failed to get current IMP parameters")
      | (some p, _) =>
        if written then
          sendParamsJsonResponse p (some (ascii "IMP parameters saved to configuration")) now
        else errorText (ascii "Failed to save IMP parameters to configuration"),
      s.save t31 written)

variable {t31 : Bool} {s : State} {refuses : Register → Bool} {now : Int64} {p : Params}
  {message : Option (List UInt8)}

/-! ### The members -/

theorem field_key (p : Params) (name : Name) : (p.field name).key = name.word := by
  cases name <;> rfl

/-- The handler looks for the name as it is printed. -/
theorem key_eq (name : Name) : name.key = memberKey name.word := by
  cases name <;> (rw [Name.key, Name.word, ascii_ofList, ascii_ofList]; decide)

theorem word_word (name : Name) : Word name.word ∧ name.word.length ≤ 22 := by
  cases name <;> (rw [Name.word, ascii_ofList]; decide)

theorem plain_dayNightModeToString (mode : DayNightMode) :
    Plain (dayNightModeToString mode) ∧ (dayNightModeToString mode).length ≤ 10 := by
  cases mode <;> (rw [dayNightModeToString, ascii_ofList]; decide)

theorem plain_antiflickerModeToString (mode : AntiflickerMode) :
    Plain (antiflickerModeToString mode) ∧ (antiflickerModeToString mode).length ≤ 10 := by
  cases mode <;> (rw [antiflickerModeToString, ascii_ofList]; decide)

theorem plain_wbModeToString (mode : WbMode) :
    Plain (wbModeToString mode) ∧ (wbModeToString mode).length ≤ 10 := by
  cases mode <;> (rw [wbModeToString, ascii_ofList]; decide)

theorem length_uchar_le (value : UInt8) : (printInt (value.toNat : ℤ)).length ≤ 20 := by
  have hlt := value.toNat_lt
  have hle := length_printInt_le (n := value.toNat) (k := 3) (by decide) (by omega)
  omega

theorem length_ushort_le (value : UInt16) : (printInt (value.toNat : ℤ)).length ≤ 20 := by
  have hlt := value.toNat_lt
  have hle := length_printInt_le (n := value.toNat) (k := 5) (by decide) (by omega)
  omega

/-- The largest integers have nineteen digits. -/
theorem length_int64_le (value : Int64) : (printInt value.toInt).length ≤ 20 := by
  have hlow := value.le_toInt
  have hhigh := value.toInt_lt
  exact length_printInt_le (by decide) (by omega)

theorem field_simple (p : Params) (name : Name) : (p.field name).Simple 60 := by
  obtain ⟨hword, hlength⟩ := word_word name
  have hint : ∀ m : ℤ, (printInt m).length ≤ 20 → (Field.ofInt name.word m).Simple 60 :=
    fun m hm => simple_ofInt hword (by omega)
  have hbool : ∀ b, (Field.ofBool name.word b).Simple 60 := fun b => simple_ofBool hword (by omega)
  have hstring : ∀ text, Plain text ∧ text.length ≤ 10 →
      (Field.ofString name.word text).Simple 60 :=
    fun text htext => simple_ofString hword htext.1 (by have := htext.2; omega)
  cases name with
  | flipHorizontal | flipVertical => exact hbool _
  | dayNightMode => exact hstring _ (plain_dayNightModeToString _)
  | antiFlicker => exact hstring _ (plain_antiflickerModeToString _)
  | whiteBalanceMode => exact hstring _ (plain_wbModeToString _)
  | whiteBalanceRGain | whiteBalanceBGain => exact hint _ (length_ushort_le _)
  | brightness | contrast | saturation | sharpness | hue | aeCompensation | noiseReduction2d
  | noiseReduction3d | backlightCompensation | highlightSuppression | drcStrength
  | defogStrength => exact hint _ (length_uchar_le _)

/-- A message that is printed is short and needs no escape. -/
def ShortMessage (message : Option (List UInt8)) : Prop :=
  ∀ text ∈ message, Plain text ∧ text.length ≤ 40

theorem fields_simple (hmessage : ShortMessage message) :
    ∀ f ∈ p.fields message now, f.Simple 60 := by
  intro f hf
  rw [Params.fields, List.mem_append, List.mem_append, List.mem_map, List.mem_singleton] at hf
  rcases hf with hf | ⟨name, -, rfl⟩ | rfl
  · cases message with
    | none => cases hf
    | some text =>
      obtain ⟨hplain, hlength⟩ := hmessage text rfl
      rw [Option.elim_some, List.mem_pair] at hf
      rcases hf with rfl | rfl
      · have hkey : Word (ascii "success") ∧ (ascii "success").length = 7 := by
          rw [ascii_ofList]
          decide
        exact simple_ofBool hkey.1 (by omega)
      · have hkey : Word (ascii "message") ∧ (ascii "message").length = 7 := by
          rw [ascii_ofList]
          decide
        exact simple_ofString hkey.1 hplain (by omega)
  · exact field_simple p name
  · have hkey : Word (ascii "timestamp") ∧ (ascii "timestamp").length = 9 := by
      rw [ascii_ofList]
      decide
    have hnow := length_int64_le now
    exact simple_ofInt hkey.1 (by omega)

theorem fields_keys : (p.fields message now).map Field.key =
    (if message.isSome then [ascii "success", ascii "message"] else []) ++
      (Name.all.map Name.word ++ [ascii "timestamp"]) := by
  cases message <;> rfl

/-- No name is printed twice. -/
theorem fields_nodup : ((p.fields message now).map Field.key).Nodup := by
  rw [fields_keys]
  simp only [Name.all, List.map_cons, List.map_nil, Name.word]
  repeat rw [ascii_ofList]
  cases message.isSome <;> decide +kernel

theorem length_fields_le : (p.fields message now).length ≤ 22 := by
  cases message <;> simp [Params.fields, Name.all]

theorem field_mem (p : Params) (name : Name) : p.field name ∈ p.fields message now := by
  have hall : name ∈ Name.all := by cases name <;> decide
  exact List.mem_append_right _ (List.mem_append_left _ (List.mem_map_of_mem hall))

/-- The text is not cut. -/
theorem sendParamsJsonResponse_eq (hmessage : ShortMessage message) :
    sendParamsJsonResponse p message now = objectText (p.fields message now) := by
  have hsimple : ∀ f ∈ p.fields message now, f.Simple 60 := fields_simple hmessage
  have hle := length_objectText_le hsimple
  have hcount : (p.fields message now).length ≤ 22 := length_fields_le
  exact List.take_of_length_le (by omega)

/-- Behind the name of a parameter stands its value. -/
theorem behind_answer (p : Params) (now : Int64) (hmessage : ShortMessage message)
    (name : Name) :
    ∃ c rest, (c = comma ∨ c = closeBrace) ∧
      behind (sendParamsJsonResponse p message now) name =
        some (((p.field name).text ++ c :: rest).dropWhile isSpace) := by
  have hsimple : ∀ f ∈ p.fields message now, f.Simple 60 := fields_simple hmessage
  obtain ⟨more, hfound⟩ := strstr_objectText (fun f hf => (hsimple f hf).searchable) fields_nodup
    (field_mem p name)
  obtain ⟨c, rest, hmore, hc⟩ := membersEnd_cons more
  refine ⟨c, rest, hc, ?_⟩
  rw [behind, sendParamsJsonResponse_eq hmessage, cString_objectText hsimple, key_eq,
    ← field_key p name, hfound, Option.map_some, List.drop_left, hmore]

/-! ### What is asked for -/

/-- What ends a value in an object does not go on with a number. -/
theorem endsNumber_of {c : UInt8} {rest : List UInt8} (hc : c = comma ∨ c = closeBrace) :
    EndsNumber (c :: rest) := by
  rintro _ ⟨⟩
  rcases hc with rfl | rfl <;> decide

/-- The number that stands in a text is converted. -/
theorem atoi_printInt (m : ℤ) {c : UInt8} {rest : List UInt8} (hc : c = comma ∨ c = closeBrace) :
    atoi ((printInt m ++ c :: rest).dropWhile isSpace) = m := by
  have hspace : (printInt m ++ c :: rest).dropWhile isSpace = printInt m ++ c :: rest := by
    obtain ⟨d, run, heq, hd⟩ := printInt_cons m
    rw [heq, List.cons_append]
    refine List.dropWhile_cons_of_neg ?_
    rcases hd with hdigit | rfl
    · simp [isSpace_of_isDigit hdigit]
    · decide
  rw [hspace, atoi, Scanner.scan, int_printInt m (endsNumber_of hc)]
  rfl

/-- A word is compared with the beginning of the text. -/
theorem take_boolText (b : Bool) (rest : List UInt8) :
    decide (((boolText b ++ rest).dropWhile isSpace).take 4 = ascii "true") = b := by
  have htrue : ascii "true" = [116, 114, 117, 101] := ascii_ofList _
  have hfalse : ascii "false" = [102, 97, 108, 115, 101] := ascii_ofList _
  cases b with
  | false =>
    rw [boolText, if_neg Bool.false_ne_true, hfalse, htrue]
    exact decide_eq_false (by simp [isSpace])
  | true =>
    rw [boolText, if_pos rfl, htrue]
    exact decide_eq_true (by simp [isSpace])

/-- A short text in quotation marks is copied. -/
theorem modeValue_stringText {s : List UInt8} (hquote : quote ∉ s) (hlength : s.length ≤ 10)
    (rest : List UInt8) : modeValue ((stringText s ++ rest).dropWhile isSpace) = s := by
  have hspace : (stringText s ++ rest).dropWhile isSpace = quote :: (s ++ quote :: rest) := by
    rw [stringText, List.cons_append, List.append_assoc, List.cons_append, List.nil_append]
    exact List.dropWhile_cons_of_neg (by decide)
  have hbyte : '"'.toUInt8 = quote := rfl
  have hall : ∀ c ∈ s, decide (c ≠ quote) = true := by
    intro c hc
    exact decide_eq_true fun h => hquote (h ▸ hc)
  rw [hspace, modeValue, hbyte, List.head?_cons, if_pos rfl, List.tail_cons,
    List.takeWhile_append_of_pos hall, List.takeWhile_cons_of_neg (by simp), List.append_nil,
    List.take_of_length_le (by omega)]

theorem stringToDayNightMode_toString (mode : DayNightMode) :
    stringToDayNightMode (dayNightModeToString mode) = mode := by
  unfold stringToDayNightMode dayNightModeToString
  repeat rw [ascii_ofList]
  cases mode <;> decide

theorem stringToAntiflickerMode_toString (mode : AntiflickerMode) :
    stringToAntiflickerMode (antiflickerModeToString mode) = mode := by
  unfold stringToAntiflickerMode antiflickerModeToString
  repeat rw [ascii_ofList]
  cases mode <;> decide

theorem stringToWbMode_toString (mode : WbMode) : stringToWbMode (wbModeToString mode) = mode := by
  unfold stringToWbMode wbModeToString
  repeat rw [ascii_ofList]
  cases mode <;> decide

theorem toUShort_toNat (value : UInt16) : toUShort (value.toNat : ℤ) = value := by
  have hlt := value.toNat_lt
  rw [← UInt16.toNat_inj, toUShort, UInt16.toNat_ofNat']
  omega

/-- What an answer says is what is asked for when it is sent back. -/
theorem requested_answer (hmessage : ShortMessage message) (current : Params) :
    requested (sendParamsJsonResponse p message now) current = p := by
  have huchar : ∀ (name : Name) (value : UInt8), (p.field name).text = printInt value.toNat →
      ∀ dest, ucharField (sendParamsJsonResponse p message now) name dest = value := by
    intro name value htext dest
    obtain ⟨c, rest, hc, hbehind⟩ := behind_answer p now hmessage name
    rw [ucharField, hbehind, Option.map_some, Option.getD_some, htext, atoi_printInt _ hc,
      toUChar_toNat]
  have hushort : ∀ (name : Name) (value : UInt16), (p.field name).text = printInt value.toNat →
      ∀ dest, ushortField (sendParamsJsonResponse p message now) name dest = value := by
    intro name value htext dest
    obtain ⟨c, rest, hc, hbehind⟩ := behind_answer p now hmessage name
    rw [ushortField, hbehind, Option.map_some, Option.getD_some, htext, atoi_printInt _ hc,
      toUShort_toNat]
  have hbool : ∀ (name : Name) (b : Bool), (p.field name).text = boolText b →
      ∀ dest, boolField (sendParamsJsonResponse p message now) name dest = b := by
    intro name b htext dest
    obtain ⟨c, rest, -, hbehind⟩ := behind_answer p now hmessage name
    rw [boolField, hbehind, Option.map_some, Option.getD_some, htext, take_boolText]
  have hmode : ∀ {α : Type} (convert : List UInt8 → α) (name : Name) (s : List UInt8),
      (p.field name).text = stringText s → Plain s ∧ s.length ≤ 10 →
      ∀ dest, modeField convert (sendParamsJsonResponse p message now) name dest = convert s := by
    intro α convert name s htext hs dest
    obtain ⟨c, rest, -, hbehind⟩ := behind_answer p now hmessage name
    rw [modeField, hbehind, Option.map_some, Option.getD_some, htext,
      modeValue_stringText hs.1.quote_notMem hs.2]
  rw [requested, huchar .brightness p.brightness rfl, huchar .contrast p.contrast rfl,
    huchar .saturation p.saturation rfl, huchar .sharpness p.sharpness rfl, huchar .hue p.hue rfl,
    huchar .aeCompensation p.aeCompensation rfl, huchar .noiseReduction2d p.noiseReduction2d rfl,
    huchar .noiseReduction3d p.noiseReduction3d rfl, hbool .flipHorizontal p.flipHorizontal rfl,
    hbool .flipVertical p.flipVertical rfl,
    hmode _ .dayNightMode _ rfl (plain_dayNightModeToString p.dayNightMode),
    stringToDayNightMode_toString, hmode _ .antiFlicker _ rfl
      (plain_antiflickerModeToString p.antiFlicker), stringToAntiflickerMode_toString,
    huchar .backlightCompensation p.backlightCompensation rfl,
    huchar .highlightSuppression p.highlightSuppression rfl,
    hmode _ .whiteBalanceMode _ rfl (plain_wbModeToString p.whiteBalanceMode),
    stringToWbMode_toString, hushort .whiteBalanceRGain p.whiteBalanceRGain rfl,
    hushort .whiteBalanceBGain p.whiteBalanceBGain rfl, huchar .drcStrength p.drcStrength rfl,
    huchar .defogStrength p.defogStrength rfl]

/-- Nothing is asked for by a text without the names. -/
theorem requested_none {body : List UInt8} (h : ∀ name, behind body name = none)
    (current : Params) : requested body current = current := by
  unfold requested ucharField ushortField boolField modeField
  simp only [h, Option.map_none, Option.getD_none]

/-! ### Sending an answer back -/

theorem errorText_simple {reason : List UInt8} (hreason : reason ∈ reasons) :
    ∀ f ∈ [Field.ofString (ascii "error") reason], f.Simple 60 := by
  have hall : ∀ reason ∈ reasons, Plain reason ∧ reason.length ≤ 50 := by
    unfold reasons
    repeat rw [ascii_ofList]
    decide +kernel
  obtain ⟨hplain, hlength⟩ := hall reason hreason
  intro f hf
  obtain rfl := List.mem_singleton.mp hf
  have hkey : Word (ascii "error") ∧ (ascii "error").length = 5 := by
    rw [ascii_ofList]
    decide
  exact simple_ofString hkey.1 hplain (by omega)

/-- An error has no parameters to be sent back. -/
theorem requested_errorText {reason : List UInt8} (hreason : reason ∈ reasons) (current : Params) :
    requested (errorText reason) current = current := by
  have hsimple := errorText_simple hreason
  refine requested_none (fun name => ?_) current
  have hnew : name.word ∉ [Field.ofString (ascii "error") reason].map Field.key := by
    have hne : name.word ≠ ascii "error" := by
      cases name <;> (rw [Name.word, ascii_ofList, ascii_ofList]; decide)
    exact fun hmem => hne (List.mem_singleton.mp hmem)
  rw [behind, errorText, cString_objectText hsimple, key_eq, strstr_objectText_of_notMem
    (fun f hf => (hsimple f hf).searchable) (word_word name).1.searchable hnew]
  rfl

/-- The text is a copy: whenever it is sent to the module, it is accepted if no register refuses
its value, and once it is accepted what is kept and the registers are as they were. -/
structure Restores (t31 : Bool) (text : List UInt8) (saved : State) : Prop where
  accepted : ∀ (later : State) refuses, later.initialized = true →
    (∀ r ∈ order t31, refuses r = false) → (later.handleSetParams t31 refuses text).1 = true
  kept : ∀ (later : State) refuses, (later.handleSetParams t31 refuses text).1 = true →
    (later.handleSetParams t31 refuses text).2.current = saved.current
  written : ∀ (later : State) refuses, (later.handleSetParams t31 refuses text).1 = true →
    ∀ r ∈ order t31, (later.handleSetParams t31 refuses text).2.isp r = saved.isp r

/-- A request that no register refuses is accepted. -/
theorem accepted_of_none {later : State} (hlive : later.initialized = true)
    (hnone : ∀ r ∈ order t31, refuses r = false) (text : List UInt8) :
    (later.handleSetParams t31 refuses text).1 = true := by
  have hok : (applyImpParams t31 refuses (requested text later.current) later.isp).1 = true :=
    writeAll_success_iff.mpr hnone
  unfold State.handleSetParams
  rw [setParams_eq hlive, if_pos hok]
  rfl

/-- The answer with the parameters that are kept is a copy of them and of the registers that hold
their settings. -/
theorem restores_answer (hmessage : ShortMessage message) (h : s.Holding (order t31)) :
    Restores t31 (sendParamsJsonResponse s.current message now) s where
  accepted later refuses hlive hnone := accepted_of_none hlive hnone _
  kept later refuses haccepted := by
    rw [(handle_accepted haccepted).1, requested_answer hmessage]
  written later refuses haccepted r hr := by
    rw [(handle_accepted haccepted).2 r hr, requested_answer hmessage, h r hr]

/-- What a body is: JSON, and either an error that asks for nothing or a copy of the state behind
the answer. -/
structure Answers (t31 : Bool) (body : List UInt8) (s : State) : Prop where
  json : ∃ members, Json.Text body (.object members)
  copy : (∃ reason ∈ reasons, body = errorText reason ∧
    ∀ current, requested body current = current) ∨ Restores t31 body s

theorem answers_error {reason : List UInt8} (hreason : reason ∈ reasons) (s : State) :
    Answers t31 (errorText reason) s where
  json := ⟨_, (closed_object fun f hf => (errorText_simple hreason f hf).sound).text⟩
  copy := .inl ⟨reason, hreason, rfl, requested_errorText hreason⟩

theorem answers_params (hmessage : ShortMessage message) (h : s.Holding (order t31))
    (hp : s.current = p) : Answers t31 (sendParamsJsonResponse p message now) s where
  json := by
    refine ⟨(p.fields message now).map Field.member, ?_⟩
    rw [sendParamsJsonResponse_eq hmessage]
    exact (closed_object fun f hf => (fields_simple hmessage f hf).sound).text
  copy := by
    rw [← hp]
    exact .inr (restores_answer hmessage h)

theorem shortMessage_none : ShortMessage none := fun _ hcontra => absurd hcontra (by simp)

theorem shortMessage_some {text : List UInt8} (h : Plain text ∧ text.length ≤ 40) :
    ShortMessage (some text) := by
  rintro _ ⟨⟩
  exact h

/-- The handler of requests answers with what it has applied. -/
theorem answers_set (s : State) (refuses : Register → Bool) (now : Int64) (body : List UInt8) :
    Answers t31 (s.handle t31 refuses now (.set (some body))).1
      (s.handle t31 refuses now (.set (some body))).2 := by
  unfold State.handle
  dsimp only
  by_cases haccepted : (s.handleSetParams t31 refuses body).1 = true
  · obtain ⟨hcurrent, hwritten⟩ := handle_accepted haccepted
    rw [if_pos haccepted]
    refine answers_params shortMessage_none (fun r hr => ?_) hcurrent
    rw [hwritten r hr, hcurrent]
  · rw [if_neg haccepted]
    exact answers_error (by simp [reasons]) _

/-- The defaults are applied before they are answered with. -/
theorem answers_reset (s : State) (refuses : Register → Bool) (now : Int64) :
    Answers t31 (s.handle t31 refuses now .reset).1 (s.handle t31 refuses now .reset).2 := by
  unfold State.handle State.resetToDefaults
  dsimp only
  cases hinit : s.initialized with
  | false => exact answers_error (by simp [reasons]) _
  | true =>
    simp only [Bool.not_true, Bool.false_eq_true, if_false]
    rw [setParams_eq hinit]
    by_cases hok : (applyImpParams t31 refuses s.config s.isp).1 = true
    · rw [if_pos hok]
      have hnone : ∀ r ∈ ([] : List Register), r ∈ order t31 :=
        fun _ hmem => absurd hmem List.not_mem_nil
      have hall := holding_of_accepted hok hnone
      rw [List.nil_append, written_of_success hok] at hall
      exact answers_params (shortMessage_some (by rw [ascii_ofList]; decide)) hall rfl
    · rw [if_neg hok]
      exact answers_error (by simp [reasons]) _

/-- What is saved has been read before. -/
theorem answers_save (h : s.Holding (order t31)) (refuses : Register → Bool) (now : Int64)
    (written : Bool) :
    Answers t31 (s.handle t31 refuses now (.save written)).1
      (s.handle t31 refuses now (.save written)).2 := by
  unfold State.handle State.save
  dsimp only
  cases hinit : s.initialized with
  | false =>
    rw [getParams_uninitialized hinit]
    exact answers_error (by simp [reasons]) _
  | true =>
    have hread := h.getParams t31
    rw [getParams_eq hinit] at hread ⊢
    cases written with
    | false => exact answers_error (by simp [reasons]) _
    | true => exact answers_params (shortMessage_some (by rw [ascii_ofList]; decide)) hread rfl

/-- If the registers hold the settings of what is kept, then every handler answers with JSON, and
unless it reports an error its answer is a copy: sent back at any later time, whatever has been
changed, saved, reset or started again since, it brings back the parameters and the registers that
there were when it was sent. -/
theorem handle_answers (h : s.Holding (order t31)) (refuses : Register → Bool) (now : Int64)
    (request : Request) :
    Answers t31 (s.handle t31 refuses now request).1 (s.handle t31 refuses now request).2 := by
  cases request with
  | get =>
    cases hinit : s.initialized with
    | false =>
      rw [State.handle, getParams_uninitialized hinit]
      exact answers_error (by simp [reasons]) _
    | true =>
      have hread := h.getParams t31
      rw [getParams_eq hinit] at hread
      rw [State.handle, getParams_eq hinit]
      exact answers_params shortMessage_none hread rfl
  | set body =>
    cases body with
    | none => exact answers_error (by simp [reasons]) s
    | some body => exact answers_set s refuses now body
  | reset => exact answers_reset s refuses now
  | save written => exact answers_save h refuses now written

/-- The module after its start with the defaults. -/
def startedState : State := (readyState.start true noneRefuses).2

/-- The answer to a change of the brightness. -/
theorem handle_answers_brightness :
    startedState.Holding (order true) ∧
      Answers true
        (startedState.handle true noneRefuses 1700000000
          (.set (some (ascii "\x7b\"brightness\":100\x7d")))).1
        (startedState.handle true noneRefuses 1700000000
          (.set (some (ascii "\x7b\"brightness\":100\x7d")))).2 :=
  have hholding : startedState.Holding (order true) := by
    intro r hr
    cases r <;> rfl
  ⟨hholding, handle_answers hholding noneRefuses 1700000000
    (.set (some (ascii "\x7b\"brightness\":100\x7d")))⟩

end ImpControl
