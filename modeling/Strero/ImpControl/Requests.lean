import Strero.ImpControl.Setters
import Strero.Lib.CString
import Strero.Lib.Scanf

/-!
# Requests for image parameters

The handler looks for the name of each parameter in the body, converts the number behind it and
narrows it to the type of the parameter, and only then are the parameters validated. A number out
of range is refused by nobody.
-/

namespace ImpControl

open CString Registers Scanf

/-! ### The parser -/

/-- `imp_control_string_to_day_night_mode`. -/
def stringToDayNightMode (str : List UInt8) : DayNightMode :=
  if str = ascii "day" then .day
  else if str = ascii "night" then .night
  else if str = ascii "auto" then .auto
  else .auto

/-- `imp_control_string_to_antiflicker_mode`. -/
def stringToAntiflickerMode (str : List UInt8) : AntiflickerMode :=
  if str = ascii "50hz" then .hz50
  else if str = ascii "60hz" then .hz60
  else if str = ascii "disable" then .disable
  else .disable

/-- `imp_control_string_to_wb_mode`. -/
def stringToWbMode (str : List UInt8) : WbMode :=
  if str = ascii "manual" then .manual
  else if str = ascii "auto" then .auto
  else .auto

/-- The names of the parameters. -/
inductive Name
  | brightness | contrast | saturation | sharpness | hue | aeCompensation | noiseReduction2d
  | noiseReduction3d | flipHorizontal | flipVertical | dayNightMode | antiFlicker
  | backlightCompensation | highlightSuppression | whiteBalanceMode | whiteBalanceRGain
  | whiteBalanceBGain | drcStrength | defogStrength
deriving DecidableEq, Repr

/-- What the handler looks for. -/
def Name.key : Name → List UInt8
  | .brightness => ascii "\"brightness\":"
  | .contrast => ascii "\"contrast\":"
  | .saturation => ascii "\"saturation\":"
  | .sharpness => ascii "\"sharpness\":"
  | .hue => ascii "\"hue\":"
  | .aeCompensation => ascii "\"ae_compensation\":"
  | .noiseReduction2d => ascii "\"noise_reduction_2d\":"
  | .noiseReduction3d => ascii "\"noise_reduction_3d\":"
  | .flipHorizontal => ascii "\"flip_horizontal\":"
  | .flipVertical => ascii "\"flip_vertical\":"
  | .dayNightMode => ascii "\"day_night_mode\":"
  | .antiFlicker => ascii "\"anti_flicker\":"
  | .backlightCompensation => ascii "\"backlight_compensation\":"
  | .highlightSuppression => ascii "\"highlight_suppression\":"
  | .whiteBalanceMode => ascii "\"white_balance_mode\":"
  | .whiteBalanceRGain => ascii "\"white_balance_r_gain\":"
  | .whiteBalanceBGain => ascii "\"white_balance_b_gain\":"
  | .drcStrength => ascii "\"drc_strength\":"
  | .defogStrength => ascii "\"defog_strength\":"

/-- What stands behind the first occurrence of the key, without white space. -/
def behind (body : List UInt8) (name : Name) : Option (List UInt8) :=
  (strstr (cString body) name.key).map fun found =>
    (found.drop name.key.length).dropWhile isSpace

/-- `(unsigned short)` of an int. -/
def toUShort (n : ℤ) : UInt16 := UInt16.ofNat (n % 65536).toNat

/-- The value of a text in quotation marks, as far as there is room for it. -/
def modeValue (text : List UInt8) : List UInt8 :=
  let text := if text.head? = some '"'.toUInt8 then text.tail else text
  (text.takeWhile (· ≠ '"'.toUInt8)).take 15

/-- A parameter of the type `unsigned char`. -/
def ucharField (body : List UInt8) (name : Name) (dest : UInt8) : UInt8 :=
  ((behind body name).map fun text => toUChar (atoi text)).getD dest

/-- A parameter of the type `unsigned short`. -/
def ushortField (body : List UInt8) (name : Name) (dest : UInt16) : UInt16 :=
  ((behind body name).map fun text => toUShort (atoi text)).getD dest

/-- A parameter of the type `bool`. -/
def boolField (body : List UInt8) (name : Name) (dest : Bool) : Bool :=
  ((behind body name).map fun text => decide (text.take 4 = ascii "true")).getD dest

/-- A parameter that is a mode. -/
def modeField {α : Type} (convert : List UInt8 → α) (body : List UInt8) (name : Name) (dest : α) :
    α :=
  ((behind body name).map fun text => convert (modeValue text)).getD dest

/-- The parameters that a body asks for, over those that are kept. -/
def requested (body : List UInt8) (current : Params) : Params where
  brightness := ucharField body .brightness current.brightness
  contrast := ucharField body .contrast current.contrast
  saturation := ucharField body .saturation current.saturation
  sharpness := ucharField body .sharpness current.sharpness
  hue := ucharField body .hue current.hue
  aeCompensation := ucharField body .aeCompensation current.aeCompensation
  noiseReduction2d := ucharField body .noiseReduction2d current.noiseReduction2d
  noiseReduction3d := ucharField body .noiseReduction3d current.noiseReduction3d
  flipHorizontal := boolField body .flipHorizontal current.flipHorizontal
  flipVertical := boolField body .flipVertical current.flipVertical
  dayNightMode := modeField stringToDayNightMode body .dayNightMode current.dayNightMode
  antiFlicker := modeField stringToAntiflickerMode body .antiFlicker current.antiFlicker
  backlightCompensation := ucharField body .backlightCompensation current.backlightCompensation
  highlightSuppression := ucharField body .highlightSuppression current.highlightSuppression
  whiteBalanceMode := modeField stringToWbMode body .whiteBalanceMode current.whiteBalanceMode
  whiteBalanceRGain := ushortField body .whiteBalanceRGain current.whiteBalanceRGain
  whiteBalanceBGain := ushortField body .whiteBalanceBGain current.whiteBalanceBGain
  drcStrength := ucharField body .drcStrength current.drcStrength
  defogStrength := ucharField body .defogStrength current.defogStrength

/-- `imp_control_handle_set_params`, with whether the answer reports success. -/
def State.handleSetParams (t31 : Bool) (s : State) (refuses : Register → Bool)
    (body : List UInt8) : Bool × State :=
  let set := s.setParams t31 refuses (requested body s.current)
  (decide (0 ≤ set.1), set.2)

/-! ### Ranges -/

/-- The largest value in the range that the header documents for a number. -/
def Name.maximum : Name → Option ℕ
  | .flipHorizontal | .flipVertical | .dayNightMode | .antiFlicker | .whiteBalanceMode => none
  | .backlightCompensation | .highlightSuppression => some 10
  | .whiteBalanceRGain | .whiteBalanceBGain => some 1023
  | _ => some 255

/-- The value of a parameter. A mode has the value of its constant. -/
def Params.value (p : Params) : Name → ℕ
  | .brightness => p.brightness.toNat
  | .contrast => p.contrast.toNat
  | .saturation => p.saturation.toNat
  | .sharpness => p.sharpness.toNat
  | .hue => p.hue.toNat
  | .aeCompensation => p.aeCompensation.toNat
  | .noiseReduction2d => p.noiseReduction2d.toNat
  | .noiseReduction3d => p.noiseReduction3d.toNat
  | .flipHorizontal => p.flipHorizontal.toNat
  | .flipVertical => p.flipVertical.toNat
  | .dayNightMode => p.dayNightMode.ctorIdx
  | .antiFlicker => p.antiFlicker.ctorIdx
  | .backlightCompensation => p.backlightCompensation.toNat
  | .highlightSuppression => p.highlightSuppression.toNat
  | .whiteBalanceMode => p.whiteBalanceMode.ctorIdx
  | .whiteBalanceRGain => p.whiteBalanceRGain.toNat
  | .whiteBalanceBGain => p.whiteBalanceBGain.toNat
  | .drcStrength => p.drcStrength.toNat
  | .defogStrength => p.defogStrength.toNat

/-- The integer that a body gives for a parameter. -/
def given (body : List UInt8) (name : Name) : Option ℤ := (behind body name).bind int.scan

/-- Some integer of the body is out of the range of its parameter. -/
def OutOfRange (body : List UInt8) : Prop :=
  ∃ (name : Name) (largest : ℕ) (n : ℤ), name.maximum = some largest ∧ given body name = some n ∧
    ¬(0 ≤ n ∧ n ≤ (largest : ℤ))

/-- The parameters that are kept and those of the registers are what the body asks for, and what
was kept where it does not name a parameter. -/
structure Applies (t31 : Bool) (body : List UInt8) (s s' : State) : Prop where
  given : ∀ (name : Name) (largest : ℕ) (n : ℤ), name.maximum = some largest →
    ImpControl.given body name = some n →
    (s'.current.value name : ℤ) = n
  kept : ∀ name, behind body name = none → s'.current.value name = s.current.value name
  written : ∀ r ∈ order t31, s'.isp r = s'.current.settings r

/-- An integer out of range has the request refused without a change, and otherwise a request
that is accepted is carried out. -/
structure RangeChecked (t31 : Bool) (body : List UInt8) (s : State) (answer : Bool × State) :
    Prop where
  refused : OutOfRange body →
    answer.1 = false ∧ answer.2.isp = s.isp ∧ answer.2.current = s.current
  applied : ¬OutOfRange body → answer.1 = true → Applies t31 body s answer.2

variable {t31 : Bool} {s : State} {refuses : Register → Bool} {body : List UInt8} {name : Name}
  {n : ℤ}

/-- The number behind a name is the one that is converted. -/
theorem exists_behind (h : given body name = some n) :
    ∃ text, behind body name = some text ∧ atoi text = n := by
  obtain ⟨text, htext, hscan⟩ := Option.bind_eq_some_iff.mp h
  refine ⟨text, htext, ?_⟩
  unfold atoi
  rw [hscan, Option.getD_some]

theorem ucharField_given (h : given body name = some n) (hlow : 0 ≤ n) (hhigh : n ≤ 255)
    (dest : UInt8) : ((ucharField body name dest).toNat : ℤ) = n := by
  obtain ⟨text, htext, hn⟩ := exists_behind h
  unfold ucharField
  rw [htext, Option.map_some, Option.getD_some, hn]
  unfold toUChar
  rw [Int.emod_eq_of_lt hlow (by omega), UInt8.toNat_ofNat']
  omega

theorem ushortField_given (h : given body name = some n) (hlow : 0 ≤ n) (hhigh : n ≤ 1023)
    (dest : UInt16) : ((ushortField body name dest).toNat : ℤ) = n := by
  obtain ⟨text, htext, hn⟩ := exists_behind h
  unfold ushortField
  rw [htext, Option.map_some, Option.getD_some, hn]
  unfold toUShort
  rw [Int.emod_eq_of_lt hlow (by omega), UInt16.toNat_ofNat']
  omega

/-- A number in range is the one that is asked for. -/
theorem requested_given {largest : ℕ} (current : Params) (hmaximum : name.maximum = some largest)
    (h : given body name = some n) (hlow : 0 ≤ n) (hhigh : n ≤ largest) :
    ((requested body current).value name : ℤ) = n := by
  cases name with
  | flipHorizontal | flipVertical | dayNightMode | antiFlicker | whiteBalanceMode =>
    cases hmaximum
  | whiteBalanceRGain | whiteBalanceBGain =>
    cases hmaximum
    exact ushortField_given h hlow hhigh _
  | backlightCompensation | highlightSuppression =>
    cases hmaximum
    exact ucharField_given h hlow (by omega) _
  | brightness | contrast | saturation | sharpness | hue | aeCompensation | noiseReduction2d
  | noiseReduction3d | drcStrength | defogStrength =>
    cases hmaximum
    exact ucharField_given h hlow hhigh _

/-- A parameter that is not named is asked for as it is. -/
theorem requested_kept (current : Params) (h : behind body name = none) :
    (requested body current).value name = current.value name := by
  have huchar : ∀ dest, ucharField body name dest = dest := by
    intro dest
    unfold ucharField
    rw [h]
    rfl
  have hushort : ∀ dest, ushortField body name dest = dest := by
    intro dest
    unfold ushortField
    rw [h]
    rfl
  have hbool : ∀ dest, boolField body name dest = dest := by
    intro dest
    unfold boolField
    rw [h]
    rfl
  have hmode : ∀ {α : Type} (convert : List UInt8 → α) dest,
      modeField convert body name dest = dest := by
    intro α convert dest
    unfold modeField
    rw [h]
    rfl
  cases name with
  | flipHorizontal | flipVertical => exact congrArg Bool.toNat (hbool _)
  | dayNightMode => exact congrArg DayNightMode.ctorIdx (hmode _ _)
  | antiFlicker => exact congrArg AntiflickerMode.ctorIdx (hmode _ _)
  | whiteBalanceMode => exact congrArg WbMode.ctorIdx (hmode _ _)
  | whiteBalanceRGain | whiteBalanceBGain => exact congrArg UInt16.toNat (hushort _)
  | brightness | contrast | saturation | sharpness | hue | aeCompensation | noiseReduction2d
  | noiseReduction3d | backlightCompensation | highlightSuppression | drcStrength
  | defogStrength => exact congrArg UInt8.toNat (huchar _)

/-- What a request does that is accepted. -/
theorem handle_accepted (h : (s.handleSetParams t31 refuses body).1 = true) :
    (s.handleSetParams t31 refuses body).2.current = requested body s.current ∧
      ∀ r ∈ order t31, (s.handleSetParams t31 refuses body).2.isp r =
        (requested body s.current).settings r := by
  unfold State.handleSetParams State.setParams applyImpParams at h ⊢
  dsimp only at h ⊢
  cases hinit : s.initialized with
  | false => simp [hinit] at h
  | true =>
    generalize requested body s.current = p at h ⊢
    cases hok : (writeAll refuses p.settings (order t31) s.isp).1 with
    | false => simp [hinit, hok] at h
    | true =>
      simp only [Bool.not_true, Bool.false_eq_true, if_false, validateParams_eq_true, if_true]
      exact ⟨trivial, fun r hr => writeAll_of_mem ((written_of_success hok).symm ▸ hr)⟩

/-- The request fails without a change: the module is not initialised, or a register refuses its
value and those before it hold theirs already. -/
def FailsUnchanged (t31 : Bool) (s : State) (refuses : Register → Bool) (body : List UInt8) :
    Prop :=
  s.initialized = false ∨ (∃ r ∈ order t31, refuses r = true) ∧
    Holds (requested body s.current).settings (written refuses (order t31)) s.isp

theorem failsUnchanged_iff : FailsUnchanged t31 s refuses body ↔
    (s.handleSetParams t31 refuses body).1 = false ∧
      (s.handleSetParams t31 refuses body).2.isp = s.isp ∧
      (s.handleSetParams t31 refuses body).2.current = s.current := by
  unfold FailsUnchanged State.handleSetParams State.setParams applyImpParams
  dsimp only
  cases hinit : s.initialized with
  | false => simp
  | true =>
    generalize requested body s.current = p
    simp only [Bool.not_true, Bool.false_eq_true, if_false, validateParams_eq_true,
      Bool.true_eq_false, false_or]
    have hrefuses : (∃ r ∈ order t31, refuses r = true) ↔
        ¬(writeAll refuses p.settings (order t31) s.isp).1 = true := by
      rw [writeAll_success_iff]
      simp
    rw [hrefuses]
    cases hok : (writeAll refuses p.settings (order t31) s.isp).1 with
    | true => simp
    | false => simp [writeAll_eq_self_iff]

/-- A request is range checked exactly if every integer in it is in range, or it fails for
another reason without a change. -/
theorem request_rangeChecked_iff (t31 : Bool) (s : State) (refuses : Register → Bool)
    (body : List UInt8) :
    RangeChecked t31 body s (s.handleSetParams t31 refuses body) ↔
      ¬OutOfRange body ∨ FailsUnchanged t31 s refuses body := by
  constructor
  · rintro ⟨hrefused, -⟩
    by_cases hout : OutOfRange body
    · exact .inr (failsUnchanged_iff.mpr (hrefused hout))
    · exact .inl hout
  · intro h
    refine ⟨fun hout => failsUnchanged_iff.mp (h.resolve_left (not_not_intro hout)),
      fun hrange haccepted => ?_⟩
    obtain ⟨hcurrent, hwritten⟩ := handle_accepted haccepted
    refine ⟨fun name largest n hmaximum hgiven => ?_, fun name hnone => ?_, fun r hr => ?_⟩
    · have hin : 0 ≤ n ∧ n ≤ (largest : ℤ) := by
        by_contra hnot
        exact hrange ⟨name, largest, n, hmaximum, hgiven, hnot⟩
      rw [hcurrent]
      exact requested_given s.current hmaximum hgiven hin.1 hin.2
    · rw [hcurrent]
      exact requested_kept s.current hnone
    · rw [hcurrent]
      exact hwritten r hr

/-- A brightness that is too large. -/
def brightBody : List UInt8 := ascii "\x7b\"brightness\":300\x7d"

/-- The module after its initialisation with the defaults. -/
def readyState : State := ((State.first Params.zeroed.settings).init .defaults true).2

/-- A brightness of 300 is accepted, and 44 is applied. -/
theorem not_brightBody_rangeChecked :
    ¬RangeChecked true brightBody readyState
      (readyState.handleSetParams true noneRefuses brightBody) := by
  intro h
  have hout : OutOfRange brightBody :=
    ⟨.brightness, 255, 300, rfl, by decide +kernel, by decide⟩
  exact absurd (h.refused hout).1 (by decide +kernel)

end ImpControl
