import Strero.Lib.Registers

/-!
# Image parameters

The image control module keeps the parameters that it has applied, and the signal processor has
a register for each of them. A register may say less than the parameter does: it has no automatic
day and night mode, and in automatic white balance it has gains of its own.
-/

namespace ImpControl

open Registers

/-- `imp_control_day_night_mode_t`. -/
inductive DayNightMode
  | day | night | auto
deriving DecidableEq, Repr

/-- `imp_control_antiflicker_mode_t`, and the `IMPISPAntiflickerAttr` for each. -/
inductive AntiflickerMode
  | disable | hz50 | hz60
deriving DecidableEq, Repr

/-- `imp_control_wb_mode_t`, and the `mode` of an `IMPISPWB` for each. -/
inductive WbMode
  | auto | manual
deriving DecidableEq, Repr

/-- `imp_control_params_t`. An `imp_control_config_t` has the same fields. -/
structure Params where
  brightness : UInt8
  contrast : UInt8
  saturation : UInt8
  sharpness : UInt8
  hue : UInt8
  aeCompensation : UInt8
  noiseReduction2d : UInt8
  noiseReduction3d : UInt8
  flipHorizontal : Bool
  flipVertical : Bool
  dayNightMode : DayNightMode
  antiFlicker : AntiflickerMode
  backlightCompensation : UInt8
  highlightSuppression : UInt8
  whiteBalanceMode : WbMode
  whiteBalanceRGain : UInt16
  whiteBalanceBGain : UInt16
  drcStrength : UInt8
  defogStrength : UInt8
deriving DecidableEq

/-- `imp_control_set_defaults`. -/
def Params.defaults : Params where
  brightness := 128
  contrast := 128
  saturation := 128
  sharpness := 128
  hue := 128
  aeCompensation := 128
  noiseReduction2d := 128
  noiseReduction3d := 128
  flipHorizontal := false
  flipVertical := false
  dayNightMode := .auto
  antiFlicker := .disable
  backlightCompensation := 0
  highlightSuppression := 0
  whiteBalanceMode := .auto
  whiteBalanceRGain := 256
  whiteBalanceBGain := 256
  drcStrength := 128
  defogStrength := 0

/-- The parameters after `memset` to zero. -/
def Params.zeroed : Params where
  brightness := 0
  contrast := 0
  saturation := 0
  sharpness := 0
  hue := 0
  aeCompensation := 0
  noiseReduction2d := 0
  noiseReduction3d := 0
  flipHorizontal := false
  flipVertical := false
  dayNightMode := .day
  antiFlicker := .disable
  backlightCompensation := 0
  highlightSuppression := 0
  whiteBalanceMode := .auto
  whiteBalanceRGain := 0
  whiteBalanceBGain := 0
  drcStrength := 0
  defogStrength := 0

/-! ### The signal processor -/

/-- What the setters `IMP_ISP_Tuning_Set...` write. -/
inductive Register
  | brightness | contrast | saturation | sharpness | bcshHue | aeComp | sinterStrength
  | temperStrength | ispHflip | ispVflip | ispRunningMode | antiFlickerAttr | backlightComp
  | hiLightDepress | wb | drcStrength | defogStrength
deriving DecidableEq, Repr

/-- `IMPISPRunningMode`. -/
inductive RunningMode
  | day | night
deriving DecidableEq, Repr

/-- `IMPISPWB`. -/
structure WbAttr where
  mode : WbMode
  rgain : UInt16
  bgain : UInt16
deriving DecidableEq, Repr

/-- What a register holds. -/
def Register.Setting : Register → Type
  | .aeComp | .backlightComp | .hiLightDepress => ℤ
  | .ispHflip | .ispVflip => Bool
  | .ispRunningMode => RunningMode
  | .antiFlickerAttr => AntiflickerMode
  | .wb => WbAttr
  | _ => UInt8

/-- The registers of the signal processor. -/
abbrev Isp := (r : Register) → r.Setting

/-- The mode that is set for a day and night mode. -/
def DayNightMode.running : DayNightMode → RunningMode
  | .night => .night
  | _ => .day

/-- The attributes that are set for the white balance. -/
def Params.wbAttr (p : Params) : WbAttr :=
  match p.whiteBalanceMode with
  | .manual => ⟨.manual, p.whiteBalanceRGain, p.whiteBalanceBGain⟩
  | .auto => ⟨.auto, 256, 256⟩

/-- What `apply_imp_params` writes into each register. -/
def Params.settings (p : Params) : Isp
  | .brightness => p.brightness
  | .contrast => p.contrast
  | .saturation => p.saturation
  | .sharpness => p.sharpness
  | .bcshHue => p.hue
  | .aeComp => (p.aeCompensation.toNat : ℤ)
  | .sinterStrength => p.noiseReduction2d
  | .temperStrength => p.noiseReduction3d
  | .ispHflip => p.flipHorizontal
  | .ispVflip => p.flipVertical
  | .ispRunningMode => p.dayNightMode.running
  | .antiFlickerAttr => p.antiFlicker
  | .backlightComp => (p.backlightCompensation.toNat : ℤ)
  | .hiLightDepress => (p.highlightSuppression.toNat : ℤ)
  | .wb => p.wbAttr
  | .drcStrength => p.drcStrength
  | .defogStrength => p.defogStrength

/-- The registers in the order in which they are written. Five of them are written with
`PLATFORM_T31` only. -/
def order (t31 : Bool) : List Register :=
  [.brightness, .contrast, .saturation, .sharpness] ++
    (if t31 then [.bcshHue, .aeComp] else []) ++
    [.sinterStrength, .temperStrength, .ispHflip, .ispVflip, .ispRunningMode, .antiFlickerAttr] ++
    (if t31 then [.backlightComp] else []) ++ [.hiLightDepress, .wb] ++
    if t31 then [.drcStrength, .defogStrength] else []

/-- `apply_imp_params`, with whether it returns zero. -/
def applyImpParams (t31 : Bool) (refuses : Register → Bool) (p : Params) (isp : Isp) : Bool × Isp :=
  writeAll refuses p.settings (order t31) isp

/-- `(unsigned char)` of an int. -/
def toUChar (n : ℤ) : UInt8 := UInt8.ofNat (n % 256).toNat

/-- `get_current_imp_params` into the parameters that are kept, where the getters return what the
registers hold. Registers without a getter leave the parameter as it was. -/
def getCurrentImpParams (t31 : Bool) (isp : Isp) (current : Params) : Params :=
  let wb : WbAttr := isp .wb
  let mode : RunningMode := isp .ispRunningMode
  { current with
    brightness := isp .brightness
    contrast := isp .contrast
    saturation := isp .saturation
    sharpness := isp .sharpness
    hue := if t31 then isp .bcshHue else current.hue
    aeCompensation := if t31 then toUChar (isp .aeComp) else current.aeCompensation
    dayNightMode := if mode = .night then .night else .day
    backlightCompensation :=
      if t31 then toUChar (isp .backlightComp) else current.backlightCompensation
    highlightSuppression :=
      if t31 then toUChar (isp .hiLightDepress) else current.highlightSuppression
    whiteBalanceMode := if wb.mode = .manual then .manual else .auto
    whiteBalanceRGain := wb.rgain
    whiteBalanceBGain := wb.bgain }

/-! ### The module -/

/-- `g_imp_control_state`, and the registers. -/
structure State where
  initialized : Bool
  running : Bool
  config : Params
  current : Params
  isp : Isp

/-- Before the first call, whatever the registers hold. -/
def State.first (isp : Isp) : State := ⟨false, false, .zeroed, .zeroed, isp⟩

/-- `imp_control_validate_param`. -/
def validateParam (value : UInt8) : Bool := 0 ≤ value && value ≤ 255

/-- `imp_control_validate_params`. -/
def validateParams (p : Params) : Bool :=
  validateParam p.brightness && validateParam p.contrast && validateParam p.saturation &&
    validateParam p.sharpness

/-- An unsigned char is in the range that is checked. -/
@[simp] theorem validateParams_eq_true (p : Params) : validateParams p = true := by
  have hparam : ∀ value : UInt8, validateParam value = true := by
    intro value
    have hle : value ≤ 255 := UInt8.le_iff_toNat_le.mpr (Nat.le_of_lt_succ value.toNat_lt)
    simp [validateParam, hle]
  simp [validateParams, hparam]

/-- `imp_control_init`, for the configuration that is given to it or loaded. -/
def State.init (s : State) (config : Params) (mutexInit : Bool) : ℤ × State :=
  if s.initialized then (0, s)
  else if !mutexInit then (-1, { s with config })
  else (0, { s with config, current := config, initialized := true })

/-- `imp_control_start`. -/
def State.start (t31 : Bool) (s : State) (refuses : Register → Bool) : ℤ × State :=
  if !s.initialized then (-1, s)
  else if s.running then (0, s)
  else
    let applied := applyImpParams t31 refuses s.current s.isp
    if !applied.1 then (-1, { s with isp := applied.2 })
    else (0, { s with isp := applied.2, running := true })

/-- `imp_control_stop`. -/
def State.stop (s : State) : State := { s with running := false }

/-- `imp_control_cleanup`. -/
def State.cleanup (s : State) : State :=
  if s.initialized then .first s.isp else { s with running := false }

/-- `imp_control_get_params`. -/
def State.getParams (t31 : Bool) (s : State) : Option Params × State :=
  if !s.initialized then (none, s)
  else
    let p := getCurrentImpParams t31 s.isp s.current
    (some p, { s with current := p })

/-- `imp_control_set_params`. -/
def State.setParams (t31 : Bool) (s : State) (refuses : Register → Bool) (p : Params) : ℤ × State :=
  if !s.initialized then (-1, s)
  else if !validateParams p then (-1, s)
  else
    let applied := applyImpParams t31 refuses p s.isp
    if applied.1 then (0, { s with isp := applied.2, current := p })
    else (-1, { s with isp := applied.2 })

/-- `imp_control_reset_to_defaults`. -/
def State.resetToDefaults (t31 : Bool) (s : State) (refuses : Register → Bool) : ℤ × State :=
  if !s.initialized then (-1, s) else s.setParams t31 refuses s.config

end ImpControl
