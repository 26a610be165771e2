import Strero.ImpControl.Parameters
import Strero.Lib.Runs

/-!
# Setters of one parameter

A setter reads all parameters back, changes one and applies them all. It changes no other one
exactly if what is read back is what was kept: the registers hold the parameters that are kept,
the mode is not the automatic one, which the signal processor does not know, and the gains are
those that it holds, which are its own in automatic white balance.
-/

namespace ImpControl

open Registers Runs

/-- The calls `imp_control_set_...` with their arguments. -/
inductive Setter
  | brightness (value : UInt8)
  | contrast (value : UInt8)
  | saturation (value : UInt8)
  | sharpness (value : UInt8)
  | hue (value : UInt8)
  | aeCompensation (value : UInt8)
  | noiseReduction2d (value : UInt8)
  | noiseReduction3d (value : UInt8)
  | flipHorizontal (enable : Bool)
  | flipVertical (enable : Bool)
  | dayNightMode (mode : DayNightMode)
  | antiFlicker (mode : AntiflickerMode)
  | backlightCompensation (value : UInt8)
  | highlightSuppression (value : UInt8)
  | whiteBalanceMode (mode : WbMode)
  | whiteBalanceGains (rGain bGain : UInt16)
  | drcStrength (value : UInt8)
  | defogStrength (value : UInt8)
deriving DecidableEq

/-- The assignment in each of them. -/
def Setter.update : Setter → Params → Params
  | .brightness value, p => { p with brightness := value }
  | .contrast value, p => { p with contrast := value }
  | .saturation value, p => { p with saturation := value }
  | .sharpness value, p => { p with sharpness := value }
  | .hue value, p => { p with hue := value }
  | .aeCompensation value, p => { p with aeCompensation := value }
  | .noiseReduction2d value, p => { p with noiseReduction2d := value }
  | .noiseReduction3d value, p => { p with noiseReduction3d := value }
  | .flipHorizontal enable, p => { p with flipHorizontal := enable }
  | .flipVertical enable, p => { p with flipVertical := enable }
  | .dayNightMode mode, p => { p with dayNightMode := mode }
  | .antiFlicker mode, p => { p with antiFlicker := mode }
  | .backlightCompensation value, p => { p with backlightCompensation := value }
  | .highlightSuppression value, p => { p with highlightSuppression := value }
  | .whiteBalanceMode mode, p => { p with whiteBalanceMode := mode }
  | .whiteBalanceGains rGain bGain, p =>
    { p with whiteBalanceRGain := rGain, whiteBalanceBGain := bGain }
  | .drcStrength value, p => { p with drcStrength := value }
  | .defogStrength value, p => { p with defogStrength := value }

/-- The register of the parameter. The mode and the gains of the white balance have the same. -/
def Setter.register : Setter → Register
  | .brightness _ => .brightness
  | .contrast _ => .contrast
  | .saturation _ => .saturation
  | .sharpness _ => .sharpness
  | .hue _ => .bcshHue
  | .aeCompensation _ => .aeComp
  | .noiseReduction2d _ => .sinterStrength
  | .noiseReduction3d _ => .temperStrength
  | .flipHorizontal _ => .ispHflip
  | .flipVertical _ => .ispVflip
  | .dayNightMode _ => .ispRunningMode
  | .antiFlicker _ => .antiFlickerAttr
  | .backlightCompensation _ => .backlightComp
  | .highlightSuppression _ => .hiLightDepress
  | .whiteBalanceMode _ | .whiteBalanceGains _ _ => .wb
  | .drcStrength _ => .drcStrength
  | .defogStrength _ => .defogStrength

/-- A setter, by its assignment. -/
def State.set (t31 : Bool) (s : State) (refuses : Register → Bool) (x : Setter) : ℤ × State :=
  match s.getParams t31 with
  | (none, s) => (-1, s)
  | (some p, s) => s.setParams t31 refuses (x.update p)

/-! ### Parameters by their registers -/

/-- What the parameters say about a register. -/
def Register.Part : Register → Type
  | .ispHflip | .ispVflip => Bool
  | .ispRunningMode => DayNightMode
  | .antiFlickerAttr => AntiflickerMode
  | .wb => WbAttr
  | _ => UInt8

/-- The parameters of a register. -/
def Params.part (p : Params) : (r : Register) → r.Part
  | .brightness => p.brightness
  | .contrast => p.contrast
  | .saturation => p.saturation
  | .sharpness => p.sharpness
  | .bcshHue => p.hue
  | .aeComp => p.aeCompensation
  | .sinterStrength => p.noiseReduction2d
  | .temperStrength => p.noiseReduction3d
  | .ispHflip => p.flipHorizontal
  | .ispVflip => p.flipVertical
  | .ispRunningMode => p.dayNightMode
  | .antiFlickerAttr => p.antiFlicker
  | .backlightComp => p.backlightCompensation
  | .hiLightDepress => p.highlightSuppression
  | .wb => (⟨p.whiteBalanceMode, p.whiteBalanceRGain, p.whiteBalanceBGain⟩ : WbAttr)
  | .drcStrength => p.drcStrength
  | .defogStrength => p.defogStrength

/-- Parameters that agree about every register are the same. -/
theorem Params.ext_part {p q : Params} (h : ∀ r, p.part r = q.part r) : p = q := by
  have hwb := WbAttr.mk.injEq .. ▸ h .wb
  cases p
  cases q
  rw [Params.mk.injEq]
  exact ⟨h .brightness, h .contrast, h .saturation, h .sharpness, h .bcshHue, h .aeComp,
    h .sinterStrength, h .temperStrength, h .ispHflip, h .ispVflip, h .ispRunningMode,
    h .antiFlickerAttr, h .backlightComp, h .hiLightDepress, hwb.1, hwb.2.1, hwb.2.2,
    h .drcStrength, h .defogStrength⟩

variable {t31 : Bool} {s : State} {refuses : Register → Bool} {x : Setter} {p q : Params}
  {r : Register}

/-- A setter changes the parameters of its own register only. -/
theorem part_update_of_ne (x : Setter) (p : Params) (h : r ≠ x.register) :
    (x.update p).part r = p.part r := by
  cases x <;> cases r <;> first | rfl | exact absurd rfl h

/-- The setting of a register depends on its parameters only. -/
theorem settings_congr (h : p.part r = q.part r) : p.settings r = q.settings r := by
  cases r with
  | wb =>
    have hwb := WbAttr.mk.injEq .. ▸ h
    unfold Params.settings Params.wbAttr
    rw [hwb.1, hwb.2.1, hwb.2.2]
  | ispRunningMode => exact congrArg DayNightMode.running h
  | aeComp => exact congrArg (fun value : UInt8 => (value.toNat : ℤ)) h
  | backlightComp => exact congrArg (fun value : UInt8 => (value.toNat : ℤ)) h
  | hiLightDepress => exact congrArg (fun value : UInt8 => (value.toNat : ℤ)) h
  | brightness | contrast | saturation | sharpness | bcshHue | sinterStrength | temperStrength
  | ispHflip | ispVflip | antiFlickerAttr | drcStrength | defogStrength => exact h

theorem settings_update_of_ne (x : Setter) (p : Params) (h : r ≠ x.register) :
    (x.update p).settings r = p.settings r :=
  settings_congr (part_update_of_ne x p h)

theorem toUChar_toNat (value : UInt8) : toUChar (value.toNat : ℤ) = value := by
  have hlt := value.toNat_lt
  unfold toUChar
  rw [Int.emod_eq_of_lt (by omega) (by omega), Int.toNat_natCast, UInt8.ofNat_toNat]

/-- What is read back of a register that holds its setting, or that is not there. The mode and
the white balance are other matters. -/
theorem part_read (isp : Isp) (current : Params) (hmode : r ≠ .ispRunningMode) (hwb : r ≠ .wb)
    (h : r ∈ order t31 → isp r = current.settings r) :
    (getCurrentImpParams t31 isp current).part r = current.part r := by
  cases r with
  | brightness => exact h (by simp [order])
  | contrast => exact h (by simp [order])
  | saturation => exact h (by simp [order])
  | sharpness => exact h (by simp [order])
  | bcshHue =>
    cases t31 with
    | false => rfl
    | true => exact h (by decide)
  | aeComp =>
    cases t31 with
    | false => rfl
    | true => exact (congrArg toUChar (h (by decide))).trans (toUChar_toNat _)
  | backlightComp =>
    cases t31 with
    | false => rfl
    | true => exact (congrArg toUChar (h (by decide))).trans (toUChar_toNat _)
  | hiLightDepress =>
    cases t31 with
    | false => rfl
    | true => exact (congrArg toUChar (h (by decide))).trans (toUChar_toNat _)
  | ispRunningMode => exact absurd rfl hmode
  | wb => exact absurd rfl hwb
  | sinterStrength | temperStrength | ispHflip | ispVflip | antiFlickerAttr | drcStrength
  | defogStrength => rfl

/-- The white balance is read back as the register holds it. -/
theorem part_read_wb (t31 : Bool) (isp : Isp) (current : Params) :
    (getCurrentImpParams t31 isp current).part .wb = isp .wb := by
  dsimp only [getCurrentImpParams, Params.part]
  generalize (isp .wb : WbAttr) = wb
  obtain ⟨mode, rgain, bgain⟩ := wb
  cases mode <;> rfl

/-- The mode that is kept is read back if the register holds it and it is not the automatic one. -/
theorem part_read_mode (isp : Isp) (current : Params)
    (h : isp .ispRunningMode = current.settings .ispRunningMode) :
    (getCurrentImpParams t31 isp current).part .ispRunningMode = current.part .ispRunningMode ↔
      current.dayNightMode ≠ .auto := by
  have hread : (getCurrentImpParams t31 isp current).part .ispRunningMode =
      (if current.dayNightMode.running = .night then DayNightMode.night else .day) := by
    dsimp only [getCurrentImpParams, Params.part]
    rw [h]
    rfl
  have hmode : ∀ mode : DayNightMode,
      (if mode.running = .night then DayNightMode.night else .day) = mode ↔ mode ≠ .auto := by
    intro mode
    cases mode <;> decide
  rw [hread]
  exact hmode current.dayNightMode

/-- The setter has only this effect: on the parameters that are kept and on the registers. -/
structure ChangesOnly (t31 : Bool) (x : Setter) (s s' : State) : Prop where
  current : s'.current = x.update s.current
  others : ∀ r, r ≠ x.register → s'.isp r = s.isp r
  own : x.register ∈ order t31 → s'.isp x.register = (x.update s.current).settings x.register

/-- The setter sets the mode of the white balance. -/
def Setter.setsWbMode : Setter → Bool
  | .whiteBalanceMode _ => true
  | _ => false

/-- The setter sets the gains of the white balance. -/
def Setter.setsGains : Setter → Bool
  | .whiteBalanceGains _ _ => true
  | _ => false

/-- The state before a setter can be read back: except for what the setter sets, the registers
hold the parameters that are kept, the mode is not automatic and the white balance that the
register holds is the one that is kept. -/
structure ReadsBack (t31 : Bool) (x : Setter) (s : State) : Prop where
  registers : ∀ r ∈ order t31, r ≠ x.register → s.isp r = s.current.settings r
  mode : x.register ≠ .ispRunningMode → s.current.dayNightMode ≠ .auto
  wbMode : x.setsWbMode = false → (s.isp .wb : WbAttr).mode = s.current.whiteBalanceMode
  gains : x.setsGains = false → (s.isp .wb : WbAttr).rgain = s.current.whiteBalanceRGain ∧
    (s.isp .wb : WbAttr).bgain = s.current.whiteBalanceBGain

/-- What a setter that succeeds does. -/
theorem set_succeeds (h : (s.set t31 refuses x).1 = 0) :
    (s.set t31 refuses x).2.current = x.update (getCurrentImpParams t31 s.isp s.current) ∧
      (∀ r ∈ order t31, (s.set t31 refuses x).2.isp r =
        (x.update (getCurrentImpParams t31 s.isp s.current)).settings r) ∧
      ∀ r ∉ order t31, (s.set t31 refuses x).2.isp r = s.isp r := by
  unfold State.set State.getParams at h ⊢
  cases hinit : s.initialized with
  | false => simp [hinit] at h
  | true =>
    simp only [hinit, Bool.not_true, Bool.false_eq_true, if_false] at h ⊢
    unfold State.setParams at h ⊢
    simp only [Bool.not_true, Bool.false_eq_true, if_false, validateParams_eq_true] at h ⊢
    unfold applyImpParams at h ⊢
    generalize hp : x.update (getCurrentImpParams t31 s.isp s.current) = target at h ⊢
    cases hok : (writeAll refuses target.settings (order t31) s.isp).1 with
    | false => simp [hok] at h
    | true =>
      simp only [if_true]
      have hall := written_of_success hok
      refine ⟨trivial, fun r hr => writeAll_of_mem ?_, fun r hr => writeAll_of_notMem ?_⟩
      · rwa [hall]
      · rwa [hall]

/-- The updated parameters are those of an update of the parameters that are kept, as far as the
register of the setter is concerned. -/
theorem part_update_own (isp : Isp) (current : Params) :
    (x.update (getCurrentImpParams t31 isp current)).part x.register =
        (x.update current).part x.register ↔
      x.register = .wb → ((x.setsWbMode = false →
          (isp .wb : WbAttr).mode = current.whiteBalanceMode) ∧
        (x.setsGains = false → (isp .wb : WbAttr).rgain = current.whiteBalanceRGain ∧
          (isp .wb : WbAttr).bgain = current.whiteBalanceBGain)) := by
  have hmode : (getCurrentImpParams t31 isp current).whiteBalanceMode = (isp .wb : WbAttr).mode :=
    congrArg WbAttr.mode (part_read_wb t31 isp current)
  cases x with
  | whiteBalanceMode mode =>
    have hparts : (WbAttr.mk mode (isp .wb : WbAttr).rgain (isp .wb : WbAttr).bgain =
          ⟨mode, current.whiteBalanceRGain, current.whiteBalanceBGain⟩) ↔
        ((isp .wb : WbAttr).rgain = current.whiteBalanceRGain ∧
          (isp .wb : WbAttr).bgain = current.whiteBalanceBGain) := by
      rw [WbAttr.mk.injEq]
      simp
    refine Iff.trans hparts ?_
    simp [Setter.register, Setter.setsWbMode, Setter.setsGains]
  | whiteBalanceGains rGain bGain =>
    have hparts : (WbAttr.mk (getCurrentImpParams t31 isp current).whiteBalanceMode rGain bGain =
          ⟨current.whiteBalanceMode, rGain, bGain⟩) ↔
        (isp .wb : WbAttr).mode = current.whiteBalanceMode := by
      rw [WbAttr.mk.injEq, hmode]
      simp
    refine Iff.trans hparts ?_
    simp [Setter.register, Setter.setsWbMode, Setter.setsGains]
  | _ => exact iff_of_true rfl (by simp [Setter.register])

/-- Updated parameters are the same if they are the same about each register. -/
theorem update_eq_update_iff (x : Setter) (p q : Params) :
    x.update p = x.update q ↔ (∀ r, r ≠ x.register → p.part r = q.part r) ∧
      (x.update p).part x.register = (x.update q).part x.register := by
  constructor
  · intro h
    refine ⟨fun r hr => ?_, congrArg (fun p => Params.part p x.register) h⟩
    rw [← part_update_of_ne x p hr, h, part_update_of_ne x q hr]
  · rintro ⟨hothers, hown⟩
    refine Params.ext_part fun r => ?_
    by_cases hr : r = x.register
    · rw [hr]
      exact hown
    · rw [part_update_of_ne x p hr, part_update_of_ne x q hr, hothers r hr]

/-- What the white balance register holds, where it holds what is kept. -/
theorem wb_of_register (h : s.isp .wb = s.current.part .wb) :
    (s.isp .wb : WbAttr).mode = s.current.whiteBalanceMode ∧
      (s.isp .wb : WbAttr).rgain = s.current.whiteBalanceRGain ∧
      (s.isp .wb : WbAttr).bgain = s.current.whiteBalanceBGain :=
  ⟨congrArg WbAttr.mode h, congrArg WbAttr.rgain h, congrArg WbAttr.bgain h⟩

/-- A setter that succeeds changes only its parameter exactly if the state can be read back. -/
theorem changesOnly_iff (h : (s.set t31 refuses x).1 = 0) :
    ChangesOnly t31 x s (s.set t31 refuses x).2 ↔ ReadsBack t31 x s := by
  obtain ⟨hcurrent, hwritten, hkept⟩ := set_succeeds h
  constructor
  · rintro ⟨hsame, hothers, -⟩
    rw [hcurrent] at hsame
    obtain ⟨hparts, hown⟩ := (update_eq_update_iff _ _ _).mp hsame
    have hregisters : ∀ r ∈ order t31, r ≠ x.register → s.isp r = s.current.settings r := by
      intro r hr hne
      rw [← hothers r hne, hwritten r hr, hsame, settings_update_of_ne x _ hne]
    have hwb : x.register ≠ .wb → s.isp .wb = s.current.part .wb := by
      intro hne
      rw [← hparts .wb hne.symm, part_read_wb]
    have hownWb := (part_update_own s.isp s.current).mp hown
    refine ⟨hregisters, fun hne => ?_, fun hmode => ?_, fun hgains => ?_⟩
    · have hheld := hregisters .ispRunningMode (by simp [order]) hne.symm
      exact (part_read_mode s.isp s.current hheld).mp (hparts .ispRunningMode hne.symm)
    · by_cases hreg : x.register = .wb
      · exact (hownWb hreg).1 hmode
      · exact (wb_of_register (hwb hreg)).1
    · by_cases hreg : x.register = .wb
      · exact (hownWb hreg).2 hgains
      · exact (wb_of_register (hwb hreg)).2
  · rintro ⟨hregisters, hmode, hwbMode, hgains⟩
    have hsame : x.update (getCurrentImpParams t31 s.isp s.current) = x.update s.current := by
      refine (update_eq_update_iff _ _ _).mpr ⟨fun r hne => ?_, ?_⟩
      · by_cases hrunning : r = .ispRunningMode
        · subst hrunning
          exact (part_read_mode s.isp s.current
            (hregisters .ispRunningMode (by simp [order]) hne)).mpr (hmode hne.symm)
        · by_cases hwb : r = .wb
          · subst hwb
            have hsets : x.setsWbMode = false ∧ x.setsGains = false := by
              cases x <;> first | exact ⟨rfl, rfl⟩ | exact absurd rfl hne
            rw [part_read_wb]
            have hheld := hwbMode hsets.1
            obtain ⟨hrgain, hbgain⟩ := hgains hsets.2
            exact (congr (congr (congrArg WbAttr.mk hheld) hrgain) hbgain :)
          · exact part_read s.isp s.current hrunning hwb fun hr => hregisters r hr hne
      · exact (part_update_own s.isp s.current).mpr fun _ => ⟨hwbMode, hgains⟩
    refine ⟨hcurrent.trans hsame, fun r hne => ?_, fun hr => ?_⟩
    · by_cases hr : r ∈ order t31
      · rw [hwritten r hr, hsame, settings_update_of_ne x _ hne, hregisters r hr hne]
      · exact hkept r hr
    · rw [hwritten _ hr, hsame]

/-! ### Runs -/

/-- The calls of the module's interface, each with what it meets: the registers that refuse their
values, and whether a file can be written. -/
inductive Operation
  | init (config : Params) (mutexInit : Bool)
  | start (refuses : Register → Bool)
  | stop
  | cleanup
  | get
  | setParams (refuses : Register → Bool) (p : Params)
  | set (refuses : Register → Bool) (x : Setter)
  | reset (refuses : Register → Bool)
  | save (written : Bool)

/-- `imp_control_handle_save_params`. -/
def State.save (t31 : Bool) (s : State) (written : Bool) : State :=
  match s.getParams t31 with
  | (none, s) => s
  | (some p, s) => if written then { s with config := p } else s

/-- One call. -/
def State.step (t31 : Bool) (s : State) : Operation → State
  | .init config mutexInit => (s.init config mutexInit).2
  | .start refuses => (s.start t31 refuses).2
  | .stop => s.stop
  | .cleanup => s.cleanup
  | .get => (s.getParams t31).2
  | .setParams refuses p => (s.setParams t31 refuses p).2
  | .set refuses x => (s.set t31 refuses x).2
  | .reset refuses => (s.resetToDefaults t31 refuses).2
  | .save written => s.save t31 written

/-- Of each setter that succeeds in a state this holds. -/
def WhenSet (t31 : Bool) (P : Setter → State → State → Prop) (s : State) (op : Operation) : Prop :=
  ∀ refuses x, op = .set refuses x → (s.set t31 refuses x).1 = 0 → P x s (s.set t31 refuses x).2

/-- In every run, each setter that succeeds changes only its parameter exactly if the state in
which it is called can be read back. -/
theorem setters_change_only_iff (t31 : Bool) (isp : Isp) (ops : List Operation) :
    Guarded (State.step t31) (WhenSet t31 (ChangesOnly t31)) (.first isp) ops ↔
      Guarded (State.step t31) (WhenSet t31 fun x s _ => ReadsBack t31 x s) (.first isp) ops := by
  refine guarded_congr (fun _ => True) (fun s op _ => ?_) (fun _ _ _ _ => trivial) trivial
  exact forall₄_congr fun refuses x _ h => changesOnly_iff h

/-- No register refuses its value. -/
def noneRefuses : Register → Bool := fun _ => false

/-- The module is initialised with the defaults and started, and the brightness is set. -/
def brighterRun : List Operation :=
  [.init .defaults true, .start noneRefuses, .set noneRefuses (.brightness 100)]

/-- With the brightness the automatic day and night mode becomes the day mode. -/
theorem not_brighterRun_changes_only :
    ¬Guarded (State.step true) (WhenSet true (ChangesOnly true)) (.first Params.zeroed.settings)
      brighterRun := by
  rintro ⟨-, -, hset, -⟩
  have hmode := congrArg Params.dayNightMode
    (hset noneRefuses (.brightness 100) rfl (by decide +kernel)).current
  exact absurd hmode (by decide +kernel)

end ImpControl
