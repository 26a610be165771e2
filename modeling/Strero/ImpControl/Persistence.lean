import Strero.ImpControl.Answers
import Strero.Modules.Configuration

/-!
# Saved image parameters

The parameters are saved into the file that the module system loads the configuration of the
module from when the program is started again. Nothing between the two can lose them: the image
is then what it was when they were saved.
-/

namespace ImpControl

open CString JsonC ModuleSystem Registers

variable {J : JsonC}

/-! ### The file -/

/-- What `save_params_to_config` makes of a parameter. -/
def Params.scalar (p : Params) : Name → Scalar
  | .brightness => .int p.brightness.toNat
  | .contrast => .int p.contrast.toNat
  | .saturation => .int p.saturation.toNat
  | .sharpness => .int p.sharpness.toNat
  | .hue => .int p.hue.toNat
  | .aeCompensation => .int p.aeCompensation.toNat
  | .noiseReduction2d => .int p.noiseReduction2d.toNat
  | .noiseReduction3d => .int p.noiseReduction3d.toNat
  | .flipHorizontal => .boolean p.flipHorizontal
  | .flipVertical => .boolean p.flipVertical
  | .dayNightMode => .string (dayNightModeToString p.dayNightMode)
  | .antiFlicker => .string (antiflickerModeToString p.antiFlicker)
  | .backlightCompensation => .int p.backlightCompensation.toNat
  | .highlightSuppression => .int p.highlightSuppression.toNat
  | .whiteBalanceMode => .string (wbModeToString p.whiteBalanceMode)
  | .whiteBalanceRGain => .int p.whiteBalanceRGain.toNat
  | .whiteBalanceBGain => .int p.whiteBalanceBGain.toNat
  | .drcStrength => .int p.drcStrength.toNat
  | .defogStrength => .int p.defogStrength.toNat

/-- The members of the object that is written. -/
def Params.saved (p : Params) : List (List UInt8 × Scalar) :=
  Name.all.map fun name => (name.word, p.scalar name)

/-- `"/etc/streamer.d/imp_control.json"`. -/
def savePath : List UInt8 := ascii "/etc/streamer.d/imp_control.json"

/-- A field of the type `unsigned char`. -/
def ucharKey (J : JsonC) (obj : J.Object) (name : Name) (dest : UInt8) : UInt8 :=
  ((J.getEx obj name.word).map fun field => toUChar (J.getInt field)).getD dest

/-- A field of the type `unsigned short`. -/
def ushortKey (J : JsonC) (obj : J.Object) (name : Name) (dest : UInt16) : UInt16 :=
  ((J.getEx obj name.word).map fun field => toUShort (J.getInt field)).getD dest

/-- A field that is a mode, which is `unset` without a string. -/
def modeKey {α : Type} (J : JsonC) (convert : List UInt8 → α) (unset : α) (obj : J.Object)
    (name : Name) (dest : α) : α :=
  ((J.getEx obj name.word).map fun field => ((J.getString field).map convert).getD unset).getD dest

/-- The keys that are read, over what is in the structure. -/
def Params.read (J : JsonC) (obj : J.Object) (c : Params) : Params where
  brightness := ucharKey J obj .brightness c.brightness
  contrast := ucharKey J obj .contrast c.contrast
  saturation := ucharKey J obj .saturation c.saturation
  sharpness := ucharKey J obj .sharpness c.sharpness
  hue := ucharKey J obj .hue c.hue
  aeCompensation := ucharKey J obj .aeCompensation c.aeCompensation
  noiseReduction2d := ucharKey J obj .noiseReduction2d c.noiseReduction2d
  noiseReduction3d := ucharKey J obj .noiseReduction3d c.noiseReduction3d
  flipHorizontal := J.boolField obj Name.flipHorizontal.word c.flipHorizontal
  flipVertical := J.boolField obj Name.flipVertical.word c.flipVertical
  dayNightMode := modeKey J stringToDayNightMode .auto obj .dayNightMode c.dayNightMode
  antiFlicker := modeKey J stringToAntiflickerMode .disable obj .antiFlicker c.antiFlicker
  backlightCompensation := ucharKey J obj .backlightCompensation c.backlightCompensation
  highlightSuppression := ucharKey J obj .highlightSuppression c.highlightSuppression
  whiteBalanceMode := modeKey J stringToWbMode .auto obj .whiteBalanceMode c.whiteBalanceMode
  whiteBalanceRGain := ushortKey J obj .whiteBalanceRGain c.whiteBalanceRGain
  whiteBalanceBGain := ushortKey J obj .whiteBalanceBGain c.whiteBalanceBGain
  drcStrength := ucharKey J obj .drcStrength c.drcStrength
  defogStrength := ucharKey J obj .defogStrength c.defogStrength

/-- `imp_control_config_parse`. -/
def impControlConfigParse (J : JsonC) (json : J.Object) (_config : Params) : ℤ × Params :=
  (0, Params.defaults.read J ((J.getEx json (ascii "imp_control")).getD json))

/-- The configuration callbacks of `imp_control_info`. -/
def impControlCallbacks (J : JsonC) : ConfigCallbacks J where
  Config := Params
  zeroed := .zeroed
  parse := impControlConfigParse J
  validate := none
  sized := ⟨.defaults, by decide +kernel⟩

theorem saved_keys (p : Params) : p.saved.map Prod.fst = Name.all.map Name.word := rfl

/-- What was saved is what is parsed. -/
theorem impControlConfigParse_saved {p : Params} {contents : List UInt8}
    (h : J.ReadsBack contents p.saved) (config : Params) :
    ∃ root, J.fromFile contents = some root ∧ impControlConfigParse J root config = (0, p) := by
  obtain ⟨root, hfile, hmembers, hothers⟩ := h.root
  refine ⟨root, hfile, ?_⟩
  have hmember : ∀ name, ∃ child, J.getEx root name.word = some child ∧
      (p.scalar name).ReadAs J child := by
    intro name
    have hall : name ∈ Name.all := by cases name <;> decide
    exact hmembers _ (List.mem_map_of_mem hall)
  have huchar : ∀ (name : Name) (value : UInt8), p.scalar name = .int value.toNat →
      ∀ dest, ucharKey J root name dest = value := by
    intro name value hscalar dest
    obtain ⟨child, hchild, hread⟩ := hmember name
    rw [hscalar] at hread
    rw [ucharKey, hchild, Option.map_some, Option.getD_some, hread, toUChar_toNat]
  have hushort : ∀ (name : Name) (value : UInt16), p.scalar name = .int value.toNat →
      ∀ dest, ushortKey J root name dest = value := by
    intro name value hscalar dest
    obtain ⟨child, hchild, hread⟩ := hmember name
    rw [hscalar] at hread
    rw [ushortKey, hchild, Option.map_some, Option.getD_some, hread, toUShort_toNat]
  have hbool : ∀ (name : Name) (b : Bool), p.scalar name = .boolean b →
      ∀ dest, J.boolField root name.word dest = b := by
    intro name b hscalar dest
    obtain ⟨child, hchild, hread⟩ := hmember name
    rw [hscalar] at hread
    rw [JsonC.boolField, hchild, Option.map_some, Option.getD_some, hread]
  have hmode : ∀ {α : Type} (convert : List UInt8 → α) (unset : α) (name : Name) (s : List UInt8),
      p.scalar name = .string s → ∀ dest, modeKey J convert unset root name dest = convert s := by
    intro α convert unset name s hscalar dest
    obtain ⟨child, hchild, hread⟩ := hmember name
    rw [hscalar] at hread
    rw [modeKey, hchild, Option.map_some, Option.getD_some, hread, Option.map_some,
      Option.getD_some]
  have hsection : J.getEx root (ascii "imp_control") = none :=
    hothers _ (by rw [saved_keys]; decide +kernel)
  rw [impControlConfigParse, hsection, Option.getD_none, Params.read,
    huchar .brightness p.brightness rfl, huchar .contrast p.contrast rfl,
    huchar .saturation p.saturation rfl, huchar .sharpness p.sharpness rfl, huchar .hue p.hue rfl,
    huchar .aeCompensation p.aeCompensation rfl, huchar .noiseReduction2d p.noiseReduction2d rfl,
    huchar .noiseReduction3d p.noiseReduction3d rfl, hbool .flipHorizontal p.flipHorizontal rfl,
    hbool .flipVertical p.flipVertical rfl, hmode _ _ .dayNightMode _ rfl,
    stringToDayNightMode_toString, hmode _ _ .antiFlicker _ rfl, stringToAntiflickerMode_toString,
    huchar .backlightCompensation p.backlightCompensation rfl,
    huchar .highlightSuppression p.highlightSuppression rfl, hmode _ _ .whiteBalanceMode _ rfl,
    stringToWbMode_toString, hushort .whiteBalanceRGain p.whiteBalanceRGain rfl,
    hushort .whiteBalanceBGain p.whiteBalanceBGain rfl, huchar .drcStrength p.drcStrength rfl,
    huchar .defogStrength p.defogStrength rfl]

/-! ### The device -/

/-- The module, and the files that are there. -/
structure Device where
  module : State
  files : Files

/-- What happens to the device. With a call comes what a failing write leaves of the file. -/
inductive Event
  | call (op : Operation) (left : Option (List UInt8))
  | restart (isp : Isp) (memory : Option Params) (mutexInit : Bool) (refuses : Register → Bool)

/-- The configuration that the module is initialised with: the argument of the module system, or
without memory for it what the module loads by itself. -/
def loadedConfig (J : JsonC) (files : Files) (memory : Option Params) : Params :=
  match (impControlCallbacks J).initArgument files (ascii "imp_control") memory with
  | some config => config
  | none =>
    let loaded := (impControlCallbacks J).moduleLoadConfigFile files (ascii "imp_control")
      Params.zeroed
    if loaded.1 = 0 then loaded.2 else Params.defaults

/-- A file is replaced. -/
def writeFile (files : Files) (path : List UInt8) (contents : Option (List UInt8)) : Files where
  binaryDir := files.binaryDir
  content := Function.update files.content path contents

/-- The program ends, and is started again on registers that may hold anything. -/
def Device.restart (J : JsonC) (t31 : Bool) (d : Device) (isp : Isp) (memory : Option Params)
    (mutexInit : Bool) (refuses : Register → Bool) : Device where
  module := (((State.first isp).init (loadedConfig J d.files memory) mutexInit).2.start t31
    refuses).2
  files := d.files

/-- What happens to the files in a call. `toFile` is what json-c writes. -/
def Device.filesAfter (t31 : Bool) (toFile : List (List UInt8 × Scalar) → List UInt8) (d : Device)
    (op : Operation) (left : Option (List UInt8)) : Files :=
  match op, d.module.getParams t31 with
  | .save written, (some p, _) =>
    writeFile d.files savePath (if written then some (toFile p.saved) else left)
  | _, _ => d.files

/-- One event. -/
def Device.step (J : JsonC) (t31 : Bool) (toFile : List (List UInt8 × Scalar) → List UInt8)
    (d : Device) : Event → Device
  | .call op left => ⟨d.module.step t31 op, d.filesAfter t31 toFile op left⟩
  | .restart isp memory mutexInit refuses => d.restart J t31 isp memory mutexInit refuses

/-- A call to save. -/
def Event.saves : Event → Bool
  | .call (.save _) _ => true
  | _ => false

variable {t31 : Bool} {d : Device} {p : Params} {files : Files} {contents : List UInt8}
  {toFile : List (List UInt8 × Scalar) → List UInt8} {refuses : Register → Bool}

/-- Only a call to save writes the file. -/
theorem step_files {e : Event} (he : e.saves = false) :
    (d.step J t31 toFile e).files = d.files := by
  cases e with
  | restart isp memory mutexInit refuses => rfl
  | call op left =>
    cases op with
    | save written => cases he
    | init | start | stop | cleanup | get | setParams | set | reset => rfl

theorem foldl_step_files {events : List Event} (h : ∀ e ∈ events, e.saves = false) :
    (events.foldl (Device.step J t31 toFile) d).files = d.files := by
  induction events generalizing d with
  | nil => rfl
  | cons e events ih =>
    obtain ⟨he, hevents⟩ := List.forall_mem_cons.mp h
    rw [List.foldl_cons, ih hevents, step_files he]

/-- The file is written where it is looked for. -/
theorem configPath_imp_control : configPath moduleConfigDir (ascii "imp_control") = savePath := by
  decide +kernel

/-- No other file is looked at before the one in the system directory. -/
def Unshadowed (J : JsonC) (files : Files) : Prop :=
  ∀ directory ∈ files.binaryDir, configPath directory (ascii "imp_control") = savePath ∨
    (files.content (configPath directory (ascii "imp_control"))).bind J.fromFile = none

@[simp] theorem content_writeFile (contents : Option (List UInt8)) (path : List UInt8) :
    (writeFile files path contents).content path = contents := Function.update_self _ _ _

theorem content_writeFile_of_ne {path other : List UInt8} (h : other ≠ path)
    (contents : Option (List UInt8)) :
    (writeFile files path contents).content other = files.content other :=
  Function.update_of_ne h _ _

/-- The saved file is found. -/
theorem findConfig_writeFile (h : Unshadowed J files) {root : J.Object}
    (hroot : J.fromFile contents = some root) :
    findConfig J (writeFile files savePath (some contents)) (ascii "imp_control") =
      some root := by
  have hsystem : ((writeFile files savePath (some contents)).content
      (configPath moduleConfigDir (ascii "imp_control"))).bind J.fromFile = some root := by
    rw [configPath_imp_control, content_writeFile]
    exact hroot
  have hbinary : (writeFile files savePath (some contents)).binaryDir = files.binaryDir := rfl
  rw [findConfig, hsystem, hbinary]
  cases hdirectory : files.binaryDir with
  | none => rfl
  | some directory =>
    rw [Option.bind_some]
    by_cases hpath : configPath directory (ascii "imp_control") = savePath
    · rw [hpath, content_writeFile, Option.bind_some, hroot]
      rfl
    · rw [content_writeFile_of_ne hpath, (h directory hdirectory).resolve_left hpath]
      rfl

/-- Whether or not there is memory for it, the module is initialised with what was saved. -/
theorem loadedConfig_saved (h : Unshadowed J files) (hreads : J.ReadsBack contents p.saved)
    (memory : Option Params) :
    loadedConfig J (writeFile files savePath (some contents)) memory = p := by
  obtain ⟨root, hroot, hparse⟩ := impControlConfigParse_saved hreads Params.zeroed
  have hfound := findConfig_writeFile h hroot
  have hload : ∀ buffer : Params, ((impControlCallbacks J).moduleLoadConfigFile
      (writeFile files savePath (some contents)) (ascii "imp_control") buffer : ℤ × Params) =
        (0, p) := by
    intro buffer
    unfold ConfigCallbacks.moduleLoadConfigFile
    rw [hfound]
    exact hparse
  cases memory with
  | some memory => exact congrArg Prod.snd (hload memory)
  | none =>
    have hloaded : ∀ loaded : ℤ × Params, loaded = (0, p) →
        (if loaded.1 = 0 then loaded.2 else Params.defaults) = p := by
      rintro _ rfl
      rfl
    exact hloaded _ (hload Params.zeroed)

/-- A start on registers that refuse nothing applies the configuration. -/
theorem start_first (isp : Isp) (config : Params) (hnone : ∀ r ∈ order t31, refuses r = false) :
    ∃ isp', (((State.first isp).init config true).2.start t31 refuses).2 =
      ⟨true, true, config, config, isp'⟩ ∧ ∀ r ∈ order t31, isp' r = config.settings r := by
  have hok : (applyImpParams t31 refuses config isp).1 = true := writeAll_success_iff.mpr hnone
  refine ⟨(applyImpParams t31 refuses config isp).2, ?_, fun r hr => ?_⟩
  · have hinit : ((State.first isp).init config true).2 = ⟨true, false, config, config, isp⟩ := rfl
    rw [hinit, State.start]
    simp [hok]
  · exact writeAll_of_mem ((written_of_success hok).symm ▸ hr)

/-- A value as it is printed. -/
def scalarText : Scalar → List UInt8
  | .int value => printInt value
  | .boolean value => Json.boolText value
  | .string value => Json.stringText value

/-- What json-c prints with `JSON_C_TO_STRING_PRETTY` for members that need no escapes. -/
def prettyText (members : List (List UInt8 × Scalar)) : List UInt8 :=
  let lines := members.map fun m => ascii "\n  " ++ Json.memberKey m.1 ++ scalarText m.2
  Json.openBrace :: ([Json.comma].intercalate lines ++ ascii "\n" ++ [Json.closeBrace])

/-- What is saved of the module after its start. -/
def startedParams : Params := getCurrentImpParams true startedState.isp startedState.current

/-- json-c on the file with these parameters. -/
def startedJson : JsonC := .ofMembers fun contents =>
  if contents = prettyText startedParams.saved then some startedParams.saved else none

/-- After the call to save the brightness is changed, and the program is started twice, the first
time with a register that refuses its value. -/
def restartedEvents : List Event :=
  [.call (.set noneRefuses (.brightness 10)) none,
    .restart Params.zeroed.settings none true contrastRefused]

end ImpControl
