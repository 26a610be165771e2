import Mathlib.Data.List.OfFn
import Strero.JsonC
import Strero.Lib.Scanf

/-!
# The configuration of the motion detector

The module has a configuration file of its own, and the zones are in another file. That file is
read when the module is initialised, over the zones that are there, and its full-frame zones
take the dimensions of the channel that is monitored.
-/

namespace Motion

open CString Scanf

/-- What the module uses of json-c: the functions that the other parsers use, the check for an
array, and the parser of a text. -/
structure Tokener extends JsonC where
  /-- `json_object_is_type(object, json_type_array)`. -/
  isArray : Object → Bool
  /-- `json_tokener_parse`. -/
  tokenerParse : List UInt8 → Option Object

/-- `MOTION_MAX_ROI_COUNT`. -/
abbrev maxRoiCount : ℕ := 4

/-- `FS_CHN_NUM`. -/
abbrev fsChnNum : ℕ := 4

/-- An element of `zones`. -/
structure Zone where
  id : Int32
  type : FixedString 16
  x : Int32
  y : Int32
  width : Int32
  height : Int32
  name : FixedString 64
deriving DecidableEq

/-- `motion_module_config_t`. -/
structure Config where
  enabled : Bool
  monitorStream : Int32
  sensitivity : Int32
  skipFrameCount : Int32
  ivsPollingTimeout : Int32
  cooldownTime : Int32
  debounceTime : Int32
  initTime : Int32
  minTime : Int32
  postTime : Int32
  frameWidth : Int32
  frameHeight : Int32
  zoneCount : Int32
  zones : Fin maxRoiCount → Zone
  minObjectSize : Int32
  scriptPath : FixedString 256

/-- A zone after `memset` to zero. -/
def Zone.zeroed : Zone where
  id := 0
  type := .copy 16 size16_pos []
  x := 0
  y := 0
  width := 0
  height := 0
  name := .copy 64 size64_pos []

/-- The structure after `memset` to zero. -/
def Config.zeroed : Config where
  enabled := false
  monitorStream := 0
  sensitivity := 0
  skipFrameCount := 0
  ivsPollingTimeout := 0
  cooldownTime := 0
  debounceTime := 0
  initTime := 0
  minTime := 0
  postTime := 0
  frameWidth := 0
  frameHeight := 0
  zoneCount := 0
  zones := fun _ => .zeroed
  minObjectSize := 0
  scriptPath := .copy 256 size256_pos []

/-- The two values that `type` may have. -/
def includeType : List UInt8 := ascii "include"

def excludeType : List UInt8 := ascii "exclude"

/-- The zone that stands for the whole frame until its dimensions are known. -/
def Zone.fullFrame : Zone where
  id := 1
  type := .copy 16 size16_pos includeType
  x := 0
  y := 0
  width := 0
  height := 0
  name := .copy 64 size64_pos (ascii "full_frame")

/-- The first zone is the whole frame, and there is no other. -/
def Config.useFullFrame (c : Config) : Config :=
  { c with zoneCount := 1, zones := fun i => if i.val = 0 then .fullFrame else c.zones i }

/-- `motion_set_default_config`. -/
def Config.defaults : Config :=
  { Config.zeroed with
    enabled := false
    monitorStream := 1
    sensitivity := 1
    skipFrameCount := 5
    ivsPollingTimeout := 1000
    cooldownTime := 5
    debounceTime := 0
    initTime := 5
    minTime := 1
    postTime := 0
    frameWidth := 1920
    frameHeight := 1080
    minObjectSize := 5
    scriptPath := .copy 256 size256_pos (ascii "/usr/sbin/motion") }.useFullFrame

/-- The zones that loops over `zone_count` zones visit. -/
def Config.inUse (c : Config) : List Zone := (List.ofFn c.zones).take c.zoneCount.toInt.toNat

theorem Config.mem_inUse {c : Config} {zone : Zone} :
    zone ∈ c.inUse ↔ ∃ i : Fin maxRoiCount, i.val < c.zoneCount.toInt.toNat ∧ c.zones i = zone := by
  unfold inUse
  rw [List.mem_take_iff_getElem]
  constructor
  · rintro ⟨i, hi, rfl⟩
    rw [List.length_ofFn] at hi
    exact ⟨⟨i, by omega⟩, by dsimp only; omega, by rw [List.getElem_ofFn]⟩
  · rintro ⟨i, hi, rfl⟩
    exact ⟨i, by rw [List.length_ofFn]; omega, by rw [List.getElem_ofFn]⟩

/-! ### The check -/

/-- The zone passes the body of the loop of `motion_module_config_validate`. -/
def Zone.passes (z : Zone) : Bool :=
  if z.width = 0 ∧ z.height = 0 then true
  else if z.width ≤ 0 ∨ z.height ≤ 0 then false
  else if z.x < 0 ∨ z.y < 0 then false
  else z.type.bytes = includeType || z.type.bytes = excludeType

/-- `motion_module_config_validate`. -/
def motionModuleConfigValidate (c : Config) : ℤ :=
  if c.sensitivity < 0 ∨ 8 < c.sensitivity then -1
  else if c.zoneCount < 1 ∨ 4 < c.zoneCount then -1
  else if c.inUse.all Zone.passes then 0
  else -1

/-- What the check asks of the zones. -/
structure Config.ZonesPass (c : Config) : Prop where
  count_pos : 0 < c.zoneCount.toInt
  count_le : c.zoneCount.toInt ≤ maxRoiCount
  passes : ∀ zone ∈ c.inUse, zone.passes = true

theorem motionModuleConfigValidate_eq_zero_iff {c : Config} :
    motionModuleConfigValidate c = 0 ↔
      (0 ≤ c.sensitivity.toInt ∧ c.sensitivity.toInt ≤ 8) ∧ c.ZonesPass := by
  have hsensitivity : (c.sensitivity < 0 ∨ 8 < c.sensitivity) ↔
      ¬(0 ≤ c.sensitivity.toInt ∧ c.sensitivity.toInt ≤ 8) := by
    rw [Int32.lt_iff_toInt_lt, Int32.lt_iff_toInt_lt, Int32.toInt_zero,
      show (8 : Int32).toInt = 8 from rfl]
    omega
  have hcount : (c.zoneCount < 1 ∨ 4 < c.zoneCount) ↔
      ¬(0 < c.zoneCount.toInt ∧ c.zoneCount.toInt ≤ maxRoiCount) := by
    rw [Int32.lt_iff_toInt_lt, Int32.lt_iff_toInt_lt, show (1 : Int32).toInt = 1 from rfl,
      show (4 : Int32).toInt = 4 from rfl, show ((maxRoiCount : ℕ) : ℤ) = 4 from rfl]
    omega
  unfold motionModuleConfigValidate
  rw [if_congr hsensitivity rfl rfl, if_congr hcount rfl rfl]
  constructor
  · intro h
    split_ifs at h with h1 h2 h3
    obtain ⟨hpos, hle⟩ := h2
    exact ⟨h1, hpos, hle, by simpa using h3⟩
  · rintro ⟨hs, hpos, hle, hpass⟩
    rw [if_neg (not_not.mpr hs), if_neg (not_not.mpr ⟨hpos, hle⟩), if_pos (by simpa using hpass)]

/-- The defaults pass the check. -/
theorem motionModuleConfigValidate_defaults : motionModuleConfigValidate Config.defaults = 0 := by
  decide +kernel

/-! ### The parsers -/

variable (J : Tokener)

/-- `json_object_get_int` of a member, if it is there. -/
def intMember (parent : J.Object) (key : List UInt8) (dest : Int32) : Int32 :=
  ((J.getEx parent key).map fun member => Int32.ofInt (J.getInt member)).getD dest

/-- `motion_module_config_parse`. The check for null pointers passes, and the zones are not read
here. -/
def motionModuleConfigParse (json : J.Object) : Config :=
  let c := Config.defaults
  { c with
    enabled := J.boolField json (ascii "enabled") c.enabled
    monitorStream := intMember J json (ascii "monitor_stream") c.monitorStream
    sensitivity := intMember J json (ascii "sensitivity") c.sensitivity
    skipFrameCount := intMember J json (ascii "skip_frame_count") c.skipFrameCount
    ivsPollingTimeout := intMember J json (ascii "ivs_polling_timeout") c.ivsPollingTimeout
    cooldownTime := intMember J json (ascii "cooldown_time") c.cooldownTime
    debounceTime := intMember J json (ascii "debounce_time") c.debounceTime
    initTime := intMember J json (ascii "init_time") c.initTime
    minTime := intMember J json (ascii "min_time") c.minTime
    postTime := intMember J json (ascii "post_time") c.postTime
    scriptPath := J.stringField size256_pos json (ascii "script_path") c.scriptPath }

/-- The body of the loop of `parse_zone_config`, for an element that is not null. -/
def Zone.read (zoneObj : J.Object) (z : Zone) : Zone where
  id := intMember J zoneObj (ascii "id") z.id
  type := J.stringField size16_pos zoneObj (ascii "type") z.type
  name := J.stringField size64_pos zoneObj (ascii "name") z.name
  x := intMember J zoneObj (ascii "x") z.x
  y := intMember J zoneObj (ascii "y") z.y
  width := intMember J zoneObj (ascii "width") z.width
  height := intMember J zoneObj (ascii "height") z.height

/-- A null element leaves the zone as it was. -/
def Zone.readElement (zonesArray : J.Object) (i : ℕ) (z : Zone) : Zone :=
  if J.isNull (J.getIdx zonesArray i) then z else z.read J (J.getIdx zonesArray i)

/-- The sensitivity from 0 to 100 as one from 0 to 8. -/
def scaledSensitivity (text : List UInt8) : Int32 :=
  let sensitivity := Int32.ofInt (atoi text) / 10
  let sensitivity := if sensitivity > 8 then 8 else sensitivity
  if sensitivity < 0 then 0 else sensitivity

/-- The settings in the file of the zones. -/
def Config.readSettings (settings : J.Object) (c : Config) : Config :=
  { c with
    sensitivity := (((J.getEx settings (ascii "sensitivity")).bind J.getString).map
      scaledSensitivity).getD c.sensitivity
    minObjectSize := (((J.getEx settings (ascii "minObjectSize")).bind J.getString).map
      fun text => Int32.ofInt (atoi text)).getD c.minObjectSize }

/-- The zones of an array. A file has fewer elements than an int can count. -/
def Config.readZones (zonesArray : J.Object) (c : Config) : Config :=
  let count := min (J.arrayLength zonesArray) maxRoiCount
  { c with
    zoneCount := Int32.ofNat count
    zones := fun i => if i.val < count then (c.zones i).readElement J zonesArray i else c.zones i }

/-- The array of the zones, if there is one. -/
def zonesArray (json : J.Object) : Option J.Object :=
  (J.getEx json (ascii "zones")).filter J.isArray

/-- `parse_zone_config`. -/
def parseZoneConfig (json : J.Object) (c : Config) : Config :=
  match zonesArray J json with
  | some array =>
    J.sectionField json (ascii "settings") (Config.readSettings J) (c.readZones J array)
  | none => c.useFullFrame

/-- The root of the first of the files that can be read and parsed. -/
def roiRoot (files : List (Option (List UInt8))) : Option J.Object :=
  files.findSome? fun file => file.bind fun content => J.tokenerParse (cString content)

/-- `load_roi_config`, by what is read of the two files. -/
def loadRoiConfig (files : List (Option (List UInt8))) (c : Config) : Config :=
  match roiRoot J files with
  | none => { c.useFullFrame with minObjectSize := 5 }
  | some root => parseZoneConfig J root c

variable {J}

/-- What a parsed file passes the check with is its sensitivity. -/
theorem motionModuleConfigValidate_parse_iff (json : J.Object) :
    motionModuleConfigValidate (motionModuleConfigParse J json) = 0 ↔
      0 ≤ (intMember J json (ascii "sensitivity") 1).toInt ∧
        (intMember J json (ascii "sensitivity") 1).toInt ≤ 8 := by
  have hdefaults :=
    (motionModuleConfigValidate_eq_zero_iff.mp motionModuleConfigValidate_defaults).2
  rw [motionModuleConfigValidate_eq_zero_iff]
  constructor
  · rintro ⟨hsensitivity, -⟩
    exact hsensitivity
  · intro hsensitivity
    exact ⟨hsensitivity, hdefaults.count_pos, hdefaults.count_le, hdefaults.passes⟩

/-! ### The channel -/

/-- What the module reads of an element of `chn`. -/
structure Channel where
  enable : Bool
  scalerEnable : Bool
  outWidth : Int32
  outHeight : Int32
  picWidth : Int32
  picHeight : Int32
deriving DecidableEq

/-- `motion_get_channel_dimensions`. -/
def motionGetChannelDimensions (chn : Fin fsChnNum → Channel) (channel : Int32) :
    Option (Int32 × Int32) :=
  if h : 0 ≤ channel.toInt ∧ channel.toInt < fsChnNum then
    let c := chn ⟨channel.toInt.toNat, by omega⟩
    if !c.enable then none
    else if c.scalerEnable then some (c.outWidth, c.outHeight)
    else some (c.picWidth, c.picHeight)
  else none

/-- A full-frame zone takes the dimensions of the frame. -/
def Zone.resolve (width height : Int32) (z : Zone) : Zone :=
  if z.width = 0 ∧ z.height = 0 then { z with width, height } else z

/-- The dimensions are written into the configuration. -/
def Config.withDimensions (c : Config) : Option (Int32 × Int32) → Config
  | some (width, height) =>
    { c with
      frameWidth := width
      frameHeight := height
      zones := fun i =>
        if i.val < c.zoneCount.toInt.toNat then (c.zones i).resolve width height else c.zones i }
  | none => c

end Motion
