import Strero.JsonC

/-!
# The configurations of the audio and ONVIF modules

Both parsers set every field to its default and then read the keys that are there. The audio
module also has a check; the ONVIF module has none, and the names in its authentication
section are copied without a terminator.
-/

namespace ModuleSystem

open CString

variable (J : JsonC)

/-! ### Audio -/

/-- `audio_module_config_t`. -/
structure AudioModuleConfig where
  inputEnabled : Bool
  outputEnabled : Bool
  inputSampleRate : ℤ
  outputSampleRate : ℤ
  inputBitrate : ℤ
  inputVol : ℤ
  inputGain : ℤ
  inputFormat : FixedString 16
  inputAgcEnabled : Bool
  inputAgcTargetLevelDbfs : ℤ
  inputAgcCompressionGainDb : ℤ
  inputAlcGain : ℤ
  inputHighPassFilter : Bool
  inputNoiseSuppression : ℤ
  forceStereo : Bool
deriving DecidableEq

/-- An array that holds the empty string. -/
def emptyString {size : ℕ} (hsize : 0 < size) : FixedString size := ⟨[], hsize, zero_notMem_nil⟩

/-- The structure after `memset` to zero. -/
def AudioModuleConfig.zeroed : AudioModuleConfig where
  inputEnabled := false
  outputEnabled := false
  inputSampleRate := 0
  outputSampleRate := 0
  inputBitrate := 0
  inputVol := 0
  inputGain := 0
  inputFormat := emptyString size16_pos
  inputAgcEnabled := false
  inputAgcTargetLevelDbfs := 0
  inputAgcCompressionGainDb := 0
  inputAlcGain := 0
  inputHighPassFilter := false
  inputNoiseSuppression := 0
  forceStereo := false

/-- The defaults of `audio_module_config_parse`. -/
def AudioModuleConfig.defaults : AudioModuleConfig where
  inputEnabled := false
  outputEnabled := false
  inputSampleRate := 16000
  outputSampleRate := 16000
  inputBitrate := 64
  inputVol := 80
  inputGain := 25
  inputFormat := FixedString.copy 16 size16_pos (ascii "G711A")
  inputAgcEnabled := false
  inputAgcTargetLevelDbfs := 10
  inputAgcCompressionGainDb := 0
  inputAlcGain := 0
  inputHighPassFilter := false
  inputNoiseSuppression := 0
  forceStereo := false

/-- The keys that `audio_module_config_parse` reads, over what is in the structure. -/
def AudioModuleConfig.read (json : J.Object) (c : AudioModuleConfig) : AudioModuleConfig where
  inputEnabled := J.boolField json (ascii "input_enabled") c.inputEnabled
  outputEnabled := J.boolField json (ascii "output_enabled") c.outputEnabled
  inputSampleRate := J.intField json (ascii "input_sample_rate") c.inputSampleRate
  outputSampleRate := J.intField json (ascii "output_sample_rate") c.outputSampleRate
  inputBitrate := J.intField json (ascii "input_bitrate") c.inputBitrate
  inputVol := J.intField json (ascii "input_vol") c.inputVol
  inputGain := J.intField json (ascii "input_gain") c.inputGain
  inputFormat := J.stringField size16_pos json (ascii "input_format") c.inputFormat
  inputAgcEnabled := J.boolField json (ascii "input_agc_enabled") c.inputAgcEnabled
  inputAgcTargetLevelDbfs :=
    J.intField json (ascii "input_agc_target_level_dbfs") c.inputAgcTargetLevelDbfs
  inputAgcCompressionGainDb :=
    J.intField json (ascii "input_agc_compression_gain_db") c.inputAgcCompressionGainDb
  inputAlcGain := J.intField json (ascii "input_alc_gain") c.inputAlcGain
  inputHighPassFilter := J.boolField json (ascii "input_high_pass_filter") c.inputHighPassFilter
  inputNoiseSuppression :=
    J.intField json (ascii "input_noise_suppression") c.inputNoiseSuppression
  forceStereo := J.boolField json (ascii "force_stereo") c.forceStereo

/-- `audio_module_config_parse`. -/
def audioModuleConfigParse (json : J.Object) (_config : AudioModuleConfig) :
    ℤ × AudioModuleConfig :=
  (0, AudioModuleConfig.defaults.read J json)

/-- `strcasecmp(s, t) == 0` for ASCII strings. -/
def strcasecmpEq (s t : List UInt8) : Bool :=
  let lower (c : UInt8) : UInt8 := if 65 ≤ c ∧ c ≤ 90 then c + 32 else c
  s.map lower = t.map lower

/-- `audio_codec_t`. -/
inductive AudioCodec
  | g711a | g711u | aac | opus | pcm
deriving DecidableEq

/-- `string_to_audio_codec`. -/
def stringToAudioCodec (format : List UInt8) : AudioCodec :=
  if format = [] then .g711a
  else if strcasecmpEq format (ascii "G711A") then .g711a
  else if strcasecmpEq format (ascii "G711U") then .g711u
  else if strcasecmpEq format (ascii "AAC") then .aac
  else if strcasecmpEq format (ascii "OPUS") then .opus
  else if strcasecmpEq format (ascii "PCM") then .pcm
  else .g711a

/-- `audio_module_config_validate`. -/
def audioModuleConfigValidate (c : AudioModuleConfig) : ℤ :=
  if c.inputSampleRate ≠ 8000 ∧ c.inputSampleRate ≠ 16000 ∧ c.inputSampleRate ≠ 48000 then -1
  else if c.inputBitrate < 8 ∨ c.inputBitrate > 320 then -1
  else if c.inputVol < 0 ∨ c.inputVol > 100 then -1
  else if stringToAudioCodec c.inputFormat.bytes = .pcm ∧ c.inputFormat.bytes ≠ ascii "PCM" then -1
  else 0

/-- The defaults pass the check. -/
theorem audioModuleConfigValidate_defaults :
    audioModuleConfigValidate AudioModuleConfig.defaults = 0 := by
  decide +kernel

/-! ### ONVIF -/

/-- `auth_config_t`, with all bytes of its two arrays. -/
structure RawAuthConfig where
  enabled : Bool
  localhostBypass : Bool
  username : List UInt8
  password : List UInt8
deriving DecidableEq

/-- `onvif_module_config_t`. -/
structure OnvifModuleConfig where
  enabled : Bool
  auth : RawAuthConfig
  deviceName : FixedString 64
  deviceLocation : FixedString 64
  manufacturer : FixedString 64
  model : FixedString 64
  serialNumber : FixedString 64
  firmwareVersion : FixedString 32
  hardwareId : FixedString 32
  discoveryEnabled : Bool
  discoveryPort : ℤ
  deviceServiceEnabled : Bool
  mediaServiceEnabled : Bool
  eventServiceEnabled : Bool
deriving DecidableEq

/-- The structure after `memset` to zero. -/
def OnvifModuleConfig.zeroed : OnvifModuleConfig where
  enabled := false
  auth := ⟨false, false, List.replicate 64 0, List.replicate 64 0⟩
  deviceName := emptyString size64_pos
  deviceLocation := emptyString size64_pos
  manufacturer := emptyString size64_pos
  model := emptyString size64_pos
  serialNumber := emptyString size64_pos
  firmwareVersion := emptyString size32_pos
  hardwareId := emptyString size32_pos
  discoveryEnabled := false
  discoveryPort := 0
  deviceServiceEnabled := false
  mediaServiceEnabled := false
  eventServiceEnabled := false

/-- `strcpy` into an array. -/
def strcpyInto (source array : List UInt8) : List UInt8 :=
  source ++ 0 :: array.drop (source.length + 1)

/-- `strncpy` of `n` bytes into an array. -/
def strncpyInto (n : ℕ) (source array : List UInt8) : List UInt8 :=
  (cString source).take n ++ List.replicate (n - (cString source).length) 0 ++ array.drop n

/-- A string that is read into an array without setting the last byte. -/
def rawStringField (n : ℕ) (parent : J.Object) (key array : List UInt8) : List UInt8 :=
  ((J.getEx parent key).bind J.getString).elim array fun value => strncpyInto n value array

/-- The authentication section of `onvif_module_config_parse`. -/
def RawAuthConfig.read (auth : J.Object) (c : RawAuthConfig) : RawAuthConfig where
  enabled := J.boolField auth (ascii "enabled") c.enabled
  localhostBypass := J.boolField auth (ascii "localhost_bypass") c.localhostBypass
  username := rawStringField J 63 auth (ascii "username") c.username
  password := rawStringField J 63 auth (ascii "password") c.password

/-- The defaults of the authentication section. -/
def RawAuthConfig.defaults (c : RawAuthConfig) : RawAuthConfig where
  enabled := false
  localhostBypass := true
  username := strcpyInto (ascii "admin") c.username
  password := strcpyInto (ascii "admin") c.password

/-- `onvif_module_config_parse`. -/
def onvifModuleConfigParse (json : J.Object) (c : OnvifModuleConfig) : ℤ × OnvifModuleConfig :=
  let text (size : ℕ) (hsize : 0 < size) (key default : List UInt8) : FixedString size :=
    J.stringField hsize json key (FixedString.copy size hsize default)
  (0, {
    enabled := J.boolField json (ascii "enabled") true
    auth := J.sectionField json (ascii "auth") (RawAuthConfig.read J) c.auth.defaults
    deviceName := text 64 size64_pos (ascii "device_name") (ascii "Thingino Camera")
    deviceLocation := text 64 size64_pos (ascii "device_location") (ascii "Embedded")
    manufacturer := text 64 size64_pos (ascii "manufacturer") (ascii "Thingino")
    model := text 64 size64_pos (ascii "model") (ascii "Streamer")
    serialNumber := text 64 size64_pos (ascii "serial_number") (ascii "123456789")
    firmwareVersion := text 32 size32_pos (ascii "firmware_version") (ascii "1.0.0")
    hardwareId := text 32 size32_pos (ascii "hardware_id") (ascii "thingino-hw1")
    discoveryEnabled := true
    discoveryPort := 3702
    deviceServiceEnabled := true
    mediaServiceEnabled := true
    eventServiceEnabled := false })

/-- The bytes of an array of 64 that ends with a NUL. -/
def Terminated (array : List UInt8) : Prop := array.length = 64 ∧ array[63]? = some 0

theorem Terminated.strncpyInto {array : List UInt8} (h : Terminated array) (source : List UInt8) :
    Terminated (strncpyInto 63 source array) := by
  obtain ⟨hlength, hlast⟩ := h
  have hcopied : ((cString source).take 63 ++
      List.replicate (63 - (cString source).length) 0).length = 63 := by
    rw [List.length_append, List.length_take, List.length_replicate]
    omega
  constructor
  · rw [ModuleSystem.strncpyInto, List.length_append, hcopied, List.length_drop, hlength]
  · rw [ModuleSystem.strncpyInto, List.getElem?_append_right (by omega), hcopied,
      List.getElem?_drop, hlast]

theorem Terminated.rawStringField {array : List UInt8} (h : Terminated array) {parent : J.Object}
    {key : List UInt8} : Terminated (rawStringField J 63 parent key array) := by
  unfold ModuleSystem.rawStringField
  cases (J.getEx parent key).bind J.getString with
  | none => exact h
  | some value => exact h.strncpyInto value

/-- The names that are copied without a terminator get it from `memset`. -/
theorem onvifModuleConfigParse_terminated (json : J.Object) :
    Terminated (onvifModuleConfigParse J json .zeroed).2.auth.username ∧
      Terminated (onvifModuleConfigParse J json .zeroed).2.auth.password := by
  have hdefault : Terminated (strcpyInto (ascii "admin") (List.replicate 64 0)) :=
    ⟨by decide +kernel, by decide +kernel⟩
  have hauth : (onvifModuleConfigParse J json .zeroed).2.auth =
      J.sectionField json (ascii "auth") (RawAuthConfig.read J)
        (OnvifModuleConfig.zeroed.auth.defaults) :=
    rfl
  rw [hauth, JsonC.sectionField]
  cases J.getEx json (ascii "auth") with
  | none => exact ⟨hdefault, hdefault⟩
  | some auth => exact ⟨hdefault.rawStringField J, hdefault.rawStringField J⟩

end ModuleSystem
