import Strero.JsonC
import Strero.Lib.Scanf

/-!
# The settings of the streamer

The values in use are kept in a structure with one part for each section of the file. Each
part is written key by key; what the file does not mention keeps its value. The streams are
built anew from each file.
-/

namespace ConfigFile

open CString

variable (J : JsonC)

/-- An array that holds the empty string. -/
def noText {size : ℕ} (hsize : 0 < size) : FixedString size := ⟨[], hsize, zero_notMem_nil⟩

/-! ### Sections -/

/-- `general_config_t`. -/
structure General where
  serverIp : FixedString 64
  httpPort : ℤ
  loglevel : FixedString 16
  osdPoolSize : ℤ
  memoryMonitoringEnabled : Bool
  allocationTrackingEnabled : Bool
  zeroCopyEnabled : Bool
  zeroCopyBufferPoolSize : ℤ
deriving DecidableEq

/-- The keys of the section `general`. -/
def General.read (obj : J.Object) (g : General) : General where
  loglevel := J.stringField size16_pos obj (ascii "loglevel") g.loglevel
  osdPoolSize := J.intField obj (ascii "osd_pool_size") g.osdPoolSize
  memoryMonitoringEnabled :=
    J.boolField obj (ascii "memory_monitoring_enabled") g.memoryMonitoringEnabled
  allocationTrackingEnabled :=
    J.boolField obj (ascii "allocation_tracking_enabled") g.allocationTrackingEnabled
  zeroCopyEnabled := J.boolField obj (ascii "zero_copy_enabled") g.zeroCopyEnabled
  zeroCopyBufferPoolSize :=
    J.intField obj (ascii "zero_copy_buffer_pool_size") g.zeroCopyBufferPoolSize
  serverIp := J.stringField size64_pos obj (ascii "server_ip") g.serverIp
  httpPort := J.intField obj (ascii "http_port") g.httpPort

/-- What `get_device_ip_address` puts into an array of 64 bytes. It starts from `0.0.0.0` and
replaces it by a numeric address at most, so that the string is not empty. -/
abbrev DeviceIp := { ip : FixedString 64 // ip.bytes ≠ [] }

/-- The address that is filled in for an empty one. -/
def fillIp (deviceIp : DeviceIp) (ip : FixedString 64) : FixedString 64 :=
  if ip.bytes = [] then deviceIp else ip

/-- The port that is filled in for zero. -/
def fillPort (port : ℤ) : ℤ := if port = 0 then 8080 else port

/-- The defaults that follow on the section `general`. -/
def General.fill (deviceIp : DeviceIp) (g : General) : General :=
  { g with serverIp := fillIp deviceIp g.serverIp, httpPort := fillPort g.httpPort }

/-- `sensor_config_t`. -/
structure Sensor where
  fps : ℤ
deriving DecidableEq

/-- The keys of the section `sensor`. -/
def Sensor.read (obj : J.Object) (s : Sensor) : Sensor where
  fps := J.intField obj (ascii "fps") s.fps

/-- `jpeg_config_t`. -/
structure Jpeg where
  enabled : Bool
  jpegChannel : ℤ
  jpegIdleFps : ℤ
  jpegPath : FixedString 256
  jpegQuality : ℤ
  jpegRefresh : ℤ
deriving DecidableEq

/-- `parse_jpeg_config`. -/
def Jpeg.read (obj : J.Object) (j : Jpeg) : Jpeg where
  enabled := J.boolField obj (ascii "enabled") j.enabled
  jpegChannel := J.intField obj (ascii "jpeg_channel") j.jpegChannel
  jpegIdleFps := J.intField obj (ascii "jpeg_idle_fps") j.jpegIdleFps
  jpegPath := J.stringField size256_pos obj (ascii "jpeg_path") j.jpegPath
  jpegQuality := J.intField obj (ascii "jpeg_quality") j.jpegQuality
  jpegRefresh := J.intField obj (ascii "jpeg_refresh") j.jpegRefresh

/-- `sysinfo_config_t`. -/
structure Sysinfo where
  enabled : Bool
  updateInterval : ℤ
  includeMemory : Bool
  includeLoad : Bool
deriving DecidableEq

/-- The keys of the section `sysinfo`. -/
def Sysinfo.read (obj : J.Object) (s : Sysinfo) : Sysinfo where
  enabled := J.boolField obj (ascii "enabled") s.enabled
  updateInterval := J.intField obj (ascii "update_interval") s.updateInterval
  includeMemory := J.boolField obj (ascii "include_memory") s.includeMemory
  includeLoad := J.boolField obj (ascii "include_load") s.includeLoad

/-- `snapshot_fallback_config_t`. -/
structure SnapshotFallback where
  enabled : Bool
  outputDir : FixedString 256
  updateIntervalMs : ℤ
  overwriteExisting : Bool
  maxFileAgeSeconds : ℤ
deriving DecidableEq

/-- The keys of the section `snapshot_fallback`. -/
def SnapshotFallback.read (obj : J.Object) (s : SnapshotFallback) : SnapshotFallback where
  enabled := J.boolField obj (ascii "enabled") s.enabled
  outputDir := J.stringField size256_pos obj (ascii "output_dir") s.outputDir
  updateIntervalMs := J.intField obj (ascii "update_interval_ms") s.updateIntervalMs
  overwriteExisting := J.boolField obj (ascii "overwrite_existing") s.overwriteExisting
  maxFileAgeSeconds := J.intField obj (ascii "max_file_age_seconds") s.maxFileAgeSeconds

/-- `snapshot_fallback_set_default_config`. -/
def SnapshotFallback.setDefaultConfig : SnapshotFallback where
  enabled := true
  outputDir := FixedString.copy 256 size256_pos (ascii "/tmp")
  updateIntervalMs := 5000
  overwriteExisting := true
  maxFileAgeSeconds := 3600

/-! ### Streams -/

/-- The crop of a frame source. -/
structure Crop where
  enabled : Bool
  top : ℤ
  left : ℤ
  width : ℤ
  height : ℤ
deriving DecidableEq

/-- The keys of the section `crop`. -/
def Crop.read (obj : J.Object) (c : Crop) : Crop where
  enabled := J.boolField obj (ascii "enabled") c.enabled
  top := J.intField obj (ascii "top") c.top
  left := J.intField obj (ascii "left") c.left
  width := J.intField obj (ascii "width") c.width
  height := J.intField obj (ascii "height") c.height

/-- The scaler of a frame source. -/
structure Scaler where
  enabled : Bool
  outputWidth : ℤ
  outputHeight : ℤ
deriving DecidableEq

/-- The keys of the section `scaler`. -/
def Scaler.read (obj : J.Object) (s : Scaler) : Scaler where
  enabled := J.boolField obj (ascii "enabled") s.enabled
  outputWidth := J.intField obj (ascii "output_width") s.outputWidth
  outputHeight := J.intField obj (ascii "output_height") s.outputHeight

/-- The frame source of a stream. -/
structure Framesource where
  pixelFormat : FixedString 16
  frameRateNum : ℤ
  frameRateDen : ℤ
  bufferCount : ℤ
  channelType : FixedString 16
  crop : Crop
  scaler : Scaler
  pictureWidth : ℤ
  pictureHeight : ℤ
deriving DecidableEq

/-- The keys of the section `framesource`. -/
def Framesource.read (obj : J.Object) (f : Framesource) : Framesource where
  pixelFormat := J.stringField size16_pos obj (ascii "pixel_format") f.pixelFormat
  frameRateNum := J.intField obj (ascii "frame_rate_num") f.frameRateNum
  frameRateDen := J.intField obj (ascii "frame_rate_den") f.frameRateDen
  bufferCount := J.intField obj (ascii "buffer_count") f.bufferCount
  channelType := J.stringField size16_pos obj (ascii "channel_type") f.channelType
  pictureWidth := J.intField obj (ascii "picture_width") f.pictureWidth
  pictureHeight := J.intField obj (ascii "picture_height") f.pictureHeight
  crop := J.sectionField obj (ascii "crop") (Crop.read J) f.crop
  scaler := J.sectionField obj (ascii "scaler") (Scaler.read J) f.scaler

/-- `stream_config_t`. -/
structure Stream where
  enabled : Bool
  width : ℤ
  height : ℤ
  resolution : FixedString 16
  bitrate : ℤ
  format : FixedString 16
  rtspEndpoint : FixedString 64
  rtspInfo : FixedString 128
  framesource : Framesource
deriving DecidableEq

/-- A stream after `calloc`. -/
def Stream.zeroed : Stream where
  enabled := false
  width := 0
  height := 0
  resolution := noText size16_pos
  bitrate := 0
  format := noText size16_pos
  rtspEndpoint := noText size64_pos
  rtspInfo := noText size128_pos
  framesource := {
    pixelFormat := noText size16_pos
    frameRateNum := 0
    frameRateDen := 0
    bufferCount := 0
    channelType := noText size16_pos
    crop := ⟨false, 0, 0, 0, 0⟩
    scaler := ⟨false, 0, 0⟩
    pictureWidth := 0
    pictureHeight := 0 }

/-- `sscanf(resolution, "%dx%d", width, height)`. -/
def resolutionFormat : Scanf.Scanner (ℤ × ℤ) := do
  let width ← Scanf.int
  Scanf.literal "x"
  let height ← Scanf.int
  pure (width, height)

/-- `parse_resolution_field`. -/
def Stream.readResolution (parent : J.Object) (key : List UInt8) (s : Stream) : Stream :=
  match (J.getEx parent key).bind J.getString with
  | none => s
  | some resolution =>
    let (width, height) := (resolutionFormat.scan (cString resolution)).getD (1920, 1080)
    { s with
      resolution := FixedString.copy 16 size16_pos resolution
      width := width
      height := height }

/-- `parse_stream_config`. -/
def Stream.read (obj : J.Object) (s : Stream) : Stream :=
  let s := s.readResolution J obj (ascii "resolution")
  { s with
    enabled := J.boolField obj (ascii "enabled") s.enabled
    bitrate := J.intField obj (ascii "bitrate") s.bitrate
    format := J.stringField size16_pos obj (ascii "format") s.format
    rtspEndpoint := J.stringField size64_pos obj (ascii "rtsp_endpoint") s.rtspEndpoint
    rtspInfo := J.stringField size128_pos obj (ascii "rtsp_info") s.rtspInfo
    framesource := J.sectionField obj (ascii "framesource") (Framesource.read J) s.framesource }

/-- The streams of a file, up to `stream_count`. -/
def readStreams (root : J.Object) : List Stream :=
  match J.getEx root (ascii "streams") with
  | none => []
  | some array =>
    if J.isNull array then []
    else (List.range (J.arrayLength array)).map fun i =>
      let obj := J.getIdx array i
      if J.isNull obj then .zeroed else Stream.zeroed.read J obj

/-! ### The whole file -/

/-- What of `streamer_config_t` is in use. -/
structure Settings (J : JsonC) where
  jsonConfig : Option J.Object
  general : General
  sensor : Sensor
  jpeg : Jpeg
  sysinfo : Sysinfo
  snapshotFallback : SnapshotFallback
  streams : List Stream

instance Settings.decidableEq [DecidableEq J.Object] : DecidableEq (Settings J) := fun a b =>
  decidable_of_iff (a.jsonConfig = b.jsonConfig ∧ a.general = b.general ∧ a.sensor = b.sensor ∧
    a.jpeg = b.jpeg ∧ a.sysinfo = b.sysinfo ∧ a.snapshotFallback = b.snapshotFallback ∧
    a.streams = b.streams) (by cases a; cases b; simp)

variable {J}

/-- `config_parse_json` with the new object in `json_config`. -/
def Settings.parse (deviceIp : DeviceIp) (root : J.Object) (c : Settings J) : Settings J where
  jsonConfig := some root
  general := (J.sectionField root (ascii "general") (General.read J) c.general).fill deviceIp
  sensor := J.sectionField root (ascii "sensor") (Sensor.read J) c.sensor
  jpeg := J.sectionField root (ascii "jpeg") (Jpeg.read J) c.jpeg
  streams := readStreams J root
  sysinfo := J.sectionField root (ascii "sysinfo") (Sysinfo.read J) c.sysinfo
  snapshotFallback :=
    J.sectionField root (ascii "snapshot_fallback") (SnapshotFallback.read J) c.snapshotFallback

/-- What `config_create_new` leaves in the structure. -/
def Settings.createNew : Settings J where
  jsonConfig := none
  general := ⟨noText size64_pos, 0, noText size16_pos, 0, false, false, false, 0⟩
  sensor := ⟨0⟩
  jpeg := ⟨false, 0, 0, noText size256_pos, 0, 0⟩
  sysinfo := ⟨false, 0, false, false⟩
  snapshotFallback := .setDefaultConfig
  streams := []

end ConfigFile
