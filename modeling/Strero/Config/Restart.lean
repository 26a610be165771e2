import Strero.Config.Load

/-!
# Reloads and restarts

At start-up the settings are read into a new structure and then adjusted to the sensor. A
reload reads the file over what earlier files have left, and adjusts nothing.
-/

namespace ConfigFile

open CString

variable {J : JsonC}

/-- What `sensor_info_t` says about the limits of the sensor, and its `fps`. -/
structure SensorInfo where
  width : ℤ
  height : ℤ
  minFps : ℤ
  maxFps : ℤ
  fps : ℤ

/-- The frame rate that the sensor is run with. -/
def SensorInfo.clampFps (info : SensorInfo) (fps : ℤ) : ℤ :=
  let fps := if fps > info.maxFps then info.maxFps else fps
  if fps < info.minFps then info.minFps else fps

/-- The loop over the streams of `sensor_validate_and_adjust_config`. -/
def SensorInfo.clampStream (info : SensorInfo) (stream : Stream) : Stream :=
  { stream with
    width := if stream.width > info.width then info.width else stream.width
    height := if stream.height > info.height then info.height else stream.height }

/-- `sensor_validate_and_adjust_config`. -/
def sensorValidateAndAdjustConfig (info : SensorInfo) (c : StreamerConfig J) :
    SensorInfo × StreamerConfig J :=
  let fps := info.clampFps c.sensor.fps
  ({ info with fps := fps },
    { c with sensor := ⟨fps⟩, streams := c.streams.map info.clampStream })

/-- The settings are within the limits of the sensor. -/
structure Settings.InLimits (c : Settings J) (info : SensorInfo) : Prop where
  minFps : info.minFps ≤ c.sensor.fps
  maxFps : c.sensor.fps ≤ info.maxFps
  streams : ∀ stream ∈ c.streams, stream.width ≤ info.width ∧ stream.height ≤ info.height

/-- The configuration after the start-up with the first file. -/
def startUp (info : SensorInfo) (first : View) : StreamerConfig J :=
  (sensorValidateAndAdjustConfig info (StreamerConfig.createNew.load first).2).2

/-- The configuration after a reload. -/
def reloaded (c : StreamerConfig J) (v : View) : StreamerConfig J := (c.reload v).2

/-- The configuration after the start-up with the first file and reloads of the later ones. -/
def running (info : SensorInfo) (first : View) (later : List View) : StreamerConfig J :=
  later.foldl reloaded (startUp info first)

/-- Each file of the run is accepted. -/
def Accepted (J : JsonC) (info : SensorInfo) (first : View) (later : List View) : Prop :=
  ((StreamerConfig.createNew : StreamerConfig J).load first).1 = 0 ∧
    Runs.Guarded reloaded (fun c v => (c.reload v).1 = 0)
      (startUp info first : StreamerConfig J) later

/-- The last file, loaded into a new structure, gives the same configuration, and that is
within the limits of the sensor. -/
def AsRestarted (J : JsonC) (info : SensorInfo) (first : View) (later : List View) : Prop :=
  let c : StreamerConfig J := running info first later
  StreamerConfig.createNew.load (later.getLastD first) = (0, c) ∧ c.InLimits info

/-! ### What a file gives -/

/-- A section of the file gives a value for a key. -/
def Gives (obj : Option J.Object) (key : List UInt8) : Prop :=
  ∃ o, obj = some o ∧ J.Has o key

/-- A section of the file gives a text for a key. -/
def GivesText (obj : Option J.Object) (key : List UInt8) : Prop :=
  ∃ o, obj = some o ∧ J.HasString o key

/-- The values of two sections are the same in what the file does not give. An address and a
port that are not set count as what they are filled in with. -/
def General.SameBut (obj : Option J.Object) (deviceIp : DeviceIp) (a b : General) : Prop :=
  (GivesText obj (ascii "server_ip") ∨
      fillIp deviceIp a.serverIp = fillIp deviceIp b.serverIp) ∧
    (Gives obj (ascii "http_port") ∨ fillPort a.httpPort = fillPort b.httpPort) ∧
    (GivesText obj (ascii "loglevel") ∨ a.loglevel = b.loglevel) ∧
    (Gives obj (ascii "osd_pool_size") ∨ a.osdPoolSize = b.osdPoolSize) ∧
    (Gives obj (ascii "memory_monitoring_enabled") ∨
      a.memoryMonitoringEnabled = b.memoryMonitoringEnabled) ∧
    (Gives obj (ascii "allocation_tracking_enabled") ∨
      a.allocationTrackingEnabled = b.allocationTrackingEnabled) ∧
    (Gives obj (ascii "zero_copy_enabled") ∨ a.zeroCopyEnabled = b.zeroCopyEnabled) ∧
    (Gives obj (ascii "zero_copy_buffer_pool_size") ∨
      a.zeroCopyBufferPoolSize = b.zeroCopyBufferPoolSize)

def Sensor.SameBut (obj : Option J.Object) (a b : Sensor) : Prop :=
  Gives obj (ascii "fps") ∨ a.fps = b.fps

def Jpeg.SameBut (obj : Option J.Object) (a b : Jpeg) : Prop :=
  (Gives obj (ascii "enabled") ∨ a.enabled = b.enabled) ∧
    (Gives obj (ascii "jpeg_channel") ∨ a.jpegChannel = b.jpegChannel) ∧
    (Gives obj (ascii "jpeg_idle_fps") ∨ a.jpegIdleFps = b.jpegIdleFps) ∧
    (GivesText obj (ascii "jpeg_path") ∨ a.jpegPath = b.jpegPath) ∧
    (Gives obj (ascii "jpeg_quality") ∨ a.jpegQuality = b.jpegQuality) ∧
    (Gives obj (ascii "jpeg_refresh") ∨ a.jpegRefresh = b.jpegRefresh)

def Sysinfo.SameBut (obj : Option J.Object) (a b : Sysinfo) : Prop :=
  (Gives obj (ascii "enabled") ∨ a.enabled = b.enabled) ∧
    (Gives obj (ascii "update_interval") ∨ a.updateInterval = b.updateInterval) ∧
    (Gives obj (ascii "include_memory") ∨ a.includeMemory = b.includeMemory) ∧
    (Gives obj (ascii "include_load") ∨ a.includeLoad = b.includeLoad)

def SnapshotFallback.SameBut (obj : Option J.Object) (a b : SnapshotFallback) : Prop :=
  (Gives obj (ascii "enabled") ∨ a.enabled = b.enabled) ∧
    (GivesText obj (ascii "output_dir") ∨ a.outputDir = b.outputDir) ∧
    (Gives obj (ascii "update_interval_ms") ∨ a.updateIntervalMs = b.updateIntervalMs) ∧
    (Gives obj (ascii "overwrite_existing") ∨ a.overwriteExisting = b.overwriteExisting) ∧
    (Gives obj (ascii "max_file_age_seconds") ∨ a.maxFileAgeSeconds = b.maxFileAgeSeconds)

/-- The settings are the same in everything that the file does not give. -/
structure Settings.SameBut (root : J.Object) (deviceIp : DeviceIp) (a b : Settings J) : Prop where
  general : a.general.SameBut (J.getEx root (ascii "general")) deviceIp b.general
  sensor : a.sensor.SameBut (J.getEx root (ascii "sensor")) b.sensor
  jpeg : a.jpeg.SameBut (J.getEx root (ascii "jpeg")) b.jpeg
  sysinfo : a.sysinfo.SameBut (J.getEx root (ascii "sysinfo")) b.sysinfo
  snapshotFallback :
    a.snapshotFallback.SameBut (J.getEx root (ascii "snapshot_fallback")) b.snapshotFallback

theorem fillIp_stringField_eq_iff {obj : J.Object} {key : List UInt8} {deviceIp : DeviceIp}
    {hsize : 0 < 64} {a b : FixedString 64} :
    fillIp deviceIp (J.stringField hsize obj key a) =
        fillIp deviceIp (J.stringField hsize obj key b) ↔
      J.HasString obj key ∨ fillIp deviceIp a = fillIp deviceIp b := by
  unfold JsonC.stringField JsonC.HasString
  cases (J.getEx obj key).bind J.getString <;> simp

theorem fillPort_intField_eq_iff {obj : J.Object} {key : List UInt8} {a b : ℤ} :
    fillPort (J.intField obj key a) = fillPort (J.intField obj key b) ↔
      J.Has obj key ∨ fillPort a = fillPort b := by
  unfold JsonC.intField JsonC.Has
  cases J.getEx obj key <;> simp

theorem General.parse_eq_iff {root : J.Object} {deviceIp : DeviceIp} {a b : General} :
    (J.sectionField root (ascii "general") (General.read J) a).fill deviceIp =
        (J.sectionField root (ascii "general") (General.read J) b).fill deviceIp ↔
      a.SameBut (J.getEx root (ascii "general")) deviceIp b := by
  obtain ⟨ip, port, loglevel, pool, memory, allocation, zero, buffers⟩ := a
  obtain ⟨ip', port', loglevel', pool', memory', allocation', zero', buffers'⟩ := b
  unfold JsonC.sectionField SameBut Gives GivesText
  cases J.getEx root (ascii "general") with
  | none => simp [General.fill]
  | some obj =>
    simp [General.fill, General.read, fillIp_stringField_eq_iff, fillPort_intField_eq_iff]

theorem Sensor.parse_eq_iff {root : J.Object} {a b : Sensor} :
    J.sectionField root (ascii "sensor") (Sensor.read J) a =
        J.sectionField root (ascii "sensor") (Sensor.read J) b ↔
      a.SameBut (J.getEx root (ascii "sensor")) b := by
  obtain ⟨fps⟩ := a
  obtain ⟨fps'⟩ := b
  unfold JsonC.sectionField SameBut Gives
  cases J.getEx root (ascii "sensor") <;> simp [Sensor.read]

theorem Jpeg.parse_eq_iff {root : J.Object} {a b : Jpeg} :
    J.sectionField root (ascii "jpeg") (Jpeg.read J) a =
        J.sectionField root (ascii "jpeg") (Jpeg.read J) b ↔
      a.SameBut (J.getEx root (ascii "jpeg")) b := by
  obtain ⟨enabled, channel, idle, path, quality, refresh⟩ := a
  obtain ⟨enabled', channel', idle', path', quality', refresh'⟩ := b
  unfold JsonC.sectionField SameBut Gives GivesText
  cases J.getEx root (ascii "jpeg") <;> simp [Jpeg.read]

theorem Sysinfo.parse_eq_iff {root : J.Object} {a b : Sysinfo} :
    J.sectionField root (ascii "sysinfo") (Sysinfo.read J) a =
        J.sectionField root (ascii "sysinfo") (Sysinfo.read J) b ↔
      a.SameBut (J.getEx root (ascii "sysinfo")) b := by
  obtain ⟨enabled, interval, memory, load⟩ := a
  obtain ⟨enabled', interval', memory', load'⟩ := b
  unfold JsonC.sectionField SameBut Gives
  cases J.getEx root (ascii "sysinfo") <;> simp [Sysinfo.read]

theorem SnapshotFallback.parse_eq_iff {root : J.Object} {a b : SnapshotFallback} :
    J.sectionField root (ascii "snapshot_fallback") (SnapshotFallback.read J) a =
        J.sectionField root (ascii "snapshot_fallback") (SnapshotFallback.read J) b ↔
      a.SameBut (J.getEx root (ascii "snapshot_fallback")) b := by
  obtain ⟨enabled, directory, interval, overwrite, age⟩ := a
  obtain ⟨enabled', directory', interval', overwrite', age'⟩ := b
  unfold JsonC.sectionField SameBut Gives GivesText
  cases J.getEx root (ascii "snapshot_fallback") <;> simp [SnapshotFallback.read]

/-- A file gives the same settings over two others exactly if these are the same in what it
does not give. -/
theorem Settings.parse_eq_iff {root : J.Object} {deviceIp : DeviceIp} {a b : Settings J} :
    a.parse deviceIp root = b.parse deviceIp root ↔ a.SameBut root deviceIp b := by
  constructor
  · intro hsame
    exact ⟨General.parse_eq_iff.mp (congrArg Settings.general hsame),
      Sensor.parse_eq_iff.mp (congrArg Settings.sensor hsame),
      Jpeg.parse_eq_iff.mp (congrArg Settings.jpeg hsame),
      Sysinfo.parse_eq_iff.mp (congrArg Settings.sysinfo hsame),
      SnapshotFallback.parse_eq_iff.mp (congrArg Settings.snapshotFallback hsame)⟩
  · intro h
    simp only [Settings.parse, General.parse_eq_iff.mpr h.general,
      Sensor.parse_eq_iff.mpr h.sensor, Jpeg.parse_eq_iff.mpr h.jpeg,
      Sysinfo.parse_eq_iff.mpr h.sysinfo, SnapshotFallback.parse_eq_iff.mpr h.snapshotFallback]

/-! ### The last file -/

/-- The file gives a frame rate, and that and the sizes of its streams are within the limits
of the sensor. -/
structure FileInLimits (root : J.Object) (info : SensorInfo) : Prop where
  fps : ∃ obj value, J.getEx root (ascii "sensor") = some obj ∧
    J.getEx obj (ascii "fps") = some value ∧
    info.minFps ≤ J.getInt value ∧ J.getInt value ≤ info.maxFps
  streams : ∀ stream ∈ readStreams J root,
    stream.width ≤ info.width ∧ stream.height ≤ info.height

/-- The configuration over which the last file is read. -/
def beforeLast (info : SensorInfo) (first : View) : List View → StreamerConfig J
  | [] => .createNew
  | v :: later => running info first (v :: later).dropLast

/-- The last file is within the limits of the sensor, and the settings before it have the
defaults in everything that it does not give. -/
def Complete (J : JsonC) (info : SensorInfo) (first : View) (later : List View) : Prop :=
  ∃ root, (later.getLastD first).json J = some root ∧ FileInLimits root info ∧
    (beforeLast info first later).toSettings.SameBut root (later.getLastD first).deviceIp .createNew

/-- A load that gets an object parses it over the settings. -/
theorem StreamerConfig.load_of_json {c : StreamerConfig J} {v : View} {root : J.Object}
    (h : v.json J = some root) :
    c.load v = (if (c.toSettings.parse v.deviceIp root).accepted then 0 else -1,
      ⟨c.toSettings.parse v.deviceIp root, true, v.modified.getD 0⟩) := by
  unfold View.json at h
  unfold StreamerConfig.load
  cases hreadable : v.readable with
  | false => simp [hreadable] at h
  | true =>
    rw [hreadable, if_pos rfl] at h
    simp [h]

/-- A load that is accepted got an object. -/
theorem StreamerConfig.load_accepted {c : StreamerConfig J} {v : View} (h : (c.load v).1 = 0) :
    ∃ root, v.json J = some root ∧ (c.toSettings.parse v.deviceIp root).accepted = true := by
  cases hjson : v.json J with
  | none =>
    unfold View.json at hjson
    unfold StreamerConfig.load at h
    cases hreadable : v.readable with
    | false => simp [hreadable] at h
    | true =>
      rw [hreadable, if_pos rfl] at hjson
      simp [hreadable, hjson] at h
  | some root =>
    refine ⟨root, rfl, ?_⟩
    rw [load_of_json hjson] at h
    by_contra hrefused
    simp [hrefused] at h

/-- The limits of a file are those of the settings that it gives a new structure. -/
theorem inLimits_iff {root : J.Object} {deviceIp : DeviceIp} (info : SensorInfo)
    (haccepted : ((Settings.createNew : Settings J).parse deviceIp root).accepted = true) :
    ((Settings.createNew : Settings J).parse deviceIp root).InLimits info ↔
      FileInLimits root info := by
  have hfps : 0 < ((Settings.createNew : Settings J).parse deviceIp root).sensor.fps := by
    simp only [Settings.accepted, Bool.and_eq_true, decide_eq_true_eq] at haccepted
    exact haccepted.1.1
  have hgiven : ∃ obj value, J.getEx root (ascii "sensor") = some obj ∧
      J.getEx obj (ascii "fps") = some value ∧
      ((Settings.createNew : Settings J).parse deviceIp root).sensor.fps = J.getInt value := by
    unfold Settings.parse JsonC.sectionField at hfps ⊢
    cases hsensor : J.getEx root (ascii "sensor") with
    | none => simp [hsensor, Settings.createNew] at hfps
    | some obj =>
      cases hvalue : J.getEx obj (ascii "fps") with
      | none =>
        simp [hsensor, Sensor.read, JsonC.intField, hvalue, Settings.createNew] at hfps
      | some value => exact ⟨obj, value, rfl, hvalue, by simp [Sensor.read, JsonC.intField, hvalue]⟩
  obtain ⟨obj, value, hobj, hvalue, heq⟩ := hgiven
  constructor
  · intro h
    exact ⟨⟨obj, value, hobj, hvalue, heq ▸ h.minFps, heq ▸ h.maxFps⟩, h.streams⟩
  · rintro ⟨⟨obj', value', hobj', hvalue', hmin, hmax⟩, hstreams⟩
    obtain rfl := Option.some.inj (hobj.symm.trans hobj')
    obtain rfl := Option.some.inj (hvalue.symm.trans hvalue')
    exact ⟨heq ▸ hmin, heq ▸ hmax, hstreams⟩

/-- Settings within the limits are not adjusted. -/
theorem adjust_of_inLimits {info : SensorInfo} {c : StreamerConfig J}
    (h : c.InLimits info) : (sensorValidateAndAdjustConfig info c).2 = c := by
  have hfps : info.clampFps c.sensor.fps = c.sensor.fps := by
    have hmin := h.minFps
    have hmax := h.maxFps
    unfold SensorInfo.clampFps
    dsimp only
    rw [if_neg (show ¬ c.sensor.fps > info.maxFps by omega), if_neg (by omega)]
  have hstreams : c.streams.map info.clampStream = c.streams := by
    refine (List.map_congr_left fun stream hstream => ?_).trans (List.map_id _)
    obtain ⟨hwidth, hheight⟩ := h.streams stream hstream
    unfold SensorInfo.clampStream
    rw [if_neg (by omega), if_neg (by omega)]
    rfl
  unfold sensorValidateAndAdjustConfig
  dsimp only
  rw [hfps, hstreams]

theorem running_concat (info : SensorInfo) (first : View) (earlier : List View) (v : View) :
    (running info first (earlier ++ [v]) : StreamerConfig J) =
      reloaded (running info first earlier) v := by
  unfold running
  rw [List.foldl_append]
  rfl

/-- Without a reload, the settings are those of the file if nothing had to be adjusted. -/
theorem asRestarted_nil_iff (info : SensorInfo) (first : View) (h : Accepted J info first []) :
    AsRestarted J info first [] ↔ Complete J info first [] := by
  obtain ⟨root, hjson, haccepted⟩ := StreamerConfig.load_accepted h.1
  have hload := StreamerConfig.load_of_json (c := .createNew) hjson
  rw [if_pos haccepted] at hload
  have hlimits := inLimits_iff info haccepted
  have hrunning : (running info first [] : StreamerConfig J) =
      (sensorValidateAndAdjustConfig info (StreamerConfig.createNew.load first).2).2 := rfl
  unfold AsRestarted Complete
  dsimp only [List.getLastD_nil]
  rw [hrunning, hload]
  constructor
  · rintro ⟨hsame, hin⟩
    rw [← (Prod.mk.inj hsame).2] at hin
    exact ⟨root, hjson, hlimits.mp hin, Settings.parse_eq_iff.mp rfl⟩
  · rintro ⟨root', hjson', hin, -⟩
    obtain rfl := Option.some.inj (hjson.symm.trans hjson')
    rw [adjust_of_inLimits (hlimits.mpr hin)]
    exact ⟨rfl, hlimits.mpr hin⟩

/-- After a reload, the settings are those of the file if what it does not give had its
default. -/
theorem asRestarted_concat_iff (info : SensorInfo) (first : View) (earlier : List View) (v : View)
    (h : Accepted J info first (earlier ++ [v])) :
    AsRestarted J info first (earlier ++ [v]) ↔ Complete J info first (earlier ++ [v]) := by
  have hlastAccepted := (Runs.guarded_append.mp h.2).2.1
  obtain ⟨root, hjson, haccepted⟩ := StreamerConfig.load_accepted hlastAccepted
  have hbefore : (beforeLast info first (earlier ++ [v]) : StreamerConfig J) =
      running info first earlier := by
    obtain ⟨u, rest, hcons⟩ := List.exists_cons_of_ne_nil (List.concat_ne_nil v earlier)
    have hdrop : (u :: rest).dropLast = earlier := by rw [← hcons, List.dropLast_concat]
    rw [hcons]
    exact congrArg (running info first) hdrop
  have hlast : (earlier ++ [v]).getLastD first = v := by simp
  have hreload : (running info first (earlier ++ [v]) : StreamerConfig J) =
      ⟨(running info first earlier).toSettings.parse v.deviceIp root, true, v.modified.getD 0⟩ := by
    rw [running_concat]
    exact congrArg Prod.snd (StreamerConfig.load_of_json hjson)
  have hload := StreamerConfig.load_of_json (c := .createNew) hjson
  have hsettings : (StreamerConfig.createNew : StreamerConfig J).toSettings = .createNew := rfl
  unfold AsRestarted Complete
  dsimp only
  rw [hbefore, hlast, hreload, hload, hsettings]
  constructor
  · rintro ⟨hsame, hin⟩
    have hparse := congrArg StreamerConfig.toSettings (Prod.mk.inj hsame).2
    dsimp only at hparse hin
    rw [← hparse] at hin
    have hfresh : ((Settings.createNew : Settings J).parse v.deviceIp root).accepted = true := by
      rw [hparse]
      exact haccepted
    exact ⟨root, hjson, (inLimits_iff _ hfresh).mp hin, Settings.parse_eq_iff.mp hparse.symm⟩
  · rintro ⟨root', hjson', hin, hsame⟩
    obtain rfl := Option.some.inj (hjson.symm.trans hjson')
    have hparse := Settings.parse_eq_iff.mpr hsame
    have hfresh : ((Settings.createNew : Settings J).parse v.deviceIp root).accepted = true := by
      rw [← hparse]
      exact haccepted
    rw [hparse, if_pos hfresh]
    exact ⟨rfl, (inLimits_iff _ hfresh).mpr hin⟩

/-- An accepted run ends as a restart with the last file would, within the limits of the
sensor, exactly if the last file is complete. -/
theorem asRestarted_iff (info : SensorInfo) (first : View) (later : List View)
    (h : Accepted J info first later) :
    AsRestarted J info first later ↔ Complete J info first later := by
  rcases later.eq_nil_or_concat with rfl | ⟨earlier, v, rfl⟩
  · exact asRestarted_nil_iff info first h
  · rw [List.concat_eq_append] at h ⊢
    exact asRestarted_concat_iff info first earlier v h

/-- A file with a port, and a frame rate of 25. -/
def portFile : List UInt8 :=
  ascii "\x7b\"sensor\":\x7b\"fps\":25\x7d,\"general\":\x7b\"http_port\":80\x7d\x7d"

/-- A file with a frame rate of 60. -/
def fastFile : List UInt8 := ascii "\x7b\"sensor\":\x7b\"fps\":60\x7d\x7d"

/-- json-c on these files and the one with a frame rate of 25 only. -/
def restartJson : JsonC := .ofLeaves fun contents =>
  if contents = portFile then
    some [([ascii "sensor", ascii "fps"], .int 25), ([ascii "general", ascii "http_port"], .int 80)]
  else if contents = fastFile then some [([ascii "sensor", ascii "fps"], .int 60)]
  else if contents = goodFile then some [([ascii "sensor", ascii "fps"], .int 25)]
  else none

/-- A sensor for frame rates from 5 to 30. -/
def slowSensor : SensorInfo := ⟨1920, 1080, 5, 30, 25⟩

/-- The same file is loaded and reloaded. -/
theorem asRestarted_example :
    AsRestarted restartJson slowSensor (viewOf 1 goodFile) [viewOf 2 goodFile] ↔
      Complete restartJson slowSensor (viewOf 1 goodFile) [viewOf 2 goodFile] :=
  asRestarted_iff slowSensor (viewOf 1 goodFile) [viewOf 2 goodFile]
    ⟨by decide +kernel, by decide +kernel⟩

/-- A port that is taken out of the file stays in use, and a frame rate that is too high for
the sensor is taken over. -/
theorem not_asRestarted :
    (Accepted restartJson slowSensor (viewOf 1 portFile) [viewOf 2 goodFile] ∧
        ¬ AsRestarted restartJson slowSensor (viewOf 1 portFile) [viewOf 2 goodFile]) ∧
      Accepted restartJson slowSensor (viewOf 1 goodFile) [viewOf 2 fastFile] ∧
        ¬ AsRestarted restartJson slowSensor (viewOf 1 goodFile) [viewOf 2 fastFile] := by
  refine ⟨⟨⟨by decide +kernel, by decide +kernel⟩, ?_⟩, ⟨by decide +kernel, by decide +kernel⟩, ?_⟩
  · rintro ⟨hload, -⟩
    have hport := congrArg (fun r => r.2.general.httpPort) hload
    exact absurd hport (by decide +kernel)
  · rintro ⟨-, hlimits⟩
    exact absurd hlimits.maxFps (by decide +kernel)

end ConfigFile
