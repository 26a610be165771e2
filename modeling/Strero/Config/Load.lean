import Strero.Config.Settings
import Strero.Lib.Runs

/-!
# Loading and reloading

A file is read over the settings in use, and only then are they checked. What a failed
reload changes is what the file says other than the settings before it.
-/

namespace ConfigFile

open CString

variable {J : JsonC}

/-- `streamer_config_t`. The path of the file is the same at all times. -/
structure StreamerConfig (J : JsonC) extends Settings J where
  configLoaded : Bool
  lastModifiedTime : ℤ

/-- `config_create_new`. -/
def StreamerConfig.createNew : StreamerConfig J := ⟨.createNew, false, 0⟩

/-- What a load of the file meets: whether it can be read, its modification time if `stat`
succeeds, its content, and the address of the device. -/
structure View where
  readable : Bool
  modified : Option ℤ
  content : List UInt8
  deviceIp : DeviceIp

/-- The checks at the end of `config_load`. -/
def Settings.accepted (c : Settings J) : Bool :=
  0 < c.sensor.fps && c.sensor.fps ≤ 60 &&
    c.streams.all fun stream => 0 < stream.width && 0 < stream.height

/-- `config_load`. -/
def StreamerConfig.load (c : StreamerConfig J) (v : View) : ℤ × StreamerConfig J :=
  if !v.readable then (-1, c)
  else
    match J.fromFile v.content with
    | none => (-1, { c with jsonConfig := none, lastModifiedTime := v.modified.getD 0 })
    | some json =>
      let settings := c.toSettings.parse v.deviceIp json
      (if settings.accepted then 0 else -1, ⟨settings, true, v.modified.getD 0⟩)

/-- `config_reload`. -/
def StreamerConfig.reload (c : StreamerConfig J) (v : View) : ℤ × StreamerConfig J :=
  StreamerConfig.load { c with jsonConfig := none } v

/-- `config_check_and_reload`, by the modification time that its own `stat` finds. -/
def StreamerConfig.checkAndReload (c : StreamerConfig J) (modified : Option ℤ) (v : View) :
    ℤ × StreamerConfig J :=
  match modified with
  | none => (-1, c)
  | some time =>
    if time ≠ c.lastModifiedTime then
      let (result, reloaded) := c.reload v
      (if result = 0 then 1 else -1, reloaded)
    else (0, c)

/-- The calls that change the configuration. -/
inductive Call
  | load (v : View)
  | reload (v : View)
  | checkAndReload (modified : Option ℤ) (v : View)

/-- One call. -/
def StreamerConfig.call (c : StreamerConfig J) : Call → StreamerConfig J
  | .load v => (c.load v).2
  | .reload v => (c.reload v).2
  | .checkAndReload modified v => (c.checkAndReload modified v).2

/-- The object that the file is parsed into. -/
def View.json (J : JsonC) (v : View) : Option J.Object :=
  if v.readable then J.fromFile v.content else none

/-- The file gives the address of the server as an empty text. -/
def EmptyServerIp (root : J.Object) : Prop :=
  ∃ general text, J.getEx root (ascii "general") = some general ∧
    (J.getEx general (ascii "server_ip")).bind J.getString = some text ∧ cString text = []

/-- The file says what is in use: nothing if nothing is, or the object that is in use, and
with it the address of the device if the file leaves the address to the device. -/
def StreamerConfig.Repeats (c : StreamerConfig J) (v : View) : Prop :=
  match v.json J with
  | none => c.jsonConfig = none
  | some json =>
    c.jsonConfig = some json ∧ (EmptyServerIp json → c.general.serverIp = v.deviceIp)

/-! ### Reading a file twice -/

/-- The settings in use were read from the object in use. -/
def StreamerConfig.Parsed (c : StreamerConfig J) : Prop :=
  ∀ json, c.jsonConfig = some json →
    ∃ (deviceIp : DeviceIp) (old : Settings J), c.toSettings = old.parse deviceIp json

theorem createNew_parsed : (StreamerConfig.createNew : StreamerConfig J).Parsed := nofun

theorem StreamerConfig.Parsed.load {c : StreamerConfig J} (h : c.Parsed) (v : View) :
    (c.load v).2.Parsed := by
  unfold StreamerConfig.load
  split
  · exact h
  · split
    · nofun
    · rename_i json _
      intro json' hjson'
      obtain rfl : json = json' := Option.some.inj hjson'
      exact ⟨v.deviceIp, c.toSettings, rfl⟩

theorem StreamerConfig.Parsed.reload (c : StreamerConfig J) (v : View) : (c.reload v).2.Parsed :=
  Parsed.load (c := { c with jsonConfig := none }) nofun v

/-- Each call leaves settings that were read from the object in use. -/
theorem StreamerConfig.Parsed.call {c : StreamerConfig J} (h : c.Parsed) (call : Call) :
    (c.call call).Parsed := by
  cases call with
  | load v => exact h.load v
  | reload v => exact .reload c v
  | checkAndReload modified v =>
    unfold StreamerConfig.call StreamerConfig.checkAndReload
    cases modified with
    | none => exact h
    | some time =>
      dsimp only
      split
      · exact .reload c v
      · exact h

theorem StreamerConfig.Parsed.calls {c : StreamerConfig J} (h : c.Parsed) (calls : List Call) :
    (calls.foldl StreamerConfig.call c).Parsed := by
  induction calls generalizing c with
  | nil => exact h
  | cons call calls ih => exact ih (h.call call)

/-- Reading a section again changes nothing. -/
theorem sectionField_sectionField {α : Type} {read : J.Object → α → α}
    (hread : ∀ obj a, read obj (read obj a) = read obj a) (root : J.Object) (key : List UInt8)
    (a : α) : J.sectionField root key read (J.sectionField root key read a) =
      J.sectionField root key read a := by
  unfold JsonC.sectionField
  cases J.getEx root key with
  | none => rfl
  | some obj => exact hread obj a

theorem Sensor.read_read (obj : J.Object) (s : Sensor) :
    (s.read J obj).read J obj = s.read J obj := by
  simp [Sensor.read]

theorem Jpeg.read_read (obj : J.Object) (j : Jpeg) :
    (j.read J obj).read J obj = j.read J obj := by
  simp [Jpeg.read]

theorem Sysinfo.read_read (obj : J.Object) (s : Sysinfo) :
    (s.read J obj).read J obj = s.read J obj := by
  simp [Sysinfo.read]

theorem SnapshotFallback.read_read (obj : J.Object) (s : SnapshotFallback) :
    (s.read J obj).read J obj = s.read J obj := by
  simp [SnapshotFallback.read]

theorem fillIp_ne_nil (deviceIp : DeviceIp) (ip : FixedString 64) :
    (fillIp deviceIp ip).bytes ≠ [] := by
  unfold fillIp
  split
  · exact deviceIp.2
  · assumption

theorem fillPort_ne_zero (port : ℤ) : fillPort port ≠ 0 := by
  unfold fillPort
  split <;> omega

theorem fillIp_of_ne_nil (deviceIp : DeviceIp) {ip : FixedString 64} (h : ip.bytes ≠ []) :
    fillIp deviceIp ip = ip := if_neg h

/-- A port that was read and filled in is read and filled in to the same. -/
theorem fillPort_intField (obj : J.Object) (key : List UInt8) (port : ℤ) :
    fillPort (J.intField obj key (fillPort (J.intField obj key port))) =
      fillPort (J.intField obj key port) := by
  have hfilled : ∀ port, fillPort (fillPort port) = fillPort port :=
    fun port => if_neg (fillPort_ne_zero port)
  unfold JsonC.intField
  cases J.getEx obj key with
  | none => exact hfilled port
  | some value => rfl

/-- An address that was read and filled in is read and filled in to the same, unless the
object gives an empty one. -/
theorem fillIp_stringField_iff (obj : J.Object) (deviceIp deviceIp' : DeviceIp)
    (ip : FixedString 64) :
    let first := fillIp deviceIp (J.stringField (by decide) obj (ascii "server_ip") ip)
    fillIp deviceIp' (J.stringField (by decide) obj (ascii "server_ip") first) = first ↔
      ((∃ text, (J.getEx obj (ascii "server_ip")).bind J.getString = some text ∧
        cString text = []) → first = deviceIp') := by
  intro first
  have hfirst : first.bytes ≠ [] := fillIp_ne_nil _ _
  cases htext : (J.getEx obj (ascii "server_ip")).bind J.getString with
  | none =>
    have hkept : J.stringField (by decide) obj (ascii "server_ip") first = first := by
      rw [JsonC.stringField, htext, Option.map_none, Option.getD_none]
    rw [hkept, fillIp_of_ne_nil _ hfirst]
    simp
  | some text =>
    have hwritten : ∀ dest : FixedString 64,
        J.stringField (by decide) obj (ascii "server_ip") dest =
        FixedString.copy 64 size64_pos text := by
      intro dest
      rw [JsonC.stringField, htext, Option.map_some, Option.getD_some]
    have hbytes : (FixedString.copy 64 size64_pos text).bytes = [] ↔ cString text = [] := by
      simp [FixedString.copy, strncpy]
    rw [hwritten]
    by_cases hempty : cString text = []
    · have hip : fillIp deviceIp' (FixedString.copy 64 size64_pos text) = deviceIp' :=
        if_pos (hbytes.mpr hempty)
      rw [hip]
      simp [hempty, eq_comm]
    · have hsame : first = FixedString.copy 64 size64_pos text := by
        have hne := mt hbytes.mp hempty
        exact (congrArg (fillIp deviceIp) (hwritten ip)).trans (if_neg hne)
      rw [fillIp_of_ne_nil _ (mt hbytes.mp hempty)]
      simp [hempty, hsame]

/-- Reading the general section again changes the address at most, and that only if the file
leaves it to the device. -/
theorem General.reread_iff (deviceIp deviceIp' : DeviceIp) (root : J.Object) (g : General) :
    let first := (J.sectionField root (ascii "general") (General.read J) g).fill deviceIp
    (J.sectionField root (ascii "general") (General.read J) first).fill deviceIp' = first ↔
      (EmptyServerIp root → first.serverIp = deviceIp') := by
  unfold JsonC.sectionField EmptyServerIp
  cases hgeneral : J.getEx root (ascii "general") with
  | none =>
    have hip := fillIp_of_ne_nil deviceIp' (fillIp_ne_nil deviceIp g.serverIp)
    have hport : fillPort (fillPort g.httpPort) = fillPort g.httpPort :=
      if_neg (fillPort_ne_zero _)
    simp [General.fill, hip, hport]
  | some obj =>
    have hip := fillIp_stringField_iff obj deviceIp deviceIp' g.serverIp
    have hport := fillPort_intField obj (ascii "http_port") g.httpPort
    simpa [General.fill, General.read, hport] using hip

/-- Parsing an object again changes nothing but the address. -/
theorem Settings.reparse_iff (deviceIp deviceIp' : DeviceIp) (root : J.Object) (c : Settings J) :
    ({ c.parse deviceIp root with jsonConfig := none } : Settings J).parse deviceIp' root =
        c.parse deviceIp root ↔
      (EmptyServerIp root → (c.parse deviceIp root).general.serverIp = deviceIp') := by
  refine Iff.trans ?_ (General.reread_iff deviceIp deviceIp' root c.general)
  simp [Settings.parse, sectionField_sectionField Sensor.read_read,
    sectionField_sectionField Jpeg.read_read, sectionField_sectionField Sysinfo.read_read,
    sectionField_sectionField SnapshotFallback.read_read]

/-! ### Failed reloads -/

/-- The settings after a reload, by the object of the file. -/
theorem StreamerConfig.reload_settings (c : StreamerConfig J) (v : View) :
    (c.reload v).2.toSettings =
      match v.json J with
      | none => { c.toSettings with jsonConfig := none }
      | some json =>
        ({ c.toSettings with jsonConfig := none } : Settings J).parse v.deviceIp json := by
  unfold StreamerConfig.reload StreamerConfig.load View.json
  cases v.readable with
  | false => rfl
  | true =>
    dsimp only [Bool.not_true, if_true]
    cases J.fromFile v.content <;> rfl

/-- A reload leaves the settings as they are exactly if the file says what is in use. -/
theorem StreamerConfig.Parsed.reload_eq_iff {c : StreamerConfig J} (h : c.Parsed) (v : View) :
    (c.reload v).2.toSettings = c.toSettings ↔ c.Repeats v := by
  rw [c.reload_settings v]
  unfold StreamerConfig.Repeats
  cases v.json J with
  | none =>
    constructor
    · intro hsame
      exact (congrArg Settings.jsonConfig hsame).symm
    · intro hnone
      exact (congrArg (fun json => { c.toSettings with jsonConfig := json }) hnone).symm
  | some json =>
    dsimp only
    constructor
    · intro hsame
      have hjson : c.jsonConfig = some json := (congrArg Settings.jsonConfig hsame).symm
      obtain ⟨deviceIp, old, hparsed⟩ := h json hjson
      rw [hparsed] at hsame
      have haddress := (Settings.reparse_iff deviceIp v.deviceIp json old).mp hsame
      exact ⟨hjson, hparsed ▸ haddress⟩
    · rintro ⟨hjson, haddress⟩
      obtain ⟨deviceIp, old, hparsed⟩ := h json hjson
      rw [hparsed] at haddress ⊢
      exact (Settings.reparse_iff deviceIp v.deviceIp json old).mpr haddress

/-- After any calls, a reload that fails leaves the settings as they are exactly if the file
says what is in use, and so does a check that fails on a file that it can find. -/
theorem failed_reload_iff (calls : List Call) (v : View) :
    let c := calls.foldl StreamerConfig.call (.createNew : StreamerConfig J)
    ((c.reload v).1 ≠ 0 → ((c.reload v).2.toSettings = c.toSettings ↔ c.Repeats v)) ∧
      ∀ modified, (c.checkAndReload modified v).1 = -1 →
        ((c.checkAndReload modified v).2.toSettings = c.toSettings ↔
          modified = none ∨ c.Repeats v) := by
  intro c
  have hparsed : c.Parsed := createNew_parsed.calls calls
  have hreload := hparsed.reload_eq_iff v
  refine ⟨fun _ => hreload, fun modified hfailed => ?_⟩
  cases modified with
  | none => simp [StreamerConfig.checkAndReload]
  | some time =>
    unfold StreamerConfig.checkAndReload at hfailed ⊢
    by_cases hchanged : time ≠ c.lastModifiedTime
    · simpa [hchanged] using hreload
    · simp [hchanged] at hfailed

/-- A file with a frame rate of 25. -/
def goodFile : List UInt8 := ascii "\x7b\"sensor\":\x7b\"fps\":25\x7d\x7d"

/-- A file with a frame rate of zero. -/
def badFile : List UInt8 := ascii "\x7b\"sensor\":\x7b\"fps\":0\x7d\x7d"

/-- json-c on the two files. -/
def fpsJson : JsonC := .ofLeaves fun contents =>
  if contents = goodFile then some [([ascii "sensor", ascii "fps"], .int 25)]
  else if contents = badFile then some [([ascii "sensor", ascii "fps"], .int 0)]
  else none

instance fpsJson.decidableEq : DecidableEq fpsJson.Object :=
  inferInstanceAs (DecidableEq (List (List (List UInt8) × JsonC.Leaf)))

/-- The address of a device without a network. -/
def noAddress : DeviceIp := ⟨FixedString.copy 64 size64_pos (ascii "0.0.0.0"), by decide +kernel⟩

/-- The file at some time with some content. -/
def viewOf (time : ℤ) (content : List UInt8) : View := ⟨true, some time, content, noAddress⟩

/-- The good file has been loaded, and the bad one is reloaded once by itself and once after a
check of the time. -/
theorem failed_reload_example :
    let c := [Call.load (viewOf 1 goodFile)].foldl StreamerConfig.call
      (.createNew : StreamerConfig fpsJson)
    ((c.reload (viewOf 2 badFile)).2.toSettings = c.toSettings ↔ c.Repeats (viewOf 2 badFile)) ∧
      ((c.checkAndReload (some 2) (viewOf 2 badFile)).2.toSettings = c.toSettings ↔
        (some 2 : Option ℤ) = none ∨ c.Repeats (viewOf 2 badFile)) :=
  ⟨(failed_reload_iff (J := fpsJson) [.load (viewOf 1 goodFile)] (viewOf 2 badFile)).1
      (by decide +kernel),
    (failed_reload_iff (J := fpsJson) [.load (viewOf 1 goodFile)] (viewOf 2 badFile)).2 (some 2)
      (by decide +kernel)⟩

/-- A file with a frame rate of zero is refused when it is already in use, and a file that is
not JSON takes away the object in use. -/
theorem failed_reload_changes :
    let c := [Call.load (viewOf 1 goodFile)].foldl StreamerConfig.call
      (.createNew : StreamerConfig fpsJson)
    ((c.checkAndReload (some 2) (viewOf 2 badFile)).1 = -1 ∧
        (c.checkAndReload (some 2) (viewOf 2 badFile)).2.toSettings ≠ c.toSettings) ∧
      (c.checkAndReload (some 2) (viewOf 2 [])).1 = -1 ∧
        (c.checkAndReload (some 2) (viewOf 2 [])).2.toSettings ≠ c.toSettings := by
  decide +kernel

end ConfigFile
