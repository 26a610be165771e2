import Strero.Modules.ConfigParsers

/-!
# The configuration of a module

Before a module is initialised, memory for its configuration is allocated and filled from a
file of its own, which is looked for in two places. The module parses the file over memory
that has been set to zero.
-/

namespace ModuleSystem

open CString

variable {J : JsonC}

/-- The configuration callbacks of a module whose `config_parse` is not null and whose
`config_size` is not zero. -/
structure ConfigCallbacks (J : JsonC) where
  /-- The structure of the module, and so what its memory may contain. -/
  Config : Type
  /-- What `memset` to zero leaves. -/
  zeroed : Config
  /-- `config_parse`: the value returned, and what is then in the structure. -/
  parse : J.Object → Config → ℤ × Config
  /-- `config_validate`. -/
  validate : Option (Config → ℤ)
  /-- The structure has room for something else. -/
  sized : ∃ contents, contents ≠ zeroed

/-- `MODULE_CONFIG_PATH_MAX`. -/
def moduleConfigPathMax : ℕ := 256

/-- `MODULE_CONFIG_DIR`. -/
def moduleConfigDir : List UInt8 := ascii "/etc/streamer.d"

/-- `snprintf(config_path, sizeof(config_path), "%s/%s.json", …)`. -/
def configPath (directory name : List UInt8) : List UInt8 :=
  (directory ++ ascii "/" ++ name ++ ascii ".json").take (moduleConfigPathMax - 1)

/-- What the module system finds outside: the directory of the binary, and the files for which
`stat` succeeds with their contents. -/
structure Files where
  binaryDir : Option (List UInt8)
  content : List UInt8 → Option (List UInt8)

/-- The search of `module_load_config_file`, up to the label `parse_config`. -/
def findConfig (J : JsonC) (files : Files) (name : List UInt8) : Option J.Object :=
  (files.binaryDir.bind fun directory =>
      (files.content (configPath directory name)).bind J.fromFile).or
    ((files.content (configPath moduleConfigDir name)).bind J.fromFile)

/-- `module_load_config_file`: the value returned, and what is then in the buffer. -/
def ConfigCallbacks.moduleLoadConfigFile (c : ConfigCallbacks J) (files : Files)
    (name : List UInt8) (buffer : c.Config) : ℤ × c.Config :=
  match findConfig J files name with
  | none => (-1, buffer)
  | some json => c.parse json c.zeroed

/-- The argument of `init` in `module_init_all`, by what `malloc` returns. -/
def ConfigCallbacks.initArgument (c : ConfigCallbacks J) (files : Files) (name : List UInt8)
    (allocated : Option c.Config) : Option c.Config :=
  allocated.map fun contents => (c.moduleLoadConfigFile files name contents).2

/-- A module as `module_init_all` sees it. A module without configuration callbacks is given a
null pointer. -/
structure ConfiguredModule (J : JsonC) where
  name : List UInt8
  callbacks : Option (ConfigCallbacks J)

/-- Whatever the allocated memory contained, the same structure is handed over. -/
def ConfigCallbacks.Determined (c : ConfigCallbacks J) (files : Files) (name : List UInt8) : Prop :=
  ∀ contents contents', c.initArgument files name (some contents) =
    c.initArgument files name (some contents')

/-- The structure that is handed over has passed the check of the module. -/
def ConfigCallbacks.Validated (c : ConfigCallbacks J) (files : Files) (name : List UInt8) : Prop :=
  ∀ contents config, c.initArgument files name (some contents) = some config →
    ∀ validate, c.validate = some validate → validate config = 0

/-- Both hold of the configuration of a module that has one. -/
def ConfiguredModule.WellConfigured (module : ConfiguredModule J) (files : Files) : Prop :=
  ∀ c, module.callbacks = some c →
    c.Determined files module.name ∧ c.Validated files module.name

/-- A file is found and is JSON, and what the module reads from it is valid. -/
def ConfiguredModule.HasValidFile (module : ConfiguredModule J) (files : Files) : Prop :=
  ∀ c, module.callbacks = some c →
    ∃ json, findConfig J files module.name = some json ∧
      ∀ validate, c.validate = some validate → validate (c.parse json c.zeroed).2 = 0

namespace ConfigCallbacks

variable (c : ConfigCallbacks J) {files : Files} {name : List UInt8}

/-- With a file the memory does not matter. -/
theorem initArgument_of_found {json : J.Object} (hfound : findConfig J files name = some json)
    (contents : c.Config) :
    c.initArgument files name (some contents) = some (c.parse json c.zeroed).2 := by
  simp only [initArgument, Option.map_some, moduleLoadConfigFile, hfound]

/-- Without one it is handed over as it was allocated. -/
theorem initArgument_of_not_found (hfound : findConfig J files name = none)
    (contents : c.Config) : c.initArgument files name (some contents) = some contents := by
  simp only [initArgument, Option.map_some, moduleLoadConfigFile, hfound]

/-- The memory does not matter exactly if there is a file. -/
theorem determined_iff : c.Determined files name ↔ ∃ json, findConfig J files name = some json := by
  constructor
  · intro hdetermined
    obtain ⟨contents, hne⟩ := c.sized
    cases hfound : findConfig J files name with
    | some json => exact ⟨json, rfl⟩
    | none =>
      have hsame := hdetermined contents c.zeroed
      rw [c.initArgument_of_not_found hfound, c.initArgument_of_not_found hfound] at hsame
      exact absurd (Option.some.inj hsame) hne
  · rintro ⟨json, hfound⟩ contents contents'
    rw [c.initArgument_of_found hfound, c.initArgument_of_found hfound]

/-- With a file the check is one of what it gives. -/
theorem validated_iff {json : J.Object} (hfound : findConfig J files name = some json) :
    c.Validated files name ↔
      ∀ validate, c.validate = some validate → validate (c.parse json c.zeroed).2 = 0 := by
  constructor
  · intro hvalidated
    exact hvalidated c.zeroed _ (c.initArgument_of_found hfound c.zeroed)
  · intro hvalid contents config hconfig
    rw [c.initArgument_of_found hfound] at hconfig
    obtain rfl := Option.some.inj hconfig
    exact hvalid

end ConfigCallbacks

/-- The configuration is determined and valid exactly if there is a file with valid values. -/
theorem wellConfigured_iff (module : ConfiguredModule J) (files : Files) :
    module.WellConfigured files ↔ module.HasValidFile files := by
  refine forall₂_congr fun c _ => ?_
  constructor
  · rintro ⟨hdetermined, hvalidated⟩
    obtain ⟨json, hfound⟩ := c.determined_iff.mp hdetermined
    exact ⟨json, hfound, (c.validated_iff hfound).mp hvalidated⟩
  · rintro ⟨json, hfound, hvalid⟩
    exact ⟨c.determined_iff.mpr ⟨json, hfound⟩, (c.validated_iff hfound).mpr hvalid⟩

/-! ### The audio and ONVIF modules -/

/-- The configuration callbacks of `audio_module_info`. -/
def audioCallbacks (J : JsonC) : ConfigCallbacks J where
  Config := AudioModuleConfig
  zeroed := .zeroed
  parse := audioModuleConfigParse J
  validate := some audioModuleConfigValidate
  sized := ⟨.defaults, by decide +kernel⟩

/-- The configuration callbacks of `onvif_module_info`. -/
def onvifCallbacks (J : JsonC) : ConfigCallbacks J where
  Config := OnvifModuleConfig
  zeroed := .zeroed
  parse := onvifModuleConfigParse J
  validate := none
  sized := ⟨{ OnvifModuleConfig.zeroed with enabled := true }, by decide⟩

/-- The audio module. -/
def audioModule (J : JsonC) : ConfiguredModule J := ⟨ascii "audio", some (audioCallbacks J)⟩

/-- The ONVIF module is well configured as soon as it has a file: it checks nothing. -/
theorem onvif_wellConfigured_iff (name : List UInt8) (files : Files) :
    (⟨name, some (onvifCallbacks J)⟩ : ConfiguredModule J).WellConfigured files ↔
      ∃ json, findConfig J files name = some json := by
  constructor
  · intro hwell
    exact (onvifCallbacks J).determined_iff.mp (hwell _ rfl).1
  · rintro ⟨json, hfound⟩ c hc
    obtain rfl := Option.some.inj hc
    refine ⟨(onvifCallbacks J).determined_iff.mpr ⟨json, hfound⟩, ?_⟩
    exact ((onvifCallbacks J).validated_iff hfound).mpr fun validate hvalidate => nomatch hvalidate

/-- The text of a file with a volume of 200. -/
def loudFile : List UInt8 := ascii "\x7b\"input_vol\":200\x7d"

/-- json-c on that text. -/
def loudJson : JsonC := .ofLeaves fun contents =>
  if contents = loudFile then some [([ascii "input_vol"], .int 200)] else none

/-- The file is the one in the system directory, and there is none besides it. -/
def loudFiles : Files where
  binaryDir := none
  content path := if path = configPath moduleConfigDir (ascii "audio") then some loudFile else none

/-- Without a file the audio module gets what happened to be in the memory, and with one it
gets values that do not pass its check. -/
theorem not_wellConfigured :
    ¬ (audioModule loudJson).WellConfigured ⟨none, fun _ => none⟩ ∧
      ¬ (audioModule loudJson).WellConfigured loudFiles := by
  constructor
  · intro hwell
    obtain ⟨json, hfound⟩ := (audioCallbacks loudJson).determined_iff.mp (hwell _ rfl).1
    cases hfound
  · intro hwell
    have hfound : findConfig loudJson loudFiles (ascii "audio") =
        some [([ascii "input_vol"], .int 200)] := by
      have hpath : loudFiles.content (configPath moduleConfigDir (ascii "audio")) =
          some loudFile := by
        dsimp only [loudFiles]
        exact if_pos rfl
      have hjson : loudJson.fromFile loudFile = some [([ascii "input_vol"], .int 200)] := by
        dsimp only [loudJson, JsonC.ofLeaves]
        exact if_pos rfl
      exact (congrArg (·.bind loudJson.fromFile) hpath).trans hjson
    have hpasses : audioModuleConfigValidate (audioModuleConfigParse loudJson
        [([ascii "input_vol"], .int 200)] .zeroed).2 = 0 :=
      ((audioCallbacks loudJson).validated_iff hfound).mp (hwell _ rfl).2 _ rfl
    exact absurd hpasses (by decide +kernel)

end ModuleSystem
