import Strero.Lib.CString
import Strero.Lib.Pointers
import Strero.Osd.Clocks

/-!
# What the displays acquire

A context keeps handles of regions and pointers to buffers. Its group, its regions, the font, the
cached glyphs, the bitmaps of texts and the logo are acquired in `osd_init` and by the updates of
texts, each of which may fail at any of its steps, and given back in `osd_cleanup` or
`osd_cleanup_all`. The handle `INVHANDLE` and the null pointer both stand for nothing.
-/

namespace Osd.Resources

open CString Pointers Clocks

/-! ### Pointers and handles -/

/-- The indices of `region_handles`. -/
inductive Region
  | font | logo | info
  | motionZone (i : Fin 4)
deriving DecidableEq

/-- The indices in their order. -/
def Region.all : List Region := [.font, .logo, .info] ++ (List.finRange 4).map .motionZone

/-- The handles and pointers of a context, and the two local pointers of the functions. -/
inductive Slot
  | group
  | region (i : Region)
  | timestampHandle
  | timestampData
  | logoBuffer
  | infoData
  | fontData
  | sft
  | font
  | glyph (c : Fin 128)
  | pixels
  | bitmap
deriving DecidableEq

/-- A pointer of the context of a group. -/
abbrev Place := Fin maxStreams × Slot

/-- All pointers, and what is there. -/
abbrev Memory := Store Place

/-- A step of a function, with its result: whether it succeeds. -/
abbrev Step := Memory → Bool × Memory

/-- The next step is taken if the last one succeeded. -/
def andThen (x : Bool × Memory) (step : Step) : Bool × Memory := if x.1 then step x.2 else x

/-- Where a step has failed, something is undone. -/
def undoing (x : Bool × Memory) (undo : Memory → Memory) : Bool × Memory :=
  if x.1 then x else (false, undo x.2)

/-- A step that only fails. -/
def check (ok : Bool) : Step := fun s => (ok, s)

/-- A step that cannot fail. -/
def always (f : Memory → Memory) : Step := fun s => (true, f s)

/-- Everything of a group. -/
def OfGroup (g : Fin maxStreams) (p : Place) : Prop := p.1 = g

/-- A pointer of the cache of glyphs. -/
def Slot.isGlyph : Slot → Bool
  | .glyph _ => true
  | _ => false

/-- The cached glyphs of a group. -/
def OfGlyphs (g : Fin maxStreams) (p : Place) : Prop := p.1 = g ∧ p.2.isGlyph = true

instance (g : Fin maxStreams) : DecidablePred (OfGroup g) :=
  fun p => inferInstanceAs (Decidable (p.1 = g))

instance (g : Fin maxStreams) : DecidablePred (OfGlyphs g) :=
  fun p => inferInstanceAs (Decidable (p.1 = g ∧ p.2.isGlyph = true))

/-! ### Text -/

section

variable (g : Fin maxStreams)

/-- The font is read. -/
def useFont (s : Memory) : Memory := ((s.touch (g, .sft)).touch (g, .font)).touch (g, .fontData)

/-- How far the rendering of a glyph gets. -/
inductive GlyphResult
  | noPixels | notRendered | noBitmap | rendered
deriving DecidableEq

/-- `osd_render_glyph`. -/
def renderGlyph (c : Fin 128) (result : GlyphResult) (s : Memory) : Memory :=
  if s.hold (g, .sft) = none then s
  else if s.hold (g, .glyph c) ≠ none then s
  else
    let s := useFont g s
    match result with
    | .noPixels => s
    | .notRendered | .noBitmap => (s.acquire (g, .pixels)).release (g, .pixels)
    | .rendered => ((s.acquire (g, .pixels)).acquire (g, .glyph c)).release (g, .pixels)

/-- The loops over the characters of a text, of which those below 128 have glyphs. -/
def renderText (text : List (Fin 128)) (results : ℕ → GlyphResult) (s : Memory) : Memory :=
  text.zipIdx.foldl (fun s ci => renderGlyph g ci.1 (results ci.2) s) s

/-- `metric_chars`. -/
@[irreducible] def metricChars : List (Fin 128) :=
  (ascii "AgjyqpQWH@0123456789").map fun c => Fin.ofNat 128 c.toNat

/-- What happens while a text is drawn: in its measurement, its allocation, and the two loops of
the drawing. -/
structure TextOutcome where
  sizeMetrics : Bool
  sizeGlyphs : ℕ → GlyphResult
  allocated : Bool
  drawMetrics : Bool
  widthGlyphs : ℕ → GlyphResult
  drawGlyphs : ℕ → GlyphResult
  setRgnAttr : Bool

/-- `osd_calculate_text_size`. -/
def calculateTextSize (text : List (Fin 128)) (o : TextOutcome) : Step := fun s =>
  if s.hold (g, .sft) = none then (false, s)
  else andThen (check o.sizeMetrics (useFont g s)) (always (renderText g text o.sizeGlyphs))

/-- The last loop of `osd_draw_text`: a glyph that is there is read, and the image is written. -/
def paintText (text : List (Fin 128)) (results : ℕ → GlyphResult) (s : Memory) : Memory :=
  text.zipIdx.foldl (fun s ci =>
    ((renderGlyph g ci.1 (results ci.2) s).touch (g, .glyph ci.1)).touch (g, .bitmap)) s

/-- `osd_draw_text` into the new bitmap. -/
def drawText (text : List (Fin 128)) (o : TextOutcome) : Step := fun s =>
  if s.hold (g, .sft) = none then (false, s)
  else andThen (check o.drawMetrics (useFont g s)) (always fun s =>
    paintText g text o.drawGlyphs (renderText g text o.widthGlyphs s))

/-- `osd_create_text_bitmap`, and the same steps in `osd_update_timestamp` and
`osd_update_info_display`. -/
def createTextBitmap (text : List (Fin 128)) (o : TextOutcome) : Step := fun s =>
  andThen (andThen (calculateTextSize g text o s) (check o.allocated)) fun s =>
    let s := (s.acquire (g, .bitmap)).touch (g, .bitmap)
    undoing (drawText g text o s) (Store.release (g, .bitmap))

/-- The new bitmap takes the place of the old one, and the region gets it and is shown. -/
def showBitmap (data handle : Slot) (o : TextOutcome) (s : Memory) : Memory :=
  let s := s.replace (g, .bitmap) (g, data)
  let s := (s.touch (g, handle)).touch (g, data)
  if o.setRgnAttr then s.touch (g, handle) else s

/-- `osd_update_timestamp`, and the rest of `osd_set_text` and of
`osd_update_timestamp_current`. -/
def updateTimestamp (text : List (Fin 128)) (o : TextOutcome) (s : Memory) : Memory :=
  (andThen (createTextBitmap g text o s)
    (always (showBitmap g .timestampData .timestampHandle o))).2

/-- `osd_update_info_display`. -/
def updateInfoDisplay (text : List (Fin 128)) (o : TextOutcome) (s : Memory) : Memory :=
  (andThen (createTextBitmap g text o s)
    (always (showBitmap g .infoData (.region .info) o))).2

/-! ### The font -/

/-- How the steps of `osd_libschrift_init` end. -/
structure FontOutcome where
  fileOpened : Bool
  dataAllocated : Bool
  dataRead : Bool
  sftAllocated : Bool
  fontLoaded : Bool
  glyphs : ℕ → GlyphResult

/-- `osd_libschrift_init`. -/
def libschriftInit (o : FontOutcome) : Step := fun s =>
  if !o.fileOpened || !o.dataAllocated then (false, s)
  else
    let s := s.acquire (g, .fontData)
    if !o.dataRead || !o.sftAllocated then (false, s.release (g, .fontData))
    else
      let s := (s.acquire (g, .sft)).touch (g, .fontData)
      if !o.fontLoaded then (false, (s.release (g, .sft)).release (g, .fontData))
      else
        let s := (s.acquire (g, .font)).forget (OfGlyphs g)
        (true, renderText g metricChars o.glyphs s)

/-- All glyphs of the cache. -/
def glyphs : List Place := (List.finRange 128).map fun c => (g, .glyph c)

/-- `osd_libschrift_cleanup`. -/
def libschriftCleanup (s : Memory) : Memory :=
  let s := s.releaseAll (glyphs g)
  let s := if s.hold (g, .sft) = none then s else (s.release (g, .font)).release (g, .sft)
  s.release (g, .fontData)

/-- The part of `osd_reload_font_if_changed` for a changed size. -/
def reloadFont (results : ℕ → GlyphResult) (s : Memory) : Memory :=
  renderText g metricChars results (s.forget (OfGlyphs g))

/-! ### The regions -/

/-- What `osd_module_config_t` has for a stream. -/
structure ModuleStream where
  timeEnabled : Bool
  size : ℤ
  logoEnabled : Bool
  infoEnabled : Bool
  motionZonesEnabled : Bool

/-- A region is created for what is enabled. -/
def ModuleStream.wants (m : ModuleStream) : Region → Bool
  | .font => true
  | .logo => m.logoEnabled
  | .info => m.infoEnabled
  | .motionZone _ => m.motionZonesEnabled

/-- How far the loading of the logo gets. -/
inductive LogoResult
  | notAllocated | notRead | loaded
deriving DecidableEq

/-- How the steps of `osd_create_regions` end. -/
structure RegionsOutcome where
  createRgn : Region → Bool
  registerRgn : Region → Bool
  logo : LogoResult
  createTimestampRgn : Bool
  registerTimestampRgn : Bool

/-- Regions are created until one cannot be. -/
def createRgns (createRgn : Region → Bool) : List Region → Step
  | [] => fun s => (true, s)
  | i :: rest => fun s =>
    if createRgn i then createRgns createRgn rest (s.acquire (g, .region i)) else (false, s)

/-- Regions are registered until one cannot be. -/
def registerRgns (registerRgn : Region → Bool) : List Region → Step
  | [] => fun s => (true, s)
  | i :: rest => fun s =>
    let s := s.touch (g, .region i)
    if registerRgn i then registerRgns registerRgn rest s else (false, s)

/-- `osd_setup_logo_region`. Its failures are not those of the caller. -/
def setupLogoRegion (logo : LogoResult) (s : Memory) : Memory :=
  match logo with
  | .notAllocated => s
  | .notRead => (s.acquire (g, .bitmap)).release (g, .bitmap)
  | .loaded => ((s.acquire (g, .logoBuffer)).touch (g, .logoBuffer)).touch (g, .region .logo)

/-- `osd_create_timestamp_region`. Its failures are not those of the caller. -/
def createTimestampRegion (o : RegionsOutcome) (s : Memory) : Memory :=
  if !o.createTimestampRgn then s
  else
    let s := (s.acquire (g, .timestampHandle)).touch (g, .timestampHandle)
    if !o.registerTimestampRgn then s.release (g, .timestampHandle) else s

/-- The regions that are set up once they are registered. -/
def setupRegions (m : ModuleStream) (o : RegionsOutcome) (s : Memory) : Memory :=
  let s := if m.infoEnabled then s.touch (g, .region .info) else s
  let s := if m.logoEnabled then setupLogoRegion g o.logo s else s
  let s := createTimestampRegion g o s
  if m.motionZonesEnabled then
    s.touchAll ((List.finRange 4).map fun i => (g, .region (.motionZone i)))
  else s

/-- `osd_create_regions`. -/
def createRegions (m : ModuleStream) (o : RegionsOutcome) : Step := fun s =>
  let wanted := Region.all.filter m.wants
  andThen (andThen (createRgns g o.createRgn wanted s) (registerRgns g o.registerRgn wanted))
    (always (setupRegions g m o))

/-! ### The context -/

/-- How the steps of `osd_init` end: those before the context is allocated, the allocation, and
those of `osd_context_init`; and the number of the stream whose configuration is used. -/
structure InitOutcome where
  reached : Bool
  stream : ℕ
  contextAllocated : Bool
  mutexInit : Bool
  createGroup : Bool
  font : FontOutcome
  timeFormatValid : Bool
  regions : RegionsOutcome
  start : Bool

/-- What `osd_context_init` undoes once the font is there. -/
def undoInit (s : Memory) : Memory := (libschriftCleanup g s).release (g, .group)

/-- `osd_context_init` once the font is there. -/
def initRegions (m : ModuleStream) (o : InitOutcome) : Step := fun s =>
  undoing (andThen (andThen (check o.timeFormatValid s) (createRegions g m o.regions))
    fun s => check o.start (s.touch (g, .group))) (undoInit g)

/-- `osd_context_init` from the creation of the group on. -/
def contextInit (m : ModuleStream) (o : InitOutcome) : Step := fun s =>
  if !o.createGroup then (false, s)
  else
    andThen (undoing (libschriftInit g o.font (s.acquire (g, .group)))
      (Store.release (g, .group))) (initRegions g m o)

/-- A region is hidden, unregistered and destroyed. -/
def destroyRegions (s : Memory) : Memory :=
  let handles : List Place := Region.all.map fun i => (g, .region i)
  ((s.touchAll handles).touchAll handles).releaseAll handles

/-- `osd_context_cleanup`. -/
def contextCleanup (s : Memory) : Memory :=
  let s := destroyRegions g (s.touch (g, .group))
  libschriftCleanup g ((s.release (g, .group)).release (g, .logoBuffer))

/-- The timestamp region in `osd_cleanup`. -/
def cleanupTimestamp (s : Memory) : Memory :=
  let s := (s.touch (g, .timestampHandle)).release (g, .timestampHandle)
  s.release (g, .timestampData)

end

/-! ### The functions of the module -/

/-- What is read of `osd_context_t` besides: the stream of its configuration, and the size of the
font. A context is started as long as it is there. -/
structure Context where
  stream : ℕ
  fontSize : ℤ
deriving DecidableEq

/-- What is read of `osd` in `stream_config_t`. -/
structure StreamConfig where
  timeEnabled : Bool
  size : ℤ
deriving DecidableEq

structure State where
  memory : Memory
  context : Fin maxStreams → Option Context
  config : ℕ → StreamConfig
  /-- The memory for contexts: how many were allocated, and how many of them freed. -/
  contextsAllocated : ℕ
  contextsFreed : ℕ

/-- When the program starts. -/
def State.initial (config : ℕ → StreamConfig) : State where
  memory := .empty
  context := fun _ => none
  config
  contextsAllocated := 0
  contextsFreed := 0

/-- `free` of `g_osd_contexts[g]`. -/
def State.freeContext (g : Fin maxStreams) (s : State) : State :=
  match s.context g with
  | none => s
  | some _ => { s with contextsFreed := s.contextsFreed + 1 }

/-- `osd_init`. The context is stored before anything is acquired, and what an earlier one points
to is out of reach then. -/
def osdInit (g : Fin maxStreams) (m : ModuleStream) (o : InitOutcome) (s : State) : State :=
  if !o.reached then s
  else
    let s := { s with config := Function.update s.config o.stream ⟨m.timeEnabled, m.size⟩ }
    if !o.contextAllocated then s
    else
      let s := { s with contextsAllocated := s.contextsAllocated + 1 }
      if !o.mutexInit then { s with contextsFreed := s.contextsFreed + 1 }
      else
        let x := contextInit g m o (s.memory.forget (OfGroup g))
        if x.1 then
          { s with
            memory := x.2
            context := Function.update s.context g (some ⟨o.stream, m.size⟩) }
        else
          { s with
            memory := x.2.forget (OfGroup g)
            context := Function.update s.context g none
            contextsFreed := s.contextsFreed + 1 }

/-- `osd_context_cleanup`, which takes the context out of the array. -/
def State.cleanupContext (g : Fin maxStreams) (s : State) : State :=
  { s with
    memory := (contextCleanup g s.memory).forget (OfGroup g)
    context := Function.update s.context g none }

/-- `osd_cleanup`. -/
def osdCleanup (g : Fin maxStreams) (s : State) : State :=
  if s.context g = none then s
  else (State.cleanupContext g { s with memory := cleanupTimestamp g s.memory }).freeContext g

/-- `osd_cleanup_all`. -/
def osdCleanupAll (s : State) : State :=
  (List.finRange maxStreams).foldl (fun s g =>
    if s.context g = none then s else (s.cleanupContext g).freeContext g) s

/-- `osd_set_timestamp`. -/
def osdSetTimestamp (g : Fin maxStreams) (text : List (Fin 128)) (o : TextOutcome) (s : State) :
    State :=
  match s.context g with
  | none => s
  | some ctx =>
    if (s.config ctx.stream).timeEnabled then
      { s with memory := updateTimestamp g text o s.memory }
    else s

/-- `osd_set_text`. -/
def osdSetText (g : Fin maxStreams) (text : List (Fin 128)) (o : TextOutcome) (s : State) :
    State :=
  match s.context g with
  | none => s
  | some ctx =>
    { s with
      config := Function.update s.config ctx.stream
        { s.config ctx.stream with timeEnabled := true }
      memory := updateTimestamp g text o s.memory }

/-- `osd_update_timestamp_current` for the context of a group. There is no text if the time
cannot be formatted, or is the one that was drawn last. -/
def osdUpdateTimestampCurrent (g : Fin maxStreams) (text : Option (List (Fin 128)))
    (o : TextOutcome) (s : State) : State :=
  text.elim s fun text => osdSetTimestamp g text o s

/-- The size of the font is not the one that is configured. -/
def State.FontChanged (s : State) (g : Fin maxStreams) : Prop :=
  ∃ ctx ∈ s.context g, ctx.fontSize ≠ (s.config ctx.stream).size

/-- `osd_reload_font_if_changed`. -/
def osdReloadFontIfChanged (g : Fin maxStreams) (results : ℕ → GlyphResult) (s : State) : State :=
  match s.context g with
  | none => s
  | some ctx =>
    if s.memory.hold (g, .sft) = none ∨ ctx.fontSize = (s.config ctx.stream).size then s
    else
      { s with
        memory := reloadFont g results s.memory
        context := Function.update s.context g
          (some { ctx with fontSize := (s.config ctx.stream).size }) }

/-- `osd_update`. -/
def osdUpdate (g : Fin maxStreams) (results : ℕ → GlyphResult) (text : Option (List (Fin 128)))
    (o : TextOutcome) (s : State) : State :=
  osdUpdateTimestampCurrent g text o (osdReloadFontIfChanged g results s)

/-- `osd_update_info_display` for the context of a group. -/
def osdUpdateInfoDisplay (g : Fin maxStreams) (text : List (Fin 128)) (o : TextOutcome)
    (s : State) : State :=
  if s.context g = none then s else { s with memory := updateInfoDisplay g text o s.memory }

/-- A call of one of the functions, or a change of the configured font size. -/
inductive Call
  | init (g : Fin maxStreams) (m : ModuleStream) (o : InitOutcome)
  | setTimestamp (g : Fin maxStreams) (text : List (Fin 128)) (o : TextOutcome)
  | setText (g : Fin maxStreams) (text : List (Fin 128)) (o : TextOutcome)
  | updateTimestampCurrent (g : Fin maxStreams) (text : Option (List (Fin 128)))
      (o : TextOutcome)
  | update (g : Fin maxStreams) (results : ℕ → GlyphResult) (text : Option (List (Fin 128)))
      (o : TextOutcome)
  | updateInfoDisplay (g : Fin maxStreams) (text : List (Fin 128)) (o : TextOutcome)
  | setFontSize (stream : ℕ) (size : ℤ)
  | cleanup (g : Fin maxStreams)
  | cleanupAll

def step (s : State) : Call → State
  | .init g m o => osdInit g m o s
  | .setTimestamp g text o => osdSetTimestamp g text o s
  | .setText g text o => osdSetText g text o s
  | .updateTimestampCurrent g text o => osdUpdateTimestampCurrent g text o s
  | .update g results text o => osdUpdate g results text o s
  | .updateInfoDisplay g text o => osdUpdateInfoDisplay g text o s
  | .setFontSize stream size =>
    { s with config := Function.update s.config stream { s.config stream with size } }
  | .cleanup g => osdCleanup g s
  | .cleanupAll => osdCleanupAll s

end Osd.Resources
