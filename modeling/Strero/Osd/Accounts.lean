import Strero.Lib.Runs
import Strero.Osd.Contexts

/-!
# The books of the displays

Everything that has been acquired is what the pointers of the contexts point to, each by one, in
every state of exactly those runs in which no step drops pointers that are in use: a reload of
the font drops the cached glyphs, an initialization that fails late drops the regions, a second
one drops the context, and a cleanup drops what it does not know of.
-/

namespace Osd.Resources

open Pointers Store Clocks Runs

variable {g : Fin maxStreams}

/-- What holds of the pointers whatever has happened: a group without context holds nothing, the
local pointers are null, and a context has its font. -/
structure Inv (s : State) : Prop where
  gone : ∀ g, s.context g = none → Blank g s.memory
  idle : ∀ g, Idle g s.memory
  font : ∀ g, s.context g ≠ none → s.memory.hold (g, .sft) ≠ none

/-- Everything that was acquired is there once for each pointer of a context that is there, or has
been given back, once, and is not used any more. -/
structure State.Accounted (s : State) : Prop where
  memory : s.memory.Accounted
  owned : ∀ r ∈ s.memory.opened, ∃! p, s.memory.hold p = some r ∧ s.context p.1 ≠ none

/-- What the step must find to keep the books. -/
def Keeps (s : State) : Call → Prop
  | .init g m o => o.reached = true → o.contextAllocated = true → o.mutexInit = true →
      s.context g = none ∧ o.Clean m
  | .update g _ _ _ => s.FontChanged g → ∀ c, s.memory.hold (g, .glyph c) = none
  | .cleanup g => s.context g ≠ none → s.memory.hold (g, .infoData) = none
  | .cleanupAll => ∀ g, s.context g ≠ none → s.memory.hold (g, .timestampHandle) = none ∧
      s.memory.hold (g, .timestampData) = none ∧ s.memory.hold (g, .infoData) = none
  | _ => True

section Calls

variable {s : State}

theorem inv_initial (config : ℕ → StreamConfig) : Inv (State.initial config) where
  gone := fun _ _ _ => rfl
  idle := fun _ => ⟨rfl, rfl⟩
  font := fun _ h => absurd rfl h

/-- Without a context nothing is held, so that what is held is held by a context. -/
theorem Inv.accounted_iff (h : Inv s) : s.Accounted ↔ s.memory.Accounted := by
  constructor
  · exact State.Accounted.memory
  · intro hs
    refine ⟨hs, fun r hr => ?_⟩
    obtain ⟨p, hp⟩ := (hs.exact r).mp hr
    refine ⟨p, ⟨hp, fun hnone => ?_⟩, fun q hq => hs.exclusive q p r hq.1 hp⟩
    obtain ⟨g, slot⟩ := p
    exact absurd ((h.gone g hnone slot).symm.trans hp) (Option.some_ne_none r).symm

/-- Only the pointers and the contexts matter. -/
theorem Inv.congr (h : Inv s) {s' : State} (hcontext : s'.context = s.context)
    (hmemory : s'.memory = s.memory) : Inv s' where
  gone := by
    rw [hcontext, hmemory]
    exact h.gone
  idle := by
    rw [hmemory]
    exact h.idle
  font := by
    rw [hcontext, hmemory]
    exact h.font

/-- A step for one group that leaves the others alone. -/
theorem Inv.of_frame {s' : State} (h : Inv s) {g : Fin maxStreams}
    (hcontext : ∀ j, j ≠ g → s'.context j = s.context j)
    (hhold : ∀ p : Place, p.1 ≠ g → s'.memory.hold p = s.memory.hold p)
    (hgone : s'.context g = none → Blank g s'.memory) (hidle : Idle g s'.memory)
    (hfont : s'.context g ≠ none → s'.memory.hold (g, .sft) ≠ none) : Inv s' := by
  refine ⟨fun j hj => ?_, fun j => ?_, fun j hj => ?_⟩
  · by_cases hjg : j = g
    · exact hjg ▸ hgone (hjg ▸ hj)
    · intro slot
      rw [hhold _ hjg]
      exact h.gone j ((hcontext j hjg).symm.trans hj) slot
  · by_cases hjg : j = g
    · exact hjg ▸ hidle
    · unfold Idle
      rw [hhold _ hjg, hhold _ hjg]
      exact h.idle j
  · by_cases hjg : j = g
    · exact hjg ▸ hfont (hjg ▸ hj)
    · rw [hhold _ hjg]
      exact h.font j fun hnone => hj ((hcontext j hjg).trans hnone)

/-! ### Updates of texts -/

/-- A call that keeps the books, whatever it finds. -/
structure Harmless (f : State → State) : Prop where
  inv : ∀ s, Inv s → Inv (f s)
  accounted : ∀ s, Inv s → s.memory.Accounted → (f s).memory.Accounted
  persists : ∀ s r, s.memory.Lost r → (f s).memory.Lost r

theorem harmless_id : Harmless id where
  inv := fun _ h => h
  accounted := fun _ _ hs => hs
  persists := fun _ _ h => h

/-- A text of a context is updated. -/
theorem Inv.updated {data : Slot} {update : Memory → Memory} (hupdate : Updating g data update)
    (h : Inv s) (hsft : data ≠ .sft) (hpixels : data ≠ .pixels) (hbitmap : data ≠ .bitmap)
    (hctx : s.context g ≠ none) {s' : State} (hcontext : s'.context = s.context)
    (hmemory : s'.memory = update s.memory) : Inv s' := by
  have hsame {p : Place} (hp : ¬OfGlyphs g p) (hne : p ≠ (g, data)) :
      s'.memory.hold p = s.memory.hold p := by
    rw [hmemory]
    exact hupdate.frame _ (h.idle g) p hp hne
  have hslot {slot : Slot} (hglyph : slot.isGlyph = false) (hne : data ≠ slot) :
      s'.memory.hold (g, slot) = s.memory.hold (g, slot) :=
    hsame (not_ofGlyphs_of hglyph) fun heq => hne (Prod.mk.inj heq).2.symm
  refine h.of_frame (g := g) (fun j _ => congrFun hcontext j) (fun p hp => ?_) (fun hnone => ?_)
    ⟨?_, ?_⟩ fun _ => ?_
  · exact hsame (fun hg => hp hg.1) fun heq => hp (by rw [heq])
  · rw [hcontext] at hnone
    exact absurd hnone hctx
  · rw [hslot rfl hpixels]
    exact (h.idle g).1
  · rw [hslot rfl hbitmap]
    exact (h.idle g).2
  · rw [hslot rfl hsft]
    exact h.font g hctx

/-- A call that updates a text of a context that is there, or none. -/
theorem Harmless.of_updating {data : Slot} {update : Memory → Memory}
    (hupdate : Updating g data update) (hsft : data ≠ .sft) (hpixels : data ≠ .pixels)
    (hbitmap : data ≠ .bitmap) {f : State → State} (hcontext : ∀ s, (f s).context = s.context)
    (hcases : ∀ s, (f s).memory = s.memory ∨
      s.context g ≠ none ∧ (f s).memory = update s.memory) : Harmless f where
  inv := by
    intro s h
    rcases hcases s with hsame | ⟨hctx, hupdated⟩
    · exact h.congr (hcontext s) hsame
    · exact h.updated hupdate hsft hpixels hbitmap hctx (hcontext s) hupdated
  accounted := by
    intro s h hs
    rcases hcases s with hsame | ⟨-, hupdated⟩
    · rwa [hsame]
    · rw [hupdated]
      exact hupdate.accounted _ (h.idle g) hs
  persists := by
    intro s r h
    rcases hcases s with hsame | ⟨-, hupdated⟩
    · rwa [hsame]
    · rw [hupdated]
      exact hupdate.persists r _ h

theorem harmless_osdSetTimestamp (text : List (Fin 128)) (o : TextOutcome) :
    Harmless (osdSetTimestamp g text o) := by
  refine .of_updating (updating_updateTimestamp g text o) (by simp) (by simp) (by simp)
    (fun s => ?_) fun s => ?_
  · unfold osdSetTimestamp
    split
    · rfl
    · split <;> rfl
  · unfold osdSetTimestamp
    cases hctx : s.context g with
    | none => exact .inl rfl
    | some ctx =>
      dsimp only
      split
      · exact .inr ⟨Option.some_ne_none ctx, rfl⟩
      · exact .inl rfl

theorem harmless_osdSetText (text : List (Fin 128)) (o : TextOutcome) :
    Harmless (osdSetText g text o) := by
  refine .of_updating (updating_updateTimestamp g text o) (by simp) (by simp) (by simp)
    (fun s => ?_) fun s => ?_
  · unfold osdSetText
    split <;> rfl
  · unfold osdSetText
    cases hctx : s.context g with
    | none => exact .inl rfl
    | some ctx => exact .inr ⟨Option.some_ne_none ctx, rfl⟩

theorem harmless_osdUpdateTimestampCurrent (text : Option (List (Fin 128))) (o : TextOutcome) :
    Harmless (osdUpdateTimestampCurrent g text o) := by
  cases text with
  | none => exact harmless_id
  | some text => exact harmless_osdSetTimestamp text o

theorem harmless_osdUpdateInfoDisplay (text : List (Fin 128)) (o : TextOutcome) :
    Harmless (osdUpdateInfoDisplay g text o) := by
  refine .of_updating (updating_updateInfoDisplay g text o) (by simp) (by simp) (by simp)
    (fun s => ?_) fun s => ?_
  · unfold osdUpdateInfoDisplay
    split <;> rfl
  · unfold osdUpdateInfoDisplay
    split
    · exact .inl rfl
    · exact .inr ⟨‹_›, rfl⟩

/-! ### The reload of the font -/

/-- The font of a context is reloaded exactly if its size has changed. -/
theorem osdReloadFontIfChanged_cases (g : Fin maxStreams) (results : ℕ → GlyphResult)
    (h : Inv s) :
    (¬s.FontChanged g ∧ osdReloadFontIfChanged g results s = s) ∨
    (s.FontChanged g ∧ (osdReloadFontIfChanged g results s).memory =
        reloadFont g results s.memory ∧
      s.context g ≠ none ∧ (osdReloadFontIfChanged g results s).context g ≠ none ∧
      ∀ j, j ≠ g → (osdReloadFontIfChanged g results s).context j = s.context j) := by
  unfold osdReloadFontIfChanged State.FontChanged
  have hfont := h.font g
  cases hctx : s.context g with
  | none => exact .inl ⟨by simp, rfl⟩
  | some ctx =>
    rw [hctx] at hfont
    by_cases hsize : ctx.fontSize = (s.config ctx.stream).size
    · exact .inl ⟨by simp [hsize], if_pos (.inr hsize)⟩
    · have hreload := not_or.mpr ⟨hfont (Option.some_ne_none ctx), hsize⟩
      dsimp only
      rw [if_neg hreload]
      refine .inr ⟨⟨ctx, rfl, hsize⟩, rfl, Option.some_ne_none ctx, ?_, fun j hj => ?_⟩
      · dsimp only
        rw [Function.update_self]
        exact Option.some_ne_none _
      · exact Function.update_of_ne hj _ _

theorem hold_reloadFont {s : Memory} {p : Place} (results : ℕ → GlyphResult)
    (h : s.hold (g, .pixels) = none) (hp : ¬OfGlyphs g p) :
    (reloadFont g results s).hold p = s.hold p := by
  have hforget : (s.forget (OfGlyphs g)).hold (g, .pixels) = none := by
    rw [hold_forget_of_not (not_ofGlyphs_of rfl), h]
  exact ((rendering_renderText g metricChars results).frame _ hforget p hp).trans
    (hold_forget_of_not hp)

theorem inv_osdReloadFontIfChanged (results : ℕ → GlyphResult) (h : Inv s) :
    Inv (osdReloadFontIfChanged g results s) := by
  rcases osdReloadFontIfChanged_cases g results h with
    ⟨-, hsame⟩ | ⟨-, hmemory, hctx, hctx', hother⟩
  · rwa [hsame]
  · have hhold {p : Place} (hp : ¬OfGlyphs g p) :
        (osdReloadFontIfChanged g results s).memory.hold p = s.memory.hold p := by
      rw [hmemory]
      exact hold_reloadFont results (h.idle g).1 hp
    refine h.of_frame hother (fun p hp => hhold fun hg => hp hg.1)
      (fun hnone => absurd hnone hctx') ⟨?_, ?_⟩ fun _ => ?_
    · rw [hhold (not_ofGlyphs_of rfl)]
      exact (h.idle g).1
    · rw [hhold (not_ofGlyphs_of rfl)]
      exact (h.idle g).2
    · rw [hhold (not_ofGlyphs_of rfl)]
      exact h.font g hctx

/-- The reload drops the cached glyphs. -/
theorem osdReloadFontIfChanged_keeps (results : ℕ → GlyphResult) (h : Inv s)
    (hs : s.memory.Accounted)
    (hkeeps : s.FontChanged g → ∀ c, s.memory.hold (g, .glyph c) = none) :
    (osdReloadFontIfChanged g results s).memory.Accounted := by
  rcases osdReloadFontIfChanged_cases g results h with ⟨-, hsame⟩ | ⟨hchanged, hmemory, -⟩
  · rwa [hsame]
  · rw [hmemory]
    refine (rendering_renderText g metricChars results).accounted _ ?_ (hs.forget fun p hp => ?_)
    · rw [hold_forget_of_not (not_ofGlyphs_of rfl)]
      exact (h.idle g).1
    · obtain ⟨c, rfl⟩ := ofGlyphs_iff.mp hp
      exact hkeeps hchanged c

theorem osdReloadFontIfChanged_loses (results : ℕ → GlyphResult) (h : Inv s)
    (hs : s.memory.Accounted) (hchanged : s.FontChanged g) {c : Fin 128}
    (hc : s.memory.hold (g, .glyph c) ≠ none) :
    ∃ r, (osdReloadFontIfChanged g results s).memory.Lost r := by
  rcases osdReloadFontIfChanged_cases g results h with ⟨hnot, -⟩ | ⟨-, hmemory, -⟩
  · exact absurd hchanged hnot
  · obtain ⟨r, hr⟩ := Option.ne_none_iff_exists'.mp hc
    rw [hmemory]
    exact ⟨r, (rendering_renderText g metricChars results).persists r _
      (hs.lost_forget (ofGlyphs_iff.mpr ⟨c, rfl⟩) hr)⟩

theorem osdUpdate_accounted_iff (results : ℕ → GlyphResult) (text : Option (List (Fin 128)))
    (o : TextOutcome) (h : Inv s) (hs : s.memory.Accounted) :
    (osdUpdate g results text o s).memory.Accounted ↔
      (s.FontChanged g → ∀ c, s.memory.hold (g, .glyph c) = none) := by
  have htext := harmless_osdUpdateTimestampCurrent (g := g) text o
  constructor
  · intro haccounted hchanged c
    by_contra hc
    obtain ⟨r, hr⟩ := osdReloadFontIfChanged_loses results h hs hchanged hc
    exact (htext.persists _ r hr).not_accounted haccounted
  · intro hkeeps
    exact htext.accounted _ (inv_osdReloadFontIfChanged results h)
      (osdReloadFontIfChanged_keeps results h hs hkeeps)

/-! ### Cleanup -/

/-- The array does not have the context any more when it should be freed. -/
theorem freeContext_cleanupContext (g : Fin maxStreams) (s : State) :
    (s.cleanupContext g).freeContext g = s.cleanupContext g := by
  have hgone : (s.cleanupContext g).context g = none := Function.update_self _ _ _
  unfold State.freeContext
  rw [hgone]

/-- The memory of a context is not freed with it. -/
theorem osdCleanup_contextsFreed (g : Fin maxStreams) (s : State) :
    (osdCleanup g s).contextsFreed = s.contextsFreed := by
  unfold osdCleanup
  split
  · rfl
  · rw [freeContext_cleanupContext]
    rfl

/-- What `osd_cleanup` and `osd_cleanup_all` do with a context. -/
def dropContext (g : Fin maxStreams) (s : Memory) : Memory :=
  (contextCleanup g s).forget (OfGroup g)

theorem persists_dropContext (g : Fin maxStreams) : Persists (dropContext g) :=
  (persists_forget _).comp (persists_contextCleanup g)

theorem hold_dropContext_of_ne {s : Memory} {p : Place} (hp : p.1 ≠ g) :
    (dropContext g s).hold p = s.hold p := by
  have hnot : ¬OfGroup g p := hp
  unfold dropContext
  rw [hold_forget_of_not hnot, hold_contextCleanup_of_overlooked]
  refine ⟨fun hfont => hp (ofFont_fst hfont).1, ?_, ?_, fun i => ?_⟩
  all_goals
    rintro rfl
    exact hp rfl

theorem dropContext_accounted_iff {s : Memory} (hidle : Idle g s) (hsft : s.hold (g, .sft) ≠ none)
    (hs : s.Accounted) :
    (dropContext g s).Accounted ↔ s.hold (g, .timestampHandle) = none ∧
      s.hold (g, .timestampData) = none ∧ s.hold (g, .infoData) = none := by
  rw [← blank_contextCleanup_iff hidle hsft]
  unfold dropContext
  rw [(contextCleanup_accounted g hs).forget_iff]
  constructor
  · exact fun h slot => h (g, slot) rfl
  · rintro h ⟨g', slot⟩ hp
    obtain rfl : g' = g := hp
    exact h slot

theorem inv_cleanupContext (h : Inv s) {s' : State}
    (hcontext : s'.context = Function.update s.context g none) {t : Memory}
    (hmemory : s'.memory = dropContext g t)
    (hsame : ∀ p : Place, p.1 ≠ g → t.hold p = s.memory.hold p) : Inv s' := by
  have hblank : Blank g s'.memory := by
    intro slot
    rw [hmemory]
    exact hold_forget_of rfl
  refine h.of_frame (g := g) (fun j hj => ?_) (fun p hp => ?_) (fun _ => hblank)
    ⟨hblank _, hblank _⟩ fun hctx => ?_
  · rw [hcontext, Function.update_of_ne hj]
  · rw [hmemory, hold_dropContext_of_ne hp, hsame p hp]
  · rw [hcontext, Function.update_self] at hctx
    exact absurd rfl hctx

theorem hold_cleanupTimestamp {s : Memory} {p : Place} (hhandle : p ≠ (g, .timestampHandle))
    (hdata : p ≠ (g, .timestampData)) : (cleanupTimestamp g s).hold p = s.hold p := by
  unfold cleanupTimestamp
  rw [hold_release_of_ne hdata, hold_release_of_ne hhandle, hold_touch]

theorem cleanupTimestamp_accounted {s : Memory} (hs : s.Accounted) :
    (cleanupTimestamp g s).Accounted := by
  unfold cleanupTimestamp
  rw [hs.touch_eq]
  exact (hs.release _).release _

theorem osdCleanup_eq (g : Fin maxStreams) (s : State) :
    osdCleanup g s = if s.context g = none then s else
      { s with
        memory := dropContext g (cleanupTimestamp g s.memory)
        context := Function.update s.context g none } := by
  unfold osdCleanup
  rw [freeContext_cleanupContext]
  rfl

theorem inv_osdCleanup (h : Inv s) : Inv (osdCleanup g s) := by
  rw [osdCleanup_eq]
  split
  · exact h
  · refine inv_cleanupContext h rfl rfl fun p hp => hold_cleanupTimestamp ?_ ?_
    all_goals
      rintro rfl
      exact hp rfl

theorem osdCleanup_accounted_iff (h : Inv s) (hs : s.memory.Accounted) :
    (osdCleanup g s).memory.Accounted ↔
      (s.context g ≠ none → s.memory.hold (g, .infoData) = none) := by
  rw [osdCleanup_eq]
  by_cases hctx : s.context g = none
  · rw [if_pos hctx]
    exact iff_of_true hs fun hsome => absurd hctx hsome
  have hsame (slot : Slot) (hhandle : slot ≠ .timestampHandle) (hdata : slot ≠ .timestampData) :
      (cleanupTimestamp g s.memory).hold (g, slot) = s.memory.hold (g, slot) :=
    hold_cleanupTimestamp (fun heq => hhandle (Prod.mk.inj heq).2)
      fun heq => hdata (Prod.mk.inj heq).2
  have hidle : Idle g (cleanupTimestamp g s.memory) := by
    unfold Idle
    rw [hsame _ (by simp) (by simp), hsame _ (by simp) (by simp)]
    exact h.idle g
  have hsft : (cleanupTimestamp g s.memory).hold (g, .sft) ≠ none := by
    rw [hsame _ (by simp) (by simp)]
    exact h.font g hctx
  have hhandle : (cleanupTimestamp g s.memory).hold (g, .timestampHandle) = none := by
    unfold cleanupTimestamp
    rw [hold_release_of_ne (by simp), hold_release_self]
  have hdata : (cleanupTimestamp g s.memory).hold (g, .timestampData) = none :=
    hold_release_self _ _
  rw [if_neg hctx, dropContext_accounted_iff hidle hsft (cleanupTimestamp_accounted hs), hhandle,
    hdata, hsame _ (by simp) (by simp)]
  simp [hctx]

/-- A context is dropped, if it is there. -/
def dropIfThere (s : State) (g : Fin maxStreams) : State :=
  if s.context g = none then s else
    { s with
      memory := dropContext g s.memory
      context := Function.update s.context g none }

theorem osdCleanupAll_eq (s : State) :
    osdCleanupAll s = (List.finRange maxStreams).foldl dropIfThere s := by
  have hstep : (fun (s : State) g =>
      if s.context g = none then s else (s.cleanupContext g).freeContext g) = dropIfThere := by
    funext s g
    rw [freeContext_cleanupContext]
    rfl
  unfold osdCleanupAll
  rw [hstep]

theorem inv_dropIfThere (h : Inv s) : Inv (dropIfThere s g) := by
  unfold dropIfThere
  split
  · exact h
  · exact inv_cleanupContext h rfl rfl fun _ _ => rfl

theorem dropIfThere_lost {r : ℕ} (h : s.memory.Lost r) : (dropIfThere s g).memory.Lost r := by
  unfold dropIfThere
  split
  · exact h
  · exact persists_dropContext g r _ h

theorem foldl_dropIfThere_lost (gs : List (Fin maxStreams)) {r : ℕ} (h : s.memory.Lost r) :
    (gs.foldl dropIfThere s).memory.Lost r := by
  induction gs generalizing s with
  | nil => exact h
  | cons g gs ih => exact ih (dropIfThere_lost h)

theorem dropIfThere_of_ne {j : Fin maxStreams} (hj : j ≠ g) :
    (dropIfThere s g).context j = s.context j ∧
      ∀ slot, (dropIfThere s g).memory.hold (j, slot) = s.memory.hold (j, slot) := by
  unfold dropIfThere
  split
  · exact ⟨rfl, fun _ => rfl⟩
  · exact ⟨Function.update_of_ne hj _ _, fun _ => hold_dropContext_of_ne hj⟩

/-- Nothing of a context is held that its cleanup does not know of. -/
def Known (s : State) (g : Fin maxStreams) : Prop :=
  s.context g ≠ none → s.memory.hold (g, .timestampHandle) = none ∧
    s.memory.hold (g, .timestampData) = none ∧ s.memory.hold (g, .infoData) = none

theorem dropIfThere_accounted_iff (h : Inv s) (hs : s.memory.Accounted) :
    (dropIfThere s g).memory.Accounted ↔ Known s g := by
  unfold dropIfThere Known
  by_cases hctx : s.context g = none
  · rw [if_pos hctx]
    exact iff_of_true hs fun hsome => absurd hctx hsome
  · rw [if_neg hctx, dropContext_accounted_iff (h.idle g) (h.font g hctx) hs]
    simp [hctx]

/-- What a context loses is lost. -/
theorem dropIfThere_loses (h : Inv s) (hs : s.memory.Accounted) (hnot : ¬Known s g) :
    ∃ r, (dropIfThere s g).memory.Lost r := by
  rw [← dropIfThere_accounted_iff h hs] at hnot
  unfold dropIfThere at hnot ⊢
  split at hnot
  · exact absurd hs hnot
  · rw [if_neg ‹_›]
    exact (contextCleanup_accounted g hs).exists_lost hnot

theorem foldl_dropIfThere_accounted_iff {gs : List (Fin maxStreams)} (hnodup : gs.Nodup)
    (h : Inv s) (hs : s.memory.Accounted) :
    (gs.foldl dropIfThere s).memory.Accounted ↔ ∀ g ∈ gs, Known s g := by
  induction gs generalizing s with
  | nil => simpa using hs
  | cons g gs ih =>
    obtain ⟨hnotin, hnodup⟩ := List.nodup_cons.mp hnodup
    rw [List.foldl_cons, List.forall_mem_cons]
    by_cases hknown : Known s g
    · have hdropped := (dropIfThere_accounted_iff h hs).mpr hknown
      have hrest : (∀ j ∈ gs, Known (dropIfThere s g) j) ↔ ∀ j ∈ gs, Known s j := by
        refine forall₂_congr fun j hj => ?_
        have hne : j ≠ g := fun heq => hnotin (heq ▸ hj)
        obtain ⟨hcontext, hhold⟩ := dropIfThere_of_ne (s := s) hne
        unfold Known
        rw [hcontext, hhold, hhold, hhold]
      rw [ih hnodup (inv_dropIfThere h) hdropped, hrest]
      simp [hknown]
    · obtain ⟨r, hr⟩ := dropIfThere_loses h hs hknown
      exact iff_of_false (foldl_dropIfThere_lost gs hr).not_accounted fun hall => hknown hall.1

theorem inv_osdCleanupAll (h : Inv s) : Inv (osdCleanupAll s) := by
  rw [osdCleanupAll_eq]
  exact List.foldlRecOn _ _ h fun _ hs _ _ => inv_dropIfThere hs

theorem osdCleanupAll_accounted_iff (h : Inv s) (hs : s.memory.Accounted) :
    (osdCleanupAll s).memory.Accounted ↔ ∀ g, Known s g := by
  rw [osdCleanupAll_eq, foldl_dropIfThere_accounted_iff (List.nodup_finRange _) h hs]
  exact ⟨fun hall g => hall g (List.mem_finRange g), fun hall g _ => hall g⟩

/-! ### Initialization -/

theorem blank_forget (g : Fin maxStreams) (s : Memory) : Blank g (s.forget (OfGroup g)) :=
  fun _ => hold_forget_of rfl

theorem hold_forget_of_ne {s : Memory} {p : Place} (hp : p.1 ≠ g) :
    (s.forget (OfGroup g)).hold p = s.hold p := hold_forget_of_not (p := OfGroup g) hp

/-- The state after an initialization that gets as far as the steps of `osd_context_init`. -/
def initialized (g : Fin maxStreams) (m : ModuleStream) (o : InitOutcome) (s : Memory) : Memory :=
  let x := contextInit g m o (s.forget (OfGroup g))
  if x.1 then x.2 else x.2.forget (OfGroup g)

/-- An initialization stores a context, does nothing, or leaves the group without one. -/
theorem osdInit_cases (g : Fin maxStreams) (m : ModuleStream) (o : InitOutcome) (s : State) :
    (¬(o.reached = true ∧ o.contextAllocated = true ∧ o.mutexInit = true) ∧
      (osdInit g m o s).memory = s.memory ∧ (osdInit g m o s).context = s.context) ∨
    ((o.reached = true ∧ o.contextAllocated = true ∧ o.mutexInit = true) ∧
      (osdInit g m o s).memory = initialized g m o s.memory ∧
      (osdInit g m o s).context = Function.update s.context g
        (if (contextInit g m o (s.memory.forget (OfGroup g))).1 then some ⟨o.stream, m.size⟩
          else none)) := by
  unfold osdInit initialized
  cases o.reached with
  | false => exact .inl ⟨by simp, rfl, rfl⟩
  | true =>
    cases o.contextAllocated with
    | false => exact .inl ⟨by simp, rfl, rfl⟩
    | true =>
      cases o.mutexInit with
      | false => exact .inl ⟨by simp, rfl, rfl⟩
      | true =>
        refine .inr ⟨⟨rfl, rfl, rfl⟩, ?_⟩
        simp only [Bool.not_true, Bool.false_eq_true, if_false]
        split <;> exact ⟨rfl, rfl⟩

theorem hold_initialized_of_ne {m : ModuleStream} {o : InitOutcome} {s : Memory} {p : Place}
    (hp : p.1 ≠ g) : (initialized g m o s).hold p = s.hold p := by
  have hinit := hold_contextInit_of_ne (m := m) (o := o) (blank_forget g s) hp
  rw [hold_forget_of_ne hp] at hinit
  unfold initialized
  dsimp only
  split
  · exact hinit
  · rwa [hold_forget_of_ne hp]

theorem inv_osdInit (m : ModuleStream) (o : InitOutcome) (h : Inv s) : Inv (osdInit g m o s) := by
  rcases osdInit_cases g m o s with ⟨-, hmemory, hcontext⟩ | ⟨-, hmemory, hcontext⟩
  · exact h.congr hcontext hmemory
  have hheld := contextInit_held (m := m) (o := o) (blank_forget g s.memory)
  refine h.of_frame (g := g) (fun j hj => ?_) (fun p hp => ?_) (fun hnone => ?_) ?_ fun hsome => ?_
  · rw [hcontext, Function.update_of_ne hj]
  · rw [hmemory, hold_initialized_of_ne hp]
  all_goals
    unfold initialized at hmemory
    by_cases hok : (contextInit g m o (s.memory.forget (OfGroup g))).1 = true
  · rw [hcontext, Function.update_self, if_pos hok] at hnone
    exact absurd hnone (Option.some_ne_none _)
  · rw [hmemory, if_neg hok]
    exact blank_forget g _
  · rw [hmemory, if_pos hok]
    exact (hheld hok).2
  · rw [hmemory, if_neg hok]
    exact ⟨blank_forget g _ _, blank_forget g _ _⟩
  · rw [hmemory, if_pos hok]
    exact (hheld hok).1
  · rw [hcontext, Function.update_self, if_neg hok] at hsome
    exact absurd rfl hsome

/-- Without a context there before, the books are kept exactly by a clean initialization. -/
theorem initialized_accounted_iff {m : ModuleStream} {o : InitOutcome} {s : Memory}
    (hblank : Blank g s) (hs : s.Accounted) : (initialized g m o s).Accounted ↔ o.Clean m := by
  have hforgotten : (s.forget (OfGroup g)).Accounted := by
    refine hs.forget ?_
    rintro ⟨g', slot⟩ hp
    obtain rfl : g' = g := hp
    exact hblank slot
  have hinit := contextInit_accounted (m := m) (o := o) (blank_forget g s) hforgotten
  rw [← contextInit_clean_iff (blank_forget g s)]
  unfold initialized
  by_cases hok : (contextInit g m o (s.forget (OfGroup g))).1 = true
  · rw [if_pos hok]
    exact iff_of_true hinit fun hfail => absurd (hfail.symm.trans hok) Bool.false_ne_true
  · rw [if_neg hok, hinit.forget_iff]
    constructor
    · exact fun hall _ slot => hall (g, slot) rfl
    · rintro hleft ⟨g', slot⟩ hp
      obtain rfl : g' = g := hp
      exact hleft (Bool.eq_false_iff.mpr hok) slot

/-- A context that is there is out of reach once another one is stored. -/
theorem initialized_lost {m : ModuleStream} {o : InitOutcome} {s : Memory} (hs : s.Accounted)
    (hsft : s.hold (g, .sft) ≠ none) : ∃ r, (initialized g m o s).Lost r := by
  obtain ⟨r, hr⟩ := Option.ne_none_iff_exists'.mp hsft
  have hlost : (s.forget (OfGroup g)).Lost r := hs.lost_forget (k := (g, .sft)) rfl hr
  have hinit := persists_contextInit g m o r _ hlost
  refine ⟨r, ?_⟩
  unfold initialized
  dsimp only
  split
  · exact hinit
  · exact persists_forget _ r _ hinit

theorem osdInit_accounted_iff (m : ModuleStream) (o : InitOutcome) (h : Inv s)
    (hs : s.memory.Accounted) :
    (osdInit g m o s).memory.Accounted ↔
      (o.reached = true → o.contextAllocated = true → o.mutexInit = true →
        s.context g = none ∧ o.Clean m) := by
  rcases osdInit_cases g m o s with ⟨hnot, hmemory, -⟩ | ⟨⟨hreached, halloc, hmutex⟩, hmemory, -⟩
  · rw [hmemory]
    exact iff_of_true hs fun hreached halloc hmutex => absurd ⟨hreached, halloc, hmutex⟩ hnot
  rw [hmemory]
  simp only [hreached, halloc, hmutex, true_imp_iff]
  by_cases hctx : s.context g = none
  · rw [initialized_accounted_iff (h.gone g hctx) hs]
    simp [hctx]
  · obtain ⟨r, hr⟩ := initialized_lost (m := m) (o := o) hs (h.font g hctx)
    exact iff_of_false hr.not_accounted fun hall => hctx hall.1

/-! ### Runs -/

theorem inv_step (h : Inv s) (c : Call) : Inv (step s c) := by
  cases c with
  | init g m o => exact inv_osdInit m o h
  | setTimestamp g text o => exact (harmless_osdSetTimestamp text o).inv s h
  | setText g text o => exact (harmless_osdSetText text o).inv s h
  | updateTimestampCurrent g text o =>
    exact (harmless_osdUpdateTimestampCurrent text o).inv s h
  | update g results text o =>
    exact (harmless_osdUpdateTimestampCurrent text o).inv _ (inv_osdReloadFontIfChanged results h)
  | updateInfoDisplay g text o => exact (harmless_osdUpdateInfoDisplay text o).inv s h
  | setFontSize stream size => exact h.congr rfl rfl
  | cleanup g => exact inv_osdCleanup h
  | cleanupAll => exact inv_osdCleanupAll h

/-- A step keeps the books exactly if it finds what it must find. -/
theorem step_accounted_iff (h : Inv s) (hs : s.memory.Accounted) (c : Call) :
    (step s c).memory.Accounted ↔ Keeps s c := by
  cases c with
  | init g m o => exact osdInit_accounted_iff m o h hs
  | setTimestamp g text o =>
    exact iff_of_true ((harmless_osdSetTimestamp text o).accounted s h hs) trivial
  | setText g text o => exact iff_of_true ((harmless_osdSetText text o).accounted s h hs) trivial
  | updateTimestampCurrent g text o =>
    exact iff_of_true ((harmless_osdUpdateTimestampCurrent text o).accounted s h hs) trivial
  | update g results text o => exact osdUpdate_accounted_iff results text o h hs
  | updateInfoDisplay g text o =>
    exact iff_of_true ((harmless_osdUpdateInfoDisplay text o).accounted s h hs) trivial
  | setFontSize stream size => exact iff_of_true hs trivial
  | cleanup g => exact osdCleanup_accounted_iff h hs
  | cleanupAll => exact osdCleanupAll_accounted_iff h hs

theorem accounted_initial (config : ℕ → StreamConfig) :
    (State.initial config).memory.Accounted := accounted_empty

end Calls

/-- The books are kept in all states of exactly those runs in which each call finds what it must
find. -/
theorem osd_accounted_iff (config : ℕ → StreamConfig) (calls : List Call) :
    (∀ n, ((calls.take n).foldl step (State.initial config)).Accounted) ↔
      Guarded step Keeps (State.initial config) calls := by
  have hinit := inv_initial config
  refine forall_take_iff_guarded Inv State.Accounted (fun s c h => inv_step h c)
    (fun s c h hs => ?_) calls hinit (hinit.accounted_iff.mpr (accounted_initial config))
  rw [(inv_step h c).accounted_iff]
  exact step_accounted_iff h hs.memory c

/-- The time alone is shown. -/
def timeOnly : ModuleStream where
  timeEnabled := true
  size := 32
  logoEnabled := false
  infoEnabled := false
  motionZonesEnabled := false

/-- All steps succeed, and the characters that are measured are rendered. -/
def allSucceed : InitOutcome where
  reached := true
  stream := 0
  contextAllocated := true
  mutexInit := true
  createGroup := true
  font := ⟨true, true, true, true, true, fun _ => .rendered⟩
  timeFormatValid := true
  regions := ⟨fun _ => true, fun _ => true, .loaded, true, true⟩
  start := true

/-- `osd_cleanup_all` leaves the region of the timestamp behind. -/
theorem not_allSucceed_accounted :
    ¬∀ n, (([.init 0 timeOnly allSucceed, .cleanupAll].take n).foldl step
      (State.initial fun _ => ⟨true, 32⟩)).Accounted := by
  intro hall
  let s := step (State.initial fun _ => ⟨true, 32⟩) (.init 0 timeOnly allSucceed)
  have hinv : Inv s := inv_step (inv_initial _) _
  have hfirst : s.memory.Accounted := (hall 1).memory
  have hsecond : (step s .cleanupAll).memory.Accounted := (hall 2).memory
  have hcontext : s.context 0 ≠ none := by decide +kernel
  have hheld : s.memory.hold (0, .timestampHandle) ≠ none := by decide +kernel
  exact hheld ((step_accounted_iff hinv hfirst .cleanupAll).mp hsecond 0 hcontext).1

end Osd.Resources
