import Strero.Osd.Resources

/-!
# Buffers of texts and fonts

What the drawing of a text and the loading of a font do with their buffers. The temporary ones
are given back on every path, the cached glyphs are kept, and a new bitmap takes the place of the
old one, which is given back then.
-/

namespace Osd.Resources

open Pointers Store Clocks

variable {g : Fin maxStreams} {s : Memory} {p : Place}

/-! ### Steps that fail -/

theorem andThen_fst {x : Bool × Memory} {step : Step} :
    (andThen x step).1 = true ↔ x.1 = true ∧ (step x.2).1 = true := by
  unfold andThen
  by_cases hx : x.1 = true <;> simp [hx]

theorem undoing_fst {x : Bool × Memory} {undo : Memory → Memory} :
    (undoing x undo).1 = x.1 := by
  unfold undoing
  by_cases hx : x.1 = true <;> simp [hx]

/-- What holds before and after a step holds behind it, whether it is taken or not. -/
theorem andThen_snd {x : Bool × Memory} {step : Step} {P : Memory → Prop} (hx : P x.2)
    (hstep : x.1 = true → P (step x.2).2) : P (andThen x step).2 := by
  unfold andThen
  split
  · exact hstep ‹_›
  · exact hx

theorem persists_andThen {f : Memory → Bool × Memory} {step : Step}
    (hf : Persists fun s => (f s).2) (hstep : Persists fun s => (step s).2) :
    Persists fun s => (andThen (f s) step).2 := by
  intro r s h
  change (andThen (f s) step).2.Lost r
  unfold andThen
  split
  · exact hstep r _ (hf r s h)
  · exact hf r s h

theorem persists_undoing {f : Memory → Bool × Memory} {undo : Memory → Memory}
    (hf : Persists fun s => (f s).2) (hundo : Persists undo) :
    Persists fun s => (undoing (f s) undo).2 := by
  intro r s h
  change (undoing (f s) undo).2.Lost r
  unfold undoing
  split
  · exact hf r s h
  · exact hundo r _ (hf r s h)

/-! ### Text -/

theorem ofGlyphs_iff : OfGlyphs g p ↔ ∃ c, p = (g, .glyph c) := by
  constructor
  · obtain ⟨g', slot⟩ := p
    rintro ⟨rfl, hslot⟩
    cases slot with
    | glyph c => exact ⟨c, rfl⟩
    | _ => exact absurd hslot Bool.false_ne_true
  · rintro ⟨c, rfl⟩
    exact ⟨rfl, rfl⟩

theorem not_ofGlyphs_of {slot : Slot} (h : slot.isGlyph = false) : ¬OfGlyphs g (g, slot) :=
  fun hp => absurd (h.symm.trans hp.2) Bool.false_ne_true

/-- A function that only fills the cache of glyphs. -/
structure Rendering (g : Fin maxStreams) (f : Memory → Memory) : Prop where
  persists : Persists f
  frame : ∀ s, s.hold (g, .pixels) = none → ∀ p, ¬OfGlyphs g p → (f s).hold p = s.hold p
  accounted : ∀ s, s.hold (g, .pixels) = none → s.Accounted → (f s).Accounted

namespace Rendering

variable {f f' : Memory → Memory}

theorem idle (hf : Rendering g f) (h : s.hold (g, .pixels) = none) :
    (f s).hold (g, .pixels) = none :=
  (hf.frame s h _ (not_ofGlyphs_of rfl)).trans h

theorem comp (hf' : Rendering g f') (hf : Rendering g f) : Rendering g fun s => f' (f s) where
  persists := hf'.persists.comp hf.persists
  frame := fun s h p hp => (hf'.frame _ (hf.idle h) p hp).trans (hf.frame s h p hp)
  accounted := fun s h hs => hf'.accounted _ (hf.idle h) (hf.accounted s h hs)

theorem nothing : Rendering g id where
  persists := persists_id
  frame := fun _ _ _ _ => rfl
  accounted := fun _ _ hs => hs

theorem foldl {ι : Type*} {f : ι → Memory → Memory} (hf : ∀ i, Rendering g (f i)) (is : List ι) :
    Rendering g fun s => is.foldl (fun s i => f i s) s := by
  induction is with
  | nil => exact nothing
  | cons i is ih => exact ih.comp (hf i)

theorem touch (p : Place) : Rendering g (Store.touch p) where
  persists := persists_touch p
  frame := fun s _ q _ => by rw [hold_touch]
  accounted := fun s _ hs => by rwa [hs.touch_eq]

/-- A step that is taken only with the font. -/
theorem withFont (hf : Rendering g f) : Rendering g fun s =>
    if s.hold (g, .sft) = none then s else f s where
  persists := by
    intro r s h
    dsimp only
    split
    · exact h
    · exact hf.persists r s h
  frame := by
    intro s h p hp
    split
    · rfl
    · exact hf.frame s h p hp
  accounted := by
    intro s h hs
    split
    · exact hs
    · exact hf.accounted s h hs

theorem useFont (g : Fin maxStreams) : Rendering g (useFont g) :=
  (touch _).comp ((touch _).comp (touch _))

end Rendering

/-- The temporary pixels are given back. -/
theorem rendering_pixels (g : Fin maxStreams) :
    Rendering g fun s => (s.acquire (g, .pixels)).release (g, .pixels) where
  persists := (persists_release _).comp (persists_acquire _)
  frame := by
    intro s h p _
    by_cases hp : p = (g, .pixels)
    · rw [hp, hold_release_self, h]
    · rw [hold_release_of_ne hp, hold_acquire_of_ne hp]
  accounted := fun s h hs => (hs.acquire h).release _

/-- A glyph is cached, where there was none. -/
theorem rendered_frame (c : Fin 128) (h : s.hold (g, .pixels) = none) (hp : ¬OfGlyphs g p) :
    (((s.acquire (g, .pixels)).acquire (g, .glyph c)).release (g, .pixels)).hold p = s.hold p := by
  by_cases hpixels : p = (g, .pixels)
  · rw [hpixels, hold_release_self, h]
  · have hglyph : p ≠ (g, .glyph c) := fun heq => hp (ofGlyphs_iff.mpr ⟨c, heq⟩)
    rw [hold_release_of_ne hpixels, hold_acquire_of_ne hglyph, hold_acquire_of_ne hpixels]

theorem rendering_renderGlyph (g : Fin maxStreams) (c : Fin 128) (result : GlyphResult) :
    Rendering g (renderGlyph g c result) := by
  have hfont := Rendering.useFont g
  have hpixels := (rendering_pixels g).comp hfont
  refine ⟨?_, ?_, ?_⟩
  · intro r s h
    unfold renderGlyph
    by_cases hsft : s.hold (g, .sft) = none
    · rwa [if_pos hsft]
    by_cases hglyph : s.hold (g, .glyph c) ≠ none
    · rwa [if_neg hsft, if_pos hglyph]
    rw [if_neg hsft, if_neg hglyph]
    cases result with
    | noPixels => exact hfont.persists r s h
    | notRendered => exact hpixels.persists r s h
    | noBitmap => exact hpixels.persists r s h
    | rendered =>
      exact persists_release _ r _ (persists_acquire _ r _ (persists_acquire _ r _
        (hfont.persists r s h)))
  · intro s h p hp
    unfold renderGlyph
    by_cases hsft : s.hold (g, .sft) = none
    · rw [if_pos hsft]
    by_cases hglyph : s.hold (g, .glyph c) ≠ none
    · rw [if_neg hsft, if_pos hglyph]
    rw [if_neg hsft, if_neg hglyph]
    cases result with
    | noPixels => exact hfont.frame s h p hp
    | notRendered => exact hpixels.frame s h p hp
    | noBitmap => exact hpixels.frame s h p hp
    | rendered => exact (rendered_frame c (hfont.idle h) hp).trans (hfont.frame s h p hp)
  · intro s h hs
    unfold renderGlyph
    by_cases hsft : s.hold (g, .sft) = none
    · rwa [if_pos hsft]
    by_cases hglyph : s.hold (g, .glyph c) ≠ none
    · rwa [if_neg hsft, if_pos hglyph]
    rw [if_neg hsft, if_neg hglyph]
    cases result with
    | noPixels => exact hfont.accounted s h hs
    | notRendered => exact hpixels.accounted s h hs
    | noBitmap => exact hpixels.accounted s h hs
    | rendered =>
      refine (((hfont.accounted s h hs).acquire (hfont.idle h)).acquire ?_).release _
      rw [hold_acquire_of_ne (by simp), Resources.useFont, hold_touch, hold_touch, hold_touch]
      exact not_not.mp hglyph

theorem rendering_renderText (g : Fin maxStreams) (text : List (Fin 128))
    (results : ℕ → GlyphResult) : Rendering g (renderText g text results) :=
  Rendering.foldl (f := fun ci : Fin 128 × ℕ => renderGlyph g ci.1 (results ci.2))
    (fun ci => rendering_renderGlyph g ci.1 (results ci.2)) _

theorem rendering_paintText (g : Fin maxStreams) (text : List (Fin 128))
    (results : ℕ → GlyphResult) : Rendering g (paintText g text results) :=
  Rendering.foldl (f := fun (ci : Fin 128 × ℕ) s =>
      ((renderGlyph g ci.1 (results ci.2) s).touch (g, .glyph ci.1)).touch (g, .bitmap))
    (fun ci => (Rendering.touch _).comp ((Rendering.touch _).comp
      (rendering_renderGlyph g ci.1 (results ci.2)))) _

theorem rendering_calculateTextSize (g : Fin maxStreams) (text : List (Fin 128))
    (o : TextOutcome) : Rendering g fun s => (calculateTextSize g text o s).2 := by
  have hmeasured : Rendering g fun s =>
      (andThen (check o.sizeMetrics (useFont g s))
        (always (renderText g text o.sizeGlyphs))).2 := by
    cases hmetrics : o.sizeMetrics with
    | false => exact Rendering.useFont g
    | true => exact (rendering_renderText g text o.sizeGlyphs).comp (Rendering.useFont g)
  have hsame := hmeasured.withFont
  unfold calculateTextSize
  simpa only [apply_ite Prod.snd] using hsame

theorem rendering_drawText (g : Fin maxStreams) (text : List (Fin 128)) (o : TextOutcome) :
    Rendering g fun s => (drawText g text o s).2 := by
  have hdrawn : Rendering g fun s =>
      (andThen (check o.drawMetrics (useFont g s)) (always fun s =>
        paintText g text o.drawGlyphs (renderText g text o.widthGlyphs s))).2 := by
    cases hmetrics : o.drawMetrics with
    | false => exact Rendering.useFont g
    | true =>
      exact ((rendering_paintText g text o.drawGlyphs).comp
        (rendering_renderText g text o.widthGlyphs)).comp (Rendering.useFont g)
  have hsame := hdrawn.withFont
  unfold drawText
  simpa only [apply_ite Prod.snd] using hsame

/-! ### Bitmaps -/

/-- The local pointers of the functions are null. -/
def Idle (g : Fin maxStreams) (s : Memory) : Prop :=
  s.hold (g, .pixels) = none ∧ s.hold (g, .bitmap) = none

theorem Rendering.idle_iff {f : Memory → Memory} (hf : Rendering g f) (h : Idle g s) :
    Idle g (f s) :=
  ⟨hf.idle h.1, (hf.frame s h.1 _ (not_ofGlyphs_of rfl)).trans h.2⟩

/-- A function that replaces one bitmap, if it gets so far. -/
structure Updating (g : Fin maxStreams) (data : Slot) (f : Memory → Memory) : Prop where
  persists : Persists f
  frame : ∀ s, Idle g s → ∀ p, ¬OfGlyphs g p → p ≠ (g, data) → (f s).hold p = s.hold p
  accounted : ∀ s, Idle g s → s.Accounted → (f s).Accounted

theorem persists_createTextBitmap (g : Fin maxStreams) (text : List (Fin 128))
    (o : TextOutcome) : Persists fun s => (createTextBitmap g text o s).2 := by
  unfold createTextBitmap
  refine persists_andThen ?_ ?_
  · exact persists_andThen (rendering_calculateTextSize g text o).persists persists_id
  · refine persists_undoing ?_ (persists_release _)
    exact (rendering_drawText g text o).persists.comp
      ((persists_touch _).comp (persists_acquire _))

/-- A bitmap is not allocated, given back, or in the local pointer. -/
theorem createTextBitmap_cases (g : Fin maxStreams) (text : List (Fin 128)) (o : TextOutcome) :
    ∃ f f', Rendering g f ∧ Rendering g f' ∧ ∀ s,
      createTextBitmap g text o s = (false, f s) ∨
      createTextBitmap g text o s =
        (false, (f' ((f s).acquire (g, .bitmap))).release (g, .bitmap)) ∨
      createTextBitmap g text o s = (true, f' ((f s).acquire (g, .bitmap))) := by
  refine ⟨_, _, rendering_calculateTextSize g text o,
    (rendering_drawText g text o).comp (Rendering.touch (g, .bitmap)), fun s => ?_⟩
  unfold createTextBitmap andThen undoing check
  cases hsize : (calculateTextSize g text o s).1 with
  | false => exact .inl (Prod.ext (by simp [hsize]) (by simp [hsize]))
  | true =>
    cases hallocated : o.allocated with
    | false => exact .inl (Prod.ext (by simp) (by simp))
    | true =>
      right
      cases hdrawn : (drawText g text o (((calculateTextSize g text o s).2.acquire
        (g, .bitmap)).touch (g, .bitmap))).1 with
      | false => exact .inl (Prod.ext (by simp [hdrawn]) (by simp [hdrawn]))
      | true => exact .inr (Prod.ext (by simp [hdrawn]) (by simp [hdrawn]))

/-- The new bitmap of a drawing. -/
theorem bitmap_frame {f f' : Memory → Memory} (hf : Rendering g f) (hf' : Rendering g f')
    (h : s.hold (g, .pixels) = none) (hp : ¬OfGlyphs g p) (hbitmap : p ≠ (g, .bitmap)) :
    (f' ((f s).acquire (g, .bitmap))).hold p = s.hold p := by
  have hpixels : ((f s).acquire (g, .bitmap)).hold (g, .pixels) = none := by
    rw [hold_acquire_of_ne (by simp)]
    exact hf.idle h
  rw [hf'.frame _ hpixels p hp, hold_acquire_of_ne hbitmap, hf.frame s h p hp]

theorem bitmap_accounted {f f' : Memory → Memory} (hf : Rendering g f) (hf' : Rendering g f')
    (h : Idle g s) (hs : s.Accounted) : (f' ((f s).acquire (g, .bitmap))).Accounted := by
  have hpixels : ((f s).acquire (g, .bitmap)).hold (g, .pixels) = none := by
    rw [hold_acquire_of_ne (by simp)]
    exact hf.idle h.1
  exact hf'.accounted _ hpixels ((hf.accounted s h.1 hs).acquire (hf.idle_iff h).2)

theorem persists_showBitmap (g : Fin maxStreams) (data handle : Slot) (o : TextOutcome) :
    Persists (showBitmap g data handle o) := by
  intro r s h
  have hshown := persists_touch (g, data) r _ (persists_touch (g, handle) r _
    (persists_replace (g, .bitmap) (g, data) r s h))
  unfold showBitmap
  dsimp only
  split
  · exact persists_touch _ r _ hshown
  · exact hshown

theorem hold_showBitmap (g : Fin maxStreams) (data handle : Slot) (o : TextOutcome) (s : Memory) :
    (showBitmap g data handle o s).hold = (s.replace (g, .bitmap) (g, data)).hold := by
  unfold showBitmap
  dsimp only
  split <;> simp only [hold_touch]

theorem showBitmap_accounted {data handle : Slot} (o : TextOutcome) (hs : s.Accounted)
    (hdata : data ≠ .bitmap) : (showBitmap g data handle o s).Accounted := by
  have hne : ((g, .bitmap) : Place) ≠ (g, data) := fun heq => hdata (Prod.mk.inj heq).2.symm
  have hreplaced := hs.replace hne
  unfold showBitmap
  simp only [hreplaced.touch_eq, ite_self]
  exact hreplaced

/-- A text is drawn, and its bitmap takes the place of another one. -/
theorem updating_showBitmap (g : Fin maxStreams) (text : List (Fin 128)) (o : TextOutcome)
    {data : Slot} (handle : Slot) (hdata : data ≠ .bitmap) :
    Updating g data fun s =>
      (andThen (createTextBitmap g text o s) (always (showBitmap g data handle o))).2 := by
  obtain ⟨f, f', hf, hf', hcases⟩ := createTextBitmap_cases g text o
  refine ⟨persists_andThen (persists_createTextBitmap g text o)
    (persists_showBitmap g data handle o), ?_, ?_⟩
  · intro s h p hp hne
    rcases hcases s with heq | heq | heq
    · rw [heq]
      exact hf.frame s h.1 p hp
    · rw [heq]
      change (Store.release (g, .bitmap) _).hold p = _
      by_cases hbitmap : p = (g, .bitmap)
      · rw [hbitmap, hold_release_self, h.2]
      · rw [hold_release_of_ne hbitmap]
        exact bitmap_frame hf hf' h.1 hp hbitmap
    · rw [heq]
      change (showBitmap g data handle o _).hold p = _
      rw [hold_showBitmap]
      by_cases hbitmap : p = (g, .bitmap)
      · rw [hbitmap, hold_replace_src, h.2]
      · rw [hold_replace_of_ne hbitmap hne]
        exact bitmap_frame hf hf' h.1 hp hbitmap
  · intro s h hs
    rcases hcases s with heq | heq | heq
    · rw [heq]
      exact hf.accounted s h.1 hs
    · rw [heq]
      exact (bitmap_accounted hf hf' h hs).release _
    · rw [heq]
      exact showBitmap_accounted o (bitmap_accounted hf hf' h hs) hdata

theorem updating_updateTimestamp (g : Fin maxStreams) (text : List (Fin 128))
    (o : TextOutcome) : Updating g .timestampData (updateTimestamp g text o) :=
  updating_showBitmap g text o .timestampHandle Slot.noConfusion

theorem updating_updateInfoDisplay (g : Fin maxStreams) (text : List (Fin 128))
    (o : TextOutcome) : Updating g .infoData (updateInfoDisplay g text o) :=
  updating_showBitmap g text o (.region .info) Slot.noConfusion

/-! ### The font -/

/-- What `osd_libschrift_init` acquires. -/
def OfFont (g : Fin maxStreams) (p : Place) : Prop :=
  OfGlyphs g p ∨ p = (g, .fontData) ∨ p = (g, .sft) ∨ p = (g, .font)

theorem not_ofFont_of {slot : Slot} (hglyph : slot.isGlyph = false) (hdata : slot ≠ .fontData)
    (hsft : slot ≠ .sft) (hfont : slot ≠ .font) : ¬OfFont g (g, slot) := by
  rintro (h | h | h | h)
  · exact not_ofGlyphs_of hglyph h
  · exact hdata (Prod.mk.inj h).2
  · exact hsft (Prod.mk.inj h).2
  · exact hfont (Prod.mk.inj h).2

/-- All steps of `osd_libschrift_init` succeed. -/
def FontOutcome.loads (o : FontOutcome) : Bool :=
  o.fileOpened && o.dataAllocated && o.dataRead && o.sftAllocated && o.fontLoaded

/-- The buffers of the font are acquired. -/
def acquireFont (g : Fin maxStreams) (s : Memory) : Memory :=
  ((((s.acquire (g, .fontData)).acquire (g, .sft)).touch (g, .fontData)).acquire
    (g, .font)).forget (OfGlyphs g)

theorem hold_acquireFont (h : ¬OfFont g p) : (acquireFont g s).hold p = s.hold p := by
  obtain ⟨hglyphs, hdata, hsft, hfont⟩ : ¬OfGlyphs g p ∧ p ≠ (g, .fontData) ∧ p ≠ (g, .sft) ∧
      p ≠ (g, .font) := by
    simpa only [OfFont, not_or] using h
  unfold acquireFont
  rw [hold_forget_of_not hglyphs, hold_acquire_of_ne hfont, hold_touch, hold_acquire_of_ne hsft,
    hold_acquire_of_ne hdata]

theorem hold_acquireFont_sft (g : Fin maxStreams) (s : Memory) :
    (acquireFont g s).hold (g, .sft) ≠ none := by
  unfold acquireFont
  rw [hold_forget_of_not (not_ofGlyphs_of rfl), hold_acquire_of_ne (by simp), hold_touch,
    hold_acquire_self]
  exact Option.some_ne_none _

/-- How `osd_libschrift_init` ends. -/
theorem libschriftInit_cases (g : Fin maxStreams) (o : FontOutcome) (s : Memory) :
    (o.loads = false ∧ libschriftInit g o s = (false, s)) ∨
    (o.loads = false ∧
      libschriftInit g o s = (false, (s.acquire (g, .fontData)).release (g, .fontData))) ∨
    (o.loads = false ∧ libschriftInit g o s =
      (false, ((((s.acquire (g, .fontData)).acquire (g, .sft)).touch (g, .fontData)).release
        (g, .sft)).release (g, .fontData))) ∨
    (o.loads = true ∧
      libschriftInit g o s = (true, renderText g metricChars o.glyphs (acquireFont g s))) := by
  unfold libschriftInit FontOutcome.loads
  by_cases hopened : (!o.fileOpened || !o.dataAllocated) = true
  · left
    refine ⟨?_, if_pos hopened⟩
    revert hopened
    cases o.fileOpened <;> cases o.dataAllocated <;> simp
  by_cases hread : (!o.dataRead || !o.sftAllocated) = true
  · right; left
    refine ⟨?_, ?_⟩
    · revert hread
      cases o.dataRead <;> cases o.sftAllocated <;> simp
    · rw [if_neg hopened, if_pos hread]
  by_cases hloaded : (!o.fontLoaded) = true
  · right; right; left
    refine ⟨?_, ?_⟩
    · revert hloaded
      cases o.fontLoaded <;> simp
    · rw [if_neg hopened, if_neg hread, if_pos hloaded]
  · right; right; right
    refine ⟨?_, ?_⟩
    · revert hopened hread hloaded
      cases o.fileOpened <;> cases o.dataAllocated <;> cases o.dataRead <;>
        cases o.sftAllocated <;> cases o.fontLoaded <;> simp
    · rw [if_neg hopened, if_neg hread, if_neg hloaded]
      rfl

theorem persists_acquireFont (g : Fin maxStreams) : Persists (acquireFont g) :=
  (persists_forget _).comp ((persists_acquire _).comp ((persists_touch _).comp
    ((persists_acquire _).comp (persists_acquire _))))

theorem persists_libschriftInit (g : Fin maxStreams) (o : FontOutcome) :
    Persists fun s => (libschriftInit g o s).2 := by
  intro r s h
  have hdata := persists_acquire (g, .fontData) r s h
  dsimp only
  rcases libschriftInit_cases g o s with ⟨-, heq⟩ | ⟨-, heq⟩ | ⟨-, heq⟩ | ⟨-, heq⟩
  · rwa [heq]
  · rw [heq]
    exact persists_release _ r _ hdata
  · rw [heq]
    exact persists_release _ r _ (persists_release _ r _ (persists_touch _ r _
      (persists_acquire _ r _ hdata)))
  · have hrendered := (rendering_renderText g metricChars o.glyphs).persists r _
      (persists_acquireFont g r s h)
    rwa [heq]

section Font

variable (hnull : ∀ p, OfFont g p → s.hold p = none)
include hnull

theorem hold_fontData : s.hold (g, .fontData) = none := hnull _ (.inr (.inl rfl))

theorem hold_acquire_sft :
    (s.acquire (g, .fontData)).hold (g, .sft) = none := by
  rw [hold_acquire_of_ne (by simp)]
  exact hnull _ (.inr (.inr (.inl rfl)))

/-- The buffers of the font are acquired into null pointers. -/
theorem acquireFont_accounted (hs : s.Accounted) : (acquireFont g s).Accounted := by
  have hsft := (hs.acquire (hold_fontData hnull)).acquire (hold_acquire_sft hnull)
  have hfont : (((s.acquire (g, .fontData)).acquire (g, .sft)).touch (g, .fontData)).hold
      (g, .font) = none := by
    rw [hold_touch, hold_acquire_of_ne (by simp), hold_acquire_of_ne (by simp)]
    exact hnull _ (.inr (.inr (.inr rfl)))
  refine ((hsft.touch_eq (g, .fontData)).symm ▸ hsft).acquire hfont |>.forget ?_
  intro p hp
  obtain ⟨c, rfl⟩ := ofGlyphs_iff.mp hp
  rw [hold_acquire_of_ne (by simp), hold_touch, hold_acquire_of_ne (by simp),
    hold_acquire_of_ne (by simp)]
  exact hnull _ (.inl hp)

theorem libschriftInit_accounted (o : FontOutcome) (hpixels : s.hold (g, .pixels) = none)
    (hs : s.Accounted) : (libschriftInit g o s).2.Accounted := by
  have hdata := hs.acquire (hold_fontData hnull)
  have hsft := hdata.acquire (hold_acquire_sft hnull)
  rcases libschriftInit_cases g o s with ⟨-, heq⟩ | ⟨-, heq⟩ | ⟨-, heq⟩ | ⟨-, heq⟩
  · rwa [heq]
  · rw [heq]
    exact hdata.release _
  · rw [heq, hsft.touch_eq]
    exact (hsft.release _).release _
  · rw [heq]
    refine (rendering_renderText g metricChars o.glyphs).accounted _ ?_
      (acquireFont_accounted hnull hs)
    rw [hold_acquireFont (not_ofFont_of rfl Slot.noConfusion Slot.noConfusion Slot.noConfusion)]
    exact hpixels

/-- A font that is not loaded leaves nothing. -/
theorem libschriftInit_failed {o : FontOutcome} (ho : o.loads = false) (p : Place) :
    (libschriftInit g o s).1 = false ∧ (libschriftInit g o s).2.hold p = s.hold p := by
  have hdata := hold_fontData hnull
  have hsft := hnull (g, .sft) (.inr (.inr (.inl rfl)))
  rcases libschriftInit_cases g o s with ⟨-, heq⟩ | ⟨-, heq⟩ | ⟨-, heq⟩ | ⟨hloads, -⟩
  · rw [heq]
    exact ⟨rfl, rfl⟩
  · rw [heq]
    refine ⟨rfl, ?_⟩
    by_cases hp : p = (g, .fontData)
    · rw [hp, hold_release_self, hdata]
    · rw [hold_release_of_ne hp, hold_acquire_of_ne hp]
  · rw [heq]
    refine ⟨rfl, ?_⟩
    by_cases hp : p = (g, .fontData)
    · rw [hp, hold_release_self, hdata]
    by_cases hp' : p = (g, .sft)
    · rw [hold_release_of_ne hp, hp', hold_release_self, hsft]
    · rw [hold_release_of_ne hp, hold_release_of_ne hp', hold_touch, hold_acquire_of_ne hp',
        hold_acquire_of_ne hp]
  · exact absurd (ho.symm.trans hloads) Bool.false_ne_true

end Font

/-- A font that is loaded is held, and nothing else has changed. -/
theorem libschriftInit_loaded {o : FontOutcome} (ho : o.loads = true)
    (hpixels : s.hold (g, .pixels) = none) :
    (libschriftInit g o s).1 = true ∧ (libschriftInit g o s).2.hold (g, .sft) ≠ none ∧
      ∀ p, ¬OfFont g p → (libschriftInit g o s).2.hold p = s.hold p := by
  have hrender := rendering_renderText g metricChars o.glyphs
  have hfree : (acquireFont g s).hold (g, .pixels) = none := by
    rw [hold_acquireFont (not_ofFont_of rfl Slot.noConfusion Slot.noConfusion Slot.noConfusion)]
    exact hpixels
  rcases libschriftInit_cases g o s with ⟨h, -⟩ | ⟨h, -⟩ | ⟨h, -⟩ | ⟨-, heq⟩
  · exact absurd (h.symm.trans ho) Bool.false_ne_true
  · exact absurd (h.symm.trans ho) Bool.false_ne_true
  · exact absurd (h.symm.trans ho) Bool.false_ne_true
  · rw [heq]
    refine ⟨rfl, ?_, fun p hp => ?_⟩
    · rw [hrender.frame _ hfree _ (not_ofGlyphs_of rfl)]
      exact hold_acquireFont_sft g s
    · rw [hrender.frame _ hfree p fun h => hp (.inl h)]
      exact hold_acquireFont hp

theorem mem_glyphs : p ∈ glyphs g ↔ OfGlyphs g p := by
  rw [ofGlyphs_iff, glyphs]
  simp [eq_comm]

/-- The glyphs are given back, then the font, the data last. -/
theorem persists_libschriftCleanup (g : Fin maxStreams) : Persists (libschriftCleanup g) := by
  intro r s h
  have hglyphs := persists_releaseAll (glyphs g) r s h
  unfold libschriftCleanup
  refine persists_release _ r _ ?_
  split
  · exact hglyphs
  · exact persists_release _ r _ (persists_release _ r _ hglyphs)

theorem libschriftCleanup_accounted (g : Fin maxStreams) (hs : s.Accounted) :
    (libschriftCleanup g s).Accounted := by
  have hglyphs := hs.releaseAll (glyphs g)
  unfold libschriftCleanup
  refine Accounted.release ?_ _
  split
  · exact hglyphs
  · exact (hglyphs.release _).release _

theorem hold_libschriftCleanup_of_not (h : ¬OfFont g p) :
    (libschriftCleanup g s).hold p = s.hold p := by
  obtain ⟨hglyphs, hdata, hsft, hfont⟩ : ¬OfGlyphs g p ∧ p ≠ (g, .fontData) ∧ p ≠ (g, .sft) ∧
      p ≠ (g, .font) := by
    simpa only [OfFont, not_or] using h
  have hnot : p ∉ glyphs g := fun hmem => hglyphs (mem_glyphs.mp hmem)
  unfold libschriftCleanup
  rw [hold_release_of_ne hdata]
  split
  · exact hold_releaseAll_of_notMem hnot
  · rw [hold_release_of_ne hsft, hold_release_of_ne hfont, hold_releaseAll_of_notMem hnot]

/-- Nothing of the font is left, if there is no font without its context. -/
theorem hold_libschriftCleanup_of (hfont : s.hold (g, .sft) = none → s.hold (g, .font) = none)
    (h : OfFont g p) : (libschriftCleanup g s).hold p = none := by
  have hnot (slot : Slot) (hslot : slot.isGlyph = false) : (g, slot) ∉ glyphs g :=
    fun hmem => not_ofGlyphs_of hslot (mem_glyphs.mp hmem)
  unfold libschriftCleanup
  by_cases hdata : p = (g, .fontData)
  · rw [hdata, hold_release_self]
  rw [hold_release_of_ne hdata]
  by_cases hsft : (s.releaseAll (glyphs g)).hold (g, .sft) = none
  · rw [if_pos hsft]
    rcases h with h | h | rfl | rfl
    · exact hold_releaseAll_of_mem (mem_glyphs.mpr h)
    · exact absurd h hdata
    · exact hsft
    · rw [hold_releaseAll_of_notMem (hnot .sft rfl)] at hsft
      rw [hold_releaseAll_of_notMem (hnot .font rfl)]
      exact hfont hsft
  · rw [if_neg hsft]
    rcases h with h | h | rfl | rfl
    · have hne (slot : Slot) (hslot : slot.isGlyph = false) : p ≠ (g, slot) :=
        fun heq => not_ofGlyphs_of hslot (heq ▸ h)
      rw [hold_release_of_ne (hne .sft rfl), hold_release_of_ne (hne .font rfl)]
      exact hold_releaseAll_of_mem (mem_glyphs.mpr h)
    · exact absurd h hdata
    · exact hold_release_self _ _
    · rw [hold_release_of_ne (by simp), hold_release_self]

end Osd.Resources
