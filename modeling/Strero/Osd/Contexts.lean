import Strero.Osd.Rendering

/-!
# The regions of a context

The initialization of a context acquires its group, its font and its regions one after another,
and undoes the first two where a later step fails. What is left behind then, and by the cleanup
of a context, is described by the pointers that are not null.
-/

namespace Osd.Resources

open Pointers Store Clocks

variable {g : Fin maxStreams} {s : Memory} {p : Place}

/-! ### The regions -/

theorem persists_createRgns (g : Fin maxStreams) (createRgn : Region → Bool) (is : List Region) :
    Persists fun s => (createRgns g createRgn is s).2 := by
  induction is with
  | nil => exact persists_id
  | cons i is ih =>
    intro r s h
    change (createRgns g createRgn (i :: is) s).2.Lost r
    unfold createRgns
    split
    · exact ih r _ (persists_acquire _ r s h)
    · exact h

theorem hold_createRgns {createRgn : Region → Bool} {is : List Region}
    (h : ∀ i ∈ is, p ≠ (g, .region i)) : (createRgns g createRgn is s).2.hold p = s.hold p := by
  induction is generalizing s with
  | nil => rfl
  | cons i is ih =>
    unfold createRgns
    split
    · rw [ih fun j hj => h j (List.mem_cons_of_mem _ hj),
        hold_acquire_of_ne (h i List.mem_cons_self)]
    · rfl

theorem createRgns_accounted {createRgn : Region → Bool} {is : List Region} (hnodup : is.Nodup)
    (hnull : ∀ i ∈ is, s.hold (g, .region i) = none) (hs : s.Accounted) :
    (createRgns g createRgn is s).2.Accounted := by
  induction is generalizing s with
  | nil => exact hs
  | cons i is ih =>
    obtain ⟨hi, hnodup⟩ := List.nodup_cons.mp hnodup
    unfold createRgns
    split
    · refine ih hnodup (fun j hj => ?_) (hs.acquire (hnull i List.mem_cons_self))
      have hne : ((g, .region j) : Place) ≠ (g, .region i) := by
        rintro heq
        simp only [Prod.mk.injEq, Slot.region.injEq, true_and] at heq
        exact hi (heq ▸ hj)
      rw [hold_acquire_of_ne hne, hnull j (List.mem_cons_of_mem _ hj)]
    · exact hs

theorem createRgns_fst {createRgn : Region → Bool} {is : List Region} :
    (createRgns g createRgn is s).1 = true ↔ ∀ i ∈ is, createRgn i = true := by
  induction is generalizing s with
  | nil => simp [createRgns]
  | cons i is ih =>
    unfold createRgns
    by_cases hi : createRgn i = true
    · rw [if_pos hi, ih]
      simp [hi]
    · rw [if_neg hi]
      simp [hi]

/-- The first region is held from its creation on. -/
theorem createRgns_held {createRgn : Region → Bool} {i : Region} {is : List Region}
    (hi : i ∉ is) (hcreate : createRgn i = true) :
    (createRgns g createRgn (i :: is) s).2.hold (g, .region i) ≠ none := by
  have hne : ∀ j ∈ is, ((g, .region i) : Place) ≠ (g, .region j) := by
    rintro j hj heq
    simp only [Prod.mk.injEq, Slot.region.injEq, true_and] at heq
    exact hi (heq ▸ hj)
  unfold createRgns
  rw [if_pos hcreate, hold_createRgns hne, hold_acquire_self]
  exact Option.some_ne_none _

theorem persists_registerRgns (g : Fin maxStreams) (registerRgn : Region → Bool)
    (is : List Region) : Persists fun s => (registerRgns g registerRgn is s).2 := by
  induction is with
  | nil => exact persists_id
  | cons i is ih =>
    intro r s h
    have htouched := persists_touch (g, .region i) r s h
    change (registerRgns g registerRgn (i :: is) s).2.Lost r
    unfold registerRgns
    dsimp only
    split
    · exact ih r _ htouched
    · exact htouched

theorem hold_registerRgns {registerRgn : Region → Bool} {is : List Region} :
    (registerRgns g registerRgn is s).2.hold = s.hold := by
  induction is generalizing s with
  | nil => rfl
  | cons i is ih =>
    unfold registerRgns
    dsimp only
    split
    · rw [ih, hold_touch]
    · rw [hold_touch]

theorem registerRgns_fst {registerRgn : Region → Bool} {is : List Region} :
    (registerRgns g registerRgn is s).1 = true ↔ ∀ i ∈ is, registerRgn i = true := by
  induction is generalizing s with
  | nil => simp [registerRgns]
  | cons i is ih =>
    unfold registerRgns
    dsimp only
    by_cases hi : registerRgn i = true
    · rw [if_pos hi, ih]
      simp [hi]
    · rw [if_neg hi]
      simp [hi]

/-- Handles that are registered are only used. -/
theorem registerRgns_snd {registerRgn : Region → Bool} {is : List Region} (hs : s.Accounted) :
    (registerRgns g registerRgn is s).2 = s := by
  induction is with
  | nil => rfl
  | cons i is ih =>
    unfold registerRgns
    rw [hs.touch_eq]
    dsimp only
    split
    · exact ih
    · rfl

theorem persists_setupLogoRegion (g : Fin maxStreams) (logo : LogoResult) :
    Persists (setupLogoRegion g logo) := by
  cases logo with
  | notAllocated => exact persists_id
  | notRead => exact (persists_release _).comp (persists_acquire _)
  | loaded => exact (persists_touch _).comp ((persists_touch _).comp (persists_acquire _))

theorem hold_setupLogoRegion (logo : LogoResult) (hbitmap : s.hold (g, .bitmap) = none)
    (hp : p ≠ (g, .logoBuffer)) : (setupLogoRegion g logo s).hold p = s.hold p := by
  cases logo with
  | notAllocated => rfl
  | notRead =>
    by_cases h : p = (g, .bitmap)
    · rw [h, setupLogoRegion, hold_release_self, hbitmap]
    · rw [setupLogoRegion, hold_release_of_ne h, hold_acquire_of_ne h]
  | loaded => rw [setupLogoRegion, hold_touch, hold_touch, hold_acquire_of_ne hp]

theorem setupLogoRegion_accounted (logo : LogoResult) (hbitmap : s.hold (g, .bitmap) = none)
    (hlogo : s.hold (g, .logoBuffer) = none) (hs : s.Accounted) :
    (setupLogoRegion g logo s).Accounted := by
  cases logo with
  | notAllocated => exact hs
  | notRead => exact (hs.acquire hbitmap).release _
  | loaded =>
    have hloaded := hs.acquire hlogo
    rwa [setupLogoRegion, hloaded.touch_eq, hloaded.touch_eq]

theorem persists_createTimestampRegion (g : Fin maxStreams) (o : RegionsOutcome) :
    Persists (createTimestampRegion g o) := by
  intro r s h
  have hcreated := persists_touch (g, .timestampHandle) r _
    (persists_acquire (g, .timestampHandle) r s h)
  unfold createTimestampRegion
  dsimp only
  split_ifs
  · exact h
  · exact persists_release _ r _ hcreated
  · exact hcreated

theorem hold_createTimestampRegion (o : RegionsOutcome) (hp : p ≠ (g, .timestampHandle)) :
    (createTimestampRegion g o s).hold p = s.hold p := by
  unfold createTimestampRegion
  dsimp only
  split_ifs
  · rfl
  · rw [hold_release_of_ne hp, hold_touch, hold_acquire_of_ne hp]
  · rw [hold_touch, hold_acquire_of_ne hp]

theorem createTimestampRegion_accounted (o : RegionsOutcome)
    (h : s.hold (g, .timestampHandle) = none) (hs : s.Accounted) :
    (createTimestampRegion g o s).Accounted := by
  have hcreated := hs.acquire h
  unfold createTimestampRegion
  dsimp only
  rw [hcreated.touch_eq]
  split_ifs
  · exact hs
  · exact hcreated.release _
  · exact hcreated

/-- A function that is called if something is enabled. -/
theorem Persists.ite {f : Memory → Memory} (hf : Persists f) (b : Bool) :
    Persists fun s => if b then f s else s := by
  cases b with
  | false => exact persists_id
  | true => exact hf

theorem persists_setupRegions (g : Fin maxStreams) (m : ModuleStream) (o : RegionsOutcome) :
    Persists (setupRegions g m o) :=
  (Persists.ite (persists_touchAll _) m.motionZonesEnabled).comp
    ((persists_createTimestampRegion g o).comp
      ((Persists.ite (persists_setupLogoRegion g o.logo) m.logoEnabled).comp
        (Persists.ite (persists_touch _) m.infoEnabled)))

theorem hold_setupRegions (m : ModuleStream) (o : RegionsOutcome)
    (hbitmap : s.hold (g, .bitmap) = none) (hlogo : p ≠ (g, .logoBuffer))
    (hhandle : p ≠ (g, .timestampHandle)) : (setupRegions g m o s).hold p = s.hold p := by
  unfold setupRegions
  cases m.infoEnabled <;> cases m.logoEnabled <;> cases m.motionZonesEnabled <;>
    simp [hold_createTimestampRegion o hhandle, hold_setupLogoRegion o.logo, hbitmap, hlogo]

theorem setupRegions_accounted (m : ModuleStream) (o : RegionsOutcome)
    (hbitmap : s.hold (g, .bitmap) = none) (hlogo : s.hold (g, .logoBuffer) = none)
    (hhandle : s.hold (g, .timestampHandle) = none) (hs : s.Accounted) :
    (setupRegions g m o s).Accounted := by
  have hloaded : (if m.logoEnabled then setupLogoRegion g o.logo s else s).Accounted := by
    split
    · exact setupLogoRegion_accounted o.logo hbitmap hlogo hs
    · exact hs
  have hfree : (if m.logoEnabled then setupLogoRegion g o.logo s else s).hold
      (g, .timestampHandle) = none := by
    split
    · rw [hold_setupLogoRegion o.logo hbitmap (by simp), hhandle]
    · exact hhandle
  have hcreated := createTimestampRegion_accounted o hfree hloaded
  unfold setupRegions
  simp only [hs.touch_eq, ite_self, hcreated.touchAll_eq]
  exact hcreated

theorem nodup_wanted (m : ModuleStream) : (Region.all.filter m.wants).Nodup :=
  List.Nodup.filter _ (by decide)

/-- The font region is the first one, and always wanted. -/
theorem wanted_eq (m : ModuleStream) :
    Region.all.filter m.wants = .font :: Region.all.tail.filter m.wants := rfl

/-- All steps of `osd_create_regions` that it looks at succeed. -/
def RegionsOutcome.Succeeds (o : RegionsOutcome) (m : ModuleStream) : Prop :=
  ∀ i ∈ Region.all, m.wants i = true → o.createRgn i = true ∧ o.registerRgn i = true

theorem persists_createRegions (g : Fin maxStreams) (m : ModuleStream) (o : RegionsOutcome) :
    Persists fun s => (createRegions g m o s).2 :=
  persists_andThen (persists_andThen (persists_createRgns g _ _) (persists_registerRgns g _ _))
    (persists_setupRegions g m o)

/-- What `osd_create_regions` acquires. -/
def OfRegions (g : Fin maxStreams) (p : Place) : Prop :=
  (∃ i, p = (g, .region i)) ∨ p = (g, .logoBuffer) ∨ p = (g, .timestampHandle)

theorem createRegions_fst (m : ModuleStream) (o : RegionsOutcome) :
    (createRegions g m o s).1 = true ↔ o.Succeeds m := by
  unfold createRegions
  rw [andThen_fst, andThen_fst, createRgns_fst, registerRgns_fst]
  simp only [List.mem_filter, always, and_true, RegionsOutcome.Succeeds, and_imp]
  exact ⟨fun h i hi hw => ⟨h.1 i hi hw, h.2 i hi hw⟩,
    fun h => ⟨fun i hi hw => (h i hi hw).1, fun i hi hw => (h i hi hw).2⟩⟩

/-- The regions once they are registered, or one could not be. -/
theorem hold_registered {createRgn registerRgn : Region → Bool} {is : List Region} :
    (andThen (createRgns g createRgn is s) (registerRgns g registerRgn is)).2.hold =
      (createRgns g createRgn is s).2.hold :=
  andThen_snd (P := fun t => t.hold = _) rfl fun _ => hold_registerRgns

theorem registered_snd {createRgn registerRgn : Region → Bool} {is : List Region}
    (hs : (createRgns g createRgn is s).2.Accounted) :
    (andThen (createRgns g createRgn is s) (registerRgns g registerRgn is)).2 =
      (createRgns g createRgn is s).2 :=
  andThen_snd (P := fun t => t = _) rfl fun _ => registerRgns_snd hs

/-- The pointers that no region has are as before. -/
theorem hold_createRegions (m : ModuleStream) (o : RegionsOutcome)
    (hbitmap : s.hold (g, .bitmap) = none) (hp : ¬OfRegions g p) :
    (createRegions g m o s).2.hold p = s.hold p := by
  obtain ⟨hregion, hlogo, hhandle⟩ : (∀ i, p ≠ (g, .region i)) ∧ p ≠ (g, .logoBuffer) ∧
      p ≠ (g, .timestampHandle) := by
    simpa only [OfRegions, not_or, not_exists] using hp
  have hsame (q : Place) (hq : ∀ i, q ≠ (g, .region i)) :
      (andThen (createRgns g o.createRgn (Region.all.filter m.wants) s)
        (registerRgns g o.registerRgn (Region.all.filter m.wants))).2.hold q = s.hold q := by
    rw [hold_registered, hold_createRgns fun i _ => hq i]
  refine andThen_snd (P := fun t => t.hold p = s.hold p) (hsame p hregion) fun _ => ?_
  exact (hold_setupRegions m o ((hsame _ (by simp)).trans hbitmap) hlogo hhandle).trans
    (hsame p hregion)

theorem createRegions_accounted (m : ModuleStream) (o : RegionsOutcome)
    (hbitmap : s.hold (g, .bitmap) = none) (hnull : ∀ p, OfRegions g p → s.hold p = none)
    (hs : s.Accounted) : (createRegions g m o s).2.Accounted := by
  have hcreated : (createRgns g o.createRgn (Region.all.filter m.wants) s).2.Accounted :=
    createRgns_accounted (nodup_wanted m) (fun i _ => hnull _ (.inl ⟨i, rfl⟩)) hs
  have hsame (q : Place) (hq : ∀ i, q ≠ (g, .region i)) :
      (createRgns g o.createRgn (Region.all.filter m.wants) s).2.hold q = s.hold q :=
    hold_createRgns fun i _ => hq i
  unfold createRegions
  refine andThen_snd ?_ fun _ => ?_
  · rwa [registered_snd hcreated]
  · rw [registered_snd hcreated]
    exact setupRegions_accounted m o ((hsame _ (by simp)).trans hbitmap)
      ((hsame _ (by simp)).trans (hnull _ (.inr (.inl rfl))))
      ((hsame _ (by simp)).trans (hnull _ (.inr (.inr rfl)))) hcreated

/-- The font region is held from its creation on. -/
theorem hold_createRegions_font (m : ModuleStream) (o : RegionsOutcome)
    (hbitmap : s.hold (g, .bitmap) = none) (hfont : o.createRgn .font = true) :
    (createRegions g m o s).2.hold (g, .region .font) ≠ none := by
  have hheld : (createRgns g o.createRgn (.font :: Region.all.tail.filter m.wants) s).2.hold
      (g, .region .font) ≠ none := createRgns_held (by simp [Region.all]) hfont
  rw [← wanted_eq] at hheld
  have hbitmap' : (andThen (createRgns g o.createRgn (Region.all.filter m.wants) s)
      (registerRgns g o.registerRgn (Region.all.filter m.wants))).2.hold (g, .bitmap) = none := by
    rw [hold_registered, hold_createRgns (by simp), hbitmap]
  unfold createRegions
  refine andThen_snd (P := fun t => t.hold (g, .region .font) ≠ none) ?_ fun _ => ?_
  · rwa [hold_registered]
  · change (setupRegions g m o _).hold (g, .region .font) ≠ none
    rw [hold_setupRegions m o hbitmap' (by simp) (by simp), hold_registered]
    exact hheld

/-- Without the font region nothing is acquired. -/
theorem createRegions_of_not_font (m : ModuleStream) {o : RegionsOutcome}
    (hfont : o.createRgn .font = false) : createRegions g m o s = (false, s) := by
  have hcreated : createRgns g o.createRgn (Region.all.filter m.wants) s = (false, s) := by
    rw [wanted_eq]
    unfold createRgns
    rw [hfont]
    rfl
  unfold createRegions
  dsimp only
  rw [hcreated]
  rfl

/-! ### The context -/

/-- Nothing of a group is held. -/
def Blank (g : Fin maxStreams) (s : Memory) : Prop := ∀ slot, s.hold (g, slot) = none

/-- An initialization that has created the font region succeeds. -/
def InitOutcome.Clean (o : InitOutcome) (m : ModuleStream) : Prop :=
  o.createGroup = true → o.font.loads = true → o.timeFormatValid = true →
    o.regions.createRgn .font = true → o.regions.Succeeds m ∧ o.start = true

theorem persists_undoInit (g : Fin maxStreams) : Persists (undoInit g) :=
  (persists_release _).comp (persists_libschriftCleanup g)

theorem persists_check {f : Memory → Memory} (hf : Persists f) (ok : Bool) :
    Persists fun s => (check ok (f s)).2 := hf

theorem persists_initRegions (g : Fin maxStreams) (m : ModuleStream) (o : InitOutcome) :
    Persists fun s => (initRegions g m o s).2 :=
  persists_undoing (persists_andThen
    (persists_andThen (persists_check persists_id _) (persists_createRegions g m o.regions))
    (persists_check (persists_touch _) _)) (persists_undoInit g)

theorem persists_contextInit (g : Fin maxStreams) (m : ModuleStream) (o : InitOutcome) :
    Persists fun s => (contextInit g m o s).2 := by
  have hall : Persists fun s => (andThen (undoing (libschriftInit g o.font
      (s.acquire (g, .group))) (Store.release (g, .group))) (initRegions g m o)).2 :=
    persists_andThen (persists_undoing ((persists_libschriftInit g o.font).comp
      (persists_acquire _)) (persists_release _)) (persists_initRegions g m o)
  intro r s h
  change (contextInit g m o s).2.Lost r
  unfold contextInit
  split
  · exact h
  · exact hall r s h

/-- What `osd_context_init` has acquired when the regions are to be created: the group and the
font. -/
structure FontReady (g : Fin maxStreams) (s : Memory) : Prop where
  idle : Idle g s
  sft : s.hold (g, .sft) ≠ none
  null : ∀ p, p.1 = g → ¬OfFont g p → p ≠ (g, .group) → s.hold p = none

theorem acquire_group_null (h : Blank g s) (hp : p.1 = g) (hgroup : p ≠ (g, .group)) :
    (s.acquire (g, .group)).hold p = none := by
  rw [hold_acquire_of_ne hgroup]
  obtain ⟨g', slot⟩ := p
  obtain rfl : g' = g := hp
  exact h slot

theorem ofFont_fst (h : OfFont g p) : p.1 = g ∧ p ≠ (g, .group) := by
  rcases h with h | rfl | rfl | rfl
  · obtain ⟨c, rfl⟩ := ofGlyphs_iff.mp h
    exact ⟨rfl, by simp⟩
  · exact ⟨rfl, by simp⟩
  · exact ⟨rfl, by simp⟩
  · exact ⟨rfl, by simp⟩

theorem fontReady_of_loads (h : Blank g s) {o : FontOutcome} (ho : o.loads = true) :
    (libschriftInit g o (s.acquire (g, .group))).1 = true ∧
      FontReady g (libschriftInit g o (s.acquire (g, .group))).2 := by
  have hnull (slot : Slot) (hslot : slot ≠ .group) :
      (s.acquire (g, .group)).hold (g, slot) = none :=
    acquire_group_null h rfl fun heq => hslot (Prod.mk.inj heq).2
  obtain ⟨hok, hsft, hsame⟩ := libschriftInit_loaded ho (hnull .pixels Slot.noConfusion)
  refine ⟨hok, ⟨?_, ?_⟩, hsft, fun p hp hfont hgroup => ?_⟩
  · rw [hsame _ (not_ofFont_of rfl Slot.noConfusion Slot.noConfusion Slot.noConfusion)]
    exact hnull _ Slot.noConfusion
  · rw [hsame _ (not_ofFont_of rfl Slot.noConfusion Slot.noConfusion Slot.noConfusion)]
    exact hnull _ Slot.noConfusion
  · rw [hsame p hfont]
    exact acquire_group_null h hp hgroup

/-! The steps behind the font, from a state in which it is ready. -/

section Ready

variable (m : ModuleStream) (o : InitOutcome)

/-- The steps before anything is undone. -/
def regionSteps (g : Fin maxStreams) (s : Memory) : Bool × Memory :=
  andThen (andThen (check o.timeFormatValid s) (createRegions g m o.regions))
    fun s => check o.start (s.touch (g, .group))

theorem regionSteps_fst :
    (regionSteps m o g s).1 = true ↔
      o.timeFormatValid = true ∧ o.regions.Succeeds m ∧ o.start = true := by
  unfold regionSteps
  rw [andThen_fst, andThen_fst, createRegions_fst, and_assoc]
  rfl

theorem hold_regionSteps (h : s.hold (g, .bitmap) = none) (hp : ¬OfRegions g p) :
    (regionSteps m o g s).2.hold p = s.hold p := by
  have hcreated := hold_createRegions m o.regions h hp
  refine andThen_snd (P := fun t => t.hold p = s.hold p) ?_ fun _ => ?_
  · exact andThen_snd (P := fun t => t.hold p = s.hold p) rfl fun _ => hcreated
  · change (Store.touch _ _).hold p = s.hold p
    rw [hold_touch]
    exact andThen_snd (P := fun t => t.hold p = s.hold p) rfl fun _ => hcreated

theorem regionSteps_accounted (h : s.hold (g, .bitmap) = none)
    (hnull : ∀ p, OfRegions g p → s.hold p = none) (hs : s.Accounted) :
    (regionSteps m o g s).2.Accounted := by
  have hcreated : (andThen (check o.timeFormatValid s) (createRegions g m o.regions)).2.Accounted :=
    andThen_snd hs fun _ => createRegions_accounted m o.regions h hnull hs
  refine andThen_snd hcreated fun _ => ?_
  change (Store.touch _ _).Accounted
  rwa [hcreated.touch_eq]

/-- Regions are held exactly if the steps got as far as the font region. -/
theorem regionSteps_font (h : s.hold (g, .bitmap) = none)
    (hnull : ∀ p, OfRegions g p → s.hold p = none) :
    (∀ p, OfRegions g p → (regionSteps m o g s).2.hold p = none) ↔
      ¬(o.timeFormatValid = true ∧ o.regions.createRgn .font = true) := by
  unfold regionSteps andThen check
  by_cases hvalid : o.timeFormatValid = true
  · rw [if_pos hvalid]
    cases hfont : o.regions.createRgn .font with
    | false =>
      rw [createRegions_of_not_font m hfont]
      simpa [hfont] using hnull
    | true =>
      have hheld := hold_createRegions_font m o.regions h hfont
      refine iff_of_false (fun hnone => hheld ?_) (by simp [hvalid])
      have hregion := hnone (g, .region .font) (.inl ⟨_, rfl⟩)
      by_cases hok : (createRegions g m o.regions s).1 = true
      · rwa [if_pos hok, hold_touch] at hregion
      · rwa [if_neg hok] at hregion
  · simpa [hvalid] using hnull

variable {m o}

theorem ofRegions_of (h : OfRegions g p) : p.1 = g ∧ ¬OfFont g p ∧ p ≠ (g, .group) := by
  rcases h with ⟨i, rfl⟩ | rfl | rfl
  all_goals exact ⟨rfl, not_ofFont_of rfl (by simp) (by simp) (by simp), by simp⟩

theorem FontReady.regions (h : FontReady g s) (hp : OfRegions g p) : s.hold p = none :=
  h.null p (ofRegions_of hp).1 (ofRegions_of hp).2.1 (ofRegions_of hp).2.2

theorem initRegions_accounted (h : FontReady g s) (hs : s.Accounted) :
    (initRegions g m o s).2.Accounted := by
  have hsteps := regionSteps_accounted m o h.idle.2 (fun p hp => h.regions hp) hs
  change (undoing (regionSteps m o g s) (undoInit g)).2.Accounted
  unfold undoing
  split
  · exact hsteps
  · exact (libschriftCleanup_accounted g hsteps).release _

theorem initRegions_fst :
    (initRegions g m o s).1 = true ↔
      o.timeFormatValid = true ∧ o.regions.Succeeds m ∧ o.start = true := by
  change (undoing (regionSteps m o g s) (undoInit g)).1 = true ↔ _
  rw [undoing_fst, regionSteps_fst]

theorem not_ofRegions_sft : ¬OfRegions g (g, .sft) := by simp [OfRegions]

/-- A started context holds its font. -/
theorem initRegions_held (h : FontReady g s) (hok : (initRegions g m o s).1 = true) :
    (initRegions g m o s).2.hold (g, .sft) ≠ none ∧ Idle g (initRegions g m o s).2 := by
  change (undoing (regionSteps m o g s) (undoInit g)).1 = true at hok
  change (undoing (regionSteps m o g s) (undoInit g)).2.hold _ ≠ none ∧
    Idle g (undoing (regionSteps m o g s) (undoInit g)).2
  rw [undoing_fst] at hok
  unfold undoing
  rw [if_pos hok]
  have hsame (q : Place) := hold_regionSteps (p := q) m o h.idle.2
  refine ⟨?_, ?_, ?_⟩
  · rw [hsame _ not_ofRegions_sft]
    exact h.sft
  · rw [hsame _ (by simp [OfRegions])]
    exact h.idle.1
  · rw [hsame _ (by simp [OfRegions])]
    exact h.idle.2

/-- What is left after a failure is the regions. -/
theorem initRegions_blank_iff (h : FontReady g s) (hfail : (initRegions g m o s).1 = false) :
    Blank g (initRegions g m o s).2 ↔
      ¬(o.timeFormatValid = true ∧ o.regions.createRgn .font = true) := by
  have hsame (q : Place) := hold_regionSteps (p := q) m o h.idle.2
  rw [← regionSteps_font m o h.idle.2 fun p hp => h.regions hp]
  change (undoing (regionSteps m o g s) (undoInit g)).1 = false at hfail
  change Blank g (undoing (regionSteps m o g s) (undoInit g)).2 ↔ _
  rw [undoing_fst] at hfail
  unfold undoing undoInit
  rw [if_neg (by rw [hfail]; exact Bool.false_ne_true)]
  have hleft {q : Place} (hfont : ¬OfFont g q) (hgroup : q ≠ (g, .group)) :
      (Store.release (g, .group) (libschriftCleanup g (regionSteps m o g s).2)).hold q =
        (regionSteps m o g s).2.hold q := by
    rw [hold_release_of_ne hgroup, hold_libschriftCleanup_of_not hfont]
  constructor
  · intro hblank q hq
    obtain ⟨hg, hfont, hgroup⟩ := ofRegions_of hq
    rw [← hleft hfont hgroup]
    obtain ⟨g', slot⟩ := q
    obtain rfl : g' = g := hg
    exact hblank slot
  · intro hregions slot
    by_cases hgroup : ((g, slot) : Place) = (g, .group)
    · rw [hgroup, hold_release_self]
    by_cases hfont : OfFont g (g, slot)
    · rw [hold_release_of_ne hgroup]
      refine hold_libschriftCleanup_of (fun hsft => absurd hsft ?_) hfont
      rw [hsame _ not_ofRegions_sft]
      exact h.sft
    · rw [hleft hfont hgroup]
      by_cases hregion : OfRegions g (g, slot)
      · exact hregions _ hregion
      · rw [hsame _ hregion]
        exact h.null _ rfl hfont hgroup

end Ready

/-! `osd_context_init`, with nothing of the group held. -/

section Init

variable {m : ModuleStream} {o : InitOutcome}

theorem acquire_group_font (h : Blank g s) (p : Place) (hp : OfFont g p) :
    (s.acquire (g, .group)).hold p = none :=
  acquire_group_null h (ofFont_fst hp).1 (ofFont_fst hp).2

theorem acquire_group_pixels (h : Blank g s) : (s.acquire (g, .group)).hold (g, .pixels) = none :=
  acquire_group_null h rfl (by simp)

/-- The state in which the regions are to be created, if it is reached. -/
theorem contextInit_of_loads (hgroup : o.createGroup = true) (hload : o.font.loads = true)
    (h : Blank g s) :
    contextInit g m o s =
      initRegions g m o (libschriftInit g o.font (s.acquire (g, .group))).2 := by
  have hok := (fontReady_of_loads h hload).1
  unfold contextInit undoing andThen
  simp only [hgroup, hok, Bool.not_true, Bool.false_eq_true, if_false, if_true]

/-- Without the group or the font, nothing is left. -/
theorem contextInit_of_not_loads (hreach : ¬(o.createGroup = true ∧ o.font.loads = true))
    (h : Blank g s) :
    (contextInit g m o s).1 = false ∧ Blank g (contextInit g m o s).2 ∧
      (s.Accounted → (contextInit g m o s).2.Accounted) := by
  unfold contextInit
  cases hgroup : o.createGroup with
  | false => exact ⟨rfl, h, id⟩
  | true =>
    have hload : o.font.loads = false := by simpa [hgroup] using hreach
    have hfailed := libschriftInit_failed (acquire_group_font h) hload
    have hok := (hfailed (g, .group)).1
    unfold andThen undoing
    simp only [hok, Bool.not_true, Bool.false_eq_true, if_false]
    refine ⟨trivial, fun slot => ?_, fun hs => ?_⟩
    · by_cases hslot : ((g, slot) : Place) = (g, .group)
      · rw [hslot, hold_release_self]
      · rw [hold_release_of_ne hslot, (hfailed _).2]
        exact acquire_group_null h rfl hslot
    · exact (libschriftInit_accounted (acquire_group_font h) o.font (acquire_group_pixels h)
        (hs.acquire (h .group))).release _

theorem contextInit_accounted (h : Blank g s) (hs : s.Accounted) :
    (contextInit g m o s).2.Accounted := by
  by_cases hreach : o.createGroup = true ∧ o.font.loads = true
  · rw [contextInit_of_loads hreach.1 hreach.2 h]
    exact initRegions_accounted (fontReady_of_loads h hreach.2).2
      (libschriftInit_accounted (acquire_group_font h) o.font (acquire_group_pixels h)
        (hs.acquire (h .group)))
  · exact (contextInit_of_not_loads hreach h).2.2 hs

/-- A context that is initialized holds its font. -/
theorem contextInit_held (h : Blank g s) (hok : (contextInit g m o s).1 = true) :
    (contextInit g m o s).2.hold (g, .sft) ≠ none ∧ Idle g (contextInit g m o s).2 := by
  by_cases hreach : o.createGroup = true ∧ o.font.loads = true
  · rw [contextInit_of_loads hreach.1 hreach.2 h] at hok ⊢
    exact initRegions_held (fontReady_of_loads h hreach.2).2 hok
  · exact absurd ((contextInit_of_not_loads hreach h).1.symm.trans hok) Bool.false_ne_true

/-- An initialization leaves nothing behind exactly if it is clean. -/
theorem contextInit_clean_iff (h : Blank g s) :
    ((contextInit g m o s).1 = false → Blank g (contextInit g m o s).2) ↔ o.Clean m := by
  unfold InitOutcome.Clean
  by_cases hreach : o.createGroup = true ∧ o.font.loads = true
  · rw [contextInit_of_loads hreach.1 hreach.2 h]
    have hready := (fontReady_of_loads h hreach.2).2
    have hfst := initRegions_fst (g := g) (m := m) (o := o)
      (s := (libschriftInit g o.font (s.acquire (g, .group))).2)
    have hblank := initRegions_blank_iff (m := m) (o := o) hready
    generalize initRegions g m o (libschriftInit g o.font (s.acquire (g, .group))).2 = x at *
    constructor
    · intro hleft _ _ hvalid hfont
      by_contra hnot
      have hfail : x.1 = false := by
        rw [← Bool.not_eq_true, hfst]
        exact fun hall => hnot hall.2
      exact (hblank hfail).mp (hleft hfail) ⟨hvalid, hfont⟩
    · intro hclean hfail
      refine (hblank hfail).mpr fun ⟨hvalid, hfont⟩ => ?_
      have hok := hfst.mpr ⟨hvalid, hclean hreach.1 hreach.2 hvalid hfont⟩
      exact absurd (hfail.symm.trans hok) Bool.false_ne_true
  · refine iff_of_true (fun _ => (contextInit_of_not_loads hreach h).2.1) ?_
    exact fun hgroup hload => absurd ⟨hgroup, hload⟩ hreach

/-- The other groups do not notice. -/
theorem hold_contextInit_of_ne (h : Blank g s) (hp : p.1 ≠ g) :
    (contextInit g m o s).2.hold p = s.hold p := by
  have hgroup : p ≠ (g, .group) := fun heq => hp (by rw [heq])
  have hfont : ¬OfFont g p := fun hfont => hp (ofFont_fst hfont).1
  have hregions : ¬OfRegions g p := fun hregions => hp (ofRegions_of hregions).1
  have hacquired : (s.acquire (g, .group)).hold p = s.hold p := hold_acquire_of_ne hgroup
  by_cases hreach : o.createGroup = true ∧ o.font.loads = true
  · obtain ⟨-, -, hsame⟩ := libschriftInit_loaded hreach.2 (acquire_group_pixels h)
    have hready := (fontReady_of_loads h hreach.2).2
    rw [contextInit_of_loads hreach.1 hreach.2 h, ← hacquired, ← hsame p hfont,
      ← hold_regionSteps m o hready.idle.2 hregions]
    change (undoing (regionSteps m o g _) (undoInit g)).2.hold p = _
    unfold undoing undoInit
    split
    · rfl
    · rw [hold_release_of_ne hgroup, hold_libschriftCleanup_of_not hfont]
  · unfold contextInit
    cases hcreate : o.createGroup with
    | false => rfl
    | true =>
      have hload : o.font.loads = false := by simpa [hcreate] using hreach
      have hfailed := libschriftInit_failed (acquire_group_font h) hload
      have hok := (hfailed (g, .group)).1
      unfold andThen undoing
      simp only [hok, Bool.not_true, Bool.false_eq_true, if_false]
      rw [hold_release_of_ne hgroup, (hfailed p).2, hacquired]

end Init

/-! ### Cleanup -/

theorem persists_contextCleanup (g : Fin maxStreams) : Persists (contextCleanup g) := by
  have hregions : Persists (destroyRegions g) :=
    (persists_releaseAll _).comp ((persists_touchAll _).comp (persists_touchAll _))
  exact (persists_libschriftCleanup g).comp ((persists_release _).comp ((persists_release _).comp
    (hregions.comp (persists_touch _))))

theorem contextCleanup_accounted (g : Fin maxStreams) (hs : s.Accounted) :
    (contextCleanup g s).Accounted := by
  unfold contextCleanup destroyRegions
  rw [hs.touch_eq]
  dsimp only
  rw [hs.touchAll_eq, hs.touchAll_eq]
  exact libschriftCleanup_accounted g (((hs.releaseAll _).release _).release _)

/-- What `osd_context_cleanup` does not give back. -/
def Overlooked (g : Fin maxStreams) (p : Place) : Prop :=
  ¬OfFont g p ∧ p ≠ (g, .group) ∧ p ≠ (g, .logoBuffer) ∧ ∀ i, p ≠ (g, .region i)

theorem hold_contextCleanup_of_overlooked (hp : Overlooked g p) :
    (contextCleanup g s).hold p = s.hold p := by
  obtain ⟨hfont, hgroup, hlogo, hregion⟩ := hp
  unfold contextCleanup destroyRegions
  rw [hold_libschriftCleanup_of_not hfont, hold_release_of_ne hlogo, hold_release_of_ne hgroup,
    hold_releaseAll_of_notMem (by simpa [eq_comm] using fun i _ => hregion i), hold_touchAll,
    hold_touchAll, hold_touch]

theorem hold_contextCleanup_of_not (hsft : s.hold (g, .sft) ≠ none) {slot : Slot}
    (hp : ¬Overlooked g (g, slot)) : (contextCleanup g s).hold (g, slot) = none := by
  have hother {q : Place} (hq : ∀ i, q ≠ (g, .region i)) :
      (destroyRegions g (s.touch (g, .group))).hold q = s.hold q := by
    unfold destroyRegions
    rw [hold_releaseAll_of_notMem (by simpa [eq_comm] using fun i _ => hq i), hold_touchAll,
      hold_touchAll, hold_touch]
  unfold contextCleanup
  by_cases hfont : OfFont g (g, slot)
  · refine hold_libschriftCleanup_of (fun hnone => absurd hnone ?_) hfont
    rwa [hold_release_of_ne (by simp), hold_release_of_ne (by simp), hother (by simp)]
  rw [hold_libschriftCleanup_of_not hfont]
  by_cases hlogo : ((g, slot) : Place) = (g, .logoBuffer)
  · rw [hlogo, hold_release_self]
  rw [hold_release_of_ne hlogo]
  by_cases hgroup : ((g, slot) : Place) = (g, .group)
  · rw [hgroup, hold_release_self]
  rw [hold_release_of_ne hgroup]
  have hregion : ∃ i, ((g, slot) : Place) = (g, .region i) := by
    by_contra hnot
    exact hp ⟨hfont, hgroup, hlogo, not_exists.mp hnot⟩
  obtain ⟨i, hi⟩ := hregion
  rw [hi]
  refine hold_releaseAll_of_mem (List.mem_map.mpr ⟨i, ?_, rfl⟩)
  cases i <;> simp [Region.all]

/-- What the cleanup of the context leaves is the timestamp and the info text. -/
theorem blank_contextCleanup_iff (hidle : Idle g s) (hsft : s.hold (g, .sft) ≠ none) :
    Blank g (contextCleanup g s) ↔ s.hold (g, .timestampHandle) = none ∧
      s.hold (g, .timestampData) = none ∧ s.hold (g, .infoData) = none := by
  have hkept {slot : Slot} (hp : Overlooked g (g, slot)) :
      (contextCleanup g s).hold (g, slot) = s.hold (g, slot) :=
    hold_contextCleanup_of_overlooked hp
  constructor
  · intro hblank
    have hnone {slot : Slot} (hp : Overlooked g (g, slot)) : s.hold (g, slot) = none :=
      (hkept hp).symm.trans (hblank slot)
    refine ⟨hnone ?_, hnone ?_, hnone ?_⟩
    all_goals
      exact ⟨not_ofFont_of rfl (by simp) (by simp) (by simp), by simp, by simp, by simp⟩
  · rintro ⟨hhandle, hdata, hinfo⟩ slot
    by_cases hp : Overlooked g (g, slot)
    · rw [hkept hp]
      obtain ⟨hfont, hgroup, hlogo, hregion⟩ := hp
      cases slot with
      | group => exact absurd rfl hgroup
      | region i => exact absurd rfl (hregion i)
      | timestampHandle => exact hhandle
      | timestampData => exact hdata
      | logoBuffer => exact absurd rfl hlogo
      | infoData => exact hinfo
      | fontData => exact absurd (.inr (.inl rfl)) hfont
      | sft => exact absurd (.inr (.inr (.inl rfl))) hfont
      | font => exact absurd (.inr (.inr (.inr rfl))) hfont
      | glyph c => exact absurd (.inl ⟨rfl, rfl⟩) hfont
      | pixels => exact hidle.1
      | bitmap => exact hidle.2
    · exact hold_contextCleanup_of_not hsft hp

end Osd.Resources
