import Mathlib.Tactic.IntervalCases
import Strero.Motion.Lifecycle

/-!
# The zones that the detector is given

The file of the zones is read when the module is initialised, and nobody checks what it says. The
zones in use are those that the check of a configuration asks for, and lie in the frame, exactly
if each zone of the file does.
-/

namespace Motion

open CString

/-! ### One zone -/

/-- The region is an area of a frame of these dimensions. -/
structure Roi.Fits (width height : Int32) (roi : Roi) : Prop where
  left : 0 ≤ roi.p0x.toInt
  top : 0 ≤ roi.p0y.toInt
  across : roi.p0x.toInt ≤ roi.p1x.toInt
  down : roi.p0y.toInt ≤ roi.p1y.toInt
  right : roi.p1x.toInt ≤ width.toInt
  bottom : roi.p1y.toInt ≤ height.toInt

/-- A zone of the file that may be used for frames of these dimensions. -/
structure Zone.Suits (enabled : Bool) (width height : Int32) (z : Zone) : Prop where
  typed : z.type.bytes = includeType ∨ z.type.bytes = excludeType
  corner : 0 ≤ z.x.toInt ∧ 0 ≤ z.y.toInt
  extent : z.width = 0 ∧ z.height = 0 ∨ 0 < z.width.toInt ∧ 0 < z.height.toInt
  inside : enabled = true → z.type.bytes = includeType →
    if z.width = 0 ∧ z.height = 0 then z.x = 0 ∧ z.y = 0
    else z.x.toInt + z.width.toInt ≤ width.toInt ∧ z.y.toInt + z.height.toInt ≤ height.toInt

/-- A sum that overflows an int is less than its first term. -/
theorem span_fits_iff {start extent bound : Int32} (hstart : 0 ≤ start.toInt)
    (hextent : 0 < extent.toInt) :
    (start.toInt ≤ (start + extent).toInt ∧ (start + extent).toInt ≤ bound.toInt) ↔
      start.toInt + extent.toInt ≤ bound.toInt := by
  have hbound := bound.toInt_lt
  have hstart_lt := start.toInt_lt
  have hextent_lt := extent.toInt_lt
  rw [Int32.toInt_add]
  rcases lt_or_ge (start.toInt + extent.toInt) (2 ^ 31) with hsum | hsum
  · rw [Int.bmod_eq_of_le (by omega) (by omega)]
    omega
  · rw [Int.bmod_neg _ _ (by omega), Int.emod_eq_of_lt (by omega) (by omega)]
    omega

variable {width height : Int32}

/-- What the check asks of a zone that is not empty. -/
theorem Zone.passes_iff {z : Zone} (h : ¬(z.width = 0 ∧ z.height = 0)) :
    z.passes = true ↔ (0 < z.width.toInt ∧ 0 < z.height.toInt) ∧
      (0 ≤ z.x.toInt ∧ 0 ≤ z.y.toInt) ∧
        (z.type.bytes = includeType ∨ z.type.bytes = excludeType) := by
  have hextent : (z.width ≤ 0 ∨ z.height ≤ 0) ↔ ¬(0 < z.width.toInt ∧ 0 < z.height.toInt) := by
    rw [Int32.le_iff_toInt_le, Int32.le_iff_toInt_le, Int32.toInt_zero]
    omega
  have hcorner : (z.x < 0 ∨ z.y < 0) ↔ ¬(0 ≤ z.x.toInt ∧ 0 ≤ z.y.toInt) := by
    rw [Int32.lt_iff_toInt_lt, Int32.lt_iff_toInt_lt, Int32.toInt_zero]
    omega
  unfold passes
  rw [if_neg h, if_congr hextent rfl rfl, if_congr hcorner rfl rfl]
  split_ifs with h1 h2
  · simp [h1, h2]
  · simp [h1, h2]
  · simp [h1]

theorem ne_zero_of_pos {n : Int32} (h : 0 < n.toInt) : n ≠ 0 := by
  rintro rfl
  exact absurd h (by decide)

/-- The zone in use suits the frame exactly if the zone of the file does. -/
theorem Zone.suits_iff (enabled : Bool) {z : Zone} (sensitivity : Int32)
    (hwidth : 0 < width.toInt) (hheight : 0 < height.toInt) :
    z.Suits enabled width height ↔ (z.resolve width height).passes = true ∧
      (enabled = true → (z.resolve width height).type.bytes = includeType →
        ((z.resolve width height).roi sensitivity).Fits width height) := by
  by_cases hfull : z.width = 0 ∧ z.height = 0
  · have hresolve : z.resolve width height = { z with width, height } := if_pos hfull
    have hnonempty : ¬(width = 0 ∧ height = 0) := fun h => ne_zero_of_pos hwidth h.1
    rw [hresolve, passes_iff hnonempty]
    constructor
    · intro h
      refine ⟨⟨⟨hwidth, hheight⟩, h.corner, h.typed⟩, fun henabled htype => ?_⟩
      have hinside := h.inside henabled htype
      rw [if_pos hfull] at hinside
      obtain ⟨hx, hy⟩ := hinside
      constructor <;> simp only [roi, hx, hy, Int32.zero_add, Int32.toInt_zero, le_refl]
      · exact hwidth.le
      · exact hheight.le
    · rintro ⟨⟨-, hcorner, htyped⟩, hfits⟩
      refine ⟨htyped, hcorner, .inl hfull, fun henabled htype => ?_⟩
      have hroi := hfits henabled htype
      have hx : z.x.toInt + width.toInt ≤ width.toInt :=
        (span_fits_iff hcorner.1 hwidth).mp ⟨hroi.across, hroi.right⟩
      have hy : z.y.toInt + height.toInt ≤ height.toInt :=
        (span_fits_iff hcorner.2 hheight).mp ⟨hroi.down, hroi.bottom⟩
      have hcorner : 0 ≤ z.x.toInt ∧ 0 ≤ z.y.toInt := hcorner
      rw [if_pos hfull]
      exact ⟨Int32.toInt_inj.mp (by rw [Int32.toInt_zero]; omega),
        Int32.toInt_inj.mp (by rw [Int32.toInt_zero]; omega)⟩
  · have hresolve : z.resolve width height = z := if_neg hfull
    rw [hresolve, passes_iff hfull]
    constructor
    · intro h
      have hextent := h.extent.resolve_left hfull
      refine ⟨⟨hextent, h.corner, h.typed⟩, fun henabled htype => ?_⟩
      have hinside := h.inside henabled htype
      rw [if_neg hfull] at hinside
      have hx := (span_fits_iff h.corner.1 hextent.1).mpr hinside.1
      have hy := (span_fits_iff h.corner.2 hextent.2).mpr hinside.2
      exact ⟨h.corner.1, h.corner.2, hx.1, hy.1, hx.2, hy.2⟩
    · rintro ⟨⟨hextent, hcorner, htyped⟩, hfits⟩
      refine ⟨htyped, hcorner, .inr hextent, fun henabled htype => ?_⟩
      have hroi := hfits henabled htype
      rw [if_neg hfull]
      exact ⟨(span_fits_iff hcorner.1 hextent.1).mp ⟨hroi.across, hroi.right⟩,
        (span_fits_iff hcorner.2 hextent.2).mp ⟨hroi.down, hroi.bottom⟩⟩

/-! ### All zones -/

variable {J : Tokener} {files : List (Option (List UInt8))} {c : Config} {array : J.Object}

/-- The array of zones in the file that is used. -/
def fileZones (J : Tokener) (files : List (Option (List UInt8))) : Option J.Object :=
  (roiRoot J files).bind (zonesArray J)

theorem toInt_zoneCount (n : ℕ) : (Int32.ofNat (min n maxRoiCount)).toInt.toNat = min n 4 := by
  have hle : min n 4 ≤ 4 := min_le_right _ _
  generalize hmin : min n 4 = count at hle
  interval_cases count <;> rfl

/-- What of the configuration a file does not change. -/
theorem loadRoiConfig_kept (J : Tokener) (files : List (Option (List UInt8))) (c : Config) :
    (loadRoiConfig J files c).enabled = c.enabled ∧
      (loadRoiConfig J files c).monitorStream = c.monitorStream := by
  unfold loadRoiConfig parseZoneConfig JsonC.sectionField
  split
  · exact ⟨rfl, rfl⟩
  · split
    · cases J.getEx _ (ascii "settings") <;> exact ⟨rfl, rfl⟩
    · exact ⟨rfl, rfl⟩

/-- Without an array of zones there is one, the whole frame. -/
theorem loadRoiConfig_none (h : fileZones J files = none) :
    (loadRoiConfig J files c).inUse = [.fullFrame] := by
  have hfull : ∀ config : Config, config.useFullFrame.inUse = [.fullFrame] := fun _ => rfl
  unfold fileZones at h
  unfold loadRoiConfig parseZoneConfig
  cases hroot : roiRoot J files with
  | none => exact hfull c
  | some root =>
    rw [hroot] at h
    have hnone : zonesArray J root = none := h
    dsimp only
    rw [hnone]
    exact hfull c

/-- The zones of an array are those of its elements. -/
theorem loadRoiConfig_some (h : fileZones J files = some array) :
    (loadRoiConfig J files c).zoneCount = (c.readZones J array).zoneCount ∧
      (loadRoiConfig J files c).zones = (c.readZones J array).zones := by
  obtain ⟨root, hroot, hzones⟩ := Option.bind_eq_some_iff.mp h
  unfold loadRoiConfig parseZoneConfig JsonC.sectionField
  rw [hroot]
  dsimp only
  rw [hzones]
  cases J.getEx root (ascii "settings") <;> exact ⟨rfl, rfl⟩

theorem mem_inUse_of_array (h : fileZones J files = some array) (zone : Zone) :
    zone ∈ (loadRoiConfig J files c).inUse ↔
      ∃ i : Fin maxRoiCount, i.val < J.arrayLength array ∧
        (c.zones i).readElement J array i = zone := by
  obtain ⟨hcount, hzones⟩ := loadRoiConfig_some (c := c) h
  rw [Config.mem_inUse, hcount, hzones]
  dsimp only [Config.readZones]
  rw [toInt_zoneCount]
  refine exists_congr fun i => ?_
  have hi : i.val < 4 := i.isLt
  constructor
  · rintro ⟨hlt, hzone⟩
    rw [if_pos (lt_min (by omega) hi)] at hzone
    exact ⟨by omega, hzone⟩
  · rintro ⟨hlt, hzone⟩
    exact ⟨by omega, by rw [if_pos (lt_min hlt hi)]; exact hzone⟩

/-- The zones in use are resolved one by one. -/
theorem withDimensions_inUse (c : Config) (width height : Int32) :
    (c.withDimensions (some (width, height))).inUse = c.inUse.map (Zone.resolve width height) := by
  unfold Config.inUse Config.withDimensions
  dsimp only
  rw [List.map_take, List.map_ofFn]
  apply List.ext_getElem
  · simp
  · intro i hi hi'
    simp only [List.length_take, List.length_ofFn] at hi
    rw [List.getElem_take, List.getElem_take, List.getElem_ofFn, List.getElem_ofFn]
    exact if_pos (by dsimp only; omega)

theorem readZones_count_pos_iff (h : fileZones J files = some array) :
    0 < (loadRoiConfig J files c).zoneCount.toInt ↔ 0 < J.arrayLength array := by
  have hcount := toInt_zoneCount (J.arrayLength array)
  rw [(loadRoiConfig_some (c := c) h).1]
  dsimp only [Config.readZones]
  omega

theorem loadRoiConfig_count_le (J : Tokener) (files : List (Option (List UInt8))) (c : Config) :
    (loadRoiConfig J files c).zoneCount.toInt ≤ maxRoiCount := by
  have hmax : ((maxRoiCount : ℕ) : ℤ) = 4 := rfl
  cases h : fileZones J files with
  | none =>
    have hlength := congrArg List.length (loadRoiConfig_none (c := c) h)
    unfold Config.inUse at hlength
    rw [List.length_take, List.length_ofFn, List.length_singleton] at hlength
    omega
  | some array =>
    have hcount := toInt_zoneCount (J.arrayLength array)
    rw [(loadRoiConfig_some (c := c) h).1]
    dsimp only [Config.readZones]
    omega

/-- What the elements of an array say suits the frame, where a key that an element does not have
stands for what was in the configuration. -/
structure ZonesSuit (J : Tokener) (array : J.Object) (c : Config) (width height : Int32) :
    Prop where
  nonempty : 0 < J.arrayLength array
  each : ∀ i : Fin maxRoiCount, i.val < J.arrayLength array →
    ((c.zones i).readElement J array i).Suits c.enabled width height
  included : ∃ i : Fin maxRoiCount, i.val < J.arrayLength array ∧
    ((c.zones i).readElement J array i).type.bytes = includeType

/-- The zones in use pass the check, one of them is included, and the regions that the detector
has been given lie in the frame. -/
structure DetectorValid (config : Config) (calls : List Call) : Prop where
  pass : config.ZonesPass
  included : ∃ zone ∈ config.inUse, zone.type.bytes = includeType
  regions : ∀ param pointer, Call.createMoveInterface param pointer ∈ calls →
    ∀ roi ∈ param.rois, roi.Fits config.frameWidth config.frameHeight

/-! ### What the detector is given -/

variable {maxRoiCnt : ℕ} {s : State} {a : Answers} {param : MoveParam} {pointer : Option ℕ}

theorem cleanup_no_interface :
    Call.createMoveInterface param pointer ∉ (motionCleanupIvs s).1 := by
  unfold motionCleanupIvs
  cases s.ivsInterface <;> simp

/-- The one interface is created with the parameters of the configuration. -/
theorem setup_param
    (h : Call.createMoveInterface param pointer ∈ (motionSetupIvs maxRoiCnt s a).2.1) :
    param = s.config.moveParam maxRoiCnt := by
  obtain ⟨group, interface, chn, registered, bound, started, thread⟩ := a
  unfold motionSetupIvs at h
  cases group with
  | false => simp at h
  | true =>
    cases interface with
    | none => simp_all
    | some pointer =>
      cases chn with
      | false => simp_all
      | true =>
        cases registered with
        | false => simp_all
        | true =>
          cases bound with
          | false => simp_all [cleanup_no_interface]
          | true =>
            cases started with
            | false => simp_all [cleanup_no_interface]
            | true => simp_all

theorem setup_created (h : (motionSetupIvs maxRoiCnt s a).1 = true) :
    Call.createMoveInterface (s.config.moveParam maxRoiCnt) a.createMoveInterface ∈
      (motionSetupIvs maxRoiCnt s a).2.1 := by
  obtain ⟨group, interface, chn, registered, bound, started, thread⟩ := a
  unfold motionSetupIvs at h ⊢
  cases group with
  | false => simp at h
  | true =>
    cases interface with
    | none => simp at h
    | some pointer =>
      cases chn <;> cases registered <;> cases bound <;> cases started <;> simp_all

theorem setup_config : (motionSetupIvs maxRoiCnt s a).2.2.config = s.config := by
  obtain ⟨group, interface, chn, registered, bound, started, thread⟩ := a
  unfold motionSetupIvs
  cases group with
  | false => rfl
  | true =>
    cases interface with
    | none => rfl
    | some pointer => cases chn <;> cases registered <;> cases bound <;> cases started <;> rfl

theorem start_config : (motionModuleStart maxRoiCnt s a).2.2.config = s.config := by
  by_cases hready : s.Ready
  · cases hsetup : (motionSetupIvs maxRoiCnt s a).1 with
    | false => rw [start_fails hready hsetup, setup_config]
    | true =>
      cases hthread : a.pthreadCreate with
      | false =>
        rw [start_undone hready hsetup hthread]
        exact setup_config
      | true =>
        rw [start_succeeds hready hsetup hthread]
        exact setup_config
  · rw [start_refused hready]

/-- A start that succeeds creates an interface if the module is enabled and was not running, and
none otherwise. -/
theorem start_interface_iff (hinit : s.initialized = true) (hrunning : s.running = false)
    (hstart : (motionModuleStart maxRoiCnt s a).1 = 0) {P : MoveParam → Prop} :
    (∀ param pointer, Call.createMoveInterface param pointer ∈
        (motionModuleStart maxRoiCnt s a).2.1 → P param) ↔
      (s.config.enabled = true → P (s.config.moveParam maxRoiCnt)) := by
  cases henabled : s.config.enabled with
  | false =>
    have hready : ¬s.Ready := fun h => absurd (henabled.symm.trans h.2.2) (by decide)
    rw [start_refused hready]
    simp
  | true =>
    have hready : s.Ready := ⟨hinit, hrunning, henabled⟩
    have hboth : (motionSetupIvs maxRoiCnt s a).1 = true ∧ a.pthreadCreate = true := by
      unfold motionModuleStart at hstart
      rw [if_neg (by simp [hinit]), if_neg (by simp [hrunning]), if_neg (by simp [henabled])]
        at hstart
      cases hsetup : (motionSetupIvs maxRoiCnt s a).1 <;> cases hthread : a.pthreadCreate <;>
        simp [hsetup, hthread] at hstart ⊢
    rw [start_succeeds hready hboth.1 hboth.2]
    constructor
    · intro h _
      exact h _ _ (setup_created hboth.1)
    · intro h param pointer hmem
      rw [setup_param hmem]
      exact h rfl

/-- The regions are those of the zones that are included, if there is room for all of them. -/
theorem forall_mem_rois_iff (hroom : maxRoiCount ≤ maxRoiCnt) {P : Roi → Prop} :
    (∀ roi ∈ (c.moveParam maxRoiCnt).rois, P roi) ↔
      ∀ zone ∈ c.inUse, zone.type.bytes = includeType → P (zone.roi c.sensitivity) := by
  have hlength : (c.inUse.filter fun zone => zone.type.bytes = includeType).length ≤ maxRoiCnt := by
    refine (List.length_filter_le _ _).trans (le_trans ?_ hroom)
    unfold Config.inUse
    rw [List.length_take, List.length_ofFn]
    exact min_le_right _ _
  unfold Config.moveParam
  dsimp only
  rw [List.take_of_length_le hlength]
  simp only [List.forall_mem_map, List.mem_filter, decide_eq_true_eq, and_imp]

@[simp] theorem Zone.resolve_type (z : Zone) : (z.resolve width height).type = z.type := by
  unfold resolve
  split <;> rfl

/-- A zone list as it is loaded suits the frame. -/
structure Config.Suits (loaded : Config) (enabled : Bool) (width height : Int32) : Prop where
  nonempty : 0 < loaded.zoneCount.toInt
  each : ∀ zone ∈ loaded.inUse, zone.Suits enabled width height
  included : ∃ zone ∈ loaded.inUse, zone.type.bytes = includeType

/-- The detector of a module that has just been initialised and started. -/
theorem detectorValid_iff (hroom : maxRoiCount ≤ maxRoiCnt) {loaded : Config}
    (hcount : loaded.zoneCount.toInt ≤ maxRoiCount) (hwidth : 0 < width.toInt)
    (hheight : 0 < height.toInt) (hinit : s.initialized = true) (hrunning : s.running = false)
    (hconfig : s.config = loaded.withDimensions (some (width, height)))
    (hstart : (motionModuleStart maxRoiCnt s a).1 = 0) :
    DetectorValid (motionModuleStart maxRoiCnt s a).2.2.config
        (motionModuleStart maxRoiCnt s a).2.1 ↔
      loaded.Suits loaded.enabled width height := by
  have hinUse : s.config.inUse = loaded.inUse.map (Zone.resolve width height) := by
    rw [hconfig, withDimensions_inUse]
  have hsize : s.config.frameWidth = width ∧ s.config.frameHeight = height := by
    rw [hconfig]
    exact ⟨rfl, rfl⟩
  have henabled : s.config.enabled = loaded.enabled := by
    rw [hconfig]
    rfl
  have hzones : s.config.zoneCount = loaded.zoneCount := by
    rw [hconfig]
    rfl
  have hregions := (start_interface_iff hinit hrunning hstart
    (P := fun param => ∀ roi ∈ param.rois, roi.Fits width height)).trans
      (forall_congr' fun _ => forall_mem_rois_iff hroom)
  have hsuits := fun zone : Zone =>
    Zone.suits_iff (z := zone) loaded.enabled s.config.sensitivity hwidth hheight
  rw [hinUse, henabled] at hregions
  rw [start_config]
  constructor
  · rintro ⟨⟨hpos, -, hpasses⟩, ⟨zone, hmem, htype⟩, hfits⟩
    rw [hsize.1, hsize.2] at hfits
    rw [hinUse] at hpasses hmem
    have hall := hregions.mp hfits
    obtain ⟨z, hz, rfl⟩ := List.mem_map.mp hmem
    refine ⟨hzones ▸ hpos, fun z hz => (hsuits z).mpr ⟨?_, fun hon htype => ?_⟩,
      z, hz, by rwa [Zone.resolve_type] at htype⟩
    · exact hpasses _ (List.mem_map_of_mem hz)
    · exact hall hon _ (List.mem_map_of_mem hz) htype
  · rintro ⟨hpos, heach, z, hz, htype⟩
    have hboth := fun z hz => (hsuits z).mp (heach z hz)
    refine ⟨⟨hzones ▸ hpos, hzones ▸ hcount, ?_⟩, ⟨z.resolve width height, ?_, ?_⟩, ?_⟩
    · rw [hinUse]
      exact List.forall_mem_map.mpr fun z hz => (hboth z hz).1
    · rw [hinUse]
      exact List.mem_map_of_mem hz
    · rwa [Zone.resolve_type]
    · rw [hsize.1, hsize.2]
      exact hregions.mpr fun hon => List.forall_mem_map.mpr fun z hz => (hboth z hz).2 hon

/-- The zones that are loaded suit the frame if those of the array do. -/
theorem loaded_suits_iff {enabled : Bool} :
    (loadRoiConfig J files c).Suits enabled width height ↔
      ∀ array, fileZones J files = some array → 0 < J.arrayLength array ∧
        (∀ i : Fin maxRoiCount, i.val < J.arrayLength array →
          ((c.zones i).readElement J array i).Suits enabled width height) ∧
        ∃ i : Fin maxRoiCount, i.val < J.arrayLength array ∧
          ((c.zones i).readElement J array i).type.bytes = includeType := by
  cases h : fileZones J files with
  | none =>
    have hinUse := loadRoiConfig_none (c := c) h
    have htype : Zone.fullFrame.type.bytes = includeType := by decide
    refine iff_of_true ⟨?_, ?_, ?_⟩ (by simp)
    · have hlength := congrArg List.length hinUse
      unfold Config.inUse at hlength
      rw [List.length_take, List.length_ofFn, List.length_singleton] at hlength
      omega
    · rw [hinUse]
      intro zone hzone
      obtain rfl := List.mem_singleton.mp hzone
      exact ⟨.inl htype, by decide, .inl ⟨rfl, rfl⟩, fun _ _ => by
        rw [if_pos ⟨rfl, rfl⟩]
        exact ⟨rfl, rfl⟩⟩
    · rw [hinUse]
      exact ⟨.fullFrame, List.mem_singleton_self _, htype⟩
  | some array =>
    have hmem := fun zone : Zone => mem_inUse_of_array (c := c) h zone
    constructor
    · rintro ⟨hpos, heach, zone, hzone, htype⟩ array' harray'
      obtain rfl : array = array' := Option.some.inj harray'
      refine ⟨(readZones_count_pos_iff h).mp hpos,
        fun i hi => heach _ ((hmem _).mpr ⟨i, hi, rfl⟩), ?_⟩
      obtain ⟨i, hi, rfl⟩ := (hmem zone).mp hzone
      exact ⟨i, hi, htype⟩
    · intro hall
      obtain ⟨hpos, heach, i, hi, htype⟩ := hall array rfl
      refine ⟨(readZones_count_pos_iff h).mpr hpos, fun zone hzone => ?_,
        _, (hmem _).mpr ⟨i, hi, rfl⟩, htype⟩
      obtain ⟨k, hk, rfl⟩ := (hmem zone).mp hzone
      exact heach k hk

/-- An initialisation that succeeds leaves the module ready, with the zones of the file. -/
theorem init_succeeds {surroundings : Surroundings} (hfresh : s.initialized = false)
    (hinit : (motionModuleInit J s (some c) surroundings).1 = 0) :
    (motionModuleInit J s (some c) surroundings).2 =
      { s with
        initialized := true
        config := c.prepared J surroundings
        detection := .reset } := by
  unfold motionModuleInit at hinit ⊢
  rw [if_neg (by simp [hfresh])] at hinit ⊢
  dsimp only at hinit ⊢
  cases hmutex : surroundings.mutexInit with
  | false => simp [hmutex] at hinit
  | true => rfl

/-- The defaults with the detector enabled. -/
def enabledConfig : Config := { Config.defaults with enabled := true }

/-- What is met with these files when every channel is 640 x 360. -/
def smallChannels (files : List (Option (List UInt8))) : Surroundings :=
  ⟨files, fun _ => ⟨true, false, 0, 0, 640, 360⟩, true⟩

/-- A setup without failures. -/
def goodAnswers : Answers := ⟨true, some 4096, true, true, true, true, true⟩

/-- A JSON value. -/
inductive Value
  | null
  | integer (n : ℤ)
  | text (s : List UInt8)
  | array (elements : List Value)
  | object (members : List (List UInt8 × Value))

/-- The functions of json-c on values, for texts that a parser is given for. Only what the values
below need is there. -/
def ofValues (parse : List UInt8 → Option Value) : Tokener where
  Object := Value
  fromFile := parse
  getEx value key := match value with
    | .object members => members.lookup key
    | _ => none
  getInt value := match value with
    | .integer n => n
    | _ => 0
  getBoolean value := match value with
    | .integer n => n ≠ 0
    | _ => false
  getString value := match value with
    | .text s => some s
    | .integer n => some (printInt n)
    | _ => none
  arrayLength value := match value with
    | .array elements => elements.length
    | _ => 0
  getIdx value i := match value with
    | .array elements => elements.getD i .null
    | _ => .null
  isNull value := match value with
    | .null => true
    | _ => false
  isArray value := match value with
    | .array _ => true
    | _ => false
  tokenerParse := parse

/-- An object with an empty array of zones. -/
def noZonesText : List UInt8 := ascii "\x7b\"zones\": []\x7d"

/-- json-c for this text. -/
def noZonesJson : Tokener := ofValues fun contents =>
  if contents = noZonesText then some (.object [(ascii "zones", .array [])]) else none

end Motion
