import Mathlib.Data.List.Chain
import Strero.Lib.Runs
import Strero.Lib.Streaks

/-!
# Day and night

The control thread of the photosensing module reads the exposure and the white balance, counts
readings of the night and of the day one after another, and sets the running mode of the image
processor when there are enough of them. The arithmetic of `float` is a parameter. No one else sets
the running mode, so that the image processor reports the mode that was set last.
-/

namespace Photosensing

open Streaks

/-- `photosensing_mode_t`, and the running mode of the image processor. -/
inductive Mode
  | day
  | night
  deriving DecidableEq, Repr

/-- The other mode. -/
def Mode.other : Mode → Mode
  | .day => .night
  | .night => .day

/-- What the thread does with numbers of type `float`. -/
structure FloatOps (F : Type) where
  ofNat : ℕ → F
  ofInt : Int32 → F
  /-- The conversion to `int`. -/
  toInt : F → Int32
  add : F → F → F
  lt : F → F → Bool

/-- `photosensing_module_config_t`, as far as the thread uses it. -/
structure Config (F : Type) where
  nightIsoThreshold : F
  nightCountThreshold : Int32
  dayIsoThreshold : F
  dayGbGainOffset : F
  dayGbGainThreshold : F
  dayIsoSecondaryThreshold : F
  dayCountThreshold : Int32
  ircutEnabled : Bool
  ircutDayState : Int32
  ircutNightState : Int32
  gbGainRecordInit : F
  grGainRecordInit : F

/-- The level of the pins in a mode. -/
def Config.ircutState {F : Type} (c : Config F) : Mode → Int32
  | .day => c.ircutDayState
  | .night => c.ircutNightState

/-- `photosensing_stats_t`. -/
structure Stats (F : Type) where
  modeSwitches : UInt32
  dayToNightSwitches : UInt32
  nightToDaySwitches : UInt32
  currentMode : Mode
  lastIsoValue : F
  lastGbGain : F
  lastGrGain : F
  dayCount : Int32
  nightCount : Int32

/-- `photosensing_module_state_t`, with the running mode of the image processor. -/
structure State (F : Type) where
  currentMode : Mode
  ircutStatus : Bool
  dayCount : Int32
  nightCount : Int32
  gbGainRecord : F
  grGainRecord : F
  stats : Stats F
  ispMode : Mode

/-- What the sensor says in one turn of the loop: the exposure, `none` for an error, and the gains
for red and blue, again `none` for an error, and 20 times in the night. -/
structure Reading where
  ev : Option UInt32
  wb : Option (UInt16 × UInt16)
  samples : ℕ → UInt16 × UInt16

/-- What the thread does to the devices and to the statistics. -/
inductive Action
  | setISPRunningMode (mode : Mode)
  | setIrcut (level : Int32)
  | countSwitch (mode : Mode)
  deriving DecidableEq, Repr

/-- A turn of the loop: whether the reading is one of the night, whether it is one of the day, and
what is done. -/
structure Turn where
  night : Bool
  day : Bool
  actions : List Action
  deriving DecidableEq, Repr

section Thread

variable {F : Type} (ops : FloatOps F) (c : Config F)

/-- `setup_photosensing_defaults` and the statistics of `photosensing_module_init`, then
`photosensing_module_start`. -/
def start : State F where
  currentMode := .day
  ircutStatus := if c.ircutEnabled then c.ircutDayState == 0 else true
  dayCount := 0
  nightCount := 0
  gbGainRecord := c.gbGainRecordInit
  grGainRecord := c.grGainRecordInit
  stats :=
    { modeSwitches := 0, dayToNightSwitches := 0, nightToDaySwitches := 0, currentMode := .day,
      lastIsoValue := ops.ofNat 0, lastGbGain := ops.ofNat 0, lastGrGain := ops.ofNat 0,
      dayCount := 0, nightCount := 0 }
  ispMode := .day

/-- A switch in the statistics. -/
def Stats.countSwitch (stats : Stats F) (mode : Mode) : Stats F :=
  match mode with
  | .night => { stats with
      dayToNightSwitches := stats.dayToNightSwitches + 1, modeSwitches := stats.modeSwitches + 1 }
  | .day => { stats with
      nightToDaySwitches := stats.nightToDaySwitches + 1, modeSwitches := stats.modeSwitches + 1 }

/-- The switch to a mode, if the image processor does not have it. -/
def switchTo (mode : Mode) (s : State F) : State F × List Action :=
  if s.ispMode = mode then (s, [])
  else
    let stats := if s.currentMode = mode.other then s.stats.countSwitch mode else s.stats
    ({ s with
        ispMode := mode
        ircutStatus := if c.ircutEnabled then c.ircutState mode == 0 else s.ircutStatus
        stats := { stats with currentMode := mode }
        currentMode := mode },
      .setISPRunningMode mode ::
        ((if c.ircutEnabled then [.setIrcut (c.ircutState mode)] else []) ++
          if s.currentMode = mode.other then [.countSwitch mode] else []))

/-- The smaller one of a buffer and a gain. -/
def smaller (buf gain : F) : F := if ops.lt gain buf then gain else buf

/-- The smallest gains for red and for blue of 20 samples. The first one replaces what the buffers
hold. -/
def smallestGains (samples : ℕ → UInt16 × UInt16) : F × F :=
  (List.range 20).foldl
    (fun buf i =>
      let gr := ops.ofNat (samples i).1.toNat
      let gb := ops.ofNat (samples i).2.toNat
      let buf := if i = 0 then (gr, gb) else buf
      (smaller ops buf.1 gr, smaller ops buf.2 gb))
    (ops.ofNat 0, ops.ofNat 0)

/-- The detection of the night, with the gain for blue that it leaves. -/
def detectNight (s : State F) (isoBuf gbGain : F) (samples : ℕ → UInt16 × UInt16) :
    State F × F × List Action :=
  if ops.lt c.nightIsoThreshold isoBuf then
    let s := { s with nightCount := s.nightCount + 1 }
    if s.nightCount > c.nightCountThreshold then
      let (s, actions) := switchTo c .night s
      let records := smallestGains ops samples
      ({ s with grGainRecord := records.1, gbGainRecord := records.2 },
        ops.ofNat (samples 19).2.toNat, actions)
    else (s, gbGain, [])
  else ({ s with nightCount := 0 }, gbGain, [])

/-- The three conditions of the day. -/
def dayConditions (s : State F) (isoBuf gbGain : F) : Bool :=
  ops.lt (ops.ofInt (ops.toInt isoBuf)) c.dayIsoThreshold && s.ircutStatus == true &&
    ops.lt (ops.add s.gbGainRecord c.dayGbGainOffset) gbGain

/-- The condition under which a reading with these conditions counts. -/
def daySecondary (isoBuf gbGain : F) : Bool :=
  ops.lt isoBuf c.dayIsoSecondaryThreshold || ops.lt c.dayGbGainThreshold gbGain

/-- The detection of the day. -/
def detectDay (s : State F) (isoBuf gbGain : F) : State F × List Action :=
  if dayConditions ops c s isoBuf gbGain then
    let s := { s with
      dayCount := if daySecondary ops c isoBuf gbGain then s.dayCount + 1 else 0 }
    if s.dayCount > c.dayCountThreshold then switchTo c .day s else (s, [])
  else ({ s with dayCount := 0 }, [])

/-- The update of the statistics. -/
def updateStatistics (s : State F) (isoBuf gbGain grGain : F) : State F :=
  { s with
    stats := { s.stats with
      lastIsoValue := isoBuf, lastGbGain := gbGain, lastGrGain := grGain,
      dayCount := s.dayCount, nightCount := s.nightCount } }

/-- The detection of the night and then, with the gain that it leaves, of the day. -/
def detect (s : State F) (isoBuf gbGain : F) (samples : ℕ → UInt16 × UInt16) : State F × Turn :=
  let night := detectNight ops c s isoBuf gbGain samples
  let day := detectDay ops c night.1 isoBuf night.2.1
  (day.1,
    { night := ops.lt c.nightIsoThreshold isoBuf
      day := dayConditions ops c night.1 isoBuf night.2.1 && daySecondary ops c isoBuf night.2.1
      actions := night.2.2 ++ day.2 })

/-- A turn of `photosensing_control_thread`, `none` where the loop is left. -/
def turn (s : State F) (reading : Reading) : Option (State F × Turn) :=
  match reading.ev, reading.wb with
  | some ev, some gains =>
    let isoBuf := ops.ofNat ev.toNat
    let grGain := ops.ofNat gains.1.toNat
    let gbGain := ops.ofNat gains.2.toNat
    some (detect ops c (updateStatistics s isoBuf gbGain grGain) isoBuf gbGain reading.samples)
  | _, _ => none

/-- The thread, with its turns so far. -/
structure Thread (F : Type) where
  state : State F
  turns : List Turn

/-- One more turn. -/
def Thread.step (t : Thread F) (reading : Reading) : Option (Thread F) :=
  (turn ops c t.state reading).map fun next => ⟨next.1, t.turns ++ [next.2]⟩

end Thread

/-- The switch that an action counts. -/
def Action.counted : Action → Option Mode
  | .countSwitch mode => some mode
  | _ => none

/-- The switches that are counted, one after another. -/
def countedSwitches (turns : List Turn) : List Mode :=
  turns.flatMap fun turn => turn.actions.filterMap Action.counted

/-- After a turn: a switch has more readings of its kind behind it than its threshold, any other
reading has taken the count back, and the switches that are counted add up and alternate. -/
structure Hysteresis {F : Type} (c : Config F) (t : Thread F) : Prop where
  toNight : ∀ turn ∈ t.turns.getLast?, .setISPRunningMode .night ∈ turn.actions →
    c.nightCountThreshold.toInt < streak Turn.night t.turns
  toDay : ∀ turn ∈ t.turns.getLast?, .setISPRunningMode .day ∈ turn.actions →
    c.dayCountThreshold.toInt < streak Turn.day t.turns
  nightReset : ∀ turn ∈ t.turns.getLast?, turn.night = false → t.state.nightCount = 0
  dayReset : ∀ turn ∈ t.turns.getLast?, turn.day = false → t.state.dayCount = 0
  sum : t.state.stats.modeSwitches =
    t.state.stats.dayToNightSwitches + t.state.stats.nightToDaySwitches
  toNightSwitches : t.state.stats.dayToNightSwitches =
    UInt32.ofNat ((countedSwitches t.turns).count .night)
  toDaySwitches : t.state.stats.nightToDaySwitches =
    UInt32.ofNat ((countedSwitches t.turns).count .day)
  alternate : (countedSwitches t.turns).IsChain (· ≠ ·)

/-! ### A switch -/

section Switch

variable {F : Type} {ops : FloatOps F} {c : Config F} {s : State F} {mode : Mode}

@[simp] theorem switchTo_nightCount : (switchTo c mode s).1.nightCount = s.nightCount := by
  unfold switchTo
  by_cases h : s.ispMode = mode
  · rw [if_pos h]
  · rw [if_neg h]

@[simp] theorem switchTo_dayCount : (switchTo c mode s).1.dayCount = s.dayCount := by
  unfold switchTo
  by_cases h : s.ispMode = mode
  · rw [if_pos h]
  · rw [if_neg h]

theorem switchTo_actions (h : s.ispMode ≠ mode) : (switchTo c mode s).2 =
    .setISPRunningMode mode ::
      ((if c.ircutEnabled then [.setIrcut (c.ircutState mode)] else []) ++
        if s.currentMode = mode.other then [.countSwitch mode] else []) := by
  rw [switchTo, if_neg h]

/-- Only the one mode is set. -/
theorem eq_of_mem_switchTo {other : Mode}
    (h : .setISPRunningMode other ∈ (switchTo c mode s).2) : other = mode := by
  by_cases hsame : s.ispMode = mode
  · rw [switchTo, if_pos hsame] at h
    exact absurd h List.not_mem_nil
  · rw [switchTo_actions hsame] at h
    rcases List.mem_cons.mp h with hset | hrest
    · exact Action.setISPRunningMode.inj hset
    · exfalso
      rcases List.mem_append.mp hrest with hircut | hcount
      · by_cases hpins : c.ircutEnabled = true <;> simp [hpins] at hircut
      · by_cases hcounted : s.currentMode = mode.other <;> simp [hcounted] at hcount

/-- The statistics have counted the switches of a log that alternates, up to the current mode. -/
structure Tallied (s : State F) (log : List Mode) : Prop where
  sum : s.stats.modeSwitches = s.stats.dayToNightSwitches + s.stats.nightToDaySwitches
  toNight : s.stats.dayToNightSwitches = UInt32.ofNat (log.count .night)
  toDay : s.stats.nightToDaySwitches = UInt32.ofNat (log.count .day)
  alternate : log.IsChain (· ≠ ·)
  last : log.getLast?.getD .day = s.currentMode

/-- Other fields do not matter. -/
theorem Tallied.of_eq {s' : State F} {log : List Mode} (h : Tallied s log)
    (hstats : s'.stats = s.stats) (hmode : s'.currentMode = s.currentMode) : Tallied s' log := by
  refine ⟨?_, ?_, ?_, h.alternate, h.last.trans hmode.symm⟩ <;> rw [hstats]
  · exact h.sum
  · exact h.toNight
  · exact h.toDay

theorem Mode.other_ne (mode : Mode) : mode.other ≠ mode := by
  cases mode <;> decide

theorem Mode.eq_of_ne_other {mode other : Mode} (h : other ≠ mode.other) : other = mode := by
  cases mode <;> cases other <;> first | rfl | exact absurd rfl h

/-- The actions of a switch count it if the module was in the other mode. -/
theorem counted_switchTo (h : s.ispMode ≠ mode) :
    (switchTo c mode s).2.filterMap Action.counted =
      if s.currentMode = mode.other then [mode] else [] := by
  have hpins : (if c.ircutEnabled then [Action.setIrcut (c.ircutState mode)] else []).filterMap
      Action.counted = [] := by
    cases c.ircutEnabled <;> rfl
  have hcounted : (if s.currentMode = mode.other then [Action.countSwitch mode] else []).filterMap
      Action.counted = if s.currentMode = mode.other then [mode] else [] := by
    by_cases hother : s.currentMode = mode.other
    · rw [if_pos hother, if_pos hother]
      rfl
    · rw [if_neg hother, if_neg hother]
      rfl
  rw [switchTo_actions h, List.filterMap_cons_none rfl, List.filterMap_append, hpins, hcounted,
    List.nil_append]

/-- One more switch, to the mode that the module is not in. -/
theorem Tallied.countSwitch {log : List Mode} (h : Tallied s log) (hother : s.currentMode ≠ mode) :
    (s.stats.countSwitch mode).modeSwitches =
        (s.stats.countSwitch mode).dayToNightSwitches +
          (s.stats.countSwitch mode).nightToDaySwitches ∧
      (s.stats.countSwitch mode).dayToNightSwitches =
        UInt32.ofNat ((log ++ [mode]).count .night) ∧
      (s.stats.countSwitch mode).nightToDaySwitches =
        UInt32.ofNat ((log ++ [mode]).count .day) ∧
      (log ++ [mode]).IsChain (· ≠ ·) := by
  have hchain : (log ++ [mode]).IsChain (· ≠ ·) := by
    refine h.alternate.append (List.isChain_singleton mode) fun last hlast first hfirst => ?_
    obtain rfl : mode = first := by simpa using hfirst
    have hcurrent := h.last
    rw [Option.mem_def.mp hlast] at hcurrent
    exact fun heq => hother (hcurrent.symm.trans heq)
  rw [List.count_append, List.count_append]
  cases mode with
  | night =>
    refine ⟨?_, ?_, ?_, hchain⟩
    · simp only [Stats.countSwitch, h.sum]
      rw [UInt32.add_assoc, UInt32.add_comm _ 1, UInt32.add_assoc]
    · rw [UInt32.ofNat_add, ← h.toNight]
      rfl
    · exact h.toDay
  | day =>
    refine ⟨?_, ?_, ?_, hchain⟩
    · simp only [Stats.countSwitch, h.sum]
      rw [UInt32.add_assoc]
    · exact h.toNight
    · rw [UInt32.ofNat_add, ← h.toDay]
      rfl

theorem Tallied.switchTo {log : List Mode} (h : Tallied s log) (c : Config F) (mode : Mode) :
    Tallied (switchTo c mode s).1
      (log ++ (Photosensing.switchTo c mode s).2.filterMap Action.counted) := by
  by_cases hsame : s.ispMode = mode
  · have hnothing : Photosensing.switchTo c mode s = (s, []) := if_pos hsame
    rw [hnothing]
    simpa using h
  · rw [counted_switchTo hsame]
    unfold Photosensing.switchTo
    rw [if_neg hsame]
    by_cases hcounted : s.currentMode = mode.other
    · have hother : s.currentMode ≠ mode := fun heq => mode.other_ne (hcounted.symm.trans heq)
      obtain ⟨hsum, htoNight, htoDay, hchain⟩ := h.countSwitch hother
      simp only [if_pos hcounted]
      exact ⟨hsum, htoNight, htoDay, hchain, by simp⟩
    · simp only [if_neg hcounted, List.append_nil]
      exact ⟨h.sum, h.toNight, h.toDay, h.alternate,
        h.last.trans (Mode.eq_of_ne_other hcounted)⟩

end Switch

/-! ### A turn -/

section Turn

variable {F : Type} {ops : FloatOps F} {c : Config F} {s : State F}

/-- What the detection of the night does to the counts, and what it sets. -/
structure NightDetected (ops : FloatOps F) (c : Config F) (s : State F) (isoBuf : F)
    (result : State F × F × List Action) : Prop where
  nightCount : result.1.nightCount =
    if ops.lt c.nightIsoThreshold isoBuf then s.nightCount + 1 else 0
  dayCount : result.1.dayCount = s.dayCount
  threshold : .setISPRunningMode .night ∈ result.2.2 →
    c.nightCountThreshold < result.1.nightCount
  noDay : .setISPRunningMode .day ∉ result.2.2
  tallied : ∀ log, Tallied s log → Tallied result.1 (log ++ result.2.2.filterMap Action.counted)

theorem detectNight_detected (ops : FloatOps F) (c : Config F) (s : State F) (isoBuf gbGain : F)
    (samples : ℕ → UInt16 × UInt16) :
    NightDetected ops c s isoBuf (detectNight ops c s isoBuf gbGain samples) := by
  unfold detectNight
  by_cases hnight : ops.lt c.nightIsoThreshold isoBuf = true
  · rw [if_pos hnight]
    dsimp only
    by_cases hcount : s.nightCount + 1 > c.nightCountThreshold
    · rw [if_pos hcount]
      refine ⟨?_, ?_, fun _ => ?_, fun hday => ?_, fun log hlog => ?_⟩
      · rw [if_pos hnight]
        exact switchTo_nightCount
      · exact switchTo_dayCount
      · rw [switchTo_nightCount]
        exact hcount
      · exact absurd (eq_of_mem_switchTo hday) (by decide)
      · have hcounts : Tallied { s with nightCount := s.nightCount + 1 } log := hlog.of_eq rfl rfl
        exact (hcounts.switchTo c .night).of_eq rfl rfl
    · rw [if_neg hcount]
      refine ⟨?_, rfl, fun h => absurd h List.not_mem_nil, List.not_mem_nil, fun log hlog => ?_⟩
      · rw [if_pos hnight]
      · rw [List.filterMap_nil, List.append_nil]
        exact hlog.of_eq rfl rfl
  · rw [if_neg hnight]
    refine ⟨?_, rfl, fun h => absurd h List.not_mem_nil, List.not_mem_nil, fun log hlog => ?_⟩
    · rw [if_neg hnight]
    · rw [List.filterMap_nil, List.append_nil]
      exact hlog.of_eq rfl rfl

/-- What the detection of the day does to the counts, and what it sets. -/
structure DayDetected (ops : FloatOps F) (c : Config F) (s : State F) (isoBuf gbGain : F)
    (result : State F × List Action) : Prop where
  dayCount : result.1.dayCount =
    if dayConditions ops c s isoBuf gbGain && daySecondary ops c isoBuf gbGain then s.dayCount + 1
    else 0
  nightCount : result.1.nightCount = s.nightCount
  threshold : .setISPRunningMode .day ∈ result.2 → c.dayCountThreshold < result.1.dayCount
  noNight : .setISPRunningMode .night ∉ result.2
  tallied : ∀ log, Tallied s log → Tallied result.1 (log ++ result.2.filterMap Action.counted)

theorem detectDay_detected (ops : FloatOps F) (c : Config F) (s : State F) (isoBuf gbGain : F) :
    DayDetected ops c s isoBuf gbGain (detectDay ops c s isoBuf gbGain) := by
  unfold detectDay
  by_cases hday : dayConditions ops c s isoBuf gbGain = true
  · rw [if_pos hday]
    dsimp only
    have hreading : (if daySecondary ops c isoBuf gbGain then s.dayCount + 1 else 0) =
        if dayConditions ops c s isoBuf gbGain && daySecondary ops c isoBuf gbGain then
          s.dayCount + 1
        else 0 := by
      rw [hday, Bool.true_and]
    generalize hnext : (if daySecondary ops c isoBuf gbGain then s.dayCount + 1 else 0) = next
      at hreading
    by_cases hcount : next > c.dayCountThreshold
    · rw [if_pos hcount]
      refine ⟨?_, switchTo_nightCount, fun _ => ?_, fun hnight => ?_, fun log hlog => ?_⟩
      · rw [← hreading]
        exact switchTo_dayCount
      · rw [switchTo_dayCount]
        exact hcount
      · exact absurd (eq_of_mem_switchTo hnight) (by decide)
      · have hcounts : Tallied { s with dayCount := next } log := hlog.of_eq rfl rfl
        exact hcounts.switchTo c .day
    · rw [if_neg hcount]
      refine ⟨hreading, rfl, fun h => absurd h List.not_mem_nil, List.not_mem_nil,
        fun log hlog => ?_⟩
      rw [List.filterMap_nil, List.append_nil]
      exact hlog.of_eq rfl rfl
  · rw [if_neg hday]
    refine ⟨?_, rfl, fun h => absurd h List.not_mem_nil, List.not_mem_nil, fun log hlog => ?_⟩
    · rw [if_neg (by simp [hday])]
    · rw [List.filterMap_nil, List.append_nil]
      exact hlog.of_eq rfl rfl

/-- The counts are those of the readings one after another, as an `int` holds them, and the
statistics have counted the switches. -/
structure Kept (t : Thread F) : Prop where
  nightCount : t.state.nightCount = Int32.ofNat (streak Turn.night t.turns)
  dayCount : t.state.dayCount = Int32.ofNat (streak Turn.day t.turns)
  tallied : Tallied t.state (countedSwitches t.turns)

theorem kept_start (ops : FloatOps F) (c : Config F) : Kept ⟨start ops c, []⟩ :=
  ⟨rfl, rfl, ⟨rfl, rfl, rfl, List.isChain_nil, rfl⟩⟩

/-- A count that goes up with each element of a streak, and back to 0. -/
theorem ofNat_streak_concat {α : Type} (p : α → Bool) (xs : List α) (x : α) :
    Int32.ofNat (streak p (xs ++ [x])) =
      if p x then Int32.ofNat (streak p xs) + 1 else 0 := by
  by_cases hx : p x = true
  · rw [if_pos hx, streak_concat_of_pos hx, Int32.ofNat_add]
    rfl
  · rw [if_neg hx, streak_concat_of_neg (by simpa using hx)]
    rfl

/-- An `int` that has run over is smaller than what it counts. -/
theorem lt_of_lt_ofNat {threshold : Int32} {n : ℕ} (h : threshold < Int32.ofNat n) :
    threshold.toInt < n := by
  have hlt := Int32.lt_iff_toInt_lt.mp h
  have hofNat : (Int32.ofNat n).toInt = (n : ℤ).bmod (2 ^ 32) := Int32.toInt_ofNat'
  rw [hofNat, Int.bmod_def] at hlt
  omega

/-- A turn is a detection for some exposure and gains. -/
theorem exists_of_turn {next : State F × Turn} {reading : Reading}
    (h : turn ops c s reading = some next) :
    ∃ isoBuf gbGain grGain,
      next = detect ops c (updateStatistics s isoBuf gbGain grGain) isoBuf gbGain
        reading.samples := by
  unfold turn at h
  split at h
  · exact ⟨_, _, _, (Option.some.inj h).symm⟩
  · exact absurd h.symm (Option.some_ne_none _)

theorem countedSwitches_concat (turns : List Turn) (last : Turn) :
    countedSwitches (turns ++ [last]) =
      countedSwitches turns ++ last.actions.filterMap Action.counted := by
  rw [countedSwitches, List.flatMap_append, List.flatMap_singleton, countedSwitches]

/-- With these counts a turn is as it must be if it switches above the thresholds. -/
theorem Kept.hysteresis {turns : List Turn} {last : Turn} (h : Kept ⟨s, turns ++ [last]⟩)
    (hnight : .setISPRunningMode .night ∈ last.actions → c.nightCountThreshold < s.nightCount)
    (hday : .setISPRunningMode .day ∈ last.actions → c.dayCountThreshold < s.dayCount) :
    Hysteresis c ⟨s, turns ++ [last]⟩ := by
  have hlast : ∀ turn ∈ (turns ++ [last]).getLast?, turn = last := by
    intro turn hturn
    rw [List.getLast?_concat] at hturn
    exact (Option.some.inj hturn).symm
  have hnightCount : s.nightCount = Int32.ofNat (streak Turn.night (turns ++ [last])) :=
    h.nightCount
  have hdayCount : s.dayCount = Int32.ofNat (streak Turn.day (turns ++ [last])) := h.dayCount
  refine ⟨fun turn hturn hset => ?_, fun turn hturn hset => ?_, fun turn hturn hfalse => ?_,
    fun turn hturn hfalse => ?_, h.tallied.sum, h.tallied.toNight, h.tallied.toDay,
    h.tallied.alternate⟩
  · rw [hlast turn hturn] at hset
    exact lt_of_lt_ofNat (hnightCount ▸ hnight hset)
  · rw [hlast turn hturn] at hset
    exact lt_of_lt_ofNat (hdayCount ▸ hday hset)
  · rw [hlast turn hturn] at hfalse
    refine hnightCount.trans ?_
    rw [streak_concat_of_neg hfalse]
    rfl
  · rw [hlast turn hturn] at hfalse
    refine hdayCount.trans ?_
    rw [streak_concat_of_neg hfalse]
    rfl

/-- A turn keeps the counts, and is as it must be. -/
theorem Kept.detect {t : Thread F} (h : Kept t) (isoBuf gbGain grGain : F)
    (samples : ℕ → UInt16 × UInt16) {next : State F × Turn}
    (hnext : next = Photosensing.detect ops c (updateStatistics t.state isoBuf gbGain grGain)
      isoBuf gbGain samples) :
    Kept ⟨next.1, t.turns ++ [next.2]⟩ ∧ Hysteresis c ⟨next.1, t.turns ++ [next.2]⟩ := by
  have hfirst : Tallied (updateStatistics t.state isoBuf gbGain grGain)
      (countedSwitches t.turns) :=
    ⟨h.tallied.sum, h.tallied.toNight, h.tallied.toDay, h.tallied.alternate, h.tallied.last⟩
  have hnight := detectNight_detected ops c (updateStatistics t.state isoBuf gbGain grGain)
    isoBuf gbGain samples
  unfold Photosensing.detect at hnext
  dsimp only at hnext
  generalize detectNight ops c (updateStatistics t.state isoBuf gbGain grGain) isoBuf gbGain
    samples = night at hnext hnight
  have hday := detectDay_detected ops c night.1 isoBuf night.2.1
  generalize detectDay ops c night.1 isoBuf night.2.1 = day at hnext hday
  have hkept : Kept ⟨next.1, t.turns ++ [next.2]⟩ := by
    refine ⟨?_, ?_, ?_⟩
    · dsimp only
      rw [ofNat_streak_concat, ← h.nightCount, hnext]
      exact hday.nightCount.trans hnight.nightCount
    · dsimp only
      rw [ofNat_streak_concat, ← h.dayCount, hnext]
      refine hday.dayCount.trans ?_
      rw [hnight.dayCount]
      rfl
    · dsimp only
      rw [countedSwitches_concat, hnext, List.filterMap_append, ← List.append_assoc]
      exact hday.tallied _ (hnight.tallied _ hfirst)
  refine ⟨hkept, hkept.hysteresis (fun hset => ?_) fun hset => ?_⟩
  · rw [hnext] at hset ⊢
    have hmem := (List.mem_append.mp hset).resolve_right hday.noNight
    exact hday.nightCount ▸ hnight.threshold hmem
  · rw [hnext] at hset ⊢
    exact hday.threshold ((List.mem_append.mp hset).resolve_left hnight.noDay)

theorem step_hysteresis {t t' : Thread F} {reading : Reading} (h : Kept t)
    (hstep : t.step ops c reading = some t') : Hysteresis c t' ∧ Kept t' := by
  obtain ⟨next, hturn, rfl⟩ := Option.map_eq_some_iff.mp hstep
  obtain ⟨isoBuf, gbGain, grGain, hnext⟩ := exists_of_turn hturn
  exact (h.detect isoBuf gbGain grGain reading.samples hnext).symm

end Turn

/-- Every turn of every run has the hysteresis. -/
theorem each_hysteresis {F : Type} (ops : FloatOps F) (c : Config F) (readings : List Reading) :
    Runs.Each (Thread.step ops c) (fun _ _ t => Hysteresis c t) ⟨start ops c, []⟩ readings := by
  have hany : Runs.Each (Thread.step ops c) (fun _ _ _ => True) ⟨start ops c, []⟩ readings :=
    Runs.each_of_step (fun _ _ _ _ => trivial) _ _
  exact hany.imp (fun t _ _ (hkept : Kept t) hstep _ => step_hysteresis hkept hstep)
    (kept_start ops c)

end Photosensing
