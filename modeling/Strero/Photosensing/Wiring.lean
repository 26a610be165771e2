import Strero.Photosensing.ControlThread

/-!
# The wiring of the filter

The levels of the pins in the day and in the night are configured. The control thread takes the
level of a mode for a flag without which there is no way back to the day. What the sensor says is
apart from it, and a machine that has only the mode, the flag and the count of the day is all that
remains of the thread.
-/

namespace Photosensing

/-- The levels of the two modes, which are different. -/
structure Wiring where
  day : Int32
  night : Int32
  differ : day ≠ night

/-- The configuration with these levels. -/
def Config.wired {F : Type} (c : Config F) (wiring : Wiring) : Config F :=
  { c with ircutDayState := wiring.day, ircutNightState := wiring.night }

/-- The mode that an action sets. -/
def Action.set : Action → Option Mode
  | .setISPRunningMode mode => some mode
  | _ => none

/-- The modes that the thread sets, one after another, until the loop is left. -/
def transitions {F : Type} (ops : FloatOps F) (c : Config F) : State F → List Reading → List Mode
  | _, [] => []
  | s, reading :: readings =>
    match turn ops c s reading with
    | some next => next.2.actions.filterMap Action.set ++ transitions ops c next.1 readings
    | none => []

/-! ### What the sensor says -/

/-- The state of the sensor: the count of the night, and the smallest gain for blue in it. -/
structure Sensor (F : Type) where
  nightCount : Int32
  gbGainRecord : F

/-- What a reading says of the modes: whether there are enough readings of the night, whether the
conditions of the day without the flag are met, and whether the reading counts for the day. -/
structure Sign where
  due : Bool
  bright : Bool
  counts : Bool
  deriving DecidableEq, Repr

section Sensing

variable {F : Type} (ops : FloatOps F) (c : Config F)

/-- The next sign. -/
def sense (sensor : Sensor F) (isoBuf gbGain : F) (samples : ℕ → UInt16 × UInt16) :
    Sensor F × Sign :=
  let night := ops.lt c.nightIsoThreshold isoBuf
  let nightCount := if night then sensor.nightCount + 1 else 0
  let due := night && decide (nightCount > c.nightCountThreshold)
  let record := if due then (smallestGains ops samples).2 else sensor.gbGainRecord
  let gain := if due then ops.ofNat (samples 19).2.toNat else gbGain
  (⟨nightCount, record⟩,
    { due := due
      bright := ops.lt (ops.ofInt (ops.toInt isoBuf)) c.dayIsoThreshold &&
        ops.lt (ops.add record c.dayGbGainOffset) gain
      counts := daySecondary ops c isoBuf gain })

/-- The signs of readings, until the loop is left. -/
def signs : Sensor F → List Reading → List Sign
  | _, [] => []
  | sensor, reading :: readings =>
    match reading.ev, reading.wb with
    | some ev, some gains =>
      let next := sense ops c sensor (ops.ofNat ev.toNat) (ops.ofNat gains.2.toNat) reading.samples
      next.2 :: signs next.1 readings
    | _, _ => []

end Sensing

/-! ### What remains of the thread -/

/-- The mode, the flag, and the count of the day. -/
structure Control where
  mode : Mode
  status : Bool
  dayCount : Int32

/-- The flag in a mode, `none` where it stays as it is. -/
def Config.flag {F : Type} (c : Config F) (mode : Mode) : Option Bool :=
  if c.ircutEnabled then some (c.ircutState mode == 0) else none

section Controlling

variable (threshold : Int32) (flag : Mode → Option Bool)

/-- The switch to a mode. -/
def Control.switchTo (k : Control) (mode : Mode) : Control × List Mode :=
  if k.mode = mode then (k, [])
  else ({ k with mode := mode, status := (flag mode).getD k.status }, [mode])

/-- The night. -/
def Control.night (k : Control) (sign : Sign) : Control × List Mode :=
  if sign.due then k.switchTo flag .night else (k, [])

/-- The day. -/
def Control.day (k : Control) (sign : Sign) : Control × List Mode :=
  if sign.bright && k.status then
    let k := { k with dayCount := if sign.counts then k.dayCount + 1 else 0 }
    if k.dayCount > threshold then k.switchTo flag .day else (k, [])
  else ({ k with dayCount := 0 }, [])

/-- The modes that are set by signs. -/
def Control.transitions : Control → List Sign → List Mode
  | _, [] => []
  | k, sign :: signs =>
    let night := k.night flag sign
    let day := night.1.day threshold flag sign
    night.2 ++ day.2 ++ day.1.transitions signs

end Controlling

/-- Signs after which the day is back, from a count of the day on. -/
def bringsDay (threshold : Int32) : Int32 → List Sign → Bool
  | _, [] => false
  | count, sign :: signs =>
    let next := if sign.counts then count + 1 else 0
    sign.bright && decide (next > threshold) ||
      bringsDay threshold (if sign.bright then next else 0) signs

/-- From the first reading on with which there are enough of the night, there are enough of the
day. -/
def returns {F : Type} (ops : FloatOps F) (c : Config F) (readings : List Reading) : Bool :=
  bringsDay c.dayCountThreshold 0
    ((signs ops c ⟨0, c.gbGainRecordInit⟩ readings).dropWhile fun sign => !sign.due)

/-! ### The thread is the machine over the signs -/

section Refinement

variable {F : Type} {ops : FloatOps F} {c : Config F} {s : State F} {sensor : Sensor F}
  {k : Control}

/-- A state of the thread, as a state of the sensor and one of the machine. -/
structure Remains (s : State F) (sensor : Sensor F) (k : Control) : Prop where
  nightCount : s.nightCount = sensor.nightCount
  gbGainRecord : s.gbGainRecord = sensor.gbGainRecord
  mode : s.ispMode = k.mode
  status : s.ircutStatus = k.status
  dayCount : s.dayCount = k.dayCount

theorem set_switchTo {mode : Mode} (h : s.ispMode ≠ mode) :
    (switchTo c mode s).2.filterMap Action.set = [mode] := by
  have hpins : (if c.ircutEnabled then [Action.setIrcut (c.ircutState mode)] else []).filterMap
      Action.set = [] := by
    cases c.ircutEnabled <;> rfl
  have hcounted : (if s.currentMode = mode.other then [Action.countSwitch mode] else []).filterMap
      Action.set = [] := by
    by_cases hother : s.currentMode = mode.other
    · rw [if_pos hother]
      rfl
    · rw [if_neg hother]
      rfl
  have hset : Action.set (.setISPRunningMode mode) = some mode := rfl
  rw [switchTo_actions h, List.filterMap_cons_some hset, List.filterMap_append, hpins, hcounted]
  rfl

theorem ircutStatus_switchTo {mode : Mode} (h : s.ispMode ≠ mode) :
    (switchTo c mode s).1.ircutStatus = (c.flag mode).getD s.ircutStatus := by
  rw [switchTo, if_neg h, Config.flag]
  cases c.ircutEnabled <;> rfl

theorem Remains.switchTo (h : Remains s sensor k) (mode : Mode) :
    Remains (switchTo c mode s).1 sensor (k.switchTo c.flag mode).1 ∧
      (Photosensing.switchTo c mode s).2.filterMap Action.set = (k.switchTo c.flag mode).2 := by
  unfold Control.switchTo
  by_cases hsame : s.ispMode = mode
  · rw [if_pos (h.mode ▸ hsame)]
    unfold Photosensing.switchTo
    rw [if_pos hsame]
    exact ⟨h, rfl⟩
  · rw [if_neg (h.mode ▸ hsame), set_switchTo hsame]
    have hstatus := ircutStatus_switchTo (c := c) hsame
    rw [h.status] at hstatus
    refine ⟨⟨?_, ?_, ?_, hstatus, ?_⟩, rfl⟩ <;> rw [Photosensing.switchTo, if_neg hsame]
    · exact h.nightCount
    · exact h.gbGainRecord
    · exact h.dayCount

theorem Remains.detectNight (h : Remains s sensor k) (isoBuf gbGain : F)
    (samples : ℕ → UInt16 × UInt16) {next : Sensor F × Sign}
    (hnext : next = sense ops c sensor isoBuf gbGain samples) :
    Remains (detectNight ops c s isoBuf gbGain samples).1 next.1 (k.night c.flag next.2).1 ∧
      (Photosensing.detectNight ops c s isoBuf gbGain samples).2.2.filterMap Action.set =
        (k.night c.flag next.2).2 ∧
      (Photosensing.detectNight ops c s isoBuf gbGain samples).2.1 =
        if next.2.due then ops.ofNat (samples 19).2.toNat else gbGain := by
  subst hnext
  unfold Photosensing.detectNight Control.night sense
  dsimp only
  by_cases hnight : ops.lt c.nightIsoThreshold isoBuf = true
  · simp only [hnight, if_true, Bool.true_and, ← h.nightCount]
    by_cases hcount : s.nightCount + 1 > c.nightCountThreshold
    · have hcounts : Remains { s with nightCount := s.nightCount + 1 }
          ⟨s.nightCount + 1, sensor.gbGainRecord⟩ k :=
        ⟨rfl, h.gbGainRecord, h.mode, h.status, h.dayCount⟩
      obtain ⟨hswitch, hset⟩ := hcounts.switchTo (c := c) .night
      simp only [hcount, decide_true, if_true]
      exact ⟨⟨hswitch.nightCount, rfl, hswitch.mode, hswitch.status, hswitch.dayCount⟩, hset,
        trivial⟩
    · simp only [hcount, decide_false, if_false, Bool.false_eq_true]
      exact ⟨⟨rfl, h.gbGainRecord, h.mode, h.status, h.dayCount⟩, rfl, trivial⟩
  · simp only [hnight, if_false, Bool.false_and, Bool.false_eq_true]
    exact ⟨⟨rfl, h.gbGainRecord, h.mode, h.status, h.dayCount⟩, rfl, trivial⟩

/-- The conditions of the day are the bright sign and the flag. -/
theorem Remains.dayConditions_eq (h : Remains s sensor k) {isoBuf gain : F} {sign : Sign}
    (hbright : sign.bright = (ops.lt (ops.ofInt (ops.toInt isoBuf)) c.dayIsoThreshold &&
      ops.lt (ops.add sensor.gbGainRecord c.dayGbGainOffset) gain)) :
    dayConditions ops c s isoBuf gain = (sign.bright && k.status) := by
  rw [dayConditions, h.gbGainRecord, h.status, hbright, Bool.and_right_comm, beq_true]

theorem Remains.detectDay (h : Remains s sensor k) {isoBuf gain : F} {sign : Sign}
    (hbright : sign.bright = (ops.lt (ops.ofInt (ops.toInt isoBuf)) c.dayIsoThreshold &&
      ops.lt (ops.add sensor.gbGainRecord c.dayGbGainOffset) gain))
    (hcounts : sign.counts = daySecondary ops c isoBuf gain) :
    Remains (detectDay ops c s isoBuf gain).1 sensor (k.day c.dayCountThreshold c.flag sign).1 ∧
      (Photosensing.detectDay ops c s isoBuf gain).2.filterMap Action.set =
        (k.day c.dayCountThreshold c.flag sign).2 := by
  unfold Photosensing.detectDay Control.day
  rw [h.dayConditions_eq hbright, hcounts, h.dayCount]
  by_cases hday : (sign.bright && k.status) = true
  · rw [if_pos hday, if_pos hday]
    dsimp only
    generalize (if daySecondary ops c isoBuf gain then k.dayCount + 1 else 0) = next
    have hnext : Remains { s with dayCount := next } sensor { k with dayCount := next } :=
      ⟨h.nightCount, h.gbGainRecord, h.mode, h.status, rfl⟩
    by_cases hcount : next > c.dayCountThreshold
    · rw [if_pos hcount, if_pos hcount]
      exact hnext.switchTo .day
    · rw [if_neg hcount, if_neg hcount]
      exact ⟨hnext, rfl⟩
  · rw [if_neg hday, if_neg hday]
    exact ⟨⟨h.nightCount, h.gbGainRecord, h.mode, h.status, rfl⟩, rfl⟩

/-- A turn is a sign, and a step of the machine. -/
theorem Remains.detect (h : Remains s sensor k) (ops : FloatOps F) (c : Config F)
    (isoBuf gbGain : F) (samples : ℕ → UInt16 × UInt16) {next : Sensor F × Sign}
    (hnext : next = sense ops c sensor isoBuf gbGain samples) :
    Remains (detect ops c s isoBuf gbGain samples).1 next.1
        ((k.night c.flag next.2).1.day c.dayCountThreshold c.flag next.2).1 ∧
      (Photosensing.detect ops c s isoBuf gbGain samples).2.actions.filterMap Action.set =
        (k.night c.flag next.2).2 ++
          ((k.night c.flag next.2).1.day c.dayCountThreshold c.flag next.2).2 := by
  obtain ⟨hnight, hnightSet, hgain⟩ := h.detectNight isoBuf gbGain samples hnext
  have hbright : next.2.bright =
      (ops.lt (ops.ofInt (ops.toInt isoBuf)) c.dayIsoThreshold &&
        ops.lt (ops.add next.1.gbGainRecord c.dayGbGainOffset)
          (if next.2.due then ops.ofNat (samples 19).2.toNat else gbGain)) := by
    rw [hnext]
    rfl
  have hcounts : next.2.counts = daySecondary ops c isoBuf
      (if next.2.due then ops.ofNat (samples 19).2.toNat else gbGain) := by
    rw [hnext]
    rfl
  rw [← hgain] at hbright hcounts
  obtain ⟨hday, hdaySet⟩ := hnight.detectDay hbright hcounts
  refine ⟨hday, ?_⟩
  rw [← hnightSet, ← hdaySet]
  exact List.filterMap_append

/-- What the thread sets is what the machine sets. -/
theorem Remains.transitions_eq (h : Remains s sensor k) (readings : List Reading) :
    transitions ops c s readings =
      k.transitions c.dayCountThreshold c.flag (signs ops c sensor readings) := by
  induction readings generalizing s sensor k with
  | nil => rfl
  | cons reading readings ih =>
    unfold transitions signs turn
    cases hev : reading.ev with
    | none => rfl
    | some ev =>
      cases hwb : reading.wb with
      | none => rfl
      | some gains =>
        have hobserved : Remains (updateStatistics s (ops.ofNat ev.toNat)
            (ops.ofNat gains.2.toNat) (ops.ofNat gains.1.toNat)) sensor k :=
          ⟨h.nightCount, h.gbGainRecord, h.mode, h.status, h.dayCount⟩
        obtain ⟨hnext, hset⟩ := hobserved.detect ops c (ops.ofNat ev.toNat)
          (ops.ofNat gains.2.toNat) reading.samples rfl
        dsimp only
        rw [Control.transitions, hset, ih hnext]

theorem remains_start (ops : FloatOps F) (c : Config F) :
    Remains (start ops c) ⟨0, c.gbGainRecordInit⟩ ⟨.day, (c.flag .day).getD true, 0⟩ := by
  refine ⟨rfl, rfl, rfl, ?_, rfl⟩
  unfold start Config.flag
  cases c.ircutEnabled <;> rfl

end Refinement

/-! ### When the day comes back -/

section Machine

variable (threshold : Int32) (flag : Mode → Option Bool) {k : Control} (signs : List Sign)

/-- Without the flag the night does not end. -/
theorem transitions_dark_night (hmode : k.mode = .night) (hstatus : k.status = false) :
    k.transitions threshold flag signs = [] := by
  induction signs generalizing k with
  | nil => rfl
  | cons sign signs ih =>
    have hnight : k.night flag sign = (k, []) := by
      unfold Control.night Control.switchTo
      rw [if_pos hmode, ite_self]
    have hday : k.day threshold flag sign = ({ k with dayCount := 0 }, []) := by
      unfold Control.day
      rw [hstatus, Bool.and_false, if_neg Bool.false_ne_true]
    rw [Control.transitions, hnight, hday]
    exact ih hmode hstatus

/-- In the day the machine stays in it. -/
theorem day_of_mode_day (sign : Sign) (hmode : k.mode = .day) :
    (k.day threshold flag sign).1.mode = .day ∧ (k.day threshold flag sign).2 = [] := by
  unfold Control.day
  by_cases hbright : (sign.bright && k.status) = true
  · rw [if_pos hbright]
    dsimp only
    generalize (if sign.counts then k.dayCount + 1 else 0) = next
    by_cases hcount : next > threshold
    · rw [if_pos hcount, Control.switchTo, if_pos hmode]
      exact ⟨hmode, rfl⟩
    · rw [if_neg hcount]
      exact ⟨hmode, rfl⟩
  · rw [if_neg hbright]
    exact ⟨hmode, rfl⟩

/-- With levels that take the flag away in the night there is one switch, or none. -/
theorem transitions_of_dark (hflag : flag .night = some false) (hmode : k.mode = .day) :
    k.transitions threshold flag signs = if signs.any Sign.due then [.night] else [] := by
  induction signs generalizing k with
  | nil => rfl
  | cons sign signs ih =>
    rw [Control.transitions, List.any_cons]
    by_cases hdue : sign.due = true
    · have hnight : k.night flag sign = ({ k with mode := .night, status := false }, [.night]) := by
        rw [Control.night, if_pos hdue, Control.switchTo, if_neg (by simp [hmode]), hflag]
        rfl
      have hday : Control.day threshold flag { k with mode := .night, status := false } sign =
          ({ k with mode := .night, status := false, dayCount := 0 }, []) := by
        unfold Control.day
        rw [Bool.and_false, if_neg Bool.false_ne_true]
      rw [hnight, hday, hdue, Bool.true_or, if_pos rfl]
      dsimp only
      rw [transitions_dark_night _ _ _ rfl rfl]
      rfl
    · have hnight : k.night flag sign = (k, []) := if_neg hdue
      obtain ⟨hday, hset⟩ := day_of_mode_day threshold flag sign hmode
      have hfalse : sign.due = false := by simpa using hdue
      rw [hnight, hset, ih hday, hfalse, Bool.false_or]
      rfl

/-- With the flag the night ends with enough readings of the day. -/
theorem transitions_bright_night (hmode : k.mode = .night) (hstatus : k.status = true) :
    (bringsDay threshold k.dayCount signs = false → k.transitions threshold flag signs = []) ∧
      (bringsDay threshold k.dayCount signs = true →
        .day ∈ k.transitions threshold flag signs) := by
  induction signs generalizing k with
  | nil => exact ⟨fun _ => rfl, fun h => absurd h Bool.false_ne_true⟩
  | cons sign signs ih =>
    have hnight : k.night flag sign = (k, []) := by
      unfold Control.night Control.switchTo
      rw [if_pos hmode, ite_self]
    rw [Control.transitions, hnight, bringsDay]
    unfold Control.day
    rw [hstatus, Bool.and_true]
    dsimp only
    generalize (if sign.counts then k.dayCount + 1 else 0) = next
    by_cases hbright : sign.bright = true
    · rw [if_pos hbright, if_pos hbright, hbright, Bool.true_and]
      by_cases hcount : next > threshold
      · rw [if_pos hcount, decide_eq_true hcount, Bool.true_or, Control.switchTo,
          if_neg (by simp [hmode])]
        exact ⟨fun h => absurd h.symm Bool.false_ne_true, fun _ => by simp⟩
      · rw [if_neg hcount, decide_eq_false hcount, Bool.false_or]
        exact ih (k := ⟨k.mode, true, next⟩) hmode rfl
    · have hfalse : sign.bright = false := by simpa using hbright
      rw [if_neg hbright, if_neg hbright, hfalse, Bool.false_and, Bool.false_or]
      exact ih (k := ⟨k.mode, true, 0⟩) hmode rfl

/-- With levels that raise the flag in the night only, it is what brings the day that tells whether
there is more than one switch. -/
theorem transitions_of_bright (hflag : flag .night = some true) :
    (bringsDay threshold 0 (signs.dropWhile fun sign => !sign.due) = false →
      Control.transitions threshold flag ⟨.day, false, 0⟩ signs =
        if signs.any Sign.due then [.night] else []) ∧
      (bringsDay threshold 0 (signs.dropWhile fun sign => !sign.due) = true →
        .day ∈ Control.transitions threshold flag ⟨.day, false, 0⟩ signs) := by
  induction signs with
  | nil => exact ⟨fun _ => rfl, fun h => absurd h Bool.false_ne_true⟩
  | cons sign signs ih =>
    rw [List.any_cons]
    by_cases hdue : sign.due = true
    · -- From the switch on the run is that of a machine that begins in the night.
      have hswitch : Control.transitions threshold flag ⟨.day, false, 0⟩ (sign :: signs) =
          .night :: Control.transitions threshold flag ⟨.night, true, 0⟩ (sign :: signs) := by
        have hfirst : Control.night flag ⟨.day, false, 0⟩ sign =
            (⟨.night, true, 0⟩, [.night]) := by
          rw [Control.night, if_pos hdue, Control.switchTo, if_neg (by decide), hflag]
          rfl
        have hsecond : Control.night flag ⟨.night, true, 0⟩ sign = (⟨.night, true, 0⟩, []) := by
          rw [Control.night, if_pos hdue, Control.switchTo, if_pos rfl]
        rw [Control.transitions, Control.transitions, hfirst, hsecond]
        rfl
      obtain ⟨hnone, hday⟩ := transitions_bright_night threshold flag
        (k := ⟨.night, true, 0⟩) (sign :: signs) rfl rfl
      rw [List.dropWhile_cons_of_neg (by simp [hdue]), hswitch, hdue, Bool.true_or, if_pos rfl]
      exact ⟨fun h => by rw [hnone h], fun h => List.mem_cons_of_mem _ (hday h)⟩
    · have hfalse : sign.due = false := by simpa using hdue
      have hstay : Control.transitions threshold flag ⟨.day, false, 0⟩ (sign :: signs) =
          Control.transitions threshold flag ⟨.day, false, 0⟩ signs := by
        have hnight : Control.night flag ⟨.day, false, 0⟩ sign = (⟨.day, false, 0⟩, []) :=
          if_neg hdue
        have hday : Control.day threshold flag ⟨.day, false, 0⟩ sign =
            (⟨.day, false, 0⟩, []) := by
          rw [Control.day, Bool.and_false, if_neg Bool.false_ne_true]
        rw [Control.transitions, hnight, hday]
        rfl
      rw [List.dropWhile_cons_of_pos (by simp [hfalse]), hstay, hfalse, Bool.false_or]
      exact ih

end Machine

section Wirings

variable {F : Type} {ops : FloatOps F} {c : Config F}

/-- What the sensor says does not depend on the wiring. -/
theorem signs_wired (wiring : Wiring) (sensor : Sensor F) (readings : List Reading) :
    signs ops (c.wired wiring) sensor readings = signs ops c sensor readings := by
  induction readings generalizing sensor with
  | nil => rfl
  | cons reading readings ih =>
    unfold signs
    cases reading.ev with
    | none => rfl
    | some ev =>
      cases reading.wb with
      | none => rfl
      | some gains =>
        dsimp only
        rw [ih]
        rfl

theorem transitions_wired (wiring : Wiring) (readings : List Reading) :
    transitions ops (c.wired wiring) (start ops (c.wired wiring)) readings =
      Control.transitions c.dayCountThreshold (c.wired wiring).flag
        ⟨.day, ((c.wired wiring).flag .day).getD true, 0⟩
        (signs ops c ⟨0, c.gbGainRecordInit⟩ readings) := by
  rw [(remains_start ops (c.wired wiring)).transitions_eq, signs_wired]
  rfl

theorem flag_wired (henabled : c.ircutEnabled = true) (wiring : Wiring) :
    (c.wired wiring).flag .day = some (wiring.day == 0) ∧
      (c.wired wiring).flag .night = some (wiring.night == 0) := by
  constructor
  · exact if_pos henabled
  · exact if_pos henabled

/-- Wirings that raise the flag in the night are alike: they take it away in the day. -/
theorem flag_eq_of_night (henabled : c.ircutEnabled = true) {p q : Wiring} (hp : p.night = 0)
    (hq : q.night = 0) : (c.wired p).flag = (c.wired q).flag := by
  have hpDay : p.day ≠ 0 := fun hzero => p.differ (hzero.trans hp.symm)
  have hqDay : q.day ≠ 0 := fun hzero => q.differ (hzero.trans hq.symm)
  funext mode
  cases mode with
  | day =>
    rw [(flag_wired henabled p).1, (flag_wired henabled q).1, beq_false_of_ne hpDay,
      beq_false_of_ne hqDay]
  | night => rw [(flag_wired henabled p).2, (flag_wired henabled q).2, hp, hq]

/-- A wiring that takes the flag away in the night. -/
theorem transitions_wired_dark (henabled : c.ircutEnabled = true) {wiring : Wiring}
    (hnight : wiring.night ≠ 0) (readings : List Reading) :
    transitions ops (c.wired wiring) (start ops (c.wired wiring)) readings =
      if (signs ops c ⟨0, c.gbGainRecordInit⟩ readings).any Sign.due then [.night] else [] := by
  have hflag : (c.wired wiring).flag .night = some false := by
    rw [(flag_wired henabled wiring).2]
    simp [hnight]
  rw [transitions_wired]
  exact transitions_of_dark _ _ _ hflag rfl

/-- Of two wirings with different flags in the night only one comes back to the day. -/
theorem transitions_wired_eq_iff (henabled : c.ircutEnabled = true) {bright dark : Wiring}
    (hbright : bright.night = 0) (hdark : dark.night ≠ 0) (readings : List Reading) :
    transitions ops (c.wired bright) (start ops (c.wired bright)) readings =
        transitions ops (c.wired dark) (start ops (c.wired dark)) readings ↔
      returns ops c readings = false := by
  have hday : bright.day ≠ 0 := fun hzero => bright.differ (hzero.trans hbright.symm)
  obtain ⟨hflagDay, hflagNight⟩ := flag_wired (c := c) henabled bright
  rw [beq_false_of_ne hday] at hflagDay
  rw [hbright, beq_self_eq_true] at hflagNight
  obtain ⟨hnone, hsome⟩ := transitions_of_bright c.dayCountThreshold _
    (signs ops c ⟨0, c.gbGainRecordInit⟩ readings) hflagNight
  rw [transitions_wired_dark henabled hdark, transitions_wired, hflagDay]
  constructor
  · intro heq
    cases hreturns : returns ops c readings with
    | false => rfl
    | true =>
      have hmem := hsome hreturns
      rw [Option.getD_some] at heq
      rw [heq] at hmem
      by_cases hany : (signs ops c ⟨0, c.gbGainRecordInit⟩ readings).any Sign.due = true
      · rw [if_pos hany] at hmem
        exact absurd (List.mem_singleton.mp hmem) (by decide)
      · rw [if_neg hany] at hmem
        exact absurd hmem List.not_mem_nil
  · exact hnone

end Wirings

/-- Two wirings make the same switches if and only if the filter is not controlled, the flag is the
same in the night, or the readings never bring the day back. -/
theorem transitions_eq_iff {F : Type} (ops : FloatOps F) (c : Config F) (p q : Wiring)
    (readings : List Reading) :
    transitions ops (c.wired p) (start ops (c.wired p)) readings =
        transitions ops (c.wired q) (start ops (c.wired q)) readings ↔
      c.ircutEnabled = false ∨ (p.night = 0 ↔ q.night = 0) ∨ returns ops c readings = false := by
  cases henabled : c.ircutEnabled with
  | false =>
    refine iff_of_true ?_ (.inl rfl)
    have hflag : ∀ wiring : Wiring, (c.wired wiring).flag = fun _ => none := fun wiring =>
      funext fun mode => if_neg (by simp [Config.wired, henabled])
    rw [transitions_wired, transitions_wired, hflag, hflag]
  | true =>
    by_cases hp : p.night = 0
    · by_cases hq : q.night = 0
      · rw [transitions_wired, transitions_wired, flag_eq_of_night henabled hp hq]
        simp [hp, hq]
      · rw [transitions_wired_eq_iff henabled hp hq]
        simp [hp, hq]
    · by_cases hq : q.night = 0
      · rw [eq_comm, transitions_wired_eq_iff henabled hq hp]
        simp [hp, hq]
      · rw [transitions_wired_dark henabled hp, transitions_wired_dark henabled hq]
        simp [hp, hq]

/-- Numbers without a fraction, which `float` holds exactly up to `2 ^ 24`. -/
def wholeOps : FloatOps ℤ where
  ofNat n := n
  ofInt i := i.toInt
  toInt x := .ofInt x
  add x y := x + y
  lt x y := decide (x < y)

/-- The defaults of the configuration. -/
def defaultConfig : Config ℤ where
  nightIsoThreshold := 1900000
  nightCountThreshold := 5
  dayIsoThreshold := 479832
  dayGbGainOffset := 15
  dayGbGainThreshold := 145
  dayIsoSecondaryThreshold := 361880
  dayCountThreshold := 3
  ircutEnabled := true
  ircutDayState := 1
  ircutNightState := 0
  gbGainRecordInit := 200
  grGainRecordInit := 200

/-- The same exposure and gain for blue, in all samples. -/
def steady (ev : UInt32) (gain : UInt16) : Reading where
  ev := some ev
  wb := some (100, gain)
  samples _ := (100, gain)

/-- Six readings of the night and four of the day: there is no way back with the other wiring. -/
theorem not_transitions_eq_swapped :
    ¬∀ (ops : FloatOps ℤ) (c : Config ℤ) (p q : Wiring) (readings : List Reading),
      transitions ops (c.wired p) (start ops (c.wired p)) readings =
        transitions ops (c.wired q) (start ops (c.wired q)) readings := by
  intro h
  have heq := h wholeOps defaultConfig ⟨1, 0, by decide⟩ ⟨0, 1, by decide⟩
    (List.replicate 6 (steady 2000000 100) ++ List.replicate 4 (steady 100 120))
  exact absurd heq (by decide +kernel)

end Photosensing
