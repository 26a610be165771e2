import Mathlib.Algebra.Group.Nat.Defs
import Strero.Lib.Pulses
import Strero.Motion.Configuration

/-!
# Motion events

Each result of the detector is processed at a time of the clock in seconds. An event starts when
there is motion in a zone, unless the last motion is too recent, and it ends with a result without
motion, when it has lasted for long enough. A script is told of both.
-/

namespace Motion

open CString Pulses

/-- What `clock_gettime(CLOCK_MONOTONIC)` writes, with the seconds as the unsigned long they are
copied to. -/
structure Timespec where
  sec : UInt32
  nsec : UInt32
  nsec_lt : nsec.toNat < 1000000000
deriving DecidableEq

/-- `get_monotonic_time_us`. -/
def getMonotonicTimeUs (ts : Timespec) : UInt64 :=
  ts.sec.toUInt64 * 1000000 + (ts.nsec / 1000).toUInt64

/-- `current_time` of `motion_process_result`. -/
def Timespec.seconds (ts : Timespec) : UInt32 := (getMonotonicTimeUs ts / 1000000).toUInt32

theorem toNat_getMonotonicTimeUs (ts : Timespec) :
    (getMonotonicTimeUs ts).toNat = ts.sec.toNat * 1000000 + ts.nsec.toNat / 1000 := by
  have hsec := ts.sec.toNat_lt
  have hnsec := ts.nsec_lt
  unfold getMonotonicTimeUs
  rw [UInt64.toNat_add, UInt64.toNat_mul, UInt32.toNat_toUInt64, UInt32.toNat_toUInt64,
    UInt32.toNat_div, show (1000000 : UInt64).toNat = 1000000 from rfl,
    show (1000 : UInt32).toNat = 1000 from rfl]
  omega

/-- The division gives back the seconds. -/
theorem Timespec.seconds_eq (ts : Timespec) : ts.seconds = ts.sec := by
  have hsec := ts.sec.toNat_lt
  have hnsec := ts.nsec_lt
  apply UInt32.toNat_inj.mp
  unfold seconds
  rw [UInt64.toNat_toUInt32, UInt64.toNat_div, toNat_getMonotonicTimeUs,
    show (1000000 : UInt64).toNat = 1000000 from rfl]
  omega

/-- What the module keeps of the motion that it has seen. -/
structure Detection where
  motionDetected : Bool
  motionStartScriptExecuted : Bool
  lastMotionTime : UInt32
  motionStartTime : UInt32
  motionEvents : UInt32
deriving DecidableEq

/-- The state that `motion_module_init` resets to. -/
def Detection.reset : Detection := ⟨false, false, 0, 0, 0⟩

/-- `retRoi` of an `IMP_IVS_MoveOutput`, of which the first `IMP_IVS_MOVE_MAX_ROI_CNT` are
there. -/
abbrev RetRoi := ℕ → Int32

/-- The first loop of `motion_process_result`, from some zone on. -/
def motionInAnyRoi (maxRoiCnt : ℕ) (retRoi : RetRoi) : List Zone → ℕ → Bool
  | [], _ => false
  | zone :: zones, roiIndex =>
    if maxRoiCnt ≤ roiIndex then false
    else if zone.type.bytes ≠ includeType then motionInAnyRoi maxRoiCnt retRoi zones roiIndex
    else if retRoi roiIndex = 1 then true
    else motionInAnyRoi maxRoiCnt retRoi zones (roiIndex + 1)

/-- The command that `motion_execute_script` has a shell execute. It fits into 512 bytes. -/
def command (scriptPath : FixedString 256) (action : List UInt8) : List UInt8 :=
  scriptPath.bytes ++ ascii " " ++ action

/-- `motion_execute_script`, as the commands that are executed. -/
def motionExecuteScript (scriptPath : FixedString 256) (action : List UInt8) : List (List UInt8) :=
  if scriptPath.bytes = [] then [] else [command scriptPath action]

/-- The actions of a script. -/
def startAction : List UInt8 := ascii "start"

def stopAction : List UInt8 := ascii "stop"

variable (maxRoiCnt : ℕ) (c : Config) (now : UInt32) (d : Detection)

/-- The cooldown period is not over. -/
def Detection.Cooling : Prop :=
  0 < d.lastMotionTime ∧ now - d.lastMotionTime < c.cooldownTime.toUInt32

instance : Decidable (d.Cooling c now) := inferInstanceAs (Decidable (_ ∧ _))

/-- A new motion event. -/
def Detection.newEvent : Detection :=
  { d with
    motionDetected := true
    motionStartScriptExecuted := false
    motionStartTime := now
    motionEvents := d.motionEvents + 1 }

/-- The branch of `motion_process_result` for motion, past the cooldown. -/
def Detection.move : Detection × List (List UInt8) :=
  let d := if d.motionDetected then d else d.newEvent now
  if !d.motionStartScriptExecuted ∧ c.scriptPath.bytes ≠ [] then
    ({ d with motionStartScriptExecuted := true, lastMotionTime := now },
      motionExecuteScript c.scriptPath startAction)
  else ({ d with lastMotionTime := now }, [])

/-- The branch of `motion_process_result` without motion. -/
def Detection.rest : Detection × List (List UInt8) :=
  if d.motionDetected ∧ c.minTime.toUInt32 ≤ now - d.motionStartTime then
    ({ d with motionDetected := false },
      if c.scriptPath.bytes ≠ [] then motionExecuteScript c.scriptPath stopAction else [])
  else (d, [])

/-- What `motion_process_result` is called with, and what the clock shows then. -/
structure Reading where
  clock : Timespec
  result : Option RetRoi

/-- `motion_process_result`, with the commands of the script. -/
def motionProcessResult (r : Reading) : Detection × List (List UInt8) :=
  match r.result with
  | none => (d, [])
  | some retRoi =>
    if motionInAnyRoi maxRoiCnt retRoi c.inUse 0 then
      if d.Cooling c r.clock.seconds then (d, []) else d.move c r.clock.seconds
    else d.rest c r.clock.seconds

/-! ### Runs -/

/-- The state, with when `motion_detected` has changed and what the script was called with. -/
structure Record where
  detection : Detection
  log : List Mark
  commands : List (List UInt8)

/-- Nothing has been processed yet. -/
def Record.empty : Record := ⟨.reset, [], []⟩

/-- How `motion_detected` has changed. -/
def change (before after : Bool) (time : ℕ) : List Mark :=
  if before = after then []
  else if after then [⟨.rise, time⟩]
  else [⟨.fall, time⟩]

/-- One result is processed. -/
def Record.process (record : Record) (r : Reading) : Record :=
  let next := motionProcessResult maxRoiCnt c record.detection r
  ⟨next.1, record.log ++ change record.detection.motionDetected next.1.motionDetected
    r.clock.seconds.toNat, record.commands ++ next.2⟩

/-- The call of the script that belongs to a change. -/
def markCommand (mark : Mark) : List UInt8 :=
  command c.scriptPath (if mark.edge = .rise then startAction else stopAction)

/-- The times of the configuration in seconds. -/
def Config.cooldown : ℕ := c.cooldownTime.toInt.toNat

def Config.minimum : ℕ := c.minTime.toInt.toNat

theorem toNat_toUInt32_of_nonneg {n : Int32} (h : 0 ≤ n.toInt) :
    n.toUInt32.toNat = n.toInt.toNat :=
  Int32.toNat_toUInt32_of_le (Int32.le_iff_toInt_le.mpr h)

theorem motionExecuteScript_of_ne_nil {scriptPath : FixedString 256} {action : List UInt8}
    (h : scriptPath.bytes ≠ []) :
    motionExecuteScript scriptPath action = [command scriptPath action] := if_neg h

/-- The log up to some time explains the state. The line of the log is `motion_detected`. -/
structure Explains (seen : ℕ) (record : Record) : Prop where
  regular : Regular c.cooldown c.minimum record.log
  low : record.detection.motionDetected = false → Low record.log
  high : record.detection.motionDetected = true →
    record.log.getLast? = some ⟨.rise, record.detection.motionStartTime.toNat⟩
  scripted : record.detection.motionDetected = true → c.scriptPath.bytes ≠ [] →
    record.detection.motionStartScriptExecuted = true
  rises_pos : ∀ t ∈ rises record.log, 0 < t
  rises_le : ∀ t ∈ rises record.log, t ≤ record.detection.lastMotionTime.toNat
  last_le : record.detection.lastMotionTime.toNat ≤ seen
  counted : record.detection.motionEvents = UInt32.ofNat (rises record.log).length
  told : c.scriptPath.bytes ≠ [] → record.commands = record.log.map (markCommand c)

variable {maxRoiCnt c now d} {seen : ℕ} {record : Record}

theorem explains_empty : Explains c 0 .empty where
  regular := regular_nil
  low _ := low_nil
  high := by simp [Record.empty, Detection.reset]
  scripted := by simp [Record.empty, Detection.reset]
  rises_pos := by simp [Record.empty, rises]
  rises_le := by simp [Record.empty, rises]
  last_le := by simp [Record.empty, Detection.reset]
  counted := rfl
  told _ := rfl

theorem Explains.mono (h : Explains c seen record) {later : ℕ} (hlater : seen ≤ later) :
    Explains c later record :=
  { h with last_le := h.last_le.trans hlater }

/-- The start of an event is in the log. -/
theorem Explains.start_le (h : Explains c seen record)
    (hdetected : record.detection.motionDetected = true) :
    record.detection.motionStartTime.toNat ≤ record.detection.lastMotionTime.toNat := by
  refine h.rises_le _ ?_
  have hlast := List.mem_of_getLast? (h.high hdetected)
  exact List.mem_filterMap.mpr ⟨_, hlast, by simp⟩

/-- Past the cooldown the last start is long enough ago. -/
theorem Explains.apart (h : Explains c seen record) (hcooldown : 0 ≤ c.cooldownTime.toInt)
    (hseen : seen ≤ now.toNat) (hnot : ¬record.detection.Cooling c now) {before : ℕ}
    (hbefore : before ∈ rises record.log) : before + c.cooldown ≤ now.toNat := by
  have hle := h.rises_le before hbefore
  have hpos := h.rises_pos before hbefore
  have hlast := h.last_le
  unfold Detection.Cooling at hnot
  rw [not_and, UInt32.lt_iff_toNat_lt, UInt32.lt_iff_toNat_lt, UInt32.toNat_zero,
    UInt32.toNat_sub_of_le _ _ (UInt32.le_iff_toNat_le.mpr (by omega)),
    toNat_toUInt32_of_nonneg hcooldown] at hnot
  have hover := hnot (by omega)
  unfold Config.cooldown
  omega

/-- Motion in the course of an event changes only the time of the last motion, as the script has
been told. -/
theorem Explains.move_on (h : Explains c seen record) (hseen : seen ≤ now.toNat)
    (hdetected : record.detection.motionDetected = true) :
    Explains c now.toNat ⟨(record.detection.move c now).1,
      record.log ++ change record.detection.motionDetected
        (record.detection.move c now).1.motionDetected now.toNat,
      record.commands ++ (record.detection.move c now).2⟩ := by
  have hlast := h.last_le
  have hmove : record.detection.move c now =
      ({ record.detection with lastMotionTime := now }, []) := by
    unfold Detection.move
    rw [if_pos hdetected, if_neg]
    rintro ⟨hnew, hpath⟩
    simp [h.scripted hdetected hpath] at hnew
  have hsame : change true true now.toNat = [] := rfl
  rw [hmove]
  dsimp only
  rw [hdetected, hsame, List.append_nil, List.append_nil]
  exact {
    regular := h.regular
    low := by simp
    high := fun _ => h.high hdetected
    scripted := fun _ => h.scripted hdetected
    rises_pos := h.rises_pos
    rises_le := fun t ht => ((h.rises_le t ht).trans hlast).trans hseen
    last_le := le_rfl
    counted := h.counted
    told := h.told }

/-- Motion past the cooldown starts an event. -/
theorem Explains.move_new (h : Explains c seen record) (hcooldown : 0 ≤ c.cooldownTime.toInt)
    (hseen : seen ≤ now.toNat) (hpos : 0 < now.toNat)
    (hnot : ¬record.detection.Cooling c now)
    (hdetected : record.detection.motionDetected = false) :
    Explains c now.toNat ⟨(record.detection.move c now).1,
      record.log ++ change record.detection.motionDetected
        (record.detection.move c now).1.motionDetected now.toNat,
      record.commands ++ (record.detection.move c now).2⟩ := by
  have hlast := h.last_le
  have hmove : record.detection.move c now =
      ({ record.detection.newEvent now with
          motionStartScriptExecuted := decide (c.scriptPath.bytes ≠ [])
          lastMotionTime := now },
        motionExecuteScript c.scriptPath startAction) := by
    unfold Detection.move motionExecuteScript
    rw [hdetected]
    by_cases hpath : c.scriptPath.bytes = [] <;> simp [hpath, Detection.newEvent]
  have hrise : change false true now.toNat = [⟨.rise, now.toNat⟩] := rfl
  rw [hmove]
  dsimp only [Detection.newEvent]
  rw [hdetected, hrise]
  have hapart : ∀ before ∈ rises record.log, before + c.cooldown ≤ now.toNat :=
    fun before hbefore => h.apart hcooldown hseen hnot hbefore
  exact {
    regular := h.regular.rise (h.low hdetected)
      fun before hbefore => hapart before (List.mem_of_getLast? hbefore)
    low := by simp
    high := by simp
    scripted := by simp
    rises_pos := by
      intro t ht
      rcases List.mem_append.mp (rises_append_rise ▸ ht) with hold | hnew
      · exact h.rises_pos t hold
      · rwa [List.mem_singleton.mp hnew]
    rises_le := by
      intro t ht
      rcases List.mem_append.mp (rises_append_rise ▸ ht) with hold | hnew
      · exact ((h.rises_le t hold).trans hlast).trans hseen
      · exact (List.mem_singleton.mp hnew).le
    last_le := le_rfl
    counted := by
      dsimp only
      rw [rises_append_rise, List.length_append, List.length_singleton, h.counted,
        UInt32.ofNat_add]
      rfl
    told := by
      intro hpath
      dsimp only
      rw [h.told hpath, motionExecuteScript_of_ne_nil hpath, List.map_append]
      rfl }

/-- Motion past the cooldown: an event starts, or the one that there is goes on. -/
theorem Explains.move (h : Explains c seen record) (hcooldown : 0 ≤ c.cooldownTime.toInt)
    (hseen : seen ≤ now.toNat) (hpos : 0 < now.toNat)
    (hnot : ¬record.detection.Cooling c now) :
    Explains c now.toNat ⟨(record.detection.move c now).1,
      record.log ++ change record.detection.motionDetected
        (record.detection.move c now).1.motionDetected now.toNat,
      record.commands ++ (record.detection.move c now).2⟩ := by
  cases hdetected : record.detection.motionDetected with
  | true => exact hdetected ▸ h.move_on hseen hdetected
  | false => exact hdetected ▸ h.move_new hcooldown hseen hpos hnot hdetected

/-- A result without motion: an event that has lasted for long enough ends. -/
theorem Explains.rest (h : Explains c seen record) (hmin : 0 ≤ c.minTime.toInt)
    (hseen : seen ≤ now.toNat) :
    Explains c now.toNat ⟨(record.detection.rest c now).1,
      record.log ++ change record.detection.motionDetected
        (record.detection.rest c now).1.motionDetected now.toNat,
      record.commands ++ (record.detection.rest c now).2⟩ := by
  by_cases hend : record.detection.motionDetected ∧
      c.minTime.toUInt32 ≤ now - record.detection.motionStartTime
  · obtain ⟨hdetected, hlong⟩ := hend
    have hstart := h.start_le hdetected
    have hlast := h.last_le
    rw [UInt32.le_iff_toNat_le, toNat_toUInt32_of_nonneg hmin,
      UInt32.toNat_sub_of_le _ _ (UInt32.le_iff_toNat_le.mpr (by omega))] at hlong
    have hfall : change true false now.toNat = [⟨.fall, now.toNat⟩] := rfl
    unfold Detection.rest
    rw [if_pos ⟨hdetected, by
      rwa [UInt32.le_iff_toNat_le, toNat_toUInt32_of_nonneg hmin,
        UInt32.toNat_sub_of_le _ _ (UInt32.le_iff_toNat_le.mpr (by omega))]⟩]
    dsimp only
    rw [hdetected, hfall]
    exact {
      regular := h.regular.fall (h.high hdetected) (by unfold Config.minimum; omega)
      low := fun _ => low_append_fall
      high := by simp
      scripted := by simp
      rises_pos := by rw [rises_append_fall]; exact h.rises_pos
      rises_le := by rw [rises_append_fall]; exact h.rises_le
      last_le := hlast.trans hseen
      counted := by rw [rises_append_fall]; exact h.counted
      told := by
        intro hpath
        dsimp only
        rw [if_pos hpath, h.told hpath, motionExecuteScript_of_ne_nil hpath, List.map_append]
        rfl }
  · unfold Detection.rest
    rw [if_neg hend]
    dsimp only
    have hsame : change record.detection.motionDetected record.detection.motionDetected
        now.toNat = [] := if_pos rfl
    rw [hsame, List.append_nil, List.append_nil]
    exact h.mono hseen

/-- One result takes the log on. -/
theorem Explains.process (h : Explains c seen record) (hcooldown : 0 ≤ c.cooldownTime.toInt)
    (hmin : 0 ≤ c.minTime.toInt) {r : Reading} (hseen : seen ≤ r.clock.sec.toNat)
    (hpos : 0 < r.clock.sec.toNat) :
    Explains c r.clock.sec.toNat (record.process maxRoiCnt c r) := by
  have hsame : ∀ detected, change detected detected r.clock.sec.toNat = [] :=
    fun detected => if_pos rfl
  have hunchanged : Explains c r.clock.sec.toNat ⟨record.detection, record.log ++ [],
      record.commands ++ []⟩ := by
    rw [List.append_nil, List.append_nil]
    exact h.mono hseen
  unfold Record.process motionProcessResult
  rw [Timespec.seconds_eq]
  cases r.result with
  | none =>
    dsimp only
    rw [hsame]
    exact hunchanged
  | some retRoi =>
    dsimp only
    by_cases hmotion : motionInAnyRoi maxRoiCnt retRoi c.inUse 0 = true
    · rw [if_pos hmotion]
      by_cases hcooling : record.detection.Cooling c r.clock.sec
      · rw [if_pos hcooling]
        dsimp only
        rw [hsame]
        exact hunchanged
      · rw [if_neg hcooling]
        exact h.move hcooldown hseen hpos hcooling
    · rw [if_neg hmotion]
      exact h.rest hmin hseen

/-- The results of a run are processed. -/
def run (maxRoiCnt : ℕ) (c : Config) (readings : List Reading) : Record :=
  readings.foldl (Record.process maxRoiCnt c) .empty

/-- The clock does not go back from some time on. -/
def ClockFrom (seen : ℕ) (readings : List Reading) : Prop :=
  (seen :: readings.map fun r => r.clock.sec.toNat).IsChain (· ≤ ·)

theorem Explains.processAll (maxRoiCnt : ℕ) (h : Explains c seen record)
    (hcooldown : 0 ≤ c.cooldownTime.toInt) (hmin : 0 ≤ c.minTime.toInt)
    {readings : List Reading} (hclock : ClockFrom seen readings)
    (hpos : ∀ r ∈ readings, 0 < r.clock.sec.toNat) :
    ∃ last, Explains c last (readings.foldl (Record.process maxRoiCnt c) record) := by
  induction readings generalizing seen record with
  | nil => exact ⟨seen, h⟩
  | cons r readings ih =>
    obtain ⟨hseen, hrest⟩ := List.isChain_cons_cons.mp hclock
    obtain ⟨hr, hlater⟩ := List.forall_mem_cons.mp hpos
    exact ih (h.process hcooldown hmin hseen hr) hrest hlater

/-- The seconds of the clock are the microseconds without the rest. -/
theorem sec_eq_div (ts : Timespec) :
    ts.sec.toNat = (getMonotonicTimeUs ts).toNat / 1000000 := by
  have hnsec := ts.nsec_lt
  rw [toNat_getMonotonicTimeUs]
  omega

theorem clockFrom_zero {readings : List Reading}
    (hclock : (readings.map fun r => getMonotonicTimeUs r.clock).IsChain (· ≤ ·)) :
    ClockFrom 0 readings := by
  refine List.IsChain.cons ?_ fun y _ => Nat.zero_le y
  rw [List.isChain_map] at hclock ⊢
  refine hclock.imp fun a b hab => ?_
  rw [sec_eq_div, sec_eq_div]
  exact Nat.div_le_div_right (UInt64.le_iff_toNat_le.mp hab)

theorem sec_pos {ts : Timespec} (h : 1000000 ≤ getMonotonicTimeUs ts) : 0 < ts.sec.toNat := by
  have hus := UInt64.le_iff_toNat_le.mp h
  rw [show (1000000 : UInt64).toNat = 1000000 from rfl] at hus
  rw [sec_eq_div]
  omega

/-- Starts that are at least a second apart can be counted. -/
theorem Explains.rises_length_lt (h : Explains c seen record) (hcooldown : 0 < c.cooldown) :
    (rises record.log).length < 2 ^ 32 := by
  cases hend : (rises record.log).getLast? with
  | none =>
    rw [List.getLast?_eq_none_iff.mp hend]
    decide
  | some t =>
    have hlength := length_le_of_apart hcooldown h.rises_pos h.regular.rises_apart t hend
    have hlast := h.rises_le t (List.mem_of_getLast? hend)
    have hlt := record.detection.lastMotionTime.toNat_lt
    omega

/-- One second after the start of the clock. -/
def firstSecond : Timespec := ⟨1, 0, by decide⟩

/-- A result with motion. -/
def motionReading : Reading := ⟨firstSecond, some fun _ => 1⟩

/-- The whole frame is monitored, without a cooldown and without a minimum time. -/
def nervousConfig : Config := { Config.defaults with cooldownTime := 0, minTime := 0 }

/-- A result without motion. -/
def quietReading : Reading := ⟨firstSecond, some fun _ => 0⟩

/-- Motion comes and goes. -/
def flicker (n : ℕ) : List Reading := (List.replicate n [motionReading, quietReading]).flatten

theorem forall_mem_flicker {P : Reading → Prop} (hmotion : P motionReading)
    (hquiet : P quietReading)
    (n : ℕ) : ∀ r ∈ flicker n, P r := by
  intro r hr
  obtain ⟨pair, hpair, hmem⟩ := List.mem_flatten.mp hr
  rw [(List.mem_replicate.mp hpair).2] at hmem
  rcases List.mem_pair.mp hmem with rfl | rfl
  · exact hmotion
  · exact hquiet

theorem motionInAnyRoi_motion : motionInAnyRoi 4 (fun _ => 1) nervousConfig.inUse 0 = true := by
  decide +kernel

theorem motionInAnyRoi_quiet : motionInAnyRoi 4 (fun _ => 0) nervousConfig.inUse 0 = false := by
  decide +kernel

/-- Without a cooldown the module is never cooling down. -/
theorem not_cooling (now : UInt32) (d : Detection) : ¬d.Cooling nervousConfig now :=
  fun h => absurd (UInt32.lt_iff_toNat_lt.mp h.2) (Nat.not_lt_zero _)

theorem motionProcessResult_motion {d : Detection} (hlow : d.motionDetected = false) :
    (motionProcessResult 4 nervousConfig d motionReading).1 =
      ⟨true, true, 1, 1, d.motionEvents + 1⟩ := by
  have hpath : nervousConfig.scriptPath.bytes ≠ [] := by decide +kernel
  have hnow : firstSecond.seconds = 1 := Timespec.seconds_eq _
  unfold motionProcessResult Detection.move motionReading
  dsimp only
  rw [if_pos motionInAnyRoi_motion, if_neg (not_cooling _ _), hnow, hlow]
  simp [Detection.newEvent, hpath]

theorem motionProcessResult_quiet (events : UInt32) :
    (motionProcessResult 4 nervousConfig ⟨true, true, 1, 1, events⟩ quietReading).1 =
      ⟨false, true, 1, 1, events⟩ := by
  have hnow : firstSecond.seconds = 1 := Timespec.seconds_eq _
  unfold motionProcessResult Detection.rest quietReading
  dsimp only
  rw [motionInAnyRoi_quiet, hnow, if_neg (by decide), if_pos ⟨rfl, by decide⟩]

/-- One event starts and ends with each pair of results. -/
theorem flicker_step {record : Record} (hlow : record.detection.motionDetected = false) :
    let next := [motionReading, quietReading].foldl (Record.process 4 nervousConfig) record
    next.detection.motionDetected = false ∧
      next.detection.motionEvents = record.detection.motionEvents + 1 ∧
      (rises next.log).length = (rises record.log).length + 1 := by
  have hmotion := motionProcessResult_motion hlow
  have hquiet := motionProcessResult_quiet (record.detection.motionEvents + 1)
  have hrise : change false true firstSecond.seconds.toNat =
      [⟨.rise, firstSecond.seconds.toNat⟩] := rfl
  have hfall : change true false firstSecond.seconds.toNat =
      [⟨.fall, firstSecond.seconds.toNat⟩] := rfl
  dsimp only [List.foldl, Record.process]
  rw [hmotion, hquiet, hlow]
  dsimp only [motionReading, quietReading]
  rw [hrise, hfall, rises_append_fall, rises_append_rise, List.length_append]
  exact ⟨rfl, rfl, rfl⟩

theorem run_flicker (n : ℕ) :
    (run 4 nervousConfig (flicker n)).detection.motionDetected = false ∧
      (run 4 nervousConfig (flicker n)).detection.motionEvents = UInt32.ofNat n ∧
      (rises (run 4 nervousConfig (flicker n)).log).length = n := by
  induction n with
  | zero => exact ⟨rfl, rfl, rfl⟩
  | succ n ih =>
    obtain ⟨hlow, hevents, hlength⟩ := ih
    have hlast : run 4 nervousConfig (flicker (n + 1)) =
        [motionReading, quietReading].foldl (Record.process 4 nervousConfig)
          (run 4 nervousConfig (flicker n)) := by
      unfold run flicker
      rw [List.replicate_succ', List.flatten_append, List.foldl_append, List.flatten_singleton]
    obtain ⟨hlow', hevents', hlength'⟩ := flicker_step hlow
    rw [hlast]
    refine ⟨hlow', ?_, by omega⟩
    rw [hevents', hevents, UInt32.ofNat_add]
    rfl

end Motion
