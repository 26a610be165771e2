import Mathlib.Algebra.Group.Nat.Defs
import Strero.Lib.Hexadecimal
import Strero.Lib.WrappedDivision

/-!
# The processor time of the process

`metrics_get_process_metrics` reads the ticks that the process has run from `/proc/self/stat` and
divides what they have advanced since its last call by the time since then. An `unsigned long` of
the target has 32 bits, and so have the products that it divides.
-/

namespace Metrics

open CString Scanf WrappedDivision

/-- The lines that `fgets` reads, one after another, into an array of `size` bytes. The first
argument is what it has read of the next one. -/
def fgetsLines (size : ℕ) : List UInt8 → List UInt8 → List (List UInt8)
  | line, [] => if line = [] then [] else [line]
  | line, c :: rest =>
    if c = 10 ∨ line.length + 2 = size then (line ++ [c]) :: fgetsLines size [] rest
    else fgetsLines size (line ++ [c]) rest

/-- The tokens of `strtok` with a blank between them. -/
def tokens (line : List UInt8) : List (List UInt8) := (line.splitOn 32).filter (· ≠ [])

/-- `strtoul(text, NULL, 10)`: the largest value for a number that is too large, and the negative
of a number modulo `2 ^ 32`. -/
def strtoul (text : List UInt8) : UInt32 :=
  let (negative, unsigned) := sign (text.dropWhile isSpace)
  let n := (decimal (unsigned.takeWhile isDigit)).toNat
  if 2 ^ 32 ≤ n then 0xFFFFFFFF else if negative then -UInt32.ofNat n else UInt32.ofNat n

/-- `process_metrics_t`. -/
structure ProcessMetrics where
  memoryUsageKb : Int32
  cpuUsagePercent : Int32
  threadCount : Int32
  timestamp : UInt32
  deriving DecidableEq, Repr

/-- `cpu_state` of the metrics module. -/
structure CpuState where
  lastUtime : UInt32 := 0
  lastStime : UInt32 := 0
  lastTimeUs : UInt32 := 0
  initialized : Bool := false
  deriving DecidableEq, Repr

/-- The resident memory and the number of threads: the number behind each label, in the last line
with the label. -/
def statusFields (status : List UInt8) : Int32 × Int32 :=
  (fgetsLines 256 [] status).foldl
    (fun fields line =>
      if ascii "VmRSS:" <+: cString line then
        match (do literal "VmRSS:"; space; int : Scanner ℤ).scan (cString line) with
        | some n => (.ofInt n, fields.2)
        | none => fields
      else if ascii "Threads:" <+: cString line then
        match (do literal "Threads:"; space; int : Scanner ℤ).scan (cString line) with
        | some n => (fields.1, .ofInt n)
        | none => fields
      else fields)
    (0, 0)

/-- `utime` and `stime` of the first line, 0 where there are not enough fields. -/
def statFields (stat : List UInt8) : UInt32 × UInt32 :=
  match fgetsLines 256 [] stat with
  | [] => (0, 0)
  | line :: _ =>
    match ((tokens (cString line)).take 20).drop 13 with
    | utime :: stime :: _ => (strtoul utime, strtoul stime)
    | _ => (0, 0)

/-- The percentage, 0 in the first call and without time since the last one. It has no result
where the divisor is 0: the division stops the process. -/
def cpuPercent (clockTicksPerSec : Int32) (s : CpuState) (utime stime currentTimeUs : UInt32) :
    Option Int32 :=
  if s.initialized then
    let totalTime := (utime + stime) - (s.lastUtime + s.lastStime)
    let elapsedUs := currentTimeUs - s.lastTimeUs
    if elapsedUs > 0 then
      let divisor := clockTicksPerSec.toUInt32 * elapsedUs
      if divisor = 0 then none else some (totalTime * 100 * 1000000 / divisor).toInt32
    else some 0
  else some 0

/-- `metrics_get_process_metrics`, with the texts of the two files, `none` for one that does not
open, and the time of the monotonic clock. It fails without metrics, and has no result where the
process is stopped. -/
def metricsGetProcessMetrics (clockTicksPerSec : Int32) (s : CpuState)
    (status stat : Option (List UInt8)) (time : UInt64) :
    Option (CpuState × Option ProcessMetrics) :=
  match status, stat with
  | some status, some stat =>
    let (rssKb, threadCount) := statusFields status
    let (utime, stime) := statFields stat
    let currentTimeUs := time.toUInt32
    (cpuPercent clockTicksPerSec s utime stime currentTimeUs).map fun percent =>
      ({ lastUtime := utime, lastStime := stime, lastTimeUs := currentTimeUs, initialized := true },
        some { memoryUsageKb := rssKb, cpuUsagePercent := percent, threadCount := threadCount,
               timestamp := currentTimeUs })
  | _, _ => some (s, none)

/-- The percentage is there, and it is the quotient without overflow. -/
def PercentExact (result : Option (CpuState × Option ProcessMetrics)) (ticks elapsed : ℕ) : Prop :=
  ∃ s metrics, result = some (s, some metrics) ∧
    metrics.cpuUsagePercent.toInt = (ticks * 100 * 1000000 / (100 * elapsed) : ℕ)

/-- The second sample is taken `elapsed` microseconds after the first one, and the ticks have
advanced by `ticks`. -/
structure Successive (stat stat' : List UInt8) (time time' : UInt64) (ticks elapsed : ℕ) :
    Prop where
  advance : (statFields stat').1 + (statFields stat').2 =
    (statFields stat).1 + (statFields stat).2 + UInt32.ofNat ticks
  later : time'.toNat = time.toNat + elapsed

/-- The words hold enough for the quotient: up to `2 ^ 32 / 100` microseconds there are no more
than 42 ticks, and after that the remainder makes up for the overflow. -/
def Fits (ticks elapsed : ℕ) : Prop :=
  if elapsed ≤ 42949672 then ticks ≤ 42
  else Survives (2 ^ 32) (ticks * 100 * 1000000) (100 * elapsed)

instance (ticks elapsed : ℕ) : Decidable (Fits ticks elapsed) := by
  unfold Fits
  infer_instance

section Percentage

variable {ticks elapsed : ℕ}

theorem fits_iff_survives (helapsed : 1 ≤ elapsed) :
    Fits ticks elapsed ↔ Survives (2 ^ 32) (ticks * 100 * 1000000) (100 * elapsed) := by
  unfold Fits
  by_cases hshort : elapsed ≤ 42949672
  · rw [if_pos hshort, survives_iff_of_lt (by omega) (by omega)]
    omega
  · rw [if_neg hshort]

/-- Four processors have no more than 400 percent. -/
theorem percent_le (helapsed : 1 ≤ elapsed) (hticks : ticks * 10000 ≤ 4 * elapsed) :
    ticks * 100 * 1000000 / (100 * elapsed) ≤ 400 := by
  have hproduct : ticks * 100 * 1000000 ≤ 400 * (100 * elapsed) := by
    calc ticks * 100 * 1000000 = ticks * 10000 * 10000 := by rw [Nat.mul_assoc, Nat.mul_assoc]
      _ ≤ 4 * elapsed * 10000 := Nat.mul_le_mul_right 10000 hticks
      _ = 400 * (100 * elapsed) := by omega
  calc ticks * 100 * 1000000 / (100 * elapsed) ≤ 400 * (100 * elapsed) / (100 * elapsed) :=
        Nat.div_le_div_right hproduct
    _ = 400 := Nat.mul_div_cancel _ (by omega)

/-- A word is an `int` of a small value if and only if it has that value. -/
theorem toInt_toInt32_eq_iff (word : UInt32) {n : ℕ} (hn : n ≤ 400) :
    word.toInt32.toInt = (n : ℤ) ↔ word.toNat = n := by
  have hword := word.toNat_lt
  have hint : word.toInt32.toInt = (word.toNat : ℤ).bmod (2 ^ 32) := by
    have hofNat : (Int32.ofNat word.toNat).toInt = (word.toNat : ℤ).bmod (2 ^ 32) :=
      Int32.toInt_ofNat'
    rwa [← UInt32.toInt32_ofNat', UInt32.ofNat_toNat] at hofNat
  rw [hint]
  rcases Nat.lt_or_ge word.toNat (2 ^ 31) with hsmall | hlarge
  · rw [Int.bmod_eq_of_le (by omega) (by omega)]
    omega
  · rw [Int.bmod_def]
    omega

variable {s : CpuState} {utime stime now : UInt32}

/-- The two products, as the words hold them. -/
theorem cpuPercent_eq (hinitialized : s.initialized = true) (helapsed : 1 ≤ elapsed)
    (hlt : elapsed < 2 ^ 32) (hnow : now = s.lastTimeUs + UInt32.ofNat elapsed)
    (hadvance : utime + stime = s.lastUtime + s.lastStime + UInt32.ofNat ticks) :
    cpuPercent 100 s utime stime now =
      if 100 * elapsed % 2 ^ 32 = 0 then none
      else some (UInt32.ofNat (ticks * 100 * 1000000 % 2 ^ 32 /
        (100 * elapsed % 2 ^ 32))).toInt32 := by
  have htotal : utime + stime - (s.lastUtime + s.lastStime) = UInt32.ofNat ticks := by
    rw [hadvance, UInt32.add_comm, UInt32.add_sub_cancel]
  have htime : now - s.lastTimeUs = UInt32.ofNat elapsed := by
    rw [hnow, UInt32.add_comm, UInt32.add_sub_cancel]
  have hpos : UInt32.ofNat elapsed > 0 := by
    rw [gt_iff_lt, UInt32.lt_iff_toNat_lt, UInt32.toNat_ofNat', Nat.mod_eq_of_lt hlt]
    exact helapsed
  have hdivisor : (100 : Int32).toUInt32 * UInt32.ofNat elapsed =
      UInt32.ofNat (100 * elapsed) := by
    rw [UInt32.ofNat_mul]
    rfl
  have hproduct : UInt32.ofNat ticks * 100 * 1000000 = UInt32.ofNat (ticks * 100 * 1000000) := by
    rw [UInt32.ofNat_mul, UInt32.ofNat_mul]
    rfl
  have hzero : UInt32.ofNat (100 * elapsed) = 0 ↔ 100 * elapsed % 2 ^ 32 = 0 := by
    rw [← UInt32.toNat_inj, UInt32.toNat_ofNat']
    rfl
  have hquotient : UInt32.ofNat (ticks * 100 * 1000000) / UInt32.ofNat (100 * elapsed) =
      UInt32.ofNat (ticks * 100 * 1000000 % 2 ^ 32 / (100 * elapsed % 2 ^ 32)) := by
    have hword : ticks * 100 * 1000000 % 2 ^ 32 / (100 * elapsed % 2 ^ 32) < 2 ^ 32 :=
      Nat.lt_of_le_of_lt (Nat.div_le_self _ _) (Nat.mod_lt _ (by decide))
    rw [← UInt32.toNat_inj, UInt32.toNat_div, UInt32.toNat_ofNat', UInt32.toNat_ofNat',
      UInt32.toNat_ofNat', Nat.mod_eq_of_lt hword]
  unfold cpuPercent
  dsimp only
  rw [if_pos hinitialized, htotal, htime, if_pos hpos, hdivisor, hproduct, hquotient]
  by_cases hnone : 100 * elapsed % 2 ^ 32 = 0
  · rw [if_pos hnone, if_pos (hzero.mpr hnone)]
  · rw [if_neg hnone, if_neg (mt hzero.mp hnone)]

/-- The process is stopped if and only if the time is a multiple of `2 ^ 30` microseconds. -/
theorem cpuPercent_eq_none_iff (hinitialized : s.initialized = true) (helapsed : 1 ≤ elapsed)
    (hlt : elapsed < 2 ^ 32) (hnow : now = s.lastTimeUs + UInt32.ofNat elapsed)
    (hadvance : utime + stime = s.lastUtime + s.lastStime + UInt32.ofNat ticks) :
    cpuPercent 100 s utime stime now = none ↔ elapsed % 2 ^ 30 = 0 := by
  rw [cpuPercent_eq hinitialized helapsed hlt hnow hadvance]
  by_cases hnone : 100 * elapsed % 2 ^ 32 = 0
  · rw [if_pos hnone]
    exact iff_of_true rfl (by omega)
  · rw [if_neg hnone]
    exact iff_of_false (Option.some_ne_none _) (by omega)

/-- The percentage is the quotient without overflow if and only if the words hold enough of the
products. -/
theorem cpuPercent_exact_iff (hinitialized : s.initialized = true) (helapsed : 1 ≤ elapsed)
    (hlt : elapsed < 2 ^ 32) (hticks : ticks * 10000 ≤ 4 * elapsed)
    (hnow : now = s.lastTimeUs + UInt32.ofNat elapsed)
    (hadvance : utime + stime = s.lastUtime + s.lastStime + UInt32.ofNat ticks) :
    (∃ percent, cpuPercent 100 s utime stime now = some percent ∧
      percent.toInt = (ticks * 100 * 1000000 / (100 * elapsed) : ℕ)) ↔ Fits ticks elapsed := by
  rw [fits_iff_survives helapsed, ← mod_div_mod_eq_iff (by decide),
    cpuPercent_eq hinitialized helapsed hlt hnow hadvance]
  by_cases hnone : 100 * elapsed % 2 ^ 32 = 0
  · rw [if_pos hnone]
    refine iff_of_false ?_ fun h => h.1 hnone
    rintro ⟨_, hpercent, -⟩
    exact absurd hpercent.symm (Option.some_ne_none _)
  · have hword : ticks * 100 * 1000000 % 2 ^ 32 / (100 * elapsed % 2 ^ 32) < 2 ^ 32 :=
      Nat.lt_of_le_of_lt (Nat.div_le_self _ _) (Nat.mod_lt _ (by decide))
    have hvalue := toInt_toInt32_eq_iff
      (UInt32.ofNat (ticks * 100 * 1000000 % 2 ^ 32 / (100 * elapsed % 2 ^ 32)))
      (percent_le helapsed hticks)
    rw [UInt32.toNat_ofNat', Nat.mod_eq_of_lt hword] at hvalue
    rw [if_neg hnone]
    constructor
    · rintro ⟨_, hpercent, hquotient⟩
      obtain rfl := Option.some.inj hpercent
      exact ⟨hnone, hvalue.mp hquotient⟩
    · rintro ⟨-, hquotient⟩
      exact ⟨_, rfl, hvalue.mpr hquotient⟩

end Percentage

/-! ### Two calls, one after the other -/

section Calls

variable {clockTicks : Int32} {s s' : CpuState} {stat stat' : List UInt8}
  {time time' : UInt64} {ticks elapsed : ℕ}

/-- A call that succeeds records its sample. -/
theorem metricsGetProcessMetrics_state {status : Option (List UInt8)} {metrics : ProcessMetrics}
    (h : metricsGetProcessMetrics clockTicks s status (some stat) time = some (s', some metrics)) :
    s' = { lastUtime := (statFields stat).1, lastStime := (statFields stat).2,
           lastTimeUs := time.toUInt32, initialized := true } := by
  cases status with
  | none => exact absurd h (by simp [metricsGetProcessMetrics])
  | some status =>
    obtain ⟨_, -, hresult⟩ := Option.map_eq_some_iff.mp h
    exact (congrArg Prod.fst hresult).symm

/-- What a call publishes is the percentage of its sample. -/
theorem percentExact_iff (status : List UInt8) :
    PercentExact (metricsGetProcessMetrics clockTicks s (some status) (some stat) time)
        ticks elapsed ↔
      ∃ percent,
        cpuPercent clockTicks s (statFields stat).1 (statFields stat).2 time.toUInt32 =
          some percent ∧
        percent.toInt = (ticks * 100 * 1000000 / (100 * elapsed) : ℕ) := by
  constructor
  · rintro ⟨_, metrics, hcall, hexact⟩
    obtain ⟨percent, hpercent, hresult⟩ := Option.map_eq_some_iff.mp hcall
    have hmetrics := Option.some.inj (congrArg Prod.snd hresult)
    exact ⟨percent, hpercent, by rw [← hexact, ← hmetrics]⟩
  · rintro ⟨percent, hpercent, hexact⟩
    exact ⟨_, _, Option.map_eq_some_iff.mpr ⟨percent, hpercent, rfl⟩, hexact⟩

/-- The low words of the clock differ by the time that has gone by. -/
theorem Successive.toUInt32_eq (h : Successive stat stat' time time' ticks elapsed) :
    time'.toUInt32 = time.toUInt32 + UInt32.ofNat elapsed := by
  rw [← UInt32.toNat_inj, UInt32.toNat_add, UInt64.toNat_toUInt32, UInt64.toNat_toUInt32,
    UInt32.toNat_ofNat', h.later]
  omega

end Calls

/-- Of two calls, with up to four processors running for up to an hour between them, the second
one publishes the percentage of that time if and only if the words hold enough of the products. -/
theorem metricsGetProcessMetrics_percentExact_iff {s s' : CpuState} {metrics : ProcessMetrics}
    {status status' stat stat' : List UInt8} {time time' : UInt64} {ticks elapsed : ℕ}
    (hfirst : metricsGetProcessMetrics 100 s (some status) (some stat) time =
      some (s', some metrics))
    (hsamples : Successive stat stat' time time' ticks elapsed)
    (helapsed : 1 ≤ elapsed) (hhour : elapsed ≤ 3600000000)
    (hticks : ticks * 10000 ≤ 4 * elapsed) :
    PercentExact (metricsGetProcessMetrics 100 s' (some status') (some stat') time')
      ticks elapsed ↔ Fits ticks elapsed := by
  rw [percentExact_iff, metricsGetProcessMetrics_state hfirst]
  exact cpuPercent_exact_iff rfl helapsed (by omega) hticks hsamples.toUInt32_eq
    hsamples.advance

/-- One processor is busy for 400 of 1000 milliseconds. -/
theorem metricsGetProcessMetrics_percentExact_busy :
    PercentExact (metricsGetProcessMetrics 100 ⟨100, 50, 5000000, true⟩
      (some (ascii "VmRSS:    5000 kB\nThreads:\t14\n"))
      (some (ascii "733 (strero) S 1 733 733 0 -1 0 9 0 2 0 130 60 0 0 20 0"))
      6000000) 40 1000000 :=
  (@metricsGetProcessMetrics_percentExact_iff {} ⟨100, 50, 5000000, true⟩ ⟨5000, 0, 14, 5000000⟩
    (ascii "VmRSS:    5000 kB\nThreads:\t14\n")
    (ascii "VmRSS:    5000 kB\nThreads:\t14\n")
    (ascii "733 (strero) S 1 733 733 0 -1 0 9 0 2 0 100 50 0 0 20 0")
    (ascii "733 (strero) S 1 733 733 0 -1 0 9 0 2 0 130 60 0 0 20 0") 5000000 6000000 40 1000000
    (by decide +kernel) ⟨by decide +kernel, by decide +kernel⟩ (by decide) (by decide)
    (by decide)).mpr (by decide)

/-- With 43 ticks in a second the first product overflows, and the percentage is 0. -/
theorem not_metricsGetProcessMetrics_percentExact_overflow :
    ¬∀ (s s' : CpuState) (metrics : ProcessMetrics) (status status' stat stat' : List UInt8)
      (time time' : UInt64) (ticks elapsed : ℕ),
      metricsGetProcessMetrics 100 s (some status) (some stat) time = some (s', some metrics) →
      Successive stat stat' time time' ticks elapsed → 1 ≤ elapsed → elapsed ≤ 3600000000 →
      ticks * 10000 ≤ 4 * elapsed →
        PercentExact (metricsGetProcessMetrics 100 s' (some status') (some stat') time')
          ticks elapsed := by
  intro h
  obtain ⟨_, metrics, hcall, hexact⟩ := h {} ⟨100, 50, 5000000, true⟩ ⟨0, 0, 0, 5000000⟩ [] []
    (ascii "733 (strero) S 1 733 733 0 -1 0 9 0 2 0 100 50 0 0 20 0")
    (ascii "733 (strero) S 1 733 733 0 -1 0 9 0 2 0 130 63 0 0 20 0") 5000000 6000000 43 1000000
    (by decide +kernel) ⟨by decide +kernel, by decide +kernel⟩ (by decide) (by decide) (by decide)
  have hzero : metricsGetProcessMetrics 100 ⟨100, 50, 5000000, true⟩ (some [])
      (some (ascii "733 (strero) S 1 733 733 0 -1 0 9 0 2 0 130 63 0 0 20 0")) 6000000 =
      some (⟨130, 63, 6000000, true⟩, some ⟨0, 0, 0, 6000000⟩) := by decide +kernel
  rw [hzero] at hcall
  have hmetrics := Option.some.inj (congrArg Prod.snd (Option.some.inj hcall))
  rw [← hmetrics] at hexact
  exact absurd hexact (by decide)

end Metrics
