import Mathlib.Logic.Function.Basic
import Mathlib.Algebra.GroupWithZero.Nat
import Mathlib.Data.List.Induction
import Strero.Lib.Averages

/-!
# Statistics of the streams

`metrics_update_stream_frame` counts each frame and adds its size to a total, which nothing takes
back. The average of the sizes is published about once a second, and by each round of the
collection thread. An `unsigned long` of the target has 32 bits. Calls for a channel take its
mutex, so that they come one after another.
-/

namespace Metrics

open Averages

/-- `FS_CHN_NUM`. -/
def fsChnNum : ℕ := 4

/-- An entry of `stream_stats`. -/
structure StreamStats (D : Type) where
  frameCount : UInt32
  errorCount : UInt32
  totalFrameSize : UInt32
  lastFpsTime : UInt32
  fpsFrameCount : UInt32
  currentFps : D

/-- `stream_metrics_t`. -/
structure StreamMetrics (D : Type) where
  fps : D
  frameCount : UInt32
  errorCount : UInt32
  avgFrameSize : UInt32
  clientCount : UInt32
  timestamp : UInt32

/-- What `channel_metrics_t` has of the statistics. -/
structure ChannelMetrics (D : Type) where
  fps : D
  frameCount : Int32
  errorCount : Int32
  avgFrameSize : UInt32
  lastUpdateTime : Int64

/-- The statistics, and the two places where they are published. -/
structure Stats (D : Type) where
  streamStats : ℕ → StreamStats D
  initialized : Bool
  channelMetrics : ℕ → ChannelMetrics D
  currentStreams : ℕ → StreamMetrics D

/-- What an update finds: whether the module is enabled, the clock as the entries are initialized
and after that, the time of day, whether the mutex of the channel metrics is free, and the clients
that the server has for the channel, if there is a server and the channel is enabled. -/
structure UpdateEnv where
  enabled : Bool
  initTimes : ℕ → UInt64
  time : UInt64
  wallTime : Int64
  trylock : Bool
  clients : Option Int32

/-- A call to the statistics. -/
inductive Call
  | updateStreamFrame (channel : Int32) (frameSize : UInt32) (isError : Bool) (env : UpdateEnv)
  | getStreamMetrics (channel : Int32) (time : UInt64) (clients : Option Int32)

section Functions

variable {D : Type} [Zero D]

/-- An entry after `memset`. -/
def StreamStats.zero : StreamStats D where
  frameCount := 0
  errorCount := 0
  totalFrameSize := 0
  lastFpsTime := 0
  fpsFrameCount := 0
  currentFps := 0

/-- Metrics after `memset`. -/
def StreamMetrics.zero : StreamMetrics D where
  fps := 0
  frameCount := 0
  errorCount := 0
  avgFrameSize := 0
  clientCount := 0
  timestamp := 0

/-- Nothing is initialized. -/
def Stats.initial : Stats D where
  streamStats _ := StreamStats.zero
  initialized := false
  channelMetrics _ := { fps := 0, frameCount := 0, errorCount := 0, avgFrameSize := 0,
                        lastUpdateTime := 0 }
  currentStreams _ := StreamMetrics.zero

/-- `init_stream_stats`. -/
def initStreamStats (times : ℕ → UInt64) (s : Stats D) : Stats D :=
  if s.initialized then s
  else { s with
    streamStats := fun i =>
      if i < fsChnNum then { StreamStats.zero with lastFpsTime := (times i).toUInt32 }
      else s.streamStats i
    initialized := true }

/-- The frame count and the size, or the error count. -/
def StreamStats.count (stats : StreamStats D) (frameSize : UInt32) (isError : Bool) :
    StreamStats D :=
  { stats with
    frameCount := stats.frameCount + 1
    errorCount := if isError then stats.errorCount + 1 else stats.errorCount
    totalFrameSize := if isError then stats.totalFrameSize
      else stats.totalFrameSize + frameSize }

/-- The average that is published. -/
def StreamStats.avgFrameSize (stats : StreamStats D) : UInt32 :=
  if stats.frameCount > 0 then stats.totalFrameSize / stats.frameCount else 0

/-- The number of clients, 0 where the server fails. -/
def clientCount (clients : Option Int32) : UInt32 :=
  match clients with
  | some n => if n < 0 then 0 else n.toUInt32
  | none => 0

/-- An index of the arrays. -/
def validChannel (channel : Int32) : Bool := 0 ≤ channel.toInt && channel.toInt < fsChnNum

/-- `metrics_update_stream_frame`, and the averages that it publishes, with their channels. The
first argument is the rate of some frames in some microseconds. -/
def metricsUpdateStreamFrame (rate : UInt32 → UInt32 → D) (s : Stats D) (channel : Int32)
    (frameSize : UInt32) (isError : Bool) (env : UpdateEnv) : Stats D × List (ℕ × UInt32) :=
  if !env.enabled || !validChannel channel then (s, [])
  else
    let s := initStreamStats env.initTimes s
    let i := channel.toInt.toNat
    let stats := (s.streamStats i).count frameSize isError
    let currentTimeUs := env.time.toUInt32
    let fpsTimeDiff := currentTimeUs - stats.lastFpsTime
    if fpsTimeDiff > 10000000 ∨ currentTimeUs < stats.lastFpsTime then
      let stats := { stats with lastFpsTime := currentTimeUs, fpsFrameCount := 1 }
      ({ s with streamStats := Function.update s.streamStats i stats }, [])
    else if fpsTimeDiff ≥ 1000000 then
      let stats := { stats with
        currentFps := rate (stats.fpsFrameCount + 1) fpsTimeDiff
        fpsFrameCount := 0
        lastFpsTime := currentTimeUs }
      let channelMetrics : ChannelMetrics D :=
        { fps := stats.currentFps
          frameCount := stats.frameCount.toInt32
          errorCount := stats.errorCount.toInt32
          avgFrameSize := stats.avgFrameSize
          lastUpdateTime := env.wallTime }
      let streamMetrics : StreamMetrics D :=
        { fps := stats.currentFps
          frameCount := stats.frameCount
          errorCount := stats.errorCount
          avgFrameSize := stats.avgFrameSize
          clientCount := clientCount env.clients
          timestamp := currentTimeUs }
      ({ s with
          streamStats := Function.update s.streamStats i stats
          channelMetrics := if env.trylock then Function.update s.channelMetrics i channelMetrics
            else s.channelMetrics
          currentStreams := Function.update s.currentStreams i streamMetrics },
        (if env.trylock then [(i, channelMetrics.avgFrameSize)] else []) ++
          [(i, streamMetrics.avgFrameSize)])
    else
      let stats := { stats with fpsFrameCount := stats.fpsFrameCount + 1 }
      ({ s with streamStats := Function.update s.streamStats i stats }, [])

/-- `metrics_get_stream_metrics`, `none` for no such channel. -/
def metricsGetStreamMetrics (s : Stats D) (channel : Int32) (time : UInt64)
    (clients : Option Int32) : Option (StreamMetrics D) :=
  if !validChannel channel then none
  else if !s.initialized then some StreamMetrics.zero
  else
    let stats := s.streamStats channel.toInt.toNat
    some { fps := stats.currentFps
           frameCount := stats.frameCount
           errorCount := stats.errorCount
           avgFrameSize := stats.avgFrameSize
           clientCount := clientCount clients
           timestamp := time.toUInt32 }

/-- One call. The collection thread has the metrics of a channel written to where they are
published. -/
def step (rate : UInt32 → UInt32 → D) (s : Stats D) (call : Call) :
    Stats D × List (ℕ × UInt32) :=
  match call with
  | .updateStreamFrame channel frameSize isError env =>
    metricsUpdateStreamFrame rate s channel frameSize isError env
  | .getStreamMetrics channel time clients =>
    match metricsGetStreamMetrics s channel time clients with
    | none => (s, [])
    | some metrics =>
      let i := channel.toInt.toNat
      ({ s with currentStreams := Function.update s.currentStreams i metrics },
        [(i, metrics.avgFrameSize)])

/-- The state after calls. -/
def run (rate : UInt32 → UInt32 → D) (calls : List Call) : Stats D :=
  calls.foldl (fun s call => (step rate s call).1) Stats.initial

end Functions

/-- The channel and the size of the frame that a call counts. -/
def Call.frame : Call → Option (ℕ × ℕ)
  | .updateStreamFrame channel frameSize _ env =>
    if !env.enabled || !validChannel channel then none
    else some (channel.toInt.toNat, frameSize.toNat)
  | .getStreamMetrics .. => none

/-- The sizes of the frames of a channel. -/
def frameSizes (channel : ℕ) (calls : List Call) : List ℕ :=
  (calls.filterMap Call.frame).filterMap fun frame =>
    if frame.1 = channel then some frame.2 else none

/-- Calls of `metrics_update_stream_frame`. -/
def Call.isUpdate : Call → Bool
  | .updateStreamFrame .. => true
  | .getStreamMetrics .. => false

/-- Calls with an error. -/
def Call.isError : Call → Bool
  | .updateStreamFrame _ _ isError _ => isError
  | .getStreamMetrics .. => false

/-- Whenever a call publishes an average, it fits the frames of the channel until then. -/
def EveryPublication {D : Type} [Zero D] (rate : UInt32 → UInt32 → D) (calls : List Call)
    (P : List ℕ → UInt32 → Prop) : Prop :=
  ∀ front call back, calls = front ++ call :: back →
    ∀ published ∈ (step rate (run rate front) call).2,
      P (frameSizes published.1 (front ++ [call])) published.2

/-! ### The frames of a channel -/

section Frames

variable {channel other size : ℕ} {calls : List Call} {call : Call}

theorem frameSizes_concat_self (h : call.frame = some (channel, size)) :
    frameSizes channel (calls ++ [call]) = frameSizes channel calls ++ [size] := by
  unfold frameSizes
  rw [List.filterMap_append, List.filterMap_append]
  simp [h]

theorem frameSizes_concat_of_ne (h : call.frame = some (channel, size)) (hne : channel ≠ other) :
    frameSizes other (calls ++ [call]) = frameSizes other calls := by
  unfold frameSizes
  rw [List.filterMap_append, List.filterMap_append]
  simp [h, hne]

theorem frameSizes_concat_none (h : call.frame = none) :
    frameSizes other (calls ++ [call]) = frameSizes other calls := by
  unfold frameSizes
  rw [List.filterMap_append, List.filterMap_append]
  simp [h]

/-- No channel has more frames than there are updates. -/
theorem length_frameSizes_le (channel : ℕ) (calls : List Call) :
    (frameSizes channel calls).length ≤ calls.countP Call.isUpdate := by
  induction calls using List.reverseRecOn with
  | nil => exact Nat.le_refl 0
  | append_singleton calls call ih =>
    rw [List.countP_append]
    cases hframe : call.frame with
    | none =>
      rw [frameSizes_concat_none hframe]
      omega
    | some frame =>
      have hupdate : [call].countP Call.isUpdate = 1 := by
        cases call with
        | updateStreamFrame => rfl
        | getStreamMetrics => exact absurd hframe (by simp [Call.frame])
      by_cases hsame : frame.1 = channel
      · subst hsame
        rw [frameSizes_concat_self hframe, List.length_append, List.length_singleton]
        omega
      · rw [frameSizes_concat_of_ne hframe hsame]
        omega

end Frames

/-! ### What the entries hold -/

section Entries

variable {D : Type} [Zero D] (rate : UInt32 → UInt32 → D) {s : Stats D}
  {sizes : ℕ → List ℕ} {stats : StreamStats D}

/-- The number of frames and the total of their sizes, as words hold them. -/
structure Counts (stats : StreamStats D) (sizes : List ℕ) : Prop where
  frames : stats.frameCount = UInt32.ofNat sizes.length
  total : stats.totalFrameSize = UInt32.ofNat sizes.sum

/-- Each entry holds the frames of its channel, and before the entries are initialized there are
none. -/
structure Accounted (s : Stats D) (sizes : ℕ → List ℕ) : Prop where
  counts : ∀ i, Counts (s.streamStats i) (sizes i)
  fresh : s.initialized = false → ∀ i, sizes i = []

omit [Zero D] in
/-- One more frame. -/
theorem Counts.count {size : ℕ} {xs : List ℕ} (h : Counts stats xs) {next : StreamStats D}
    (hframes : next.frameCount = stats.frameCount + 1)
    (htotal : next.totalFrameSize = stats.totalFrameSize + UInt32.ofNat size) :
    Counts next (xs ++ [size]) := by
  constructor
  · rw [hframes, h.frames, List.length_append, List.length_singleton, UInt32.ofNat_add]
    rfl
  · rw [htotal, h.total, List.sum_append, List.sum_singleton, UInt32.ofNat_add]

omit [Zero D] in
/-- The average is the quotient of what the words hold. -/
theorem Counts.avgFrameSize_toNat {xs : List ℕ} (h : Counts stats xs) :
    stats.avgFrameSize.toNat = xs.sum % 2 ^ 32 / (xs.length % 2 ^ 32) := by
  have hframes : stats.frameCount.toNat = xs.length % 2 ^ 32 := by
    rw [h.frames, UInt32.toNat_ofNat']
  have htotal : stats.totalFrameSize.toNat = xs.sum % 2 ^ 32 := by
    rw [h.total, UInt32.toNat_ofNat']
  unfold StreamStats.avgFrameSize
  by_cases hpos : stats.frameCount > 0
  · rw [if_pos hpos, UInt32.toNat_div, hframes, htotal]
  · have hzero : xs.length % 2 ^ 32 = 0 := by
      rw [gt_iff_lt, UInt32.lt_iff_toNat_lt, hframes] at hpos
      exact Nat.eq_zero_of_not_pos hpos
    rw [if_neg hpos, hzero, Nat.div_zero]
    rfl

theorem accounted_initial : Accounted (Stats.initial (D := D)) fun _ => [] :=
  ⟨fun _ => ⟨rfl, rfl⟩, fun _ _ => rfl⟩

theorem initStreamStats_initialized (times : ℕ → UInt64) :
    (initStreamStats times s).initialized = true := by
  unfold initStreamStats
  by_cases hinit : s.initialized = true
  · rw [if_pos hinit, hinit]
  · rw [if_neg hinit]

/-- The entries are set to zero where they are. -/
theorem Accounted.initStreamStats (h : Accounted s sizes) (times : ℕ → UInt64) :
    Accounted (initStreamStats times s) sizes := by
  refine ⟨fun i => ?_, fun hfresh => ?_⟩
  · unfold Metrics.initStreamStats
    by_cases hinit : s.initialized = true
    · rw [if_pos hinit]
      exact h.counts i
    · have hempty := h.fresh (Bool.eq_false_of_not_eq_true hinit) i
      rw [if_neg hinit]
      dsimp only
      by_cases hchannel : i < fsChnNum
      · rw [if_pos hchannel, hempty]
        exact ⟨rfl, rfl⟩
      · rw [if_neg hchannel]
        exact h.counts i
  · rw [initStreamStats_initialized] at hfresh
    exact absurd hfresh.symm Bool.false_ne_true

/-- A result in which the entry of a channel has one more frame, and the average of this entry is
all that is published. -/
structure CountsFrame (s : Stats D) (i : ℕ) (frameSize : UInt32) (next : StreamStats D)
    (result : Stats D × List (ℕ × UInt32)) : Prop where
  entries : result.1.streamStats = Function.update s.streamStats i next
  frames : next.frameCount = (s.streamStats i).frameCount + 1
  total : next.totalFrameSize = (s.streamStats i).totalFrameSize + frameSize
  initialized : result.1.initialized = true
  published : ∀ published ∈ result.2, published = (i, next.avgFrameSize)

theorem frame_updateStreamFrame (channel : Int32) (frameSize : UInt32) (isError : Bool)
    (env : UpdateEnv) : (Call.updateStreamFrame channel frameSize isError env).frame =
      if !env.enabled || !validChannel channel then none
      else some (channel.toInt.toNat, frameSize.toNat) := rfl

/-- What an update without an error does: nothing, or it counts a frame. -/
theorem metricsUpdateStreamFrame_cases (channel : Int32) (frameSize : UInt32) (env : UpdateEnv) :
    ((Call.updateStreamFrame channel frameSize false env).frame = none ∧
      metricsUpdateStreamFrame rate s channel frameSize false env = (s, [])) ∨
    ∃ i next, (Call.updateStreamFrame channel frameSize false env).frame =
        some (i, frameSize.toNat) ∧
      CountsFrame (initStreamStats env.initTimes s) i frameSize next
        (metricsUpdateStreamFrame rate s channel frameSize false env) := by
  have hinit := initStreamStats_initialized (s := s) env.initTimes
  rw [frame_updateStreamFrame]
  unfold metricsUpdateStreamFrame
  by_cases hrefused : (!env.enabled || !validChannel channel) = true
  · rw [if_pos hrefused, if_pos hrefused]
    exact .inl ⟨rfl, rfl⟩
  · rw [if_neg hrefused, if_neg hrefused]
    right
    dsimp only
    generalize initStreamStats env.initTimes s = s at hinit ⊢
    generalize hcount : (s.streamStats channel.toInt.toNat).count frameSize false = stats
    have hframes : stats.frameCount = (s.streamStats channel.toInt.toNat).frameCount + 1 := by
      rw [← hcount]
      rfl
    have htotal : stats.totalFrameSize =
        (s.streamStats channel.toInt.toNat).totalFrameSize + frameSize := by
      rw [← hcount]
      rfl
    by_cases hreset : env.time.toUInt32 - stats.lastFpsTime > 10000000 ∨
        env.time.toUInt32 < stats.lastFpsTime
    · rw [if_pos hreset]
      exact ⟨_, _, rfl, rfl, hframes, htotal, hinit, by simp⟩
    · rw [if_neg hreset]
      by_cases hsecond : env.time.toUInt32 - stats.lastFpsTime ≥ 1000000
      · rw [if_pos hsecond]
        refine ⟨_, _, rfl, rfl, hframes, htotal, hinit, fun published hmem => ?_⟩
        -- The second place is skipped while its mutex is taken.
        cases htrylock : env.trylock <;> simpa [htrylock, StreamStats.avgFrameSize] using hmem
      · rw [if_neg hsecond]
        exact ⟨_, _, rfl, rfl, hframes, htotal, hinit, by simp⟩

/-- A round of the collection thread publishes the average of each channel. -/
theorem exists_published_getStreamMetrics (s : Stats D) (channel : Int32)
    (hvalid : validChannel channel = true) (time : UInt64) (clients : Option Int32) : ∃ avg,
      (channel.toInt.toNat, avg) ∈ (step rate s (.getStreamMetrics channel time clients)).2 := by
  simp only [step, metricsGetStreamMetrics]
  rw [if_neg (by simp [hvalid])]
  by_cases hfresh : (!s.initialized) = true
  · rw [if_pos hfresh]
    exact ⟨_, List.mem_singleton_self _⟩
  · rw [if_neg hfresh]
    exact ⟨_, List.mem_singleton_self _⟩

/-- The entries hold the frames of the calls, and what is published are averages of entries. -/
structure Published (calls : List Call) (result : Stats D × List (ℕ × UInt32)) : Prop where
  accounted : Accounted result.1 fun i => frameSizes i calls
  averages : ∀ published ∈ result.2,
    published.2 = (result.1.streamStats published.1).avgFrameSize

variable {calls : List Call}

theorem Accounted.updateStreamFrame (h : Accounted s fun i => frameSizes i calls)
    (channel : Int32) (frameSize : UInt32) (env : UpdateEnv) :
    Published (calls ++ [.updateStreamFrame channel frameSize false env])
      (metricsUpdateStreamFrame rate s channel frameSize false env) := by
  rcases metricsUpdateStreamFrame_cases rate (s := s) channel frameSize env with
    ⟨hframe, hresult⟩ | ⟨i, next, hframe, hcounts⟩
  · rw [hresult]
    refine ⟨?_, fun _ hmem => absurd hmem List.not_mem_nil⟩
    simpa only [frameSizes_concat_none hframe] using h
  · have hinit := h.initStreamStats env.initTimes
    have hnext : Counts next (frameSizes i calls ++ [frameSize.toNat]) :=
      (hinit.counts i).count hcounts.frames (by rw [UInt32.ofNat_toNat, hcounts.total])
    refine ⟨⟨fun j => ?_, fun hfresh => ?_⟩, fun published hmem => ?_⟩
    · rw [hcounts.entries]
      by_cases hsame : i = j
      · subst hsame
        rw [Function.update_self, frameSizes_concat_self hframe]
        exact hnext
      · rw [Function.update_of_ne (Ne.symm hsame), frameSizes_concat_of_ne hframe hsame]
        exact hinit.counts j
    · rw [hcounts.initialized] at hfresh
      exact absurd hfresh.symm Bool.false_ne_true
    · rw [hcounts.published published hmem, hcounts.entries]
      dsimp only
      rw [Function.update_self]

theorem Accounted.getStreamMetrics (h : Accounted s fun i => frameSizes i calls)
    (channel : Int32) (time : UInt64) (clients : Option Int32) :
    Published (calls ++ [.getStreamMetrics channel time clients])
      (step rate s (.getStreamMetrics channel time clients)) := by
  have hframes : ∀ i, frameSizes i (calls ++ [.getStreamMetrics channel time clients]) =
      frameSizes i calls := fun i => frameSizes_concat_none rfl
  simp only [step, metricsGetStreamMetrics]
  by_cases hvalid : (!validChannel channel) = true
  · rw [if_pos hvalid]
    refine ⟨?_, fun _ hmem => absurd hmem List.not_mem_nil⟩
    simpa only [hframes] using h
  · rw [if_neg hvalid]
    by_cases hfresh : (!s.initialized) = true
    · rw [if_pos hfresh]
      refine ⟨⟨?_, ?_⟩, fun published hmem => ?_⟩
      · simpa only [hframes] using h.counts
      · simpa only [hframes] using h.fresh
      · -- No frame is counted yet, and the average of such an entry is 0, too.
        have hcounts := h.counts channel.toInt.toNat
        have hempty := h.fresh (by simpa using hfresh) channel.toInt.toNat
        rw [List.mem_singleton.mp hmem, StreamStats.avgFrameSize]
        dsimp only
        rw [hcounts.frames, hempty]
        rfl
    · rw [if_neg hfresh]
      refine ⟨⟨?_, ?_⟩, fun published hmem => ?_⟩
      · simpa only [hframes] using h.counts
      · simpa only [hframes] using h.fresh
      · rw [List.mem_singleton.mp hmem]

/-- A call without an error. -/
theorem Accounted.step (h : Accounted s fun i => frameSizes i calls) {call : Call}
    (hok : call.isError = false) : Published (calls ++ [call]) (step rate s call) := by
  cases call with
  | updateStreamFrame channel frameSize isError env =>
    obtain rfl : isError = false := hok
    exact h.updateStreamFrame rate channel frameSize env
  | getStreamMetrics channel time clients => exact h.getStreamMetrics rate channel time clients

/-- Calls without errors, one after another. -/
theorem accounted_run (hok : ∀ call ∈ calls, call.isError = false) :
    Accounted (run rate calls) fun i => frameSizes i calls := by
  induction calls using List.reverseRecOn with
  | nil => exact accounted_initial
  | append_singleton calls call ih =>
    have hfront := ih fun earlier hmem => hok earlier (List.mem_append_left _ hmem)
    have hcall := hfront.step rate (hok call (by simp))
    rw [run, List.foldl_append]
    exact hcall.accounted

/-- What a call publishes after calls without errors: the quotient of what the words hold. -/
theorem step_published_toNat {call : Call} (hok : ∀ earlier ∈ calls, earlier.isError = false)
    (hcall : call.isError = false) {published : ℕ × UInt32}
    (hmem : published ∈ (Metrics.step rate (run rate calls) call).2) :
    published.2.toNat = (frameSizes published.1 (calls ++ [call])).sum % 2 ^ 32 /
      ((frameSizes published.1 (calls ++ [call])).length % 2 ^ 32) := by
  have hstep := (accounted_run rate hok).step rate hcall
  rw [hstep.averages published hmem]
  exact (hstep.accounted.counts published.1).avgFrameSize_toNat

end Entries

/-- The frames of a run are enough for all that is published in it. -/
theorem everyPublication_of_sum_lt {D : Type} [Zero D] {rate : UInt32 → UInt32 → D}
    {calls : List Call} {bound : ℕ} (h : ∀ channel, (frameSizes channel calls).sum < bound) :
    EveryPublication rate calls fun sizes _ => sizes.sum < bound := by
  intro front call back hcalls published _
  have hsum := h published.1
  rw [hcalls, List.append_cons, frameSizes, List.filterMap_append, List.filterMap_append,
    List.sum_append] at hsum
  unfold frameSizes
  omega

/-- In every run of fewer than `2 ^ 32` updates, each average that is published is that of the
frames if and only if each is published while the sum of the sizes is a word. -/
theorem everyPublication_isAverage_iff {D : Type} [Zero D] (rate : UInt32 → UInt32 → D)
    (calls : List Call) (hfew : calls.countP Call.isUpdate < 2 ^ 32)
    (hok : ∀ call ∈ calls, call.isError = false) :
    (EveryPublication rate calls fun sizes avg => IsAverage sizes avg.toNat) ↔
      EveryPublication rate calls fun sizes _ => sizes.sum < 2 ^ 32 := by
  refine forall₄_congr fun front call back hcalls => forall₂_congr fun published hmem => ?_
  have hlength : (frameSizes published.1 (front ++ [call])).length < 2 ^ 32 := by
    have hle := length_frameSizes_le published.1 (front ++ [call])
    rw [hcalls, List.append_cons, List.countP_append] at hfew
    omega
  have hfront : ∀ earlier ∈ front, earlier.isError = false := fun earlier hearlier =>
    hok earlier (by simp [hcalls, hearlier])
  dsimp only
  rw [step_published_toNat rate hfront (hok call (by simp [hcalls])) hmem]
  exact isAverage_mod_iff hlength

/-- An update that is taken as the module runs. -/
def update (frameSize : UInt32) (time : UInt64) : Call :=
  .updateStreamFrame 0 frameSize false
    { enabled := true, initTimes := fun _ => 0, time := time, wallTime := 0, trylock := true,
      clients := none }

/-- Two frames, the second one a second after the first. -/
theorem everyPublication_isAverage_two :
    EveryPublication (fun _ _ => (0 : ℕ)) [update 4000 0, update 1001 1000000]
      fun sizes avg => IsAverage sizes avg.toNat := by
  refine (everyPublication_isAverage_iff _ _ (by decide) (by decide)).mpr
    (everyPublication_of_sum_lt fun channel => ?_)
  by_cases hzero : 0 = channel
  · subst hzero
    decide
  · have hframes : [update 4000 0, update 1001 1000000].filterMap Call.frame =
        [(0, 4000), (0, 1001)] := by decide
    rw [frameSizes, hframes]
    simp [hzero]

theorem frameSizes_replicate (n : ℕ) :
    frameSizes 0 (List.replicate n (update 1048576 0)) = List.replicate n 1048576 := by
  unfold frameSizes
  rw [List.filterMap_replicate_of_some (by rfl), List.filterMap_replicate_of_some (by rfl)]
  rfl

/-- After 4096 frames of a mebibyte the total is 0, and so is the average. -/
theorem not_everyPublication_isAverage_mebibytes :
    ¬∀ (rate : UInt32 → UInt32 → ℕ) (calls : List Call), calls.countP Call.isUpdate < 2 ^ 32 →
      (∀ call ∈ calls, call.isError = false) →
      (∀ call ∈ calls, ∀ frame ∈ call.frame, frame.2 ≤ 2 ^ 20) →
        EveryPublication rate calls fun sizes avg => IsAverage sizes avg.toNat := by
  intro h
  obtain ⟨updates, hupdates⟩ : ∃ updates, updates = List.replicate 4096 (update 1048576 0) :=
    ⟨_, rfl⟩
  have hsame : ∀ call ∈ updates, call = update 1048576 0 := by
    rw [hupdates]
    exact fun call => List.eq_of_mem_replicate
  have hok : ∀ call ∈ updates, call.isError = false := by
    intro call hcall
    rw [hsame call hcall]
    rfl
  have hsize : ∀ call ∈ updates, ∀ frame ∈ call.frame, frame.2 ≤ 2 ^ 20 := by
    intro call hcall frame hframe
    rw [hsame call hcall] at hframe
    obtain rfl := Option.some.inj hframe
    decide
  have hfew : (updates ++ [Call.getStreamMetrics 0 0 none]).countP Call.isUpdate < 2 ^ 32 := by
    rw [hupdates, List.countP_append, List.countP_replicate]
    decide
  obtain ⟨avg, hmem⟩ := exists_published_getStreamMetrics (fun _ _ => 0)
    (run (fun _ _ => 0) updates) 0 rfl 0 none
  have hvalue := step_published_toNat _ hok rfl hmem
  have haverage := h (fun _ _ => 0) (updates ++ [.getStreamMetrics 0 0 none]) hfew
    (List.forall_mem_append.mpr ⟨hok, by simp [Call.isError]⟩)
    (List.forall_mem_append.mpr ⟨hsize, by simp [Call.frame]⟩) updates _ [] rfl _ hmem
  have hframes : frameSizes 0 (updates ++ [.getStreamMetrics 0 0 none]) =
      List.replicate 4096 1048576 := by
    rw [frameSizes_concat_none rfl, hupdates, frameSizes_replicate]
  have hsum : (frameSizes 0 (updates ++ [.getStreamMetrics 0 0 none])).sum = 2 ^ 32 := by
    rw [hframes, List.sum_replicate]
    decide
  have hlength : (frameSizes 0 (updates ++ [.getStreamMetrics 0 0 none])).length = 4096 := by
    rw [hframes, List.length_replicate]
  have hquotient := haverage.quotient
  dsimp only at hquotient hvalue
  rw [Int32.toInt_zero, Int.toNat_zero, hsum, hlength] at hquotient hvalue
  rw [hvalue] at hquotient
  exact absurd hquotient (by decide)

end Metrics
