import Mathlib.Data.List.Nodup
import Mathlib.Data.List.Perm.Subperm
import Strero.Lib.Decimal
import Strero.Metrics.ProcessMetrics
import Strero.Metrics.StreamStats

/-!
# The exposition of the metrics

`metrics_handle_prometheus_request` prints the metrics of each channel into a buffer of its own,
appends this text to another buffer, and prints the metrics of the process and the system with that
into the last one. The text of a channel is always longer than its buffer.
-/

namespace Metrics

open CString Scanf

/-- What `system_metrics_t` has for the exposition. -/
structure SystemMetrics (D : Type) where
  uptimeSeconds : UInt32
  loadAverage : D × D × D

/-- What `metrics_module_state_t` has for the exposition. -/
structure MetricsState (D : Type) where
  initialized : Bool
  configEnabled : Bool
  running : Bool
  currentProcess : ProcessMetrics
  currentStreams : ℕ → StreamMetrics D
  currentSystem : SystemMetrics D
  collectionsCount : UInt32

/-- What the handler sends. -/
inductive Response
  | error (statusCode : ℕ) (message : List UInt8)
  | response (statusCode : ℕ) (contentType body : List UInt8)

/-- `metrics_module_is_enabled`. -/
def MetricsState.isEnabled {D : Type} (s : MetricsState D) : Bool :=
  s.initialized && s.configEnabled && s.running

/-- `snprintf` into an array of `size` bytes. -/
def snprintf (size : ℕ) (text : List UInt8) : List UInt8 := text.take (size - 1)

/-- `strncat` to the string in a buffer, of no more than `count` bytes. -/
def strncat (buffer source : List UInt8) (count : ℕ) : List UInt8 := buffer ++ source.take count

/-- A metric: its name, what it is about, its type, and its samples, each with labels and a
value. -/
structure Metric where
  name : String
  help : String
  kind : String
  samples : List (List UInt8 × List UInt8)

/-- The comments in front of the samples. -/
def Metric.comments (metric : Metric) : List UInt8 :=
  ascii "# HELP " ++ ascii metric.name ++ ascii " " ++ ascii metric.help ++ ascii "\n" ++
    ascii "# TYPE " ++ ascii metric.name ++ ascii " " ++ ascii metric.kind ++ ascii "\n"

/-- The line of a sample. -/
def Metric.line (metric : Metric) (now : ℤ) (sample : List UInt8 × List UInt8) : List UInt8 :=
  ascii metric.name ++ sample.1 ++ ascii " " ++ sample.2 ++ ascii " " ++ printInt now

/-- The comments, the samples, and an empty line. -/
def Metric.text (now : ℤ) (metric : Metric) : List UInt8 :=
  metric.comments ++ (metric.samples.flatMap fun sample => metric.line now sample ++ ascii "\n") ++
    ascii "\n"

/-- The label of a channel. -/
def channelLabel (i : ℕ) : List UInt8 :=
  ascii "\x7bchannel=\"" ++ printInt i ++ ascii "\"\x7d"

/-- The label of a load average. -/
def periodLabel (period : String) : List UInt8 :=
  ascii "\x7bperiod=\"" ++ ascii period ++ ascii "\"\x7d"

section Texts

variable {D : Type} (printF2 : D → List UInt8) (s : MetricsState D) (now : ℤ)

/-- The metrics of a channel. `printF2` is `%.2f`. -/
def channelMetrics (i : ℕ) : List Metric :=
  [⟨"stream_fps", "Frames per second for each channel", "gauge",
      [(channelLabel i, printF2 (s.currentStreams i).fps)]⟩,
    ⟨"stream_frame_count", "Total frames processed", "counter",
      [(channelLabel i, digits (s.currentStreams i).frameCount.toNat)]⟩,
    ⟨"stream_error_count", "Total errors encountered", "counter",
      [(channelLabel i, digits (s.currentStreams i).errorCount.toNat)]⟩,
    ⟨"stream_frame_size_bytes", "Average frame size in bytes", "gauge",
      [(channelLabel i, digits (s.currentStreams i).avgFrameSize.toNat)]⟩,
    ⟨"stream_clients", "Connected clients", "gauge",
      [(channelLabel i, digits (s.currentStreams i).clientCount.toNat)]⟩]

/-- The metrics of the process and of the system. -/
def globalMetrics : List Metric :=
  [⟨"process_cpu_percent", "Process CPU usage percentage", "gauge",
      [([], printInt s.currentProcess.cpuUsagePercent.toInt)]⟩,
    ⟨"process_memory_kb", "Process memory usage in KB", "gauge",
      [([], printInt s.currentProcess.memoryUsageKb.toInt)]⟩,
    ⟨"process_threads", "Process thread count", "gauge",
      [([], printInt s.currentProcess.threadCount.toInt)]⟩,
    ⟨"system_uptime_seconds", "System uptime in seconds", "counter",
      [([], digits s.currentSystem.uptimeSeconds.toNat)]⟩,
    ⟨"system_load_average", "System load average", "gauge",
      [(periodLabel "1min", printF2 s.currentSystem.loadAverage.1),
        (periodLabel "5min", printF2 s.currentSystem.loadAverage.2.1),
        (periodLabel "15min", printF2 s.currentSystem.loadAverage.2.2)]⟩,
    ⟨"metrics_collections_total", "Total metrics collections", "counter",
      [([], digits s.collectionsCount.toNat)]⟩]

/-- The texts of the channels, each printed into 512 bytes and appended to 2048 bytes. -/
def streamMetricsBuffer : List UInt8 :=
  (List.range fsChnNum).foldl
    (fun buffer i => strncat buffer
      (snprintf 512 ((channelMetrics printF2 s i).flatMap (Metric.text now)))
      (2048 - buffer.length - 1)) []

/-- `metrics_handle_prometheus_request`. -/
def metricsHandlePrometheusRequest : Response :=
  if !s.isEnabled then .error 503 (ascii "# Metrics module not enabled")
  else .response 200 (ascii "text/plain; version=0.0.4; charset=utf-8")
    (snprintf 4096 ((globalMetrics printF2 s).flatMap (Metric.text now) ++
      streamMetricsBuffer printF2 s now))

/-- The metrics of all channels, and the global ones. -/
def allMetrics : List Metric :=
  globalMetrics printF2 s ++ (List.range fsChnNum).flatMap (channelMetrics printF2 s)

end Texts

/-- The text ends with a line. -/
def CompleteLines (text : List UInt8) : Prop := text.getLast? = some 10

/-- Each sample is one of the lines of the text, and only once. -/
def SamplesOnce (metrics : List Metric) (now : ℤ) (text : List UInt8) : Prop :=
  ∃ (lines : List (List UInt8)) (rest : List UInt8), text = lines.flatMap (· ++ [10]) ++ rest ∧
    (∀ line ∈ lines, 10 ∉ line) ∧ 10 ∉ rest ∧
    ∀ metric ∈ metrics, ∀ sample ∈ metric.samples, lines.count (metric.line now sample) = 1

/-- The text is that of the metrics to its end. -/
def NotCut (metrics : List Metric) (now : ℤ) (text : List UInt8) : Prop :=
  text = metrics.flatMap (Metric.text now)

/-- The exposition of metrics. -/
structure Complete (metrics : List Metric) (now : ℤ) (text : List UInt8) : Prop where
  lines : CompleteLines text
  samples : SamplesOnce metrics now text
  notCut : NotCut metrics now text

/-! ### Braces

Every label has a brace, and no other part of the text does. -/

/-- An opening brace. -/
def brace : UInt8 := 123

/-- No brace is in a number. -/
theorem brace_notMem_digits (n : ℕ) : brace ∉ digits n := by
  intro hmem
  exact absurd (isDigit_of_mem_digits hmem) (by decide)

theorem brace_notMem_printInt (n : ℤ) : brace ∉ printInt n := by
  intro hmem
  rcases List.mem_append.mp hmem with hsign | hdigit
  · by_cases hneg : n < 0
    · rw [if_pos hneg] at hsign
      exact absurd hsign (by decide)
    · rw [if_neg hneg] at hsign
      exact List.not_mem_nil hsign
  · exact brace_notMem_digits _ hdigit

/-- Only labels have braces. -/
structure Metric.Plain (metric : Metric) : Prop where
  name : (ascii metric.name).count brace = 0
  help : (ascii metric.help).count brace = 0
  kind : (ascii metric.kind).count brace = 0
  values : ∀ sample ∈ metric.samples, brace ∉ sample.2

/-- The braces of the labels. -/
def Metric.braces (metric : Metric) : ℕ :=
  (metric.samples.map fun sample => sample.1.count brace).sum

theorem Metric.Plain.count_comments {metric : Metric} (h : metric.Plain) :
    metric.comments.count brace = 0 := by
  have hhelp : (ascii "# HELP ").count brace = 0 := by decide
  have htype : (ascii "# TYPE ").count brace = 0 := by decide
  have hblank : (ascii " ").count brace = 0 := by decide
  have hnewline : (ascii "\n").count brace = 0 := by decide
  simp only [Metric.comments, List.count_append, h.name, h.help, h.kind, hhelp, htype, hblank,
    hnewline]

theorem Metric.Plain.count_line {metric : Metric} (h : metric.Plain) (now : ℤ)
    {sample : List UInt8 × List UInt8} (hsample : sample ∈ metric.samples) :
    (metric.line now sample).count brace = sample.1.count brace := by
  have hblank : (ascii " ").count brace = 0 := by decide
  have hvalue := List.count_eq_zero_of_not_mem (h.values sample hsample)
  have hnow := List.count_eq_zero_of_not_mem (brace_notMem_printInt now)
  simp only [Metric.line, List.count_append, h.name, hblank, hvalue, hnow]
  omega

theorem Metric.Plain.count_text {metric : Metric} (h : metric.Plain) (now : ℤ) :
    (metric.text now).count brace = metric.braces := by
  have hnewline : (ascii "\n").count brace = 0 := by decide
  have hsamples : metric.samples.map (List.count brace ∘ fun sample =>
      metric.line now sample ++ ascii "\n") = metric.samples.map fun sample =>
        sample.1.count brace := by
    refine List.map_congr_left fun sample hsample => ?_
    rw [Function.comp_apply, List.count_append, h.count_line now hsample, hnewline, Nat.add_zero]
  rw [Metric.text, List.count_append, List.count_append, h.count_comments, hnewline,
    List.count_flatMap, hsamples, Metric.braces]
  omega

theorem count_texts {metrics : List Metric} (h : ∀ metric ∈ metrics, metric.Plain) (now : ℤ) :
    (metrics.flatMap (Metric.text now)).count brace = (metrics.map Metric.braces).sum := by
  have hcounts : metrics.map (List.count brace ∘ Metric.text now) = metrics.map Metric.braces := by
    refine List.map_congr_left fun metric hmetric => ?_
    rw [Function.comp_apply, (h metric hmetric).count_text now]
  rw [List.count_flatMap, hcounts]

theorem count_channelLabel (i : ℕ) : (channelLabel i).count brace = 1 := by
  have hnumber := List.count_eq_zero_of_not_mem (brace_notMem_printInt i)
  have hopen : (ascii "\x7bchannel=\"").count brace = 1 := by decide
  have hclose : (ascii "\"\x7d").count brace = 0 := by decide
  rw [channelLabel, List.count_append, List.count_append, hnumber, hopen, hclose]

section Cut

variable {D : Type} {printF2 : D → List UInt8} {s : MetricsState D}

theorem plain_mk {name help kind : String} {samples : List (List UInt8 × List UInt8)}
    (hname : (ascii name).count brace = 0) (hhelp : (ascii help).count brace = 0)
    (hkind : (ascii kind).count brace = 0) (hvalues : ∀ sample ∈ samples, brace ∉ sample.2) :
    Metric.Plain ⟨name, help, kind, samples⟩ := ⟨hname, hhelp, hkind, hvalues⟩

theorem channelMetrics_plain (hprint : ∀ x, brace ∉ printF2 x) (i : ℕ) :
    ∀ metric ∈ channelMetrics printF2 s i, metric.Plain := by
  intro metric hmetric
  simp only [channelMetrics, List.mem_cons, List.not_mem_nil, or_false] at hmetric
  rcases hmetric with rfl | rfl | rfl | rfl | rfl
  · exact plain_mk (by decide) (by decide) (by decide) (by simp [hprint])
  all_goals exact plain_mk (by decide) (by decide) (by decide) (by simp [brace_notMem_digits])

theorem globalMetrics_plain (hprint : ∀ x, brace ∉ printF2 x) :
    ∀ metric ∈ globalMetrics printF2 s, metric.Plain := by
  intro metric hmetric
  simp only [globalMetrics, List.mem_cons, List.not_mem_nil, or_false] at hmetric
  rcases hmetric with rfl | rfl | rfl | rfl | rfl | rfl
  all_goals
    exact plain_mk (by decide) (by decide) (by decide)
      (by simp [hprint, brace_notMem_printInt, brace_notMem_digits])

/-- The length of a metric with one sample, without its label, its value and the time. -/
def Metric.size (metric : Metric) : ℕ :=
  22 + 3 * (ascii metric.name).length + (ascii metric.help).length + (ascii metric.kind).length

theorem Metric.le_length_text {metric : Metric} {sample : List UInt8 × List UInt8}
    (hsamples : metric.samples = [sample]) (now : ℤ) :
    metric.size + sample.1.length ≤ (metric.text now).length := by
  have hhelp : (ascii "# HELP ").length = 7 := by decide
  have htype : (ascii "# TYPE ").length = 7 := by decide
  have hblank : (ascii " ").length = 1 := by decide
  have hnewline : (ascii "\n").length = 1 := by decide
  simp only [Metric.size, Metric.text, Metric.comments, Metric.line, hsamples,
    List.flatMap_singleton, List.length_append, hhelp, htype, hblank, hnewline]
  omega

theorem le_length_texts {metrics : List Metric} {k : ℕ}
    (h : ∀ metric ∈ metrics, ∃ sample, metric.samples = [sample] ∧ k ≤ sample.1.length)
    (now : ℤ) : (metrics.map fun metric => metric.size + k).sum ≤
      (metrics.flatMap (Metric.text now)).length := by
  induction metrics with
  | nil => exact Nat.le_refl 0
  | cons metric metrics ih =>
    obtain ⟨sample, hsamples, hlabel⟩ := h metric List.mem_cons_self
    have hfirst := metric.le_length_text hsamples now
    have hrest := ih fun other hother => h other (List.mem_cons_of_mem _ hother)
    rw [List.map_cons, List.sum_cons, List.flatMap_cons, List.length_append]
    omega

theorem le_length_channelLabel (i : ℕ) : 12 ≤ (channelLabel i).length := by
  have hopen : (ascii "\x7bchannel=\"").length = 10 := by decide
  have hclose : (ascii "\"\x7d").length = 2 := by decide
  rw [channelLabel, List.length_append, List.length_append, hopen, hclose]
  omega

/-- Each metric of a channel has one sample, with the label of the channel. -/
theorem exists_channelMetrics_samples {i : ℕ} {metric : Metric}
    (hmetric : metric ∈ channelMetrics printF2 s i) :
    ∃ value, metric.samples = [(channelLabel i, value)] := by
  simp only [channelMetrics, List.mem_cons, List.not_mem_nil, or_false] at hmetric
  rcases hmetric with rfl | rfl | rfl | rfl | rfl <;> exact ⟨_, rfl⟩

theorem braces_channelMetrics {i : ℕ} {metric : Metric}
    (hmetric : metric ∈ channelMetrics printF2 s i) : metric.braces = 1 := by
  obtain ⟨value, hsamples⟩ := exists_channelMetrics_samples hmetric
  rw [Metric.braces, hsamples]
  exact count_channelLabel i

theorem length_comments_clients (samples : List (List UInt8 × List UInt8)) :
    (Metric.mk "stream_clients" "Connected clients" "gauge" samples).comments.length = 68 := by
  simp only [Metric.comments]
  decide

/-- Each text that is appended adds no more than what it has of a byte. -/
theorem count_foldl_strncat_le {texts : ℕ → List UInt8} {c : UInt8} {k : ℕ}
    (h : ∀ i, (texts i).count c ≤ k) (channels : List ℕ) (buffer : List UInt8) :
    (channels.foldl (fun buffer i => strncat buffer (texts i) (2048 - buffer.length - 1))
      buffer).count c ≤ buffer.count c + k * channels.length := by
  induction channels generalizing buffer with
  | nil => exact Nat.le_refl _
  | cons i channels ih =>
    have hrest := ih (strncat buffer (texts i) (2048 - buffer.length - 1))
    have htake := (List.take_sublist (2048 - buffer.length - 1) (texts i)).count_le c
    have hadded := h i
    have hcount : (strncat buffer (texts i) (2048 - buffer.length - 1)).count c =
        buffer.count c + ((texts i).take (2048 - buffer.length - 1)).count c := List.count_append
    rw [List.foldl_cons, List.length_cons, Nat.mul_succ]
    omega

/-- The text of a channel has its last label behind the end of the buffer. -/
theorem count_snprintf_channel_le (hprint : ∀ x, brace ∉ printF2 x) (now : ℤ) (i : ℕ) :
    (snprintf 512 ((channelMetrics printF2 s i).flatMap (Metric.text now))).count brace ≤ 4 := by
  have hplain := channelMetrics_plain (s := s) hprint i
  have hleading : ∀ metric ∈ (channelMetrics printF2 s i).take 4,
      metric ∈ channelMetrics printF2 s i := fun metric => List.mem_of_mem_take
  obtain ⟨last, hlast, hcomments⟩ : ∃ last, channelMetrics printF2 s i =
      (channelMetrics printF2 s i).take 4 ++ [last] ∧ last.comments.length = 68 :=
    ⟨_, rfl, length_comments_clients _⟩
  generalize hfront : (channelMetrics printF2 s i).take 4 = front at hlast hleading
  have hlength : 474 ≤ (front.flatMap (Metric.text now)).length := by
    have hsize : (front.map fun metric => metric.size + 12).sum = 474 := by
      rw [← hfront]
      simp only [channelMetrics, List.take_succ_cons, List.take_zero, List.map_cons, List.map_nil,
        Metric.size]
      decide
    rw [← hsize]
    refine le_length_texts (fun metric hmetric => ?_) now
    obtain ⟨value, hsamples⟩ := exists_channelMetrics_samples (hleading metric hmetric)
    exact ⟨_, hsamples, le_length_channelLabel i⟩
  have hcount : (front.flatMap (Metric.text now)).count brace = 4 := by
    have hbraces : front.map Metric.braces = front.map fun _ => 1 :=
      List.map_congr_left fun metric hmetric => braces_channelMetrics (hleading metric hmetric)
    have hfour : front.length = 4 := by rw [← hfront]; rfl
    rw [count_texts (fun metric hmetric => hplain metric (hleading metric hmetric)), hbraces,
      List.map_const', hfour]
    rfl
  have hlastPlain : last.Plain := hplain last (by rw [hlast]; simp)
  have htext : (channelMetrics printF2 s i).flatMap (Metric.text now) =
      (front.flatMap (Metric.text now) ++ last.comments) ++
        ((last.samples.flatMap fun sample => last.line now sample ++ ascii "\n") ++
          ascii "\n") := by
    rw [hlast, List.flatMap_append, List.flatMap_singleton, Metric.text, List.append_assoc,
      List.append_assoc]
  rw [snprintf, htext, List.take_append_of_le_length (by rw [List.length_append]; omega)]
  refine Nat.le_trans ((List.take_sublist _ _).count_le brace) ?_
  rw [List.count_append, hcount, hlastPlain.count_comments]

/-- Four channels, each with no more than four labels. -/
theorem count_streamMetricsBuffer_le (hprint : ∀ x, brace ∉ printF2 x) (now : ℤ) :
    (streamMetricsBuffer printF2 s now).count brace ≤ 16 :=
  count_foldl_strncat_le (count_snprintf_channel_le hprint now) (List.range fsChnNum) []

/-- The three load averages have labels. -/
theorem count_globalMetrics (hprint : ∀ x, brace ∉ printF2 x) (now : ℤ) :
    ((globalMetrics printF2 s).flatMap (Metric.text now)).count brace = 3 := by
  rw [count_texts (globalMetrics_plain hprint)]
  simp only [globalMetrics, List.map_cons, List.map_nil, Metric.braces]
  decide

end Cut

/-- Different texts that are among the lines of a text, each with a byte, are no more than the
times that this byte is in the text. -/
theorem length_le_count {samples lines : List (List UInt8)} {c : UInt8} (hnodup : samples.Nodup)
    (hsubset : samples ⊆ lines) (hmem : ∀ sample ∈ samples, c ∈ sample) :
    samples.length ≤ (lines.flatMap (· ++ [10])).count c := by
  have hsamples : samples.countP (c ∈ ·) = samples.length := by
    rw [List.countP_eq_length]
    intro sample hsample
    exact decide_eq_true (hmem sample hsample)
  have hlines : ∀ lines : List (List UInt8),
      lines.countP (c ∈ ·) ≤ (lines.flatMap (· ++ [10])).count c := by
    intro lines
    induction lines with
    | nil => exact Nat.le_refl 0
    | cons line lines ih =>
      rw [List.flatMap_cons, List.count_append, List.count_append, List.countP_cons]
      by_cases hline : c ∈ line
      · have hpos := List.count_pos_iff.mpr hline
        rw [if_pos (decide_eq_true hline)]
        omega
      · rw [if_neg (by simpa using hline)]
        omega
  rw [← hsamples]
  exact Nat.le_trans ((List.subperm_of_subset hnodup hsubset).countP_le _) (hlines lines)

/-! ### The lines of the channels -/

section Lines

variable {D : Type} (printF2 : D → List UInt8) (s : MetricsState D) (now : ℤ)

/-- The lines of the samples of a channel. -/
def channelLines (i : ℕ) : List (List UInt8) :=
  (channelMetrics printF2 s i).flatMap fun metric => metric.samples.map (metric.line now)

/-- A line up to the end of its labels. -/
def lineKey (line : List UInt8) : List UInt8 := line.takeWhile (· ≠ 125)

/-- The name and the label tell the lines of the channels apart. -/
theorem lineKey_line {name help kind : String} {samples : List (List UInt8 × List UInt8)}
    (hname : (ascii name).all (· ≠ 125) = true) (i : ℕ) (value : List UInt8) :
    lineKey (Metric.line ⟨name, help, kind, samples⟩ now (channelLabel i, value)) =
      ascii name ++ (ascii "\x7bchannel=\"" ++ printInt i ++ ascii "\"") := by
  have hopen : (ascii "\x7bchannel=\"").all (· ≠ 125) = true := by decide
  have hclose : ascii "\"\x7d" = ascii "\"" ++ [125] := by decide
  have hquote : (ascii "\"").all (· ≠ 125) = true := by decide
  have hnumber : (printInt i).all (· ≠ 125) = true := by
    rw [printInt_natCast, List.all_eq_true]
    intro c hc
    have hdigit := isDigit_of_mem_digits hc
    refine decide_eq_true fun hbrace => ?_
    rw [hbrace] at hdigit
    exact absurd hdigit (by decide)
  have hkey : (ascii name ++ (ascii "\x7bchannel=\"" ++ printInt i ++ ascii "\"")).all
      (· ≠ 125) = true := by
    rw [List.all_append, List.all_append, List.all_append, hname, hopen, hnumber, hquote]
    rfl
  have hline : Metric.line ⟨name, help, kind, samples⟩ now (channelLabel i, value) =
      (ascii name ++ (ascii "\x7bchannel=\"" ++ printInt i ++ ascii "\"")) ++
        125 :: (ascii " " ++ value ++ ascii " " ++ printInt now) := by
    simp only [Metric.line, channelLabel, hclose, List.append_assoc, List.cons_append,
      List.nil_append]
  rw [lineKey, hline, List.takeWhile_append_of_pos (List.all_eq_true.mp hkey),
    List.takeWhile_cons_of_neg (by simp), List.append_nil]

/-- The names of the metrics of a channel. -/
def channelNames : List String :=
  ["stream_fps", "stream_frame_count", "stream_error_count", "stream_frame_size_bytes",
    "stream_clients"]

theorem map_lineKey_channelLines (i : ℕ) :
    (channelLines printF2 s now i).map lineKey = channelNames.map fun name =>
      ascii name ++ (ascii "\x7bchannel=\"" ++ printInt i ++ ascii "\"") := by
  simp only [channelLines, channelMetrics, List.flatMap_cons, List.flatMap_nil, List.map_append,
    List.map_cons, List.map_nil]
  rw [lineKey_line now (by decide), lineKey_line now (by decide), lineKey_line now (by decide),
    lineKey_line now (by decide), lineKey_line now (by decide)]
  rfl

theorem nodup_channelLines :
    ((List.range fsChnNum).flatMap (channelLines printF2 s now)).Nodup := by
  have hkeys : ((List.range fsChnNum).flatMap fun (i : ℕ) => channelNames.map fun name =>
      ascii name ++ (ascii "\x7bchannel=\"" ++ printInt i ++ ascii "\"")).Nodup := by
    decide +kernel
  refine List.Nodup.of_map lineKey ?_
  rw [List.map_flatMap]
  simpa only [map_lineKey_channelLines] using hkeys

end Lines

section Request

variable {D : Type} {printF2 : D → List UInt8} {s : MetricsState D}

/-- What fits the buffers has 19 labels, or less. -/
theorem count_body_le (hprint : ∀ x, brace ∉ printF2 x) (now : ℤ) :
    (snprintf 4096 ((globalMetrics printF2 s).flatMap (Metric.text now) ++
      streamMetricsBuffer printF2 s now)).count brace ≤ 19 := by
  refine Nat.le_trans ((List.take_sublist _ _).count_le brace) ?_
  have hstreams := count_streamMetricsBuffer_le (s := s) hprint now
  rw [List.count_append, count_globalMetrics hprint]
  omega

/-- All the metrics have 23 labels. -/
theorem count_allMetrics (hprint : ∀ x, brace ∉ printF2 x) (now : ℤ) :
    ((allMetrics printF2 s).flatMap (Metric.text now)).count brace = 23 := by
  have hplain : ∀ metric ∈ (List.range fsChnNum).flatMap (channelMetrics printF2 s),
      metric.Plain := by
    intro metric hmetric
    obtain ⟨i, -, hchannel⟩ := List.mem_flatMap.mp hmetric
    exact channelMetrics_plain hprint i metric hchannel
  have hbraces : ((List.range fsChnNum).flatMap (channelMetrics printF2 s)).map Metric.braces =
      ((List.range fsChnNum).flatMap (channelMetrics printF2 s)).map fun _ => 1 := by
    refine List.map_congr_left fun metric hmetric => ?_
    obtain ⟨i, -, hchannel⟩ := List.mem_flatMap.mp hmetric
    exact braces_channelMetrics hchannel
  have hlength : ((List.range fsChnNum).flatMap (channelMetrics printF2 s)).length = 20 := rfl
  rw [allMetrics, List.flatMap_append, List.count_append, count_globalMetrics hprint,
    count_texts hplain, hbraces, List.map_const', hlength]
  rfl

/-- A text with 19 labels does not have the samples of all channels. -/
theorem not_samplesOnce (hprint : ∀ x, brace ∉ printF2 x) (now : ℤ) {text : List UInt8}
    (hcount : text.count brace ≤ 19) : ¬SamplesOnce (allMetrics printF2 s) now text := by
  rintro ⟨lines, rest, rfl, -, -, honce⟩
  have hsample : ∀ line ∈ (List.range fsChnNum).flatMap (channelLines printF2 s now),
      line ∈ lines ∧ brace ∈ line := by
    intro line hline
    obtain ⟨i, hi, hchannel⟩ := List.mem_flatMap.mp hline
    obtain ⟨metric, hmetric, hline⟩ := List.mem_flatMap.mp hchannel
    obtain ⟨sample, hsample, rfl⟩ := List.mem_map.mp hline
    obtain ⟨value, hsamples⟩ := exists_channelMetrics_samples hmetric
    have hall : metric ∈ allMetrics printF2 s :=
      List.mem_append_right _ (List.mem_flatMap.mpr ⟨i, hi, hmetric⟩)
    have hlabel : sample.1.count brace = 1 := by
      rw [hsamples] at hsample
      rw [List.mem_singleton.mp hsample]
      exact count_channelLabel i
    have hlineCount := (channelMetrics_plain hprint i metric hmetric).count_line now hsample
    have hlinesCount := honce metric hall sample hsample
    exact ⟨List.count_pos_iff.mp (by omega), List.count_pos_iff.mp (by omega)⟩
  have hle := length_le_count (nodup_channelLines printF2 s now)
    (fun line hline => (hsample line hline).1) (fun line hline => (hsample line hline).2)
  have hlength : ((List.range fsChnNum).flatMap (channelLines printF2 s now)).length = 20 := rfl
  rw [List.count_append] at hcount
  omega

end Request

/-- In every state of a module that is enabled, samples are missing from the exposition, and
buffers have cut it. -/
theorem metricsHandlePrometheusRequest_incomplete {D : Type} (printF2 : D → List UInt8)
    (hprint : ∀ x, brace ∉ printF2 x) (s : MetricsState D) (now : ℤ)
    (henabled : s.isEnabled = true) :
    ∃ contentType body,
      metricsHandlePrometheusRequest printF2 s now = .response 200 contentType body ∧
        ¬SamplesOnce (allMetrics printF2 s) now body ∧
        ¬NotCut (allMetrics printF2 s) now body := by
  have hcount := count_body_le (s := s) hprint now
  refine ⟨_, _, by rw [metricsHandlePrometheusRequest, if_neg (by simp [henabled])],
    not_samplesOnce hprint now hcount, fun hwhole => ?_⟩
  rw [NotCut] at hwhole
  rw [hwhole, count_allMetrics hprint] at hcount
  omega

/-- A module that runs, before anything is collected. -/
def started : MetricsState Unit where
  initialized := true
  configEnabled := true
  running := true
  currentProcess := ⟨0, 0, 0, 0⟩
  currentStreams _ := ⟨(), 0, 0, 0, 0, 0⟩
  currentSystem := ⟨0, ((), (), ())⟩
  collectionsCount := 0

theorem brace_notMem_zero : ∀ x : Unit, brace ∉ (fun _ : Unit => ascii "0.00") x := by
  have hzero : brace ∉ ascii "0.00" := by decide
  exact fun _ => hzero

theorem metricsHandlePrometheusRequest_incomplete_started :
    ∃ contentType body,
      metricsHandlePrometheusRequest (fun _ => ascii "0.00") started 0 =
          .response 200 contentType body ∧
        ¬SamplesOnce (allMetrics (fun _ => ascii "0.00") started) 0 body ∧
        ¬NotCut (allMetrics (fun _ => ascii "0.00") started) 0 body :=
  metricsHandlePrometheusRequest_incomplete _ brace_notMem_zero started 0 rfl

/-- Even with a digit for each number the exposition is not complete. -/
theorem not_metricsHandlePrometheusRequest_complete :
    ¬∀ (printF2 : Unit → List UInt8), (∀ x, brace ∉ printF2 x) →
      ∀ (s : MetricsState Unit) (now : ℤ), s.isEnabled = true →
        ∃ contentType body,
          metricsHandlePrometheusRequest printF2 s now = .response 200 contentType body ∧
            Complete (allMetrics printF2 s) now body := by
  intro h
  obtain ⟨_, body, hresponse, hcomplete⟩ := h _ brace_notMem_zero started 0 rfl
  have hbody := count_body_le (s := started) brace_notMem_zero 0
  rw [metricsHandlePrometheusRequest, if_neg (by decide)] at hresponse
  injection hresponse with _ _ htext
  rw [htext] at hbody
  exact not_samplesOnce brace_notMem_zero 0 hbody hcomplete.samples

end Metrics
