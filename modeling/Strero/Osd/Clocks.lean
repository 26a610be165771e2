import Mathlib.Data.List.FinRange
import Strero.Lib.CString
import Strero.Lib.Runs
import Strero.Lib.Scanf

/-!
# The clocks on the displays

The time is drawn on the display of a channel when it has changed. What it has changed from is
kept in static variables of the function that draws it, and so by all channels together: a
channel is passed over if another one has drawn the same text in the same second.
-/

namespace Osd.Clocks

open CString Runs

/-- What the clock of a channel uses of its context. -/
structure Context where
  timeEnabled : Bool
  validatedTimeFormat : FixedString 64
deriving DecidableEq

/-- `strftime` into an array of 64 bytes, for a format and a time as `localtime` has it. The
result is 0 where the array is left empty. -/
abbrev Strftime := FixedString 64 → ℤ → FixedString 64

/-- The static variables of `osd_update_timestamp_current`. -/
structure Cache where
  lastTimestamp : FixedString 64
  lastTimestampTime : ℤ
deriving DecidableEq

/-- The region of the clock: the text that its picture was made of, and whether it is shown. -/
structure Region where
  picture : Option (FixedString 64)
  visible : Bool
deriving DecidableEq

/-- The text that is displayed. -/
def Region.displayed (region : Region) : Option (FixedString 64) :=
  if region.visible then region.picture else none

/-- Whether the functions that are called succeed. -/
structure Results where
  createTextBitmap : Bool
  setRgnAttr : Bool
  setGrpRgnAttr : Bool
  showRgn : Bool

/-- The time is the one that was drawn last. -/
def Cache.Found (cache : Cache) (now : ℤ) (timestamp : FixedString 64) : Prop :=
  now = cache.lastTimestampTime ∧ timestamp = cache.lastTimestamp

instance (cache : Cache) (now : ℤ) (timestamp : FixedString 64) :
    Decidable (cache.Found now timestamp) := inferInstanceAs (Decidable (_ ∧ _))

/-- The picture is drawn and shown. The attributes for the group make the region visible, too. -/
def drawTimestamp (timestamp : FixedString 64) (results : Results) (region : Region) :
    ℤ × Region :=
  if !results.createTextBitmap then (-1, region)
  else if !results.setRgnAttr then (-1, region)
  else if !results.setGrpRgnAttr then (-1, { region with picture := some timestamp })
  else if !results.showRgn then (-1, { picture := some timestamp, visible := true })
  else (0, { picture := some timestamp, visible := true })

/-- `osd_update_timestamp_current` at a time: what is returned, the static variables and the
region. -/
def updateTimestampCurrent (strftime : Strftime) (ctx : Context) (now : ℤ) (results : Results)
    (cache : Cache) (region : Region) : ℤ × Cache × Region :=
  if !ctx.timeEnabled then (0, cache, region)
  else
    let timestamp := strftime ctx.validatedTimeFormat now
    if timestamp.bytes = [] then (-1, cache, region)
    else if cache.Found now timestamp then (0, cache, region)
    else
      let drawn := drawTimestamp timestamp results region
      (drawn.1, ⟨.copy 64 size64_pos timestamp.bytes, now⟩, drawn.2)

/-! ### Calls for any channels -/

/-- The static variables and the regions of all channels. -/
structure State (ι : Type*) where
  cache : Cache
  region : ι → Region

/-- When the program starts. -/
def State.initial (ι : Type*) : State ι where
  cache := ⟨.copy 64 size64_pos [], 0⟩
  region := fun _ => ⟨none, false⟩

/-- A call for a channel, with the reading of the clock. -/
structure Call (ι : Type*) where
  channel : ι
  now : ℤ
  results : Results

section

variable {ι : Type*} (strftime : Strftime) (contexts : ι → Context)

/-- What a call does. -/
def outcome (s : State ι) (c : Call ι) : ℤ × Cache × Region :=
  updateTimestampCurrent strftime (contexts c.channel) c.now c.results s.cache (s.region c.channel)

/-- The formatted time for the channel of a call. -/
def timeText (c : Call ι) : FixedString 64 :=
  strftime (contexts c.channel).validatedTimeFormat c.now

/-- A call for an enabled channel that finds its time drawn finds it on its own display. -/
def FoundOnDisplay (s : State ι) (c : Call ι) : Prop :=
  (contexts c.channel).timeEnabled = true → (timeText strftime contexts c).bytes ≠ [] →
    s.cache.Found c.now (timeText strftime contexts c) →
    (s.region c.channel).displayed = some (timeText strftime contexts c)

variable {strftime contexts} {s : State ι} {c : Call ι}

/-- What is drawn with success is displayed. -/
theorem displayed_of_drawTimestamp {timestamp : FixedString 64} {results : Results}
    {region : Region} (h : (drawTimestamp timestamp results region).1 = 0) :
    (drawTimestamp timestamp results region).2.displayed = some timestamp := by
  revert h
  unfold drawTimestamp
  split_ifs <;> simp [Region.displayed]

/-- A call for an enabled channel fails, is passed over, or draws. -/
theorem outcome_cases (henabled : (contexts c.channel).timeEnabled = true) :
    ((timeText strftime contexts c).bytes = [] ∧
      outcome strftime contexts s c = (-1, s.cache, s.region c.channel)) ∨
    ((timeText strftime contexts c).bytes ≠ [] ∧
      s.cache.Found c.now (timeText strftime contexts c) ∧
      outcome strftime contexts s c = (0, s.cache, s.region c.channel)) ∨
    ((timeText strftime contexts c).bytes ≠ [] ∧
      ¬s.cache.Found c.now (timeText strftime contexts c) ∧
      outcome strftime contexts s c =
        ((drawTimestamp (timeText strftime contexts c) c.results (s.region c.channel)).1,
          ⟨timeText strftime contexts c, c.now⟩,
          (drawTimestamp (timeText strftime contexts c) c.results (s.region c.channel)).2)) := by
  unfold timeText outcome updateTimestampCurrent
  rw [henabled]
  simp only [Bool.not_true, Bool.false_eq_true, if_false, FixedString.copy_bytes]
  by_cases hempty : (strftime (contexts c.channel).validatedTimeFormat c.now).bytes = []
  · left
    exact ⟨hempty, if_pos hempty⟩
  · right
    rw [if_neg hempty]
    by_cases hfound : s.cache.Found c.now
        (strftime (contexts c.channel).validatedTimeFormat c.now)
    · left
      exact ⟨hempty, hfound, if_pos hfound⟩
    · right
      exact ⟨hempty, hfound, if_neg hfound⟩

section Step

variable [DecidableEq ι] (strftime contexts)

def step (s : State ι) (c : Call ι) : State ι where
  cache := (outcome strftime contexts s c).2.1
  region := Function.update s.region c.channel (outcome strftime contexts s c).2.2

/-- After a successful call for an enabled channel its display shows the time. -/
def ShowsTime (s : State ι) (c : Call ι) : Prop :=
  (contexts c.channel).timeEnabled = true → (outcome strftime contexts s c).1 = 0 →
    ((step strftime contexts s c).region c.channel).displayed = some (timeText strftime contexts c)

variable {strftime contexts}

theorem step_region_self (s : State ι) (c : Call ι) :
    (step strftime contexts s c).region c.channel = (outcome strftime contexts s c).2.2 :=
  Function.update_self _ _ _

/-- One call: its display shows the time exactly if the time is not taken for drawn there when
it is not. -/
theorem showsTime_iff :
    ShowsTime strftime contexts s c ↔ FoundOnDisplay strftime contexts s c := by
  unfold ShowsTime FoundOnDisplay
  refine imp_congr_right fun henabled => ?_
  rw [step_region_self]
  rcases outcome_cases henabled with ⟨hempty, hfails⟩ | ⟨hsome, hfound, h⟩ | ⟨hsome, hfound, h⟩
  · rw [hfails]
    exact iff_of_true (fun h => absurd h (show (-1 : ℤ) ≠ 0 by decide)) fun h => absurd hempty h
  · rw [h]
    exact ⟨fun hshown _ _ => hshown rfl, fun hshown _ => hshown hsome hfound⟩
  · rw [h]
    exact iff_of_true displayed_of_drawTimestamp fun _ h => absurd h hfound

/-- In every run of calls for any channels, each successful one leaves its display with the time
exactly if each one that finds its time drawn finds it on its own display. -/
theorem clocks_showTime_iff (strftime : Strftime) (contexts : ι → Context) (s : State ι)
    (calls : List (Call ι)) :
    Guarded (step strftime contexts) (ShowsTime strftime contexts) s calls ↔
      Guarded (step strftime contexts) (FoundOnDisplay strftime contexts) s calls :=
  guarded_congr (fun _ => True) (fun _ _ _ => showsTime_iff) (fun _ _ _ _ => trivial) trivial

/-! ### One channel alone -/

/-- What was drawn last is on the display of the channel, once there was a time. -/
def LastOnDisplay (channel : ι) (s : State ι) : Prop :=
  s.cache.lastTimestamp.bytes ≠ [] → (s.region channel).displayed = some s.cache.lastTimestamp

omit [DecidableEq ι] in
theorem lastOnDisplay_initial (channel : ι) : LastOnDisplay channel (State.initial ι) :=
  fun h => absurd rfl h

/-- The call is for this channel, which is enabled, and the functions that it calls succeed. -/
def AloneWithSuccess (contexts : ι → Context) (channel : ι) (c : Call ι) : Prop :=
  c.channel = channel ∧ (contexts channel).timeEnabled = true ∧ c.results = ⟨true, true, true, true⟩

/-- One such call keeps it there, and finds on the display what it finds drawn. -/
theorem LastOnDisplay.step {channel : ι} (hs : LastOnDisplay channel s)
    (hc : AloneWithSuccess contexts channel c) :
    FoundOnDisplay strftime contexts s c ∧
      LastOnDisplay channel (step strftime contexts s c) := by
  obtain ⟨rfl, henabled, hresults⟩ := hc
  constructor
  · rintro - hsome ⟨-, htext⟩
    rw [htext] at hsome ⊢
    exact hs hsome
  · unfold LastOnDisplay
    rw [step_region_self]
    unfold Clocks.step
    rcases outcome_cases henabled with ⟨hempty, hfails⟩ | ⟨hsome, hfound, h⟩ | ⟨hsome, hfound, h⟩
    · rw [hfails]
      exact hs
    · rw [h]
      exact hs
    · rw [h]
      intro _
      refine displayed_of_drawTimestamp ?_
      rw [hresults]
      rfl

/-- A channel that is alone keeps its time as long as nothing fails. -/
theorem clocks_showTime_of_alone {channel : ι} {calls : List (Call ι)}
    (h : Guarded (step strftime contexts) (fun _ => AloneWithSuccess contexts channel)
      (State.initial ι) calls) :
    Guarded (step strftime contexts) (ShowsTime strftime contexts) (State.initial ι) calls := by
  refine h.imp (LastOnDisplay channel) (fun s c hs hc => ?_) (lastOnDisplay_initial channel)
  have hstep : FoundOnDisplay strftime contexts s c ∧ _ := hs.step hc
  exact ⟨showsTime_iff.mpr hstep.1, hstep.2⟩

end Step

end

/-! ### The timer thread -/

/-- `MAX_STREAMS`. -/
abbrev maxStreams : ℕ := 2

/-- What the timer thread finds at a channel in one round: whether its context is there and
initialized, its clients (none without a server), and the clock. -/
structure Visit where
  initialized : Bool
  clientCount : ℤ
  now : ℤ
  results : Results

/-- One round of `osd_timer_thread`. -/
def timerRound (visits : Fin maxStreams → Visit) : List (Call (Fin maxStreams)) :=
  (List.finRange maxStreams).filterMap fun channel =>
    if (visits channel).initialized = true ∧ 0 < (visits channel).clientCount then
      some ⟨channel, (visits channel).now, (visits channel).results⟩
    else none

/-- The calls of `osd_timer_thread` while it runs. -/
def osdTimerThread (rounds : List (Fin maxStreams → Visit)) : List (Call (Fin maxStreams)) :=
  rounds.flatMap timerRound

/-- Two digits. -/
def twoDigits (n : ℤ) : List UInt8 :=
  [48 + UInt8.ofNat (n / 10).toNat, 48 + UInt8.ofNat (n % 10).toNat]

/-- What `strftime` writes for the format `%H:%M:%S` where the time is that of UTC. -/
def hoursMinutesSeconds : Strftime := fun _ now =>
  .copy 64 size64_pos (twoDigits (now / 3600 % 24) ++ ascii ":" ++ twoDigits (now / 60 % 60) ++
    ascii ":" ++ twoDigits (now % 60))

/-- Two channels with the same format. -/
def sameFormat : Fin maxStreams → Context :=
  fun _ => ⟨true, .copy 64 size64_pos (ascii "%H:%M:%S")⟩

/-- A visit to a channel with one client, in a second of the first day. -/
def visitAt (now : ℤ) : Visit := ⟨true, 1, now, ⟨true, true, true, true⟩⟩

instance {ι : Type*} [DecidableEq ι] (strftime : Strftime) (contexts : ι → Context) (s : State ι)
    (c : Call ι) : Decidable (ShowsTime strftime contexts s c) :=
  inferInstanceAs (Decidable (_ = true → _ = 0 → _ = _))

/-- In the first round of the timer thread the second channel is passed over. -/
theorem not_sameSecond_showTime :
    ¬Guarded (step hoursMinutesSeconds sameFormat) (ShowsTime hoursMinutesSeconds sameFormat)
      (State.initial (Fin maxStreams)) (osdTimerThread [fun _ => visitAt 36000]) := by
  decide +kernel

end Osd.Clocks
