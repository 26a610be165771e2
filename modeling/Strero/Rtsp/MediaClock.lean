import Mathlib.Data.List.Chain
import Strero.Rtsp.FrameSender

/-!
# The clock of a channel

`calculate_monotonic_rtp_timestamp` is called for each frame and for each client, and adds to
the timestamp of the channel the ticks of the time since the call before. The part of a tick
that is cut off at each call is not carried on to the next one.
-/

namespace Rtsp

/-! ### Calls and what they return -/

/-- A call, with the time it reads and the random number that it may draw. -/
structure ClockCall where
  channel : Fin 4
  currentTime : UInt64
  random : UInt32

/-- A reading of the clock and the timestamp returned for it. -/
structure Stamp where
  time : UInt64
  timestamp : UInt32
deriving DecidableEq, Repr

/-- The readings of a channel and the timestamps returned for them, in a run of calls on all
channels. -/
def RtpClock.stamps (channel : Fin 4) (clock : RtpClock) : List ClockCall → List Stamp
  | [] => []
  | call :: calls =>
    let r := calculateMonotonicRtpTimestamp clock call.channel call.currentTime call.random
    if call.channel = channel then ⟨call.currentTime, r.2⟩ :: r.1.stamps channel calls
    else r.1.stamps channel calls

/-- The clock after some calls. -/
def RtpClock.after (clock : RtpClock) (calls : List ClockCall) : RtpClock :=
  calls.foldl (fun clock call =>
    (calculateMonotonicRtpTimestamp clock call.channel call.currentTime call.random).1) clock

/-- The ticks that are counted for a number of microseconds. -/
def countedTicks (elapsedUs : ℕ) : ℕ := elapsedUs * 90000 % 2 ^ 64 / 1000000

/-- The channel has been read, and this is its last stamp. -/
def RtpClock.LastStamp (clock : RtpClock) (channel : Fin 4) (last : Stamp) : Prop :=
  clock.initialized channel = true ∧ clock.lastFrameTime channel = last.time ∧
    clock.baseTimestamp channel = last.timestamp

/-- A stamp is the stamp before it, moved on by the ticks in between. -/
def Stamp.Follows (before next : Stamp) : Prop :=
  next.timestamp =
    before.timestamp + UInt32.ofNat (countedTicks (next.time - before.time).toNat)

variable {clock : RtpClock} {channel : Fin 4}

/-- A call leaves its own stamp. -/
theorem calculateMonotonicRtpTimestamp_lastStamp (clock : RtpClock) (channel : Fin 4)
    (currentTime : UInt64) (random : UInt32) :
    let r := calculateMonotonicRtpTimestamp clock channel currentTime random
    r.1.LastStamp channel ⟨currentTime, r.2⟩ := by
  unfold calculateMonotonicRtpTimestamp RtpClock.LastStamp
  by_cases hinit : clock.initialized channel = true
  · simp [hinit]
  · simp [hinit]

/-- A call on another channel changes nothing for this one. -/
theorem RtpClock.LastStamp.of_ne {last : Stamp} (h : clock.LastStamp channel last)
    {other : Fin 4} (hne : channel ≠ other) (currentTime : UInt64) (random : UInt32) :
    (calculateMonotonicRtpTimestamp clock other currentTime random).1.LastStamp channel last := by
  obtain ⟨hinit, htime, htimestamp⟩ := h
  unfold calculateMonotonicRtpTimestamp RtpClock.LastStamp
  by_cases hother : clock.initialized other = true
  · simp [hother, Function.update_of_ne hne, hinit, htime, htimestamp]
  · simp [hother, Function.update_of_ne hne, hinit, htime, htimestamp]

/-- The stamp of a call follows the last stamp of its channel. -/
theorem RtpClock.LastStamp.follows {last : Stamp} (h : clock.LastStamp channel last)
    (currentTime : UInt64) (random : UInt32) :
    last.Follows
      ⟨currentTime, (calculateMonotonicRtpTimestamp clock channel currentTime random).2⟩ := by
  obtain ⟨hinit, htime, htimestamp⟩ := h
  have hticks : ((currentTime - last.time) * 90000 / 1000000).toUInt32 =
      UInt32.ofNat (countedTicks (currentTime - last.time).toNat) := by
    apply UInt32.toNat_inj.mp
    simp [countedTicks]
  simp only [calculateMonotonicRtpTimestamp, hinit, if_true, htime, htimestamp, Stamp.Follows,
    hticks]

/-- Each stamp of a channel that has been read follows the one before, whatever is called on the
other channels. -/
theorem RtpClock.LastStamp.isChain_stamps {last : Stamp} (h : clock.LastStamp channel last)
    (calls : List ClockCall) :
    List.IsChain Stamp.Follows (last :: clock.stamps channel calls) := by
  induction calls generalizing clock last with
  | nil => exact List.isChain_singleton last
  | cons call calls ih =>
    rw [RtpClock.stamps]
    by_cases hchannel : call.channel = channel
    · subst hchannel
      rw [if_pos rfl]
      refine List.isChain_cons_cons.mpr ⟨h.follows call.currentTime call.random, ?_⟩
      exact ih (calculateMonotonicRtpTimestamp_lastStamp clock _ _ _)
    · rw [if_neg hchannel]
      exact ih (h.of_ne (Ne.symm hchannel) call.currentTime call.random)

/-- Each stamp of a channel follows the one before. -/
theorem RtpClock.isChain_stamps (channel : Fin 4) (clock : RtpClock) (calls : List ClockCall) :
    List.IsChain Stamp.Follows (clock.stamps channel calls) := by
  induction calls generalizing clock with
  | nil => exact List.isChain_nil
  | cons call calls ih =>
    rw [RtpClock.stamps]
    by_cases hchannel : call.channel = channel
    · subst hchannel
      rw [if_pos rfl]
      exact (calculateMonotonicRtpTimestamp_lastStamp clock _ _ _).isChain_stamps calls
    · rw [if_neg hchannel]
      exact ih _

/-! ### Ticks that are lost -/

/-- What the multiplication and the division cut off, in millionths of a tick. -/
def cutOff (elapsedUs : ℕ) : ℕ :=
  elapsedUs * 90000 / 2 ^ 64 * 2 ^ 64 + elapsedUs * 90000 % 2 ^ 64 % 1000000

/-- What is cut off between the readings, in millionths of a tick. -/
def totalCutOff : List UInt64 → ℕ
  | before :: next :: times => cutOff (next - before).toNat + totalCutOff (next :: times)
  | _ => 0

/-- The ticks that are lost between the readings. -/
def lostTicks (times : List UInt64) : ℕ := totalCutOff times / 1000000

/-- What is counted and what is cut off make up the whole time. -/
theorem countedTicks_add_cutOff (elapsedUs : ℕ) :
    1000000 * countedTicks elapsedUs + cutOff elapsedUs = elapsedUs * 90000 := by
  have hproduct := Nat.div_add_mod' (elapsedUs * 90000) (2 ^ 64)
  have hdivision := Nat.div_add_mod (elapsedUs * 90000 % 2 ^ 64) 1000000
  unfold countedTicks cutOff
  omega

/-- If 64 bits are enough for the product, then less than one tick is cut off. -/
theorem cutOff_lt {elapsedUs : ℕ} (hfits : elapsedUs * 90000 < 2 ^ 64) :
    cutOff elapsedUs < 1000000 := by
  rw [cutOff, Nat.div_eq_of_lt hfits, Nat.zero_mul, Nat.zero_add]
  exact Nat.mod_lt _ (by decide)

/-- Up to three readings lose a tick at most, and each further one loses at most one more. -/
theorem lostTicks_le {times : List UInt64}
    (hfits : List.IsChain (fun before next => (next - before).toNat * 90000 < 2 ^ 64) times) :
    lostTicks times ≤ times.length - 2 := by
  have htotal : totalCutOff times ≤ 999999 * (times.length - 1) := by
    induction times with
    | nil => exact Nat.zero_le _
    | cons before times ih =>
      cases times with
      | nil => exact Nat.zero_le _
      | cons next times =>
        obtain ⟨hgap, hrest⟩ := List.isChain_cons_cons.mp hfits
        have := cutOff_lt hgap
        have := ih hrest
        simp only [totalCutOff, List.length_cons, Nat.add_sub_cancel] at this ⊢
        omega
  rw [lostTicks]
  omega

/-- The last of a chain of stamps with readings that do not decrease is moved on from the first
by all ticks of the time in between, less those that are lost. -/
theorem timestamp_getLast {first : Stamp} {stamps : List Stamp}
    (hchain : List.IsChain Stamp.Follows (first :: stamps))
    (hsorted : List.IsChain (· ≤ ·) ((first :: stamps).map Stamp.time)) :
    let last := (first :: stamps).getLast (List.cons_ne_nil _ _)
    first.time ≤ last.time ∧ ∃ ticks, last.timestamp = first.timestamp + UInt32.ofNat ticks ∧
      1000000 * ticks + totalCutOff ((first :: stamps).map Stamp.time) =
        (last.time - first.time).toNat * 90000 := by
  induction stamps generalizing first with
  | nil => exact ⟨UInt64.le_refl _, 0, by simp, by simp [totalCutOff]⟩
  | cons next stamps ih =>
    obtain ⟨hfollows, hchain⟩ := List.isChain_cons_cons.mp hchain
    obtain ⟨hle, hsorted⟩ := List.isChain_cons_cons.mp hsorted
    obtain ⟨hlater, ticks, htimestamp, hticks⟩ := ih hchain hsorted
    rw [List.getLast_cons (List.cons_ne_nil _ _)]
    generalize (next :: stamps).getLast (List.cons_ne_nil _ _) = last at hlater htimestamp hticks ⊢
    have hgap := countedTicks_add_cutOff (next.time - first.time).toNat
    refine ⟨UInt64.le_trans hle hlater, countedTicks (next.time - first.time).toNat + ticks, ?_, ?_⟩
    · rw [htimestamp, hfollows, UInt32.ofNat_add, UInt32.add_assoc]
    · have htotal : totalCutOff ((first :: next :: stamps).map Stamp.time) =
          cutOff (next.time - first.time).toNat +
            totalCutOff ((next :: stamps).map Stamp.time) := rfl
      rw [htotal, UInt64.toNat_sub_of_le _ _ (UInt64.le_trans hle hlater)]
      rw [UInt64.toNat_sub_of_le _ _ hlater] at hticks
      rw [UInt64.toNat_sub_of_le _ _ hle] at hgap ⊢
      have := UInt64.le_iff_toNat_le.mp hle
      have := UInt64.le_iff_toNat_le.mp hlater
      omega

/-- The readings of a channel. -/
def channelTimes (channel : Fin 4) (calls : List ClockCall) : List UInt64 :=
  (calls.filter fun call => call.channel = channel).map ClockCall.currentTime

/-- There is one stamp for each reading. -/
theorem stamps_map_time (channel : Fin 4) (clock : RtpClock) (calls : List ClockCall) :
    (clock.stamps channel calls).map Stamp.time = channelTimes channel calls := by
  induction calls generalizing clock with
  | nil => rfl
  | cons call calls ih =>
    rw [RtpClock.stamps]
    by_cases hchannel : call.channel = channel
    · simp [hchannel, channelTimes, ih]
    · simp [hchannel, channelTimes, ih]

/-! ### Drift -/

/-- From the first to the last stamp the media time advances at 90 kHz, with at most one tick
more or less, and equal readings give equal timestamps. -/
def KeepsTime (stamps : List Stamp) : Prop :=
  (∀ first ∈ stamps.head?, ∀ last ∈ stamps.getLast?,
    last.timestamp - first.timestamp -
      UInt32.ofNat ((last.time - first.time).toNat * 90000 / 1000000) ∈ [0, 1, -1]) ∧
    ∀ a ∈ stamps, ∀ b ∈ stamps, a.time = b.time → a.timestamp = b.timestamp

/-- What was read no later than the first of a chain of stamps has its timestamp. -/
theorem timestamp_eq_of_mem {first b : Stamp} {stamps : List Stamp}
    (hchain : List.IsChain Stamp.Follows (first :: stamps))
    (hsorted : List.IsChain (· ≤ ·) ((first :: stamps).map Stamp.time))
    (hmem : b ∈ stamps) : first.time ≤ b.time ∧
      (b.time = first.time → b.timestamp = first.timestamp) := by
  induction stamps generalizing first with
  | nil => cases hmem
  | cons next stamps ih =>
    obtain ⟨hfollows, hchain⟩ := List.isChain_cons_cons.mp hchain
    obtain ⟨hle, hsorted⟩ := List.isChain_cons_cons.mp hsorted
    have hnext : next.time = first.time → next.timestamp = first.timestamp := by
      intro heq
      rw [hfollows, heq, UInt64.sub_self]
      exact UInt32.add_zero _
    rcases List.mem_cons.mp hmem with rfl | hmem
    · exact ⟨hle, hnext⟩
    · obtain ⟨hlater, hequal⟩ := ih hchain hsorted hmem
      refine ⟨UInt64.le_trans hle hlater, fun heq => ?_⟩
      have hnextTime : next.time = first.time := UInt64.le_antisymm (heq ▸ hlater) hle
      rw [hequal (heq.trans hnextTime.symm), hnext hnextTime]

/-- Equal readings give equal timestamps. -/
theorem timestamp_eq_of_time_eq {stamps : List Stamp}
    (hchain : List.IsChain Stamp.Follows stamps)
    (hsorted : List.IsChain (· ≤ ·) (stamps.map Stamp.time)) {a b : Stamp} (ha : a ∈ stamps)
    (hb : b ∈ stamps) (heq : a.time = b.time) : a.timestamp = b.timestamp := by
  induction stamps with
  | nil => cases ha
  | cons first stamps ih =>
    rcases List.mem_cons.mp ha with rfl | ha' <;> rcases List.mem_cons.mp hb with rfl | hb'
    · rfl
    · exact ((timestamp_eq_of_mem hchain hsorted hb').2 heq.symm).symm
    · exact (timestamp_eq_of_mem hchain hsorted ha').2 heq
    · exact ih hchain.tail hsorted.tail ha' hb'

/-- One tick less, or one more, as a number modulo 2^32. -/
theorem neg_ofNat_mem_iff (n : ℕ) :
    -UInt32.ofNat n ∈ ([0, 1, -1] : List UInt32) ↔ n % 2 ^ 32 ∈ [0, 1, 2 ^ 32 - 1] := by
  have htoNat : (UInt32.ofNat n).toNat = n % 2 ^ 32 := UInt32.toNat_ofNat'
  rw [← htoNat]
  generalize UInt32.ofNat n = x
  have hx := x.toNat_lt
  have hone : (1 : UInt32).toNat = 1 := rfl
  have hless : (-1 : UInt32).toNat = 2 ^ 32 - 1 := rfl
  simp only [List.mem_cons, List.not_mem_nil, or_false, ← UInt32.toNat_inj, UInt32.toNat_neg,
    UInt32.size, UInt32.toNat_zero, hone, hless]
  omega

/-- The clock of a channel keeps time exactly if the ticks that are lost are none or one, or as
good as that modulo 2^32. -/
theorem keepsTime_stamps_iff (clock : RtpClock) (channel : Fin 4) (calls : List ClockCall)
    (hsorted : List.IsChain (· ≤ ·) (channelTimes channel calls)) :
    KeepsTime (clock.stamps channel calls) ↔
      lostTicks (channelTimes channel calls) % 2 ^ 32 ∈ [0, 1, 2 ^ 32 - 1] := by
  have hchain := clock.isChain_stamps channel calls
  rw [← stamps_map_time channel clock calls] at hsorted ⊢
  generalize clock.stamps channel calls = stamps at hchain hsorted
  rw [KeepsTime, and_iff_left fun a ha b hb => timestamp_eq_of_time_eq hchain hsorted ha hb]
  cases stamps with
  | nil => simp [lostTicks, totalCutOff]
  | cons first stamps =>
    obtain ⟨-, ticks, htimestamp, hticks⟩ := timestamp_getLast hchain hsorted
    rw [List.head?_cons, List.getLast?_eq_some_getLast (List.cons_ne_nil _ _)]
    simp only [Option.mem_some_iff, forall_eq']
    generalize (first :: stamps).getLast (List.cons_ne_nil _ _) = last at htimestamp hticks ⊢
    rw [← hticks, htimestamp, lostTicks]
    generalize totalCutOff ((first :: stamps).map Stamp.time) = cut
    have hfloor : (1000000 * ticks + cut) / 1000000 = ticks + cut / 1000000 :=
      Nat.mul_add_div (by decide) ticks cut
    have hlost : first.timestamp + UInt32.ofNat ticks - first.timestamp -
        UInt32.ofNat ((1000000 * ticks + cut) / 1000000) = -UInt32.ofNat (cut / 1000000) := by
      rw [hfloor, UInt32.ofNat_add]
      grind
    rw [hlost, neg_ofNat_mem_iff]

/-- The readings of four calls that are 11 microseconds apart. -/
def closeCalls : List ClockCall :=
  [1000000, 1000011, 1000022, 1000033].map fun currentTime => ⟨0, currentTime, 0⟩

theorem keepsTime_closeCalls :
    KeepsTime (RtpClock.initial.stamps 0 closeCalls) ↔
      lostTicks (channelTimes 0 closeCalls) % 2 ^ 32 ∈ [0, 1, 2 ^ 32 - 1] :=
  keepsTime_stamps_iff .initial 0 closeCalls (by decide)

/-- Two ticks have passed at the last of these calls, and none has been counted. -/
theorem not_keepsTime_closeCalls : ¬KeepsTime (RtpClock.initial.stamps 0 closeCalls) := by
  intro h
  have hdrift := h.1 ⟨1000000, 0⟩ rfl ⟨1000033, 0⟩ rfl
  revert hdrift
  decide

end Rtsp
