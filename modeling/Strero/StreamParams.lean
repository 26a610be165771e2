import Strero.FrameManager
import Strero.Lib.AnnexB
import Strero.Lib.Scan

/-!
# What the frame manager reads of a frame

The frame manager classifies a frame by its first picture behind a start code of four bytes,
and copies the first SPS and PPS of a channel. The offsets and sizes are unsigned, so a
difference below zero becomes a large number.
-/

namespace FrameManager

open AnnexB Scan

/-! ### Frames of the encoder -/

/-- The bytes of a frame are in one buffer, and an allocation takes less than half of the
addresses. -/
structure Frame where
  data : List UInt8
  fits : data.length < 2 ^ 31

/-- `frame_size - n`. -/
def Frame.sizeMinus (frame : Frame) (n : UInt32) : ℕ :=
  (UInt32.ofNat frame.data.length - n).toNat

theorem Frame.toNat_size (frame : Frame) :
    (UInt32.ofNat frame.data.length).toNat = frame.data.length :=
  UInt32.toNat_ofNat_of_lt (frame.fits.trans (by decide))

theorem Frame.sizeMinus_of_le (frame : Frame) {n : UInt32} (h : n.toNat ≤ frame.data.length) :
    frame.sizeMinus n = frame.data.length - n.toNat := by
  have hle : n ≤ UInt32.ofNat frame.data.length := by
    rwa [UInt32.le_iff_toNat_le, frame.toNat_size]
  rw [Frame.sizeMinus, UInt32.toNat_sub_of_le _ _ hle, frame.toNat_size]

/-- Below zero the difference is larger than any frame. -/
theorem Frame.lt_sizeMinus (frame : Frame) {n : UInt32} (hn : n.toNat < 2 ^ 31)
    (h : frame.data.length < n.toNat) : frame.data.length < frame.sizeMinus n := by
  rw [Frame.sizeMinus, UInt32.toNat_sub, frame.toNat_size]
  omega

/-! ### Frame types -/

/-- `frame_type_t`. -/
inductive FrameType
  | h264Idr | h264P | h265Idr | h265P | jpeg
deriving DecidableEq, Repr

/-- `detect_frame_type`. -/
def detectFrameType : List UInt8 → FrameType
  | 0 :: 0 :: 0 :: 1 :: b :: rest =>
    if b &&& 0x1F = 5 then .h264Idr
    else if b &&& 0x1F = 1 then .h264P
    else detectFrameType (0 :: 0 :: 1 :: b :: rest)
  | _ :: rest => detectFrameType rest
  | [] => .h264P

/-- `is_keyframe`. -/
def isKeyframe (type : FrameType) : Bool := type = .h264Idr || type = .h265Idr

/-- The first unit of type 1 or 5 behind a long start code decides. -/
theorem isKeyframe_detectFrameType (data : List UInt8) :
    isKeyframe (detectFrameType data) =
      ((longHeaders data).find? fun b => b &&& 0x1F = 5 || b &&& 0x1F = 1).any
        fun b => b &&& 0x1F = 5 := by
  fun_induction detectFrameType data with
  | case1 b rest hidr => simp [longHeaders, hidr, isKeyframe]
  | case2 b rest hidr hp => simp [longHeaders, hp, isKeyframe]
  | case3 b rest hidr hp ih => simp [longHeaders, hidr, hp, ih]
  | case4 a rest hlong ih => rw [longHeaders, ih]; exact hlong
  | case5 => rfl

/-! ### Parameter sets -/

/-- `stream_params_t`. -/
structure StreamParams where
  sps : Option (List UInt8)
  pps : Option (List UInt8)
  available : Bool
deriving DecidableEq

/-- `FS_CHN_NUM`. -/
def fsChnNum : ℕ := 4

/-- The search for a start code of either kind at an offset. -/
def endAt (frame : Frame) (offset : ℕ) (_ : Option ℕ) : Option (ℕ × Option ℕ) := do
  let long ← readsAs frame.data offset [0, 0, 0, 1]
  let found ← if long then some true else readsAs frame.data offset [0, 0, 1]
  return (0, if found then some offset else none)

/-- The first start code from an offset on, or the end of the frame. -/
def nalEnd (frame : Frame) (offset : ℕ) : Option ℕ :=
  (scan (frame.sizeMinus 3) Option.isNone (endAt frame) offset none).map
    (·.getD frame.data.length)

/-- A parameter set is copied unless there is one, if there is memory for it. -/
def copyParams (frame : Frame) (start stop : ℕ) (held : Option (List UInt8)) (allocated : Bool) :
    Option (Option (List UInt8)) :=
  if held = none ∧ allocated = true then (readPart frame.data start stop).map some else some held

/-- The offset behind a start code that stands at an offset. -/
def nalStart (frame : Frame) (offset : ℕ) : Option (Option ℕ) := do
  if ← readsAs frame.data offset [0, 0, 0, 1] then return some (offset + 4)
  else if offset < frame.sizeMinus 3 then
    return if ← readsAs frame.data offset [0, 0, 1] then some (offset + 3) else none
  else return none

/-- The body of the loop. A parameter set is skipped as a whole. -/
def extractAt (frame : Frame) (malloc : ℕ → Bool) (offset : ℕ) (params : StreamParams) :
    Option (ℕ × StreamParams) := do
  match ← nalStart frame offset with
  | none => return (0, params)
  | some start =>
    if start < frame.data.length then
      let nalType := (← frame.data[start]?) &&& 0x1F
      if nalType = 7 ∨ nalType = 8 then
        let stop ← nalEnd frame (start + 1)
        let sps ← if nalType = 7 then copyParams frame start stop params.sps (malloc offset)
          else some params.sps
        let pps ← if nalType = 8 then copyParams frame start stop params.pps (malloc offset)
          else some params.pps
        return (stop - 1 - offset,
          ⟨sps, pps, params.available || (sps.isSome && pps.isSome)⟩)
      else return (0, params)
    else return (0, params)

/-- The offset of the next iteration: behind a parameter set, the loop goes on at `nal_end - 1`
and one more. -/
def extractNext (frame : Frame) (offset : ℕ) : Option ℕ := do
  match ← nalStart frame offset with
  | none => return offset + 1
  | some start =>
    if start < frame.data.length then
      let nalType := (← frame.data[start]?) &&& 0x1F
      if nalType = 7 ∨ nalType = 8 then
        let stop ← nalEnd frame (start + 1)
        return stop - 1 + 1
      else return offset + 1
    else return offset + 1

/-- `extract_stream_params`, with whether the allocation for the unit at an offset succeeds. -/
def extractStreamParams (params : Fin 4 → StreamParams) (channel : ℕ) (frame : Frame)
    (malloc : ℕ → Bool) : Option (Fin 4 → StreamParams) :=
  if hchannel : channel < fsChnNum then
    let old := params ⟨channel, hchannel⟩
    if old.available then some params
    else
      (scan (frame.sizeMinus 4) (fun _ => true) (extractAt frame malloc) 0 old).map
        (Function.update params ⟨channel, hchannel⟩)
  else some params

/-! ### Reads inside of the frame -/

variable {frame : Frame}

/-- Both start codes can be read where four bytes are left. -/
theorem endAt_of_lt {offset : ℕ} (h : offset + 4 ≤ frame.data.length) (found : Option ℕ) :
    ∃ stop, endAt frame offset found = some (0, stop) ∧ ∀ n ∈ stop, n = offset := by
  rw [endAt, readsAs_of_le h, readsAs_of_le (Nat.le_of_succ_le h)]
  by_cases hlong : [0, 0, 0, 1] <+: frame.data.drop offset
  · exact ⟨some offset, by simp [hlong], by simp⟩
  · by_cases hshort : [0, 0, 1] <+: frame.data.drop offset
    · exact ⟨some offset, by simp [hlong, hshort], by simp⟩
    · exact ⟨none, by simp [hlong, hshort], by simp⟩

/-- The end of a unit is behind its begin, and not behind the end of the frame. -/
theorem nalEnd_of_le {offset : ℕ} (hsize : 3 ≤ frame.data.length)
    (hoffset : offset ≤ frame.data.length) :
    ∃ stop, nalEnd frame offset = some stop ∧ offset ≤ stop ∧ stop ≤ frame.data.length := by
  have hlimit : frame.sizeMinus 3 = frame.data.length - 3 := frame.sizeMinus_of_le hsize
  have hbody : ∀ (j : ℕ) (found : Option ℕ), j < frame.sizeMinus 3 → found.isNone = true →
      (offset ≤ j ∧ ∀ stop ∈ found, offset ≤ stop ∧ stop ≤ frame.data.length) →
      ∃ skipped found', endAt frame j found = some (skipped, found') ∧
        offset ≤ j + 1 + skipped ∧ ∀ stop ∈ found', offset ≤ stop ∧ stop ≤ frame.data.length := by
    intro j found hj _ ⟨hle, _⟩
    rw [hlimit] at hj
    have hfits : j + 4 ≤ frame.data.length := by omega
    obtain ⟨stop, hstop, hat⟩ := endAt_of_lt hfits found
    refine ⟨0, stop, hstop, by omega, fun n hn => ?_⟩
    rw [hat n hn]
    omega
  obtain ⟨found, _, hfound, ⟨-, hinside⟩, -⟩ :=
    scan_invariant _ hbody (s := none) ⟨le_refl offset, by simp⟩
  rw [nalEnd, hfound, Option.map_some]
  cases found with
  | none => exact ⟨_, rfl, hoffset, le_rfl⟩
  | some stop => exact ⟨stop, rfl, hinside stop rfl⟩

/-- A parameter set inside of the frame can be copied. -/
theorem copyParams_isSome (start : ℕ) {stop : ℕ} (hstop : stop ≤ frame.data.length)
    (held : Option (List UInt8)) (allocated : Bool) :
    ∃ copied, copyParams frame start stop held allocated = some copied := by
  rw [copyParams, readPart, if_pos hstop]
  split
  · exact ⟨_, rfl⟩
  · exact ⟨_, rfl⟩

/-- The start code of either kind, in a frame that goes on for more than four bytes. -/
theorem nalStart_eq {offset : ℕ} (h : offset + 4 < frame.data.length) :
    nalStart frame offset = some (if [0, 0, 0, 1] <+: frame.data.drop offset then some (offset + 4)
      else if [0, 0, 1] <+: frame.data.drop offset then some (offset + 3) else none) := by
  have hlimit : frame.sizeMinus 3 = frame.data.length - 3 :=
    frame.sizeMinus_of_le (Nat.le_trans (Nat.le_add_left 3 (offset + 1)) h.le)
  have hlt : offset < frame.data.length - 3 := by omega
  have hfits : offset + ([0, 0, 0, 1] : List UInt8).length ≤ frame.data.length := h.le
  rw [nalStart, readsAs_of_le hfits, readsAs_of_le (Nat.le_of_succ_le hfits), hlimit]
  by_cases hlong : [0, 0, 0, 1] <+: frame.data.drop offset
  · simp [hlong]
  · by_cases hshort : [0, 0, 1] <+: frame.data.drop offset <;> simp [hlong, hshort, hlt]

/-- The offset behind a start code is inside of the frame. -/
theorem nalStart_of_lt {offset : ℕ} (h : offset + 4 < frame.data.length) :
    ∃ start, nalStart frame offset = some start ∧
      ∀ n ∈ start, offset < n ∧ n < frame.data.length := by
  refine ⟨_, nalStart_eq h, fun n hn => ?_⟩
  split_ifs at hn
  · obtain rfl := Option.mem_some_iff.mp hn
    omega
  · obtain rfl := Option.mem_some_iff.mp hn
    omega
  · cases hn

/-- The body of the loop reads inside of a frame that goes on for more than four bytes, and what it
skips leads to the offset of the next iteration. -/
theorem extractAt_next (malloc : ℕ → Bool) {offset : ℕ} (h : offset + 4 < frame.data.length)
    (params : StreamParams) :
    ∃ skipped params', extractAt frame malloc offset params = some (skipped, params') ∧
      extractNext frame offset = some (offset + 1 + skipped) := by
  obtain ⟨start, hstart, hinside⟩ := nalStart_of_lt h
  rw [extractAt, extractNext, hstart]
  cases start with
  | none => exact ⟨0, params, rfl, rfl⟩
  | some start =>
    obtain ⟨hbehind, hlt⟩ := hinside start rfl
    have hsize : 3 ≤ frame.data.length := by omega
    obtain ⟨stop, hstop, hlow, hle⟩ := nalEnd_of_le hsize hlt
    obtain ⟨sps, hsps⟩ := copyParams_isSome start hle params.sps (malloc offset)
    obtain ⟨pps, hpps⟩ := copyParams_isSome start hle params.pps (malloc offset)
    have hnext : stop - 1 + 1 = offset + 1 + (stop - 1 - offset) := by omega
    simp only [Option.bind_eq_bind, Option.bind_some, if_pos hlt, List.getElem?_eq_getElem hlt]
    split
    · simp only [hstop, hsps, hpps, Option.bind_some, hnext]
      split <;> split <;> exact ⟨_, _, rfl, rfl⟩
    · exact ⟨0, params, rfl, rfl⟩

/-- The body of the loop reads inside of such a frame. -/
theorem extractAt_of_lt (malloc : ℕ → Bool) {offset : ℕ} (h : offset + 4 < frame.data.length)
    (params : StreamParams) :
    ∃ skipped params', extractAt frame malloc offset params = some (skipped, params') := by
  obtain ⟨skipped, params', hstep, -⟩ := extractAt_next malloc h params
  exact ⟨skipped, params', hstep⟩

/-! ### Reads outside of the frame -/

/-- A frame of less than four bytes holds no start code with something behind it. -/
theorem nalStart_of_short (hshort : frame.data.length < 4) (offset start : ℕ) :
    nalStart frame offset ≠ some (some start) := by
  intro h
  obtain ⟨long, hlong, h⟩ := Option.bind_eq_some_iff.mp h
  cases long with
  | true =>
    have hle : offset + 4 ≤ frame.data.length := le_of_readsAs hlong (List.cons_ne_nil _ _)
    omega
  | false =>
    simp only [Bool.false_eq_true, if_false] at h
    split at h
    · rename_i hlimit
      obtain ⟨found, hfound, h⟩ := Option.bind_eq_some_iff.mp h
      cases found with
      | true =>
        have hle : offset + 3 ≤ frame.data.length := le_of_readsAs hfound (List.cons_ne_nil _ _)
        have hzero : frame.sizeMinus 3 = frame.data.length - 3 :=
          frame.sizeMinus_of_le (Nat.le_trans (Nat.le_add_left 3 offset) hle)
        omega
      | false => simp at h
    · simp at h

/-- The loop over a frame of less than four bytes runs out of the frame. -/
theorem scan_extractAt_of_short (hshort : frame.data.length < 4) (malloc : ℕ → Bool)
    (params : StreamParams) :
    scan (frame.sizeMinus 4) (fun _ => true) (extractAt frame malloc) 0 params = none := by
  have hlimit : frame.data.length < frame.sizeMinus 4 := frame.lt_sizeMinus (by decide) hshort
  refine scan_eq_none (fun _ _ => True) hlimit (fun _ _ _ _ => rfl) ?_ ?_ (Nat.zero_le _) trivial
  · intro offset params skipped params' hlt _ hstep
    obtain ⟨start, hstart, hstep⟩ := Option.bind_eq_some_iff.mp hstep
    cases start with
    | none =>
      obtain ⟨rfl, -⟩ := Prod.mk.inj (Option.some.inj hstep)
      exact ⟨hlt, trivial⟩
    | some start => exact absurd hstart (nalStart_of_short hshort offset start)
  · intro params _
    rw [extractAt, nalStart, readsAs_end (List.cons_ne_nil _ _)]
    rfl

/-- The parameter sets are searched inside of the frame, unless a frame of less than four bytes
is searched at all. -/
theorem extractStreamParams_isSome_iff (params : Fin 4 → StreamParams) (channel : ℕ)
    (frame : Frame) (malloc : ℕ → Bool) :
    (extractStreamParams params channel frame malloc).isSome ↔
      (∀ hchannel : channel < fsChnNum, (params ⟨channel, hchannel⟩).available = true ∨
        4 ≤ frame.data.length) := by
  unfold extractStreamParams
  by_cases hchannel : channel < fsChnNum
  · rw [dif_pos hchannel]
    dsimp only
    by_cases havailable : (params ⟨channel, hchannel⟩).available = true
    · simp [havailable]
    · rw [if_neg havailable, Option.isSome_map]
      by_cases hsize : 4 ≤ frame.data.length
      · have hlimit : frame.sizeMinus 4 = frame.data.length - 4 := frame.sizeMinus_of_le hsize
        have hbody : ∀ (offset : ℕ) (s : StreamParams), offset < frame.sizeMinus 4 →
            true = true → True → ∃ skipped s', extractAt frame malloc offset s =
              some (skipped, s') ∧ True := by
          intro offset s hlt _ _
          have hinside : offset + 4 < frame.data.length := by omega
          obtain ⟨skipped, s', hstep⟩ := extractAt_of_lt malloc hinside s
          exact ⟨skipped, s', hstep, trivial⟩
        have hscan : ∃ s' stop, scan (frame.sizeMinus 4) (fun _ => true)
            (extractAt frame malloc) 0 (params ⟨channel, hchannel⟩) = some s' ∧ True ∧
              ¬(stop < frame.sizeMinus 4 ∧ true = true) :=
          scan_invariant (fun _ _ => True) hbody trivial
        obtain ⟨s', _, hscan, -⟩ := hscan
        simp [hscan, hsize]
      · rw [scan_extractAt_of_short (Nat.lt_of_not_le hsize)]
        simp [hchannel, havailable, hsize]
  · simp [hchannel]

end FrameManager
