import Strero.Lib.AnnexB
import Strero.RtmpClient.VideoMessages
import Strero.StreamParams

/-!
# The reads of the RTMP client in a frame

`rtmp_client_send_video_frame` from its first look at a frame to the message of it, with
every read of the frame checked. It scans the frame up to four bytes before the end, by
unsigned subtraction, and in the conversion it reads the type behind each start code.
-/

namespace RtmpClient

open AnnexB Scan Wire
open FrameManager (Frame)

variable {frame : Frame} {offset : ℕ}

/-! ### The scan for key frames -/

/-- `found_sps`, `found_pps` and `found_idr`. -/
structure FoundTypes where
  sps : Bool
  pps : Bool
  idr : Bool
deriving DecidableEq

/-- The types of the units that were seen, with one more. -/
def FoundTypes.add (found : FoundTypes) (nalType : UInt8) : FoundTypes :=
  if nalType = 7 then { found with sps := true }
  else if nalType = 8 then { found with pps := true }
  else if nalType = 5 then { found with idr := true }
  else found

/-- The body of the loop. -/
def typeAt (frame : Frame) (offset : ℕ) (found : FoundTypes) : Option (ℕ × FoundTypes) := do
  if ← readsAs frame.data offset [0, 0, 0, 1] then
    let b ← frame.data[offset + 4]?
    return (0, found.add (b &&& 0x1F))
  else return (0, found)

/-- The scan of the entire frame. -/
def scanTypes (frame : Frame) : Option FoundTypes :=
  scan (frame.sizeMinus 4) (fun _ => true) (typeAt frame) 0 ⟨false, false, false⟩

/-- The look at the first unit of a frame that is no key frame. -/
def checkedFirstType (frame : Frame) : Option UInt8 :=
  if 5 ≤ frame.data.length then do
    if ← readsAs frame.data 0 [0, 0, 0, 1] then return (← frame.data[4]?) &&& 0x1F
    else return 0
  else some 0

/-! ### Units -/

/-- The body of the search for the end of a unit. -/
def longCodeAt (frame : Frame) (offset : ℕ) (_ : Option ℕ) : Option (ℕ × Option ℕ) := do
  let found ← readsAs frame.data (offset - 3) [0, 0, 0, 1]
  return (0, if found then some (offset - 3) else none)

/-- The end of the unit that begins at an offset. -/
def unitEnd (frame : Frame) (start : ℕ) : Option ℕ :=
  (scan frame.data.length Option.isNone (longCodeAt frame) (start + 3) none).map
    (·.getD frame.data.length)

/-! ### The sequence header of a frame -/

/-- The body of the loop of `send_avc_sequence_header_from_frame`, with the SPS and the PPS. -/
def parameterSetAt (frame : Frame) (offset : ℕ)
    (found : Option (List UInt8) × Option (List UInt8)) :
    Option (ℕ × (Option (List UInt8) × Option (List UInt8))) := do
  if ← readsAs frame.data offset [0, 0, 0, 1] then
    let nalType := (← frame.data[offset + 4]?) &&& 0x1F
    let stop ← unitEnd frame (offset + 4)
    let unit ← readPart frame.data (offset + 4) stop
    return (stop - 1 - offset,
      if nalType = 7 ∧ found.1 = none then (some unit, found.2)
      else if nalType = 8 ∧ found.2 = none then (found.1, some unit)
      else found)
  else return (0, found)

/-- The sequence header that `send_avc_sequence_header_from_frame` builds, if it builds one. -/
def checkedHeaderFromFrame (frame : Frame) : Option (Option (List UInt8)) := do
  let found ← scan (frame.sizeMinus 4) (fun _ => true) (parameterSetAt frame) 0 (none, none)
  return do avcSequenceHeader (← found.1) (← found.2)

/-! ### The conversion -/

/-- The body of the loop, with the message, or nothing once the buffer is too small. -/
def convertAt (frame : Frame) (offset : ℕ) (message : Option (List UInt8)) :
    Option (ℕ × Option (List UInt8)) := do
  if ← readsWithin frame.data offset [0, 0, 0, 1] then
    let stop ← unitEnd frame (offset + 4)
    let nalType := (← frame.data[offset + 4]?) &&& 0x1F
    let size := stop - (offset + 4)
    let held := message.getD []
    if nalType = 7 ∨ nalType = 8 then return (stop - 1 - offset, message)
    else if held.length + 4 + size > frame.data.length + 16 then return (0, none)
    else
      let unit ← readPart frame.data (offset + 4) stop
      return (stop - 1 - offset, some (held ++ putBe32 (UInt32.ofNat size) ++ unit))
  else return (0, message)

/-- The conversion to units with their lengths, behind the bytes of the video tag header. -/
def checkedConvert (frame : Frame) (tag : List UInt8) : Option (Option (List UInt8)) :=
  scan frame.data.length Option.isSome (convertAt frame) 0 (some tag)

/-! ### The reads at an offset -/

/-- What stands behind a start code. -/
theorem drop_eq_of_long {data : List UInt8} (hlong : [0, 0, 0, 1] <+: data.drop offset) :
    data.drop offset = 0 :: 0 :: 0 :: 1 :: data.drop (offset + 4) := by
  obtain ⟨rest, hrest⟩ := hlong
  have hdrop : data.drop (offset + 4) = rest := by rw [← List.drop_drop, ← hrest]; rfl
  rw [hdrop, ← hrest]
  rfl

theorem hasNalType_eq (nalType : UInt8) (data : List UInt8) :
    hasNalType nalType data = (longHeaders data).any (· &&& 0x1F == nalType) := by
  fun_induction hasNalType nalType data with
  | case1 b rest ih => rw [longHeaders, List.any_cons, ih]
  | case2 a rest hlong ih => rw [longHeaders, ih]; exact hlong
  | case3 => rfl

theorem longHeaders_of_short {data : List UInt8} (h : data.length ≤ 4) : longHeaders data = [] := by
  match data, h with
  | [], _ => rfl
  | [_], _ => simp [longHeaders]
  | [_, _], _ => simp [longHeaders]
  | [_, _, _], _ => simp [longHeaders]
  | [_, _, _, _], _ => simp [longHeaders]

/-- More than four bytes before the end the scan reads inside of the frame. -/
theorem typeAt_of_lt (h : offset + 4 < frame.data.length) (found : FoundTypes) :
    typeAt frame offset found = some (0, if [0, 0, 0, 1] <+: frame.data.drop offset then
      found.add (frame.data[offset + 4] &&& 0x1F) else found) := by
  have hfits : offset + ([0, 0, 0, 1] : List UInt8).length ≤ frame.data.length := h.le
  rw [typeAt, readsAs_of_le hfits, List.getElem?_eq_getElem h]
  by_cases hlong : [0, 0, 0, 1] <+: frame.data.drop offset
  · simp [hlong]
  · simp [hlong]

/-- The first bytes of the units from an offset on. -/
theorem longHeaders_drop (h : offset + 4 < frame.data.length) :
    longHeaders (frame.data.drop offset) =
      (if [0, 0, 0, 1] <+: frame.data.drop offset then [frame.data[offset + 4]] else []) ++
        longHeaders (frame.data.drop (offset + 1)) := by
  by_cases hlong : [0, 0, 0, 1] <+: frame.data.drop offset
  · have hdrop := drop_eq_of_long hlong
    rw [List.drop_eq_getElem_cons h] at hdrop
    have hnext : frame.data.drop (offset + 1) =
        0 :: 0 :: 1 :: frame.data[offset + 4] :: frame.data.drop (offset + 4 + 1) := by
      rw [← List.drop_drop, hdrop]
      rfl
    rw [if_pos hlong, hdrop, longHeaders, hnext]
    rfl
  · have hlt : offset < frame.data.length := by omega
    rw [if_neg hlong, List.nil_append]
    rw [List.drop_eq_getElem_cons hlt] at hlong ⊢
    exact longHeaders_cons_of_not hlong

/-- The scan finds the types of the units behind long start codes. -/
theorem scan_typeAt (hsize : 4 ≤ frame.data.length) (found : FoundTypes) :
    scan (frame.sizeMinus 4) (fun _ => true) (typeAt frame) offset found =
      some ((longHeaders (frame.data.drop offset)).foldl
        (fun found b => found.add (b &&& 0x1F)) found) := by
  have hlimit : frame.sizeMinus 4 = frame.data.length - 4 := frame.sizeMinus_of_le hsize
  induction hleft : frame.data.length - offset using Nat.strong_induction_on
    generalizing offset found with
  | _ left ih =>
    rw [scan, hlimit]
    by_cases hinside : offset < frame.data.length - 4
    · have hlt : offset + 4 < frame.data.length := by omega
      rw [if_pos ⟨hinside, rfl⟩, typeAt_of_lt hlt, Option.bind_some, longHeaders_drop hlt,
        ← hlimit, ih _ (by omega) _ rfl, List.foldl_append]
      split <;> rfl
    · rw [if_neg (fun h => hinside h.1), longHeaders_of_short (by rw [List.length_drop]; omega)]
      rfl

theorem foldl_add_idr (headers : List UInt8) (found : FoundTypes) :
    (headers.foldl (fun found b => found.add (b &&& 0x1F)) found).idr =
      (found.idr || headers.any (· &&& 0x1F == 5)) := by
  induction headers generalizing found with
  | nil => simp
  | cons b headers ih =>
    have hadd : (found.add (b &&& 0x1F)).idr = (found.idr || (b &&& 0x1F == 5)) := by
      unfold FoundTypes.add
      split_ifs with h7 h8 h5
      · simp [h7]
      · simp [h8]
      · simp [h5]
      · simp [h5]
    rw [List.foldl_cons, ih, hadd, List.any_cons, Bool.or_assoc]

/-- In a frame of at least four bytes the scan tells key frames. -/
theorem scanTypes_of_le (hsize : 4 ≤ frame.data.length) :
    ∃ found, scanTypes frame = some found ∧ found.idr = isKeyframe frame.data := by
  refine ⟨_, scan_typeAt hsize _, ?_⟩
  rw [foldl_add_idr, List.drop_zero, isKeyframe, hasNalType_eq]
  rfl

/-- A loop up to four bytes before the end that looks for start codes reads a shorter frame
behind its end. -/
theorem scan_of_short {σ : Type} {body : ℕ → σ → Option (ℕ × σ)}
    (hshort : frame.data.length < 4)
    (hbody : ∀ offset s, ∃ found : Bool → Option (ℕ × σ),
      body offset s = (readsAs frame.data offset [0, 0, 0, 1]).bind found ∧
        found false = some (0, s)) (s : σ) :
    scan (frame.sizeMinus 4) (fun _ => true) body 0 s = none := by
  have hlimit : frame.data.length < frame.sizeMinus 4 := frame.lt_sizeMinus (by decide) hshort
  refine scan_eq_none (fun _ _ => True) hlimit (fun _ _ _ _ => rfl) ?_ ?_ (Nat.zero_le _) trivial
  · intro offset s skipped s' hlt _ hstep
    obtain ⟨found, hfound, hskip⟩ := hbody offset s
    rw [hfound] at hstep
    obtain ⟨long, hlong, hstep⟩ := Option.bind_eq_some_iff.mp hstep
    cases long with
    | true =>
      have hle : offset + 4 ≤ frame.data.length := le_of_readsAs hlong (List.cons_ne_nil _ _)
      omega
    | false =>
      rw [hskip] at hstep
      obtain ⟨rfl, -⟩ := Prod.mk.inj (Option.some.inj hstep)
      exact ⟨hlt, trivial⟩
  · intro s _
    obtain ⟨found, hfound, -⟩ := hbody frame.data.length s
    rw [hfound, readsAs_end (List.cons_ne_nil _ _)]
    rfl

/-- So does the scan for key frames. -/
theorem scanTypes_of_short (hshort : frame.data.length < 4) : scanTypes frame = none :=
  scan_of_short hshort (fun _ _ => ⟨_, rfl, rfl⟩) _

theorem checkedFirstType_isSome (frame : Frame) : (checkedFirstType frame).isSome := by
  unfold checkedFirstType
  by_cases hsize : 5 ≤ frame.data.length
  · have hfits : 0 + ([0, 0, 0, 1] : List UInt8).length ≤ frame.data.length :=
      Nat.le_of_succ_le hsize
    rw [if_pos hsize, readsAs_of_le hfits, List.getElem?_eq_getElem hsize]
    by_cases hlong : [0, 0, 0, 1] <+: frame.data
    · simp [hlong]
    · simp [hlong]
  · rw [if_neg hsize]
    rfl

/-! ### Units of the frame -/

theorem nalLength_le (data : List UInt8) : nalLength data ≤ data.length := by
  fun_induction nalLength data with
  | case1 => simp
  | case2 a rest hlong ih => simpa using ih
  | case3 => simp

theorem nalLength_of_long {data : List UInt8} (hlong : [0, 0, 0, 1] <+: data) :
    nalLength data = 0 := by
  obtain ⟨rest, rfl⟩ := hlong
  rfl

theorem nalLength_cons_of_not {a : UInt8} {rest : List UInt8}
    (hlong : ¬[0, 0, 0, 1] <+: a :: rest) : nalLength (a :: rest) = nalLength rest + 1 := by
  rw [nalLength]
  rintro more rfl rfl
  exact hlong ⟨more, rfl⟩

theorem nalLength_of_short {data : List UInt8} (h : data.length ≤ 3) :
    nalLength data = data.length := by
  match data, h with
  | [], _ => rfl
  | [_], _ => simp [nalLength]
  | [_, _], _ => simp [nalLength]
  | [_, _, _], _ => simp [nalLength]

/-- The search looks at each offset of the unit. -/
theorem scan_longCodeAt (hoffset : offset ≤ frame.data.length) :
    (scan frame.data.length Option.isNone (longCodeAt frame) (offset + 3) none).map
      (·.getD frame.data.length) = some (offset + nalLength (frame.data.drop offset)) := by
  induction hleft : frame.data.length - offset using Nat.strong_induction_on
    generalizing offset with
  | _ left ih =>
    rw [scan]
    by_cases hinside : offset + 3 < frame.data.length
    · have hfits : offset + ([0, 0, 0, 1] : List UInt8).length ≤ frame.data.length := hinside
      have hlt : offset < frame.data.length := by omega
      rw [if_pos ⟨hinside, rfl⟩, longCodeAt, Nat.add_sub_cancel, readsAs_of_le hfits]
      by_cases hlong : [0, 0, 0, 1] <+: frame.data.drop offset
      · rw [nalLength_of_long hlong]
        simp only [hlong, decide_true, Option.bind_eq_bind, Option.bind_some, if_true,
          Option.pure_def]
        rw [scan, if_neg (fun h => by simp at h)]
        rfl
      · have hnext : (scan frame.data.length Option.isNone (longCodeAt frame) (offset + 1 + 3)
            none).map (·.getD frame.data.length) =
              some (offset + 1 + nalLength (frame.data.drop (offset + 1))) :=
          ih _ (by omega) hlt rfl
        have hlength : nalLength (frame.data.drop offset) =
            nalLength (frame.data.drop (offset + 1)) + 1 := by
          rw [List.drop_eq_getElem_cons hlt] at hlong ⊢
          exact nalLength_cons_of_not hlong
        rw [hlength, Nat.add_comm (nalLength _) 1, ← Nat.add_assoc, ← hnext]
        simp only [hlong, decide_false, Option.bind_eq_bind, Option.bind_some,
          Bool.false_eq_true, if_false, Option.pure_def]
    · rw [if_neg (fun h => hinside h.1), nalLength_of_short (by rw [List.length_drop]; omega),
        List.length_drop]
      simp only [Option.map_some, Option.getD_none, Option.some.injEq]
      omega

/-- The end of a unit inside of the frame. -/
theorem unitEnd_eq (hoffset : offset ≤ frame.data.length) :
    unitEnd frame offset = some (offset + nalLength (frame.data.drop offset)) :=
  scan_longCodeAt hoffset

/-- The bytes of a unit inside of the frame. -/
theorem readPart_unit (hoffset : offset ≤ frame.data.length) :
    readPart frame.data offset (offset + nalLength (frame.data.drop offset)) =
      some ((frame.data.drop offset).take (nalLength (frame.data.drop offset))) := by
  have hle := nalLength_le (frame.data.drop offset)
  rw [List.length_drop] at hle
  rw [readPart, if_pos (by omega), List.take_drop]

/-! ### What the loops find -/

theorem findNal_of_short {nalType : UInt8} {data : List UInt8} (h : data.length ≤ 4) :
    findNal nalType data = none := by
  match data, h with
  | [], _ => simp [findNal]
  | [_], _ => simp [findNal]
  | [_, _], _ => simp [findNal]
  | [_, _, _], _ => simp [findNal]
  | [_, _, _, _], _ => simp [findNal]

/-- A unit at an offset is the one, or the search goes on behind it. -/
theorem findNal_drop_long (nalType : UInt8) (h : offset + 4 < frame.data.length)
    (hlong : [0, 0, 0, 1] <+: frame.data.drop offset) :
    findNal nalType (frame.data.drop offset) =
      if frame.data[offset + 4] &&& 0x1F = nalType then
        some ((frame.data.drop (offset + 4)).take (nalLength (frame.data.drop (offset + 4))))
      else findNal nalType
        (frame.data.drop (offset + 4 + nalLength (frame.data.drop (offset + 4)))) := by
  rw [drop_eq_of_long hlong, List.drop_eq_getElem_cons h, findNal, ← List.drop_eq_getElem_cons h,
    List.drop_drop]

/-- Any other offset is passed over. -/
theorem findNal_drop_skip (nalType : UInt8) (h : offset < frame.data.length)
    (hlong : ¬[0, 0, 0, 1] <+: frame.data.drop offset) :
    findNal nalType (frame.data.drop offset) =
      findNal nalType (frame.data.drop (offset + 1)) := by
  rw [List.drop_eq_getElem_cons h] at hlong ⊢
  rw [findNal]
  rintro b rest ha hrest
  rw [ha, hrest] at hlong
  exact hlong ⟨b :: rest, rfl⟩

/-- The parameter sets that the loop finds from an offset on. -/
theorem scan_parameterSetAt (hsize : 4 ≤ frame.data.length)
    (found : Option (List UInt8) × Option (List UInt8)) :
    scan (frame.sizeMinus 4) (fun _ => true) (parameterSetAt frame) offset found =
      some (found.1.or (findNal 7 (frame.data.drop offset)),
        found.2.or (findNal 8 (frame.data.drop offset))) := by
  have hlimit : frame.sizeMinus 4 = frame.data.length - 4 := frame.sizeMinus_of_le hsize
  induction hleft : frame.data.length - offset using Nat.strong_induction_on
    generalizing offset found with
  | _ left ih =>
    rw [scan, hlimit]
    by_cases hinside : offset < frame.data.length - 4
    · have hlt : offset + 4 < frame.data.length := by omega
      have hfits : offset + ([0, 0, 0, 1] : List UInt8).length ≤ frame.data.length := hlt.le
      rw [if_pos ⟨hinside, rfl⟩, parameterSetAt, readsAs_of_le hfits,
        List.getElem?_eq_getElem hlt, unitEnd_eq hlt.le, Option.bind_eq_bind, Option.bind_some]
      by_cases hlong : [0, 0, 0, 1] <+: frame.data.drop offset
      · rw [findNal_drop_long 7 hlt hlong, findNal_drop_long 8 hlt hlong]
        simp only [hlong, decide_true, if_true, Option.bind_some, Option.bind_eq_bind,
          readPart_unit hlt.le, Option.pure_def]
        have hskip : ∀ n, offset + 1 + (offset + 4 + n - 1 - offset) = offset + 4 + n := by omega
        rw [hskip, ← hlimit, ih _ (by omega) _ rfl]
        obtain ⟨sps, pps⟩ := found
        by_cases h7 : frame.data[offset + 4] &&& 0x1F = 7
        · cases sps <;> simp [h7]
        · by_cases h8 : frame.data[offset + 4] &&& 0x1F = 8
          · cases pps <;> simp [h8]
          · simp [h7, h8]
      · rw [findNal_drop_skip 7 (by omega) hlong, findNal_drop_skip 8 (by omega) hlong]
        simp only [hlong, decide_false, Option.bind_some, Bool.false_eq_true, if_false,
          Option.pure_def]
        rw [← hlimit]
        exact ih _ (by omega) found rfl
    · rw [if_neg (fun h => hinside h.1), findNal_of_short (by rw [List.length_drop]; omega),
        findNal_of_short (by rw [List.length_drop]; omega)]
      simp

/-- In a frame of at least four bytes the sequence header is built without a read outside. -/
theorem checkedHeaderFromFrame_of_le (hsize : 4 ≤ frame.data.length) :
    checkedHeaderFromFrame frame = some (avcSequenceHeaderFromFrame frame.data) := by
  rw [checkedHeaderFromFrame, scan_parameterSetAt hsize, List.drop_zero]
  rfl

/-- What the conversion leaves: a message, nothing, or a read outside of the frame. -/
def conversionResult : Except MessageError (List UInt8) → Option (Option (List UInt8))
  | .ok message => some (some message)
  | .error .overflow => some none
  | .error .outOfFrame => none

/-- The body of the conversion at a start code with something behind it. -/
theorem convertAt_long (h : offset + 4 < frame.data.length)
    (hlong : [0, 0, 0, 1] <+: frame.data.drop offset) (message : List UInt8) :
    convertAt frame offset (some message) =
      let unit := frame.data.drop (offset + 4)
      let skipped := offset + 4 + nalLength unit - 1 - offset
      if frame.data[offset + 4] &&& 0x1F = 7 ∨ frame.data[offset + 4] &&& 0x1F = 8 then
        some (skipped, some message)
      else if message.length + 4 + nalLength unit > frame.data.length + 16 then some (0, none)
      else some (skipped, some (message ++ putBe32 (UInt32.ofNat (nalLength unit)) ++
        unit.take (nalLength unit))) := by
  rw [convertAt, readsWithin_eq (List.cons_ne_nil _ _), unitEnd_eq h.le,
    List.getElem?_eq_getElem h]
  simp only [hlong, decide_true, if_true, Option.bind_some, Option.bind_eq_bind, Option.pure_def,
    Option.getD_some, Nat.add_sub_cancel_left, readPart_unit h.le]

theorem annexBToAvcc_cons_of_not {capacity : ℕ} {a : UInt8} {rest message : List UInt8}
    (hlong : ¬[0, 0, 0, 1] <+: a :: rest) :
    annexBToAvcc capacity (a :: rest) message = annexBToAvcc capacity rest message := by
  rw [annexBToAvcc]
  · rintro rfl rfl
    exact hlong ⟨[], rfl⟩
  · rintro b more rfl rfl
    exact hlong ⟨b :: more, rfl⟩

/-- The conversion is the one of the model. -/
theorem scan_convertAt (message : List UInt8) :
    scan frame.data.length Option.isSome (convertAt frame) offset (some message) =
      conversionResult
        (annexBToAvcc (frame.data.length + 16) (frame.data.drop offset) message) := by
  induction hleft : frame.data.length - offset using Nat.strong_induction_on
    generalizing offset message with
  | _ left ih =>
    rw [scan]
    by_cases hinside : offset < frame.data.length
    · rw [if_pos ⟨hinside, rfl⟩]
      by_cases hlong : [0, 0, 0, 1] <+: frame.data.drop offset
      · have hlength : 4 ≤ frame.data.length - offset := by simpa using hlong.length_le
        by_cases hend : offset + 4 < frame.data.length
        · rw [convertAt_long hend hlong, drop_eq_of_long hlong, List.drop_eq_getElem_cons hend,
            annexBToAvcc, ← List.drop_eq_getElem_cons hend, List.drop_drop]
          have hskip : ∀ n, offset + 1 + (offset + 4 + n - 1 - offset) = offset + 4 + n := by omega
          dsimp only
          split_ifs
          · rw [Option.bind_some, hskip, ih _ (by omega) _ rfl]
          · rw [Option.bind_some, scan, if_neg (fun h => by simp at h)]
            rfl
          · rw [Option.bind_some, hskip, ih _ (by omega) _ rfl]
        · -- nothing stands behind the code
          have hnil : frame.data.drop (offset + 4) = [] := List.drop_of_length_le (by omega)
          have hread : frame.data[offset + 4]? = none := List.getElem?_eq_none (by omega)
          rw [drop_eq_of_long hlong, hnil, annexBToAvcc, convertAt,
            readsWithin_eq (List.cons_ne_nil _ _), unitEnd_eq (by omega), hread]
          simp [hlong, conversionResult]
      · have hskip : annexBToAvcc (frame.data.length + 16) (frame.data.drop offset) message =
            annexBToAvcc (frame.data.length + 16) (frame.data.drop (offset + 1)) message := by
          rw [List.drop_eq_getElem_cons hinside] at hlong ⊢
          exact annexBToAvcc_cons_of_not hlong
        rw [hskip, convertAt, readsWithin_eq (List.cons_ne_nil _ _), decide_eq_false hlong]
        exact ih _ (by omega) message rfl
    · rw [if_neg (fun h => hinside h.1), List.drop_of_length_le (Nat.le_of_not_lt hinside),
        annexBToAvcc]
      rfl

/-! ### Where the conversion reads behind the end -/

/-- A start code at the end of a frame does not overlap another. -/
theorem suffix_unit {unit : List UInt8} (hne : unit ≠ []) :
    [0, 0, 0, 1] <:+ 0 :: 0 :: 0 :: 1 :: unit ↔ [0, 0, 0, 1] <:+ unit := by
  simp only [List.suffix_cons_iff, List.cons.injEq]
  simp [hne.symm]

/-- It is not in front of the next start code. -/
theorem suffix_drop_nalLength (data : List UInt8) :
    [0, 0, 0, 1] <:+ data.drop (nalLength data) ↔ [0, 0, 0, 1] <:+ data := by
  fun_induction nalLength data with
  | case1 rest => rfl
  | case2 a rest hlong ih =>
    rw [List.drop_succ_cons, ih, List.suffix_cons_iff]
    constructor
    · exact .inr
    · rintro (heq | hsuffix)
      · obtain ⟨rfl, rfl⟩ := List.cons.inj heq
        exact absurd rfl (hlong [] rfl)
      · exact hsuffix
  | case3 => rfl

/-- With room for the message, only a start code at the end is followed by a read behind it. -/
theorem annexBToAvcc_outOfFrame_iff {capacity : ℕ} {data message : List UInt8}
    (hroom : message.length + data.length ≤ capacity) :
    annexBToAvcc capacity data message = .error .outOfFrame ↔ [0, 0, 0, 1] <:+ data := by
  fun_induction annexBToAvcc capacity data message with
  | case1 message => simp
  | case2 message b rest unit size hparameters ih =>
    rw [suffix_unit (List.cons_ne_nil b rest), ← suffix_drop_nalLength (b :: rest)]
    refine ih ?_
    simp only [List.length_cons, List.length_drop, unit] at hroom ⊢
    omega
  | case3 message b rest unit size hother hfull =>
    have hunit : unit.length = rest.length + 1 := rfl
    have hle : size ≤ unit.length := nalLength_le unit
    simp only [List.length_cons] at hroom
    omega
  | case4 message b rest unit size hother hfits ih =>
    rw [suffix_unit (List.cons_ne_nil b rest), ← suffix_drop_nalLength (b :: rest)]
    refine ih ?_
    have hunit : unit.length = rest.length + 1 := rfl
    have hle : size ≤ unit.length := nalLength_le unit
    simp only [List.length_cons] at hroom
    simp only [List.length_append, List.length_take, List.length_drop, putBe32_length]
    omega
  | case5 message a rest hend hlong ih =>
    rw [ih (Nat.le_of_succ_le hroom), List.suffix_cons_iff]
    constructor
    · exact .inr
    · rintro (heq | hsuffix)
      · obtain ⟨rfl, rfl⟩ := List.cons.inj heq
        exact absurd rfl (hend rfl)
      · exact hsuffix
  | case6 message => simp

/-! ### `rtmp_client_send_video_frame` -/

/-- The fields of a connection that decide what is done with a frame. -/
structure VideoTarget where
  publishing : Bool
  socketFd : ℤ
  avcHeaderSent : Bool
  avcWaitStartUs : UInt32
  framesWithoutKeyframe : ℤ
deriving DecidableEq

/-- What the calls return: whether the buffer is allocated, whether the frame manager has the
parameter sets, whether a sequence header can be sent, the clock, and whether the message can
be sent. -/
structure VideoCalls where
  allocated : Bool
  paramsAvailable : Bool
  headerOk : Bool
  now : UInt32
  frameOk : Bool

/-- The frame is sent. Without the parameter sets of the frame manager a key frame needs its own,
and after five seconds any frame is sent. -/
def VideoTarget.goesOn (target : VideoTarget) (isKeyframe ownHeader : Bool) (calls : VideoCalls) :
    Bool :=
  target.avcHeaderSent ||
    if calls.paramsAvailable then isKeyframe || calls.headerOk
    else isKeyframe && ownHeader && calls.headerOk ||
      decide (5000000 < calls.now - target.avcWaitStartUs)

/-- The fields before the message. Only a sequence header of the frame manager that fails leaves
the mark as it was when the frame is sent. -/
def VideoTarget.prepare (target : VideoTarget) (isKeyframe ownHeader : Bool) (calls : VideoCalls) :
    VideoTarget :=
  { target with
    avcHeaderSent := target.avcHeaderSent ||
      if calls.paramsAvailable then calls.headerOk
      else target.goesOn isKeyframe ownHeader calls
    framesWithoutKeyframe := if isKeyframe then 0 else target.framesWithoutKeyframe + 1 }

/-- The search for a sequence header in a key frame, while none has been sent and the frame
manager has no parameter sets. -/
def VideoTarget.searchHeader (target : VideoTarget) (isKeyframe : Bool) (frame : Frame)
    (calls : VideoCalls) : Option Bool :=
  if isKeyframe && !target.avcHeaderSent && !calls.paramsAvailable then
    (checkedHeaderFromFrame frame).map Option.isSome
  else some false

/-- The message of the frame, with the result of the function. Unless it can be sent, the
connection is no longer publishing. -/
def VideoTarget.sendMessage (target : VideoTarget) (isKeyframe : Bool) (frame : Frame)
    (calls : VideoCalls) : Option (VideoTarget × Option (List UInt8) × ℤ) :=
  let frameType : UInt8 := if isKeyframe then 1 else 2
  (checkedConvert frame [frameType <<< 4 ||| 7, 1, 0, 0, 0]).map fun message =>
    match message with
    | none => (target, none, -1)
    | some message =>
      ({ target with publishing := calls.frameOk }, some message, if calls.frameOk then 0 else -1)

/-- `rtmp_client_send_video_frame` up to the message of the frame. -/
def rtmpClientSendVideoFrame (target : VideoTarget) (frame : Frame) (calls : VideoCalls) :
    Option (VideoTarget × Option (List UInt8) × ℤ) :=
  if frame.data = [] then some (target, none, -1)
  else if target.publishing = false then some (target, none, 0)
  else if target.socketFd < 0 then some (target, none, 0)
  else if calls.allocated = false then some (target, none, -1)
  else
    (scanTypes frame).bind fun found =>
      (if found.idr then some 0 else checkedFirstType frame).bind fun _ =>
        (target.searchHeader found.idr frame calls).bind fun ownHeader =>
          let prepared := target.prepare found.idr ownHeader calls
          if target.goesOn found.idr ownHeader calls then
            prepared.sendMessage found.idr frame calls
          else some (prepared, none, 0)

/-- The connection takes frames, and there is memory for the message. -/
def VideoTarget.takesFrames (target : VideoTarget) (calls : VideoCalls) : Prop :=
  target.publishing = true ∧ 0 ≤ target.socketFd ∧ calls.allocated = true

/-- The header in the frame matters only if it is searched for. -/
theorem VideoTarget.goesOn_searched (target : VideoTarget) (isKeyframe ownHeader : Bool)
    (calls : VideoCalls) :
    target.goesOn isKeyframe
        (isKeyframe && !target.avcHeaderSent && !calls.paramsAvailable && ownHeader) calls =
      target.goesOn isKeyframe ownHeader calls := by
  unfold VideoTarget.goesOn
  cases target.avcHeaderSent <;> cases calls.paramsAvailable <;> cases isKeyframe <;> simp

/-- The search stays inside of a frame of at least four bytes. -/
theorem VideoTarget.searchHeader_of_le (target : VideoTarget) (hsize : 4 ≤ frame.data.length)
    (isKeyframe : Bool) (calls : VideoCalls) :
    target.searchHeader isKeyframe frame calls =
      some (isKeyframe && !target.avcHeaderSent && !calls.paramsAvailable &&
        (avcSequenceHeaderFromFrame frame.data).isSome) := by
  rw [VideoTarget.searchHeader, checkedHeaderFromFrame_of_le hsize]
  split
  · rename_i hsearch
    rw [hsearch]
    rfl
  · rename_i hsearch
    rw [Bool.eq_false_of_not_eq_true hsearch]
    rfl

/-- The conversion reads behind the end of a frame that ends in a long start code. -/
theorem checkedConvert_isSome_iff (frame : Frame) (frameType : UInt8) :
    (checkedConvert frame [frameType, 1, 0, 0, 0]).isSome ↔ ¬[0, 0, 0, 1] <:+ frame.data := by
  have hroom : ([frameType, 1, 0, 0, 0] : List UInt8).length + frame.data.length ≤
      frame.data.length + 16 := by
    simp only [List.length_cons, List.length_nil]
    omega
  rw [checkedConvert, scan_convertAt, List.drop_zero, ← annexBToAvcc_outOfFrame_iff hroom]
  cases annexBToAvcc (frame.data.length + 16) frame.data [frameType, 1, 0, 0, 0] with
  | ok message => simp [conversionResult]
  | error e => cases e <;> simp [conversionResult]

/-- A frame that is taken needs four bytes, and one that is sent must not end in a long start
code. -/
theorem rtmpClientSendVideoFrame_isSome_iff (target : VideoTarget) (frame : Frame)
    (calls : VideoCalls) :
    (rtmpClientSendVideoFrame target frame calls).isSome ↔
      (frame.data ≠ [] → target.takesFrames calls → 4 ≤ frame.data.length ∧
        (target.goesOn (isKeyframe frame.data) (avcSequenceHeaderFromFrame frame.data).isSome
          calls = true → ¬[0, 0, 0, 1] <:+ frame.data)) := by
  unfold rtmpClientSendVideoFrame
  by_cases hempty : frame.data = []
  · simp [hempty]
  by_cases htakes : target.takesFrames calls
  · obtain ⟨hpublishing, hsocket, hallocated⟩ := htakes
    rw [if_neg hempty, if_neg (by simp [hpublishing]), if_neg (not_lt.mpr hsocket),
      if_neg (by simp [hallocated])]
    by_cases hsize : 4 ≤ frame.data.length
    · obtain ⟨found, hfound, hidr⟩ := scanTypes_of_le hsize
      have hfirst : ∃ t, (if found.idr then some 0 else checkedFirstType frame) = some t := by
        split
        · exact ⟨0, rfl⟩
        · exact Option.isSome_iff_exists.mp (checkedFirstType_isSome frame)
      obtain ⟨t, hfirst⟩ := hfirst
      rw [hfound, Option.bind_some, hfirst, Option.bind_some,
        target.searchHeader_of_le hsize found.idr calls, Option.bind_some]
      dsimp only
      rw [target.goesOn_searched, hidr]
      by_cases hgoes : target.goesOn (isKeyframe frame.data)
          (avcSequenceHeaderFromFrame frame.data).isSome calls = true
      · rw [if_pos hgoes, VideoTarget.sendMessage, Option.isSome_map, checkedConvert_isSome_iff]
        simp [hempty, hsize, hgoes, VideoTarget.takesFrames, hpublishing, hsocket, hallocated]
      · rw [if_neg hgoes]
        simp [hsize, hgoes]
    · rw [scanTypes_of_short (Nat.lt_of_not_le hsize)]
      simp [hempty, hsize, VideoTarget.takesFrames, hpublishing, hsocket, hallocated]
  · have hearly : target.publishing = false ∨ target.socketFd < 0 ∨ calls.allocated = false := by
      by_contra hnone
      obtain ⟨hpublishing, hsocket, hallocated⟩ : ¬target.publishing = false ∧
          ¬target.socketFd < 0 ∧ ¬calls.allocated = false := by
        simpa only [not_or] using hnone
      exact htakes ⟨by simpa using hpublishing, not_lt.mp hsocket, by simpa using hallocated⟩
    rw [if_neg hempty]
    simp only [htakes, false_implies, implies_true, iff_true]
    rcases hearly with hearly | hearly | hearly
    · rw [if_pos hearly]
      rfl
    · rw [if_pos hearly]
      split <;> rfl
    · rw [if_pos hearly]
      split_ifs <;> rfl

end RtmpClient
