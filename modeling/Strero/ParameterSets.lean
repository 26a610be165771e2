import Strero.StreamParams

/-!
# The parameter sets of a channel

The frame manager keeps the first SPS and the first PPS that come on a channel. They may come
in one frame or in two, in either order, and they are repeated with every key frame.
-/

namespace FrameManager

open AnnexB Scan

/-! ### Searching for the ends of the units -/

variable {frame : Frame} {before : List UInt8} {nal : NalUnit} {units : List CodedUnit}

/-- The units have two bytes, and a start code behind one of them is seen where it begins. -/
def Plain (units : List CodedUnit) : Prop :=
  ∀ u ∈ units, 2 ≤ u.nal.bytes.length ∧ ¬u.nal.EndsInZero

/-- No start code begins inside of such a unit. -/
theorem noCodeAt_unit (hend : ¬nal.EndsInZero) (hframe : frame.data = before ++
    (nal.bytes ++ assemble units)) {n : ℕ} (hn : n < nal.bytes.length) :
    NoCodeAt frame.data (before.length + n) := by
  rw [hframe]
  exact (nal.emulationFree.noCodeAt (followsUnit_assemble units) hn
    fun hzero => absurd hzero hend).append before

/-- The search for the end of a unit passes over an offset without a start code. -/
theorem endAt_of_noCodeAt {offset : ℕ} (h : offset + 4 ≤ frame.data.length)
    (hnone : NoCodeAt frame.data offset) (found : Option ℕ) :
    endAt frame offset found = some (0, none) := by
  rw [endAt, readsAs_of_le h, readsAs_of_le (Nat.le_of_succ_le h)]
  simp [hnone.1, hnone.2]

/-- A start code with something behind it takes at least four bytes. -/
theorem code_inside {after : List UInt8} (code : StartCode) (hframe : frame.data = before ++
    (code.bytes ++ after)) (hafter : after ≠ []) : before.length + 4 ≤ frame.data.length := by
  have hpos := List.length_pos_of_ne_nil hafter
  have hcode : 3 ≤ code.bytes.length := by cases code <;> decide
  rw [hframe, List.length_append, List.length_append]
  omega

/-- It stops at a start code. -/
theorem endAt_code {after : List UInt8} (code : StartCode) (hframe : frame.data = before ++
    (code.bytes ++ after)) (hafter : after ≠ []) (found : Option ℕ) :
    endAt frame before.length found = some (0, some before.length) := by
  have hdrop : frame.data.drop before.length = code.bytes ++ after := by
    rw [hframe, List.drop_left]
  have hlength := code_inside code hframe hafter
  rw [endAt, readsAs_of_le hlength, readsAs_of_le (Nat.le_of_succ_le hlength), hdrop]
  cases code <;> simp [StartCode.bytes]

/-- The search ends behind the unit. -/
theorem nalEnd_unit (hend : ¬nal.EndsInZero) (hframe : frame.data = before ++
    (nal.bytes ++ assemble units)) (hsize : 3 ≤ frame.data.length) :
    nalEnd frame (before.length + 1) = some (before.length + nal.bytes.length) := by
  have hlimit : frame.sizeMinus 3 = frame.data.length - 3 := frame.sizeMinus_of_le hsize
  have hpos := nal.length_pos
  have hskip : ∀ n < nal.bytes.length - 1, before.length + 1 + n < frame.sizeMinus 3 →
      endAt frame (before.length + 1 + n) none = some (0, none) := by
    intro n hn hlt
    rw [hlimit] at hlt
    have hnone : NoCodeAt frame.data (before.length + (1 + n)) :=
      noCodeAt_unit hend hframe (by omega)
    rw [← Nat.add_assoc] at hnone
    exact endAt_of_noCodeAt (by omega) hnone none
  have hstop : before.length + 1 + (nal.bytes.length - 1) = (before ++ nal.bytes).length := by
    rw [List.length_append]
    omega
  rw [nalEnd, scan_skip hskip, hstop]
  cases units with
  | nil =>
    have hall : frame.data.length = (before ++ nal.bytes).length := by
      rw [hframe, assemble_nil, List.append_nil]
    rw [scan, if_neg (by omega), Option.map_some, Option.getD_none, hall, List.length_append]
  | cons u units =>
    rw [assemble_cons, ← List.append_assoc] at hframe
    have hbehind : u.nal.bytes ++ assemble units ≠ [] := by simp [u.nal.ne_nil]
    have hcode := endAt_code u.code hframe hbehind none
    have hroom := code_inside u.code hframe hbehind
    have hinside : (before ++ nal.bytes).length < frame.sizeMinus 3 := by omega
    rw [scan, if_pos ⟨hinside, rfl⟩, hcode, Option.bind_some, scan, if_neg (by simp),
      Option.map_some, Option.getD_some, List.length_append]

/-! ### Looking at a unit -/

/-- The parameter sets after a unit has been looked at. -/
def StreamParams.see (params : StreamParams) (nal : NalUnit) : StreamParams :=
  let nalType := nal.header &&& 0x1F
  if nalType = 7 ∨ nalType = 8 then
    let sps := if nalType = 7 then params.sps.or (some nal.bytes) else params.sps
    let pps := if nalType = 8 then params.pps.or (some nal.bytes) else params.pps
    ⟨sps, pps, params.available || (sps.isSome && pps.isSome)⟩
  else params

/-- The loop does nothing at an offset without a start code. -/
theorem extractAt_of_noCodeAt (malloc : ℕ → Bool) {offset : ℕ}
    (h : offset + 4 < frame.data.length) (hnone : NoCodeAt frame.data offset)
    (params : StreamParams) : extractAt frame malloc offset params = some (0, params) := by
  rw [extractAt, nalStart_eq h, if_neg hnone.1, if_neg hnone.2]
  rfl

/-- A parameter set is copied whole. -/
theorem copyParams_unit (hframe : frame.data = before ++ (nal.bytes ++ assemble units))
    (held : Option (List UInt8)) :
    copyParams frame before.length (before.length + nal.bytes.length) held true =
      some (held.or (some nal.bytes)) := by
  have hpart : readPart frame.data before.length (before.length + nal.bytes.length) =
      some nal.bytes := by
    rw [readPart, if_pos (by rw [hframe]; simp), hframe, List.take_length_add_append,
      List.take_left, List.drop_left]
  cases held with
  | none => rw [copyParams, if_pos ⟨rfl, rfl⟩, hpart]; rfl
  | some bytes => rw [copyParams, if_neg (by simp)]; rfl

/-- The loop at a start code behind which a unit begins: a parameter set is looked at and passed
over, and nothing is done for another unit. -/
theorem extractAt_unit {offset : ℕ} (hstart : nalStart frame offset = some (some before.length))
    (hend : ¬nal.EndsInZero) (hframe : frame.data = before ++ (nal.bytes ++ assemble units))
    (hsize : 3 ≤ frame.data.length) (params : StreamParams) :
    extractAt frame (fun _ => true) offset params =
      some (if nal.header &&& 0x1F = 7 ∨ nal.header &&& 0x1F = 8 then
        before.length + nal.bytes.length - 1 - offset else 0, params.see nal) := by
  have hpos := nal.length_pos
  have hlt : before.length < frame.data.length := by
    rw [hframe, List.length_append, List.length_append]
    omega
  have hheader : frame.data[before.length]? = some nal.header := by
    rw [hframe, List.getElem?_append_right le_rfl, Nat.sub_self, nal.bytes_eq]
    rfl
  rw [extractAt, hstart, StreamParams.see]
  simp only [Option.bind_eq_bind, Option.bind_some, if_pos hlt, hheader,
    nalEnd_unit hend hframe hsize, copyParams_unit hframe]
  by_cases h7 : nal.header &&& 0x1F = 7
  · simp [h7]
  · by_cases h8 : nal.header &&& 0x1F = 8
    · simp [h8]
    · simp [h7, h8]

/-- Behind a start code in the stream stands its unit. -/
theorem nalStart_code {after : List UInt8} (code : StartCode) (hframe : frame.data = before ++
    (code.bytes ++ after)) (hinside : before.length + 4 < frame.data.length) :
    nalStart frame before.length = some (some (before ++ code.bytes).length) := by
  have hdrop : frame.data.drop before.length = code.bytes ++ after := by
    rw [hframe, List.drop_left]
  rw [nalStart_eq hinside, hdrop, List.length_append]
  cases code <;> simp [StartCode.bytes]

/-- The last two bytes of a start code begin none. -/
theorem noCodeAt_code {after : List UInt8} (code : StartCode) (hframe : frame.data = before ++
    (code.bytes ++ after)) {n : ℕ} (hlow : code.bytes.length ≤ n + 2)
    (hhigh : n < code.bytes.length) : NoCodeAt frame.data (before.length + n) := by
  rw [hframe, NoCodeAt, List.drop_length_add_append]
  cases code with
  | short =>
    obtain rfl | rfl : n = 1 ∨ n = 2 := by
      simp only [StartCode.bytes, List.length_cons, List.length_nil] at hlow hhigh
      omega
    · simp [StartCode.bytes]
    · simp [StartCode.bytes]
  | long =>
    obtain rfl | rfl : n = 2 ∨ n = 3 := by
      simp only [StartCode.bytes, List.length_cons, List.length_nil] at hlow hhigh
      omega
    · simp [StartCode.bytes]
    · simp [StartCode.bytes]

/-- Nothing is done at any offset from the start code to the end of a unit that is no parameter
set. -/
theorem extractAt_other {u : CodedUnit} (hend : ¬u.nal.EndsInZero)
    (htype : ¬(u.nal.header &&& 0x1F = 7 ∨ u.nal.header &&& 0x1F = 8))
    (hframe : frame.data = before ++ (u.code.bytes ++ (u.nal.bytes ++ assemble units)))
    {n : ℕ} (hn : n < u.code.bytes.length + u.nal.bytes.length)
    (hinside : before.length + n + 4 < frame.data.length) (params : StreamParams) :
    extractAt frame (fun _ => true) (before.length + n) params = some (0, params) := by
  have hbehind : frame.data = (before ++ u.code.bytes) ++ (u.nal.bytes ++ assemble units) := by
    rw [hframe, List.append_assoc]
  have hsame : params.see u.nal = params := if_neg htype
  have hunit : ∀ {offset}, nalStart frame offset = some (some (before ++ u.code.bytes).length) →
      extractAt frame (fun _ => true) offset params = some (0, params) := by
    intro offset hstart
    rw [extractAt_unit hstart hend hbehind (by omega), if_neg htype, hsame]
  by_cases hcode : n < u.code.bytes.length
  · by_cases hlow : u.code.bytes.length ≤ n + 2
    · exact extractAt_of_noCodeAt _ hinside (noCodeAt_code u.code hframe hlow hcode) params
    · -- A start code of three bytes begins in the second byte of one of four.
      refine hunit ?_
      rcases Nat.eq_zero_or_pos n with rfl | hpos
      · exact nalStart_code u.code hframe hinside
      · cases hlong : u.code with
        | short =>
          rw [hlong] at hlow
          simp only [StartCode.bytes, List.length_cons, List.length_nil] at hlow
          omega
        | long =>
          rw [hlong] at hframe hlow
          obtain rfl : n = 1 := by
            simp only [StartCode.bytes, List.length_cons, List.length_nil] at hlow
            omega
          have hsecond : frame.data = (before ++ [0]) ++
              (StartCode.short.bytes ++ (u.nal.bytes ++ assemble units)) := by
            rw [hframe, List.append_assoc]
            rfl
          have hstart := nalStart_code .short hsecond (by simpa using hinside)
          simpa [StartCode.bytes] using hstart
  · have hnone : NoCodeAt frame.data
        ((before ++ u.code.bytes).length + (n - u.code.bytes.length)) :=
      noCodeAt_unit hend hbehind (by omega)
    have hoffset : (before ++ u.code.bytes).length + (n - u.code.bytes.length) =
        before.length + n := by
      rw [List.length_append]
      omega
    rw [hoffset] at hnone
    exact extractAt_of_noCodeAt _ hinside hnone params

/-! ### A whole frame -/

/-- The parameter sets after the units of a frame. -/
def StreamParams.seeAll (params : StreamParams) (units : List CodedUnit) : StreamParams :=
  units.foldl (fun params u => params.see u.nal) params

/-- The loop looks at one unit after the other. -/
theorem scan_extractAt_assemble (hplain : Plain units) (hsize : 4 ≤ frame.data.length)
    (hframe : frame.data = before ++ assemble units) (params : StreamParams) :
    scan (frame.sizeMinus 4) (fun _ => true) (extractAt frame fun _ => true) before.length params =
      some (params.seeAll units) := by
  have hlimit : frame.sizeMinus 4 = frame.data.length - 4 := frame.sizeMinus_of_le hsize
  induction units generalizing before params with
  | nil =>
    rw [assemble_nil, List.append_nil] at hframe
    rw [scan, if_neg (by rw [hlimit, hframe]; omega)]
    rfl
  | cons u units ih =>
    obtain ⟨⟨htwo, hend⟩, hrest⟩ := List.forall_mem_cons.mp hplain
    rw [assemble_cons] at hframe
    have hbehind : frame.data = (before ++ u.code.bytes) ++ (u.nal.bytes ++ assemble units) := by
      rw [hframe, List.append_assoc]
    have hnext : frame.data = ((before ++ u.code.bytes) ++ u.nal.bytes) ++ assemble units := by
      simp only [hframe, List.append_assoc]
    have hcode : 3 ≤ u.code.bytes.length := by cases u.code <;> decide
    have hinside : before.length + 4 < frame.data.length := by
      simp only [hframe, List.length_append]
      omega
    by_cases htype : u.nal.header &&& 0x1F = 7 ∨ u.nal.header &&& 0x1F = 8
    · have hskip : before.length + 1 + ((before ++ u.code.bytes).length + u.nal.bytes.length - 1 -
          before.length) = ((before ++ u.code.bytes) ++ u.nal.bytes).length := by
        simp only [List.length_append]
        omega
      rw [scan, if_pos ⟨by omega, rfl⟩, extractAt_unit (nalStart_code u.code hframe hinside) hend
        hbehind (by omega), if_pos htype, Option.bind_some, hskip]
      exact ih hrest hnext _
    · have hskip : ∀ n < u.code.bytes.length + u.nal.bytes.length,
          before.length + n < frame.sizeMinus 4 →
            extractAt frame (fun _ => true) (before.length + n) params = some (0, params) :=
        fun n hn hlt => extractAt_other hend htype hframe hn (by omega) params
      have hlength : before.length + (u.code.bytes.length + u.nal.bytes.length) =
          ((before ++ u.code.bytes) ++ u.nal.bytes).length := by
        simp only [List.length_append]
        omega
      have hsame : params.see u.nal = params := if_neg htype
      rw [scan_skip hskip, hlength, ih hrest hnext]
      change _ = some ((params.see u.nal).seeAll units)
      rw [hsame]

/-! ### Frames on all channels -/

/-- A frame of plain units that arrives on a channel. -/
structure Arrival where
  channel : ℕ
  frame : Frame
  units : List CodedUnit
  plain : Plain units
  data_eq : frame.data = assemble units
  size_le : 4 ≤ frame.data.length

/-- The frames are looked at in turn, and every allocation succeeds. -/
def extractAll (params : Fin 4 → StreamParams) (arrivals : List Arrival) :
    Option (Fin 4 → StreamParams) :=
  arrivals.foldlM (fun params a => extractStreamParams params a.channel a.frame fun _ => true)
    params

/-- No parameter sets yet. -/
def StreamParams.none : StreamParams := ⟨Option.none, Option.none, false⟩

/-- The units that have come on a channel. -/
def unitsOn (channel : ℕ) (arrivals : List Arrival) : List CodedUnit :=
  (arrivals.filter (·.channel = channel)).flatMap (·.units)

/-- The bytes of the first unit of a type. -/
def firstOfType (nalType : UInt8) (units : List CodedUnit) : Option (List UInt8) :=
  (units.find? fun u => u.nal.header &&& 0x1F = nalType).map (·.nal.bytes)

/-- The parameter sets of a channel are available when there are both. -/
def StreamParams.Consistent (params : StreamParams) : Prop :=
  params.available = (params.sps.isSome && params.pps.isSome)

/-- Looking at a unit keeps what is there. -/
theorem StreamParams.Consistent.see {params : StreamParams} (h : params.Consistent)
    (nal : NalUnit) : (params.see nal).Consistent ∧
      (params.see nal).sps = params.sps.or
        (if nal.header &&& 0x1F = 7 then some nal.bytes else Option.none) ∧
      (params.see nal).pps = params.pps.or
        (if nal.header &&& 0x1F = 8 then some nal.bytes else Option.none) := by
  obtain ⟨sps, pps, available⟩ := params
  obtain rfl : available = (sps.isSome && pps.isSome) := h
  unfold StreamParams.see StreamParams.Consistent
  by_cases h7 : nal.header &&& 0x1F = 7
  · cases sps <;> cases pps <;> simp [h7]
  · by_cases h8 : nal.header &&& 0x1F = 8
    · cases sps <;> cases pps <;> simp [h8]
    · simp [h7, h8]

/-- The first units of the two types are kept. -/
theorem StreamParams.Consistent.seeAll {params : StreamParams} (h : params.Consistent)
    (units : List CodedUnit) : (params.seeAll units).Consistent ∧
      (params.seeAll units).sps = params.sps.or (firstOfType 7 units) ∧
      (params.seeAll units).pps = params.pps.or (firstOfType 8 units) := by
  induction units generalizing params with
  | nil => simpa [StreamParams.seeAll, firstOfType] using h
  | cons u units ih =>
    obtain ⟨hsee, hsps, hpps⟩ := h.see u.nal
    obtain ⟨hall, hsps', hpps'⟩ := ih hsee
    refine ⟨hall, ?_, ?_⟩
    · change ((params.see u.nal).seeAll units).sps = _
      rw [hsps', hsps, Option.or_assoc, firstOfType, firstOfType, List.find?_cons]
      by_cases h7 : u.nal.header &&& 0x1F = 7 <;> simp [h7]
    · change ((params.see u.nal).seeAll units).pps = _
      rw [hpps', hpps, Option.or_assoc, firstOfType, firstOfType, List.find?_cons]
      by_cases h8 : u.nal.header &&& 0x1F = 8 <;> simp [h8]

theorem StreamParams.none_consistent : StreamParams.none.Consistent := rfl

theorem StreamParams.seeAll_append (params : StreamParams) (units more : List CodedUnit) :
    params.seeAll (units ++ more) = (params.seeAll units).seeAll more :=
  List.foldl_append

/-- Nothing is added once both are there. -/
theorem StreamParams.Consistent.seeAll_of_available {params : StreamParams}
    (h : params.Consistent) (havailable : params.available = true) (units : List CodedUnit) :
    params.seeAll units = params := by
  obtain ⟨hall, hsps, hpps⟩ := h.seeAll units
  obtain ⟨hs, hp⟩ := Bool.and_eq_true_iff.mp (h.symm.trans havailable)
  obtain ⟨sps, hs⟩ := Option.isSome_iff_exists.mp hs
  obtain ⟨pps, hp⟩ := Option.isSome_iff_exists.mp hp
  rw [hs, Option.some_or] at hsps
  rw [hp, Option.some_or] at hpps
  have hagain : (params.seeAll units).available = true := by
    rw [hall, hsps, hpps]
    rfl
  generalize params.seeAll units = after at hsps hpps hagain
  cases params
  cases after
  simp_all

/-- A frame adds its units to what its channel has seen. -/
theorem extractStreamParams_arrival {params : Fin 4 → StreamParams}
    (h : ∀ channel, (params channel).Consistent) (a : Arrival) :
    extractStreamParams params a.channel a.frame (fun _ => true) =
      some fun channel : Fin 4 =>
        if a.channel = channel then (params channel).seeAll a.units else params channel := by
  unfold extractStreamParams
  by_cases hchannel : a.channel < fsChnNum
  · rw [dif_pos hchannel]
    have hother : ∀ channel : Fin 4, channel ≠ ⟨a.channel, hchannel⟩ → a.channel ≠ channel :=
      fun channel hne heq => hne (Fin.ext heq.symm)
    dsimp only
    by_cases havailable : (params ⟨a.channel, hchannel⟩).available = true
    · rw [if_pos havailable]
      congr 1
      funext channel
      by_cases hsame : channel = ⟨a.channel, hchannel⟩
      · subst hsame
        rw [if_pos rfl, (h _).seeAll_of_available havailable]
      · rw [if_neg (hother channel hsame)]
    · have hframe : a.frame.data = [] ++ assemble a.units := a.data_eq
      have hscan := scan_extractAt_assemble a.plain a.size_le hframe
        (params ⟨a.channel, hchannel⟩)
      rw [List.length_nil] at hscan
      rw [if_neg havailable, hscan, Option.map_some]
      congr 1
      funext channel
      by_cases hsame : channel = ⟨a.channel, hchannel⟩
      · subst hsame
        rw [Function.update_self, if_pos rfl]
      · rw [Function.update_of_ne hsame, if_neg (hother channel hsame)]
  · rw [dif_neg hchannel]
    congr 1
    funext channel
    have hlt : (channel : ℕ) < fsChnNum := channel.isLt
    rw [if_neg (by omega)]

/-- After any frames each channel has seen its units, in their order. -/
theorem extractAll_eq {params : Fin 4 → StreamParams}
    (h : ∀ channel, (params channel).Consistent) (arrivals : List Arrival) :
    extractAll params arrivals =
      some fun channel => (params channel).seeAll (unitsOn channel arrivals) := by
  induction arrivals generalizing params with
  | nil => rfl
  | cons a arrivals ih =>
    rw [extractAll, List.foldlM_cons, extractStreamParams_arrival h]
    have hnext : ∀ channel : Fin 4, (if a.channel = channel then (params channel).seeAll a.units
        else params channel).Consistent := by
      intro channel
      split_ifs
      · exact ((h channel).seeAll a.units).1
      · exact h channel
    refine (ih hnext).trans ?_
    congr 1
    funext channel
    by_cases hsame : a.channel = channel
    · have hcons : unitsOn channel (a :: arrivals) = a.units ++ unitsOn channel arrivals := by
        simp [unitsOn, hsame]
      rw [if_pos hsame, hcons, StreamParams.seeAll_append]
    · have hcons : unitsOn channel (a :: arrivals) = unitsOn channel arrivals := by
        simp [unitsOn, hsame]
      rw [if_neg hsame, hcons]

/-! ### The offsets of the loop -/

/-- The offset after a number of iterations, or where the loop has ended. -/
def extractOffset (frame : Frame) : ℕ → ℕ → Option ℕ
  | 0, offset => some offset
  | count + 1, offset =>
    if offset < frame.sizeMinus 4 then
      (extractNext frame offset).bind (extractOffset frame count)
    else some offset

/-- The loop over a frame of at least four bytes ends after at most as many iterations. -/
theorem extractOffset_ends (hsize : 4 ≤ frame.data.length) :
    ∃ stop, extractOffset frame frame.data.length 0 = some stop ∧ frame.sizeMinus 4 ≤ stop := by
  have hlimit : frame.sizeMinus 4 = frame.data.length - 4 := frame.sizeMinus_of_le hsize
  suffices hloop : ∀ count offset, frame.data.length ≤ offset + count →
      ∃ stop, extractOffset frame count offset = some stop ∧ frame.sizeMinus 4 ≤ stop from
    hloop _ _ (Nat.le_add_left _ _)
  intro count
  induction count with
  | zero => exact fun offset hle => ⟨offset, rfl, by omega⟩
  | succ count ih =>
    intro offset hle
    rw [extractOffset]
    by_cases hinside : offset < frame.sizeMinus 4
    · obtain ⟨skipped, -, -, hnext⟩ := extractAt_next (fun _ => true)
        (show offset + 4 < frame.data.length by omega) .none
      rw [if_pos hinside, hnext]
      exact ih _ (by omega)
    · rw [if_neg hinside]
      exact ⟨offset, rfl, Nat.le_of_not_lt hinside⟩

/-! ### The parameter sets of a run -/

/-- The parameter sets are the first ones of the units, and are available when the units hold
both. -/
def StreamParams.HoldsFirst (params : StreamParams) (units : List CodedUnit) : Prop :=
  params.sps = firstOfType 7 units ∧ params.pps = firstOfType 8 units ∧
    (params.available = true ↔ (∃ u ∈ units, u.nal.header &&& 0x1F = 7) ∧
      ∃ u ∈ units, u.nal.header &&& 0x1F = 8)

/-- What is there stays as it is. -/
def StreamParams.Extends (later earlier : StreamParams) : Prop :=
  (∀ sps ∈ earlier.sps, later.sps = some sps) ∧ (∀ pps ∈ earlier.pps, later.pps = some pps) ∧
    (earlier.available = true → later = earlier)

theorem firstOfType_isSome (nalType : UInt8) (units : List CodedUnit) :
    (firstOfType nalType units).isSome = true ↔
      ∃ u ∈ units, u.nal.header &&& 0x1F = nalType := by
  simp [firstOfType]

/-- After any frames each channel holds the first SPS and the first PPS of its units, which no
later frame changes, and the loop ends on each frame. -/
theorem extractAll_holdsFirst (earlier later : List Arrival) :
    (∃ params params', extractAll (fun _ => .none) earlier = some params ∧
      extractAll params later = some params' ∧
      ∀ channel : Fin 4, (params channel).HoldsFirst (unitsOn channel earlier) ∧
        (params' channel).Extends (params channel)) ∧
    ∀ a ∈ earlier ++ later, ∃ stop, extractOffset a.frame a.frame.data.length 0 = some stop ∧
      a.frame.sizeMinus 4 ≤ stop := by
  refine ⟨⟨_, _, extractAll_eq (fun _ => StreamParams.none_consistent) earlier,
    extractAll_eq (fun channel => (StreamParams.none_consistent.seeAll _).1) later,
    fun channel => ?_⟩, fun a _ => extractOffset_ends a.size_le⟩
  obtain ⟨hconsistent, hsps, hpps⟩ :=
    StreamParams.none_consistent.seeAll (unitsOn channel earlier)
  obtain ⟨-, hsps', hpps'⟩ := hconsistent.seeAll (unitsOn channel later)
  refine ⟨⟨hsps, hpps, ?_⟩, ?_, ?_, fun havailable => hconsistent.seeAll_of_available havailable _⟩
  · rw [hconsistent, hsps, hpps, Bool.and_eq_true, ← firstOfType_isSome 7, ← firstOfType_isSome 8]
    rfl
  · intro sps hheld
    rw [hsps', Option.mem_def.mp hheld, Option.some_or]
  · intro pps hheld
    rw [hpps', Option.mem_def.mp hheld, Option.some_or]

end FrameManager
