import Strero.RtmpClient.Conversion

/-!
# The two builders of the sequence header

One function builds the sequence header of parameter sets that the frame manager has kept, the
other of those that it finds in a frame. Each allocates a buffer of a size that it computes
first, and then writes the header byte by byte.
-/

namespace RtmpClient

open AnnexB Scan Wire
open FrameManager (Frame)

/-! ### Building -/

/-- A parameter set, with its size in an `uint32_t`. -/
structure ParameterSet where
  bytes : List UInt8
  fits : bytes.length < 2 ^ 32

/-- A header that is built: the size that was allocated for it, and the bytes written. -/
structure BuiltHeader where
  size : UInt32
  written : List UInt8
deriving DecidableEq

/-- What a builder does: it reads outside of a parameter set or of the frame, it gives up after
it has written a number of bytes into an allocation, or it builds the header. -/
inductive Building
  | readsOutside
  | givesUp (size : UInt32) (written : ℕ)
  | built (header : BuiltHeader)
deriving DecidableEq

/-- The bytes of a header, with three of the SPS repeated. -/
def headerBytes (sps pps : List UInt8) : Option (List UInt8) := do
  let profile ← sps[1]?
  let compatibility ← sps[2]?
  let level ← sps[3]?
  return [0x17, 0, 0, 0, 0] ++ [1, profile, compatibility, level, 0xFF, 0xE1] ++
    putBe16 (UInt32.ofNat sps.length) ++ sps ++ [1] ++ putBe16 (UInt32.ofNat pps.length) ++ pps

/-- The header is built in an allocation, unless its SPS is read outside. -/
def buildHeader (size : UInt32) (sps pps : List UInt8) : Building :=
  match headerBytes sps pps with
  | some written => .built ⟨size, written⟩
  | none => .readsOutside

/-- `send_cached_avc_sequence_header`, up to the call that sends the header. -/
def sendCachedAvcSequenceHeader (sps pps : Option ParameterSet) (malloc : Bool) : Building :=
  match sps, pps with
  | some ⟨sps, _⟩, some ⟨pps, _⟩ =>
    let headerSize := 5 + 6 + 2 + UInt32.ofNat sps.length + 3 + UInt32.ofNat pps.length
    if malloc then buildHeader headerSize sps pps else .givesUp 0 0
  | _, _ => .givesUp 0 0

/-- `send_avc_sequence_header_from_frame`, up to the call that sends the header. Six bytes are
written before the size of the SPS is looked at. -/
def sendAvcSequenceHeaderFromFrame (frame : Frame) (malloc : Bool) : Building :=
  match scan (frame.sizeMinus 4) (fun _ => true) (parameterSetAt frame) 0 (none, none) with
  | none => .readsOutside
  | some (some sps, some pps) =>
    let headerSize := 5 + 6 + UInt32.ofNat sps.length + 3 + UInt32.ofNat pps.length
    if malloc then
      if sps.length < 4 then .givesUp headerSize 6 else buildHeader headerSize sps pps
    else .givesUp 0 0
  | some _ => .givesUp 0 0

/-! ### What is built -/

theorem headerBytes_isSome_iff (sps pps : List UInt8) :
    (headerBytes sps pps).isSome ↔ 4 ≤ sps.length := by
  unfold headerBytes
  match sps with
  | [] | [_] | [_, _] | [_, _, _] => simp
  | _ :: _ :: _ :: _ :: _ => simp

/-- The header holds a configuration with the second to fourth byte of the SPS. -/
theorem headerBytes_of_le {sps : List UInt8} (h : 4 ≤ sps.length) (pps : List UInt8) :
    ∃ profile compatibility level, sps[1]? = some profile ∧ sps[2]? = some compatibility ∧
      sps[3]? = some level ∧ headerBytes sps pps = some ([0x17, 0, 0, 0, 0] ++
        Avcc.configuration profile compatibility level sps pps) := by
  match sps, h with
  | first :: profile :: compatibility :: level :: rest, _ =>
    exact ⟨profile, compatibility, level, rfl, rfl, rfl, rfl⟩

/-- It is sixteen bytes longer than the parameter sets. -/
theorem headerBytes_length {sps pps written : List UInt8} (h : headerBytes sps pps = some written) :
    written.length = 16 + sps.length + pps.length := by
  have hsps := (headerBytes_isSome_iff sps pps).mp (h ▸ rfl)
  obtain ⟨profile, compatibility, level, -, -, -, hbytes⟩ := headerBytes_of_le hsps pps
  rw [← Option.some.inj (hbytes.symm.trans h)]
  simp only [Avcc.configuration, List.length_append, List.length_cons, List.length_nil,
    putBe16_length]
  omega

/-- Both functions send the header that the frame path takes for theirs. -/
theorem avcSequenceHeader_eq (sps pps : List UInt8) :
    avcSequenceHeader sps pps = headerBytes sps pps := by
  match sps with
  | [] | [_] | [_, _] | [_, _, _] => rfl
  | _ :: _ :: _ :: _ :: _ => rfl

variable {frame : Frame} {units : List CodedUnit}

/-- The search of the builder, in a frame of at least four bytes. -/
theorem sendAvcSequenceHeaderFromFrame_of_le (hsize : 4 ≤ frame.data.length) (malloc : Bool) :
    sendAvcSequenceHeaderFromFrame frame malloc =
      match findNal 7 frame.data, findNal 8 frame.data with
      | some sps, some pps =>
        let headerSize := 5 + 6 + UInt32.ofNat sps.length + 3 + UInt32.ofNat pps.length
        if malloc then
          if sps.length < 4 then .givesUp headerSize 6 else buildHeader headerSize sps pps
        else .givesUp 0 0
      | _, _ => .givesUp 0 0 := by
  unfold sendAvcSequenceHeaderFromFrame
  rw [scan_parameterSetAt hsize, List.drop_zero, Option.none_or, Option.none_or]
  cases findNal 7 frame.data with
  | none => rfl
  | some sps => cases findNal 8 frame.data <;> rfl

/-- A shorter frame is read outside. -/
theorem sendAvcSequenceHeaderFromFrame_of_short (hshort : frame.data.length < 4) (malloc : Bool) :
    sendAvcSequenceHeaderFromFrame frame malloc = .readsOutside := by
  have hsearch : scan (frame.sizeMinus 4) (fun _ => true) (parameterSetAt frame) 0 (none, none) =
      none := scan_of_short hshort (fun _ _ => ⟨_, rfl, rfl⟩) _
  rw [sendAvcSequenceHeaderFromFrame, hsearch]

/-- The unit that the search finds is not longer than the frame. -/
theorem findNal_length_le {nalType : UInt8} {data unit : List UInt8}
    (h : findNal nalType data = some unit) : unit.length ≤ data.length := by
  fun_induction findNal nalType data with
  | case1 b rest unit' htype =>
    obtain rfl := Option.some.inj h
    simp only [List.length_take, List.length_cons, unit']
    omega
  | case2 b rest unit' htype ih =>
    have hlength := ih h
    simp only [List.length_drop, List.length_cons, unit'] at hlength ⊢
    omega
  | case3 a rest hlong ih => exact (ih h).trans (Nat.le_succ _)
  | case4 => cases h

/-! ### The bounds of the allocation -/

/-- Nothing is read or written outside, and a header that is built has the size that was allocated
for it. -/
def Building.InBounds : Building → Prop
  | .readsOutside => False
  | .givesUp size written => written ≤ size.toNat
  | .built header => header.written.length = header.size.toNat

/-- The size of the allocation is a sum of 32 bits. -/
theorem buildHeader_inBounds_iff (size : UInt32) (sps pps : List UInt8) :
    (buildHeader size sps pps).InBounds ↔
      4 ≤ sps.length ∧ 16 + sps.length + pps.length = size.toNat := by
  unfold buildHeader
  cases hbytes : headerBytes sps pps with
  | none =>
    have hnone := headerBytes_isSome_iff sps pps
    rw [hbytes] at hnone
    exact iff_of_false id fun hboth => absurd (hnone.mpr hboth.1) (by decide)
  | some written =>
    have hsome := (headerBytes_isSome_iff sps pps).mp (hbytes ▸ rfl)
    have hlength := headerBytes_length hbytes
    simp only [Building.InBounds, hlength, hsome, true_and]

/-- The builder of kept parameter sets stays in bounds exactly if it builds nothing, or the SPS
has four bytes and the size does not wrap. -/
theorem sendCachedAvcSequenceHeader_inBounds_iff (sps pps : Option ParameterSet) (malloc : Bool) :
    (sendCachedAvcSequenceHeader sps pps malloc).InBounds ↔
      ∀ s ∈ sps, ∀ p ∈ pps, malloc = true →
        4 ≤ s.bytes.length ∧ 16 + s.bytes.length + p.bytes.length < 2 ^ 32 := by
  cases sps with
  | none => simp [sendCachedAvcSequenceHeader, Building.InBounds]
  | some s =>
    cases pps with
    | none => simp [sendCachedAvcSequenceHeader, Building.InBounds]
    | some p =>
      cases malloc with
      | false => simp [sendCachedAvcSequenceHeader, Building.InBounds]
      | true =>
        obtain ⟨s, hs⟩ := s
        obtain ⟨p, hp⟩ := p
        have hsize : (5 + 6 + 2 + UInt32.ofNat s.length + 3 + UInt32.ofNat p.length).toNat =
            (16 + s.length + p.length) % 2 ^ 32 := by
          simp only [UInt32.toNat_add, UInt32.toNat_ofNat', UInt32.reduceToNat]
          omega
        simp only [sendCachedAvcSequenceHeader, if_true, buildHeader_inBounds_iff, hsize,
          Option.mem_def, Option.some.injEq, forall_eq', true_imp_iff]
        refine and_congr_right fun _ => ?_
        omega

/-- The builder for a frame stays in bounds exactly if the frame has four bytes and no header is
built of it: it writes two bytes more than it allocates. -/
theorem sendAvcSequenceHeaderFromFrame_inBounds_iff (frame : Frame) (malloc : Bool) :
    (sendAvcSequenceHeaderFromFrame frame malloc).InBounds ↔
      4 ≤ frame.data.length ∧ ∀ sps pps, findNal 7 frame.data = some sps →
        findNal 8 frame.data = some pps → malloc = true → sps.length < 4 := by
  by_cases hsize : 4 ≤ frame.data.length
  · rw [sendAvcSequenceHeaderFromFrame_of_le hsize]
    cases hsps : findNal 7 frame.data with
    | none => simp [Building.InBounds, hsize]
    | some sps =>
      cases hpps : findNal 8 frame.data with
      | none => simp [Building.InBounds, hsize]
      | some pps =>
        cases malloc with
        | false => simp [Building.InBounds, hsize]
        | true =>
          have hs := findNal_length_le hsps
          have hp := findNal_length_le hpps
          have hframe := frame.fits
          have hallocated : (5 + 6 + UInt32.ofNat sps.length + 3 + UInt32.ofNat pps.length).toNat =
              (14 + sps.length + pps.length) % 2 ^ 32 := by
            simp only [UInt32.toNat_add, UInt32.toNat_ofNat', UInt32.reduceToNat]
            omega
          simp only [if_true, hsize, true_and]
          by_cases hshort : sps.length < 4
          · rw [if_pos hshort]
            refine iff_of_true ?_ fun sps' _ hsame _ _ => Option.some.inj hsame ▸ hshort
            rw [Building.InBounds, hallocated]
            omega
          · rw [if_neg hshort, buildHeader_inBounds_iff, hallocated]
            refine iff_of_false (fun hboth => ?_) fun hall => hshort (hall sps pps rfl rfl trivial)
            omega
  · rw [sendAvcSequenceHeaderFromFrame_of_short (Nat.lt_of_not_le hsize)]
    exact iff_of_false id fun hboth => hsize hboth.1

/-- Both stay in bounds exactly if both of these hold. -/
theorem sequenceHeaders_inBounds_iff (sps pps : Option ParameterSet) (frame : Frame)
    (malloc malloc' : Bool) :
    (sendCachedAvcSequenceHeader sps pps malloc).InBounds ∧
        (sendAvcSequenceHeaderFromFrame frame malloc').InBounds ↔
      (∀ s ∈ sps, ∀ p ∈ pps, malloc = true →
        4 ≤ s.bytes.length ∧ 16 + s.bytes.length + p.bytes.length < 2 ^ 32) ∧
      4 ≤ frame.data.length ∧ ∀ s p, findNal 7 frame.data = some s →
        findNal 8 frame.data = some p → malloc' = true → s.length < 4 :=
  and_congr (sendCachedAvcSequenceHeader_inBounds_iff sps pps malloc)
    (sendAvcSequenceHeaderFromFrame_inBounds_iff frame malloc')

/-- A frame with its parameter sets. -/
def parameterFrame : Frame :=
  ⟨[0, 0, 0, 1, 0x67, 0x42, 0, 0x1F, 0, 0, 0, 1, 0x68, 0xCA], by decide⟩

/-- The header of a frame does not fit into its allocation. -/
theorem not_sequenceHeaders_inBounds :
    ¬(sendAvcSequenceHeaderFromFrame parameterFrame true).InBounds := by
  have hbuilt : sendAvcSequenceHeaderFromFrame parameterFrame true =
      .built ⟨20, [0x17, 0, 0, 0, 0, 1, 0x42, 0, 0x1F, 0xFF, 0xE1, 0, 4, 0x67, 0x42, 0, 0x1F,
        1, 0, 2, 0x68, 0xCA]⟩ := by decide +kernel
  rw [hbuilt]
  exact show ¬(22 = 20) by decide

/-! ### Agreement -/

/-- The first unit of a type behind a long start code, with the units behind it. -/
def firstLong (nalType : UInt8) : List CodedUnit → Option (NalUnit × List CodedUnit)
  | [] => none
  | u :: units =>
    if u.code = .long ∧ u.nal.header &&& 0x1F = nalType then some (u.nal, units)
    else firstLong nalType units

theorem findNal_cons_of_not {nalType a : UInt8} {rest : List UInt8}
    (hlong : ¬[0, 0, 0, 1] <+: a :: rest) :
    findNal nalType (a :: rest) = findNal nalType rest := by
  rw [findNal]
  rintro b more rfl rfl
  exact hlong ⟨b :: more, rfl⟩

/-- The search passes over a part without start codes of four bytes. -/
theorem findNal_append {nalType : UInt8} {front rest : List UInt8} (h : NoLongIn front rest) :
    findNal nalType (front ++ rest) = findNal nalType rest := by
  induction front with
  | nil => rfl
  | cons a front ih =>
    have hfirst : ¬[0, 0, 0, 1] <+: a :: (front ++ rest) := h 0 (Nat.succ_pos _)
    rw [List.cons_append, findNal_cons_of_not hfirst, ih h.tail]

/-- A step of the search at a start code. -/
theorem findNal_long {nalType : UInt8} {unit : List UInt8} (hne : unit ≠ []) :
    findNal nalType ([0, 0, 0, 1] ++ unit) =
      if unit.head hne &&& 0x1F = nalType then some (unit.take (nalLength unit))
      else findNal nalType (unit.drop (nalLength unit)) := by
  obtain ⟨b, rest, rfl⟩ := List.exists_cons_of_ne_nil hne
  exact findNal.eq_1 nalType b rest

/-- The search finds the first such unit, with what stands behind short codes. -/
theorem findNal_assemble (nalType : UInt8) (h : NoneEndsInZero units) :
    findNal nalType (assemble units) =
      (firstLong nalType units).map fun r => r.1.bytes ++ assemble (shortFront r.2) := by
  induction units with
  | nil => simp [findNal, firstLong]
  | cons u units ih =>
    obtain ⟨hfirst, hrest⟩ := List.forall_mem_cons.mp h
    rw [assemble_cons, firstLong]
    cases hcode : u.code with
    | short =>
      have hskip := noLongIn_short hcode hfirst units
      rw [hcode] at hskip
      rw [← List.append_assoc, findNal_append hskip, ih hrest, if_neg (by simp)]
    | long =>
      have hne : u.nal.bytes ++ assemble units ≠ [] := by simp [u.nal.ne_nil]
      have hhead : (u.nal.bytes ++ assemble units).head hne = u.nal.header :=
        List.head_append_of_ne_nil _
      have hlater : findNal nalType (assemble (longRest units)) =
          findNal nalType (assemble units) := by
        rw [← findNal_append (noLongIn_shortFront hrest), assemble_shortFront_append]
      change findNal nalType ([0, 0, 0, 1] ++ (u.nal.bytes ++ assemble units)) = _
      rw [findNal_long hne, hhead, take_unit hfirst hrest, drop_unit hfirst hrest, hlater,
        ih hrest]
      by_cases htype : u.nal.header &&& 0x1F = nalType
      · rw [if_pos htype, if_pos ⟨rfl, htype⟩]
        rfl
      · rw [if_neg htype, if_neg fun hboth => htype hboth.2]

/-- A size of sixteen bits is one of thirty-two. -/
theorem pow16_lt_pow32 : (2 : ℕ) ^ 16 < 2 ^ 32 := by decide

/-- A unit as a parameter set. -/
def unitSet (nal : NalUnit) (h : nal.bytes.length < 2 ^ 16) : ParameterSet :=
  ⟨nal.bytes, h.trans pow16_lt_pow32⟩

/-- The header of the kept parameter sets and the one of the frame are the same bytes, and the
configuration in it is parsed to the parameter sets and to the second to fourth byte of the
SPS. -/
def HeadersAgree (sps pps : ParameterSet) (frame : Frame) : Prop :=
  ∃ cached own profile compatibility level,
    sendCachedAvcSequenceHeader (some sps) (some pps) true = .built cached ∧
    sendAvcSequenceHeaderFromFrame frame true = .built own ∧ own.written = cached.written ∧
    sps.bytes[1]? = some profile ∧ sps.bytes[2]? = some compatibility ∧
    sps.bytes[3]? = some level ∧
    Avcc.parseConfiguration (cached.written.drop 5) =
      some (⟨profile, compatibility, level, 4, [sps.bytes], [pps.bytes]⟩, [])

theorem length_le_of_firstLong {nalType : UInt8} {nal : NalUnit} {rest : List CodedUnit}
    (h : firstLong nalType units = some (nal, rest)) :
    4 + nal.bytes.length ≤ (assemble units).length := by
  induction units with
  | nil => cases h
  | cons u units ih =>
    rw [assemble_cons, List.length_append, List.length_append]
    rw [firstLong] at h
    split at h
    case isTrue hfound =>
      obtain ⟨rfl, rfl⟩ := Prod.mk.inj (Option.some.inj h)
      have hfour : u.code.bytes.length = 4 := by rw [hfound.1]; rfl
      omega
    case isFalse =>
      have hlength := ih h
      omega

/-- The header of the kept parameter sets and the one of a frame that holds them behind long start
codes agree exactly if no unit behind a short start code follows the SPS or the PPS. -/
theorem sequenceHeaders_agree_iff {sps pps : NalUnit} {behindSps behindPps : List CodedUnit}
    (hspsLong : 4 ≤ sps.bytes.length) (hspsFits : sps.bytes.length < 2 ^ 16)
    (hppsFits : pps.bytes.length < 2 ^ 16) (hdata : frame.data = assemble units)
    (hend : NoneEndsInZero units) (hsps : firstLong 7 units = some (sps, behindSps))
    (hpps : firstLong 8 units = some (pps, behindPps)) :
    HeadersAgree (unitSet sps hspsFits) (unitSet pps hppsFits) frame ↔
      shortFront behindSps = [] ∧ shortFront behindPps = [] := by
  have hsize : 4 ≤ frame.data.length := by
    have hlength := length_le_of_firstLong hsps
    rw [hdata]
    omega
  obtain ⟨profile, compatibility, level, hprofile, hcompatibility, hlevel, hcached⟩ :=
    headerBytes_of_le hspsLong pps.bytes
  have hbuilt : ∃ size, sendCachedAvcSequenceHeader (some (unitSet sps hspsFits))
      (some (unitSet pps hppsFits)) true = .built ⟨size, [0x17, 0, 0, 0, 0] ++
        Avcc.configuration profile compatibility level sps.bytes pps.bytes⟩ := by
    simp only [sendCachedAvcSequenceHeader, unitSet, if_true, buildHeader, hcached]
    exact ⟨_, rfl⟩
  -- What the frame holds for a parameter set is the unit with what stands behind short codes.
  have hlong : 4 ≤ (sps.bytes ++ assemble (shortFront behindSps)).length := by
    rw [List.length_append]
    omega
  have hown : ∃ size, sendAvcSequenceHeaderFromFrame frame true =
      buildHeader size (sps.bytes ++ assemble (shortFront behindSps))
        (pps.bytes ++ assemble (shortFront behindPps)) := by
    rw [sendAvcSequenceHeaderFromFrame_of_le hsize, hdata, findNal_assemble 7 hend,
      findNal_assemble 8 hend, hsps, hpps]
    simp only [Option.map_some, if_true, if_neg (not_lt.mpr hlong)]
    exact ⟨_, rfl⟩
  obtain ⟨size, hbuilt⟩ := hbuilt
  obtain ⟨ownSize, hown⟩ := hown
  constructor
  · rintro ⟨cached, own, -, -, -, hcached', hown', hsame, -⟩
    obtain rfl := Building.built.inj (hbuilt.symm.trans hcached')
    rw [hown, buildHeader] at hown'
    split at hown'
    case h_2 => cases hown'
    case h_1 written hwritten =>
      obtain rfl := Building.built.inj hown'
      have hlength := congrArg List.length hsame
      rw [headerBytes_length hwritten, headerBytes_length hcached, List.length_append,
        List.length_append] at hlength
      rw [← assemble_eq_nil_iff, ← assemble_eq_nil_iff, ← List.length_eq_zero_iff,
        ← List.length_eq_zero_iff]
      omega
  · rintro ⟨hspsAlone, hppsAlone⟩
    rw [hspsAlone, hppsAlone, assemble_nil, List.append_nil, List.append_nil, buildHeader,
      hcached] at hown
    refine ⟨_, _, profile, compatibility, level, hbuilt, hown, rfl, hprofile, hcompatibility,
      hlevel, ?_⟩
    exact Avcc.parseConfiguration_configuration profile compatibility level hspsFits hppsFits

/-- An SPS of four bytes. -/
def baselineSps : NalUnit := ⟨[0x67, 0x42, 0xC0, 0x28], by decide, by decide, by decide⟩

/-- A PPS of two bytes. -/
def baselinePps : NalUnit := ⟨[0x68, 0xCB], by decide, by decide, by decide⟩

/-- A picture. -/
def baselineIdr : NalUnit := ⟨[0x65, 0x9C], by decide, by decide, by decide⟩

/-- A key frame with its parameter sets, and the picture behind either start code. -/
def baselineFrame (code : StartCode) : List CodedUnit :=
  [⟨.long, baselineSps⟩, ⟨.long, baselinePps⟩, ⟨code, baselineIdr⟩]

/-- Its bytes are few. -/
theorem baselineFrame_fits (code : StartCode) :
    (assemble (baselineFrame code)).length < 2 ^ 31 := by
  cases code <;> decide

/-- The sizes of its parameter sets. -/
theorem baselineSps_fits : baselineSps.bytes.length < 2 ^ 16 := by decide

theorem baselinePps_fits : baselinePps.bytes.length < 2 ^ 16 := by decide

/-- With long start codes the headers agree. -/
theorem sequenceHeaders_agree_long :
    HeadersAgree (unitSet baselineSps baselineSps_fits) (unitSet baselinePps baselinePps_fits)
      ⟨assemble (baselineFrame .long), baselineFrame_fits .long⟩ :=
  (sequenceHeaders_agree_iff (by decide) baselineSps_fits baselinePps_fits rfl (by decide) rfl
    rfl).mpr ⟨rfl, rfl⟩

/-- With a short one in front of the picture the header of the frame has the picture in its
PPS. -/
theorem not_sequenceHeaders_agree_short :
    ¬HeadersAgree (unitSet baselineSps baselineSps_fits) (unitSet baselinePps baselinePps_fits)
      ⟨assemble (baselineFrame .short), baselineFrame_fits .short⟩ := by
  rintro ⟨cached, own, -, -, -, hcached, hown, hsame, -⟩
  have hbuilt : sendCachedAvcSequenceHeader (some (unitSet baselineSps baselineSps_fits))
      (some (unitSet baselinePps baselinePps_fits)) true =
        .built ⟨22, [0x17, 0, 0, 0, 0, 1, 0x42, 0xC0, 0x28, 0xFF, 0xE1, 0, 4, 0x67, 0x42, 0xC0,
          0x28, 1, 0, 2, 0x68, 0xCB]⟩ := by decide +kernel
  have hownBuilt : sendAvcSequenceHeaderFromFrame
      ⟨assemble (baselineFrame .short), baselineFrame_fits .short⟩ true =
        .built ⟨25, [0x17, 0, 0, 0, 0, 1, 0x42, 0xC0, 0x28, 0xFF, 0xE1, 0, 4, 0x67, 0x42, 0xC0,
          0x28, 1, 0, 7, 0x68, 0xCB, 0, 0, 1, 0x65, 0x9C]⟩ := by decide +kernel
  obtain rfl := Building.built.inj (hbuilt.symm.trans hcached)
  obtain rfl := Building.built.inj (hownBuilt.symm.trans hown)
  exact absurd hsame (by decide)

end RtmpClient
