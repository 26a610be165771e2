import Strero.Rtsp.FrameLoop
import Strero.Rtsp.NalSplitting
import Strero.RtmpClient.VideoFrame
import Strero.StreamParams

/-!
# The three detectors of key frames

The frame manager, the RTSP server and the RTMP client look for the IDR picture of a frame
in their own ways. The first and the last see only the units behind start codes of four
bytes, the first stops at a picture that is none, and the second sees the first 100 units.
-/

namespace KeyFrameDetectors

open AnnexB Rtsp

/-- The type in the header of a unit of H.264. -/
def unitType (nal : NalUnit) : UInt8 := nal.header &&& 0x1F

/-! ### Start codes of four bytes -/

/-- The RTMP client finds an IDR picture behind a long start code. -/
theorem rtmp_isKeyframe_assemble (units : List CodedUnit) :
    RtmpClient.isKeyframe (assemble units) =
      (behindLong False units).any fun nal => unitType nal = 5 := by
  rw [RtmpClient.isKeyframe, RtmpClient.hasNalType_eq, longHeaders_assemble, List.any_map]
  rfl

/-- The frame manager looks at the first picture behind a long start code. -/
theorem manager_isKeyframe_assemble (units : List CodedUnit) :
    FrameManager.isKeyframe (FrameManager.detectFrameType (assemble units)) =
      ((behindLong False units).find? fun nal => unitType nal = 5 || unitType nal = 1).any
        fun nal => unitType nal = 5 := by
  rw [FrameManager.isKeyframe_detectFrameType, longHeaders_assemble, List.find?_map,
    Option.any_map]
  rfl

/-! ### The scan of the RTSP server -/

variable {frame before after bytes rest : List UInt8} {nals : List NalRange} {offset : ℕ}

/-- An offset at which no start code stands. -/
theorem scanNals_skip (hnone : NoCodeAt frame offset) :
    scanNals frame offset nals = scanNals frame (offset + 1) nals := by
  rw [scanNals, if_neg hnone.1, if_neg hnone.2]
  by_cases hgoes : offset < frame.length ∧ nals.length < 100
  · rw [if_pos hgoes]
  · rw [if_neg hgoes, scanNals, if_neg (by omega)]

/-- Offsets at which no start code stands. -/
theorem scanNals_run {count : ℕ} (hnone : ∀ n < count, NoCodeAt frame (offset + n)) :
    scanNals frame offset nals = scanNals frame (offset + count) nals := by
  induction count with
  | zero => rfl
  | succ count ih =>
    rw [ih fun n hn => hnone n (by omega), scanNals_skip (hnone count (Nat.lt_succ_self count)),
      Nat.add_assoc]

/-- An offset at which a start code stands, with room for one more unit. -/
theorem scanNals_code (code : StartCode) (hframe : frame = before ++ (code.bytes ++ after))
    (hroom : nals.length < 100) :
    scanNals frame before.length nals =
      scanNals frame (before.length + codeLength code)
        (setLastSize nals before.length ++ [⟨before.length + codeLength code, 0⟩]) := by
  have hdrop : frame.drop before.length = code.bytes ++ after := by
    rw [hframe, List.drop_left]
  have hlt : before.length < frame.length := by
    rw [hframe]
    cases code <;> simp [StartCode.bytes]
  rw [scanNals, if_pos ⟨hlt, hroom⟩, hdrop]
  cases code with
  | short => rw [if_neg (by simp [StartCode.bytes]), if_pos ⟨after, rfl⟩]; rfl
  | long => rw [if_pos ⟨after, rfl⟩]; rfl

/-- The entries of units of type 5. -/
def hasIdr (frame : List UInt8) (nals : List NalRange) : Bool :=
  (nals.filterMap fun nal => if nal.offset < frame.length ∧ 0 < nal.size then
    nalType .h264 (nal.bytes frame) else none).any (· = 5)

theorem hasIdr_append (frame : List UInt8) (nals nals' : List NalRange) :
    hasIdr frame (nals ++ nals') = (hasIdr frame nals || hasIdr frame nals') := by
  rw [hasIdr, List.filterMap_append, List.any_append]
  rfl

/-- An entry that holds the first byte of a unit. -/
theorem hasIdr_unit {nal : NalUnit} {size : ℕ}
    (hframe : frame = before ++ (nal.bytes ++ rest)) (hsize : size = 0 → nal.bytes = [0]) :
    hasIdr frame [⟨before.length, size⟩] = decide (unitType nal = 5) := by
  have hinside : before.length < frame.length := by
    have := nal.length_pos
    rw [hframe, List.length_append, List.length_append]
    omega
  rcases Nat.eq_zero_or_pos size with rfl | hpos
  · have hheader : nal.header = 0 := by simp [NalUnit.header, hsize rfl]
    simp [hasIdr, unitType, hheader]
  · obtain ⟨n, rfl⟩ : ∃ n, size = n + 1 := ⟨size - 1, by omega⟩
    have hbytes : NalRange.bytes ⟨before.length, n + 1⟩ frame =
        nal.header :: (nal.bytes.tail ++ rest).take n := by
      rw [NalRange.bytes, hframe, List.drop_left, nal.bytes_eq, List.cons_append,
        List.take_succ_cons]
      rfl
    simp [hasIdr, hinside, hbytes, nalType, unitType]
    rfl

/-- The search stops with an entry for a unit that is not full. -/
theorem hasIdr_scanNals_stop {nal : NalUnit} (hframe : frame = before ++ (nal.bytes ++ rest))
    (hstop : ¬(offset < frame.length ∧ nals.length + 1 < 100)) :
    hasIdr frame (scanNals frame offset (nals ++ [⟨before.length, 0⟩])) =
      (hasIdr frame nals || decide (unitType nal = 5)) := by
  have hsize : frame.length - before.length = 0 → nal.bytes = [0] := by
    intro hzero
    have hpos := nal.length_pos
    rw [hframe, List.length_append, List.length_append] at hzero
    omega
  rw [scanNals, if_neg (by simpa using hstop), setLastSize_append_singleton, hasIdr_append,
    hasIdr_unit hframe hsize]

/-- Behind the start code of a unit, the server finds an IDR picture in this unit or in the
units that follow it, as long as there is room. -/
theorem hasIdr_scanNals (units : List CodedUnit) (nal : NalUnit) (nals : List NalRange)
    (hframe : frame = before ++ (nal.bytes ++ assemble units)) (hroom : nals.length < 100) :
    hasIdr frame (scanNals frame before.length (nals ++ [⟨before.length, 0⟩])) =
      (hasIdr frame nals || (unitType nal = 5 ||
        (units.take (99 - nals.length)).any fun u => unitType u.nal = 5)) := by
  induction units generalizing before nal nals with
  | nil =>
    have hnone : ∀ n < nal.bytes.length, NoCodeAt frame (before.length + n) := by
      intro n hn
      rw [hframe]
      refine NoCodeAt.append ?_ _
      exact nal.emulationFree.noCodeAt (followsUnit_assemble []) hn (by simp)
    have hlength : frame.length = before.length + nal.bytes.length := by simp [hframe]
    rw [scanNals_run hnone, hasIdr_scanNals_stop hframe (by omega)]
    simp
  | cons u units ih =>
    by_cases hfull : nals.length + 1 < 100
    · obtain ⟨front, code, hsplit, -, hfront, hnone⟩ := nal.next_code u units
      have hnone' : ∀ n < front.length, NoCodeAt frame (before.length + n) := by
        intro n hn
        rw [hframe]
        exact (hnone n hn).append before
      have hcode : frame = (before ++ front) ++
          (code.bytes ++ (u.nal.bytes ++ assemble units)) := by
        rw [hframe, hsplit, List.append_assoc]
      have hunit : frame = (before ++ front ++ code.bytes) ++ (u.nal.bytes ++ assemble units) := by
        rw [hcode, List.append_assoc (before ++ front)]
      have hsize : front.length = 0 → nal.bytes = [0] := by
        intro hzero
        rw [List.length_eq_zero_iff.mp hzero] at hfront
        exact hfront.resolve_left nal.ne_nil
      have hrest := ih u.nal (nals ++ [⟨before.length, front.length⟩]) hunit
        (by simpa using hfull)
      have hlength : (before ++ front ++ code.bytes).length =
          (before ++ front).length + codeLength code := List.length_append
      have hfound : scanNals frame before.length (nals ++ [⟨before.length, 0⟩]) =
          scanNals frame (before ++ front ++ code.bytes).length
            (nals ++ [⟨before.length, front.length⟩] ++
              [⟨(before ++ front ++ code.bytes).length, 0⟩]) := by
        rw [scanNals_run hnone', ← List.length_append,
          scanNals_code code hcode (by simpa using hfull), setLastSize_append_singleton, hlength,
          List.length_append, Nat.add_sub_cancel_left]
      rw [hfound, hrest, hasIdr_append, hasIdr_unit hframe hsize]
      have htake : 99 - nals.length = 99 - (nals.length + 1) + 1 := by omega
      rw [htake, List.take_succ_cons, List.any_cons, List.length_append, List.length_singleton]
      simp only [Bool.or_assoc]
    · rw [hasIdr_scanNals_stop hframe (fun h => hfull h.2)]
      have htake : 99 - nals.length = 0 := by omega
      simp [htake]

/-- The RTSP server finds an IDR picture among the first 100 units. -/
theorem rtsp_isIdrFrame_assemble (units : List CodedUnit) :
    isIdrFrame .h264 (assemble units) = (units.take 100).any fun u => unitType u.nal = 5 := by
  have hidr : isIdrFrame .h264 (assemble units) =
      hasIdr (assemble units) (scanNals (assemble units) 0 []) := rfl
  cases units with
  | nil => decide +kernel
  | cons u units =>
    have hunit : assemble (u :: units) = u.code.bytes ++ (u.nal.bytes ++ assemble units) :=
      assemble_cons u units
    have hbegin : assemble (u :: units) =
        [] ++ (u.code.bytes ++ (u.nal.bytes ++ assemble units)) := hunit
    have hroom : ([] : List NalRange).length < 100 := by simp
    have hcode := scanNals_code u.code hbegin hroom
    rw [List.length_nil, Nat.zero_add, codeLength] at hcode
    rw [hidr, hcode]
    have hscan := hasIdr_scanNals units u.nal [] hunit hroom
    rw [setLastSize_nil, hscan, List.take_succ_cons, List.any_cons]
    rfl

/-! ### Agreement -/

/-- A unit of the frame is an IDR picture. -/
def HoldsIdr (units : List CodedUnit) : Prop := ∃ u ∈ units, unitType u.nal = 5

/-- The three detectors find a key frame if and only if there is an IDR picture. -/
def DetectorsAgree (units : List CodedUnit) : Prop :=
  (FrameManager.isKeyframe (FrameManager.detectFrameType (assemble units)) = true ↔
      HoldsIdr units) ∧
    (isIdrFrame .h264 (assemble units) = true ↔ HoldsIdr units) ∧
    (RtmpClient.isKeyframe (assemble units) = true ↔ HoldsIdr units)

/-- There is no IDR picture, or one is among the first 100 units, and the first unit of type 1
or 5 behind a long start code is one. -/
def IdrInReach (units : List CodedUnit) : Prop :=
  ¬HoldsIdr units ∨ HoldsIdr (units.take 100) ∧
    ∃ nal, (behindLong False units).find? (fun nal => unitType nal = 5 || unitType nal = 1) =
      some nal ∧ unitType nal = 5

theorem HoldsIdr.of_take {units : List CodedUnit} {n : ℕ} (h : HoldsIdr (units.take n)) :
    HoldsIdr units := by
  obtain ⟨u, hu, htype⟩ := h
  exact ⟨u, List.mem_of_mem_take hu, htype⟩

/-- The detectors agree exactly on the frames whose IDR pictures, if any, are in reach of all
three. -/
theorem detectorsAgree_iff (units : List CodedUnit) :
    DetectorsAgree units ↔ IdrInReach units := by
  have hmanager : FrameManager.isKeyframe (FrameManager.detectFrameType (assemble units)) = true ↔
      ∃ nal, (behindLong False units).find? (fun nal => unitType nal = 5 || unitType nal = 1) =
        some nal ∧ unitType nal = 5 := by
    rw [manager_isKeyframe_assemble]
    simp [Option.any_eq_true]
  have hrtsp : isIdrFrame .h264 (assemble units) = true ↔ HoldsIdr (units.take 100) := by
    rw [rtsp_isIdrFrame_assemble]
    simp only [List.any_eq_true, decide_eq_true_eq]
    rfl
  have hrtmp : RtmpClient.isKeyframe (assemble units) = true ↔
      ∃ nal ∈ behindLong False units, unitType nal = 5 := by
    rw [rtmp_isKeyframe_assemble]
    simp only [List.any_eq_true, decide_eq_true_eq]
  have hbehind : (∃ nal ∈ behindLong False units, unitType nal = 5) → HoldsIdr units := by
    rintro ⟨nal, hmem, htype⟩
    obtain ⟨u, hu, rfl⟩ := mem_of_mem_behindLong hmem
    exact ⟨u, hu, htype⟩
  rw [DetectorsAgree, IdrInReach, hmanager, hrtsp, hrtmp]
  constructor
  · rintro ⟨hfirst, hsecond, -⟩
    by_cases hidr : HoldsIdr units
    · exact .inr ⟨hsecond.mpr hidr, hfirst.mpr hidr⟩
    · exact .inl hidr
  · rintro (hnone | ⟨hreach, nal, hfind, htype⟩)
    · refine ⟨⟨?_, fun h => absurd h hnone⟩, ⟨fun h => h.of_take, fun h => absurd h hnone⟩,
        ⟨hbehind, fun h => absurd h hnone⟩⟩
      rintro ⟨nal, hfind, htype⟩
      exact hbehind ⟨nal, List.mem_of_find?_eq_some hfind, htype⟩
    · have hidr := hreach.of_take
      exact ⟨⟨fun _ => hidr, fun _ => ⟨nal, hfind, htype⟩⟩, ⟨fun _ => hidr, fun _ => hreach⟩,
        ⟨fun _ => hidr, fun _ => ⟨nal, List.mem_of_find?_eq_some hfind, htype⟩⟩⟩

/-- A frame that is an IDR picture behind a short start code. -/
def shortIdr : List CodedUnit := [⟨.short, [0x65, 0x88], by decide, by decide, by decide⟩]

/-- Only the RTSP server takes it for a key frame. -/
theorem not_detectorsAgree_shortIdr :
    HoldsIdr shortIdr ∧ ¬DetectorsAgree shortIdr ∧
      isIdrFrame .h264 (assemble shortIdr) = true := by
  have hidr : HoldsIdr shortIdr := ⟨_, List.mem_singleton_self _, by decide⟩
  refine ⟨hidr, fun h => ?_, by decide +kernel⟩
  exact absurd (h.1.mpr hidr) (by decide)

end KeyFrameDetectors
