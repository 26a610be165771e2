import Mathlib.Algebra.Group.Int.Defs
import Strero.Lib.Scanf
import Mathlib.Tactic.SplitIfs

/-!
# Where an element is placed

`parse_position` reads two integers from a string and moves the element onto the picture. It moves
an element back from the right edge by a sum of its place and its extent, which is an `int`.
-/

namespace Osd

open CString Scanf

/-- `sscanf` with `"%d,%d"`: what it does not convert stays 20. Of a number that is no `int` the
low 32 bits are stored. -/
def scanPosition (text : List UInt8) : Int32 × Int32 :=
  match int text with
  | none => (20, 20)
  | some (x, rest) =>
    match (literal "," rest).bind fun behind => int behind.2 with
    | none => (.ofInt x, 20)
    | some (y, _) => (.ofInt x, .ofInt y)

/-- The position before it is moved onto the picture. -/
def readPosition (positionStr : Option (List UInt8)) : Int32 × Int32 :=
  match positionStr with
  | none => (20, 20)
  | some text => if text = [] then (20, 20) else scanPosition text

/-- The start of an element. A negative position counts from the far edge to the end of it. -/
def alignedStart (pos stream extent : Int32) : Int32 :=
  if pos < 0 then stream + pos - extent else pos

/-- The start is moved into the stream, first from below and then from above. -/
def clampStart (start stream extent : Int32) : Int32 :=
  let start := if start < 0 then 0 else start
  if start + extent > stream then stream - extent else start

/-- `parse_position`. -/
def parsePosition (positionStr : Option (List UInt8))
    (streamWidth streamHeight textWidth textHeight : Int32) : Int32 × Int32 :=
  let pos := readPosition positionStr
  (clampStart (alignedStart pos.1 streamWidth textWidth) streamWidth textWidth,
    clampStart (alignedStart pos.2 streamHeight textHeight) streamHeight textHeight)

/-- From the start on the extent is within the stream. -/
def Within (start stream extent : Int32) : Prop :=
  0 ≤ start.toInt ∧ start.toInt + extent.toInt ≤ stream.toInt

/-- The element is on the picture. -/
def OnPicture (place : Int32 × Int32)
    (streamWidth streamHeight textWidth textHeight : Int32) : Prop :=
  Within place.1 streamWidth textWidth ∧ Within place.2 streamHeight textHeight

/-- The end of the element is an `int`. -/
def EndFits (pos extent : Int32) : Prop := pos.toInt + extent.toInt < 2 ^ 31

instance (pos extent : Int32) : Decidable (EndFits pos extent) :=
  inferInstanceAs (Decidable (_ < _))

/-! ### One axis -/

section Axis

variable {pos start stream extent : Int32}

theorem lt_zero_iff {n : Int32} : n < 0 ↔ n.toInt < 0 := Int32.lt_iff_toInt_lt

/-- A start that is counted from the far edge is an `int`, and its end is, too. -/
theorem alignedStart_endFits_iff (hextent : 0 < extent.toInt)
    (hle : extent.toInt ≤ stream.toInt) :
    EndFits (alignedStart pos stream extent) extent ↔ EndFits pos extent := by
  have hstream := stream.toInt_lt
  have hlow := pos.le_toInt
  unfold EndFits alignedStart
  by_cases hneg : pos < 0
  · have hpos := lt_zero_iff.mp hneg
    have hsum : (stream + pos).toInt = stream.toInt + pos.toInt := by
      rw [Int32.toInt_add, Int.bmod_eq_of_le (by omega) (by omega)]
    have hedge : (stream + pos - extent).toInt = stream.toInt + pos.toInt - extent.toInt := by
      rw [Int32.toInt_sub, hsum, Int.bmod_eq_of_le (by omega) (by omega)]
    rw [if_pos hneg, hedge]
    omega
  · rw [if_neg hneg]

/-- A start beyond the stream is moved back if the end is an `int`. -/
theorem clampEnd_within_iff (hstart : 0 ≤ start.toInt) (hextent : 0 < extent.toInt)
    (hle : extent.toInt ≤ stream.toInt) :
    Within (if start + extent > stream then stream - extent else start) stream extent ↔
      EndFits start extent := by
  have hstart_lt := start.toInt_lt
  have hextent_lt := extent.toInt_lt
  have hstream := stream.toInt_lt
  have hbeyond : start + extent > stream ↔
      stream.toInt < (start.toInt + extent.toInt).bmod (2 ^ 32) := by
    rw [gt_iff_lt, Int32.lt_iff_toInt_lt, Int32.toInt_add]
  unfold Within EndFits
  rcases Int.lt_or_le (start.toInt + extent.toInt) (2 ^ 31) with hsum | hsum
  · rw [Int.bmod_eq_of_le (by omega) (by omega)] at hbeyond
    refine iff_of_true ?_ hsum
    by_cases hend : start + extent > stream
    · rw [if_pos hend, Int32.toInt_sub, Int.bmod_eq_of_le (by omega) (by omega)]
      omega
    · rw [if_neg hend]
      have hinside := mt hbeyond.mpr hend
      omega
  · -- The sum is negative as an `int`, so that the start stays where it is.
    rw [Int.bmod_neg _ _ (by omega), Int.emod_eq_of_lt (by omega) (by omega)] at hbeyond
    have hend : ¬start + extent > stream := mt hbeyond.mp (by omega)
    rw [if_neg hend]
    omega

theorem clampStart_within_iff (hextent : 0 < extent.toInt) (hle : extent.toInt ≤ stream.toInt) :
    Within (clampStart start stream extent) stream extent ↔ EndFits start extent := by
  have hstream := stream.toInt_lt
  unfold clampStart
  by_cases hneg : start < 0
  · have hstart := lt_zero_iff.mp hneg
    have hzero : 0 ≤ (0 : Int32).toInt := Int.le_refl 0
    rw [if_pos hneg]
    refine (clampEnd_within_iff hzero hextent hle).trans ?_
    unfold EndFits
    rw [Int32.toInt_zero]
    omega
  · have hstart := mt lt_zero_iff.mpr hneg
    rw [if_neg hneg]
    exact clampEnd_within_iff (by omega) hextent hle

end Axis

end Osd
