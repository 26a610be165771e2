import Strero.Lib.AnnexB
import Strero.Rtsp.FrameSender

/-!
# Splitting a frame into its NAL units

The loop of `send_frame_to_client` over the offsets of a frame finds each start code, and
computes the size of a unit backwards from the code that follows it. A frame that was
assembled from units that do not end in a zero is split into these units again.
-/

namespace Rtsp

open AnnexB

/-! ### What is passed on -/

/-- The elements of a list, each with whether it is the last. -/
def markLast {α : Type*} : List α → List (α × Bool)
  | [] => []
  | a :: as => (a, as.isEmpty) :: markLast as

/-- The data and the markers that the entries of a frame are passed to `send_rtp_packet` with. -/
def passedNals (frame : List UInt8) : List NalRange → List (List UInt8 × Bool)
  | [] => []
  | nal :: nals =>
    if nal.offset < frame.length ∧ 0 < nal.size then
      (nal.bytes frame, nals.isEmpty) :: passedNals frame nals
    else passedNals frame nals

/-- `send_rtp_packet` for each of the data in turn. -/
def sendPassed (net : Network) (timestamp : UInt32) (s : Sender)
    (passed : List (List UInt8 × Bool)) : Sender :=
  passed.foldl (fun s p => (sendRtpPacket net s p.1 timestamp p.2).1) s

/-- The loop that sends the units. -/
theorem sendNals_eq (net : Network) (frame : List UInt8) (timestamp : UInt32) (s : Sender)
    (nals : List NalRange) :
    sendNals net frame timestamp s nals =
      sendPassed net timestamp s (passedNals frame nals) := by
  induction nals generalizing s with
  | nil => rfl
  | cons nal nals ih =>
    rw [sendNals, passedNals]
    split
    · exact ih _
    · exact ih s

/-! ### One step of the search -/

@[simp] theorem setLastSize_nil (stop : ℕ) : setLastSize [] stop = [] := rfl

@[simp] theorem setLastSize_append_singleton (nals : List NalRange) (nal : NalRange) (stop : ℕ) :
    setLastSize (nals ++ [nal]) stop = nals ++ [{ nal with size := stop - nal.offset }] := by
  simp [setLastSize]

@[simp] theorem setLastSize_length (nals : List NalRange) (stop : ℕ) :
    (setLastSize nals stop).length = nals.length := by
  rcases List.eq_nil_or_concat' nals with rfl | ⟨front, nal, rfl⟩
  · rfl
  · simp

variable {frame before after : List UInt8} {nals : List NalRange} {offset : ℕ}

/-- An offset at which no start code stands. -/
theorem findNals_skip (hnone : NoCodeAt frame offset) :
    findNals frame offset nals = findNals frame (offset + 1) nals := by
  have hnot : ¬(offset < frame.length - 4 ∧ [0, 0, 0, 1] <+: frame.drop offset) :=
    fun h => hnone.1 h.2
  rw [findNals, if_neg hnot, if_neg hnone.2]
  by_cases hinside : offset < frame.length - 3
  · rw [if_pos hinside]
  · rw [if_neg hinside, findNals, if_neg (by omega)]

/-- Offsets at which no start code stands. -/
theorem findNals_run {count : ℕ} (hnone : ∀ n < count, NoCodeAt frame (offset + n)) :
    findNals frame offset nals = findNals frame (offset + count) nals := by
  induction count with
  | zero => rfl
  | succ count ih =>
    rw [ih fun n hn => hnone n (by omega), findNals_skip (hnone count (Nat.lt_succ_self count)),
      Nat.add_assoc]

/-- The number of bytes of a start code. -/
def codeLength (code : StartCode) : ℕ := code.bytes.length

/-- An offset at which a start code stands, with something behind it. -/
theorem findNals_code (code : StartCode) (hframe : frame = before ++ (code.bytes ++ after))
    (hafter : after ≠ []) :
    findNals frame before.length nals =
      (recordNal nals before.length (codeLength code)).bind
        (findNals frame (before.length + codeLength code)) := by
  have hlength : 0 < after.length := List.length_pos_of_ne_nil hafter
  have hdrop : frame.drop before.length = code.bytes ++ after := by
    rw [hframe, List.drop_left]
  rw [findNals, hdrop]
  cases code with
  | short =>
    have hlt : before.length < frame.length - 3 := by
      simp only [hframe, StartCode.bytes, List.length_append, List.length_cons, List.length_nil]
      omega
    rw [if_pos hlt, if_neg (by simp [StartCode.bytes]), if_pos ⟨after, rfl⟩]
    rfl
  | long =>
    have hlt : before.length < frame.length - 4 := by
      simp only [hframe, StartCode.bytes, List.length_append, List.length_cons, List.length_nil]
      omega
    rw [if_pos (by omega), if_pos ⟨hlt, after, rfl⟩]
    rfl

/-! ### A whole frame -/

/-- The entries for the units of a frame whose byte stream begins at the offset. -/
def unitRanges (offset : ℕ) : List CodedUnit → List NalRange
  | [] => []
  | u :: units =>
    ⟨offset + codeLength u.code, u.nal.bytes.length⟩ ::
      unitRanges (offset + codeLength u.code + u.nal.bytes.length) units

@[simp] theorem unitRanges_isEmpty (offset : ℕ) (units : List CodedUnit) :
    (unitRanges offset units).isEmpty = units.isEmpty := by
  cases units <;> rfl

@[simp] theorem unitRanges_length (offset : ℕ) (units : List CodedUnit) :
    (unitRanges offset units).length = units.length := by
  induction units generalizing offset with
  | nil => rfl
  | cons u units ih => rw [unitRanges, List.length_cons, ih, List.length_cons]

/-- The search finds the units that are left, if there is room for them. -/
theorem findNals_assemble (units : List CodedUnit) (hends : ∀ u ∈ units, ¬u.nal.EndsInZero)
    (hframe : frame = before ++ assemble units) (hroom : nals.length + units.length ≤ 32) :
    findNals frame before.length nals =
      some (setLastSize nals before.length ++ unitRanges before.length units) := by
  induction units generalizing before nals with
  | nil =>
    have hlength : frame.length = before.length := by simp [hframe]
    rw [findNals, if_neg (by omega), hlength]
    simp [unitRanges]
  | cons u units ih =>
    rw [assemble_cons] at hframe
    rw [List.length_cons] at hroom
    have hne : u.nal.bytes ++ assemble units ≠ [] := by simp [u.nal.ne_nil]
    have hcode : frame = (before ++ u.code.bytes) ++ (u.nal.bytes ++ assemble units) := by
      rw [hframe, List.append_assoc]
    have hnal : frame = (before ++ u.code.bytes ++ u.nal.bytes) ++ assemble units := by
      rw [hcode, List.append_assoc (before ++ u.code.bytes)]
    have hnone : ∀ n < u.nal.bytes.length,
        NoCodeAt frame ((before ++ u.code.bytes).length + n) := by
      intro n hn
      rw [hcode]
      refine NoCodeAt.append ?_ _
      exact u.nal.emulationFree.noCodeAt (followsUnit_assemble units) hn
        fun hzero => absurd hzero (hends u List.mem_cons_self)
    have hunit : ∀ nals, findNals frame (before ++ u.code.bytes).length nals =
        findNals frame ((before ++ u.code.bytes).length + u.nal.bytes.length) nals := fun _ =>
      findNals_run hnone
    have hrest : ∀ nals : List NalRange, nals.length + units.length ≤ 32 →
        findNals frame (before ++ u.code.bytes ++ u.nal.bytes).length nals =
          some (setLastSize nals (before ++ u.code.bytes ++ u.nal.bytes).length ++
            unitRanges (before ++ u.code.bytes ++ u.nal.bytes).length units) := fun _ =>
      ih (fun v hv => hends v (List.mem_cons_of_mem u hv)) hnal
    simp only [List.length_append, ← codeLength.eq_1] at hunit hrest
    rw [findNals_code u.code hframe hne, recordNal, if_pos (by omega), Option.bind_some, hunit,
      hrest _ (by simp; omega), setLastSize_append_singleton, unitRanges, Nat.add_sub_cancel_left,
      List.append_assoc, List.singleton_append]

/-- The entries of the units stand for their bytes. -/
theorem passedNals_assemble (units : List CodedUnit) (hframe : frame = before ++ assemble units) :
    passedNals frame (unitRanges before.length units) =
      markLast (units.map fun u => u.nal.bytes) := by
  induction units generalizing before with
  | nil => rfl
  | cons u units ih =>
    rw [assemble_cons] at hframe
    have hcode : frame = (before ++ u.code.bytes) ++ (u.nal.bytes ++ assemble units) := by
      rw [hframe, List.append_assoc]
    have hnal : frame = (before ++ u.code.bytes ++ u.nal.bytes) ++ assemble units := by
      rw [hcode, List.append_assoc (before ++ u.code.bytes)]
    have hpos := u.nal.length_pos
    have hinside : before.length + codeLength u.code < frame.length := by
      simp only [hnal, List.length_append, codeLength]
      omega
    have hbytes : NalRange.bytes ⟨before.length + codeLength u.code, u.nal.bytes.length⟩ frame =
        u.nal.bytes := by
      have hoffset : before.length + codeLength u.code = (before ++ u.code.bytes).length := by
        simp [codeLength]
      rw [NalRange.bytes, hoffset, hcode, List.drop_left, List.take_left]
    have hrest := ih hnal
    simp only [List.length_append, ← codeLength.eq_1] at hrest
    rw [unitRanges, passedNals, if_pos ⟨hinside, hpos⟩, hbytes, hrest, unitRanges_isEmpty,
      List.map_cons, markLast, List.isEmpty_map]

/-- Splitting undoes the assembly of 1 to 32 units that do not end in a zero: exactly these units
are passed on, in order, and the marker goes with the last one. -/
theorem sendFrameToClient_assemble (net : Network) (clock : RtpClock) (s : Sender)
    (units : List CodedUnit) (hcount : 1 ≤ units.length ∧ units.length ≤ 32)
    (hends : ∀ u ∈ units, ¬u.nal.EndsInZero) (channel : Fin 4) (currentTime : UInt64)
    (random : UInt32) :
    (findNals (assemble units) 0 []).map (passedNals (assemble units)) =
        some (markLast (units.map fun u => u.nal.bytes)) ∧
      (s.client.state = .playing →
        sendFrameToClient net clock s (assemble units) channel currentTime random =
          let r := calculateMonotonicRtpTimestamp clock channel currentTime random
          some (r.1, sendPassed net r.2 s (markLast (units.map fun u => u.nal.bytes)),
            units.length)) := by
  have hfind : findNals (assemble units) 0 [] = some (unitRanges 0 units) := by
    have hroom : ([] : List NalRange).length + units.length ≤ 32 := by simpa using hcount.2
    have hframe : assemble units = [] ++ assemble units := rfl
    simpa using findNals_assemble units hends hframe hroom
  have hpassed : passedNals (assemble units) (unitRanges 0 units) =
      markLast (units.map fun u => u.nal.bytes) := by
    have hframe : assemble units = [] ++ assemble units := rfl
    simpa using passedNals_assemble units hframe
  refine ⟨by rw [hfind, Option.map_some, hpassed], fun hplaying => ?_⟩
  obtain ⟨u, rest, rfl⟩ := List.exists_cons_of_length_pos hcount.1
  have hlength : 4 ≤ (assemble (u :: rest)).length := by
    have hnal := u.nal.length_pos
    rw [assemble_cons, List.length_append, List.length_append]
    cases u.code <;> simp only [StartCode.bytes, List.length_cons, List.length_nil] <;> omega
  have hranges : (unitRanges 0 (u :: rest)).length = (u :: rest).length := unitRanges_length _ _
  rw [sendFrameToClient, if_neg (by omega), if_neg (not_not.mpr hplaying), if_neg (by omega),
    hfind, Option.map_some]
  dsimp only
  rw [sendNals_eq, hpassed, hranges]

/-- Three units, the second of a single byte, the third like the end of a start code. -/
def threeUnits : List CodedUnit :=
  [⟨.long, [0x67, 0, 0, 3], by decide, by decide, by decide⟩,
    ⟨.short, [0x41], by decide, by decide, by decide⟩,
    ⟨.short, [0, 1], by decide, by decide, by decide⟩]

/-- A client that plays. -/
def playingSender : Sender := ⟨{ Client.initial with state := .playing }, []⟩

theorem sendFrameToClient_assemble_three :
    (findNals (assemble threeUnits) 0 []).map (passedNals (assemble threeUnits)) =
        some [([0x67, 0, 0, 3], false), ([0x41], false), ([0, 1], true)] ∧
      sendFrameToClient (fun _ _ => 0) .initial playingSender (assemble threeUnits) 0 0 0 =
        let r := calculateMonotonicRtpTimestamp .initial 0 0 0
        some (r.1, sendPassed (fun _ _ => 0) r.2 playingSender
          [([0x67, 0, 0, 3], false), ([0x41], false), ([0, 1], true)], 3) :=
  have h := sendFrameToClient_assemble (fun _ _ => 0) .initial playingSender threeUnits
    ⟨by decide, by decide⟩ (by decide) 0 0 0
  ⟨h.1, h.2 rfl⟩

end Rtsp
