import Strero.Rtsp.FrameLoop
import Strero.Rtsp.NalSplitting
import Strero.StreamParams

/-!
# The reads of the RTSP server in a frame

The two loops of the RTSP server over the offsets of a frame, with every read of the frame
and every write of the arrays for the units checked. `send_frame_to_client` computes its
limits by unsigned subtraction and records any number of units in arrays for 32, while
`rtsp_server_send_frame` compares sums and stops at 100 units.
-/

namespace Rtsp

open Scan
open FrameManager (Frame)

variable {frame : Frame} {nals : List NalRange} {offset : ℕ}

/-! ### `send_frame_to_client` -/

/-- The body of the loop over the offsets. -/
def sendScanAt (frame : Frame) (offset : ℕ) (nals : List NalRange) :
    Option (ℕ × List NalRange) := do
  let long ← if offset < frame.sizeMinus 4 then readsAs frame.data offset [0, 0, 0, 1]
    else some false
  if long then return (3, ← recordNal nals offset 4)
  else if ← readsAs frame.data offset [0, 0, 1] then return (2, ← recordNal nals offset 3)
  else return (0, nals)

/-- The search for the units of a frame. -/
def checkedFindNals (frame : Frame) : Option (List NalRange) :=
  (scan (frame.sizeMinus 3) (fun _ => true) (sendScanAt frame) 0 []).map
    (setLastSize · frame.data.length)

/-- The loop that sends the units, whose bytes are read by `send_rtp_packet`. -/
def checkedSendNals (net : Network) (frame : Frame) (timestamp : UInt32) (s : Sender) :
    List NalRange → Option Sender
  | [] => some s
  | nal :: nals =>
    if nal.offset < frame.data.length ∧ 0 < nal.size then
      (readPart frame.data nal.offset (nal.offset + nal.size)).bind fun data =>
        checkedSendNals net frame timestamp (sendRtpPacket net s data timestamp nals.isEmpty).1 nals
    else checkedSendNals net frame timestamp s nals

/-- `send_frame_to_client`. -/
def checkedSendFrameToClient (net : Network) (clock : RtpClock) (s : Sender) (frame : Frame)
    (channel : Fin 4) (currentTime : UInt64) (random : UInt32) :
    Option (RtpClock × Sender × ℕ) :=
  if frame.data.length = 0 then some (clock, s, 0)
  else if s.client.state ≠ .playing then some (clock, s, 0)
  else
    (checkedFindNals frame).bind fun nals =>
      let r := calculateMonotonicRtpTimestamp clock channel currentTime random
      (checkedSendNals net frame r.2 s nals).map fun s => (r.1, s, nals.length)

/-- Below the limit both start codes can be read. -/
theorem sendScanAt_of_lt (hoffset : offset + 3 < frame.data.length) :
    sendScanAt frame offset nals =
      if offset < frame.data.length - 4 ∧ [0, 0, 0, 1] <+: frame.data.drop offset then
        (recordNal nals offset 4).map (3, ·)
      else if [0, 0, 1] <+: frame.data.drop offset then (recordNal nals offset 3).map (2, ·)
      else some (0, nals) := by
  have hsize : 4 ≤ frame.data.length := by omega
  have hfour : frame.sizeMinus 4 = frame.data.length - 4 := frame.sizeMinus_of_le hsize
  have hlong : offset + ([0, 0, 0, 1] : List UInt8).length ≤ frame.data.length := hoffset
  rw [sendScanAt, readsAs_of_le hlong, readsAs_of_le (Nat.le_of_succ_le hlong), hfour]
  by_cases hlimit : offset < frame.data.length - 4
  · by_cases hfound : [0, 0, 0, 1] <+: frame.data.drop offset
    · simp [hlimit, hfound, Option.bind_eq_bind, Option.map_eq_bind]
    · by_cases hshort : [0, 0, 1] <+: frame.data.drop offset
      · simp [hlimit, hfound, hshort, Option.map_eq_bind]
      · simp [hlimit, hfound, hshort]
  · by_cases hshort : [0, 0, 1] <+: frame.data.drop offset
    · simp [hlimit, hshort, Option.map_eq_bind]
    · simp [hlimit, hshort]

/-- In a frame of at least three bytes only the arrays are too small. -/
theorem scan_sendScanAt (hsize : 3 ≤ frame.data.length) :
    (scan (frame.sizeMinus 3) (fun _ => true) (sendScanAt frame) offset nals).map
      (setLastSize · frame.data.length) = findNals frame.data offset nals := by
  have hthree : frame.sizeMinus 3 = frame.data.length - 3 := frame.sizeMinus_of_le hsize
  induction hleft : frame.data.length - offset using Nat.strong_induction_on
    generalizing offset nals with
  | _ left ih =>
    rw [scan, findNals, hthree]
    by_cases hinside : offset < frame.data.length - 3
    · rw [if_pos ⟨hinside, rfl⟩, if_pos hinside, sendScanAt_of_lt (by omega)]
      split_ifs with hlong hshort
      · cases hrecord : recordNal nals offset 4 with
        | none => rfl
        | some nals' =>
          rw [← hthree]
          exact ih _ (by omega) rfl
      · cases hrecord : recordNal nals offset 3 with
        | none => rfl
        | some nals' =>
          rw [← hthree]
          exact ih _ (by omega) rfl
      · rw [← hthree]
        exact ih _ (by omega) rfl
    · rw [if_neg (fun h => hinside h.1), if_neg hinside]
      rfl

/-- A frame of less than three bytes is read behind its end. -/
theorem scan_sendScanAt_of_short (hsize : frame.data.length < 3) :
    scan (frame.sizeMinus 3) (fun _ => true) (sendScanAt frame) 0 [] = none := by
  have hthree : frame.data.length < frame.sizeMinus 3 := frame.lt_sizeMinus (by decide) hsize
  have hfour : frame.data.length < frame.sizeMinus 4 :=
    frame.lt_sizeMinus (by decide) (Nat.lt_succ_of_lt hsize)
  refine scan_eq_none (fun _ _ => True) hthree (fun _ _ _ _ => rfl) ?_ ?_ (Nat.zero_le _) trivial
  · intro offset nals skipped nals' hlt _ hstep
    rw [sendScanAt, if_pos (hlt.trans hfour)] at hstep
    obtain ⟨long, hlong, hstep⟩ := Option.bind_eq_some_iff.mp hstep
    cases long with
    | true =>
      have hle : offset + 4 ≤ frame.data.length := le_of_readsAs hlong (List.cons_ne_nil _ _)
      omega
    | false =>
      obtain ⟨found, hfound, hstep⟩ := Option.bind_eq_some_iff.mp hstep
      cases found with
      | true =>
        have hle : offset + 3 ≤ frame.data.length := le_of_readsAs hfound (List.cons_ne_nil _ _)
        omega
      | false =>
        obtain ⟨rfl, -⟩ := Prod.mk.inj (Option.some.inj hstep)
        exact ⟨hlt, trivial⟩
  · intro nals _
    rw [sendScanAt, if_pos hfour, readsAs_end (List.cons_ne_nil _ _)]
    rfl

/-- The search fails as the model of `send_frame_to_client` says. -/
theorem checkedFindNals_eq (frame : Frame) :
    checkedFindNals frame =
      if frame.data.length < 3 then none else findNals frame.data 0 [] := by
  unfold checkedFindNals
  by_cases hsize : frame.data.length < 3
  · rw [if_pos hsize, scan_sendScanAt_of_short hsize]
    rfl
  · rw [if_neg hsize]
    exact scan_sendScanAt (Nat.le_of_not_lt hsize)

/-! ### The units are inside of the frame -/

/-- The units that are found up to an offset end there. -/
def Recorded (nals : List NalRange) (offset : ℕ) : Prop :=
  ∀ stop, offset ≤ stop → ∀ nal ∈ setLastSize nals stop, nal.offset + nal.size ≤ stop

theorem recorded_nil (offset : ℕ) : Recorded [] offset := by
  intro stop _ nal hnal
  cases hnal

/-- Going on keeps what was found. -/
theorem Recorded.mono {offset' : ℕ} (h : Recorded nals offset) (hle : offset ≤ offset') :
    Recorded nals offset' := fun stop hstop => h stop (hle.trans hstop)

/-- So does another unit. -/
theorem Recorded.snoc (h : Recorded nals offset) (length : ℕ) :
    Recorded (setLastSize nals offset ++ [⟨offset + length, 0⟩]) (offset + length) := by
  intro stop hstop nal hnal
  rw [setLastSize_append_singleton, List.mem_append] at hnal
  rcases hnal with hbefore | hlast
  · have hle := h offset le_rfl nal hbefore
    omega
  · rw [List.mem_singleton.mp hlast]
    dsimp only
    omega

theorem findNals_inside {data : List UInt8} {result : List NalRange}
    (hrecorded : Recorded nals offset) (hoffset : offset ≤ data.length)
    (h : findNals data offset nals = some result) :
    ∀ nal ∈ result, nal.offset + nal.size ≤ data.length := by
  fun_induction findNals data offset nals with
  | case1 offset nals hinside hlong ih =>
    obtain ⟨nals', hrecord, h⟩ := Option.bind_eq_some_iff.mp h
    rw [recordNal] at hrecord
    split at hrecord
    · cases hrecord
      exact ih _ (hrecorded.snoc 4) (by omega) h
    · cases hrecord
  | case2 offset nals hinside hlong hshort ih =>
    obtain ⟨nals', hrecord, h⟩ := Option.bind_eq_some_iff.mp h
    rw [recordNal] at hrecord
    split at hrecord
    · cases hrecord
      exact ih _ (hrecorded.snoc 3) (by omega) h
    · cases hrecord
  | case3 offset nals hinside hlong hshort ih =>
    exact ih (hrecorded.mono (Nat.le_succ _)) (by omega) h
  | case4 offset nals hstop =>
    cases h
    exact hrecorded _ hoffset

/-- Units inside of the frame can be sent. -/
theorem checkedSendNals_eq (net : Network) (timestamp : UInt32) (s : Sender)
    (hinside : ∀ nal ∈ nals, nal.offset + nal.size ≤ frame.data.length) :
    checkedSendNals net frame timestamp s nals =
      some (sendNals net frame.data timestamp s nals) := by
  induction nals generalizing s with
  | nil => rfl
  | cons nal nals ih =>
    have hnal := hinside nal List.mem_cons_self
    have hrest := fun s => ih s fun nal' hnal' => hinside nal' (List.mem_cons_of_mem nal hnal')
    rw [checkedSendNals, sendNals]
    split
    · have hread : readPart frame.data nal.offset (nal.offset + nal.size) =
          some (nal.bytes frame.data) := by
        rw [readPart, if_pos hnal, NalRange.bytes, List.take_drop]
      rw [hread]
      exact hrest _
    · exact hrest s

/-- `send_frame_to_client` accesses what is outside exactly where its model says so. -/
theorem checkedSendFrameToClient_eq (net : Network) (clock : RtpClock) (s : Sender)
    (frame : Frame) (channel : Fin 4) (currentTime : UInt64) (random : UInt32) :
    checkedSendFrameToClient net clock s frame channel currentTime random =
      sendFrameToClient net clock s frame.data channel currentTime random := by
  rw [checkedSendFrameToClient, sendFrameToClient, checkedFindNals_eq]
  split_ifs
  · rfl
  · rfl
  · rfl
  · cases hfind : findNals frame.data 0 [] with
    | none => rfl
    | some nals =>
      have hinside := findNals_inside (recorded_nil 0) (Nat.zero_le _) hfind
      simp only [Option.bind_some, Option.map_some, checkedSendNals_eq net _ s hinside]

/-! ### How many units are recorded -/

/-- The number of start codes with something behind them. -/
def startCodes : List UInt8 → ℕ
  | 0 :: 0 :: 0 :: 1 :: b :: rest => startCodes (b :: rest) + 1
  | 0 :: 0 :: 1 :: b :: rest => startCodes (b :: rest) + 1
  | _ :: rest => startCodes rest
  | [] => 0

theorem startCodes_of_short {data : List UInt8} (h : data.length ≤ 3) : startCodes data = 0 := by
  match data, h with
  | [], _ => rfl
  | [_], _ => simp [startCodes]
  | [_, _], _ => simp [startCodes]
  | [_, _, _], _ => simp [startCodes]

/-- What stands at the offset of a start code with something behind it. -/
theorem exists_behind_code {code data : List UInt8}
    (hinside : offset < data.length - code.length) (hcode : code <+: data.drop offset) :
    ∃ b rest, data.drop offset = code ++ b :: rest ∧
      data.drop (offset + code.length) = b :: rest := by
  obtain ⟨rest, hrest⟩ := hcode
  have hdrop : data.drop (offset + code.length) = rest := by
    rw [← List.drop_drop, ← hrest, List.drop_left]
  have hlength : 0 < rest.length := by rw [← hdrop, List.length_drop]; omega
  obtain ⟨b, rest, rfl⟩ := List.exists_cons_of_length_pos hlength
  exact ⟨b, rest, hrest.symm, hdrop⟩

theorem startCodes_drop_long {data : List UInt8} (hinside : offset < data.length - 4)
    (hlong : [0, 0, 0, 1] <+: data.drop offset) :
    startCodes (data.drop offset) = startCodes (data.drop (offset + 4)) + 1 := by
  obtain ⟨b, rest, hdrop, hmore⟩ := exists_behind_code hinside hlong
  rw [hdrop, show data.drop (offset + 4) = b :: rest from hmore]
  rfl

theorem startCodes_drop_short {data : List UInt8} (hinside : offset < data.length - 3)
    (hshort : [0, 0, 1] <+: data.drop offset) :
    startCodes (data.drop offset) = startCodes (data.drop (offset + 3)) + 1 := by
  obtain ⟨b, rest, hdrop, hmore⟩ := exists_behind_code hinside hshort
  rw [hdrop, show data.drop (offset + 3) = b :: rest from hmore]
  rfl

theorem startCodes_drop_skip {data : List UInt8} (hinside : offset < data.length)
    (hlong : ¬(offset < data.length - 4 ∧ [0, 0, 0, 1] <+: data.drop offset))
    (hshort : ¬[0, 0, 1] <+: data.drop offset) :
    startCodes (data.drop offset) = startCodes (data.drop (offset + 1)) := by
  have hlength : (data.drop offset).length = data.length - offset := List.length_drop
  rw [List.drop_eq_getElem_cons hinside] at hlong hshort hlength ⊢
  rw [startCodes]
  · rintro b rest ha hrest
    rw [ha, hrest] at hlong hlength
    simp only [List.length_cons] at hlength
    exact hlong ⟨by omega, b :: rest, rfl⟩
  · rintro b rest ha hrest
    rw [ha, hrest] at hshort
    exact hshort ⟨b :: rest, rfl⟩

/-- A unit is recorded while there is room, and the rest of the loop finds one entry more. -/
theorem recordNal_bind_isSome_iff {length codes : ℕ} {loop : List NalRange → Option (List NalRange)}
    (hroom : nals.length ≤ 32)
    (hloop : ∀ nals' : List NalRange, nals'.length ≤ 32 →
      ((loop nals').isSome ↔ nals'.length + codes ≤ 32)) :
    ((recordNal nals offset length).bind loop).isSome ↔ nals.length + (codes + 1) ≤ 32 := by
  unfold recordNal
  by_cases hfull : nals.length < 32
  · have hlength : (setLastSize nals offset ++ [NalRange.mk (offset + length) 0]).length =
        nals.length + 1 := by simp
    rw [if_pos hfull, Option.bind_some, hloop _ (hlength ▸ hfull), hlength]
    omega
  · rw [if_neg hfull]
    simp only [Option.bind_none, Option.isSome_none, Bool.false_eq_true, false_iff]
    omega

/-- The arrays are too small for more than 32 units. -/
theorem findNals_isSome_iff {data : List UInt8} (hroom : nals.length ≤ 32) :
    (findNals data offset nals).isSome ↔ nals.length + startCodes (data.drop offset) ≤ 32 := by
  fun_induction findNals data offset nals with
  | case1 offset nals hinside hlong ih =>
    rw [startCodes_drop_long hlong.1 hlong.2]
    exact recordNal_bind_isSome_iff hroom fun _ => ih _
  | case2 offset nals hinside hlong hshort ih =>
    rw [startCodes_drop_short hinside hshort]
    exact recordNal_bind_isSome_iff hroom fun _ => ih _
  | case3 offset nals hinside hlong hshort ih =>
    rw [startCodes_drop_skip (by omega) hlong hshort]
    exact ih hroom
  | case4 offset nals hstop =>
    rw [startCodes_of_short (by rw [List.length_drop]; omega)]
    simpa using hroom

/-- A frame that `send_frame_to_client` can take apart. -/
def SplitsInBounds (data : List UInt8) : Prop := 3 ≤ data.length ∧ startCodes data ≤ 32

theorem sendFrameToClient_isSome_iff (net : Network) (clock : RtpClock) (s : Sender)
    (data : List UInt8) (channel : Fin 4) (currentTime : UInt64) (random : UInt32) :
    (sendFrameToClient net clock s data channel currentTime random).isSome ↔
      (data ≠ [] → s.client.state = .playing → SplitsInBounds data) := by
  rw [sendFrameToClient]
  by_cases hempty : data = []
  · simp [hempty]
  by_cases hplaying : s.client.state = .playing
  · have hfind : (findNals data 0 []).isSome ↔ startCodes data ≤ 32 := by
      have hroom : ([] : List NalRange).length ≤ 32 := Nat.zero_le 32
      rw [findNals_isSome_iff hroom, List.length_nil, Nat.zero_add, List.drop_zero]
    have hlength : ¬data.length = 0 := fun h => hempty (List.length_eq_zero_iff.mp h)
    rw [if_neg hlength, if_neg (not_not.mpr hplaying)]
    by_cases hshort : data.length < 3
    · rw [if_pos hshort]
      simp only [Option.isSome_none, Bool.false_eq_true, false_iff, SplitsInBounds]
      exact fun h => absurd (h hempty hplaying).1 (Nat.not_le.mpr hshort)
    · rw [if_neg hshort, Option.isSome_map, hfind]
      exact ⟨fun h _ _ => ⟨Nat.le_of_not_lt hshort, h⟩, fun h => (h hempty hplaying).2⟩
  · simp [hplaying]

end Rtsp
