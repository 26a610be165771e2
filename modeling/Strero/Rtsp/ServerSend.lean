import Strero.Rtsp.CheckedSend
import Strero.Rtsp.ServerThread

/-!
# Sending a frame to all clients

`rtsp_server_send_frame` moves the clock of the channel, finds out what the frame holds, and
offers it to the client of each slot in turn.
-/

namespace Rtsp

open Scan
open FrameManager (Frame)

/-! ### The loop over the slots -/

/-- The clocks and the clients of all slots. -/
abbrev Viewers := RtpClock × (Slot → Sender)

/-- A turn of the loop, with what the clock shows while the frame is sent. -/
def offerTo (net : Slot → Network) (frame : LiveFrame) (sendTimes : Slot → UInt64)
    (viewers : Viewers) (slot : Slot) : Option Viewers :=
  ((viewers.2 slot).offerFrame (net slot) viewers.1
    { frame with sendTime := sendTimes slot }).map
      fun r => (r.1, Function.update viewers.2 slot r.2)

/-- `rtsp_server_send_frame` of a server that runs. The first reading of the clock is the send
time of the frame. -/
def rtspServerSendFrame (net : Slot → Network) (viewers : Viewers) (frame : LiveFrame)
    (sendTimes : Slot → UInt64) : Option Viewers :=
  if frame.data.length = 0 then some viewers
  else
    let start :=
      calculateMonotonicRtpTimestamp viewers.1 frame.channel frame.sendTime frame.random
    (List.finRange maxRtspClients).foldlM (offerTo net frame sendTimes) (start.1, viewers.2)

/-- The frame is sent to the client: it plays the channel, and does not wait for another frame. -/
def LiveFrame.goesTo (frame : LiveFrame) (client : Client) : Prop :=
  client.plays frame.channel ∧ frame.offer client.needsIdr client.idrWaitStartUs ≠ .dropped

instance (frame : LiveFrame) (client : Client) : Decidable (frame.goesTo client) :=
  inferInstanceAs (Decidable (_ ∧ _))

/-- Offering a frame is in bounds if it is not sent or can be taken apart. -/
theorem offerFrame_isSome_iff (net : Network) (clock : RtpClock) (s : Sender)
    {frame : LiveFrame} (hne : frame.data ≠ []) :
    (s.offerFrame net clock frame).isSome ↔
      (frame.goesTo s.client → SplitsInBounds frame.data) := by
  have hsend : ∀ s : Sender, s.client.state = .playing →
      ((sendFrameToClient net clock s frame.data frame.channel frame.sendTime
        frame.random).isSome ↔ SplitsInBounds frame.data) := by
    intro s hplaying
    rw [sendFrameToClient_isSome_iff]
    exact ⟨fun h => h hne hplaying, fun h _ _ => h⟩
  unfold Sender.offerFrame LiveFrame.goesTo
  by_cases hplays : s.client.plays frame.channel
  · have hplaying := hplays.2.1
    rw [if_pos hplays]
    cases hoffer : frame.offer s.client.needsIdr s.client.idrWaitStartUs with
    | dropped => simp
    | sent => simp [hplays, hsend s hplaying]
    | sentAsKey => simp [hplays, hsend s hplaying]
    | sentByTimeout => simp [hplays, hsend s.clearNeedsIdr hplaying]
  · simp [hplays]

/-- So is offering it to some of the slots. -/
theorem foldlM_offerTo_isSome_iff (net : Slot → Network) {frame : LiveFrame}
    (hne : frame.data ≠ []) (sendTimes : Slot → UInt64) {slots : List Slot}
    (hnodup : slots.Nodup) (viewers : Viewers) :
    (slots.foldlM (offerTo net frame sendTimes) viewers).isSome ↔
      ∀ slot ∈ slots, frame.goesTo (viewers.2 slot).client → SplitsInBounds frame.data := by
  induction slots generalizing viewers with
  | nil => simp
  | cons slot slots ih =>
    obtain ⟨hnotMem, hnodup⟩ := List.nodup_cons.mp hnodup
    have hoffer : ((viewers.2 slot).offerFrame (net slot) viewers.1
        { frame with sendTime := sendTimes slot }).isSome ↔
          (frame.goesTo (viewers.2 slot).client → SplitsInBounds frame.data) :=
      offerFrame_isSome_iff (net slot) viewers.1 (viewers.2 slot) hne
    rw [List.foldlM_cons, offerTo, List.forall_mem_cons, ← hoffer]
    cases (viewers.2 slot).offerFrame (net slot) viewers.1
        { frame with sendTime := sendTimes slot } with
    | none => simp
    | some r =>
      rw [Option.map_some, Option.bind_eq_bind, Option.bind_some, ih hnodup]
      have hothers : ∀ slot' ∈ slots, Function.update viewers.2 slot r.2 slot' =
          viewers.2 slot' := by
        intro slot' hmem
        have hne : slot' ≠ slot := fun heq => hnotMem (heq ▸ hmem)
        exact Function.update_of_ne hne r.2 viewers.2
      refine ⟨fun h => ⟨rfl, fun slot' hmem => ?_⟩, fun h slot' hmem => ?_⟩
      · rw [← hothers slot' hmem]
        exact h slot' hmem
      · dsimp only
        rw [hothers slot' hmem]
        exact h.2 slot' hmem

/-! ### The reads of `rtsp_server_send_frame` -/

variable {frame : Frame} {nals : List NalRange} {offset : ℕ}

/-- An entry for one more unit. The arrays have room for 100. -/
def recordServerNal (nals : List NalRange) (offset length : ℕ) : Option (List NalRange) :=
  if nals.length < 100 then some (setLastSize nals offset ++ [⟨offset + length, 0⟩]) else none

/-- The body of the loop over the offsets. -/
def serverScanAt (frame : Frame) (offset : ℕ) (nals : List NalRange) :
    Option (ℕ × List NalRange) := do
  if ← readsWithin frame.data offset [0, 0, 0, 1] then
    return (3, ← recordServerNal nals offset 4)
  else if ← readsWithin frame.data offset [0, 0, 1] then
    return (2, ← recordServerNal nals offset 3)
  else return (0, nals)

/-- The search for the units of a frame. -/
def checkedScanNals (frame : Frame) : Option (List NalRange) :=
  (scan frame.data.length (fun nals => decide (nals.length < 100)) (serverScanAt frame) 0 []).map
    (setLastSize · frame.data.length)

/-- The type in the first byte of a unit. -/
def headerType (codec : Codec) (b : UInt8) : UInt8 :=
  match codec with
  | .h264 => b &&& 0x1F
  | .h265 => (b >>> 1) &&& 0x3F

/-- The types of IDR pictures. -/
def isIdrType (codec : Codec) (t : UInt8) : Bool :=
  match codec with
  | .h264 => t = 5
  | .h265 => 19 ≤ t && t ≤ 21

/-- The types of parameter sets. -/
def isParameterSetType (codec : Codec) (t : UInt8) : Bool :=
  match codec with
  | .h264 => t = 7 || t = 8
  | .h265 => 32 ≤ t && t ≤ 34

/-- A loop over the units that ends at the first whose type is of a kind. -/
def checkedHolds (codec : Codec) (kind : UInt8 → Bool) (frame : Frame) :
    List NalRange → Option Bool
  | [] => some false
  | nal :: nals =>
    if nal.offset < frame.data.length ∧ 0 < nal.size ∧ (codec = .h265 → 2 ≤ nal.size) then
      frame.data[nal.offset]?.bind fun b =>
        if kind (headerType codec b) then some true else checkedHolds codec kind frame nals
    else checkedHolds codec kind frame nals

/-- `rtsp_server_send_frame`, with its own reads of the frame checked. -/
def checkedServerSendFrame (net : Slot → Network) (viewers : Viewers) (frame : LiveFrame)
    (hfits : frame.data.length < 2 ^ 31) (sendTimes : Slot → UInt64) : Option Viewers :=
  if frame.data.length = 0 then some viewers
  else do
    let nals ← checkedScanNals ⟨frame.data, hfits⟩
    let _ ← checkedHolds frame.codec (isIdrType frame.codec) ⟨frame.data, hfits⟩ nals
    let _ ← checkedHolds frame.codec (isParameterSetType frame.codec) ⟨frame.data, hfits⟩ nals
    rtspServerSendFrame net viewers frame sendTimes

/-- The body of the loop, with room for one more unit. -/
theorem serverScanAt_eq (hroom : nals.length < 100) :
    serverScanAt frame offset nals =
      if [0, 0, 0, 1] <+: frame.data.drop offset then
        some (3, setLastSize nals offset ++ [⟨offset + 4, 0⟩])
      else if [0, 0, 1] <+: frame.data.drop offset then
        some (2, setLastSize nals offset ++ [⟨offset + 3, 0⟩])
      else some (0, nals) := by
  rw [serverScanAt, readsWithin_eq (List.cons_ne_nil _ _), readsWithin_eq (List.cons_ne_nil _ _)]
  simp only [recordServerNal, if_pos hroom, Option.bind_eq_bind, Option.bind_some,
    decide_eq_true_eq, Option.pure_def]

/-- The search reads inside of the frame, and the arrays are large enough. -/
theorem checkedScanNals_eq (frame : Frame) :
    checkedScanNals frame = some (scanNals frame.data 0 []) := by
  suffices hscan : ∀ left offset nals, frame.data.length - offset = left →
      (scan frame.data.length (fun nals => decide (nals.length < 100)) (serverScanAt frame) offset
        nals).map (setLastSize · frame.data.length) = some (scanNals frame.data offset nals) from
    hscan _ 0 [] rfl
  intro left
  induction left using Nat.strong_induction_on with
  | _ left ih =>
    intro offset nals hleft
    rw [scan, scanNals]
    by_cases hgoes : offset < frame.data.length ∧ nals.length < 100
    · rw [if_pos ⟨hgoes.1, decide_eq_true hgoes.2⟩, if_pos hgoes]
      rw [serverScanAt_eq hgoes.2]
      split_ifs
      · exact ih _ (by omega) _ _ rfl
      · exact ih _ (by omega) _ _ rfl
      · exact ih _ (by omega) _ _ rfl
    · rw [if_neg hgoes, if_neg (by simpa using hgoes)]
      rfl

/-- The units that the search finds are inside of the frame. -/
theorem scanNals_inside {data : List UInt8} (hrecorded : Recorded nals offset)
    (hoffset : offset ≤ data.length) :
    ∀ nal ∈ scanNals data offset nals, nal.offset + nal.size ≤ data.length := by
  fun_induction scanNals data offset nals with
  | case1 offset nals hgoes hlong ih =>
    have hlength : 4 ≤ data.length - offset := by simpa using hlong.length_le
    exact ih (hrecorded.snoc 4) (by omega)
  | case2 offset nals hgoes hlong hshort ih =>
    have hlength : 3 ≤ data.length - offset := by simpa using hshort.length_le
    exact ih (hrecorded.snoc 3) (by omega)
  | case3 offset nals hgoes hlong hshort ih =>
    exact ih (hrecorded.mono (Nat.le_succ _)) hgoes.1
  | case4 offset nals hstop => exact hrecorded _ hoffset

/-- The first byte of each unit can be read. -/
theorem checkedHolds_eq (codec : Codec) (kind : UInt8 → Bool)
    (hinside : ∀ nal ∈ nals, nal.offset + nal.size ≤ frame.data.length) :
    checkedHolds codec kind frame nals =
      some ((nals.filterMap fun nal => if nal.offset < frame.data.length ∧ 0 < nal.size then
        nalType codec (nal.bytes frame.data) else none).any kind) := by
  induction nals with
  | nil => rfl
  | cons nal nals ih =>
    have hrest := ih fun nal' hnal' => hinside nal' (List.mem_cons_of_mem nal hnal')
    have hnal := hinside nal List.mem_cons_self
    rw [checkedHolds, hrest, List.filterMap_cons]
    by_cases hguard : nal.offset < frame.data.length ∧ 0 < nal.size
    · have hbytes : nal.bytes frame.data = frame.data[nal.offset] ::
          (frame.data.drop (nal.offset + 1)).take (nal.size - 1) := by
        rw [NalRange.bytes, List.drop_eq_getElem_cons hguard.1]
        exact List.take_cons hguard.2
      rw [if_pos hguard, hbytes, List.getElem?_eq_getElem hguard.1, Option.bind_some]
      by_cases hshort : codec = .h265 ∧ nal.size < 2
      · obtain ⟨rfl, hsize⟩ := hshort
        have hone : nal.size - 1 = 0 := by omega
        rw [if_neg (fun h => by have := h.2.2 rfl; omega), hone]
        rfl
      · have htype : nalType codec (frame.data[nal.offset] ::
            (frame.data.drop (nal.offset + 1)).take (nal.size - 1)) =
              some (headerType codec frame.data[nal.offset]) := by
          cases codec with
          | h264 => rfl
          | h265 =>
            have hsize : 2 ≤ nal.size := Nat.le_of_not_lt fun h => hshort ⟨rfl, h⟩
            exact if_neg (List.ne_nil_of_length_pos (by simp; omega))
        rw [if_pos ⟨hguard.1, hguard.2, fun h => Nat.le_of_not_lt fun hlt => hshort ⟨h, hlt⟩⟩,
          htype]
        cases hkind : kind (headerType codec frame.data[nal.offset]) with
        | true => simp [hkind]
        | false => simp [hkind]
    · rw [if_neg hguard, if_neg (fun h => hguard ⟨h.1, h.2.1⟩)]

/-- A frame is a key frame if one of its types says so. -/
theorem isIdrFrame_eq (codec : Codec) (data : List UInt8) :
    isIdrFrame codec data = (frameTypes codec data).any (isIdrType codec) := by
  cases codec <;> rfl

/-- It holds parameter sets if one of its types is that of a parameter set. -/
theorem hasParameterSets_eq (codec : Codec) (data : List UInt8) :
    hasParameterSets codec data = (frameTypes codec data).any (isParameterSetType codec) := by
  cases codec <;> rfl

/-- The reads of `rtsp_server_send_frame` find what a frame holds. -/
theorem checkedHolds_scanNals (codec : Codec) (kind : UInt8 → Bool) (frame : Frame) :
    checkedHolds codec kind frame (scanNals frame.data 0 []) =
      some ((frameTypes codec frame.data).any kind) :=
  checkedHolds_eq codec kind (scanNals_inside (recorded_nil 0) (Nat.zero_le _))

/-- The reads of `rtsp_server_send_frame` itself are inside of the frame. -/
theorem checkedServerSendFrame_eq (net : Slot → Network) (viewers : Viewers) (frame : LiveFrame)
    (hfits : frame.data.length < 2 ^ 31) (sendTimes : Slot → UInt64) :
    checkedServerSendFrame net viewers frame hfits sendTimes =
      rtspServerSendFrame net viewers frame sendTimes := by
  rw [checkedServerSendFrame, checkedScanNals_eq]
  by_cases hempty : frame.data.length = 0
  · rw [if_pos hempty, rtspServerSendFrame, if_pos hempty]
  · rw [if_neg hempty, Option.bind_eq_bind, Option.bind_some, checkedHolds_scanNals,
      checkedHolds_scanNals, ← isIdrFrame_eq, ← hasParameterSets_eq]
    rfl

/-- A frame can be given to the server if it goes to no client or can be taken apart. -/
theorem rtspServerSendFrame_isSome_iff (net : Slot → Network) (viewers : Viewers)
    (frame : LiveFrame) (sendTimes : Slot → UInt64) :
    (rtspServerSendFrame net viewers frame sendTimes).isSome ↔
      (frame.data ≠ [] → ∀ slot, frame.goesTo (viewers.2 slot).client →
        SplitsInBounds frame.data) := by
  unfold rtspServerSendFrame
  by_cases hempty : frame.data = []
  · simp [hempty]
  · have hlength : ¬frame.data.length = 0 := fun h => hempty (List.length_eq_zero_iff.mp h)
    rw [if_neg hlength, foldlM_offerTo_isSome_iff net hempty sendTimes (List.nodup_finRange _)]
    exact ⟨fun h _ slot => h slot (List.mem_finRange slot), fun h slot _ => h hempty slot⟩

end Rtsp
