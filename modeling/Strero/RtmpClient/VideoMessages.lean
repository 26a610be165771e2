import Strero.Lib.Wire

/-!
# Video messages of the RTMP client

`rtmp_client_send_video_frame` looks for the NAL units of a frame behind start codes of
four bytes, and makes a message of them in which each unit has its length in front. The
parameter sets go into a message of their own, the sequence header. The second byte of a
message tells the two apart.
-/

namespace RtmpClient

open Wire

/-! ### NAL units behind start codes of four bytes -/

/-- The frame holds a NAL unit of the type. The loop runs up to four bytes before the end. -/
def hasNalType (nalType : UInt8) : List UInt8 → Bool
  | 0 :: 0 :: 0 :: 1 :: b :: rest =>
    b &&& 0x1F == nalType || hasNalType nalType (0 :: 0 :: 1 :: b :: rest)
  | _ :: rest => hasNalType nalType rest
  | [] => false

/-- The length of the NAL unit at the front, which ends at the next start code. -/
def nalLength : List UInt8 → ℕ
  | 0 :: 0 :: 0 :: 1 :: _ => 0
  | _ :: rest => nalLength rest + 1
  | [] => 0

/-- The first NAL unit of the type. -/
def findNal (nalType : UInt8) (data : List UInt8) : Option (List UInt8) :=
  match data with
  | 0 :: 0 :: 0 :: 1 :: b :: rest =>
    let unit := b :: rest
    if b &&& 0x1F = nalType then some (unit.take (nalLength unit))
    else findNal nalType (unit.drop (nalLength unit))
  | _ :: rest => findNal nalType rest
  | [] => none
termination_by data.length
decreasing_by all_goals simp only [List.length_drop, List.length_cons]; omega

/-! ### The sequence header -/

/-- The message that both functions for the sequence header build of an SPS of at least four
bytes and a PPS. -/
def avcSequenceHeader (sps pps : List UInt8) : Option (List UInt8) :=
  match sps with
  | _ :: profile :: compatibility :: level :: _ =>
    some ([0x17, 0, 0, 0, 0, 1, profile, compatibility, level, 0xFF, 0xE1] ++
      putBe16 (UInt32.ofNat sps.length) ++ sps ++ [1] ++ putBe16 (UInt32.ofNat pps.length) ++ pps)
  | _ => none

/-- The sequence header that `send_avc_sequence_header_from_frame` builds, unless a parameter
set is missing or the SPS is too short. -/
def avcSequenceHeaderFromFrame (frame : List UInt8) : Option (List UInt8) := do
  avcSequenceHeader (← findNal 7 frame) (← findNal 8 frame)

/-! ### The message of a frame -/

/-- Why there is no message of a frame: the type of a NAL unit would be read behind the end of
the frame, or the buffer is too small. -/
inductive MessageError
  | outOfFrame | overflow
deriving DecidableEq

/-- The conversion to units with their lengths, behind what the buffer holds. Parameter sets
are left out. -/
def annexBToAvcc (capacity : ℕ) (data message : List UInt8) : Except MessageError (List UInt8) :=
  match data with
  | 0 :: 0 :: 0 :: 1 :: [] => .error .outOfFrame
  | 0 :: 0 :: 0 :: 1 :: b :: rest =>
    let unit := b :: rest
    let size := nalLength unit
    if b &&& 0x1F = 7 ∨ b &&& 0x1F = 8 then annexBToAvcc capacity (unit.drop size) message
    else if message.length + 4 + size > capacity then .error .overflow
    else
      annexBToAvcc capacity (unit.drop size)
        (message ++ putBe32 (UInt32.ofNat size) ++ unit.take size)
  | _ :: rest => annexBToAvcc capacity rest message
  | [] => .ok message
termination_by data.length
decreasing_by all_goals simp only [List.length_drop, List.length_cons]; omega

/-- The frame holds an IDR picture. -/
def isKeyframe (frame : List UInt8) : Bool := hasNalType 5 frame

/-- The frame type of the message: a key frame, or an inter frame. -/
def frameType (frame : List UInt8) : UInt8 := if isKeyframe frame then 1 else 2

/-- The message of a frame. -/
def videoMessage (frame : List UInt8) : Except MessageError (List UInt8) :=
  annexBToAvcc (frame.length + 16) frame [frameType frame <<< 4 ||| 7, 1, 0, 0, 0]

/-! ### The packet types -/

/-- The message is an AVC sequence header. -/
def IsSequenceHeader (message : List UInt8) : Prop := message[1]? = some 0

/-- The message holds NAL units. -/
def IsNalu (message : List UInt8) : Prop := message[1]? = some 1

instance (message : List UInt8) : Decidable (IsSequenceHeader message) :=
  inferInstanceAs (Decidable (_ = _))

instance (message : List UInt8) : Decidable (IsNalu message) :=
  inferInstanceAs (Decidable (_ = _))

theorem IsSequenceHeader.not_isNalu {message : List UInt8} (h : IsSequenceHeader message) :
    ¬IsNalu message := fun hnalu => absurd (h.symm.trans hnalu) (by decide)

theorem avcSequenceHeader_isSequenceHeader {sps pps message : List UInt8}
    (h : avcSequenceHeader sps pps = some message) : IsSequenceHeader message := by
  unfold avcSequenceHeader at h
  split at h
  · obtain rfl := Option.some.inj h
    rfl
  · cases h

theorem avcSequenceHeaderFromFrame_isSequenceHeader {frame message : List UInt8}
    (h : avcSequenceHeaderFromFrame frame = some message) : IsSequenceHeader message := by
  obtain ⟨sps, -, h⟩ := Option.bind_eq_some_iff.mp h
  obtain ⟨pps, -, h⟩ := Option.bind_eq_some_iff.mp h
  exact avcSequenceHeader_isSequenceHeader h

/-- The conversion leaves what the buffer holds in front. -/
theorem annexBToAvcc_extends {capacity : ℕ} {data message result : List UInt8}
    (h : annexBToAvcc capacity data message = .ok result) : message <+: result := by
  fun_induction annexBToAvcc capacity data message with
  | case1 => cases h
  | case2 message b rest unit size hparameters ih => exact ih h
  | case3 => cases h
  | case4 message b rest unit size hother hfits ih =>
    have hlonger := ih h
    rw [List.append_assoc] at hlonger
    exact (List.prefix_append _ _).trans hlonger
  | case5 _ _ _ _ _ ih => exact ih h
  | case6 message =>
    obtain rfl := Except.ok.inj h
    exact List.prefix_rfl

theorem videoMessage_isNalu {frame message : List UInt8} (h : videoMessage frame = .ok message) :
    IsNalu message := by
  obtain ⟨rest, rfl⟩ := annexBToAvcc_extends h
  rfl

end RtmpClient
