import Strero.Lib.Wire

/-!
# RTP packets

The fixed header of RTP, the framing that carries packets over a stream of
bytes, and the packets that a sender makes of the payloads of one unit: numbered
in sequence, of one time, with the marker on the last.
-/

namespace Rtp

open Wire

/-- A packet with the fixed header alone. -/
structure Packet where
  marker : Bool
  payloadType : UInt8
  sequenceNumber : UInt16
  timestamp : UInt32
  ssrc : UInt32
  payload : List UInt8
deriving DecidableEq, Repr

/-- The bytes of a packet. -/
def Packet.encode (p : Packet) : List UInt8 :=
  [0x80, p.payloadType ||| if p.marker then 0x80 else 0] ++ putBe16 p.sequenceNumber.toUInt32 ++
    putBe32 p.timestamp ++ putBe32 p.ssrc ++ p.payload

/-- The packet that a receiver reads. -/
def Packet.decode : List UInt8 → Option Packet
  | version :: kind :: s₁ :: s₀ :: t₃ :: t₂ :: t₁ :: t₀ :: c₃ :: c₂ :: c₁ :: c₀ :: payload =>
    if version = 0x80 then
      some ⟨kind &&& 0x80 ≠ 0, kind &&& 0x7F, (getBe16 s₁ s₀).toUInt16, getBe32 t₃ t₂ t₁ t₀,
        getBe32 c₃ c₂ c₁ c₀, payload⟩
    else none
  | _ => none

theorem Packet.encode_length (p : Packet) : p.encode.length = 12 + p.payload.length := by
  simp [Packet.encode]
  omega

/-- The marker and the payload type share a byte. -/
theorem kind_marker : ∀ payloadType : UInt8, payloadType < 128 → ∀ marker : Bool,
    (payloadType ||| if marker then 0x80 else 0) &&& 0x80 = (if marker then 0x80 else 0) ∧
      (payloadType ||| if marker then 0x80 else 0) &&& 0x7F = payloadType :=
  forall_byte (by decide +kernel)

/-- A receiver reads the packet that was written. -/
theorem Packet.decode_encode {p : Packet} (htype : p.payloadType < 128) :
    Packet.decode p.encode = some p := by
  obtain ⟨marker, payloadType, sequenceNumber, timestamp, ssrc, payload⟩ := p
  obtain ⟨hmarker, hkind⟩ := kind_marker payloadType htype marker
  have hseq : sequenceNumber.toUInt32.toNat < 2 ^ 16 := sequenceNumber.toNat_lt
  simp only [Packet.encode, putBe16, putBe32, List.cons_append, List.nil_append, Packet.decode,
    if_true, getBe16_putBe16 hseq, getBe32_putBe32, hmarker, hkind]
  congr 2
  · cases marker <;> decide
  · simp

/-- A receiver reads all packets that were written. -/
theorem Packet.mapM_decode_encode {packets : List Packet}
    (htype : ∀ p ∈ packets, p.payloadType < 128) :
    (packets.map Packet.encode).mapM Packet.decode = some packets := by
  induction packets with
  | nil => rfl
  | cons p packets ih =>
    rw [List.map_cons, List.mapM_cons, Packet.decode_encode (htype p List.mem_cons_self),
      ih fun q hq => htype q (List.mem_cons_of_mem p hq)]
    rfl

/-! ### Interleaved frames -/

/-- A packet on a channel of a byte stream. -/
def frame (channel : UInt8) (packet : List UInt8) : List UInt8 :=
  ['$'.toUInt8, channel] ++ putBe16 (UInt32.ofNat packet.length) ++ packet

/-- The frames of a byte stream, or none when it does not consist of whole ones. -/
def deframe : List UInt8 → Option (List (UInt8 × List UInt8))
  | [] => some []
  | dollar :: channel :: l₁ :: l₀ :: rest =>
    let length := (getBe16 l₁ l₀).toNat
    if dollar = '$'.toUInt8 ∧ length ≤ rest.length then
      (deframe (rest.drop length)).map ((channel, rest.take length) :: ·)
    else none
  | _ => none
termination_by bytes => bytes.length
decreasing_by simp only [List.length_drop, List.length_cons]; omega

/-- The first frame of a stream is read back. -/
theorem deframe_frame (channel : UInt8) {packet : List UInt8} (hlength : packet.length < 2 ^ 16)
    (rest : List UInt8) :
    deframe (frame channel packet ++ rest) = (deframe rest).map ((channel, packet) :: ·) := by
  have hnat : (UInt32.ofNat packet.length).toNat = packet.length := by
    rw [UInt32.toNat_ofNat']
    omega
  have hsize : (getBe16 (lowByte (UInt32.ofNat packet.length >>> 8))
      (lowByte (UInt32.ofNat packet.length))).toNat = packet.length := by
    rw [getBe16_putBe16 (by omega), hnat]
  simp only [frame, putBe16, List.cons_append, List.nil_append, deframe, hsize]
  rw [if_pos ⟨trivial, by simp⟩, List.drop_left, List.take_left]

/-- Frames of short packets are read back. -/
theorem deframe_frames (channel : UInt8) {packets : List (List UInt8)}
    (hlength : ∀ p ∈ packets, p.length < 2 ^ 16) :
    deframe (packets.flatMap (frame channel)) = some (packets.map (channel, ·)) := by
  induction packets with
  | nil => simp [deframe]
  | cons packet packets ih =>
    rw [List.flatMap_cons, deframe_frame channel (hlength _ List.mem_cons_self),
      ih fun p hp => hlength p (List.mem_cons_of_mem _ hp)]
    rfl

/-! ### The packets of one unit -/

/-- What the packets of a sender have in common. -/
structure Stream where
  payloadType : UInt8
  timestamp : UInt32
  ssrc : UInt32

/-- The packets for a list of payloads: numbered from `sequenceNumber` on, with
the marker, where there is one, on the last. -/
def packetize (stream : Stream) (marker : Bool) : UInt16 → List (List UInt8) → List Packet
  | _, [] => []
  | sequenceNumber, [payload] =>
    [⟨marker, stream.payloadType, sequenceNumber, stream.timestamp, stream.ssrc, payload⟩]
  | sequenceNumber, payload :: next :: payloads =>
    ⟨false, stream.payloadType, sequenceNumber, stream.timestamp, stream.ssrc, payload⟩ ::
      packetize stream marker (sequenceNumber + 1) (next :: payloads)

variable {stream : Stream} {marker : Bool} {sequenceNumber : UInt16} {payloads : List (List UInt8)}

@[simp] theorem packetize_length :
    (packetize stream marker sequenceNumber payloads).length = payloads.length := by
  fun_induction packetize stream marker sequenceNumber payloads with
  | case1 => rfl
  | case2 => rfl
  | case3 sequenceNumber payload next payloads ih => simp [ih]

/-- The payloads are carried in order. -/
theorem packetize_payload :
    (packetize stream marker sequenceNumber payloads).map (·.payload) = payloads := by
  fun_induction packetize stream marker sequenceNumber payloads with
  | case1 => rfl
  | case2 => rfl
  | case3 sequenceNumber payload next payloads ih => simp [ih]

/-- All packets belong to the stream. -/
theorem mem_packetize {p : Packet} (hp : p ∈ packetize stream marker sequenceNumber payloads) :
    p.payloadType = stream.payloadType ∧ p.timestamp = stream.timestamp ∧ p.ssrc = stream.ssrc ∧
      p.payload ∈ payloads := by
  fun_induction packetize stream marker sequenceNumber payloads with
  | case1 => cases hp
  | case2 sequenceNumber payload =>
    obtain rfl := List.mem_singleton.mp hp
    exact ⟨rfl, rfl, rfl, List.mem_singleton_self _⟩
  | case3 sequenceNumber payload next payloads ih =>
    rcases List.mem_cons.mp hp with rfl | hp
    · exact ⟨rfl, rfl, rfl, List.mem_cons_self⟩
    · obtain ⟨htype, htime, hssrc, hmem⟩ := ih hp
      exact ⟨htype, htime, hssrc, List.mem_cons_of_mem _ hmem⟩

/-- The first packet of several is numbered and has no marker. -/
theorem packetize_cons (sequenceNumber : UInt16)
    (payload : List UInt8) {payloads : List (List UInt8)} (hne : payloads ≠ []) :
    packetize stream marker sequenceNumber (payload :: payloads) =
      ⟨false, stream.payloadType, sequenceNumber, stream.timestamp, stream.ssrc, payload⟩ ::
        packetize stream marker (sequenceNumber + 1) payloads := by
  cases payloads with
  | nil => exact absurd rfl hne
  | cons next payloads => rw [packetize]

/-- Counting on by one and by `n`, modulo `2 ^ 16`. -/
theorem add_one_add_ofNat (first : UInt16) (n : ℕ) :
    first + 1 + UInt16.ofNat n = first + UInt16.ofNat (n + 1) := by
  rw [UInt16.ofNat_add, UInt16.add_assoc, UInt16.add_comm 1]
  rfl

/-- Packets without marker are numbered one by one. -/
theorem packetize_false_cons (sequenceNumber : UInt16) (payload : List UInt8)
    (payloads : List (List UInt8)) :
    packetize stream false sequenceNumber (payload :: payloads) =
      ⟨false, stream.payloadType, sequenceNumber, stream.timestamp, stream.ssrc, payload⟩ ::
        packetize stream false (sequenceNumber + 1) payloads := by
  cases payloads with
  | nil => rfl
  | cons next payloads => exact packetize_cons _ _ (List.cons_ne_nil _ _)

/-- Units that are sent one after the other, with the marker on the last, are
numbered and marked like one unit. -/
theorem packetize_append {payloads₁ payloads₂ : List (List UInt8)} (hne : payloads₂ ≠ []) :
    packetize stream marker sequenceNumber (payloads₁ ++ payloads₂) =
      packetize stream false sequenceNumber payloads₁ ++
        packetize stream marker (sequenceNumber + UInt16.ofNat payloads₁.length) payloads₂ := by
  induction payloads₁ generalizing sequenceNumber with
  | nil => simp [packetize]
  | cons payload payloads₁ ih =>
    rw [List.cons_append, packetize_cons _ _ (by simp [hne]), ih, packetize_false_cons,
      add_one_add_ofNat]
    rfl

/-- Sequence numbers that follow each other modulo `2 ^ 16` from a first one on. -/
def Consecutive : UInt16 → List UInt16 → Prop
  | _, [] => True
  | first, n :: ns => n = first ∧ Consecutive (first + 1) ns

instance Consecutive.decidable : (first : UInt16) → (ns : List UInt16) →
    Decidable (Consecutive first ns)
  | _, [] => inferInstanceAs (Decidable True)
  | first, n :: ns =>
    have := Consecutive.decidable (first + 1) ns
    inferInstanceAs (Decidable (n = first ∧ Consecutive (first + 1) ns))

theorem consecutive_append {first : UInt16} {ns ms : List UInt16} :
    Consecutive first (ns ++ ms) ↔
      Consecutive first ns ∧ Consecutive (first + UInt16.ofNat ns.length) ms := by
  induction ns generalizing first with
  | nil => simp [Consecutive]
  | cons n ns ih =>
    simp [Consecutive, ih, and_assoc, add_one_add_ofNat]

/-- The packets are numbered in sequence. -/
theorem packetize_consecutive :
    Consecutive sequenceNumber
      ((packetize stream marker sequenceNumber payloads).map (·.sequenceNumber)) := by
  fun_induction packetize stream marker sequenceNumber payloads with
  | case1 => trivial
  | case2 => exact ⟨rfl, trivial⟩
  | case3 sequenceNumber payload next payloads ih => exact ⟨rfl, ih⟩

/-- The marker is on the last packet and on no other. -/
theorem packetize_marker (hne : payloads ≠ []) :
    (packetize stream marker sequenceNumber payloads).map (·.marker) =
      List.replicate (payloads.length - 1) false ++ [marker] := by
  fun_induction packetize stream marker sequenceNumber payloads with
  | case1 => exact absurd rfl hne
  | case2 => rfl
  | case3 sequenceNumber payload next payloads ih =>
    rw [List.map_cons, ih (by simp)]
    simp [List.replicate_succ]

end Rtp
