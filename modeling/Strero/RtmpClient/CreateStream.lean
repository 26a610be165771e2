import Strero.Lib.Amf0
import Strero.Lib.Scan
import Strero.Rtmp.Amf
import Strero.Rtmp.Receiver

/-!
# The reply to createStream

The client takes the stream id from the last byte 0x00 of one read that has eight bytes behind it.
That is the marker of the number in the reply only if the read is long enough for the reply, and
no such byte comes behind that marker.
-/

namespace RtmpClient

open Wire CString Scan Amf0 Rtmp Rtmp.ChunkStream

/-! ### The search -/

/-- The double 1.0, which is the default. -/
def defaultStreamId : UInt64 := 0x3FF0000000000000

/-- The loop that shifts in the bytes of a double. -/
def doubleBits (bytes : List UInt8) : UInt64 :=
  bytes.foldl (fun acc b => (acc <<< 8) ||| b.toUInt64) 0

/-- `value > 0 && value < 1000`. Positive doubles are ordered as their bits, with 1000.0 and
the bits 0x408F400000000000, and negative ones and those that are no numbers come behind. -/
def inRange (bits : UInt64) : Bool := 0 < bits && bits < 0x408F400000000000

/-- `last_number_pos`, where -1 stands for none. -/
def lastNumberPos (response : List UInt8) : Option ℕ :=
  lastBelow (fun i => response[i]? = some 0x00) (response.length - 8)

/-- The stream id that is taken from the bytes of a response. -/
def extractStreamId (response : List UInt8) : UInt64 :=
  if response.length = 0 then defaultStreamId
  else if response.length ≥ 20 then
    match lastNumberPos response with
    | some lastNumberPos =>
      let bits := doubleBits ((response.drop (lastNumberPos + 1)).take 8)
      if inRange bits then bits else defaultStreamId
    | none => defaultStreamId
  else defaultStreamId

/-- What follows the command in `rtmp_client_create_stream`: one read, which may fail, and the
stream id of the connection. -/
def rtmpClientCreateStream (response : Option (List UInt8)) : Option UInt64 :=
  response.map extractStreamId

/-! ### What is found -/

/-- The last byte 0x00 with eight bytes behind it has these bytes behind it: as many bytes as
follow the eight ones are not 0x00. -/
def LastNumber (response : List UInt8) (bits : UInt64) : Prop :=
  ∃ front bytes tail, response = front ++ 0x00 :: (bytes ++ tail) ∧ bytes.length = 8 ∧
    doubleBits bytes = bits ∧ ∀ b ∈ (bytes ++ tail).take tail.length, b ≠ 0x00

/-- There is no number to be found: the response is short, none of its bytes is 0x00 with eight
bytes behind it, or behind the last such byte there is a number out of range. -/
def NamesNone (response : List UInt8) : Prop :=
  response.length < 20 ∨ (∀ b ∈ response.take (response.length - 8), b ≠ 0x00) ∨
    ∃ bits, LastNumber response bits ∧ inRange bits = false

section Search

variable {response front bytes tail : List UInt8} {bits : UInt64} {pos : ℕ}

/-- The position of such a byte. -/
theorem lastNumberPos_of_split (hlength : bytes.length = 8)
    (htail : ∀ b ∈ (bytes ++ tail).take tail.length, b ≠ 0x00) :
    lastNumberPos (front ++ 0x00 :: (bytes ++ tail)) = some front.length := by
  rw [lastNumberPos, lastBelow_eq_some_iff]
  simp only [List.length_append, List.length_cons, hlength]
  refine ⟨by omega, by simp, fun i hi hlt hzero => ?_⟩
  obtain ⟨k, rfl⟩ : ∃ k, i = front.length + 1 + k := ⟨i - (front.length + 1), by omega⟩
  have hget : (front ++ 0x00 :: (bytes ++ tail))[front.length + 1 + k]? = (bytes ++ tail)[k]? := by
    rw [List.getElem?_append_right (by omega), Nat.add_assoc, Nat.add_sub_cancel_left,
      Nat.add_comm 1 k, List.getElem?_cons_succ]
  rw [hget] at hzero
  refine htail 0x00 (List.mem_of_getElem? (i := k) ?_) rfl
  rw [List.getElem?_take_of_lt (by omega)]
  exact hzero

/-- At the position that is found the response is split so. -/
theorem exists_split_of_lastNumberPos (h : lastNumberPos response = some pos) :
    ∃ front bytes tail, response = front ++ 0x00 :: (bytes ++ tail) ∧ bytes.length = 8 ∧
      front.length = pos ∧ ∀ b ∈ (bytes ++ tail).take tail.length, b ≠ 0x00 := by
  obtain ⟨hlt, hzero, hnone⟩ := lastBelow_eq_some_iff.mp h
  have hpos : pos < response.length := by omega
  refine ⟨response.take pos, (response.drop (pos + 1)).take 8, (response.drop (pos + 1)).drop 8,
    ?_, ?_, ?_, ?_⟩
  · rw [List.take_append_drop]
    obtain ⟨_, hget⟩ := List.getElem?_eq_some_iff.mp hzero
    rw [← hget, ← List.drop_eq_getElem_cons hpos, List.take_append_drop]
  · rw [List.length_take, List.length_drop]
    omega
  · rw [List.length_take]
    omega
  · intro b hb hbzero
    rw [List.take_append_drop] at hb
    obtain ⟨k, hk, hget⟩ := List.getElem_of_mem hb
    simp only [List.length_take, List.length_drop] at hk
    refine hnone (pos + 1 + k) (by omega) (by omega) ?_
    rw [List.getElem_take, List.getElem_drop] at hget
    rw [← hbzero, ← hget]
    exact List.getElem?_eq_getElem _

/-- The bytes behind the position are a number. -/
theorem lastNumber_iff_of_pos (bits : UInt64) (h : lastNumberPos response = some pos) :
    LastNumber response bits ↔ doubleBits ((response.drop (pos + 1)).take 8) = bits := by
  have hsplit {front bytes tail : List UInt8} (hlength : bytes.length = 8) :
      ((front ++ 0x00 :: (bytes ++ tail)).drop (front.length + 1)).take 8 = bytes := by
    rw [← List.singleton_append, ← List.append_assoc, List.drop_left' (by simp),
      List.take_left' hlength]
  constructor
  · rintro ⟨front, bytes, tail, rfl, hlength, hbits, htail⟩
    rw [lastNumberPos_of_split hlength htail] at h
    obtain rfl := Option.some.inj h
    rw [hsplit hlength, hbits]
  · intro hbits
    obtain ⟨front, bytes, tail, rfl, hlength, rfl, htail⟩ := exists_split_of_lastNumberPos h
    rw [hsplit hlength] at hbits
    exact ⟨front, bytes, tail, rfl, hlength, hbits, htail⟩

/-- Without a position none of the bytes that are looked at is 0x00. -/
theorem lastNumberPos_eq_none_iff :
    lastNumberPos response = none ↔ ∀ b ∈ response.take (response.length - 8), b ≠ 0x00 := by
  rw [lastNumberPos, lastBelow_eq_none_iff]
  constructor
  · rintro hnone b hb rfl
    obtain ⟨i, hi, hget⟩ := List.getElem_of_mem hb
    rw [List.length_take] at hi
    rw [List.getElem_take] at hget
    exact hnone i (by omega) (List.getElem?_eq_some_iff.mpr ⟨by omega, hget⟩)
  · intro hnone i hi hzero
    refine hnone 0x00 (List.mem_of_getElem? (i := i) ?_) rfl
    rw [List.getElem?_take_of_lt hi]
    exact hzero

/-- Where there is no such byte, there is no number behind it. -/
theorem LastNumber.lastNumberPos_ne_none (h : LastNumber response bits) :
    lastNumberPos response ≠ none := by
  obtain ⟨front, bytes, tail, rfl, hlength, -, htail⟩ := h
  rw [lastNumberPos_of_split hlength htail]
  exact Option.some_ne_none _

/-- When a stream id in range is taken: it is found, or it is the default and none is. -/
theorem extractStreamId_iff (hrange : inRange bits = true) :
    extractStreamId response = bits ↔
      response.length ≥ 20 ∧ LastNumber response bits ∨
        bits = defaultStreamId ∧ NamesNone response := by
  unfold extractStreamId
  by_cases hlong : response.length ≥ 20
  · rw [if_neg (by omega), if_pos hlong]
    cases hpos : lastNumberPos response with
    | none =>
      have hnone : NamesNone response := .inr (.inl (lastNumberPos_eq_none_iff.mp hpos))
      have hno : ¬LastNumber response bits := fun h => h.lastNumberPos_ne_none hpos
      simp only [hlong, hno, hnone, and_false, false_or, and_true]
      exact eq_comm
    | some pos =>
      have hnumber (bits : UInt64) := lastNumber_iff_of_pos bits hpos
      generalize hfound : doubleBits ((response.drop (pos + 1)).take 8) = found at hnumber
      have hsome : ¬∀ b ∈ response.take (response.length - 8), b ≠ 0x00 := fun hnone => by
        rw [lastNumberPos_eq_none_iff.mpr hnone] at hpos
        cases hpos
      have hnames : NamesNone response ↔ inRange found = false := by
        constructor
        · rintro (hshort | hnone | ⟨bits, hbits, hout⟩)
          · omega
          · exact absurd hnone hsome
          · rwa [(hnumber bits).mp hbits]
        · exact fun hout => .inr (.inr ⟨found, (hnumber found).mpr rfl, hout⟩)
      dsimp only
      rw [hfound, hnumber, hnames]
      cases hin : inRange found with
      | true => simp [hlong]
      | false =>
        have hne : found ≠ bits := fun heq => by
          rw [heq, hrange] at hin
          cases hin
        simp [hne, eq_comm]
  · have hshort : NamesNone response := .inl (Nat.lt_of_not_le hlong)
    rw [if_neg hlong, ite_self]
    simp only [hlong, hshort, false_and, false_or, and_true]
    exact eq_comm

/-- A number at the end of the response is found. -/
theorem extractStreamId_of_last {number : List UInt8} (hlong : response.length ≥ 20)
    (hlast : response = front ++ 0x00 :: number) (hlength : number.length = 8)
    (hrange : inRange (doubleBits number) = true) :
    extractStreamId response = doubleBits number :=
  (extractStreamId_iff hrange).mpr
    (.inl ⟨hlong, front, number, [], by rw [hlast, List.append_nil], hlength, rfl, by simp⟩)

end Search

/-! ### Replies -/

/-- The payload of the result for createStream: the name, the transaction number 2.0, a command
object, the stream id, and what the server may add. -/
def IsCreateStreamResult (streamId : UInt64) (payload : List UInt8) : Prop :=
  ∃ body rest further, payload =
      amfEncodeString (ascii "_result") ++ amfEncodeNumber 0x4000000000000000 ++ body ∧
    Closed .value body rest ∧ rest = amfEncodeNumber streamId ++ further ∧ Values further

/-- Messages that a server sends after the client's createStream, in whole chunks for a receiver
of the protocol, with the result for createStream among them. They arrive in some pieces, of which
one read takes the first. -/
structure Reply where
  receiver : Receiver
  messages : List ReceivedMessage
  pieces : List (List UInt8)
  streamId : UInt64
  received : (receiver.receiveAll pieces.flatten).map (·.messages) =
    some (receiver.messages ++ messages)
  result : ∃ m ∈ messages, m.typeId = 20 ∧ IsCreateStreamResult streamId m.payload
  streamId_low : 0x3FF0000000000000 ≤ streamId
  streamId_high : streamId < 0x408F400000000000
  fits : ∀ piece ∈ pieces, piece.length ≤ 2048

/-- The bytes of the first read. -/
def Reply.response (reply : Reply) : List UInt8 := reply.pieces.headD []

/-- The client takes the stream id of the reply. -/
def Reply.Understood (reply : Reply) : Prop :=
  rtmpClientCreateStream (some reply.response) = some reply.streamId

/-- The client takes the stream id of the reply exactly if the first read is long enough and the
last byte 0x00 with eight bytes behind it has that id there, or if the id is the default one and
there is no number to be found. -/
theorem Reply.understood_iff (reply : Reply) :
    reply.Understood ↔
      reply.response.length ≥ 20 ∧ LastNumber reply.response reply.streamId ∨
        reply.streamId = defaultStreamId ∧ NamesNone reply.response := by
  have hrange : inRange reply.streamId = true := by
    have hlow := UInt64.le_iff_toNat_le.mp reply.streamId_low
    have hpos : 0 < reply.streamId :=
      UInt64.lt_iff_toNat_lt.mpr (Nat.lt_of_lt_of_le (by decide) hlow)
    simp [inRange, hpos, reply.streamId_high]
  rw [Reply.Understood, rtmpClientCreateStream, Option.map_some, Option.some_inj]
  exact extractStreamId_iff hrange

/-- The result with the stream id 2.0, and the message that the stream has begun. -/
def resultAndStreamBegin : List UInt8 :=
  [0x03, 0, 0, 0, 0, 0, 29, 20, 0, 0, 0, 0] ++ amfEncodeString (ascii "_result") ++
    amfEncodeNumber 0x4000000000000000 ++ amfEncodeNull ++ amfEncodeNumber 0x4000000000000000 ++
    [0x02, 0, 0, 0, 0, 0, 6, 4, 0, 0, 0, 0] ++ [0, 0, 0, 0, 0, 1]

/-- A reply of these two messages in one piece. -/
def streamBeginReply : Reply where
  receiver := .initial
  messages := [⟨3, 20, 0, amfEncodeString (ascii "_result") ++ amfEncodeNumber 0x4000000000000000 ++
    amfEncodeNull ++ amfEncodeNumber 0x4000000000000000⟩, ⟨2, 4, 0, [0, 0, 0, 0, 0, 1]⟩]
  pieces := [resultAndStreamBegin]
  streamId := 0x4000000000000000
  received := by decide +kernel
  result := ⟨_, List.mem_cons_self, rfl, amfEncodeNull ++ amfEncodeNumber 0x4000000000000000,
    amfEncodeNumber 0x4000000000000000, [], by decide +kernel, .null _, rfl, .nil⟩
  streamId_low := by decide
  streamId_high := by decide
  fits := by decide +kernel

/-- Another stream id is taken from it. -/
theorem not_understood_streamBeginReply : ¬∀ reply : Reply, reply.Understood := by
  intro h
  have htaken : rtmpClientCreateStream (some resultAndStreamBegin) = some 1 := by decide +kernel
  have hunderstood : rtmpClientCreateStream (some resultAndStreamBegin) = some 0x4000000000000000 :=
    h streamBeginReply
  rw [htaken] at hunderstood
  exact absurd hunderstood (by decide)

end RtmpClient
