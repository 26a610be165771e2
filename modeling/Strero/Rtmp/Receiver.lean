import Mathlib.Logic.Function.Basic
import Strero.Rtmp.ChunkStream

/-!
# A receiver of the protocol

A receiver reads one chunk after another. It keeps a header and a partly
received message for every chunk stream, expects 128 bytes of data in a chunk
until it is told otherwise, and lists the messages it has put together.
-/

namespace Rtmp.ChunkStream

open Wire

/-! ### Decoding headers -/

/-- The format and the id of a chunk, in one of the three forms. -/
def decodeBasicHeader : List UInt8 → Option (ChunkType × UInt32 × List UInt8)
  | [] => none
  | b :: rest =>
    let fmt := match b.toNat / 64 with
      | 0 => ChunkType.type0
      | 1 => .type1
      | 2 => .type2
      | _ => .type3
    match b.toNat % 64, rest with
    | 0, b0 :: rest => some (fmt, UInt32.ofNat (b0.toNat + 64), rest)
    | 1, b0 :: b1 :: rest => some (fmt, UInt32.ofNat (b1.toNat * 256 + b0.toNat + 64), rest)
    | 0, _ => none
    | 1, _ => none
    | id, rest => some (fmt, UInt32.ofNat id, rest)

/-- The extended timestamp field replaces a field that is all ones. -/
def decodeTime (field : UInt32) (input : List UInt8) : Option (UInt32 × List UInt8) :=
  if field = 0xFFFFFF then
    match input with
    | e0 :: e1 :: e2 :: e3 :: rest => some (getBe32 e0 e1 e2 e3, rest)
    | _ => none
  else some (field, input)

/-- The fields of a chunk header. A chunk of type 3 has an extended timestamp
field when its chunk stream has one. -/
def decodeHeader (streams : UInt32 → Option StreamState) (input : List UInt8) :
    Option (Fields × List UInt8) := do
  let (fmt, csId, input) ← decodeBasicHeader input
  match fmt, input with
  | .type0, m0 :: m1 :: m2 :: m3 :: m4 :: m5 :: m6 :: m7 :: m8 :: m9 :: m10 :: rest =>
    let (time, rest) ← decodeTime (getBe24 m0 m1 m2) rest
    return (⟨fmt, csId, time, getBe24 m3 m4 m5, m6, getLe32 m7 m8 m9 m10, false⟩, rest)
  | .type1, m0 :: m1 :: m2 :: m3 :: m4 :: m5 :: m6 :: rest =>
    let (time, rest) ← decodeTime (getBe24 m0 m1 m2) rest
    return (⟨fmt, csId, time, getBe24 m3 m4 m5, m6, 0, false⟩, rest)
  | .type2, m0 :: m1 :: m2 :: rest =>
    let (time, rest) ← decodeTime (getBe24 m0 m1 m2) rest
    return (⟨fmt, csId, time, 0, 0, 0, false⟩, rest)
  | .type3, rest =>
    match (streams csId).bind (·.extended) with
    | none => return (⟨fmt, csId, 0, 0, 0, 0, false⟩, rest)
    | some _ =>
      let (_, rest) ← decodeTime 0xFFFFFF rest
      return (⟨fmt, csId, 0, 0, 0, 0, false⟩, rest)
  | _, _ => none

/-! ### Receiving chunks -/

/-- A message as the receiver hands it on. -/
structure ReceivedMessage where
  csId : UInt32
  typeId : UInt8
  streamId : UInt32
  payload : List UInt8
deriving DecidableEq, Repr

/-- A chunk stream with the bytes of its unfinished message. -/
structure Incoming where
  state : StreamState
  received : List UInt8
deriving DecidableEq, Repr

/-- The state of a receiver. -/
structure Receiver where
  chunkSize : ℕ
  streams : UInt32 → Option Incoming
  messages : List ReceivedMessage

/-- A receiver at the start of a connection. -/
def Receiver.initial : Receiver := ⟨128, fun _ => none, []⟩

/-- Protocol control messages act on the receiver itself: Set Chunk Size gives
the new size in 31 bits, and Abort discards an unfinished message. -/
def Receiver.control (r : Receiver) (m : ReceivedMessage) : Receiver :=
  match m.typeId.toNat, m.payload with
  | 1, b0 :: b1 :: b2 :: b3 :: _ => { r with chunkSize := (getBe32 b0 b1 b2 b3).toNat % 2 ^ 31 }
  | 2, b0 :: b1 :: b2 :: b3 :: _ =>
    let id := getBe32 b0 b1 b2 b3
    { r with
      streams := Function.update r.streams id ((r.streams id).map ({ · with received := [] })) }
  | _, _ => r

/-- Hand on a complete message. -/
def Receiver.deliver (r : Receiver) (m : ReceivedMessage) : Receiver :=
  Receiver.control { r with messages := r.messages ++ [m] } m

/-- The receiver after the data of a chunk. The data of a type 3 chunk continue
an unfinished message, and every other chunk starts a message. -/
def Receiver.acceptData (r : Receiver) (csId : UInt32) (state : StreamState)
    (received : List UInt8) : Receiver :=
  if received.length = state.header.length.toNat then
    { r with streams := Function.update r.streams csId (some ⟨state, []⟩) }.deliver
      ⟨csId, state.header.typeId, state.header.streamId, received⟩
  else { r with streams := Function.update r.streams csId (some ⟨state, received⟩) }

/-- The bytes that the data of a chunk are added to. -/
def Receiver.unfinished (r : Receiver) (f : Fields) : List UInt8 :=
  match f.fmt with
  | .type3 => ((r.streams f.csId).map (·.received)).getD []
  | _ => []

/-- Read one chunk. -/
def Receiver.readChunk (r : Receiver) (input : List UInt8) : Option (Receiver × List UInt8) := do
  let (f, input) ← decodeHeader (fun id => (r.streams id).map (·.state)) input
  let state ← advance ((r.streams f.csId).map (·.state)) f
  let received := r.unfinished f
  let (data, rest) ← takeExact (min (state.header.length.toNat - received.length) r.chunkSize) input
  return (r.acceptData f.csId state (received ++ data), rest)

/-- Read chunks until the input is used up, with one unit of fuel for each. -/
def Receiver.receive : ℕ → Receiver → List UInt8 → Option Receiver
  | _, r, [] => some r
  | 0, _, _ :: _ => none
  | fuel + 1, r, b :: input =>
    match r.readChunk (b :: input) with
    | none => none
    | some (r, rest) => r.receive fuel rest

/-- The receiver after a whole byte stream, or none if the stream is not a
sequence of chunks. -/
def Receiver.receiveAll (r : Receiver) (input : List UInt8) : Option Receiver :=
  r.receive input.length input

/-! ### Decoding what the layout produces -/

private theorem code_div_64 (fmt : ChunkType) {n : ℕ} (hn : n < 64) :
    (fmt.code.toNat * 64 + n) / 64 = fmt.code.toNat ∧ (fmt.code.toNat * 64 + n) % 64 = n ∧
      (UInt8.ofNat (fmt.code.toNat * 64 + n)).toNat = fmt.code.toNat * 64 + n := by
  have hfmt : fmt.code.toNat ≤ 3 := by cases fmt <;> decide
  refine ⟨by omega, by omega, ?_⟩
  rw [UInt8.toNat_ofNat']
  omega

/-- The receiver finds the format and the id in each of the three forms. -/
theorem decodeBasicHeader_encode {f : Fields} (hf : f.WellFormed) (rest : List UInt8) :
    decodeBasicHeader (encodeBasicHeader f ++ rest) = some (f.fmt, f.csId, rest) := by
  obtain ⟨hlow, hhigh, -⟩ := hf
  have hfmt : (match f.fmt.code.toNat with
      | 0 => ChunkType.type0 | 1 => .type1 | 2 => .type2 | _ => .type3) = f.fmt := by
    cases f.fmt <;> rfl
  have hback : UInt32.ofNat f.csId.toNat = f.csId := UInt32.ofNat_toNat
  unfold encodeBasicHeader
  dsimp only
  split_ifs with hone htwo
  · obtain ⟨hdiv, hmod, hbyte⟩ := code_div_64 f.fmt hone
    simp only [List.cons_append, List.nil_append, decodeBasicHeader, hbyte, hdiv, hmod, hfmt]
    split
    · omega
    · omega
    · omega
    · omega
    · rw [hback]
  · obtain ⟨hdiv, hmod, hbyte⟩ := code_div_64 f.fmt (n := 0) (by omega)
    rw [Nat.add_zero] at hdiv hmod hbyte
    have hid : (UInt8.ofNat (f.csId.toNat - 64)).toNat + 64 = f.csId.toNat := by
      rw [UInt8.toNat_ofNat']
      omega
    simp only [List.cons_append, List.nil_append, decodeBasicHeader, hbyte, hdiv, hmod, hfmt, hid,
      hback]
  · obtain ⟨hdiv, hmod, hbyte⟩ := code_div_64 f.fmt (n := 1) (by omega)
    have hid : (UInt8.ofNat ((f.csId.toNat - 64) / 256)).toNat * 256 +
        (UInt8.ofNat ((f.csId.toNat - 64) % 256)).toNat + 64 = f.csId.toNat := by
      rw [UInt8.toNat_ofNat', UInt8.toNat_ofNat']
      omega
    simp only [List.cons_append, List.nil_append, decodeBasicHeader, hbyte, hdiv, hmod, hfmt, hid,
      hback]

/-- The time is found in the short field or in the extended one. -/
theorem decodeTime_encode {time field : UInt32} (hescape : field = 0xFFFFFF ↔ time ≥ 0xFFFFFF)
    (hfield : ¬ time ≥ 0xFFFFFF → field = time) (rest : List UInt8) :
    decodeTime field (encodeExtended (extendedField time) ++ rest) = some (time, rest) := by
  by_cases hext : time ≥ 0xFFFFFF
  · simp [decodeTime, hescape.mpr hext, encodeExtended, extendedField, hext, putBe32,
      getBe32_putBe32]
  · have hne : ¬ field = 0xFFFFFF := fun heq => hext (hescape.mp heq)
    rw [hfield hext] at hne ⊢
    simp [decodeTime, hne, encodeExtended, extendedField, hext]

/-- Decoding a header that was laid out for the receiver's chunk streams gives
fields with the same effect, and consumes exactly the header. -/
theorem decodeHeader_encode (streams : UInt32 → Option StreamState) {f : Fields}
    (hf : f.WellFormed) (rest : List UInt8) :
    ∃ f', decodeHeader streams (encodeHeader (streams f.csId) f ++ rest) = some (f', rest) ∧
      f'.fmt = f.fmt ∧ f'.csId = f.csId ∧
      advance (streams f.csId) f' = advance (streams f.csId) f := by
  have hbasic := decodeBasicHeader_encode hf (encodeMessageHeader (streams f.csId) f ++ rest)
  obtain ⟨t0, t1, t2, htime, hescape, hfield⟩ := getBe24_writeTimestamp f.time
  rw [← encodeTime_eq_write] at htime
  have hdecode := decodeTime_encode hescape hfield rest
  have hlength := getBe24_putBe24 hf.2.2
  rw [encodeHeader, List.append_assoc]
  cases hfmt : f.fmt with
  | type0 =>
    rw [hfmt] at hbasic
    refine ⟨⟨.type0, f.csId, f.time, f.length, f.typeId, f.streamId, false⟩, ?_, rfl, rfl, ?_⟩
    · unfold decodeHeader
      rw [hbasic]
      simp [encodeMessageHeader, hfmt, htime, putBe24, putLe32, hdecode, hlength, getLe32_putLe32]
    · simp [advance, hfmt]
  | type1 =>
    rw [hfmt] at hbasic
    refine ⟨⟨.type1, f.csId, f.time, f.length, f.typeId, 0, false⟩, ?_, rfl, rfl, ?_⟩
    · unfold decodeHeader
      rw [hbasic]
      simp [encodeMessageHeader, hfmt, htime, putBe24, hdecode, hlength]
    · simp [advance, hfmt]
  | type2 =>
    rw [hfmt] at hbasic
    refine ⟨⟨.type2, f.csId, f.time, 0, 0, 0, false⟩, ?_, rfl, rfl, ?_⟩
    · unfold decodeHeader
      rw [hbasic]
      simp [encodeMessageHeader, hfmt, htime, hdecode]
    · simp [advance, hfmt]
  | type3 =>
    rw [hfmt] at hbasic
    refine ⟨⟨.type3, f.csId, 0, 0, 0, 0, false⟩, ?_, rfl, rfl, by simp [advance, hfmt]⟩
    unfold decodeHeader
    rw [hbasic]
    cases hextended : (streams f.csId).bind (·.extended) with
    | none => simp [encodeMessageHeader, hfmt, hextended, encodeExtended]
    | some time =>
      simp [encodeMessageHeader, hfmt, hextended, encodeExtended, decodeTime, putBe32]

/-! ### Whole byte streams -/

private theorem decodeBasicHeader_length {fmt : ChunkType} {csId : UInt32}
    {input rest : List UInt8} (h : decodeBasicHeader input = some (fmt, csId, rest)) :
    rest.length < input.length := by
  unfold decodeBasicHeader at h
  split at h
  · cases h
  · dsimp only at h
    split at h <;> simp only [Option.some.injEq, Prod.mk.injEq, reduceCtorEq] at h <;>
      obtain ⟨-, -, rfl⟩ := h <;> simp only [List.length_cons] <;> omega

private theorem decodeTime_length {field time : UInt32} {input rest : List UInt8}
    (h : decodeTime field input = some (time, rest)) : rest.length ≤ input.length := by
  unfold decodeTime at h
  split_ifs at h
  · split at h
    · obtain ⟨-, rfl⟩ := Prod.mk.inj (Option.some.inj h)
      simp only [List.length_cons]
      omega
    · cases h
  · obtain ⟨-, rfl⟩ := Prod.mk.inj (Option.some.inj h)
    rfl

private theorem decodeTime_bind_length {field : UInt32} {input rest : List UInt8} {f : Fields}
    {k : UInt32 × List UInt8 → Option (Fields × List UInt8)}
    (hk : ∀ p, ∃ f, k p = some (f, p.2)) (h : decodeTime field input >>= k = some (f, rest)) :
    rest.length ≤ input.length := by
  obtain ⟨⟨time, left⟩, htime, hrest⟩ := Option.bind_eq_some_iff.mp h
  obtain ⟨f', hf'⟩ := hk (time, left)
  rw [hf'] at hrest
  obtain ⟨-, rfl⟩ := Prod.mk.inj (Option.some.inj hrest)
  exact decodeTime_length htime

/-- A header is at least one byte long. -/
theorem decodeHeader_length {streams : UInt32 → Option StreamState} {f : Fields}
    {input rest : List UInt8} (h : decodeHeader streams input = some (f, rest)) :
    rest.length < input.length := by
  unfold decodeHeader at h
  obtain ⟨⟨fmt, csId, left⟩, hbasic, h⟩ := Option.bind_eq_some_iff.mp h
  have hless := decodeBasicHeader_length hbasic
  dsimp only at h
  split at h
  · have := decodeTime_bind_length (fun p => ⟨_, rfl⟩) h
    simp only [List.length_cons] at hless
    omega
  · have := decodeTime_bind_length (fun p => ⟨_, rfl⟩) h
    simp only [List.length_cons] at hless
    omega
  · have := decodeTime_bind_length (fun p => ⟨_, rfl⟩) h
    simp only [List.length_cons] at hless
    omega
  · split at h
    · obtain ⟨-, rfl⟩ := Prod.mk.inj (Option.some.inj h)
      exact hless
    · have := decodeTime_bind_length (fun p => ⟨_, rfl⟩) h
      omega
  · cases h

/-- Reading a chunk consumes input. -/
theorem Receiver.readChunk_length {r r' : Receiver} {input rest : List UInt8}
    (h : r.readChunk input = some (r', rest)) : rest.length < input.length := by
  unfold Receiver.readChunk at h
  obtain ⟨⟨f, left⟩, hheader, h⟩ := Option.bind_eq_some_iff.mp h
  obtain ⟨state, -, h⟩ := Option.bind_eq_some_iff.mp h
  obtain ⟨⟨data, tail⟩, htake, h⟩ := Option.bind_eq_some_iff.mp h
  obtain ⟨-, rfl⟩ := Prod.mk.inj (Option.some.inj h)
  have hless := decodeHeader_length hheader
  obtain ⟨-, hsplit⟩ := takeExact_eq_some.mp htake
  rw [hsplit, List.length_append] at hless
  omega

/-- Fuel for every byte is enough, so more does not matter. -/
theorem Receiver.receive_of_le {n m : ℕ} {r : Receiver} {input : List UInt8}
    (hn : input.length ≤ n) (hm : input.length ≤ m) : r.receive n input = r.receive m input := by
  induction n generalizing m r input with
  | zero =>
    obtain rfl := List.length_eq_zero_iff.mp (Nat.le_zero.mp hn)
    cases m <;> rfl
  | succ n ih =>
    cases input with
    | nil => cases m <;> rfl
    | cons b input =>
      obtain ⟨m, rfl⟩ : ∃ k, m = k + 1 := ⟨m - 1, by simp only [List.length_cons] at hm; omega⟩
      rw [Receiver.receive, Receiver.receive]
      cases hread : r.readChunk (b :: input) with
      | none => rfl
      | some p =>
        obtain ⟨r', rest⟩ := p
        have hless := Receiver.readChunk_length hread
        exact ih (by omega) (by omega)

/-- A stream is received chunk by chunk. -/
theorem Receiver.receiveAll_of_readChunk {r r' : Receiver} {input rest : List UInt8}
    (h : r.readChunk input = some (r', rest)) : r.receiveAll input = r'.receiveAll rest := by
  have hless := Receiver.readChunk_length h
  cases input with
  | nil => cases hless
  | cons b input =>
    unfold Receiver.receiveAll
    rw [List.length_cons, Receiver.receive, h]
    simp only [List.length_cons] at hless
    exact Receiver.receive_of_le (by omega) le_rfl

@[simp] theorem Receiver.receiveAll_nil (r : Receiver) : r.receiveAll [] = some r := rfl

/-- A chunk that was laid out for the receiver's chunk streams, with as many
data bytes as the receiver expects, is read as a whole. -/
theorem Receiver.readChunk_encode (r : Receiver) {f : Fields} (hf : f.WellFormed)
    {state : StreamState} (hstate : advance ((r.streams f.csId).map (·.state)) f = some state)
    {data : List UInt8}
    (hdata : data.length =
      min (state.header.length.toNat - (r.unfinished f).length) r.chunkSize)
    (rest : List UInt8) :
    r.readChunk (encodeHeader ((r.streams f.csId).map (·.state)) f ++ (data ++ rest)) =
      some (r.acceptData f.csId state (r.unfinished f ++ data), rest) := by
  obtain ⟨f', hdecode, hfmt, hid, hadvance⟩ :=
    decodeHeader_encode (fun id => (r.streams id).map (·.state)) hf (data ++ rest)
  have hunfinished : r.unfinished f' = r.unfinished f := by
    unfold Receiver.unfinished
    rw [hfmt, hid]
  unfold Receiver.readChunk
  rw [hdecode]
  simp only [Option.bind_eq_bind, Option.bind_some, hid, hadvance, hstate, hunfinished,
    takeExact_append hdata]
  rfl

/-- Delivering a message appends it. -/
@[simp] theorem Receiver.deliver_messages (r : Receiver) (m : ReceivedMessage) :
    (r.deliver m).messages = r.messages ++ [m] := by
  unfold Receiver.deliver Receiver.control
  split <;> rfl

/-- Only a Set Chunk Size message changes the chunk size. -/
theorem Receiver.deliver_chunkSize {r : Receiver} {m : ReceivedMessage} (h : m.typeId ≠ 1) :
    (r.deliver m).chunkSize = r.chunkSize := by
  have hne : m.typeId.toNat ≠ 1 := fun heq => h (UInt8.toNat_inj.mp heq)
  unfold Receiver.deliver Receiver.control
  split
  · exact absurd ‹_› hne
  · rfl
  · rfl

end Rtmp.ChunkStream
