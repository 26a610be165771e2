import Strero.RtmpClient.Writer

/-!
# Timestamps of the client's messages

`rtmp_client_send_chunked_message` writes the low three bytes of a timestamp,
and no extended field. Up to 0xFFFFFE that is the layout of the protocol.
Beyond, a receiver takes the low 24 bits for the timestamp, unless they are all
ones: then it takes four bytes of data for the extended field, and the message
is four bytes short.
-/

namespace Rtmp.ChunkStream

open Wire

/-! ### What a message takes on the wire -/

/-- The bytes of a message in chunks whose headers take one byte. -/
def chunkedLength (chunkSize n : ℕ) : ℕ := n + (n + chunkSize - 1) / chunkSize

@[simp] theorem chunkedLength_zero (chunkSize : ℕ) : chunkedLength chunkSize 0 = 0 := by
  rcases Nat.eq_zero_or_pos chunkSize with rfl | hpos
  · rfl
  · rw [chunkedLength, Nat.zero_add, Nat.zero_add, Nat.div_eq_of_lt (by omega)]

/-- A longer message takes at least as much. -/
theorem chunkedLength_mono (chunkSize : ℕ) {n m : ℕ} (h : n ≤ m) :
    chunkedLength chunkSize n ≤ chunkedLength chunkSize m := by
  have hdiv : (n + chunkSize - 1) / chunkSize ≤ (m + chunkSize - 1) / chunkSize :=
    Nat.div_le_div_right (by omega)
  unfold chunkedLength
  omega

/-- A chunk takes a header byte and its data off the message. -/
theorem chunkedLength_le_chunk {chunkSize size : ℕ} (hsize : size ≤ chunkSize) (n : ℕ) :
    chunkedLength chunkSize n ≤ 1 + size + chunkedLength chunkSize (n - size) := by
  rcases Nat.eq_zero_or_pos chunkSize with rfl | hpos
  · simp only [chunkedLength, Nat.div_zero]
    omega
  · have hdiv : (n + chunkSize - 1) / chunkSize ≤
        (n - size + chunkSize - 1 + chunkSize) / chunkSize :=
      Nat.div_le_div_right (by omega)
    rw [Nat.add_div_right _ hpos] at hdiv
    unfold chunkedLength
    omega

/-- A chunk that is as full as it can be takes exactly this much. -/
theorem chunkedLength_chunk {chunkSize n : ℕ} (hpos : 1 ≤ chunkSize) (hn : 1 ≤ n) :
    1 + min n chunkSize + chunkedLength chunkSize (n - min n chunkSize) =
      chunkedLength chunkSize n := by
  by_cases hlast : n ≤ chunkSize
  · have hone : (n + chunkSize - 1) / chunkSize = 1 :=
      Nat.div_eq_of_lt_le (by omega) (by omega)
    rw [Nat.min_eq_left hlast, Nat.sub_self, chunkedLength_zero, chunkedLength, hone]
    omega
  · have hnext : n + chunkSize - 1 = n - chunkSize + chunkSize - 1 + chunkSize := by omega
    rw [Nat.min_eq_right (by omega), chunkedLength, chunkedLength, hnext,
      Nat.add_div_right _ (by omega)]
    omega

/-- How much of a message has arrived on a chunk stream. -/
def Receiver.pending (r : Receiver) (csId : UInt32) : ℕ :=
  ((r.streams csId).map (·.received.length)).getD 0

/-- What the data of a chunk are added to is at most what has arrived. -/
theorem Receiver.unfinished_length_le (r : Receiver) (f : Fields) :
    (r.unfinished f).length ≤ r.pending f.csId := by
  unfold Receiver.unfinished Receiver.pending
  split
  · cases r.streams f.csId <;> rfl
  · exact Nat.zero_le _

/-- Reading a chunk, taken apart. -/
theorem Receiver.readChunk_eq_some {r r' : Receiver} {input rest : List UInt8}
    (h : r.readChunk input = some (r', rest)) :
    ∃ f left state data,
      decodeHeader (fun id => (r.streams id).map (·.state)) input = some (f, left) ∧
      advance ((r.streams f.csId).map (·.state)) f = some state ∧
      data.length = min (state.header.length.toNat - (r.unfinished f).length) r.chunkSize ∧
      left = data ++ rest ∧ r' = r.acceptData f.csId state (r.unfinished f ++ data) := by
  unfold Receiver.readChunk at h
  obtain ⟨⟨f, left⟩, hheader, h⟩ := Option.bind_eq_some_iff.mp h
  obtain ⟨state, hstate, h⟩ := Option.bind_eq_some_iff.mp h
  obtain ⟨⟨data, tail⟩, htake, h⟩ := Option.bind_eq_some_iff.mp h
  obtain ⟨rfl, rfl⟩ := Prod.mk.inj (Option.some.inj h)
  obtain ⟨hdata, hleft⟩ := takeExact_eq_some.mp htake
  exact ⟨f, left, state, data, hheader, hstate, hdata, hleft, rfl⟩

/-- The data of a chunk either complete a message or wait for more. -/
theorem Receiver.acceptData_cases (r : Receiver) (csId : UInt32) (state : StreamState)
    (received : List UInt8) :
    (received.length = state.header.length.toNat ∧
      (r.acceptData csId state received).messages =
        r.messages ++ [⟨csId, state.header.typeId, state.header.streamId, received⟩]) ∨
    (received.length ≠ state.header.length.toNat ∧
      (r.acceptData csId state received).messages = r.messages ∧
      (r.acceptData csId state received).chunkSize = r.chunkSize ∧
      (r.acceptData csId state received).pending csId = received.length ∧
      ∀ id, id ≠ csId → (r.acceptData csId state received).pending id = r.pending id) := by
  unfold Receiver.acceptData
  split_ifs with hlength
  · exact .inl ⟨hlength, by rw [Receiver.deliver_messages]⟩
  · refine .inr ⟨hlength, rfl, rfl, by simp [Receiver.pending], fun id hid => ?_⟩
    simp [Receiver.pending, Function.update_of_ne hid]

/-- What holds of a receiver at the end of a stream, and is carried back over every chunk that is
read, holds at the begin of the stream. -/
theorem Receiver.receive_induction {r' : Receiver} {motive : Receiver → List UInt8 → Prop}
    (hend : motive r' [])
    (hchunk : ∀ (r : Receiver) (input rest data : List UInt8) (f : Fields) (state : StreamState)
      (fuel : ℕ), 1 + data.length + rest.length ≤ input.length → data.length ≤ r.chunkSize →
        (r.acceptData f.csId state (r.unfinished f ++ data)).receive fuel rest = some r' →
          motive (r.acceptData f.csId state (r.unfinished f ++ data)) rest → motive r input)
    {fuel : ℕ} {r : Receiver} {input : List UInt8} (h : r.receive fuel input = some r') :
    motive r input := by
  induction fuel generalizing r input with
  | zero =>
    cases input with
    | nil => exact Option.some.inj h ▸ hend
    | cons b input => cases h
  | succ fuel ih =>
    cases input with
    | nil => exact Option.some.inj h ▸ hend
    | cons b input =>
      rw [Receiver.receive] at h
      cases hread : r.readChunk (b :: input) with
      | none =>
        rw [hread] at h
        cases h
      | some p =>
        obtain ⟨next, rest⟩ := p
        rw [hread] at h
        obtain ⟨f, left, state, data, hheader, -, hdata, hleft, rfl⟩ :=
          Receiver.readChunk_eq_some hread
        have hless := decodeHeader_length hheader
        rw [hleft, List.length_append] at hless
        exact hchunk r (b :: input) rest data f state fuel (by omega) (by omega) h (ih h)

/-- A receiver only adds to its messages. -/
theorem Receiver.receive_messages {fuel : ℕ} {r r' : Receiver} {input : List UInt8}
    (h : r.receive fuel input = some r') : ∃ more, r'.messages = r.messages ++ more := by
  refine Receiver.receive_induction (motive := fun r _ => ∃ more, r'.messages = r.messages ++ more)
    ⟨[], (List.append_nil _).symm⟩ ?_ h
  rintro r input rest data f state fuel - - - ⟨more, hmore⟩
  rcases r.acceptData_cases f.csId state (r.unfinished f ++ data) with
    ⟨-, hmessages⟩ | ⟨-, hmessages, -⟩
  · exact ⟨_, by rw [hmore, hmessages, List.append_assoc]⟩
  · exact ⟨more, by rw [hmore, hmessages]⟩

/-- A receiver cannot hand on a message before its remaining bytes have come,
with a header byte for each of their chunks. -/
theorem Receiver.chunkedLength_le_receive {fuel : ℕ} {r r' : Receiver} {input : List UInt8}
    {m : ReceivedMessage} {more : List ReceivedMessage} (h : r.receive fuel input = some r')
    (hmessages : r'.messages = r.messages ++ m :: more) :
    chunkedLength r.chunkSize (m.payload.length - r.pending m.csId) ≤ input.length := by
  refine Receiver.receive_induction (motive := fun r input =>
    r'.messages = r.messages ++ m :: more →
      chunkedLength r.chunkSize (m.payload.length - r.pending m.csId) ≤ input.length)
    (fun hnone => ?_) ?_ h hmessages
  · cases List.self_eq_append_right.mp hnone
  intro r input rest data f state fuel hless hsize hreceive ih hmessages
  have hpending := r.unfinished_length_le f
  have hchunk := chunkedLength_le_chunk hsize (m.payload.length - r.pending m.csId)
  rcases r.acceptData_cases f.csId state (r.unfinished f ++ data) with
    ⟨-, hnew⟩ | ⟨-, hnew, hsame, hhere, hother⟩
  · -- The first message handed on is the one in question.
    obtain ⟨later, hlater⟩ := Receiver.receive_messages hreceive
    rw [hnew, List.append_assoc, hmessages] at hlater
    obtain ⟨rfl, -⟩ := List.cons.inj (List.append_cancel_left hlater)
    simp only [List.length_append] at hchunk ⊢
    have hnone : (r.unfinished f).length + data.length - r.pending f.csId - data.length = 0 := by
      omega
    rw [hnone, chunkedLength_zero] at hchunk
    omega
  · have hrest := ih (hmessages.trans (by rw [hnew]))
    rw [hsame] at hrest
    by_cases hid : m.csId = f.csId
    · rw [hid, hhere, List.length_append] at hrest
      rw [hid] at hchunk ⊢
      have hmono := chunkedLength_mono r.chunkSize
        (show m.payload.length - r.pending f.csId - data.length ≤
          m.payload.length - ((r.unfinished f).length + data.length) by omega)
      omega
    · rw [hother m.csId hid] at hrest
      omega

/-- Protocol control leaves the headers of the chunk streams. -/
theorem Receiver.deliver_state (r : Receiver) (m : ReceivedMessage) (id : UInt32) :
    ((r.deliver m).streams id).map (·.state) = (r.streams id).map (·.state) := by
  unfold Receiver.deliver Receiver.control
  dsimp only
  split
  · rfl
  · rename_i b0 b1 b2 b3 _ _ _
    by_cases hid : id = getBe32 b0 b1 b2 b3
    · rw [hid]
      simp [Function.update_self, Option.map_map, Function.comp_def]
    · simp only [Function.update_of_ne hid]
  · rfl

end Rtmp.ChunkStream

namespace RtmpClient

open Wire Rtmp Rtmp.ChunkStream

/-! ### Messages of every timestamp -/

/-- The message can be sent in chunks: the id is one that the loop takes, and
the length is one that the header can hold. -/
structure ClientMessage.Sendable (m : ClientMessage) : Prop where
  id_low : 2 ≤ m.chunkStreamId.toNat
  id_high : m.chunkStreamId.toNat ≤ 63
  data_ne_nil : m.data ≠ []
  data_lt : m.data.length < 2 ^ 24

/-- The header that a receiver should see. -/
def ClientMessage.expectedHeader (m : ClientMessage) : Header :=
  ⟨m.timestamp, UInt32.ofNat m.data.length, m.messageType, m.streamId⟩

/-- The receiver reads the bytes as chunks, hands on exactly the message, and
has its timestamp, length, type and stream id on the chunk stream. -/
def ClientMessage.RecoveredFrom (m : ClientMessage) (bytes : List UInt8) (r : Receiver) : Prop :=
  ∃ r', r.receiveAll bytes = some r' ∧ r'.messages = r.messages ++ [m.toReceived] ∧
    (r'.streams m.chunkStreamId.toUInt32).map (·.state.header) = some m.expectedHeader

/-- The bytes that `rtmp_client_send_chunked_message` sends for a message. -/
def ClientMessage.chunks (m : ClientMessage) (chunkSizeOut : UInt32) : Option (List UInt8) :=
  rtmpClientSendChunkedMessage chunkSizeOut m.streamId m.chunkStreamId m.messageType m.timestamp
    m.data

/-- Unless the timestamp looks escaped, the receiver sees its low 24 bits. -/
theorem ClientMessage.Sendable.encodable {m : ClientMessage} (hm : m.Sendable)
    (htime : m.timestamp.toNat % 2 ^ 24 ≠ 0xFFFFFF) : m.Encodable :=
  ⟨hm.id_low, hm.id_high, hm.data_ne_nil, hm.data_lt, htime⟩

/-- A message with an ordinary timestamp field is recovered when the timestamp
fits the field. -/
theorem ClientMessage.Encodable.recovered_iff_lt {m : ClientMessage} (hm : m.Encodable)
    {chunkSizeOut : UInt32} (hpos : 1 ≤ chunkSizeOut.toNat) {r : Receiver}
    (hsame : r.chunkSize = chunkSizeOut.toNat) :
    (∃ bytes, m.chunks chunkSizeOut = some bytes ∧ m.RecoveredFrom bytes r) ↔
      m.timestamp.toNat < 2 ^ 24 := by
  obtain ⟨bytes, streams, hsend, hstate, hreceive⟩ :=
    receiveAll_sendChunkedMessage_state hm hpos (.inl hsame.symm)
  have hall := hreceive []
  rw [List.append_nil, Receiver.receiveAll_nil] at hall
  have hstream := Receiver.deliver_state { r with streams } m.toReceived m.chunkStreamId.toUInt32
  have hheader : (((Receiver.deliver { r with streams } m.toReceived).streams
      m.chunkStreamId.toUInt32).map (·.state.header)) = some m.state.header := by
    have := congrArg (Option.map StreamState.header) hstream
    simpa only [Option.map_map, Function.comp_def, hstate, Option.map_some] using this
  constructor
  · rintro ⟨bytes', hsend', r', hread, -, hexpected⟩
    obtain rfl := Option.some.inj (hsend.symm.trans hsend')
    obtain rfl := Option.some.inj (hall.symm.trans hread)
    rw [hheader] at hexpected
    have htime : UInt32.ofNat (m.timestamp.toNat % 2 ^ 24) = m.timestamp :=
      congrArg Header.timestamp (Option.some.inj hexpected)
    rw [← htime, UInt32.toNat_ofNat']
    omega
  · intro hlt
    refine ⟨bytes, hsend, _, hall, Receiver.deliver_messages _ _, hheader.trans ?_⟩
    rw [ClientMessage.state, Nat.mod_eq_of_lt hlt, UInt32.ofNat_toNat]
    rfl

/-! ### Timestamps that look escaped -/

/-- The loop sends the header, and a header byte with each chunk. -/
theorem sendChunks_length {chunkSize : ℕ} (hpos : 1 ≤ chunkSize) {chunkStreamId : UInt8}
    {header : List UInt8} {fuel : ℕ} {firstChunk : Bool} {data bytes : List UInt8}
    (h : sendChunks chunkSize chunkStreamId header fuel firstChunk data = some bytes) :
    bytes.length ≤ (if firstChunk then header.length else 0) +
      chunkedLength chunkSize data.length := by
  induction fuel generalizing firstChunk data bytes with
  | zero =>
    cases data with
    | nil => simp [← Option.some.inj h]
    | cons b data => cases h
  | succ fuel ih =>
    by_cases hdata : data = []
    · subst hdata
      simp [← Option.some.inj h]
    · rw [sendChunks_turn _ _ _ _ _ hdata] at h
      obtain ⟨rest, hrest, rfl⟩ := Option.map_eq_some_iff.mp h
      have hlength := ih hrest
      have hchunk := chunkedLength_chunk hpos (List.length_pos_iff.mpr hdata)
      rw [List.length_drop, if_neg Bool.false_ne_true] at hlength
      have htake : (data.take (min data.length chunkSize)).length = min data.length chunkSize := by
        rw [List.length_take]
        omega
      simp only [List.length_append, List.length_cons, htake]
      cases firstChunk <;> simp only [if_true, Bool.false_eq_true, if_false, List.length_nil] <;>
        omega

/-- A receiver that reads the header of a message whose timestamp looks
escaped takes four bytes of data for the extended field. -/
theorem decodeHeader_escaped {m : ClientMessage} (hm : m.Sendable)
    (htime : m.timestamp.toNat % 2 ^ 24 = 0xFFFFFF) {streams : UInt32 → Option StreamState}
    {tail left : List UInt8} {f : Fields}
    (h : decodeHeader streams
      ((ChunkType.type0.code <<< 6 ||| m.chunkStreamId) :: m.header ++ tail) = some (f, left)) :
    f.fmt = .type0 ∧ f.csId = m.chunkStreamId.toUInt32 ∧
      f.length = UInt32.ofNat m.data.length ∧ left.length + 4 ≤ tail.length := by
  have hbasic := decodeBasicHeader_encode
    (headerFields_wellFormed .type0 m.messageType m.timestamp m.streamId hm.id_low hm.id_high
      hm.data_lt) (m.header ++ tail)
  rw [encodeBasicHeader_headerFields _ _ _ _ _ hm.id_high] at hbasic
  have hescape : putBe24 m.timestamp = [0xFF, 0xFF, 0xFF] := by
    rw [putBe24_congr (y := 0xFFFFFF) htime]
    rfl
  have hbytes : m.header ++ tail = 0xFF :: 0xFF :: 0xFF ::
      (putBe24 (UInt32.ofNat m.data.length) ++
        ([m.messageType] ++ (putLe32 m.streamId ++ tail))) := by
    simp [ClientMessage.header, messageHeader, hescape]
  have hones : getBe24 0xFF 0xFF 0xFF = 0xFFFFFF := by decide
  have hlength : (UInt32.ofNat m.data.length).toNat < 2 ^ 24 := by
    have := hm.data_lt
    rw [UInt32.toNat_ofNat']
    omega
  have hlow := getBe24_putBe24 hlength
  unfold decodeHeader at h
  rw [List.cons_append, ← List.singleton_append, hbasic] at h
  simp only [headerFields, hbytes, putBe24, putLe32, List.cons_append, List.nil_append,
    Option.bind_eq_bind, Option.bind_some, hones, hlow] at h
  obtain ⟨⟨time, rest⟩, hfield, h⟩ := Option.bind_eq_some_iff.mp h
  obtain ⟨rfl, rfl⟩ := Prod.mk.inj (Option.some.inj h)
  refine ⟨rfl, rfl, rfl, ?_⟩
  unfold decodeTime at hfield
  rw [if_pos rfl] at hfield
  split at hfield
  · obtain ⟨-, rfl⟩ := Prod.mk.inj (Option.some.inj hfield)
    exact le_rfl
  · cases hfield

/-- A receiver that hands on a message whose timestamp looks escaped has read
four bytes more than the data and the headers of its chunks. -/
theorem chunkedLength_le_escaped {m : ClientMessage} (hm : m.Sendable)
    (htime : m.timestamp.toNat % 2 ^ 24 = 0xFFFFFF) {r r' : Receiver} {tail : List UInt8}
    (h : r.receiveAll ((ChunkType.type0.code <<< 6 ||| m.chunkStreamId) :: m.header ++ tail) =
      some r')
    (hmessages : r'.messages = r.messages ++ [m.toReceived]) :
    chunkedLength r.chunkSize m.data.length + 3 ≤ tail.length := by
  obtain ⟨input, hinput⟩ : ∃ input, input =
    (ChunkType.type0.code <<< 6 ||| m.chunkStreamId) :: m.header ++ tail := ⟨_, rfl⟩
  rw [← hinput] at h
  cases hread : r.readChunk input with
  | none =>
    rw [hinput, List.cons_append] at h hread
    rw [Receiver.receiveAll, List.length_cons, Receiver.receive, hread] at h
    cases h
  | some p =>
    obtain ⟨r₁, rest⟩ := p
    rw [Receiver.receiveAll_of_readChunk hread] at h
    obtain ⟨f, left, state, data, hheader, hstate, hsize, hleft, rfl⟩ :=
      Receiver.readChunk_eq_some hread
    rw [hinput] at hheader
    obtain ⟨hfmt, hid, hlength, hshort⟩ := decodeHeader_escaped hm htime hheader
    have hnew : r.unfinished f = [] := by
      unfold Receiver.unfinished
      rw [hfmt]
    rw [hleft, List.length_append] at hshort
    rw [hnew, List.nil_append] at h
    have hchunk := chunkedLength_le_chunk (show data.length ≤ r.chunkSize by omega) m.data.length
    rcases r.acceptData_cases f.csId state data with
      ⟨-, hdone⟩ | ⟨-, hdone, hsame, hhere, -⟩
    · -- The first chunk completes the message, so that its data are all of it.
      obtain ⟨more, hmore⟩ := Receiver.receive_messages h
      rw [hdone, List.append_assoc, hmessages] at hmore
      obtain ⟨hfirst, -⟩ := List.cons.inj (List.append_cancel_left hmore)
      have hall : m.data = data := congrArg ReceivedMessage.payload hfirst
      rw [hall, Nat.sub_self, chunkedLength_zero] at hchunk
      rw [hall]
      omega
    · have hrest := Receiver.chunkedLength_le_receive h (hmessages.trans (by rw [hdone]))
      have hcsId : m.toReceived.csId = f.csId := hid.symm
      rw [hsame, hcsId, hhere] at hrest
      change chunkedLength r.chunkSize (m.data.length - data.length) ≤ rest.length at hrest
      omega

/-- A message whose timestamp looks escaped is not recovered. -/
theorem ClientMessage.Sendable.not_recovered {m : ClientMessage} (hm : m.Sendable)
    (htime : m.timestamp.toNat % 2 ^ 24 = 0xFFFFFF) {chunkSizeOut : UInt32}
    (hpos : 1 ≤ chunkSizeOut.toNat) {r : Receiver} (hsame : r.chunkSize = chunkSizeOut.toNat) :
    ¬ ∃ bytes, m.chunks chunkSizeOut = some bytes ∧ m.RecoveredFrom bytes r := by
  rintro ⟨bytes, hsend, r', hread, hmessages, -⟩
  unfold ClientMessage.chunks rtmpClientSendChunkedMessage at hsend
  split_ifs at hsend with hdata
  change sendChunks _ _ m.header m.data.length _ _ = _ at hsend
  have hlength := sendChunks_length hpos hsend
  obtain ⟨fuel, hfuel⟩ := Nat.exists_eq_succ_of_ne_zero (mt List.length_eq_zero_iff.mp hdata)
  rw [hfuel, sendChunks_turn _ _ _ _ _ hdata] at hsend
  obtain ⟨later, -, rfl⟩ := Option.map_eq_some_iff.mp hsend
  have hlonger := chunkedLength_le_escaped hm htime hread hmessages
  rw [hsame] at hlonger
  simp only [if_true, List.length_append, List.length_cons] at hlength hlonger
  omega

/-- A receiver with the client's chunk size recovers a message, with its
timestamp, exactly when the timestamp is below 0xFFFFFF. -/
theorem sendChunkedMessage_recovered_iff {m : ClientMessage} (hm : m.Sendable)
    {chunkSizeOut : UInt32} (hpos : 1 ≤ chunkSizeOut.toNat) {r : Receiver}
    (hsame : r.chunkSize = chunkSizeOut.toNat) :
    (∃ bytes, m.chunks chunkSizeOut = some bytes ∧ m.RecoveredFrom bytes r) ↔
      m.timestamp.toNat < 0xFFFFFF := by
  by_cases hescaped : m.timestamp.toNat % 2 ^ 24 = 0xFFFFFF
  · refine iff_of_false (hm.not_recovered hescaped hpos hsame) ?_
    omega
  · rw [(hm.encodable hescaped).recovered_iff_lt hpos hsame]
    omega

/-- Two hundred bytes of video in two chunks, after a second. -/
def earlyVideo : ClientMessage := ⟨6, 9, 1000, 1, List.replicate 200 0x27⟩

theorem earlyVideo_sendable : earlyVideo.Sendable :=
  ⟨by decide, by decide, by decide, by rw [earlyVideo, List.length_replicate]; omega⟩

theorem sendChunkedMessage_recovered_earlyVideo :
    (∃ bytes, earlyVideo.chunks 128 = some bytes ∧
      earlyVideo.RecoveredFrom bytes Receiver.initial) ↔ earlyVideo.timestamp.toNat < 0xFFFFFF :=
  sendChunkedMessage_recovered_iff earlyVideo_sendable (by decide) rfl

/-- The same after four hours and forty minutes, at timestamp 0x1000000. -/
def lateVideo : ClientMessage := { earlyVideo with timestamp := 0x1000000 }

theorem lateVideo_sendable : lateVideo.Sendable :=
  ⟨by decide, by decide, by decide, earlyVideo_sendable.data_lt⟩

/-- Its receiver sees the timestamp 0. -/
theorem not_sendChunkedMessage_recovered_lateVideo :
    ¬ ∀ (m : ClientMessage) (chunkSizeOut : UInt32) (r : Receiver), m.Sendable →
      1 ≤ chunkSizeOut.toNat → r.chunkSize = chunkSizeOut.toNat →
        ∃ bytes, m.chunks chunkSizeOut = some bytes ∧ m.RecoveredFrom bytes r := by
  intro hall
  have hrecovered := hall lateVideo 128 Receiver.initial lateVideo_sendable (by decide) rfl
  rw [(lateVideo_sendable.encodable (by decide)).recovered_iff_lt (by decide) rfl] at hrecovered
  exact absurd hrecovered (by decide)

end RtmpClient
