import Strero.Rtmp.Receiver

/-!
# The two writers of the RTMP client

`rtmp_client_write_chunk` sends a command as one chunk of type 0, whatever its
length, and `rtmp_client_send_chunked_message` splits a message at the client's
outgoing chunk size. Here is what a receiver of the protocol makes of the bytes
of each.
-/

namespace RtmpClient

open Wire Rtmp Rtmp.ChunkStream

/-- The eleven bytes of a type 0 message header. The three timestamp bytes are
the low ones of the timestamp. -/
def messageHeader (timestamp dataSize : UInt32) (messageType : UInt8) (streamId : UInt32) :
    List UInt8 :=
  putBe24 timestamp ++ putBe24 dataSize ++ [messageType] ++ putLe32 streamId

/-- `rtmp_client_write_chunk`. -/
def rtmpClientWriteChunk (chunkStreamId messageType : UInt8) (messageStreamId : UInt32)
    (data : List UInt8) : List UInt8 :=
  (ChunkType.type0.code <<< 6 ||| chunkStreamId) ::
    messageHeader 0 (UInt32.ofNat data.length) messageType messageStreamId ++ data

/-- The loop of `rtmp_client_send_chunked_message` over the data not yet sent.
There is no result when the fuel runs out first. -/
def sendChunks (chunkSize : ℕ) (chunkStreamId : UInt8) (header : List UInt8) :
    ℕ → Bool → List UInt8 → Option (List UInt8)
  | _, _, [] => some []
  | 0, _, _ :: _ => none
  | fuel + 1, firstChunk, b :: bytes =>
    let data := b :: bytes
    let size := if data.length > chunkSize then chunkSize else data.length
    let fmt := if firstChunk then ChunkType.type0 else .type3
    (sendChunks chunkSize chunkStreamId header fuel false (data.drop size)).map fun rest =>
      (fmt.code <<< 6 ||| chunkStreamId) :: (if firstChunk then header else []) ++
        (data.take size ++ rest)

/-- `rtmp_client_send_chunked_message`: the bytes it sends when every send
succeeds, or none when it returns -1. -/
def rtmpClientSendChunkedMessage (chunkSizeOut streamId : UInt32)
    (chunkStreamId messageType : UInt8)
    (timestamp : UInt32) (data : List UInt8) : Option (List UInt8) :=
  if data = [] then none
  else if chunkStreamId < 2 ∨ chunkStreamId > 63 then none
  else
    sendChunks chunkSizeOut.toNat chunkStreamId
      (messageHeader timestamp (UInt32.ofNat data.length) messageType streamId) data.length true
      data

/-! ### The writers' headers in the layout of the protocol -/

/-- The header fields of a client message. -/
def headerFields (fmt : ChunkType) (chunkStreamId messageType : UInt8)
    (timestamp streamId : UInt32) (length : ℕ) : Fields :=
  ⟨fmt, chunkStreamId.toUInt32, UInt32.ofNat (timestamp.toNat % 2 ^ 24), UInt32.ofNat length,
    messageType, streamId, false⟩

theorem headerFields_wellFormed (fmt : ChunkType) {chunkStreamId : UInt8} (messageType : UInt8)
    (timestamp streamId : UInt32) {length : ℕ} (hlow : 2 ≤ chunkStreamId.toNat)
    (hhigh : chunkStreamId.toNat ≤ 63) (hlength : length < 2 ^ 24) :
    (headerFields fmt chunkStreamId messageType timestamp streamId length).WellFormed := by
  refine ⟨?_, ?_, ?_⟩
  · rw [headerFields, UInt8.toNat_toUInt32]
    exact hlow
  · rw [headerFields, UInt8.toNat_toUInt32]
    omega
  · rw [headerFields, UInt32.toNat_ofNat']
    omega

/-- The client's basic header is the one-byte form. -/
theorem encodeBasicHeader_headerFields (fmt : ChunkType) {chunkStreamId : UInt8}
    (messageType : UInt8) (timestamp streamId : UInt32) (length : ℕ)
    (hhigh : chunkStreamId.toNat ≤ 63) :
    encodeBasicHeader (headerFields fmt chunkStreamId messageType timestamp streamId length) =
      [fmt.code <<< 6 ||| chunkStreamId] := by
  unfold encodeBasicHeader headerFields
  dsimp only
  rw [UInt8.toNat_toUInt32, if_pos (by omega), basicHeader_ofNat fmt (by omega)]
  rw [UInt8.ofNat_toNat]

private theorem putBe24_mod (x : UInt32) :
    putBe24 (UInt32.ofNat (x.toNat % 2 ^ 24)) = putBe24 x := by
  apply putBe24_congr
  rw [UInt32.toNat_ofNat']
  omega

/-- A timestamp whose low 24 bits are not all ones needs no extended field. -/
theorem not_escaped_of_mod {timestamp : UInt32} (h : timestamp.toNat % 2 ^ 24 ≠ 0xFFFFFF) :
    ¬ UInt32.ofNat (timestamp.toNat % 2 ^ 24) ≥ 0xFFFFFF := by
  rw [ge_iff_le, UInt32.le_iff_toNat_le, UInt32.toNat_ofNat']
  simp only [UInt32.reduceToNat]
  omega

/-- The header of the first chunk, unless its timestamp looks escaped. -/
theorem encodeHeader_first (prev : Option StreamState) {chunkStreamId : UInt8} (messageType : UInt8)
    {timestamp : UInt32} (streamId : UInt32) (length : ℕ) (hhigh : chunkStreamId.toNat ≤ 63)
    (htime : timestamp.toNat % 2 ^ 24 ≠ 0xFFFFFF) :
    encodeHeader prev (headerFields .type0 chunkStreamId messageType timestamp streamId length) =
      (ChunkType.type0.code <<< 6 ||| chunkStreamId) ::
        messageHeader timestamp (UInt32.ofNat length) messageType streamId := by
  have hnot := not_escaped_of_mod htime
  have hshort : encodeTime (UInt32.ofNat (timestamp.toNat % 2 ^ 24)) = putBe24 timestamp := by
    rw [encodeTime, if_neg hnot, putBe24_mod]
  have hfield : extendedField (UInt32.ofNat (timestamp.toNat % 2 ^ 24)) = none := if_neg hnot
  rw [encodeHeader, encodeBasicHeader_headerFields _ _ _ _ _ hhigh]
  simp only [encodeMessageHeader, headerFields, hshort, hfield, encodeExtended, Option.elim_none,
    List.append_nil, messageHeader, List.cons_append, List.nil_append]

/-- The header of a later chunk, on a chunk stream without extended field. -/
theorem encodeHeader_later {prev : Option StreamState} (hprev : prev.bind (·.extended) = none)
    {chunkStreamId : UInt8} (messageType : UInt8) (timestamp streamId : UInt32) (length : ℕ)
    (hhigh : chunkStreamId.toNat ≤ 63) :
    encodeHeader prev (headerFields .type3 chunkStreamId messageType timestamp streamId length) =
      [ChunkType.type3.code <<< 6 ||| chunkStreamId] := by
  rw [encodeHeader, encodeBasicHeader_headerFields _ _ _ _ _ hhigh]
  simp [encodeMessageHeader, headerFields, hprev, encodeExtended]

/-! ### What a receiver makes of the bytes -/

/-- A message as the client passes it to one of the writers. -/
structure ClientMessage where
  chunkStreamId : UInt8
  messageType : UInt8
  timestamp : UInt32
  streamId : UInt32
  data : List UInt8
deriving DecidableEq, Repr

/-- The message that a receiver should hand on. -/
def ClientMessage.toReceived (m : ClientMessage) : ReceivedMessage :=
  ⟨m.chunkStreamId.toUInt32, m.messageType, m.streamId, m.data⟩

/-- The message can be carried by a type 0 header of the client: the id fits
its one-byte form, the length its 24 bits, and the timestamp bytes do not
announce an extended timestamp. -/
structure ClientMessage.Encodable (m : ClientMessage) : Prop where
  id_low : 2 ≤ m.chunkStreamId.toNat
  id_high : m.chunkStreamId.toNat ≤ 63
  data_ne_nil : m.data ≠ []
  data_lt : m.data.length < 2 ^ 24
  time_short : m.timestamp.toNat % 2 ^ 24 ≠ 0xFFFFFF

/-- The header fields of the chunks of a message. -/
def ClientMessage.fields (m : ClientMessage) (firstChunk : Bool) : Fields :=
  headerFields (if firstChunk then .type0 else .type3) m.chunkStreamId m.messageType m.timestamp
    m.streamId m.data.length

/-- The state of the chunk stream while a message is on its way. -/
def ClientMessage.state (m : ClientMessage) : StreamState :=
  ⟨⟨UInt32.ofNat (m.timestamp.toNat % 2 ^ 24), UInt32.ofNat m.data.length, m.messageType,
    m.streamId⟩, none⟩

/-- The header bytes that the client puts before the data of a chunk. -/
def ClientMessage.header (m : ClientMessage) : List UInt8 :=
  messageHeader m.timestamp (UInt32.ofNat m.data.length) m.messageType m.streamId

/-- The receiver is ready for the next chunk of a message: either the message
has not begun, or the given bytes of it are there. -/
def Awaits (r : Receiver) (m : ClientMessage) (firstChunk : Bool) (received : List UInt8) : Prop :=
  if firstChunk then received = []
  else r.streams m.chunkStreamId.toUInt32 = some ⟨m.state, received⟩

/-- A receiver that awaits a chunk reads its header as the protocol means it. -/
theorem Awaits.header {r : Receiver} {m : ClientMessage} {firstChunk : Bool}
    {received : List UInt8} (h : Awaits r m firstChunk received) (hm : m.Encodable) :
    encodeHeader ((r.streams (m.fields firstChunk).csId).map (·.state)) (m.fields firstChunk) =
        ((if firstChunk then ChunkType.type0 else .type3).code <<< 6 ||| m.chunkStreamId) ::
          (if firstChunk then m.header else []) ∧
      advance ((r.streams (m.fields firstChunk).csId).map (·.state)) (m.fields firstChunk) =
        some m.state ∧
      r.unfinished (m.fields firstChunk) = received := by
  cases firstChunk with
  | true =>
    obtain rfl : received = [] := h
    refine ⟨encodeHeader_first _ m.messageType m.streamId _ hm.id_high hm.time_short, ?_, rfl⟩
    have hfield : extendedField (UInt32.ofNat (m.timestamp.toNat % 2 ^ 24)) = none :=
      if_neg (not_escaped_of_mod hm.time_short)
    simp only [ClientMessage.fields, headerFields, if_true, advance, hfield, ClientMessage.state]
  | false =>
    have hstream : r.streams m.chunkStreamId.toUInt32 = some ⟨m.state, received⟩ := h
    have hid : (m.fields false).csId = m.chunkStreamId.toUInt32 := rfl
    rw [hid, hstream]
    refine ⟨encodeHeader_later rfl m.messageType m.timestamp m.streamId _ hm.id_high, rfl, ?_⟩
    simp [Receiver.unfinished, ClientMessage.fields, headerFields, hstream]

/-- The header that the receiver keeps has the length of the message. -/
theorem ClientMessage.Encodable.state_length {m : ClientMessage} (hm : m.Encodable) :
    m.state.header.length.toNat = m.data.length := by
  have hlt := hm.data_lt
  change (UInt32.ofNat m.data.length).toNat = m.data.length
  rw [UInt32.toNat_ofNat']
  omega

/-- A receiver that awaits a chunk takes the part of the message in it. -/
theorem Awaits.readChunk {r : Receiver} {m : ClientMessage} {firstChunk : Bool}
    {received data : List UInt8} (h : Awaits r m firstChunk received) (hm : m.Encodable)
    (hsplit : received ++ data = m.data) (rest : List UInt8) :
    r.readChunk
        (((if firstChunk then ChunkType.type0 else .type3).code <<< 6 ||| m.chunkStreamId) ::
          (if firstChunk then m.header else []) ++
            (data.take (min data.length r.chunkSize) ++ rest)) =
      some (r.acceptData m.chunkStreamId.toUInt32 m.state
        (received ++ data.take (min data.length r.chunkSize)), rest) := by
  obtain ⟨hheader, hadvance, hunfinished⟩ := h.header hm
  have hwf : (m.fields firstChunk).WellFormed :=
    headerFields_wellFormed _ _ _ _ hm.id_low hm.id_high hm.data_lt
  have htotal : received.length + data.length = m.data.length := by
    rw [← hsplit, List.length_append]
  have hexpected : (data.take (min data.length r.chunkSize)).length =
      min (m.state.header.length.toNat - (r.unfinished (m.fields firstChunk)).length)
        r.chunkSize := by
    rw [hunfinished, List.length_take, hm.state_length]
    omega
  have hread := r.readChunk_encode hwf hadvance hexpected rest
  have hid : (m.fields firstChunk).csId = m.chunkStreamId.toUInt32 := rfl
  rwa [hheader, hunfinished, hid] at hread

/-- One turn of the client's loop. -/
theorem sendChunks_turn (chunkSize fuel : ℕ) (chunkStreamId : UInt8) (header : List UInt8)
    (firstChunk : Bool) {data : List UInt8} (hdata : data ≠ []) :
    sendChunks chunkSize chunkStreamId header (fuel + 1) firstChunk data =
      (sendChunks chunkSize chunkStreamId header fuel false
        (data.drop (min data.length chunkSize))).map fun rest =>
          ((if firstChunk then ChunkType.type0 else .type3).code <<< 6 ||| chunkStreamId) ::
            (if firstChunk then header else []) ++
              (data.take (min data.length chunkSize) ++ rest) := by
  obtain ⟨b, tail, rfl⟩ := List.exists_cons_of_ne_nil hdata
  have hsize : (if (b :: tail).length > chunkSize then chunkSize else (b :: tail).length) =
      min (b :: tail).length chunkSize := by
    split_ifs <;> omega
  rw [sendChunks, hsize]

/-- A chunk and what follows it. -/
theorem sendChunks_succ {chunkSize fuel : ℕ} {chunkStreamId : UInt8} {header data rest : List UInt8}
    (hdata : data ≠ []) (firstChunk : Bool)
    (hrest : sendChunks chunkSize chunkStreamId header fuel false
      (data.drop (min data.length chunkSize)) = some rest) :
    sendChunks chunkSize chunkStreamId header (fuel + 1) firstChunk data =
      some (((if firstChunk then ChunkType.type0 else .type3).code <<< 6 ||| chunkStreamId) ::
        (if firstChunk then header else []) ++
          (data.take (min data.length chunkSize) ++ rest)) := by
  rw [sendChunks_turn _ _ _ _ _ hdata, hrest]
  rfl

/-- The chunks still to be sent bring the receiver the whole message. In every
chunk the client's data size must be the one the receiver expects. The
induction is on the client's loop. -/
theorem receiveAll_sendChunks {m : ClientMessage} (hm : m.Encodable) {chunkSize : ℕ}
    (hpos : 1 ≤ chunkSize) {fuel : ℕ} {firstChunk : Bool} {received data : List UInt8}
    {r : Receiver} (hfuel : data.length ≤ fuel) (hdata : data ≠ [])
    (hsame : ∀ n ≤ data.length, min n chunkSize = min n r.chunkSize)
    (hsplit : received ++ data = m.data) (hawaits : Awaits r m firstChunk received) :
    ∃ bytes streams,
      sendChunks chunkSize m.chunkStreamId m.header fuel firstChunk data = some bytes ∧
      streams m.chunkStreamId.toUInt32 = some ⟨m.state, []⟩ ∧
      ∀ rest, r.receiveAll (bytes ++ rest) =
        (Receiver.deliver { r with streams } m.toReceived).receiveAll rest := by
  induction fuel generalizing firstChunk received data r with
  | zero => exact absurd (List.length_eq_zero_iff.mp (Nat.le_zero.mp hfuel)) hdata
  | succ fuel ih =>
    have hpositive := List.length_pos_iff.mpr hdata
    have htotal : received.length + data.length = m.data.length := by
      rw [← hsplit, List.length_append]
    obtain ⟨size, hsize⟩ : ∃ size, size = min data.length chunkSize := ⟨_, rfl⟩
    have htake : (data.take size).length = size := by
      rw [List.length_take]
      omega
    have hread := hawaits.readChunk hm hsplit
    rw [← hsame data.length le_rfl, ← hsize] at hread
    by_cases hlast : data.length ≤ chunkSize
    · -- The chunk takes everything, and the receiver hands the message on.
      have hall : size = data.length := by omega
      have hcomplete : (received ++ data.take size).length = m.state.header.length.toNat := by
        rw [List.length_append, htake, hall, htotal, hm.state_length]
      have hdone : sendChunks chunkSize m.chunkStreamId m.header fuel false
          (data.drop (min data.length chunkSize)) = some [] := by
        rw [← hsize, hall, List.drop_length]
        cases fuel <;> rfl
      refine ⟨_, Function.update r.streams m.chunkStreamId.toUInt32 (some ⟨m.state, []⟩),
        sendChunks_succ hdata firstChunk hdone, Function.update_self .., fun rest => ?_⟩
      have hstep := hread rest
      have hmessage : received ++ data.take size = m.data := by
        rw [hall, List.take_length, hsplit]
      rw [Receiver.acceptData, if_pos hcomplete, hmessage] at hstep
      rw [List.append_nil, ← hsize, List.append_assoc]
      exact Receiver.receiveAll_of_readChunk hstep
    · -- The receiver keeps the part, and awaits a chunk of type 3.
      have hpart : size = chunkSize := by omega
      have hincomplete : ¬ (received ++ data.take size).length =
          m.state.header.length.toNat := by
        rw [List.length_append, htake, hm.state_length]
        omega
      have hrest : (data.drop size).length = data.length - size := List.length_drop
      have hne : data.drop size ≠ [] := by
        intro hnil
        rw [hnil, List.length_nil] at hrest
        omega
      let streams' := Function.update r.streams m.chunkStreamId.toUInt32
        (some ⟨m.state, received ++ data.take size⟩)
      have hnext : Awaits { r with streams := streams' } m false (received ++ data.take size) := by
        simp [Awaits, streams']
      obtain ⟨bytes, streams, hsend, hstate, hreceive⟩ := ih (r := { r with streams := streams' })
        (by omega) hne (fun n hn => hsame n (by omega))
        (by rw [List.append_assoc, List.take_append_drop, hsplit]) hnext
      rw [hsize] at hsend
      refine ⟨_, streams, sendChunks_succ hdata firstChunk hsend, hstate, fun rest => ?_⟩
      have hstep := hread (bytes ++ rest)
      rw [Receiver.acceptData, if_neg hincomplete] at hstep
      rw [← hreceive rest, ← hsize, List.append_assoc, List.append_assoc,
        Receiver.receiveAll_of_readChunk hstep]

/-- A message sent in chunks reaches a receiver that has the client's chunk
size, or whose chunks and the client's can both hold all of it, and leaves its
header on the chunk stream. -/
theorem receiveAll_sendChunkedMessage_state {m : ClientMessage} (hm : m.Encodable)
    {chunkSizeOut : UInt32} (hpos : 1 ≤ chunkSizeOut.toNat) {r : Receiver}
    (hsize : chunkSizeOut.toNat = r.chunkSize ∨
      m.data.length ≤ chunkSizeOut.toNat ∧ m.data.length ≤ r.chunkSize) :
    ∃ bytes streams,
      rtmpClientSendChunkedMessage chunkSizeOut m.streamId m.chunkStreamId m.messageType
        m.timestamp m.data = some bytes ∧
      streams m.chunkStreamId.toUInt32 = some ⟨m.state, []⟩ ∧
      ∀ rest, r.receiveAll (bytes ++ rest) =
        (Receiver.deliver { r with streams } m.toReceived).receiveAll rest := by
  have hlow : ¬ m.chunkStreamId < 2 := by
    rw [UInt8.lt_iff_toNat_lt]
    have := hm.id_low
    simp only [UInt8.reduceToNat]
    omega
  have hhigh : ¬ m.chunkStreamId > 63 := by
    rw [gt_iff_lt, UInt8.lt_iff_toNat_lt]
    have := hm.id_high
    simp only [UInt8.reduceToNat]
    omega
  have hsame : ∀ n ≤ m.data.length, min n chunkSizeOut.toNat = min n r.chunkSize := by
    intro n hn
    rcases hsize with heq | ⟨hout, hin⟩
    · rw [heq]
    · omega
  have hawaits : Awaits r m true [] := rfl
  have hsend := receiveAll_sendChunks hm hpos le_rfl hm.data_ne_nil hsame rfl hawaits
  unfold rtmpClientSendChunkedMessage
  rw [if_neg hm.data_ne_nil, if_neg (by simp [hlow, hhigh])]
  exact hsend

/-- A message sent in chunks reaches such a receiver. -/
theorem receiveAll_sendChunkedMessage {m : ClientMessage} (hm : m.Encodable)
    {chunkSizeOut : UInt32} (hpos : 1 ≤ chunkSizeOut.toNat) {r : Receiver}
    (hsize : chunkSizeOut.toNat = r.chunkSize ∨
      m.data.length ≤ chunkSizeOut.toNat ∧ m.data.length ≤ r.chunkSize) :
    ∃ bytes streams,
      rtmpClientSendChunkedMessage chunkSizeOut m.streamId m.chunkStreamId m.messageType
        m.timestamp m.data = some bytes ∧
      ∀ rest, r.receiveAll (bytes ++ rest) =
        (Receiver.deliver { r with streams } m.toReceived).receiveAll rest := by
  obtain ⟨bytes, streams, hsend, -, hreceive⟩ := receiveAll_sendChunkedMessage_state hm hpos hsize
  exact ⟨bytes, streams, hsend, hreceive⟩

/-- A command sent as one chunk reaches a receiver whose chunks can hold it. -/
theorem receiveAll_writeChunk {m : ClientMessage} (hm : m.Encodable) (htime : m.timestamp = 0)
    {r : Receiver} (hsize : m.data.length ≤ r.chunkSize) :
    ∃ streams, ∀ rest,
      r.receiveAll (rtmpClientWriteChunk m.chunkStreamId m.messageType m.streamId m.data ++ rest) =
        (Receiver.deliver { r with streams } m.toReceived).receiveAll rest := by
  have hawaits : Awaits r m true [] := rfl
  have hpos := List.length_pos_iff.mpr hm.data_ne_nil
  obtain ⟨bytes, streams, hsend, -, hreceive⟩ := receiveAll_sendChunks hm hpos le_rfl
    hm.data_ne_nil (fun n hn => by omega) rfl hawaits
  refine ⟨streams, fun rest => ?_⟩
  have hbytes : bytes = rtmpClientWriteChunk m.chunkStreamId m.messageType m.streamId m.data := by
    obtain ⟨b, tail, hcons⟩ := List.exists_cons_of_ne_nil hm.data_ne_nil
    rw [hcons] at hsend
    simp only [List.length_cons, sendChunks, gt_iff_lt, lt_irrefl, if_false] at hsend
    rw [← List.length_cons, List.drop_length, List.take_length] at hsend
    have hdone : sendChunks (b :: tail).length m.chunkStreamId m.header tail.length false [] =
        some [] := by
      cases tail <;> rfl
    rw [hdone] at hsend
    have hsend := Option.some.inj hsend
    rw [← hsend, ClientMessage.header, hcons, htime]
    simp [rtmpClientWriteChunk]
  rw [← hbytes]
  exact hreceive rest

end RtmpClient
