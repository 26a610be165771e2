import Strero.Lib.Runs
import Strero.RtmpClient.CommandAgreement
import Strero.RtmpClient.Writer

/-!
# Sessions of the RTMP client

The connection thread connects, creates a stream, publishes, announces the
configured chunk size, adopts it, and sends the audio configuration. The frame
thread sends media as soon as the state says so. The client's outgoing chunk
size survives a reconnect and the receiver's does not. The main theorem follows
a receiver of the protocol through any sequence of such steps.
-/

namespace RtmpClient

open Wire CString Rtmp Rtmp.ChunkStream

/-- The chunk size of the configuration, in the range that
`rtmp_client_module_config_validate` accepts. -/
structure ClientConfig where
  chunkSize : UInt32
  chunkSize_low : 128 ≤ chunkSize.toNat
  chunkSize_high : chunkSize.toNat ≤ 65536

/-- `RTMP_DEFAULT_CHUNK_SIZE` of the client. -/
def defaultChunkSize : UInt32 := 4096

/-- Where the connection thread stands in its loop. The state of the connection
is `PUBLISHING` from `published` on. -/
inductive Phase
  | disconnected | handshakeDone | connected | streamCreated
  | published | announced | adopted | publishing
deriving DecidableEq, Repr

/-- `conn->state == RTMP_CLIENT_STATE_PUBLISHING`. -/
def Phase.isPublishing : Phase → Bool
  | published | announced | adopted | publishing => true
  | _ => false

/-- `conn->state >= RTMP_CLIENT_STATE_CONNECTED`. -/
def Phase.isConnected : Phase → Bool
  | disconnected | handshakeDone => false
  | _ => true

/-- A connection object, with the bytes sent and the messages passed to the
writers on its current TCP connection, and the chunk size that was announced on
it. -/
structure Client where
  config : ClientConfig
  target : Target
  phase : Phase
  chunkSizeOut : UInt32
  streamId : UInt32
  announcedChunkSize : ℕ
  sent : List ClientMessage
  wire : List UInt8

/-- `rtmp_client_connection_create`. -/
def Client.create (config : ClientConfig) (target : Target) : Client where
  config
  target
  phase := .disconnected
  chunkSizeOut := defaultChunkSize
  streamId := 0
  announcedChunkSize := 128
  sent := []
  wire := []

/-- A call of `rtmp_client_write_chunk`. -/
def Client.writeChunk (c : Client) (m : ClientMessage) : Client :=
  { c with
    sent := c.sent ++ [m]
    wire := c.wire ++
      rtmpClientWriteChunk m.chunkStreamId m.messageType m.streamId m.data }

/-- A call of `rtmp_client_send_chunked_message`. -/
def Client.sendChunkedMessage (c : Client) (chunkStreamId messageType : UInt8)
    (timestamp : UInt32) (data : List UInt8) : Client :=
  match rtmpClientSendChunkedMessage c.chunkSizeOut c.streamId chunkStreamId messageType timestamp
      data with
  | some bytes =>
    { c with
      sent := c.sent ++ [⟨chunkStreamId, messageType, timestamp, c.streamId, data⟩]
      wire := c.wire ++ bytes }
  | none => c

/-- The steps of the connection thread and of the frame thread. Every send
succeeds; a lost connection is a step of its own. -/
inductive Event
  | establish
  | connect
  | createStream (streamId : UInt32)
  | publish
  | announce
  | adoptChunkSize
  | audioConfig
  | video (timestamp : UInt32) (data : List UInt8)
  | audio (timestamp : UInt32) (data : List UInt8)
  | acknowledge (bytesReceived : UInt32)
  | disconnect

/-- The socket is connected and the handshake is done. -/
def Client.establish (c : Client) : Client :=
  if c.phase = .disconnected then
    { c with phase := .handshakeDone, announcedChunkSize := 128, sent := [], wire := [] }
  else c

/-- `rtmp_client_connect`. -/
def Client.connect (c : Client) : Client :=
  if c.phase = .handshakeDone then
    match connectCommand c.target with
    | some payload => { c.writeChunk ⟨3, 20, 0, 0, payload⟩ with phase := .connected }
    | none => { c with phase := .disconnected }
  else c

/-- `rtmp_client_create_stream`, with the stream id taken from the reply. -/
def Client.createStream (c : Client) (streamId : UInt32) : Client :=
  if c.phase = .connected then
    match createStreamCommand with
    | some payload =>
      { c.writeChunk ⟨3, 20, 0, 0, payload⟩ with phase := .streamCreated, streamId }
    | none => { c with phase := .disconnected }
  else c

/-- `rtmp_client_publish`, and the state `PUBLISHING` set after it. -/
def Client.publish (c : Client) : Client :=
  if c.phase = .streamCreated then
    match publishCommand c.target with
    | some payload => { c.writeChunk ⟨8, 20, 0, c.streamId, payload⟩ with phase := .published }
    | none => { c with phase := .disconnected }
  else c

/-- The Set Chunk Size message. -/
def Client.announce (c : Client) : Client :=
  if c.phase = .published then
    { c.sendChunkedMessage 2 1 0 (putBe32 c.config.chunkSize) with
      phase := .announced, announcedChunkSize := c.config.chunkSize.toNat }
  else c

/-- `conn->chunk_size_out = new_chunk_size`, after the message was sent. -/
def Client.adoptChunkSize (c : Client) : Client :=
  if c.phase = .announced then { c with phase := .adopted, chunkSizeOut := c.config.chunkSize }
  else c

/-- `send_aac_config`. -/
def Client.audioConfig (c : Client) : Client :=
  if c.phase = .adopted then
    { c.sendChunkedMessage 4 8 0 [0xAF, 0x00, 0x12, 0x10] with phase := .publishing }
  else c

/-- A media message of the frame thread. -/
def Client.media (c : Client) (chunkStreamId messageType : UInt8) (timestamp : UInt32)
    (data : List UInt8) : Client :=
  if c.phase.isPublishing then c.sendChunkedMessage chunkStreamId messageType timestamp data
  else c

/-- `rtmp_client_send_acknowledgement`. -/
def Client.acknowledge (c : Client) (bytesReceived : UInt32) : Client :=
  if c.phase.isConnected then c.sendChunkedMessage 2 3 0 (putBe32 bytesReceived) else c

/-- The connection is lost or closed. -/
def Client.disconnect (c : Client) : Client := { c with phase := .disconnected }

/-- A step. The thread's own steps come in the order of its code, and a failure
to build a command closes the connection. -/
def Client.step (c : Client) : Event → Client
  | .establish => c.establish
  | .connect => c.connect
  | .createStream streamId => c.createStream streamId
  | .publish => c.publish
  | .announce => c.announce
  | .adoptChunkSize => c.adoptChunkSize
  | .audioConfig => c.audioConfig
  | .video timestamp data => c.media 6 9 timestamp data
  | .audio timestamp data => c.media 4 8 timestamp data
  | .acknowledge bytesReceived => c.acknowledge bytesReceived
  | .disconnect => c.disconnect

/-- A receiver of the protocol gets exactly the messages passed to the writers
on the current connection. -/
def Client.WireCorrect (c : Client) : Prop :=
  (Receiver.initial.receiveAll c.wire).map (·.messages) =
    some (c.sent.map ClientMessage.toReceived)

instance (c : Client) : Decidable c.WireCorrect := inferInstanceAs (Decidable (_ = _))

/-! ### When the writers and the receiver agree -/

/-- A media message that can be sent in the client's present chunks. -/
def Client.MediaFits (c : Client) (timestamp : UInt32) (data : List UInt8) : Prop :=
  data.length < 2 ^ 24 ∧ timestamp.toNat % 2 ^ 24 ≠ 0xFFFFFF ∧
    (c.chunkSizeOut.toNat = c.announcedChunkSize ∨
      data.length ≤ c.chunkSizeOut.toNat ∧ data.length ≤ c.announcedChunkSize)

/-- A command fits into the receiver's chunk, and a media message is cut where
the receiver expects it. -/
def Client.Fits (c : Client) : Event → Prop
  | .connect => c.phase = .handshakeDone →
    ∀ payload, connectCommand c.target = some payload → payload.length ≤ c.announcedChunkSize
  | .publish => c.phase = .streamCreated →
    ∀ payload, publishCommand c.target = some payload → payload.length ≤ c.announcedChunkSize
  | .video timestamp data | .audio timestamp data =>
    c.phase.isPublishing = true → data ≠ [] → c.MediaFits timestamp data
  | _ => True

instance (c : Client) (timestamp : UInt32) (data : List UInt8) :
    Decidable (c.MediaFits timestamp data) :=
  inferInstanceAs (Decidable (_ ∧ _ ∧ _))

instance (c : Client) : (e : Event) → Decidable (c.Fits e)
  | .connect => inferInstanceAs (Decidable (_ = _ → ∀ _, _ = some _ → _ ≤ _))
  | .publish => inferInstanceAs (Decidable (_ = _ → ∀ _, _ = some _ → _ ≤ _))
  | .video timestamp data | .audio timestamp data =>
    inferInstanceAs (Decidable (_ = true → data ≠ [] → c.MediaFits timestamp data))
  | .establish | .createStream _ | .announce | .adoptChunkSize | .audioConfig | .acknowledge _
  | .disconnect => inferInstanceAs (Decidable True)

/-- A receiver that has read everything sent so far has the messages passed to
the writers and the announced chunk size. -/
structure Client.InStep (c : Client) : Prop where
  announced_low : 128 ≤ c.announcedChunkSize
  announced_high : c.announcedChunkSize ≤ 65536
  chunkSizeOut_low : 128 ≤ c.chunkSizeOut.toNat
  receiver : ∃ r : Receiver, r.messages = c.sent.map ClientMessage.toReceived ∧
    r.chunkSize = c.announcedChunkSize ∧
    ∀ rest, Receiver.initial.receiveAll (c.wire ++ rest) = r.receiveAll rest

theorem Client.InStep.wireCorrect {c : Client} (h : c.InStep) : c.WireCorrect := by
  obtain ⟨r, hmessages, -, hreceive⟩ := h.receiver
  have hall := hreceive []
  rw [List.append_nil, Receiver.receiveAll_nil] at hall
  rw [Client.WireCorrect, hall, Option.map_some, hmessages]

/-- A new connection object is in step. -/
theorem Client.create_inStep (config : ClientConfig) (target : Target) :
    (Client.create config target).InStep :=
  ⟨le_rfl, by simp [Client.create], show 128 ≤ defaultChunkSize.toNat by decide,
    Receiver.initial, rfl, rfl, fun _ => rfl⟩

/-- A command that fits keeps the receiver in step. -/
theorem Client.InStep.writeChunk {c : Client} (h : c.InStep) {m : ClientMessage}
    (hm : m.Encodable) (htime : m.timestamp = 0) (htype : m.messageType ≠ 1)
    (hfits : m.data.length ≤ c.announcedChunkSize) : (c.writeChunk m).InStep := by
  obtain ⟨r, hmessages, hsize, hreceive⟩ := h.receiver
  obtain ⟨streams, hwrite⟩ := receiveAll_writeChunk hm htime (hsize.symm ▸ hfits)
  refine ⟨h.announced_low, h.announced_high, h.chunkSizeOut_low,
    Receiver.deliver { r with streams } m.toReceived, ?_, ?_, fun rest => ?_⟩
  · rw [Receiver.deliver_messages, Client.writeChunk, List.map_append, ← hmessages]
    rfl
  · rw [Receiver.deliver_chunkSize htype]
    exact hsize
  · rw [Client.writeChunk, List.append_assoc, hreceive, hwrite]

/-- A message sent in chunks keeps the receiver in step, up to the chunk size
that the message itself may set. -/
theorem Client.InStep.exists_receiver {c : Client} (h : c.InStep) {m : ClientMessage}
    (hm : m.Encodable) (hid : m.streamId = c.streamId)
    (hsize : c.chunkSizeOut.toNat = c.announcedChunkSize ∨
      m.data.length ≤ c.chunkSizeOut.toNat ∧ m.data.length ≤ c.announcedChunkSize) :
    ∃ (r : Receiver) (streams : UInt32 → Option Incoming),
      r.messages = c.sent.map ClientMessage.toReceived ∧ r.chunkSize = c.announcedChunkSize ∧
      (c.sendChunkedMessage m.chunkStreamId m.messageType m.timestamp m.data).sent =
        c.sent ++ [m] ∧
      ∀ rest, Receiver.initial.receiveAll
        ((c.sendChunkedMessage m.chunkStreamId m.messageType m.timestamp m.data).wire ++ rest) =
          (Receiver.deliver { r with streams } m.toReceived).receiveAll rest := by
  obtain ⟨r, hmessages, hchunk, hreceive⟩ := h.receiver
  have hlow := h.chunkSizeOut_low
  obtain ⟨bytes, streams, hsend, hbytes⟩ :=
    receiveAll_sendChunkedMessage hm (by omega) (hchunk.symm ▸ hsize)
  rw [hid] at hsend
  refine ⟨r, streams, hmessages, hchunk, ?_, fun rest => ?_⟩
  · rw [Client.sendChunkedMessage, hsend, ← hid]
  · rw [Client.sendChunkedMessage, hsend]
    dsimp only
    rw [List.append_assoc, hreceive, hbytes]

/-- Sending a message leaves everything but the record of the connection. -/
theorem Client.sendChunkedMessage_frame (c : Client) (chunkStreamId messageType : UInt8)
    (timestamp : UInt32) (data : List UInt8) :
    (c.sendChunkedMessage chunkStreamId messageType timestamp data).chunkSizeOut =
        c.chunkSizeOut ∧
      (c.sendChunkedMessage chunkStreamId messageType timestamp data).announcedChunkSize =
        c.announcedChunkSize := by
  unfold Client.sendChunkedMessage
  split <;> exact ⟨rfl, rfl⟩

/-- A message that is cut where the receiver expects it keeps the receiver in
step. -/
theorem Client.InStep.sendChunkedMessage {c : Client} (h : c.InStep)
    {chunkStreamId messageType : UInt8} {timestamp : UInt32} {data : List UInt8}
    (hm : (ClientMessage.mk chunkStreamId messageType timestamp c.streamId data).Encodable)
    (htype : messageType ≠ 1)
    (hsize : c.chunkSizeOut.toNat = c.announcedChunkSize ∨
      data.length ≤ c.chunkSizeOut.toNat ∧ data.length ≤ c.announcedChunkSize) :
    (c.sendChunkedMessage chunkStreamId messageType timestamp data).InStep := by
  obtain ⟨r, streams, hmessages, hchunk, hsent, hreceive⟩ := h.exists_receiver hm rfl hsize
  obtain ⟨hout, hannounced⟩ := c.sendChunkedMessage_frame chunkStreamId messageType timestamp data
  refine ⟨hannounced ▸ h.announced_low, hannounced ▸ h.announced_high, hout ▸ h.chunkSizeOut_low,
    Receiver.deliver { r with streams }
      (ClientMessage.mk chunkStreamId messageType timestamp c.streamId data).toReceived,
    ?_, ?_, hreceive⟩
  · rw [Receiver.deliver_messages, hsent, List.map_append, ← hmessages]
    rfl
  · rw [Receiver.deliver_chunkSize htype, hannounced]
    exact hchunk

/-- A control message of four bytes fits into any chunk of the client. -/
theorem encodable_control (messageType : UInt8) (word streamId : UInt32) :
    (ClientMessage.mk 2 messageType 0 streamId (putBe32 word)).Encodable :=
  ⟨show 2 ≤ (2 : UInt8).toNat by decide, show (2 : UInt8).toNat ≤ 63 by decide,
    by simp [putBe32], by simp [putBe32],
    show (0 : UInt32).toNat % 2 ^ 24 ≠ 0xFFFFFF by decide⟩

/-- A command on a chunk stream with a small id is encodable. -/
theorem encodable_command {chunkStreamId : UInt8} (hlow : 2 ≤ chunkStreamId.toNat)
    (hhigh : chunkStreamId.toNat ≤ 63) (streamId : UInt32) {payload : List UInt8}
    (hne : payload ≠ []) (hlength : payload.length < 2 ^ 24) :
    (ClientMessage.mk chunkStreamId 20 0 streamId payload).Encodable :=
  ⟨hlow, hhigh, hne, hlength, show (0 : UInt32).toNat % 2 ^ 24 ≠ 0xFFFFFF by decide⟩

/-- Only the record of the current connection and the sizes matter. -/
theorem Client.InStep.congr {c d : Client} (h : c.InStep)
    (hannounced : d.announcedChunkSize = c.announcedChunkSize)
    (hout : d.chunkSizeOut = c.chunkSizeOut) (hsent : d.sent = c.sent) (hwire : d.wire = c.wire) :
    d.InStep := by
  obtain ⟨r, hmessages, hchunk, hreceive⟩ := h.receiver
  exact ⟨hannounced ▸ h.announced_low, hannounced ▸ h.announced_high, hout ▸ h.chunkSizeOut_low,
    r, hsent ▸ hmessages, hannounced ▸ hchunk, hwire ▸ hreceive⟩

/-! ### The steps -/

theorem Client.InStep.establish {c : Client} (h : c.InStep) : c.establish.InStep := by
  unfold Client.establish
  split_ifs
  · exact ⟨le_rfl, show 128 ≤ 65536 by omega, h.chunkSizeOut_low, Receiver.initial, rfl, rfl,
      fun _ => rfl⟩
  · exact h

theorem Client.InStep.connect {c : Client} (h : c.InStep) (hfits : c.Fits .connect) :
    c.connect.InStep := by
  unfold Client.connect
  split_ifs with hphase
  · cases hpayload : connectCommand c.target with
    | none => exact h.congr rfl rfl rfl rfl
    | some payload =>
      have hle := hfits hphase payload hpayload
      have hhigh := h.announced_high
      have hlow : 2 ≤ (3 : UInt8).toNat := by decide
      have hm := encodable_command hlow (by decide) 0 (connectCommand_ne_nil hpayload) (by omega)
      exact (h.writeChunk hm rfl (show (20 : UInt8) ≠ 1 by decide) hle).congr rfl rfl rfl rfl
  · exact h

/-- The createStream command is short enough for any receiver. -/
theorem createStreamCommand_length {payload : List UInt8}
    (h : createStreamCommand = some payload) : payload.length = 25 := by
  have hmap : createStreamCommand.map List.length = some 25 := by decide
  rw [h] at hmap
  exact Option.some.inj hmap

theorem Client.InStep.createStream {c : Client} (h : c.InStep) (streamId : UInt32) :
    (c.createStream streamId).InStep := by
  unfold Client.createStream
  split_ifs with hphase
  · cases hpayload : createStreamCommand with
    | none => exact h.congr rfl rfl rfl rfl
    | some payload =>
      have hlength := createStreamCommand_length hpayload
      have hannounced := h.announced_low
      have hne : payload ≠ [] := by
        rintro rfl
        cases hlength
      have hlow : 2 ≤ (3 : UInt8).toNat := by decide
      have hm := encodable_command hlow (by decide) 0 hne (by omega)
      have hle : payload.length ≤ c.announcedChunkSize := by omega
      exact (h.writeChunk hm rfl (show (20 : UInt8) ≠ 1 by decide) hle).congr rfl rfl rfl rfl
  · exact h

theorem Client.InStep.publish {c : Client} (h : c.InStep) (hfits : c.Fits .publish) :
    c.publish.InStep := by
  unfold Client.publish
  split_ifs with hphase
  · cases hpayload : publishCommand c.target with
    | none => exact h.congr rfl rfl rfl rfl
    | some payload =>
      have hle := hfits hphase payload hpayload
      have hhigh := h.announced_high
      have hlow : 2 ≤ (8 : UInt8).toNat := by decide
      have hm := encodable_command hlow (by decide) c.streamId (publishCommand_ne_nil hpayload)
        (by omega)
      exact (h.writeChunk hm rfl (show (20 : UInt8) ≠ 1 by decide) hle).congr rfl rfl rfl rfl
  · exact h

/-- The announcement gives the receiver the configured chunk size. -/
theorem Client.InStep.announce {c : Client} (h : c.InStep) : c.announce.InStep := by
  have hhigh := c.config.chunkSize_high
  have hout := h.chunkSizeOut_low
  have hannounced := h.announced_low
  have hm := encodable_control 1 c.config.chunkSize c.streamId
  have hfits : (putBe32 c.config.chunkSize).length ≤ c.chunkSizeOut.toNat ∧
      (putBe32 c.config.chunkSize).length ≤ c.announcedChunkSize := by
    rw [putBe32_length]
    omega
  obtain ⟨r, streams, hmessages, hchunk, hsent, hreceive⟩ := h.exists_receiver hm rfl (.inr hfits)
  obtain ⟨hframe, -⟩ := c.sendChunkedMessage_frame 2 1 0 (putBe32 c.config.chunkSize)
  unfold Client.announce
  split_ifs
  · refine ⟨c.config.chunkSize_low, hhigh, hframe.symm ▸ hout,
      Receiver.deliver { r with streams }
        (ClientMessage.mk 2 1 0 c.streamId (putBe32 c.config.chunkSize)).toReceived,
      ?_, ?_, hreceive⟩
    · rw [Receiver.deliver_messages, hsent, List.map_append, ← hmessages]
      rfl
    · change (getBe32 _ _ _ _).toNat % 2 ^ 31 = c.config.chunkSize.toNat
      rw [getBe32_putBe32]
      omega
  · exact h

theorem Client.InStep.adoptChunkSize {c : Client} (h : c.InStep) : c.adoptChunkSize.InStep := by
  unfold Client.adoptChunkSize
  split_ifs
  · exact ⟨h.announced_low, h.announced_high, c.config.chunkSize_low, h.receiver⟩
  · exact h

theorem Client.InStep.audioConfig {c : Client} (h : c.InStep) : c.audioConfig.InStep := by
  have hout := h.chunkSizeOut_low
  have hannounced := h.announced_low
  have hm : (ClientMessage.mk 4 8 0 c.streamId [0xAF, 0x00, 0x12, 0x10]).Encodable :=
    ⟨show 2 ≤ (4 : UInt8).toNat by decide, show (4 : UInt8).toNat ≤ 63 by decide, by simp,
      by simp, show (0 : UInt32).toNat % 2 ^ 24 ≠ 0xFFFFFF by decide⟩
  have hsize : ([0xAF, 0x00, 0x12, 0x10] : List UInt8).length ≤ c.chunkSizeOut.toNat ∧
      ([0xAF, 0x00, 0x12, 0x10] : List UInt8).length ≤ c.announcedChunkSize := by
    simp only [List.length_cons, List.length_nil]
    omega
  unfold Client.audioConfig
  split_ifs
  · exact (h.sendChunkedMessage hm (by decide) (.inr hsize)).congr rfl rfl rfl rfl
  · exact h

/-- Media that fit keep the receiver in step, and empty media are not sent. -/
theorem Client.InStep.media {c : Client} (h : c.InStep) {chunkStreamId messageType : UInt8}
    (hlow : 2 ≤ chunkStreamId.toNat) (hhigh : chunkStreamId.toNat ≤ 63) (htype : messageType ≠ 1)
    {timestamp : UInt32} {data : List UInt8}
    (hfits : c.phase.isPublishing = true → data ≠ [] → c.MediaFits timestamp data) :
    (c.media chunkStreamId messageType timestamp data).InStep := by
  unfold Client.media
  split_ifs with hphase
  · by_cases hempty : data = []
    · subst hempty
      exact h
    · obtain ⟨hlength, htime, hsize⟩ := hfits hphase hempty
      exact h.sendChunkedMessage ⟨hlow, hhigh, hempty, hlength, htime⟩ htype hsize
  · exact h

theorem Client.InStep.acknowledge {c : Client} (h : c.InStep) (bytesReceived : UInt32) :
    (c.acknowledge bytesReceived).InStep := by
  have hout := h.chunkSizeOut_low
  have hannounced := h.announced_low
  have hsize : (putBe32 bytesReceived).length ≤ c.chunkSizeOut.toNat ∧
      (putBe32 bytesReceived).length ≤ c.announcedChunkSize := by
    rw [putBe32_length]
    omega
  unfold Client.acknowledge
  split_ifs
  · exact h.sendChunkedMessage (encodable_control 3 bytesReceived c.streamId) (by decide)
      (.inr hsize)
  · exact h

/-- Every step that fits keeps a receiver of the protocol in step. -/
theorem Client.InStep.step {c : Client} (h : c.InStep) {e : Event} (hfits : c.Fits e) :
    (c.step e).InStep := by
  cases e with
  | establish => exact h.establish
  | connect => exact h.connect hfits
  | createStream streamId => exact h.createStream streamId
  | publish => exact h.publish hfits
  | announce => exact h.announce
  | adoptChunkSize => exact h.adoptChunkSize
  | audioConfig => exact h.audioConfig
  | video timestamp data => exact h.media (by decide) (by decide) (by decide) hfits
  | audio timestamp data => exact h.media (by decide) (by decide) (by decide) hfits
  | acknowledge bytesReceived => exact h.acknowledge bytesReceived
  | disconnect => exact h.congr rfl rfl rfl rfl

/-- In every run in which each command fits into the receiver's chunk and each
media message is cut where the receiver expects it, a receiver of the protocol
gets exactly the messages passed to the writers. -/
theorem wireCorrect_of_fits (config : ClientConfig) (target : Target) {events : List Event}
    (hfits : Runs.Guarded Client.step Client.Fits (Client.create config target) events) :
    (events.foldl Client.step (Client.create config target)).WireCorrect :=
  (Runs.invariant (fun _ _ h hgood => Client.InStep.step h hgood) hfits
    (Client.create_inStep config target)).wireCorrect

/-- The default configuration. -/
def defaultConfig : ClientConfig := ⟨4096, by decide, by decide⟩

/-- A target whose commands fit into a chunk of 128 bytes. -/
def shortTarget : Target := ⟨ascii "h", 1935, ascii "a", [], ascii "k"⟩

/-- A target with an ordinary host name, whose `connect` command takes 135 bytes. -/
def longTarget : Target :=
  ⟨ascii "live-ingest.example.com", 1935, ascii "broadcast", [], ascii "k"⟩

/-- A session that sends one video frame and reconnects. -/
def shortSession : List Event :=
  [.establish, .connect, .createStream 1, .publish, .announce, .adoptChunkSize, .audioConfig,
    .video 40 [0x17, 1, 0, 0, 0], .disconnect, .establish, .connect]

/-- The receiver gets all messages of the short session, over both connections. -/
theorem wireCorrect_shortSession :
    (shortSession.foldl Client.step (Client.create defaultConfig shortTarget)).WireCorrect :=
  wireCorrect_of_fits defaultConfig shortTarget (by decide +kernel)

/-- The writers and the receiver disagree already on a long `connect` command. -/
theorem not_wireCorrect_longTarget :
    ¬∀ (config : ClientConfig) (target : Target) (events : List Event),
      (events.foldl Client.step (Client.create config target)).WireCorrect := fun h =>
  absurd (h defaultConfig longTarget [.establish, .connect]) (by decide +kernel)

end RtmpClient
