import Strero.RtmpClient.CommandAgreement
import Strero.RtmpClient.CreateStream
import Strero.RtmpClient.Session
import Strero.Rtmp.RoundTrip

/-!
# A session of the client with the server of this program

The client and the server do not agree on the chunk size before it is announced, and the server
reads a message in several chunks wrongly. Its own first chunk size is large enough for every
command, though, and a message in one chunk of type 0 is read without the table that the server's
connections share. So a session whose media fit into one chunk reaches the server whole, whatever
its other connections do meanwhile.
-/

namespace RtmpClient

open Wire CString Slices Rtmp Rtmp.ChunkStream

/-! ### A message in one chunk -/

/-- The chunk of a message that fits into one. -/
def ClientMessage.oneChunk (m : ClientMessage) : List UInt8 :=
  (ChunkType.type0.code <<< 6 ||| m.chunkStreamId) :: m.header ++ m.data

/-- The header of a message as the server reads it. -/
def ClientMessage.chunkHeader (m : ClientMessage) : ChunkHeader where
  fmt := .type0
  chunkStreamId := m.chunkStreamId.toUInt32
  timestamp := UInt32.ofNat (m.timestamp.toNat % 2 ^ 24)
  messageLength := UInt32.ofNat m.data.length
  messageTypeId := m.messageType
  messageStreamId := m.streamId

/-- The message that the server's loop hands to `rtmp_message_parse`. -/
def ClientMessage.delivered (m : ClientMessage) : Message :=
  readMessage m.chunkHeader m.data (UInt32.ofNat m.data.length)

/-- A message that is no longer than the client's chunks is sent in one of them. -/
theorem rtmpClientSendChunkedMessage_oneChunk {m : ClientMessage} (hm : m.Encodable)
    {chunkSizeOut : UInt32} (hfit : m.data.length ≤ chunkSizeOut.toNat) :
    rtmpClientSendChunkedMessage chunkSizeOut m.streamId m.chunkStreamId m.messageType m.timestamp
      m.data = some m.oneChunk := by
  have hlow : ¬m.chunkStreamId < 2 := by
    rw [UInt8.lt_iff_toNat_lt]
    have := hm.id_low
    simp only [UInt8.reduceToNat]
    omega
  have hhigh : ¬m.chunkStreamId > 63 := by
    rw [gt_iff_lt, UInt8.lt_iff_toNat_lt]
    have := hm.id_high
    simp only [UInt8.reduceToNat]
    omega
  obtain ⟨n, hn⟩ : ∃ n, m.data.length = n + 1 :=
    Nat.exists_eq_succ_of_ne_zero (List.length_pos_iff.mpr hm.data_ne_nil).ne'
  have hdone : sendChunks chunkSizeOut.toNat m.chunkStreamId m.header n false
      (m.data.drop (min m.data.length chunkSizeOut.toNat)) = some [] := by
    rw [Nat.min_eq_left hfit, List.drop_length]
    cases n <;> rfl
  unfold rtmpClientSendChunkedMessage
  rw [if_neg hm.data_ne_nil, if_neg (by simp [hlow, hhigh])]
  change sendChunks chunkSizeOut.toNat m.chunkStreamId m.header m.data.length true m.data = _
  rw [hn, sendChunks_succ hm.data_ne_nil true hdone, Nat.min_eq_left hfit, List.take_length,
    List.append_nil]
  rfl

/-- The server reads the header that the client wrote. -/
theorem rtmpReadChunkHeader_oneChunk {m : ClientMessage} (hm : m.Encodable) (rest : List UInt8) :
    rtmpReadChunkHeader .zero (m.oneChunk ++ rest) = .ok m.chunkHeader (m.data ++ rest) := by
  have hid : m.chunkHeader.chunkStreamId.toNat = m.chunkStreamId.toNat :=
    UInt8.toNat_toUInt32 _
  have hlow := hm.id_low
  have hhigh := hm.id_high
  have hlt := hm.data_lt
  have hlength : m.chunkHeader.messageLength.toNat < 2 ^ 24 := by
    change (UInt32.ofNat m.data.length).toNat < 2 ^ 24
    rw [UInt32.toNat_ofNat']
    omega
  have hbasic : writeBasicHeader m.chunkHeader.chunkStreamId .type0 =
      [ChunkType.type0.code <<< 6 ||| m.chunkStreamId] := by
    have hone : m.chunkHeader.chunkStreamId < 64 := by
      rw [UInt32.lt_iff_toNat_lt, hid]
      simp only [UInt32.reduceToNat]
      omega
    rw [writeBasicHeader, if_pos hone]
    congr 2
    exact UInt8.toUInt8_toUInt32 m.chunkStreamId
  have hnot : ¬m.chunkHeader.timestamp ≥ 0xFFFFFF := not_escaped_of_mod hm.time_short
  have htime : putBe24 m.chunkHeader.timestamp = putBe24 m.timestamp := by
    apply putBe24_congr
    change (UInt32.ofNat (m.timestamp.toNat % 2 ^ 24)).toNat % 2 ^ 24 = _
    rw [UInt32.toNat_ofNat']
    omega
  have hheader : rtmpWriteChunkHeader m.chunkHeader .type0 =
      (ChunkType.type0.code <<< 6 ||| m.chunkStreamId) :: m.header := by
    rw [rtmpWriteChunkHeader, hbasic]
    simp only [writeMessageHeader, writeTimestamp, writeExtTimestamp, if_neg hnot, htime,
      List.append_nil]
    rfl
  have hread := rtmpReadChunkHeader_write .zero (by omega) (by omega) hlength .type0
    (m.data ++ rest)
  rw [hheader] at hread
  rw [ClientMessage.oneChunk, List.append_assoc]
  exact hread

/-! ### The turns of the server's loop -/

/-- Turns of the loop, each with the table of last headers as the other connections left it. -/
def serverTurns (t : Rtmp.Thread) (tables : List LastHeaders) : Rtmp.Thread :=
  tables.foldl (fun t table => (t.step table).2) t

/-- One turn at a message in one chunk delivers it, whatever the table holds. -/
theorem step_oneChunk {t : Rtmp.Thread} (hfinished : t.finished = false)
    (hrunning : t.conn.threadRunning = true) {m : ClientMessage} (hm : m.Encodable)
    (hfit : m.data.length ≤ t.conn.chunkSizeIn.toNat) {rest : List UInt8}
    (hinput : t.input = m.oneChunk ++ rest) (table : LastHeaders) :
    (t.step table).2 =
      { t with
        conn := (rtmpMessageParse t.conn m.delivered).1
        input := rest
        hasPartialMessage := false
        delivered := t.delivered ++ [m.delivered]
        replies := t.replies ++ (rtmpMessageParse t.conn m.delivered).2.toList } := by
  have hlt := hm.data_lt
  have hlength : m.data.length = m.chunkHeader.messageLength.toNat := by
    change _ = (UInt32.ofNat m.data.length).toNat
    rw [UInt32.toNat_ofNat']
    omega
  have hread := rtmpReadChunkHeader_oneChunk hm rest
  rw [← hinput] at hread
  have hinherit : inheritHeader table m.chunkHeader = m.chunkHeader := by
    unfold inheritHeader
    split_ifs <;> rfl
  have hwhole : chunkDataSize t.conn m.chunkHeader 0 = m.chunkHeader.messageLength := by
    have hsize : ¬m.chunkHeader.messageLength > t.conn.chunkSizeIn := by
      rw [gt_iff_lt, UInt32.lt_iff_toNat_lt]
      omega
    simp [chunkDataSize, hsize]
  have hstep := t.step_of_header hfinished hrunning hread hinherit.symm hwhole.symm hlength
  rw [hstep]
  exact if_pos (UInt32.le_refl _)

/-! ### What the commands do to the server -/

/-- The strings of a target are those of arrays of 256 bytes. -/
structure Target.Stored (t : Target) : Prop where
  app_lt : t.app.length < 256
  app_noNul : 0 ∉ t.app
  name_lt : t.publishName.length < 256
  name_noNul : 0 ∉ t.publishName

theorem rtmpMessageParse_command (conn : Rtmp.Connection) {chunkStreamId : UInt8}
    {timestamp streamId : UInt32} {payload : List UInt8} {command : Command}
    (h : rtmpCommandParse payload = .ok command) :
    rtmpMessageParse conn (ClientMessage.mk chunkStreamId 20 timestamp streamId payload).delivered =
      rtmpCommandHandle conn command := by
  have hmessage : ∀ msg : Message, msg.header.messageTypeId = 20 → msg.payload = some payload →
      rtmpMessageParse conn msg = rtmpCommandHandle conn command := by
    intro msg htype hpayload
    unfold rtmpMessageParse
    rw [htype, hpayload, Option.getD_some, h]
    rfl
  exact hmessage _ rfl rfl

/-- After the connect command the server knows the app. -/
theorem rtmpMessageParse_connect {t : Target} (ht : t.Stored) (conn : Rtmp.Connection)
    {payload : List UInt8} (h : connectCommand t = some payload) :
    rtmpMessageParse conn (ClientMessage.mk 3 20 0 0 payload).delivered =
      ({ conn with appName := t.app, state := .connected },
        some (connectResult doubleOne true)) := by
  have happ := (strncpy_eq_self_iff (by decide : 0 < 256) t.app).mpr ⟨ht.app_lt, ht.app_noNul⟩
  have hlt := ht.app_lt
  have hhandle : ({ conn with appName := strncpy 256 t.app, state := .connected },
      some (connectResult doubleOne true)) =
      (({ conn with appName := t.app, state := .connected },
        some (connectResult doubleOne true)) : Rtmp.Connection × Option Message) := by
    rw [happ]
  rw [rtmpMessageParse_command conn (rtmpCommandParse_connectCommand (by omega) h), ← hhandle]
  unfold rtmpCommandHandle
  rw [if_pos rfl]
  rfl

/-- The createStream command is answered with the stream id 1.0. -/
theorem rtmpMessageParse_createStream (conn : Rtmp.Connection) {payload : List UInt8}
    (h : createStreamCommand = some payload) :
    rtmpMessageParse conn (ClientMessage.mk 3 20 0 0 payload).delivered =
      (conn, some (createStreamResult 0x4000000000000000 doubleOne)) := by
  have hparse : rtmpCommandParse payload =
      .ok ⟨ascii "createStream", 0x4000000000000000, .null, []⟩ := by
    rw [createStreamCommand_eq] at h
    rw [rtmpCommandParse_eq_map, rtmpCommandParseTo_encodeCommand (by decide) (by decide) ?_ ?_ h]
    · rfl
    · rintro _ ⟨⟩
    · rintro _ ⟨⟩
  rw [rtmpMessageParse_command conn hparse]
  rfl

/-- After the publish command the server knows the name and publishes. -/
theorem rtmpMessageParse_publish {t : Target} (ht : t.Stored) (conn : Rtmp.Connection)
    {streamId : UInt32} {payload : List UInt8} (h : publishCommand t = some payload) :
    rtmpMessageParse conn (ClientMessage.mk 8 20 0 streamId payload).delivered =
      ({ conn with streamKey := t.publishName, publishing := true }, some publishStatus) := by
  have hname := (strncpy_eq_self_iff (by decide : 0 < 256) t.publishName).mpr
    ⟨ht.name_lt, ht.name_noNul⟩
  have hlt := ht.name_lt
  have hne : t.publishName.length ≠ 0 := by
    intro hempty
    rw [publishCommand, if_pos hempty] at h
    cases h
  have hparse : rtmpCommandParse payload = .ok ⟨ascii "publish", 0, .null,
      [.string t.publishName, .string (ascii "live")]⟩ := by
    rw [publishCommand_eq t hne] at h
    rw [rtmpCommandParse_eq_map, rtmpCommandParseTo_encodeCommand (by decide) (by decide) ?_ ?_ h]
    · rfl
    · rintro _ ⟨⟩
    · intro string hstring
      simp only [List.mem_cons, Option.some.injEq, List.not_mem_nil, or_false] at hstring
      obtain rfl | rfl := hstring
      · omega
      · decide
  rw [rtmpMessageParse_command conn hparse]
  change ({ conn with streamKey := strncpy 256 t.publishName, publishing := true },
    some publishStatus) = _
  rw [hname]

/-- The announcement sets the chunk size of the server's reader. -/
theorem rtmpMessageParse_announce (conn : Rtmp.Connection) (streamId chunkSize : UInt32) :
    rtmpMessageParse conn (ClientMessage.mk 2 1 0 streamId (putBe32 chunkSize)).delivered =
      ({ conn with chunkSizeIn := chunkSize }, none) := by
  change ({ conn with chunkSizeIn := getBe32 _ _ _ _ }, none) = _
  rw [getBe32_putBe32]

/-- Media and acknowledgements are read and dropped. -/
theorem rtmpMessageParse_dropped (conn : Rtmp.Connection) {chunkStreamId messageType : UInt8}
    (timestamp streamId : UInt32) (data : List UInt8)
    (h : messageType = 3 ∨ messageType = 8 ∨ messageType = 9) :
    rtmpMessageParse conn
      (ClientMessage.mk chunkStreamId messageType timestamp streamId data).delivered =
        (conn, none) := by
  obtain rfl | rfl | rfl := h <;> rfl

/-! ### The server in step with the client -/

/-- The server's connection after the handshake. -/
def handshaken : Rtmp.Connection := { Rtmp.Connection.accepted with state := .handshakeDone }

/-- The server's connection when it has read all that the client has sent up to a phase. -/
def Target.serverConn (t : Target) (config : ClientConfig) : Phase → Rtmp.Connection
  | .disconnected | .handshakeDone => handshaken
  | .connected | .streamCreated => { handshaken with appName := t.app, state := .connected }
  | .published =>
    { handshaken with
      appName := t.app, state := .connected, streamKey := t.publishName, publishing := true }
  | .announced | .adopted | .publishing =>
    { handshaken with
      appName := t.app, state := .connected, streamKey := t.publishName, publishing := true
      chunkSizeIn := config.chunkSize }

/-- The replies that the server has sent by then. -/
def serverReplies : Phase → List Message
  | .disconnected | .handshakeDone => []
  | .connected => [connectResult doubleOne true]
  | .streamCreated =>
    [connectResult doubleOne true, createStreamResult 0x4000000000000000 doubleOne]
  | .published | .announced | .adopted | .publishing =>
    [connectResult doubleOne true, createStreamResult 0x4000000000000000 doubleOne, publishStatus]

theorem eq_of_mem_second_reply {phase : Phase} {reply : Message}
    (h : reply ∈ (serverReplies phase)[1]?) :
    reply = createStreamResult 0x4000000000000000 doubleOne := by
  cases phase with
  | disconnected | handshakeDone | connected => cases h
  | streamCreated | published | announced | adopted | publishing => exact (Option.some.inj h).symm

theorem Target.serverConn_threadRunning (t : Target) (config : ClientConfig) (phase : Phase) :
    (t.serverConn config phase).threadRunning = true := by
  cases phase <;> rfl

/-- The server's reader has room for a command in every phase in which one is sent, and for 128
bytes in every phase. -/
theorem Target.serverConn_chunkSizeIn (t : Target) (config : ClientConfig) (phase : Phase) :
    128 ≤ (t.serverConn config phase).chunkSizeIn.toNat := by
  have hlow := config.chunkSize_low
  have hdefault : 128 ≤ Rtmp.defaultChunkSize.toNat := by decide
  cases phase <;> first | exact hdefault | exact hlow

/-- The server's loop after the messages of a connection. -/
def Client.served (c : Client) (phase : Phase) (rest : List UInt8) : Rtmp.Thread where
  conn := c.target.serverConn c.config phase
  input := rest
  partialMsg := .zero
  hasPartialMessage := false
  delivered := c.sent.map ClientMessage.delivered
  replies := serverReplies phase
  finished := false

/-- A server that reads what the client has sent on its present connection delivers just the
messages sent, one at each turn, and is where the client's phase says. A connection that was lost
leaves the phase that it had reached. -/
structure Client.Served (c : Client) (phase : Phase) : Prop where
  phase_eq : c.phase ≠ .disconnected → c.phase = phase
  chunkSizeOut_low : 128 ≤ c.chunkSizeOut.toNat
  chunkSizeOut_high : c.chunkSizeOut.toNat ≤ 65536
  turns : ∀ tables : List LastHeaders, tables.length = c.sent.length → ∀ rest,
    serverTurns (.start handshaken (c.wire ++ rest)) tables = c.served phase rest

/-- A new connection object has sent nothing. -/
theorem Client.create_served (config : ClientConfig) (target : Target) :
    (Client.create config target).Served .handshakeDone := by
  refine ⟨fun h => absurd rfl h, show 128 ≤ defaultChunkSize.toNat by decide,
    show defaultChunkSize.toNat ≤ 65536 by decide, ?_⟩
  intro tables htables rest
  obtain rfl : tables = [] := List.length_eq_zero_iff.mp htables
  rfl

/-- One more message in one chunk is one more turn. -/
theorem Client.Served.extend {c d : Client} {phase phase' : Phase} (h : c.Served phase)
    {m : ClientMessage} (hm : m.Encodable)
    (hfit : m.data.length ≤ (c.target.serverConn c.config phase).chunkSizeIn.toNat)
    {reply : Option Message}
    (hparse : rtmpMessageParse (c.target.serverConn c.config phase) m.delivered =
      (c.target.serverConn c.config phase', reply))
    (hreplies : serverReplies phase' = serverReplies phase ++ reply.toList)
    (htarget : d.target = c.target) (hconfig : d.config = c.config)
    (hphase : d.phase ≠ .disconnected → d.phase = phase') (hout : d.chunkSizeOut = c.chunkSizeOut)
    (hsent : d.sent = c.sent ++ [m]) (hwire : d.wire = c.wire ++ m.oneChunk) :
    d.Served phase' := by
  refine ⟨hphase, hout ▸ h.chunkSizeOut_low, hout ▸ h.chunkSizeOut_high,
    fun tables htables rest => ?_⟩
  obtain ⟨tables, table, rfl⟩ : ∃ init last, tables = init ++ [last] := by
    refine ⟨tables.dropLast, tables.getLast ?_, (List.dropLast_append_getLast _).symm⟩
    rintro rfl
    simp [hsent] at htables
  have hlength : tables.length = c.sent.length := by
    simpa [hsent] using htables
  have hbefore := h.turns tables hlength (m.oneChunk ++ rest)
  rw [← List.append_assoc, ← hwire] at hbefore
  have hstep := step_oneChunk (t := c.served phase (m.oneChunk ++ rest)) rfl
    (c.target.serverConn_threadRunning c.config phase) hm hfit rfl table
  unfold serverTurns at hbefore ⊢
  rw [List.foldl_append, hbefore]
  change (Rtmp.Thread.step table _).2 = _
  rw [hstep]
  change Rtmp.Thread.mk (rtmpMessageParse (c.target.serverConn c.config phase) m.delivered).1 rest
    .zero false (c.sent.map ClientMessage.delivered ++ [m.delivered]) (serverReplies phase ++
      (rtmpMessageParse (c.target.serverConn c.config phase) m.delivered).2.toList) false = _
  rw [hparse, ← hreplies, Client.served, htarget, hconfig, hsent, List.map_append]
  rfl

/-- A lost connection keeps what the server has read. -/
theorem Client.Served.lost {c : Client} {phase : Phase} (h : c.Served phase) :
    Client.Served { c with phase := .disconnected } phase :=
  ⟨fun hne => absurd rfl hne, h.chunkSizeOut_low, h.chunkSizeOut_high, h.turns⟩

/-- What sending a message in one chunk adds to the record. -/
theorem Client.sendChunkedMessage_oneChunk (c : Client) {chunkStreamId messageType : UInt8}
    {timestamp : UInt32} {data : List UInt8}
    (hm : (ClientMessage.mk chunkStreamId messageType timestamp c.streamId data).Encodable)
    (hfit : data.length ≤ c.chunkSizeOut.toNat) :
    c.sendChunkedMessage chunkStreamId messageType timestamp data =
      { c with
        sent := c.sent ++ [⟨chunkStreamId, messageType, timestamp, c.streamId, data⟩]
        wire := c.wire ++
          (ClientMessage.mk chunkStreamId messageType timestamp c.streamId data).oneChunk } := by
  unfold Client.sendChunkedMessage
  rw [rtmpClientSendChunkedMessage_oneChunk hm hfit]

/-- A media message that both sides have room for in one chunk. -/
def Client.OneChunk (c : Client) : Event → Prop
  | .video timestamp data | .audio timestamp data =>
    c.phase.isPublishing = true → data ≠ [] → timestamp.toNat % 2 ^ 24 ≠ 0xFFFFFF ∧
      data.length ≤ c.chunkSizeOut.toNat ∧
      data.length ≤ (c.target.serverConn c.config c.phase).chunkSizeIn.toNat
  | _ => True

instance (c : Client) : (e : Event) → Decidable (c.OneChunk e)
  | .video _ data | .audio _ data =>
    inferInstanceAs (Decidable (_ = true → data ≠ [] → _ ∧ _ ∧ _))
  | .establish | .connect | .createStream _ | .publish | .announce | .adoptChunkSize
  | .audioConfig | .acknowledge _ | .disconnect => inferInstanceAs (Decidable True)

/-! ### The steps of a session -/

/-- A command is never longer than the buffer it is built in. -/
theorem encodeCommand_length_le {size : ℕ} {name : List UInt8} {transactionId : UInt64}
    {object : Option (List (List UInt8 × PropertyValue))} {further : List (Option (List UInt8))}
    {payload : List UInt8}
    (h : encodeCommand size name transactionId object further = some payload) :
    payload.length ≤ size := by
  rw [encodeCommand_eq, appendWithin_eq_some] at h
  rw [← h.2, List.length_append]
  exact h.1

theorem connectCommand_length_le {t : Target} {payload : List UInt8}
    (h : connectCommand t = some payload) : payload.length ≤ 1024 := by
  rw [connectCommand_eq] at h
  exact encodeCommand_length_le h

theorem publishCommand_length_le {t : Target} {payload : List UInt8}
    (h : publishCommand t = some payload) : payload.length ≤ 512 := by
  by_cases hempty : t.publishName.length = 0
  · rw [publishCommand, if_pos hempty] at h
    cases h
  · rw [publishCommand_eq t hempty] at h
    exact encodeCommand_length_le h

theorem Client.Served.establish {c : Client} {phase : Phase} (h : c.Served phase) :
    ∃ phase', c.establish.Served phase' := by
  unfold Client.establish
  split_ifs
  · refine ⟨.handshakeDone, fun _ => rfl, h.chunkSizeOut_low, h.chunkSizeOut_high, ?_⟩
    intro tables htables rest
    obtain rfl : tables = [] := List.length_eq_zero_iff.mp htables
    rfl
  · exact ⟨phase, h⟩

theorem Client.Served.connect {c : Client} {phase : Phase} (h : c.Served phase)
    (ht : c.target.Stored) : ∃ phase', c.connect.Served phase' := by
  unfold Client.connect
  split_ifs with hphase
  · obtain rfl : Phase.handshakeDone = phase :=
      hphase ▸ h.phase_eq (by rw [hphase]; exact Phase.noConfusion)
    cases hpayload : connectCommand c.target with
    | none => exact ⟨_, h.lost⟩
    | some payload =>
      have hlength := connectCommand_length_le hpayload
      have hlow : 2 ≤ (3 : UInt8).toNat := by decide
      have hm := encodable_command hlow (by decide) 0 (connectCommand_ne_nil hpayload) (by omega)
      have hsize : handshaken.chunkSizeIn.toNat = 65536 := by decide
      refine ⟨.connected, h.extend hm ?_ (rtmpMessageParse_connect ht _ hpayload) rfl rfl rfl
        (fun _ => rfl) rfl rfl rfl⟩
      change payload.length ≤ handshaken.chunkSizeIn.toNat
      omega
  · exact ⟨phase, h⟩

theorem Client.Served.createStream {c : Client} {phase : Phase} (h : c.Served phase)
    (streamId : UInt32) : ∃ phase', (c.createStream streamId).Served phase' := by
  unfold Client.createStream
  split_ifs with hphase
  · obtain rfl : Phase.connected = phase :=
      hphase ▸ h.phase_eq (by rw [hphase]; exact Phase.noConfusion)
    cases hpayload : createStreamCommand with
    | none => exact ⟨_, h.lost⟩
    | some payload =>
      have hlength := createStreamCommand_length hpayload
      have hne : payload ≠ [] := by
        rintro rfl
        cases hlength
      have hlow : 2 ≤ (3 : UInt8).toNat := by decide
      have hm := encodable_command hlow (by decide) 0 hne (by omega)
      have hroom := c.target.serverConn_chunkSizeIn c.config .connected
      refine ⟨.streamCreated, h.extend hm ?_ (rtmpMessageParse_createStream _ hpayload) rfl rfl rfl
        (fun _ => rfl) rfl rfl rfl⟩
      dsimp only
      omega
  · exact ⟨phase, h⟩

theorem Client.Served.publish {c : Client} {phase : Phase} (h : c.Served phase)
    (ht : c.target.Stored) : ∃ phase', c.publish.Served phase' := by
  unfold Client.publish
  split_ifs with hphase
  · obtain rfl : Phase.streamCreated = phase :=
      hphase ▸ h.phase_eq (by rw [hphase]; exact Phase.noConfusion)
    cases hpayload : publishCommand c.target with
    | none => exact ⟨_, h.lost⟩
    | some payload =>
      have hlength := publishCommand_length_le hpayload
      have hlow : 2 ≤ (8 : UInt8).toNat := by decide
      have hm := encodable_command hlow (by decide) c.streamId (publishCommand_ne_nil hpayload)
        (by omega)
      have hsize : handshaken.chunkSizeIn.toNat = 65536 := by decide
      refine ⟨.published, h.extend hm ?_ (rtmpMessageParse_publish ht _ hpayload) rfl rfl rfl
        (fun _ => rfl) rfl rfl rfl⟩
      change payload.length ≤ handshaken.chunkSizeIn.toNat
      omega
  · exact ⟨phase, h⟩

/-- A message in one chunk that the server drops. -/
theorem Client.Served.dropped {c : Client} {phase : Phase} (h : c.Served phase)
    {chunkStreamId messageType : UInt8} {timestamp : UInt32} {data : List UInt8}
    (hm : (ClientMessage.mk chunkStreamId messageType timestamp c.streamId data).Encodable)
    (htype : messageType = 3 ∨ messageType = 8 ∨ messageType = 9)
    (hout : data.length ≤ c.chunkSizeOut.toNat)
    (hin : data.length ≤ (c.target.serverConn c.config phase).chunkSizeIn.toNat) :
    (c.sendChunkedMessage chunkStreamId messageType timestamp data).Served phase := by
  rw [c.sendChunkedMessage_oneChunk hm hout]
  exact h.extend hm hin (rtmpMessageParse_dropped _ timestamp c.streamId data htype)
    (List.append_nil _).symm rfl rfl h.phase_eq rfl rfl rfl

theorem Client.Served.announce {c : Client} {phase : Phase} (h : c.Served phase) :
    ∃ phase', c.announce.Served phase' := by
  unfold Client.announce
  split_ifs with hphase
  · obtain rfl : Phase.published = phase :=
      hphase ▸ h.phase_eq (by rw [hphase]; exact Phase.noConfusion)
    have hm := encodable_control 1 c.config.chunkSize c.streamId
    have hlow := h.chunkSizeOut_low
    have hroom := c.target.serverConn_chunkSizeIn c.config .published
    have hout : (putBe32 c.config.chunkSize).length ≤ c.chunkSizeOut.toNat := by
      rw [putBe32_length]
      omega
    rw [c.sendChunkedMessage_oneChunk hm hout]
    refine ⟨.announced, h.extend hm ?_ (rtmpMessageParse_announce _ c.streamId c.config.chunkSize)
      rfl rfl rfl (fun _ => rfl) rfl rfl rfl⟩
    rw [putBe32_length]
    omega
  · exact ⟨phase, h⟩

theorem Client.Served.adoptChunkSize {c : Client} {phase : Phase} (h : c.Served phase) :
    ∃ phase', c.adoptChunkSize.Served phase' := by
  unfold Client.adoptChunkSize
  split_ifs with hphase
  · obtain rfl : Phase.announced = phase :=
      hphase ▸ h.phase_eq (by rw [hphase]; exact Phase.noConfusion)
    exact ⟨.adopted, fun _ => rfl, c.config.chunkSize_low, c.config.chunkSize_high, h.turns⟩
  · exact ⟨phase, h⟩

theorem Client.Served.audioConfig {c : Client} {phase : Phase} (h : c.Served phase) :
    ∃ phase', c.audioConfig.Served phase' := by
  unfold Client.audioConfig
  split_ifs with hphase
  · obtain rfl : Phase.adopted = phase :=
      hphase ▸ h.phase_eq (by rw [hphase]; exact Phase.noConfusion)
    have hm : (ClientMessage.mk 4 8 0 c.streamId [0xAF, 0x00, 0x12, 0x10]).Encodable :=
      ⟨show 2 ≤ (4 : UInt8).toNat by decide, show (4 : UInt8).toNat ≤ 63 by decide, by simp,
        by simp, show (0 : UInt32).toNat % 2 ^ 24 ≠ 0xFFFFFF by decide⟩
    have hlow := h.chunkSizeOut_low
    have hroom := c.target.serverConn_chunkSizeIn c.config .adopted
    have hlength : ([0xAF, 0x00, 0x12, 0x10] : List UInt8).length = 4 := rfl
    have hsent := h.dropped hm (.inr (.inl rfl)) (by omega) (by omega)
    exact ⟨.publishing, fun _ => rfl, hsent.chunkSizeOut_low, hsent.chunkSizeOut_high, hsent.turns⟩
  · exact ⟨phase, h⟩

/-- While the client publishes, its phase is that of the server. -/
theorem Client.Served.phase_of_publishing {c : Client} {phase : Phase} (h : c.Served phase)
    (hphase : c.phase.isPublishing = true) : c.phase = phase := by
  refine h.phase_eq fun hlost => ?_
  rw [hlost] at hphase
  cases hphase

theorem Client.Served.media {c : Client} {phase : Phase} (h : c.Served phase)
    {chunkStreamId messageType : UInt8} (hlow : 2 ≤ chunkStreamId.toNat)
    (hhigh : chunkStreamId.toNat ≤ 63) (htype : messageType = 3 ∨ messageType = 8 ∨ messageType = 9)
    {timestamp : UInt32} {data : List UInt8}
    (hfits : c.phase.isPublishing = true → data ≠ [] → timestamp.toNat % 2 ^ 24 ≠ 0xFFFFFF ∧
      data.length ≤ c.chunkSizeOut.toNat ∧
      data.length ≤ (c.target.serverConn c.config c.phase).chunkSizeIn.toNat) :
    (c.media chunkStreamId messageType timestamp data).Served phase := by
  unfold Client.media
  split_ifs with hphase
  · by_cases hempty : data = []
    · subst hempty
      exact h
    · obtain ⟨htime, hout, hin⟩ := hfits hphase hempty
      have hbound := h.chunkSizeOut_high
      rw [h.phase_of_publishing hphase] at hin
      have hlt : data.length < 2 ^ 24 := by omega
      exact h.dropped ⟨hlow, hhigh, hempty, hlt, htime⟩ htype hout hin
  · exact h

theorem Client.Served.acknowledge {c : Client} {phase : Phase} (h : c.Served phase)
    (bytesReceived : UInt32) : (c.acknowledge bytesReceived).Served phase := by
  have hlow := h.chunkSizeOut_low
  have hroom := c.target.serverConn_chunkSizeIn c.config phase
  have hlength := putBe32_length bytesReceived
  unfold Client.acknowledge
  split_ifs
  · exact h.dropped (encodable_control 3 bytesReceived c.streamId) (.inl rfl) (by omega) (by omega)
  · exact h

/-- Every step keeps the server in step, if a media message fits into one chunk. -/
theorem Client.Served.step {c : Client} {phase : Phase} (h : c.Served phase)
    (ht : c.target.Stored) {e : Event} (hfits : c.OneChunk e) :
    ∃ phase', (c.step e).Served phase' := by
  cases e with
  | establish => exact h.establish
  | connect => exact h.connect ht
  | createStream streamId => exact h.createStream streamId
  | publish => exact h.publish ht
  | announce => exact h.announce
  | adoptChunkSize => exact h.adoptChunkSize
  | audioConfig => exact h.audioConfig
  | video timestamp data =>
    exact ⟨phase, h.media (by decide) (by decide) (.inr (.inr rfl)) hfits⟩
  | audio timestamp data =>
    exact ⟨phase, h.media (by decide) (by decide) (.inr (.inl rfl)) hfits⟩
  | acknowledge bytesReceived => exact ⟨phase, h.acknowledge bytesReceived⟩
  | disconnect => exact ⟨phase, h.lost⟩

/-- No step changes the target. -/
theorem Client.step_target (c : Client) (e : Event) : (c.step e).target = c.target := by
  have hsend : ∀ (chunkStreamId messageType : UInt8) (timestamp : UInt32) (data : List UInt8),
      (c.sendChunkedMessage chunkStreamId messageType timestamp data).target = c.target := by
    intro chunkStreamId messageType timestamp data
    unfold Client.sendChunkedMessage
    split <;> rfl
  cases e with
  | establish => exact apply_ite Client.target .. |>.trans (ite_self _)
  | connect =>
    simp only [Client.step, Client.connect]
    split_ifs
    · split <;> rfl
    · rfl
  | createStream streamId =>
    simp only [Client.step, Client.createStream]
    split_ifs
    · split <;> rfl
    · rfl
  | publish =>
    simp only [Client.step, Client.publish]
    split_ifs
    · split <;> rfl
    · rfl
  | announce =>
    simp only [Client.step, Client.announce]
    split_ifs
    · exact hsend ..
    · rfl
  | adoptChunkSize =>
    simp only [Client.step, Client.adoptChunkSize]
    split_ifs <;> rfl
  | audioConfig =>
    simp only [Client.step, Client.audioConfig]
    split_ifs
    · exact hsend ..
    · rfl
  | video timestamp data | audio timestamp data =>
    simp only [Client.step, Client.media]
    split_ifs
    · exact hsend ..
    · rfl
  | acknowledge bytesReceived =>
    simp only [Client.step, Client.acknowledge]
    split_ifs
    · exact hsend ..
    · rfl
  | disconnect => rfl

/-! ### The stream id -/

/-- The result for createStream as a message that can be written. -/
def createStreamResultMessage (transactionId : UInt64) : OutgoingMessage where
  header := (createStreamResult transactionId doubleOne).header
  payload := amfEncodeString (ascii "_result") ++ amfEncodeNumber transactionId ++ amfEncodeNull ++
    amfEncodeNumber doubleOne
  id_low := show 2 ≤ (3 : UInt32).toNat by decide
  id_high := show (3 : UInt32).toNat ≤ 63 by decide
  length_eq := rfl
  payload_ne_nil := List.cons_ne_nil _ _
  payload_lt := show 29 < 2 ^ 24 by decide
  ne_setChunkSize := show (20 : UInt8) ≠ 1 by decide
  ne_abort := show (20 : UInt8) ≠ 2 by decide

/-- The client takes the stream id 1.0 from the server's reply, also when it reads earlier
replies together with it. -/
theorem extractStreamId_createStreamResult {conn : Rtmp.Connection}
    (hsize : conn.chunkSizeOut = Rtmp.defaultChunkSize) (transactionId : UInt64) :
    ∃ bytes, rtmpChunkWrite conn (createStreamResult transactionId doubleOne) = some [bytes] ∧
      ∀ earlier, extractStreamId (earlier ++ bytes) = doubleOne := by
  have hfit : (createStreamResultMessage transactionId).payload.length ≤
      conn.chunkSizeOut.toNat := by
    rw [hsize]
    exact show 29 ≤ 65536 by decide
  refine ⟨_, rtmpChunkWrite_of_le (createStreamResultMessage transactionId) hfit,
    fun earlier => ?_⟩
  have hbits : doubleBits [0x3F, 0xF0, 0, 0, 0, 0, 0, 0] = doubleOne := by decide
  have hnumber : amfEncodeNumber doubleOne = 0x00 :: [0x3F, 0xF0, 0, 0, 0, 0, 0, 0] := by decide
  have hpayload : (createStreamResultMessage transactionId).payload =
      amfEncodeString (ascii "_result") ++ amfEncodeNumber transactionId ++ amfEncodeNull ++
        0x00 :: [0x3F, 0xF0, 0, 0, 0, 0, 0, 0] := by
    rw [← hnumber]
    rfl
  have hlength : (createStreamResultMessage transactionId).payload.length = 29 := rfl
  rw [← hbits]
  apply extractStreamId_of_last
  · simp only [List.length_append, hlength]
    omega
  · rw [hpayload, ← List.append_assoc, ← List.append_assoc]
  · rfl
  · rw [hbits]
    decide

/-! ### A whole session -/

/-- The server is in step with the client, whose target does not change. -/
def Client.InService (target : Target) (c : Client) : Prop :=
  c.target = target ∧ ∃ phase, c.Served phase

theorem Client.InService.step {target : Target} (ht : target.Stored) {c : Client} {e : Event}
    (h : c.InService target) (hfits : c.OneChunk e) : (c.step e).InService target := by
  obtain ⟨rfl, phase, hserved⟩ := h
  exact ⟨c.step_target e, hserved.step ht hfits⟩

/-- A session that sends one video frame. -/
def oneFrameSession : List Event :=
  [.establish, .connect, .createStream 1, .publish, .announce, .adoptChunkSize, .audioConfig,
    .video 40 [0x17, 1, 0, 0, 0]]

end RtmpClient
