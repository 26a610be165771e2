import Strero.Rtsp.RequestEffects

/-!
# What a connection finds in its slot

A new connection sets some fields of its slot and leaves the others as they are. Two slots
that differ only in those are treated alike by every request, as long as the ports are not
used before the connection has named them, and the stream not before it has selected one.
-/

namespace Rtsp

open CString AuthUtils

/-- The fields that a new connection does not set. -/
structure Leftover where
  cseq : ℤ
  rtpAddress : SocketAddress
  rtcpAddress : SocketAddress
  rtpPort : ℤ
  rtcpPort : ℤ
  videoChannel : ℤ
  codec : Codec
  supportsBackchannel : Bool

/-- The slot with other contents of these fields. -/
def Client.put (client : Client) (leftover : Leftover) : Client :=
  { client with
    cseq := leftover.cseq
    rtpAddress := leftover.rtpAddress
    rtcpAddress := leftover.rtcpAddress
    rtpPort := leftover.rtpPort
    rtcpPort := leftover.rtcpPort
    videoChannel := leftover.videoChannel
    codec := leftover.codec
    supportsBackchannel := leftover.supportsBackchannel }

/-- What a connection has set itself: its ports or channels, and its stream. -/
structure Own where
  ports : Bool
  video : Bool
deriving DecidableEq

/-- The ports or channels that SETUP takes from its transport. -/
def Client.setupPorts (client : Client) (transport : List UInt8) : Option (ℤ × ℤ) :=
  if contains transport (ascii "RTP/AVP/TCP") then (transportPair "interleaved=").scan transport
  else client.requestedPorts transport

/-- What the connection has set itself once a request has been served. -/
def Own.serve (own : Own) (client : Client) (config : Config) (request : Request) : Own :=
  if request.method = .setup then
    match client.setupTarget config request.url with
    | .error _ => own
    | .ok (_, trackId) =>
      ⟨own.ports || (client.setupPorts request.transport).isSome,
        own.video || trackId = 1 || trackId = 0⟩
  else own

/-- The request uses only what the connection has set itself: SETUP with interleaved
transport has channels, and PLAY has a stream. -/
def Own.Suffices (own : Own) (client : Client) (config : Config) (request : Request) : Prop :=
  (request.method = .setup → (client.setupTarget config request.url).isOk = true →
    contains request.transport (ascii "RTP/AVP/TCP") = true →
    (client.setupPorts request.transport).isSome = true ∨ own.ports = true) ∧
  (request.method = .play → client.state = .ready ∨ client.state = .playing → own.video = true)

instance (own : Own) (client : Client) (config : Config) (request : Request) :
    Decidable (own.Suffices client config request) :=
  inferInstanceAs (Decidable (_ ∧ _))

/-- Two slots of the same connection differ at most in what was left in them, and not in
what the connection has set itself. -/
structure Agree (own : Own) (c d : Client) : Prop where
  same : ∃ leftover, d = c.put leftover
  ports : own.ports = true → d.rtpPort = c.rtpPort ∧ d.rtcpPort = c.rtcpPort
  video : own.video = true → d.videoChannel = c.videoChannel ∧ d.codec = c.codec
  address : 0 ≤ c.rtpSocketFd → d.rtpAddress = c.rtpAddress
  tcp : c.transportMode = .tcp → own.ports = true
  playing : c.state = .playing → own.video = true

/-- Two results of a handler agree. -/
def AgreeResult (own : Own) (r r' : Client × ℤ) : Prop := Agree own r.1 r'.1 ∧ r.2 = r'.2

section Handlers

variable {own : Own} {c d : Client} {config : Config} {exchange : Exchange}

/-- A response has the same text, and the slots still agree. -/
theorem Agree.sendRtspResponse (h : Agree own c d) (hcseq : d.cseq = c.cseq) (statusCode : ℕ)
    (statusText : String) (headers : List UInt8) (body : Option (List UInt8)) :
    AgreeResult own (c.sendRtspResponse exchange statusCode statusText headers body)
      (d.sendRtspResponse exchange statusCode statusText headers body) := by
  obtain ⟨⟨⟨cseq, _, _, _, _, _, _, _⟩, rfl⟩, hports, hvideo, haddress, htcp, hplaying⟩ := h
  obtain rfl : cseq = c.cseq := hcseq
  unfold Client.sendRtspResponse
  split <;>
    exact ⟨⟨⟨⟨_, _, _, _, _, _, _, _⟩, rfl⟩, hports, hvideo, haddress, htcp, hplaying⟩, rfl⟩

/-- The backchannel flag is one of the fields that may differ. -/
theorem Agree.setBackchannel (h : Agree own c d) (supported supported' : Bool) :
    Agree own { c with supportsBackchannel := supported }
      { d with supportsBackchannel := supported' } := by
  obtain ⟨⟨leftover, rfl⟩, hports, hvideo, haddress, htcp, hplaying⟩ := h
  exact ⟨⟨{ leftover with supportsBackchannel := supported' }, rfl⟩, hports, hvideo, haddress,
    htcp, hplaying⟩

/-- Another state of the session. -/
theorem Agree.setState (h : Agree own c d) (state : ClientState)
    (hstate : state = .playing → own.video = true) :
    Agree own { c with state := state } { d with state := state } := by
  obtain ⟨⟨leftover, rfl⟩, hports, hvideo, haddress, htcp, -⟩ := h
  exact ⟨⟨leftover, rfl⟩, hports, hvideo, haddress, htcp, hstate⟩

/-- The session starts to play. -/
theorem Agree.startPlaying (h : Agree own c d) (hown : own.video = true) (rtpSeq : UInt16)
    (rtpSsrc : UInt32) :
    Agree own { c with state := .playing, rtpSeq := rtpSeq, rtpSsrc := rtpSsrc }
      { d with state := .playing, rtpSeq := rtpSeq, rtpSsrc := rtpSsrc } := by
  obtain ⟨⟨leftover, rfl⟩, hports, hvideo, haddress, htcp, -⟩ := h
  exact ⟨⟨leftover, rfl⟩, hports, hvideo, haddress, htcp, fun _ => hown⟩

/-- The end of PLAY: the session waits for a key frame if the response was sent and its
channel is one of the video streams. -/
theorem AgreeResult.awaitIdr {r r' : Client × ℤ} (h : AgreeResult own r r')
    (hown : own.video = true) (playTime : UInt32) :
    AgreeResult own
      (if r.2 = 0 ∧ r.1.videoChannel < maxVideoStreams then
        ({ r.1 with needsIdr := true, idrWaitStartUs := playTime }, r.2) else (r.1, r.2))
      (if r'.2 = 0 ∧ r'.1.videoChannel < maxVideoStreams then
        ({ r'.1 with needsIdr := true, idrWaitStartUs := playTime }, r'.2) else (r'.1, r'.2)) := by
  obtain ⟨c, result⟩ := r
  obtain ⟨d, result'⟩ := r'
  obtain ⟨hagree, rfl⟩ := h
  dsimp only at hagree ⊢
  have hchannel := (hagree.video hown).1
  by_cases hstart : result = 0 ∧ c.videoChannel < maxVideoStreams
  · have hstart' : result = 0 ∧ d.videoChannel < maxVideoStreams := hchannel.symm ▸ hstart
    rw [if_pos hstart, if_pos hstart']
    obtain ⟨⟨leftover, rfl⟩, hports, hvideo, haddress, htcp, hplaying⟩ := hagree
    exact ⟨⟨⟨leftover, rfl⟩, hports, hvideo, haddress, htcp, hplaying⟩, rfl⟩
  · have hstart' : ¬(result = 0 ∧ d.videoChannel < maxVideoStreams) := hchannel.symm ▸ hstart
    rw [if_neg hstart, if_neg hstart']
    exact ⟨hagree, rfl⟩

/-- DESCRIBE sets the flag before its description is made. -/
theorem Agree.handleDescribeRequest (h : Agree own c d) (hcseq : d.cseq = c.cseq)
    (url : List UInt8) :
    AgreeResult own (c.handleDescribeRequest config exchange url)
      (d.handleDescribeRequest config exchange url) := by
  have hbuffer : contains d.requestBuffer backchannelHeader =
      contains c.requestBuffer backchannelHeader := by
    obtain ⟨⟨leftover, rfl⟩, -⟩ := h
    rfl
  unfold Client.handleDescribeRequest
  rw [hbuffer]
  dsimp only
  generalize contains c.requestBuffer backchannelHeader = supported
  have hset := h.setBackchannel supported supported
  split
  · exact hset.sendRtspResponse hcseq _ _ _ _
  · split
    · exact hset.sendRtspResponse hcseq _ _ _ _
    · have hsdp : ∀ streamName, generateSdp config streamName
          { d with supportsBackchannel := supported } exchange.sdpTime =
          generateSdp config streamName { c with supportsBackchannel := supported }
            exchange.sdpTime := fun _ => rfl
      rw [hsdp]
      split
      · exact hset.sendRtspResponse hcseq _ _ _ _
      · exact hset.sendRtspResponse hcseq _ _ _ _

/-- The end of SETUP prints ports that the connection has named. -/
theorem Agree.finishSetup (h : Agree own c d) (hcseq : d.cseq = c.cseq)
    (hports : own.ports = true) (transport : String) :
    AgreeResult own (c.finishSetup exchange transport) (d.finishSetup exchange transport) := by
  unfold Client.finishSetup
  have htext : ascii transport ++ printInt d.rtpPort ++ ascii "-" ++ printInt d.rtcpPort =
      ascii transport ++ printInt c.rtpPort ++ ascii "-" ++ printInt c.rtcpPort := by
    rw [(h.ports hports).1, (h.ports hports).2]
  rw [htext]
  exact (h.setState .ready nofun).sendRtspResponse hcseq _ _ _ _

/-- SETUP with interleaved transport. -/
theorem Agree.setupTcpTransport {transport : List UInt8} (h : Agree own c d)
    (hcseq : d.cseq = c.cseq)
    (hsuffices : ((transportPair "interleaved=").scan transport).isSome = true ∨
      own.ports = true) :
    AgreeResult ⟨own.ports || ((transportPair "interleaved=").scan transport).isSome, own.video⟩
      (c.setupTcpTransport exchange transport) (d.setupTcpTransport exchange transport) := by
  obtain ⟨⟨leftover, rfl⟩, hports, hvideo, haddress, htcp, hplaying⟩ := h
  unfold Client.setupTcpTransport
  dsimp only
  cases hpair : (transportPair "interleaved=").scan transport with
  | none =>
    have hown : own.ports = true := by simpa [hpair] using hsuffices
    have hset : Agree ⟨own.ports || (none : Option (ℤ × ℤ)).isSome, own.video⟩
        { c with transportMode := .tcp } { c.put leftover with transportMode := .tcp } := by
      refine ⟨⟨leftover, rfl⟩, fun _ => hports hown, hvideo, haddress, fun _ => ?_, hplaying⟩
      simp [hown]
    exact hset.finishSetup hcseq (by simp [hown]) _
  | some pair =>
    have hset : Agree ⟨own.ports || (some pair).isSome, own.video⟩
        { c with transportMode := .tcp, rtpPort := pair.1, rtcpPort := pair.2 }
        { c.put leftover with transportMode := .tcp, rtpPort := pair.1, rtcpPort := pair.2 } := by
      refine ⟨⟨{ leftover with rtpPort := pair.1, rtcpPort := pair.2 }, rfl⟩, fun _ => ⟨rfl, rfl⟩,
        hvideo, haddress, fun _ => ?_, hplaying⟩
      simp
    exact hset.finishSetup hcseq (by simp) _

/-- SETUP with datagrams. -/
theorem Agree.setupUdpTransport (h : Agree own c d) (hcseq : d.cseq = c.cseq)
    (transport : List UInt8) :
    AgreeResult ⟨own.ports || (c.requestedPorts transport).isSome, own.video⟩
      (c.setupUdpTransport exchange transport) (d.setupUdpTransport exchange transport) := by
  obtain ⟨⟨leftover, rfl⟩, hports, hvideo, haddress, htcp, hplaying⟩ := h
  unfold Client.setupUdpTransport
  dsimp only
  have hsame : Client.requestedPorts { c.put leftover with transportMode := .udp } transport =
    c.requestedPorts transport := rfl
  have hudp : Client.requestedPorts { c with transportMode := .udp } transport =
    c.requestedPorts transport := rfl
  rw [hsame, hudp]
  cases c.requestedPorts transport with
  | none =>
    have hset : Agree ⟨own.ports || (none : Option (ℤ × ℤ)).isSome, own.video⟩
        { c with transportMode := .udp } { c.put leftover with transportMode := .udp } := by
      refine ⟨⟨leftover, rfl⟩, fun hown => hports ?_, hvideo, haddress, nofun, hplaying⟩
      simpa using hown
    exact hset.sendRtspResponse hcseq _ _ _ _
  | some pair =>
    dsimp only
    have hset : Agree ⟨own.ports || (some pair).isSome, own.video⟩
        { c with
          transportMode := .udp
          rtpPort := pair.1
          rtcpPort := pair.2
          rtpAddress := c.socketAddress pair.1
          rtcpAddress := c.socketAddress pair.2
          rtpSocketFd := exchange.rtpSocket }
        { c.put leftover with
          transportMode := .udp
          rtpPort := pair.1
          rtcpPort := pair.2
          rtpAddress := c.socketAddress pair.1
          rtcpAddress := c.socketAddress pair.2
          rtpSocketFd := exchange.rtpSocket } :=
      ⟨⟨⟨leftover.cseq, c.socketAddress pair.1, c.socketAddress pair.2, pair.1, pair.2,
        leftover.videoChannel, leftover.codec, leftover.supportsBackchannel⟩, rfl⟩,
        fun _ => ⟨rfl, rfl⟩, hvideo, fun _ => rfl, nofun, hplaying⟩
    split
    · exact hset.sendRtspResponse hcseq _ _ _ _
    · exact hset.finishSetup hcseq (by simp) _

/-- The stream that SETUP selects. -/
theorem Agree.selectStream (h : Agree own c d) (stream : StreamConfig) (trackId : ℤ) :
    Agree ⟨own.ports, own.video || trackId = 1 || trackId = 0⟩ (c.selectStream stream trackId)
      (d.selectStream stream trackId) := by
  obtain ⟨⟨leftover, rfl⟩, hports, hvideo, haddress, htcp, hplaying⟩ := h
  unfold Client.selectStream
  split
  · rename_i hvideoTrack
    refine ⟨⟨{ leftover with videoChannel := stream.channel, codec := stream.codec }, rfl⟩, hports,
      fun _ => ⟨rfl, rfl⟩, haddress, htcp, fun hstate => ?_⟩
    simp [hplaying hstate]
  · rename_i hother
    refine ⟨⟨leftover, rfl⟩, hports, fun hown => hvideo ?_, haddress, htcp, fun hstate => ?_⟩
    · rw [not_or] at hother
      simpa [hother] using hown
    · simp [hplaying hstate]

/-- What a connection has set itself stays set. -/
theorem Agree.mono {ports video : Bool} (h : Agree own c d) (hports : ports = own.ports)
    (hvideo : video = own.video) : Agree ⟨ports, video⟩ c d := by
  subst hports hvideo
  exact h

/-- SETUP, if it names its channels or they have been named. -/
theorem Agree.handleSetupRequest {request : Request} (h : Agree own c d) (hcseq : d.cseq = c.cseq)
    (hmethod : request.method = .setup) (hsuffices : own.Suffices c config request) :
    AgreeResult (own.serve c config request)
      (c.handleSetupRequest config exchange request.url request.transport)
      (d.handleSetupRequest config exchange request.url request.transport) := by
  have htarget : d.setupTarget config request.url = c.setupTarget config request.url := by
    obtain ⟨⟨leftover, rfl⟩, -⟩ := h
    rfl
  have hchannels := hsuffices.1 hmethod
  unfold Client.handleSetupRequest Own.serve
  rw [htarget, if_pos hmethod]
  cases hok : c.setupTarget config request.url with
  | error refusal => exact h.sendRtspResponse hcseq _ _ _ _
  | ok target =>
    obtain ⟨stream, trackId⟩ := target
    have hselect := h.selectStream stream trackId
    have hselected :
        (d.selectStream stream trackId).cseq = (c.selectStream stream trackId).cseq := by
      rw [(d.selectStream_same stream trackId).1.cseq, (c.selectStream_same stream trackId).1.cseq,
        hcseq]
    dsimp only
    unfold Client.setupPorts at hchannels ⊢
    split
    · rename_i htcp
      rw [if_pos htcp] at hchannels
      exact hselect.setupTcpTransport hselected (hchannels (by rw [hok]; rfl) htcp)
    · have hports : (c.selectStream stream trackId).requestedPorts request.transport =
          c.requestedPorts request.transport := by
        rw [Client.requestedPorts, Client.requestedPorts,
          (c.selectStream_same stream trackId).2.2]
      rw [← hports]
      exact hselect.setupUdpTransport hselected _

/-- PLAY, if a stream has been selected. -/
theorem Agree.handlePlayRequest (h : Agree own c d) (hcseq : d.cseq = c.cseq)
    (hstream : c.state = .ready ∨ c.state = .playing → own.video = true) :
    AgreeResult own (c.handlePlayRequest exchange) (d.handlePlayRequest exchange) := by
  have hflag : ∀ client : Client, ∃ supported,
      (if contains client.requestBuffer backchannelHeader then
        { client with supportsBackchannel := true } else client) =
        { client with supportsBackchannel := supported } := by
    intro client
    split
    · exact ⟨true, rfl⟩
    · exact ⟨client.supportsBackchannel, rfl⟩
  obtain ⟨supported, hc⟩ := hflag c
  obtain ⟨supported', hd⟩ := hflag d
  unfold Client.handlePlayRequest
  rw [hc, hd]
  have hset := h.setBackchannel supported supported'
  have hstate : d.state = c.state := by
    obtain ⟨⟨leftover, rfl⟩, -⟩ := h
    rfl
  dsimp only
  by_cases hidle : c.state ≠ .ready ∧ c.state ≠ .playing
  · have hidle' : d.state ≠ .ready ∧ d.state ≠ .playing := hstate.symm ▸ hidle
    rw [if_pos hidle, if_pos hidle']
    exact hset.sendRtspResponse hcseq _ _ _ _
  · have hidle' : ¬(d.state ≠ .ready ∧ d.state ≠ .playing) := hstate.symm ▸ hidle
    have hown : own.video = true := hstream (by tauto)
    rw [if_neg hidle, if_neg hidle']
    have hplay := hset.startPlaying hown exchange.rtpSeq exchange.rtpSsrc
    exact (hplay.sendRtspResponse hcseq _ _ _ _).awaitIdr hown exchange.playTime

/-- PAUSE. -/
theorem Agree.handlePauseRequest (h : Agree own c d) (hcseq : d.cseq = c.cseq) :
    AgreeResult own (c.handlePauseRequest exchange) (d.handlePauseRequest exchange) := by
  have hstate : d.state = c.state := by
    obtain ⟨⟨leftover, rfl⟩, -⟩ := h
    rfl
  unfold Client.handlePauseRequest
  rw [hstate]
  split
  · exact h.sendRtspResponse hcseq _ _ _ _
  · exact (h.setState .ready nofun).sendRtspResponse hcseq _ _ _ _

/-- Slots that are cleaned up still agree. -/
theorem Agree.cleanup (h : Agree own c d) : Agree own c.cleanup d.cleanup := by
  obtain ⟨⟨leftover, rfl⟩, hports, hvideo, -, htcp, -⟩ := h
  exact ⟨⟨leftover, rfl⟩, hports, hvideo, nofun, htcp, nofun⟩

/-- Two requests were handled alike. -/
structure AgreeHandled (own : Own) (handled handled' : Handled) : Prop where
  client : Agree own handled.client handled'.client
  result : handled.result = handled'.result
  released : handled.released = handled'.released

/-- Every handler treats the slots alike if what the connection has set suffices. -/
theorem Agree.handleRequest {request : Request} (h : Agree own c d) (hcseq : d.cseq = c.cseq)
    (hsuffices : own.Suffices c config request) :
    AgreeHandled (own.serve c config request) (c.handleRequest config exchange request)
      (d.handleRequest config exchange request) := by
  have hother : request.method ≠ .setup → own.serve c config request = own := fun hne => if_neg hne
  have hof : ∀ {own : Own} {r r' : Client × ℤ}, AgreeResult own r r' →
      AgreeHandled own (.of r) (.of r') := fun h => ⟨h.1, h.2, rfl⟩
  unfold Client.handleRequest
  cases hmethod : request.method with
  | setup => exact hof (h.handleSetupRequest hcseq hmethod hsuffices)
  | unknown =>
    rw [hother (by rw [hmethod]; decide)]
    exact hof (h.sendRtspResponse hcseq _ _ _ _)
  | options =>
    rw [hother (by rw [hmethod]; decide)]
    exact hof (h.sendRtspResponse hcseq _ _ _ _)
  | describe =>
    rw [hother (by rw [hmethod]; decide)]
    exact hof (h.handleDescribeRequest hcseq _)
  | play =>
    rw [hother (by rw [hmethod]; decide)]
    exact hof (h.handlePlayRequest hcseq (hsuffices.2 hmethod))
  | pause =>
    rw [hother (by rw [hmethod]; decide)]
    exact hof (h.handlePauseRequest hcseq)
  | teardown =>
    rw [hother (by rw [hmethod]; decide)]
    obtain ⟨hsent, hresult⟩ :=
      Agree.sendRtspResponse (h.setState .init nofun) hcseq 200 "OK" [] none
    exact ⟨hsent.cleanup, hresult, rfl⟩

end Handlers

/-! ### A turn of the loop over the slots -/

/-- What the connection has set itself once some data have been handled. -/
def Own.after (own : Own) (client : Client) (config : Config) (exchange : Exchange) : Own :=
  match client.servedRequest config exchange with
  | none => own
  | some request => own.serve client config request

/-- The request in the data, if one is served, uses only what the connection has set itself. -/
def Own.SufficesFor (own : Own) (client : Client) (config : Config) (exchange : Exchange) : Prop :=
  ∀ request ∈ client.servedRequest config exchange, own.Suffices client config request

instance (own : Own) (client : Client) (config : Config) (exchange : Exchange) :
    Decidable (own.SufficesFor client config exchange) :=
  inferInstanceAs (Decidable (∀ request ∈ client.servedRequest config exchange, _))

section Serving

variable {own : Own} {c d : Client} {config : Config} {exchange : Exchange}

/-- What a connection has set is not lost. -/
theorem Own.le_after (own : Own) (client : Client) :
    own.video = true → (own.after client config exchange).video = true := by
  intro hvideo
  unfold Own.after
  split
  · exact hvideo
  · unfold Own.serve
    split
    · split
      · exact hvideo
      · simp [hvideo]
    · exact hvideo

/-- The time and the number of a request. -/
theorem Agree.receive (h : Agree own c d) (now : UInt32) (cseq : ℤ) :
    Agree own { c with lastActivityUs := now, cseq := cseq }
      { d with lastActivityUs := now, cseq := cseq } := by
  obtain ⟨⟨leftover, rfl⟩, hports, hvideo, haddress, htcp, hplaying⟩ := h
  exact ⟨⟨{ leftover with cseq := cseq }, rfl⟩, hports, hvideo, haddress, htcp, hplaying⟩

/-- The mark of a client with interleaved transport. -/
theorem Agree.pauseInterleaved (h : Agree own c d) :
    Agree own c.pauseInterleaved d.pauseInterleaved := by
  have hmark : (d.transportMode = .tcp ∧ d.state = .playing) ↔
      c.transportMode = .tcp ∧ c.state = .playing := by
    obtain ⟨⟨leftover, rfl⟩, -⟩ := h
    exact Iff.rfl
  unfold Client.pauseInterleaved
  by_cases hmarked : c.transportMode = .tcp ∧ c.state = .playing
  · rw [if_pos hmarked, if_pos (hmark.mpr hmarked)]
    exact h.setState .ready nofun
  · rw [if_neg hmarked, if_neg (mt hmark.mp hmarked)]
    exact h

/-- The data of a connection are handled alike. -/
theorem Agree.handleClientConnection (h : Agree own c d)
    (hsuffices : own.SufficesFor c config exchange) :
    Option.Rel (AgreeHandled (own.after c config exchange))
      (c.handleClientConnection config exchange) (d.handleClientConnection config exchange) := by
  unfold Own.SufficesFor Client.servedRequest at hsuffices
  unfold Client.handleClientConnection Own.after Client.servedRequest
  cases hreceived : exchange.received with
  | none => exact .some ⟨h, rfl, rfl⟩
  | some received =>
    rw [hreceived] at hsuffices
    have hdata : d.extractTeardown received.val = c.extractTeardown received.val := by
      obtain ⟨⟨leftover, rfl⟩, -⟩ := h
      rfl
    simp only [Option.bind_some] at hsuffices ⊢
    rw [hdata]
    by_cases hempty : received.val = []
    · rw [if_pos hempty, if_pos hempty, hempty, Client.admittedRequest_nil]
      exact .some ⟨h, rfl, rfl⟩
    rw [if_neg hempty, if_neg hempty]
    unfold admittedRequest at hsuffices ⊢
    by_cases hinterleaved : (c.extractTeardown received.val).head? = some '$'.toUInt8
    · rw [if_pos hinterleaved, if_pos hinterleaved, if_pos hinterleaved]
      exact .some ⟨h, rfl, rfl⟩
    rw [if_neg hinterleaved] at hsuffices
    rw [if_neg hinterleaved, if_neg hinterleaved, if_neg hinterleaved]
    cases hparse : parseRtspRequest (cString (c.extractTeardown received.val)) with
    | none =>
      refine .some ⟨?_, rfl, rfl⟩
      obtain ⟨⟨leftover, rfl⟩, hports, hvideo, haddress, htcp, hplaying⟩ := h
      exact ⟨⟨leftover, rfl⟩, hports, hvideo, haddress, htcp, hplaying⟩
    | some request =>
      have hreceive := h.receive exchange.now request.cseq
      rw [hparse] at hsuffices
      simp only [Option.filter_some] at hsuffices ⊢
      by_cases hunknown : exchange.peer = none ∧ request.method ≠ .teardown
      · have hnot : ¬passes config exchange request := fun hpass => hunknown.2 (hpass.1 hunknown.1)
        rw [if_pos hunknown, if_pos hunknown, if_neg (by simpa using hnot)]
        exact .some ⟨hreceive, rfl, rfl⟩
      rw [if_neg hunknown, if_neg hunknown]
      cases hcheck : checkAuthentication config exchange.peer request with
      | none => exact .none
      | some result =>
        by_cases hresult : result = .success
        · subst hresult
          have hpass : passes config exchange request := ⟨by tauto, hcheck⟩
          rw [if_pos (by simpa using hpass)] at hsuffices ⊢
          exact .some (hreceive.handleRequest rfl (hsuffices request rfl))
        · have hnot : ¬passes config exchange request := by
            intro hpass
            exact hresult (Option.some.inj (hcheck.symm.trans hpass.2))
          rw [if_neg (by simpa using hnot)]
          cases result with
          | success => exact absurd rfl hresult
          | required | invalid | error =>
            refine .some ⟨?_, ?_, rfl⟩
            · exact (hreceive.sendRtspResponse rfl _ _ _ _).1
            · exact (hreceive.sendRtspResponse rfl _ _ _ _).2

/-- The restoration treats the slots alike. -/
theorem AgreeHandled.restore {handled handled' : Handled} {original : ClientState}
    (h : AgreeHandled own handled handled') (hplaying : original = .playing → own.video = true) :
    Agree own (handled.restore original) (handled'.restore original) := by
  have hmark : (handled'.client.active = true ∧ 0 ≤ handled'.result ∧ original = .playing ∧
      handled'.client.state = .ready) ↔ (handled.client.active = true ∧ 0 ≤ handled.result ∧
      original = .playing ∧ handled.client.state = .ready) := by
    obtain ⟨⟨⟨leftover, hleftover⟩, -⟩, hresult, -⟩ := h
    rw [hleftover, hresult]
    exact Iff.rfl
  unfold Handled.restore
  by_cases hrestored : handled.client.active = true ∧ 0 ≤ handled.result ∧ original = .playing ∧
      handled.client.state = .ready
  · rw [if_pos hrestored, if_pos (hmark.mpr hrestored)]
    exact h.client.setState original hplaying
  · rw [if_neg hrestored, if_neg (mt hmark.mp hrestored)]
    exact h.client

/-- A turn serves the slots alike. -/
theorem Agree.serve (h : Agree own c d) (hsuffices : own.SufficesFor c config exchange) :
    Option.Rel (fun r r' => Agree (own.after c config exchange) r.1 r'.1)
      (c.serve config exchange) (d.serve config exchange) := by
  have hstate : d.state = c.state := by
    obtain ⟨⟨leftover, rfl⟩, -⟩ := h
    rfl
  have hpaused : own.SufficesFor c.pauseInterleaved config exchange ∧
      own.after c.pauseInterleaved config exchange = own.after c config exchange := by
    unfold Client.pauseInterleaved
    split
    · rename_i hmarked
      refine ⟨fun request hrequest => ⟨(hsuffices request hrequest).1, fun hmethod _ => ?_⟩, rfl⟩
      exact (hsuffices request hrequest).2 hmethod (.inr hmarked.2)
    · exact ⟨hsuffices, rfl⟩
  have hhandled := h.pauseInterleaved.handleClientConnection hpaused.1
  rw [hpaused.2] at hhandled
  unfold Client.serve
  generalize c.pauseInterleaved.handleClientConnection config exchange = r at hhandled
  generalize d.pauseInterleaved.handleClientConnection config exchange = r' at hhandled
  cases hhandled with
  | none => exact .none
  | some hagree =>
    rename_i handled handled'
    have hrestored := hagree.restore fun hplaying => own.le_after c (h.playing hplaying)
    simp only [Option.bind_eq_bind, Option.bind_some, Option.pure_def, hstate, ← hagree.result]
    split
    · refine .some (Agree.cleanup ?_)
      obtain ⟨⟨leftover, hleftover⟩, hports, hvideo, haddress, htcp, hplaying⟩ := hrestored
      rw [hleftover] at hports hvideo haddress ⊢
      exact ⟨⟨leftover, rfl⟩, hports, hvideo, haddress, htcp, hplaying⟩
    · exact .some hrestored

end Serving

end Rtsp
