import Strero.Rtsp.RequestEffects

/-!
# SETUP requests that are refused

`handle_setup_request` writes the stream, the transport, the ports and the socket into the slot
as it goes through a request, and may refuse it between any two of these writes. What it has
written by then stays.
-/

namespace Rtsp

open CString

/-- What a slot holds of its stream and of the way to its client is the same. -/
structure SameMedia (before after : Client) : Prop where
  videoChannel : before.videoChannel = after.videoChannel
  codec : before.codec = after.codec
  transportMode : before.transportMode = after.transportMode
  rtpPort : before.rtpPort = after.rtpPort
  rtcpPort : before.rtcpPort = after.rtcpPort
  rtpAddress : before.rtpAddress = after.rtpAddress
  rtcpAddress : before.rtcpAddress = after.rtcpAddress
  rtpSocketFd : before.rtpSocketFd = after.rtpSocketFd
  state : before.state = after.state

/-- What is said of the slot after every answer with a status other than 200. -/
def WhenRefused (before : Client) (r : Client × ℤ) (property : Client → Prop) : Prop :=
  ∀ response, r.1.responses = before.responses ++ [response] → response.statusCode ≠ 200 →
    property r.1

/-- A refused SETUP changes nothing. -/
def Client.RefusalChangesNothing (client : Client) (config : Config) (exchange : Exchange)
    (url transport : List UInt8) : Prop :=
  WhenRefused client (client.handleSetupRequest config exchange url transport) (SameMedia client)

/-! ### What has been written before a refusal -/

/-- The slot holds the stream that SETUP stores for the tracks of its video. -/
def Client.HoldsStream (client : Client) (stream : StreamConfig) (trackId : ℤ) : Prop :=
  trackId = 1 ∨ trackId = 0 →
    client.videoChannel = stream.channel ∧ client.codec = stream.codec

/-- The slot holds the ports and the descriptor. -/
def Client.HoldsPorts (client : Client) (ports : ℤ × ℤ) (rtpSocketFd : ℤ) : Prop :=
  client.rtpPort = ports.1 ∧ client.rtcpPort = ports.2 ∧
    client.rtpAddress = client.socketAddress ports.1 ∧
    client.rtcpAddress = client.socketAddress ports.2 ∧ client.rtpSocketFd = rtpSocketFd

/-- The slot already holds what SETUP writes to it before it refuses a request for datagrams:
without ports the stream and the transport, and without a socket the ports and the failed
descriptor too. -/
def Client.HoldsRefused (client : Client) (config : Config) (exchange : Exchange)
    (url transport : List UInt8) : Prop :=
  ∀ stream trackId, client.setupTarget config url = .ok (stream, trackId) →
    contains transport (ascii "RTP/AVP/TCP") = false →
    match client.requestedPorts transport with
    | none => client.HoldsStream stream trackId ∧ client.transportMode = .udp
    | some ports => exchange.rtpSocket < 0 →
      client.HoldsStream stream trackId ∧ client.transportMode = .udp ∧
        client.HoldsPorts ports exchange.rtpSocket

/-- A response changes nothing of the media. -/
theorem sameMedia_sendRtspResponse_iff {before client : Client} (exchange : Exchange)
    (statusCode : ℕ) (statusText : String) (headers : List UInt8) (body : Option (List UInt8)) :
    SameMedia before (client.sendRtspResponse exchange statusCode statusText headers body).1 ↔
      SameMedia before client := by
  unfold Client.sendRtspResponse
  split
  · exact ⟨fun h => ⟨h.1, h.2, h.3, h.4, h.5, h.6, h.7, h.8, h.9⟩,
      fun h => ⟨h.1, h.2, h.3, h.4, h.5, h.6, h.7, h.8, h.9⟩⟩
  · exact Iff.rfl

/-- A response refuses the request if it is sent and has another status than 200. -/
theorem whenRefused_sendRtspResponse_iff {before client : Client} {exchange : Exchange}
    {statusCode : ℕ} {statusText : String} {headers : List UInt8} {body : Option (List UInt8)}
    (hresponses : client.responses = before.responses) :
    WhenRefused before (client.sendRtspResponse exchange statusCode statusText headers body)
        (SameMedia before) ↔
      (exchange.sendOk = true → statusCode ≠ 200 → SameMedia before client) := by
  unfold WhenRefused
  rw [sameMedia_sendRtspResponse_iff]
  cases hsend : exchange.sendOk with
  | true =>
    rw [Client.sendRtspResponse_responses _ _ _ _ _ _ hsend, hresponses]
    constructor
    · exact fun h _ hstatus => h _ rfl hstatus
    · intro h response hresponse hstatus
      obtain rfl := List.singleton_inj.mp (List.append_cancel_left hresponse)
      exact h rfl hstatus
  | false =>
    have hnone : (client.sendRtspResponse exchange statusCode statusText headers body).1.responses =
        before.responses := by
      rw [Client.sendRtspResponse, if_neg (by simp [hsend]), hresponses]
    rw [hnone]
    exact iff_of_true (fun response hresponse => by simp at hresponse) (fun h => by cases h)

/-- Only the channel and the codec of the stream are stored. -/
theorem selectStream_eq (client : Client) (stream : StreamConfig) (trackId : ℤ) :
    ∃ videoChannel codec, client.selectStream stream trackId =
        { client with videoChannel := videoChannel, codec := codec } ∧
      (client.HoldsStream stream trackId ↔
        client.videoChannel = videoChannel ∧ client.codec = codec) := by
  unfold Client.selectStream Client.HoldsStream
  by_cases htrack : trackId = 1 ∨ trackId = 0
  · rw [if_pos htrack]
    exact ⟨_, _, rfl, fun h => h htrack, fun h _ => h⟩
  · rw [if_neg htrack]
    exact ⟨client.videoChannel, client.codec, rfl,
      fun _ => ⟨rfl, rfl⟩, fun _ hvideo => absurd hvideo htrack⟩

/-- A transport for datagrams without ports, or without a socket, is refused. -/
theorem setupUdpTransport_whenRefused_iff {client selected : Client} (exchange : Exchange)
    (transport : List UInt8) {videoChannel : ℤ} {codec : Codec}
    (hselected : selected = { client with videoChannel := videoChannel, codec := codec }) :
    WhenRefused client (selected.setupUdpTransport exchange transport) (SameMedia client) ↔
      (exchange.sendOk = true →
        match client.requestedPorts transport with
        | none => (client.videoChannel = videoChannel ∧ client.codec = codec) ∧
          client.transportMode = .udp
        | some ports => exchange.rtpSocket < 0 →
          (client.videoChannel = videoChannel ∧ client.codec = codec) ∧
            client.transportMode = .udp ∧ client.HoldsPorts ports exchange.rtpSocket) := by
  have hports : ∀ mode, Client.requestedPorts { selected with transportMode := mode } transport =
      client.requestedPorts transport := by
    rw [hselected]
    exact fun _ => rfl
  unfold Client.setupUdpTransport
  dsimp only
  rw [hports]
  subst hselected
  cases client.requestedPorts transport with
  | none =>
    dsimp only
    refine Iff.trans (whenRefused_sendRtspResponse_iff rfl) ?_
    refine imp_congr_right fun _ => ⟨fun h => ?_, fun h _ => ?_⟩
    · have hmedia := h (by decide)
      exact ⟨⟨hmedia.videoChannel, hmedia.codec⟩, hmedia.transportMode⟩
    · exact ⟨h.1.1, h.1.2, h.2, rfl, rfl, rfl, rfl, rfl, rfl⟩
  | some ports =>
    dsimp only
    by_cases hsocket : exchange.rtpSocket < 0
    · rw [if_pos hsocket]
      refine Iff.trans (whenRefused_sendRtspResponse_iff rfl) ?_
      refine imp_congr_right fun _ => ⟨fun h _ => ?_, fun h _ => ?_⟩
      · have hmedia := h (by decide)
        exact ⟨⟨hmedia.videoChannel, hmedia.codec⟩, hmedia.transportMode, hmedia.rtpPort,
          hmedia.rtcpPort, hmedia.rtpAddress, hmedia.rtcpAddress, hmedia.rtpSocketFd⟩
      · obtain ⟨⟨hchannel, hcodec⟩, hmode, hrtpPort, hrtcpPort, hrtp, hrtcp, hfd⟩ := h hsocket
        exact ⟨hchannel, hcodec, hmode, hrtpPort, hrtcpPort, hrtp, hrtcp, hfd, rfl⟩
    · rw [if_neg hsocket, Client.finishSetup]
      refine Iff.trans (whenRefused_sendRtspResponse_iff rfl) ?_
      exact imp_congr_right fun _ => iff_of_true (fun h => absurd rfl h)
        (fun h => absurd h hsocket)

/-- A refused SETUP changes nothing exactly if the answer cannot be sent, or the slot already
holds what is written to it before the refusal. -/
theorem refusalChangesNothing_iff (client : Client) (config : Config) (exchange : Exchange)
    (url transport : List UInt8) :
    client.RefusalChangesNothing config exchange url transport ↔
      (exchange.sendOk = true → client.HoldsRefused config exchange url transport) := by
  unfold Client.RefusalChangesNothing Client.handleSetupRequest Client.HoldsRefused
  cases htarget : client.setupTarget config url with
  | error refusal =>
    refine Iff.trans (whenRefused_sendRtspResponse_iff rfl) ?_
    exact iff_of_true (fun _ _ => ⟨rfl, rfl, rfl, rfl, rfl, rfl, rfl, rfl, rfl⟩)
      (fun _ _ _ hok => by cases hok)
  | ok target =>
    obtain ⟨stream, trackId⟩ := target
    obtain ⟨videoChannel, codec, hselected, hholds⟩ := selectStream_eq client stream trackId
    dsimp only
    by_cases htcp : contains transport (ascii "RTP/AVP/TCP") = true
    · -- interleaved media are never refused
      rw [if_pos htcp, hselected, Client.setupTcpTransport, Client.finishSetup]
      refine Iff.trans (whenRefused_sendRtspResponse_iff (by split <;> rfl)) ?_
      refine iff_of_true (fun _ h => absurd rfl h) (fun _ _ _ _ hudp => ?_)
      rw [htcp] at hudp
      cases hudp
    · have hudp : contains transport (ascii "RTP/AVP/TCP") = false := by simpa using htcp
      rw [if_neg htcp, setupUdpTransport_whenRefused_iff exchange transport hselected, ← hholds]
      refine imp_congr_right fun _ => ⟨fun h stream' trackId' hok _ => ?_,
        fun h => h stream trackId rfl hudp⟩
      obtain ⟨rfl, rfl⟩ := Prod.mk.inj (Except.ok.inj hok)
      exact h

/-! ### A viewer that asks for another track -/

/-- A client that plays the first channel on its RTSP connection. -/
def interleavedViewer : Client :=
  { Client.initial with
    socketFd := 5
    active := true
    state := .playing
    transportMode := .tcp
    rtcpPort := 1 }

/-- A SETUP for datagrams that names no ports is answered with 400, and the media go over to
datagrams. -/
theorem not_refusalChangesNothing : ¬∀ (client : Client) (config : Config) (exchange : Exchange)
    (url transport : List UInt8),
    client.RefusalChangesNothing config exchange url transport := by
  intro h
  have hkept := h interleavedViewer openConfig
    (.receive "SETUP rtsp://192.168.1.10/ch0/track1 RTSP/1.0\r\n" (by decide))
    (ascii "rtsp://192.168.1.10/ch0/track1") (ascii "RTP/AVP;unicast") _ rfl (by decide)
  exact absurd hkept.transportMode (by decide +kernel)

end Rtsp
