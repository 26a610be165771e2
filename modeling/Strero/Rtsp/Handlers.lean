import Strero.Rtsp.Sdp

/-!
# Handling the requests of a client

`handle_client_connection` reads from the connection of a slot, decides whether
the data are a request that may be served, and calls the handler of its method.
What the system calls return meanwhile is an `Exchange`. The value `none` stands
for the overflow that the decoding of credentials can run into.
-/

namespace Rtsp

open CString Scanf AuthUtils

/-- `MAX_RTSP_BUFFER_SIZE`. -/
def maxRtspBufferSize : ℕ := 4096

/-- `MAX_VIDEO_STREAMS`. -/
def maxVideoStreams : ℤ := 2

/-- What the calls made for one slot return: the bytes read, unless reading
failed (none of them once the peer has closed), the clock, the address of the
peer, a new socket, whether a response can be sent, and the numbers drawn and
times taken by the handlers. -/
structure Exchange where
  received : Option {data : List UInt8 // data.length < maxRtspBufferSize}
  now : UInt32
  peer : Option UInt32
  rtpSocket : ℤ
  sendOk : Bool
  rtpSeq : UInt16
  rtpSsrc : UInt32
  playTime : UInt32
  sdpTime : Int32

/-- What a request leaves behind: the slot, the result of
`handle_client_connection`, and whether the handler has counted the client out. -/
structure Handled where
  client : Client
  result : ℤ
  released : Bool

/-- `send_rtsp_response`. -/
def Client.sendRtspResponse (client : Client) (exchange : Exchange) (statusCode : ℕ)
    (statusText : String) (headers : List UInt8) (body : Option (List UInt8)) : Client × ℤ :=
  if exchange.sendOk then
    ({ client with
        responses := client.responses ++
          [⟨statusCode, statusText, client.cseq, client.sessionId, headers, body⟩] }, 0)
  else (client, -1)

/-- `cleanup_client`. -/
def Client.cleanup (client : Client) : Client :=
  { client with
    useTls := false
    sslContext := false
    socketFd := -1
    rtpSocketFd := -1
    active := false
    state := .init
    sessionId := [] }

/-! ### The handlers -/

/-- The header of a client that supports the ONVIF backchannel. -/
def backchannelHeader : List UInt8 := ascii "Require: www.onvif.org/ver20/backchannel"

/-- `handle_options_request`. -/
def Client.handleOptionsRequest (client : Client) (exchange : Exchange) : Client × ℤ :=
  client.sendRtspResponse exchange 200 "OK"
    (ascii "Public: OPTIONS, DESCRIBE, SETUP, PLAY, PAUSE, TEARDOWN\r\n") none

/-- `handle_describe_request`. -/
def Client.handleDescribeRequest (client : Client) (config : Config) (exchange : Exchange)
    (url : List UInt8) : Client × ℤ :=
  let client :=
    { client with supportsBackchannel := contains client.requestBuffer backchannelHeader }
  match extractStreamNameFromUrl config url with
  | none => client.sendRtspResponse exchange 404 "Not Found" [] none
  | some streamName =>
    match config.findStream streamName with
    | none => client.sendRtspResponse exchange 404 "Not Found" [] none
    | some _ =>
      match generateSdp config streamName client exchange.sdpTime with
      | none => client.sendRtspResponse exchange 500 "Internal Server Error" [] none
      | some sdp => client.sendRtspResponse exchange 200 "OK" [] (some sdp)

/-- The stream and the track that a SETUP request names, or the response that
refuses it. -/
def Client.setupTarget (client : Client) (config : Config) (url : List UInt8) :
    Except (ℕ × String) (StreamConfig × ℤ) :=
  match extractStreamNameFromUrl config url with
  | none => .error (404, "Not Found")
  | some streamName =>
    let track := splitTrack streamName
    match config.findStream track.streamName with
    | none => .error (404, "Not Found")
    | some stream =>
      if track.isBackchannel && !contains client.requestBuffer backchannelHeader then
        .error (400, "Bad Request")
      else .ok (stream, track.trackId)

/-- The stream is kept for the tracks of its video. -/
def Client.selectStream (client : Client) (stream : StreamConfig) (trackId : ℤ) : Client :=
  if trackId = 1 ∨ trackId = 0 then
    { client with videoChannel := stream.channel, codec := stream.codec }
  else client

/-- The end of `handle_setup_request`, once the transport is set. -/
def Client.finishSetup (client : Client) (exchange : Exchange) (transport : String) : Client × ℤ :=
  Client.sendRtspResponse { client with state := .ready } exchange 200 "OK"
    (ascii transport ++ printInt client.rtpPort ++ ascii "-" ++ printInt client.rtcpPort ++
      ascii "\r\n") none

/-- The branch for media on the RTSP connection. -/
def Client.setupTcpTransport (client : Client) (exchange : Exchange) (transport : List UInt8) :
    Client × ℤ :=
  let client := { client with transportMode := .tcp }
  let client := match (transportPair "interleaved=").scan transport with
    | some (rtpChannel, rtcpChannel) =>
      { client with rtpPort := rtpChannel, rtcpPort := rtcpChannel }
    | none => client
  client.finishSetup exchange "Transport: RTP/AVP/TCP;unicast;interleaved="

/-- The ports that a client asks for; clients over TLS need not ask. -/
def Client.requestedPorts (client : Client) (transport : List UInt8) : Option (ℤ × ℤ) :=
  match (transportPair "client_port=").scan transport with
  | some ports => some ports
  | none => if client.useTls then some (5004, 5005) else none

/-- A port of the client, as `htons` takes it. -/
def Client.socketAddress (client : Client) (port : ℤ) : SocketAddress :=
  ⟨client.clientAddress, UInt16.ofInt port⟩

/-- The branch for media in datagrams. -/
def Client.setupUdpTransport (client : Client) (exchange : Exchange) (transport : List UInt8) :
    Client × ℤ :=
  let client := { client with transportMode := .udp }
  match client.requestedPorts transport with
  | none => client.sendRtspResponse exchange 400 "Bad Request" [] none
  | some (rtpPort, rtcpPort) =>
    let client :=
      { client with
        rtpPort := rtpPort
        rtcpPort := rtcpPort
        rtpAddress := client.socketAddress rtpPort
        rtcpAddress := client.socketAddress rtcpPort
        rtpSocketFd := exchange.rtpSocket }
    if exchange.rtpSocket < 0 then
      client.sendRtspResponse exchange 500 "Internal Server Error" [] none
    else client.finishSetup exchange "Transport: RTP/AVP;unicast;client_port="

/-- `handle_setup_request`. -/
def Client.handleSetupRequest (client : Client) (config : Config) (exchange : Exchange)
    (url transport : List UInt8) : Client × ℤ :=
  match client.setupTarget config url with
  | .error (statusCode, statusText) =>
    client.sendRtspResponse exchange statusCode statusText [] none
  | .ok (stream, trackId) =>
    let client := client.selectStream stream trackId
    if contains transport (ascii "RTP/AVP/TCP") then client.setupTcpTransport exchange transport
    else client.setupUdpTransport exchange transport

/-- `handle_play_request`. -/
def Client.handlePlayRequest (client : Client) (exchange : Exchange) : Client × ℤ :=
  let client :=
    if contains client.requestBuffer backchannelHeader then
      { client with supportsBackchannel := true }
    else client
  if client.state ≠ .ready ∧ client.state ≠ .playing then
    client.sendRtspResponse exchange 400 "Bad Request" [] none
  else
    let client :=
      { client with state := .playing, rtpSeq := exchange.rtpSeq, rtpSsrc := exchange.rtpSsrc }
    let (client, result) :=
      client.sendRtspResponse exchange 200 "OK" (ascii "Range: npt=0.000-\r\n") none
    if result = 0 ∧ client.videoChannel < maxVideoStreams then
      ({ client with needsIdr := true, idrWaitStartUs := exchange.playTime }, result)
    else (client, result)

/-- `handle_pause_request`. -/
def Client.handlePauseRequest (client : Client) (exchange : Exchange) : Client × ℤ :=
  if client.state ≠ .playing then client.sendRtspResponse exchange 400 "Bad Request" [] none
  else Client.sendRtspResponse { client with state := .ready } exchange 200 "OK" [] none

/-- `handle_teardown_request`. -/
def Client.handleTeardownRequest (client : Client) (exchange : Exchange) : Handled :=
  let (client, result) :=
    Client.sendRtspResponse { client with state := .init } exchange 200 "OK" [] none
  ⟨client.cleanup, result, true⟩

/-- A handler that leaves the count of clients alone. -/
def Handled.of (r : Client × ℤ) : Handled := ⟨r.1, r.2, false⟩

/-- The choice of the handler. -/
def Client.handleRequest (client : Client) (config : Config) (exchange : Exchange)
    (request : Request) : Handled :=
  match request.method with
  | .options => .of (client.handleOptionsRequest exchange)
  | .describe => .of (client.handleDescribeRequest config exchange request.url)
  | .setup => .of (client.handleSetupRequest config exchange request.url request.transport)
  | .play => .of (client.handlePlayRequest exchange)
  | .pause => .of (client.handlePauseRequest exchange)
  | .teardown => client.handleTeardownRequest exchange
  | .unknown => .of (client.sendRtspResponse exchange 405 "Method Not Allowed" [] none)

/-! ### Reading and authentication -/

/-- Of the data that a client with interleaved transport sends, what precedes the
first `TEARDOWN` is dropped. -/
def Client.extractTeardown (client : Client) (data : List UInt8) : List UInt8 :=
  if client.transportMode = .tcp then (strstr data (ascii "TEARDOWN")).getD data else data

/-- The check of `auth_check_rtsp_request`. It is left out where the peer is not
known. -/
def checkAuthentication (config : Config) (peer : Option UInt32) (request : Request) :
    Option AuthResult :=
  match authGetClientInfo peer with
  | none => some .success
  | some client =>
    authCheckRtspRequest config.tableAddress request.text config.auth client

/-- `handle_client_connection`. -/
def Client.handleClientConnection (client : Client) (config : Config) (exchange : Exchange) :
    Option Handled :=
  match exchange.received with
  | none => some ⟨client, -1, false⟩
  | some received =>
    if received.val = [] then some ⟨client, -1, false⟩
    else
      let data := client.extractTeardown received.val
      if data.head? = some '$'.toUInt8 then some ⟨client, 0, false⟩
      else
        let client := { client with lastActivityUs := exchange.now }
        match parseRtspRequest (cString data) with
        | none => some ⟨client, -1, false⟩
        | some request =>
          let client := { client with cseq := request.cseq }
          if exchange.peer = none ∧ request.method ≠ .teardown then some ⟨client, -1, false⟩
          else match checkAuthentication config exchange.peer request with
            | none => none
            | some .required | some .invalid => some (.of (client.sendRtspResponse exchange 401
                "Unauthorized"
                (ascii "WWW-Authenticate: Basic realm=\"Thingino RTSP Server\"\r\n") none))
            | some .error => some (.of (client.sendRtspResponse exchange 500
                "Internal Server Error" [] none))
            | some .success => some (client.handleRequest config exchange request)

end Rtsp
