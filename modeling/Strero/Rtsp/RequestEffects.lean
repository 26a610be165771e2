import Strero.Rtsp.ServerThread

/-!
# What a request does to its slot

One statement for each handler on the state of the session and on the response,
and the inversion of `handle_client_connection`: a request that is admitted goes
to its handler, and anything else leaves the session as it was.
-/

namespace Rtsp

open CString Scanf AuthUtils

variable {client : Client} {config : Config} {exchange : Exchange} {request : Request}

/-! ### Responses -/

section Response

variable (client exchange) (statusCode : ℕ) (statusText : String) (headers : List UInt8)
  (body : Option (List UInt8))

@[simp] theorem Client.sendRtspResponse_state :
    (client.sendRtspResponse exchange statusCode statusText headers body).1.state =
      client.state := by
  unfold Client.sendRtspResponse
  split <;> rfl

@[simp] theorem Client.sendRtspResponse_active :
    (client.sendRtspResponse exchange statusCode statusText headers body).1.active =
      client.active := by
  unfold Client.sendRtspResponse
  split <;> rfl

@[simp] theorem Client.sendRtspResponse_result :
    (client.sendRtspResponse exchange statusCode statusText headers body).2 =
      if exchange.sendOk then 0 else -1 := by
  unfold Client.sendRtspResponse
  split <;> rfl

@[simp] theorem Client.sendRtspResponse_responses (hsend : exchange.sendOk = true) :
    (client.sendRtspResponse exchange statusCode statusText headers body).1.responses =
      client.responses ++
        [⟨statusCode, statusText, client.cseq, client.sessionId, headers, body⟩] := by
  rw [Client.sendRtspResponse, if_pos hsend]

@[simp] theorem Client.sendRtspResponse_socketFd :
    (client.sendRtspResponse exchange statusCode statusText headers body).1.socketFd =
      client.socketFd := by
  unfold Client.sendRtspResponse
  split <;> rfl

/-- A response that is added has the number of the request. -/
theorem Client.sendRtspResponse_numbered (response : Response)
    (h : (client.sendRtspResponse exchange statusCode statusText headers body).1.responses =
      client.responses ++ [response]) : response.cseq = client.cseq := by
  by_cases hsend : exchange.sendOk = true
  · rw [Client.sendRtspResponse_responses _ _ _ _ _ _ hsend] at h
    rw [← List.singleton_inj.mp (List.append_cancel_left h)]
  · rw [Client.sendRtspResponse, if_neg hsend] at h
    simp at h

end Response

/-- The responses so far, the number for the next one, and the connection of the slot are
the same. -/
structure SameConnection (before client : Client) : Prop where
  responses : client.responses = before.responses
  active : client.active = before.active
  socketFd : client.socketFd = before.socketFd
  cseq : client.cseq = before.cseq

/-- What a handler returns that moves the session to a state and answers with 200 if
the request is accepted, and answers with an error otherwise. -/
structure Answered (exchange : Exchange) (before : Client) (r : Client × ℤ) (accepted : Prop)
    (target : ClientState) : Prop where
  response : exchange.sendOk = true → ∃ response,
    r.1.responses = before.responses ++ [response] ∧ (response.statusCode = 200 ↔ accepted)
  numbered : ∀ response, r.1.responses = before.responses ++ [response] →
    response.cseq = before.cseq
  result : r.2 = if exchange.sendOk then 0 else -1
  active : r.1.active = before.active
  socketFd : r.1.socketFd = before.socketFd
  moved : accepted → r.1.state = target
  kept : ¬accepted → r.1.state = before.state

section Answers

variable {before : Client} {accepted : Prop} {statusText : String} {headers : List UInt8}
  {body : Option (List UInt8)} (hsame : SameConnection before client)
include hsame

/-- A response whose status says whether the request is accepted. -/
theorem Answered.of_response {statusCode : ℕ} (hstatus : statusCode = 200 ↔ accepted)
    {target : ClientState} (hmoved : accepted → client.state = target)
    (hkept : ¬accepted → before.state = client.state) :
    Answered exchange before (client.sendRtspResponse exchange statusCode statusText headers body)
      accepted target where
  response := by
    intro hsend
    have hsent :=
      client.sendRtspResponse_responses exchange statusCode statusText headers body hsend
    rw [hsame.responses] at hsent
    exact ⟨_, hsent, hstatus⟩
  numbered := by
    rw [← hsame.responses, ← hsame.cseq]
    exact client.sendRtspResponse_numbered exchange _ _ _ _
  result := Client.sendRtspResponse_result _ _ _ _ _ _
  active := by rw [Client.sendRtspResponse_active, hsame.active]
  socketFd := by rw [Client.sendRtspResponse_socketFd, hsame.socketFd]
  moved := fun haccepted => by rw [Client.sendRtspResponse_state, hmoved haccepted]
  kept := fun hrejected => by rw [Client.sendRtspResponse_state, hkept hrejected]

/-- A success. -/
theorem Answered.of_accepted (haccepted : accepted) :
    Answered exchange before (client.sendRtspResponse exchange 200 statusText headers body)
      accepted client.state :=
  .of_response hsame (iff_of_true rfl haccepted) (fun _ => rfl) fun hrejected =>
    absurd haccepted hrejected

/-- An error. -/
theorem Answered.of_rejected (hstate : before.state = client.state) (haccepted : ¬accepted)
    {statusCode : ℕ} (hstatus : statusCode ≠ 200) {target : ClientState} :
    Answered exchange before (client.sendRtspResponse exchange statusCode statusText headers body)
      accepted target :=
  .of_response hsame (iff_of_false hstatus haccepted) (fun h => absurd h haccepted) fun _ => hstate

end Answers

/-! ### The handlers -/

/-- OPTIONS succeeds and moves nothing. -/
theorem Client.handleOptionsRequest_answered (client : Client) (exchange : Exchange) :
    Answered exchange client (client.handleOptionsRequest exchange) True client.state :=
  .of_accepted ⟨rfl, rfl, rfl, rfl⟩ trivial

/-- DESCRIBE moves nothing, whether it succeeds or not. -/
theorem Client.handleDescribeRequest_answered (client : Client) (config : Config)
    (exchange : Exchange) (url : List UInt8) : ∃ accepted,
      Answered exchange client (client.handleDescribeRequest config exchange url) accepted
        client.state := by
  unfold Client.handleDescribeRequest
  dsimp only
  split
  · refine ⟨False, .of_rejected ?_ ?_ id ?_⟩
    exacts [⟨rfl, rfl, rfl, rfl⟩, rfl, by decide]
  · split
    · refine ⟨False, .of_rejected ?_ ?_ id ?_⟩
      exacts [⟨rfl, rfl, rfl, rfl⟩, rfl, by decide]
    · split
      · refine ⟨False, .of_rejected ?_ ?_ id ?_⟩
        exacts [⟨rfl, rfl, rfl, rfl⟩, rfl, by decide]
      · exact ⟨True, .of_accepted ⟨rfl, rfl, rfl, rfl⟩ trivial⟩

/-- What SETUP needs: a URL that names a stream, and a transport that is
interleaved, or one that has ports and a socket. -/
def Client.setupAccepted (client : Client) (config : Config) (exchange : Exchange)
    (url transport : List UInt8) : Prop :=
  (client.setupTarget config url).isOk = true ∧
    (contains transport (ascii "RTP/AVP/TCP") = true ∨
      (client.requestedPorts transport).isSome = true ∧ 0 ≤ exchange.rtpSocket)

instance (client : Client) (config : Config) (exchange : Exchange) (url transport : List UInt8) :
    Decidable (client.setupAccepted config exchange url transport) :=
  inferInstanceAs (Decidable (_ ∧ _))

/-- A target is refused with an error. -/
theorem Client.setupTarget_error {url : List UInt8} {statusCode : ℕ} {statusText : String}
    (h : client.setupTarget config url = .error (statusCode, statusText)) : statusCode ≠ 200 := by
  unfold Client.setupTarget at h
  split at h
  · cases h
    decide
  · dsimp only at h
    split at h
    · cases h
      decide
    · split at h
      · cases h
        decide
      · cases h

/-- The stream is stored next to the session. -/
theorem Client.selectStream_same (client : Client) (stream : StreamConfig) (trackId : ℤ) :
    SameConnection client (client.selectStream stream trackId) ∧
      client.state = (client.selectStream stream trackId).state ∧
      client.useTls = (client.selectStream stream trackId).useTls := by
  unfold Client.selectStream
  split <;> exact ⟨⟨rfl, rfl, rfl, rfl⟩, rfl, rfl⟩

/-- The end of SETUP makes the session ready. -/
theorem Client.finishSetup_answered {before : Client} {accepted : Prop}
    (hsame : SameConnection before client) (transport : String) (haccepted : accepted) :
    Answered exchange before (client.finishSetup exchange transport) accepted .ready :=
  .of_accepted ⟨hsame.responses, hsame.active, hsame.socketFd, hsame.cseq⟩ haccepted

/-- SETUP with interleaved transport is accepted. -/
theorem Client.setupTcpTransport_answered {before : Client} {accepted : Prop}
    (hsame : SameConnection before client) (transport : List UInt8) (haccepted : accepted) :
    Answered exchange before (client.setupTcpTransport exchange transport) accepted .ready := by
  unfold Client.setupTcpTransport
  dsimp only
  refine Client.finishSetup_answered ?_ _ haccepted
  split <;> exact ⟨hsame.responses, hsame.active, hsame.socketFd, hsame.cseq⟩

/-- SETUP with datagrams is accepted if it has ports and a socket. -/
theorem Client.setupUdpTransport_answered {before : Client} (exchange : Exchange)
    (hsame : SameConnection before client) (hstate : before.state = client.state)
    (transport : List UInt8) :
    Answered exchange before (client.setupUdpTransport exchange transport)
      ((client.requestedPorts transport).isSome = true ∧ 0 ≤ exchange.rtpSocket) .ready := by
  unfold Client.setupUdpTransport
  have hports : Client.requestedPorts { client with transportMode := .udp } transport =
      client.requestedPorts transport := rfl
  dsimp only
  rw [hports]
  cases client.requestedPorts transport with
  | none =>
    dsimp only
    refine .of_rejected ?_ ?_ ?_ ?_
    · exact ⟨hsame.responses, hsame.active, hsame.socketFd, hsame.cseq⟩
    · exact hstate
    · simp
    · decide
  | some ports =>
    dsimp only
    split
    · rename_i hsocket
      refine .of_rejected ?_ ?_ ?_ ?_
      · exact ⟨hsame.responses, hsame.active, hsame.socketFd, hsame.cseq⟩
      · exact hstate
      · simpa using hsocket
      · decide
    · rename_i hsocket
      refine Client.finishSetup_answered ?_ _ ?_
      · exact ⟨hsame.responses, hsame.active, hsame.socketFd, hsame.cseq⟩
      · simpa using hsocket

/-- SETUP makes the session ready if it is accepted. -/
theorem Client.handleSetupRequest_answered (client : Client) (config : Config)
    (exchange : Exchange) (url transport : List UInt8) :
    Answered exchange client (client.handleSetupRequest config exchange url transport)
      (client.setupAccepted config exchange url transport) .ready := by
  unfold Client.handleSetupRequest Client.setupAccepted
  cases htarget : client.setupTarget config url with
  | error refusal =>
    refine .of_rejected ⟨rfl, rfl, rfl, rfl⟩ rfl ?_ (Client.setupTarget_error htarget)
    rintro ⟨hok, -⟩
    cases hok
  | ok target =>
    obtain ⟨hsame, hstate, huseTls⟩ := client.selectStream_same target.1 target.2
    dsimp only
    split
    · rename_i htcp
      exact Client.setupTcpTransport_answered hsame transport ⟨rfl, .inl htcp⟩
    · rename_i hudp
      have hanswered := Client.setupUdpTransport_answered exchange hsame hstate transport
      have hports : (client.selectStream target.1 target.2).requestedPorts transport =
          client.requestedPorts transport := by
        rw [Client.requestedPorts, Client.requestedPorts, huseTls]
      rw [hports] at hanswered
      convert hanswered using 1
      simp [hudp, Except.isOk, Except.toBool]

/-- Fields that are stored after the response make no difference. -/
theorem Answered.of_same {before : Client} {r r' : Client × ℤ} {accepted : Prop}
    {target : ClientState} (h : Answered exchange before r accepted target)
    (hsame : SameConnection r.1 r'.1) (hstate : r'.1.state = r.1.state) (hresult : r'.2 = r.2) :
    Answered exchange before r' accepted target where
  response := by
    rw [hsame.responses]
    exact h.response
  numbered := by
    rw [hsame.responses]
    exact h.numbered
  result := hresult.trans h.result
  active := hsame.active.trans h.active
  socketFd := hsame.socketFd.trans h.socketFd
  moved := fun haccepted => hstate.trans (h.moved haccepted)
  kept := fun haccepted => hstate.trans (h.kept haccepted)

/-- PLAY starts a session that is ready or playing. -/
theorem Client.handlePlayRequest_answered (client : Client) (exchange : Exchange) :
    Answered exchange client (client.handlePlayRequest exchange)
      (client.state = .ready ∨ client.state = .playing) .playing := by
  obtain ⟨backchannel, hbackchannel⟩ : ∃ supported : Bool,
      (if contains client.requestBuffer backchannelHeader then
        { client with supportsBackchannel := true } else client) =
      { client with supportsBackchannel := supported } := by
    split
    · exact ⟨true, rfl⟩
    · exact ⟨client.supportsBackchannel, rfl⟩
  unfold Client.handlePlayRequest
  rw [hbackchannel]
  dsimp only
  split
  · rename_i hstate
    refine .of_rejected ?_ ?_ (by tauto) ?_
    exacts [⟨rfl, rfl, rfl, rfl⟩, rfl, by decide]
  · rename_i hstate
    have hplaying : client.state = .ready ∨ client.state = .playing := by tauto
    have hsent : ∀ headers, Answered exchange client
        (Client.sendRtspResponse
          { client with
            supportsBackchannel := backchannel
            state := .playing
            rtpSeq := exchange.rtpSeq
            rtpSsrc := exchange.rtpSsrc }
          exchange 200 "OK" headers none)
        (client.state = .ready ∨ client.state = .playing) .playing := fun _ =>
      .of_accepted ⟨rfl, rfl, rfl, rfl⟩ hplaying
    split
    · exact (hsent _).of_same ⟨rfl, rfl, rfl, rfl⟩ rfl rfl
    · exact hsent _

/-- PAUSE stops a session that is playing. -/
theorem Client.handlePauseRequest_answered (client : Client) (exchange : Exchange) :
    Answered exchange client (client.handlePauseRequest exchange) (client.state = .playing)
      .ready := by
  unfold Client.handlePauseRequest
  split
  · rename_i hstate
    exact .of_rejected ⟨rfl, rfl, rfl, rfl⟩ rfl hstate (by decide)
  · rename_i hstate
    exact .of_accepted ⟨rfl, rfl, rfl, rfl⟩ (not_not.mp hstate)

/-- TEARDOWN frees the slot and counts the client out, also where its response cannot
be sent. -/
theorem Client.handleTeardownRequest_released (client : Client) (exchange : Exchange) :
    (client.handleTeardownRequest exchange).released = true ∧
      (client.handleTeardownRequest exchange).client.active = false ∧
      (client.handleTeardownRequest exchange).result = if exchange.sendOk then 0 else -1 :=
  ⟨rfl, rfl, Client.sendRtspResponse_result _ _ _ _ _ _⟩

/-- The response to TEARDOWN. -/
theorem Client.handleTeardownRequest_response (client : Client) (hsend : exchange.sendOk = true) :
    ∃ response, (client.handleTeardownRequest exchange).client.responses =
      client.responses ++ [response] ∧ response.cseq = client.cseq := by
  have hsent := Client.sendRtspResponse_responses { client with state := .init } exchange 200 "OK"
    [] none hsend
  exact ⟨_, hsent, rfl⟩

/-- Every handler but that of TEARDOWN answers and leaves the slot in use. -/
theorem Client.handleRequest_answered (client : Client) (config : Config) (exchange : Exchange)
    (hmethod : request.method ≠ .teardown) :
    (client.handleRequest config exchange request).released = false ∧ ∃ accepted target,
      Answered exchange client ((client.handleRequest config exchange request).client,
        (client.handleRequest config exchange request).result) accepted target := by
  unfold Client.handleRequest
  cases hname : request.method with
  | unknown =>
    exact ⟨rfl, False, client.state, .of_rejected ⟨rfl, rfl, rfl, rfl⟩ rfl id (by decide)⟩
  | options => exact ⟨rfl, _, _, client.handleOptionsRequest_answered exchange⟩
  | describe =>
    obtain ⟨accepted, hanswered⟩ :=
      client.handleDescribeRequest_answered config exchange request.url
    exact ⟨rfl, _, _, hanswered⟩
  | setup => exact ⟨rfl, _, _, client.handleSetupRequest_answered config exchange _ _⟩
  | play => exact ⟨rfl, _, _, client.handlePlayRequest_answered exchange⟩
  | pause => exact ⟨rfl, _, _, client.handlePauseRequest_answered exchange⟩
  | teardown => exact absurd hname hmethod

/-! ### What only PLAY changes -/

/-- The buffer for requests and the wait for a key frame are the same. -/
structure SameWait (before client : Client) : Prop where
  requestBuffer : client.requestBuffer = before.requestBuffer
  needsIdr : client.needsIdr = before.needsIdr
  idrWaitStartUs : client.idrWaitStartUs = before.idrWaitStartUs

theorem SameWait.refl (client : Client) : SameWait client client := ⟨rfl, rfl, rfl⟩

/-- A response changes neither. -/
theorem SameWait.sendRtspResponse {before : Client} (hsame : SameWait before client)
    (statusCode : ℕ) (statusText : String) (headers : List UInt8) (body : Option (List UInt8)) :
    SameWait before (client.sendRtspResponse exchange statusCode statusText headers body).1 := by
  unfold Client.sendRtspResponse
  split <;> exact ⟨hsame.requestBuffer, hsame.needsIdr, hsame.idrWaitStartUs⟩

/-- DESCRIBE changes neither. -/
theorem Client.handleDescribeRequest_sameWait (client : Client) (config : Config)
    (exchange : Exchange) (url : List UInt8) :
    SameWait client (client.handleDescribeRequest config exchange url).1 := by
  have hflag : SameWait client { client with
      supportsBackchannel := contains client.requestBuffer backchannelHeader } := ⟨rfl, rfl, rfl⟩
  unfold Client.handleDescribeRequest
  dsimp only
  split
  · exact hflag.sendRtspResponse _ _ _ _
  · split
    · exact hflag.sendRtspResponse _ _ _ _
    · split
      · exact hflag.sendRtspResponse _ _ _ _
      · exact hflag.sendRtspResponse _ _ _ _

/-- SETUP changes neither. -/
theorem Client.handleSetupRequest_sameWait (client : Client) (config : Config)
    (exchange : Exchange) (url transport : List UInt8) :
    SameWait client (client.handleSetupRequest config exchange url transport).1 := by
  unfold Client.handleSetupRequest
  split
  · exact (SameWait.refl client).sendRtspResponse _ _ _ _
  · rename_i stream trackId _
    have hselect : SameWait client (client.selectStream stream trackId) := by
      unfold Client.selectStream
      split <;> exact ⟨rfl, rfl, rfl⟩
    obtain ⟨hbuffer, hneeds, hstart⟩ := hselect
    dsimp only
    split
    · unfold Client.setupTcpTransport Client.finishSetup
      dsimp only
      split
      all_goals
        refine SameWait.sendRtspResponse ?_ _ _ _ _
        exact ⟨hbuffer, hneeds, hstart⟩
    · unfold Client.setupUdpTransport Client.finishSetup
      dsimp only
      split
      · refine SameWait.sendRtspResponse ?_ _ _ _ _
        exact ⟨hbuffer, hneeds, hstart⟩
      · split
        all_goals
          refine SameWait.sendRtspResponse ?_ _ _ _ _
          exact ⟨hbuffer, hneeds, hstart⟩

/-- PAUSE changes neither. -/
theorem Client.handlePauseRequest_sameWait (client : Client) (exchange : Exchange) :
    SameWait client (client.handlePauseRequest exchange).1 := by
  have hready : SameWait client { client with state := .ready } := ⟨rfl, rfl, rfl⟩
  unfold Client.handlePauseRequest
  split
  · exact (SameWait.refl client).sendRtspResponse _ _ _ _
  · exact hready.sendRtspResponse _ _ _ _

/-- No handler but that of PLAY changes the wait. -/
theorem Client.handleRequest_sameWait (client : Client) (config : Config) (exchange : Exchange)
    (hmethod : request.method ≠ .play) :
    SameWait client (client.handleRequest config exchange request).client := by
  unfold Client.handleRequest
  cases hname : request.method with
  | describe => exact client.handleDescribeRequest_sameWait config exchange _
  | setup => exact client.handleSetupRequest_sameWait config exchange _ _
  | play => exact absurd hname hmethod
  | unknown | options => exact (SameWait.refl client).sendRtspResponse _ _ _ _
  | pause => exact client.handlePauseRequest_sameWait exchange
  | teardown =>
    have hinit : SameWait client { client with state := .init } := ⟨rfl, rfl, rfl⟩
    have hsent : SameWait client (Client.sendRtspResponse _ exchange 200 "OK" [] none).1 :=
      hinit.sendRtspResponse _ _ _ _
    exact ⟨hsent.requestBuffer, hsent.needsIdr, hsent.idrWaitStartUs⟩

/-! ### What a session goes on with -/

/-- Only fields that the handlers of a session write have changed, but for its transport. -/
def Writes (before client : Client) : Prop :=
  ∃ state supportsBackchannel rtpSeq rtpSsrc needsIdr idrWaitStartUs responses, client =
    { before with
      state := state
      supportsBackchannel := supportsBackchannel
      rtpSeq := rtpSeq
      rtpSsrc := rtpSsrc
      needsIdr := needsIdr
      idrWaitStartUs := idrWaitStartUs
      responses := responses }

/-- A response is one of these writes. -/
theorem Writes.sendRtspResponse {before : Client} (h : Writes before client) (statusCode : ℕ)
    (statusText : String) (headers : List UInt8) (body : Option (List UInt8)) :
    Writes before (client.sendRtspResponse exchange statusCode statusText headers body).1 := by
  obtain ⟨_, _, _, _, _, _, _, rfl⟩ := h
  unfold Client.sendRtspResponse
  split <;> exact ⟨_, _, _, _, _, _, _, rfl⟩

/-- DESCRIBE writes nothing else. -/
theorem Client.handleDescribeRequest_writes (client : Client) (config : Config)
    (exchange : Exchange) (url : List UInt8) :
    Writes client (client.handleDescribeRequest config exchange url).1 := by
  have hflag : Writes client { client with
      supportsBackchannel := contains client.requestBuffer backchannelHeader } :=
    ⟨_, _, _, _, _, _, _, rfl⟩
  unfold Client.handleDescribeRequest
  dsimp only
  split
  · exact hflag.sendRtspResponse _ _ _ _
  · split
    · exact hflag.sendRtspResponse _ _ _ _
    · split <;> exact hflag.sendRtspResponse _ _ _ _

/-- PLAY writes nothing else. -/
theorem Client.handlePlayRequest_writes (client : Client) (exchange : Exchange) :
    Writes client (client.handlePlayRequest exchange).1 := by
  unfold Client.handlePlayRequest Client.sendRtspResponse
  dsimp only
  split_ifs <;> exact ⟨_, _, _, _, _, _, _, rfl⟩

/-- PAUSE writes nothing else. -/
theorem Client.handlePauseRequest_writes (client : Client) (exchange : Exchange) :
    Writes client (client.handlePauseRequest exchange).1 := by
  unfold Client.handlePauseRequest Client.sendRtspResponse
  split_ifs <;> exact ⟨_, _, _, _, _, _, _, rfl⟩

/-- Without a transport to set up or a session to tear down, nothing else is written. -/
theorem Client.handleRequest_writes (client : Client) (config : Config) (exchange : Exchange)
    (hsetup : request.method ≠ .setup) (hteardown : request.method ≠ .teardown) :
    Writes client (client.handleRequest config exchange request).client := by
  have hnothing : Writes client client := ⟨_, _, _, _, _, _, _, rfl⟩
  unfold Client.handleRequest
  cases hname : request.method with
  | setup => exact absurd hname hsetup
  | teardown => exact absurd hname hteardown
  | unknown | options => exact hnothing.sendRtspResponse _ _ _ _
  | describe => exact client.handleDescribeRequest_writes config exchange request.url
  | play => exact client.handlePlayRequest_writes exchange
  | pause => exact client.handlePauseRequest_writes exchange

/-- PLAY does not fill the buffer for requests. -/
theorem Client.handlePlayRequest_requestBuffer :
    (client.handlePlayRequest exchange).1.requestBuffer = client.requestBuffer := by
  obtain ⟨_, _, _, _, _, _, _, hwritten⟩ := client.handlePlayRequest_writes exchange
  rw [hwritten]

/-! ### Admission -/

/-- The request is served: its peer is known or it is TEARDOWN, and its credentials
pass. -/
def passes (config : Config) (exchange : Exchange) (request : Request) : Prop :=
  (exchange.peer = none → request.method = .teardown) ∧
    checkAuthentication config exchange.peer request = some .success

instance (config : Config) (exchange : Exchange) (request : Request) :
    Decidable (passes config exchange request) :=
  inferInstanceAs (Decidable (_ ∧ _))

/-- The request in some data that is served, if the data are one. -/
def admittedRequest (config : Config) (exchange : Exchange) (data : List UInt8) :
    Option Request :=
  if data.head? = some '$'.toUInt8 then none
  else (parseRtspRequest (cString data)).filter fun request => passes config exchange request

/-- The request that is served for the slot. -/
def Client.servedRequest (client : Client) (config : Config) (exchange : Exchange) :
    Option Request :=
  exchange.received.bind fun received =>
    admittedRequest config exchange (client.extractTeardown received.val)

/-- The request that a client sends, if its data are one. -/
def Client.ownRequest (client : Client) (exchange : Exchange) : Option Request :=
  exchange.received.bind fun received =>
    let data := client.extractTeardown received.val
    if data.head? = some '$'.toUInt8 then none else parseRtspRequest (cString data)

/-- The request that is served is the own request of the client, if it passes. -/
theorem Client.servedRequest_eq_filter (client : Client) (config : Config) (exchange : Exchange) :
    client.servedRequest config exchange =
      (client.ownRequest exchange).filter fun request => passes config exchange request := by
  unfold Client.servedRequest Client.ownRequest
  cases exchange.received with
  | none => rfl
  | some received =>
    rw [Option.bind_some, Option.bind_some, admittedRequest]
    dsimp only
    split <;> rfl

/-- A request that is served is the own request of its client, and it passes. -/
theorem Client.servedRequest_eq_some_iff : client.servedRequest config exchange = some request ↔
    client.ownRequest exchange = some request ∧ passes config exchange request := by
  rw [Client.servedRequest_eq_filter, Option.filter_eq_some_iff, decide_eq_true_eq]

@[inherit_doc Client.servedRequest_eq_some_iff]
theorem Client.servedRequest_eq_some (h : client.servedRequest config exchange = some request) :
    client.ownRequest exchange = some request ∧ passes config exchange request :=
  Client.servedRequest_eq_some_iff.mp h

theorem Client.extractTeardown_nil (client : Client) : client.extractTeardown [] = [] := by
  unfold Client.extractTeardown
  split <;> rfl

theorem parseRtspRequest_nil : parseRtspRequest (cString []) = none := by decide

/-- No request is in no data. -/
theorem Client.admittedRequest_nil :
    admittedRequest config exchange (client.extractTeardown []) = none := by
  rw [client.extractTeardown_nil, admittedRequest, parseRtspRequest_nil]
  rfl

/-- The data received are interleaved media, and are ignored. -/
def Client.sendsInterleaved (client : Client) (exchange : Exchange) : Prop :=
  ∃ received ∈ exchange.received,
    (client.extractTeardown received.val).head? = some '$'.toUInt8

instance (client : Client) (exchange : Exchange) : Decidable (client.sendsInterleaved exchange) :=
  inferInstanceAs (Decidable (∃ received ∈ exchange.received, _))

/-- No request is in interleaved media. -/
theorem Client.ownRequest_of_sendsInterleaved (h : client.sendsInterleaved exchange) :
    client.ownRequest exchange = none := by
  obtain ⟨received, hreceived, hhead⟩ := h
  rw [Client.ownRequest, Option.mem_def.mp hreceived, Option.bind_some]
  exact if_pos hhead

/-- What reading from the connection of a slot may come to. -/
inductive Client.Reads (client : Client) (config : Config) (exchange : Exchange) : Handled → Prop
  | interleaved (hinterleaved : client.sendsInterleaved exchange) :
    Reads client config exchange ⟨client, 0, false⟩
  | noRequest (lastActivityUs : UInt32) (hother : ¬client.sendsInterleaved exchange)
    (hown : client.ownRequest exchange = none) :
    Reads client config exchange ⟨{ client with lastActivityUs := lastActivityUs }, -1, false⟩
  | noPeer (request : Request) (hown : client.ownRequest exchange = some request)
    (hpeer : exchange.peer = none) (hmethod : request.method ≠ .teardown) :
    Reads client config exchange
      ⟨{ client with lastActivityUs := exchange.now, cseq := request.cseq }, -1, false⟩
  | denied (request : Request) (hown : client.ownRequest exchange = some request)
    (hpeer : exchange.peer = none → request.method = .teardown)
    (hcheck : checkAuthentication config exchange.peer request ≠ some .success)
    (statusCode : ℕ) (statusText : String) (headers : List UInt8) (hstatus : statusCode ≠ 200) :
    Reads client config exchange (.of (Client.sendRtspResponse
      { client with lastActivityUs := exchange.now, cseq := request.cseq } exchange statusCode
      statusText headers none))
  | served (request : Request) (hown : client.ownRequest exchange = some request)
    (hpasses : passes config exchange request) :
    Reads client config exchange (Client.handleRequest
      { client with lastActivityUs := exchange.now, cseq := request.cseq } config exchange request)

/-- Reading comes to one of these. -/
theorem Client.handleClientConnection_reads {handled : Handled}
    (h : client.handleClientConnection config exchange = some handled) :
    client.Reads config exchange handled := by
  unfold Client.handleClientConnection at h
  cases hreceived : exchange.received with
  | none =>
    rw [hreceived] at h
    obtain rfl := Option.some.inj h
    refine .noRequest client.lastActivityUs ?_ ?_
    · rintro ⟨received, hmem, -⟩
      rw [hreceived] at hmem
      cases hmem
    · rw [Client.ownRequest, hreceived]
      rfl
  | some received =>
    have hsends : client.sendsInterleaved exchange ↔
        (client.extractTeardown received.val).head? = some '$'.toUInt8 := by
      simp [Client.sendsInterleaved, hreceived]
    have hown : client.ownRequest exchange =
        if (client.extractTeardown received.val).head? = some '$'.toUInt8 then none
        else parseRtspRequest (cString (client.extractTeardown received.val)) := by
      rw [Client.ownRequest, hreceived]
      rfl
    rw [hreceived] at h
    dsimp only at h
    split_ifs at h with hempty hinterleaved
    · obtain rfl := Option.some.inj h
      rw [hempty, client.extractTeardown_nil] at hsends hown
      refine .noRequest client.lastActivityUs (by simp [hsends]) ?_
      rw [hown, parseRtspRequest_nil]
      rfl
    · obtain rfl := Option.some.inj h
      exact .interleaved (hsends.mpr hinterleaved)
    · rw [if_neg hinterleaved] at hown
      cases hparse : parseRtspRequest (cString (client.extractTeardown received.val)) with
      | none =>
        rw [hparse] at h
        obtain rfl := Option.some.inj h
        exact .noRequest exchange.now (mt hsends.mp hinterleaved) (hown.trans hparse)
      | some request =>
        rw [hparse] at h hown
        dsimp only at h
        split_ifs at h with hpeer
        · obtain rfl := Option.some.inj h
          exact .noPeer request hown hpeer.1 hpeer.2
        · have hknown : exchange.peer = none → request.method = .teardown := by tauto
          cases hcheck : checkAuthentication config exchange.peer request with
          | none => simp [hcheck] at h
          | some result =>
            rw [hcheck] at h
            cases result with
            | success =>
              obtain rfl := Option.some.inj h
              exact .served request hown ⟨hknown, hcheck⟩
            | required | invalid | error =>
              obtain rfl := Option.some.inj h
              exact .denied request hown hknown (by simp [hcheck]) _ _ _ (by decide)

/-- No response is added, or one with an error. -/
def Unsuccessful (before client : Client) : Prop :=
  ∀ response, client.responses = before.responses ++ [response] → response.statusCode ≠ 200

theorem Unsuccessful.of_same {before : Client} (h : client.responses = before.responses) :
    Unsuccessful before client := by
  intro response hresponse
  simp [h] at hresponse

/-- An error is not a success, whether it can be sent or not. -/
theorem Unsuccessful.of_response {before : Client} {statusCode : ℕ}
    (hsame : client.responses = before.responses) (hstatus : statusCode ≠ 200) (statusText : String)
    (headers : List UInt8) (body : Option (List UInt8)) :
    Unsuccessful before
      (client.sendRtspResponse exchange statusCode statusText headers body).1 := by
  by_cases hsend : exchange.sendOk = true
  · intro response hresponse
    rw [Client.sendRtspResponse_responses _ _ _ _ _ _ hsend, hsame] at hresponse
    obtain rfl := List.singleton_inj.mp (List.append_cancel_left hresponse)
    exact hstatus
  · refine .of_same ?_
    rw [Client.sendRtspResponse, if_neg hsend, hsame]

/-- A request that is served goes to its handler; otherwise the session stays as it
was. -/
theorem Client.handleClientConnection_cases {handled : Handled}
    (h : client.handleClientConnection config exchange = some handled) :
    (∃ request, client.servedRequest config exchange = some request ∧
      handled = Client.handleRequest
        { client with lastActivityUs := exchange.now, cseq := request.cseq } config exchange
        request) ∨
    (client.servedRequest config exchange = none ∧ handled.released = false ∧
      handled.client.active = client.active ∧ handled.client.state = client.state ∧
      Unsuccessful client handled.client) := by
  have hserved := client.servedRequest_eq_filter config exchange
  cases Client.handleClientConnection_reads h with
  | interleaved hinterleaved =>
    rw [Client.ownRequest_of_sendsInterleaved hinterleaved] at hserved
    exact .inr ⟨hserved, rfl, rfl, rfl, .of_same rfl⟩
  | noRequest lastActivityUs hother hown =>
    rw [hown] at hserved
    exact .inr ⟨hserved, rfl, rfl, rfl, .of_same rfl⟩
  | noPeer request hown hpeer hmethod =>
    rw [hown, Option.filter_some, if_neg] at hserved
    · exact .inr ⟨hserved, rfl, rfl, rfl, .of_same rfl⟩
    · rw [decide_eq_true_eq]
      exact fun hpasses => hmethod (hpasses.1 hpeer)
  | denied request hown hpeer hcheck statusCode statusText headers hstatus =>
    rw [hown, Option.filter_some, if_neg] at hserved
    · refine .inr ⟨hserved, rfl, ?_, ?_, .of_response rfl hstatus _ _ _⟩
      · exact Client.sendRtspResponse_active _ _ _ _ _ _
      · exact Client.sendRtspResponse_state _ _ _ _ _ _
    · rw [decide_eq_true_eq]
      exact fun hpasses => hcheck hpasses.2
  | served request hown hpasses =>
    exact .inl ⟨request, Client.servedRequest_eq_some_iff.mpr ⟨hown, hpasses⟩, rfl⟩

/-- Reading has a result unless the credentials of a request do not fit. -/
theorem Client.exists_handleClientConnection
    (hcheck : ∀ request ∈ client.ownRequest exchange,
      checkAuthentication config exchange.peer request ≠ none) :
    ∃ handled, client.handleClientConnection config exchange = some handled := by
  unfold Client.ownRequest at hcheck
  unfold Client.handleClientConnection
  cases hreceived : exchange.received with
  | none => exact ⟨_, rfl⟩
  | some received =>
    rw [hreceived] at hcheck
    dsimp only [Option.bind_some] at hcheck ⊢
    split_ifs with hempty hinterleaved
    · exact ⟨_, rfl⟩
    · exact ⟨_, rfl⟩
    · rw [if_neg hinterleaved] at hcheck
      cases hparse : parseRtspRequest (cString (client.extractTeardown received.val)) with
      | none => exact ⟨_, rfl⟩
      | some request =>
        have hrequest := hcheck request hparse
        dsimp only
        split_ifs with hunknown
        · exact ⟨_, rfl⟩
        · cases hresult : checkAuthentication config exchange.peer request with
          | none => exact absurd hresult hrequest
          | some result => cases result <;> exact ⟨_, rfl⟩

variable (config) in
/-- Interleaved data are ignored. -/
theorem Client.handleClientConnection_interleaved
    {received : {data : List UInt8 // data.length < maxRtspBufferSize}}
    (hreceived : exchange.received = some received)
    (hinterleaved : (client.extractTeardown received.val).head? = some '$'.toUInt8) :
    client.handleClientConnection config exchange = some ⟨client, 0, false⟩ := by
  have hne : received.val ≠ [] := by
    intro hempty
    rw [hempty, client.extractTeardown_nil] at hinterleaved
    cases hinterleaved
  unfold Client.handleClientConnection
  rw [hreceived]
  dsimp only
  rw [if_neg hne, if_pos hinterleaved]

/-- What a request that is answered leaves: one more response, with its number, and the
connection unless it was TEARDOWN. -/
structure AnswersOnce (before : Client) (request : Request) (client : Client) : Prop where
  response : ∃ response, client.responses = before.responses ++ [response] ∧
    response.cseq = request.cseq
  connection : client.active = before.active ∧ client.socketFd = before.socketFd ∨
    request.method = .teardown ∧ client.active = false

/-- A handler answers once. -/
theorem Client.handleRequest_answersOnce (client : Client) (config : Config)
    (hsend : exchange.sendOk = true) (hcseq : client.cseq = request.cseq) :
    AnswersOnce client request (client.handleRequest config exchange request).client ∧
      (client.handleRequest config exchange request).result = 0 := by
  by_cases hmethod : request.method = .teardown
  · obtain ⟨response, hresponse, hnumber⟩ := client.handleTeardownRequest_response hsend
    obtain ⟨-, hfreed, hresult⟩ := client.handleTeardownRequest_released exchange
    rw [Client.handleRequest, hmethod]
    exact ⟨⟨⟨response, hresponse, hnumber.trans hcseq⟩, .inr ⟨hmethod, hfreed⟩⟩,
      hresult.trans (if_pos hsend)⟩
  · obtain ⟨-, accepted, target, hanswered⟩ := client.handleRequest_answered config exchange hmethod
    obtain ⟨response, hresponse, -⟩ := hanswered.response hsend
    exact ⟨⟨⟨response, hresponse, (hanswered.numbered response hresponse).trans hcseq⟩,
      .inl ⟨hanswered.active, hanswered.socketFd⟩⟩, hanswered.result.trans (if_pos hsend)⟩

/-- A request of a peer that is known is answered once, also if it does not pass. -/
theorem Client.handleClientConnection_answersOnce {handled : Handled}
    (hown : client.ownRequest exchange = some request) (hsend : exchange.sendOk = true)
    (hpeer : exchange.peer ≠ none)
    (h : client.handleClientConnection config exchange = some handled) :
    AnswersOnce client request handled.client ∧ handled.result = 0 := by
  cases Client.handleClientConnection_reads h with
  | interleaved hinterleaved =>
    rw [Client.ownRequest_of_sendsInterleaved hinterleaved] at hown
    cases hown
  | noRequest lastActivityUs hother hnone =>
    rw [hnone] at hown
    cases hown
  | noPeer request' hown' hunknown => exact absurd hunknown hpeer
  | denied request' hown' hknown hcheck statusCode statusText headers hstatus =>
    obtain rfl : request' = request := Option.some.inj (hown'.symm.trans hown)
    refine ⟨⟨⟨_, Client.sendRtspResponse_responses _ _ _ _ _ _ hsend, rfl⟩, .inl ⟨?_, ?_⟩⟩, ?_⟩
    · exact Client.sendRtspResponse_active _ _ _ _ _ _
    · exact Client.sendRtspResponse_socketFd _ _ _ _ _ _
    · exact (Client.sendRtspResponse_result _ _ _ _ _ _).trans (if_pos hsend)
  | served request' hown' hpasses =>
    obtain rfl : request' = request := Option.some.inj (hown'.symm.trans hown)
    obtain ⟨⟨hresponse, hconnection⟩, hzero⟩ := Client.handleRequest_answersOnce
      { client with lastActivityUs := exchange.now, cseq := request'.cseq } config hsend rfl
    exact ⟨⟨hresponse, hconnection⟩, hzero⟩

/-! ### One turn of the loop over the slots -/

/-- The mark does not change what is served. -/
theorem Client.pauseInterleaved_servedRequest :
    client.pauseInterleaved.servedRequest config exchange =
      client.servedRequest config exchange := by
  unfold Client.pauseInterleaved
  split <;> rfl

theorem Client.pauseInterleaved_ownRequest :
    client.pauseInterleaved.ownRequest exchange = client.ownRequest exchange := by
  unfold Client.pauseInterleaved
  split <;> rfl

theorem Client.pauseInterleaved_socketFd : client.pauseInterleaved.socketFd = client.socketFd := by
  unfold Client.pauseInterleaved
  split <;> rfl

theorem Client.pauseInterleaved_active : client.pauseInterleaved.active = client.active := by
  unfold Client.pauseInterleaved
  split <;> rfl

theorem Client.pauseInterleaved_responses :
    client.pauseInterleaved.responses = client.responses := by
  unfold Client.pauseInterleaved
  split <;> rfl

theorem Handled.restore_responses (handled : Handled) (original : ClientState) :
    (handled.restore original).responses = handled.client.responses := by
  unfold Handled.restore
  split <;> rfl

theorem Handled.restore_socketFd (handled : Handled) (original : ClientState) :
    (handled.restore original).socketFd = handled.client.socketFd := by
  unfold Handled.restore
  split <;> rfl

theorem Handled.restore_active (handled : Handled) (original : ClientState) :
    (handled.restore original).active = handled.client.active := by
  unfold Handled.restore
  split <;> rfl

/-- A result below zero frees the slot and counts it out; with any other result the
slot is as the handler left it, with the state restored. -/
theorem Client.serve_cases {after : Client} {k : ℤ}
    (h : client.serve config exchange = some (after, k)) :
    ∃ handled, client.pauseInterleaved.handleClientConnection config exchange = some handled ∧
      (handled.result < 0 ∧ after.active = false ∧ after.state = .init ∧
          after.responses = handled.client.responses ∧ k = handled.count + 1 ∨
        0 ≤ handled.result ∧ after = handled.restore client.state ∧ k = handled.count) := by
  obtain ⟨handled, hhandled, hserve⟩ := Option.bind_eq_some_iff.mp h
  refine ⟨handled, hhandled, ?_⟩
  dsimp only at hserve
  split_ifs at hserve with hresult
  · obtain ⟨rfl, rfl⟩ := Prod.mk.inj (Option.some.inj hserve)
    refine .inl ⟨hresult, rfl, rfl, ?_, rfl⟩
    exact handled.restore_responses client.state
  · obtain ⟨rfl, rfl⟩ := Prod.mk.inj (Option.some.inj hserve)
    exact .inr ⟨not_lt.mp hresult, rfl, rfl⟩

/-! ### The other slots -/

/-- The slot is in use. -/
abbrev Client.InUse (client : Client) : Prop := client.active = true

variable {server after : Server} {slot : Slot}

/-- The slot of a new connection is free. -/
theorem Server.slotForNew_eq_some (h : server.slotForNew = some slot) :
    server.clientCount < server.config.maxClients ∧ ¬(server.clients slot).InUse := by
  unfold Server.slotForNew Server.findFreeClientSlot at h
  split_ifs at h with hfull
  refine ⟨not_le.mp hfull, ?_⟩
  simpa using List.find?_some h

/-- A connection without TLS leaves the slots in use alone. -/
theorem Server.acceptPlain_clients (server : Server) (plain : Option Connection)
    (huse : (server.clients slot).InUse) :
    (server.acceptPlain plain).clients slot = server.clients slot := by
  unfold Server.acceptPlain
  split
  · rfl
  · split
    · rfl
    · rename_i free hslot
      have hne : slot ≠ free := fun hequal => (Server.slotForNew_eq_some hslot).2 (hequal ▸ huse)
      exact Function.update_of_ne hne _ _

/-- So does a connection with TLS. -/
theorem Server.acceptTls_clients (server : Server) (tls : Option (Connection × Bool))
    (huse : (server.clients slot).InUse) :
    (server.acceptTls tls).clients slot = server.clients slot := by
  unfold Server.acceptTls
  split
  · rfl
  · split
    · rfl
    · rename_i free hslot
      have hne : slot ≠ free := fun hequal => (Server.slotForNew_eq_some hslot).2 (hequal ▸ huse)
      split <;> exact Function.update_of_ne hne _ _

/-- New connections leave the slots in use alone. -/
theorem Server.acceptNew_clients (server : Server) (plain : Option Connection)
    (tls : Option (Connection × Bool)) (huse : (server.clients slot).InUse) :
    (server.acceptNew plain tls).clients slot = server.clients slot := by
  have hplain := server.acceptPlain_clients plain huse
  unfold Server.acceptNew
  split
  · rw [Server.acceptTls_clients _ _ (hplain ▸ huse), hplain]
  · exact hplain

/-- A loop over all slots changes each by its own turn. -/
theorem Server.sweep_clients {f : Slot → Client → Option (Client × ℤ)}
    (h : server.sweep f = some after) (slot : Slot) :
    ∃ k, f slot (server.clients slot) = some (after.clients slot, k) := by
  obtain ⟨state, hsweep, rfl⟩ := Option.map_eq_some_iff.mp h
  exact Slots.sweep_visited (List.nodup_finRange _) hsweep (List.mem_finRange slot)

/-- A slot in use that is ready is served by its own turn. -/
theorem Server.iterate_serves {plain : Option Connection} {tls : Option (Connection × Bool)}
    {requests : Slot → Option Exchange}
    (h : server.iterate (.ready plain tls requests) = some after)
    (huse : (server.clients slot).InUse) (hfd : 0 ≤ (server.clients slot).socketFd)
    (hexchange : requests slot = some exchange) :
    ∃ k, (server.clients slot).serve server.config exchange = some (after.clients slot, k) := by
  obtain ⟨k, hk⟩ := Server.sweep_clients h slot
  rw [server.acceptNew_clients plain tls huse, serveSlot, hexchange] at hk
  exact ⟨k, (if_pos ⟨huse, hfd⟩).symm.trans hk⟩

end Rtsp
