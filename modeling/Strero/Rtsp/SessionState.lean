import Strero.Lib.Runs
import Strero.Rtsp.RequestEffects

/-!
# The state of a session

What the RTSP methods make of the state of a session, compared with what one
iteration of the server makes of it. The mark on clients with interleaved transport
and the restoration that follows every request keep a session playing that a PAUSE or
a SETUP should have stopped.
-/

namespace Rtsp

open CString AuthUtils

/-! ### The methods -/

/-- The slot after a request, by the state before it and the status of the response. -/
def MethodRule (before : ClientState) (method : Method) (statusCode : ℕ) (after : Client) : Prop :=
  match method with
  | .setup => after.active = true ∧ after.state = if statusCode = 200 then .ready else before
  | .play => after.active = true ∧
      if before = .ready ∨ before = .playing then statusCode = 200 ∧ after.state = .playing
      else statusCode ≠ 200 ∧ after.state = before
  | .pause => after.active = true ∧
      if before = .playing then statusCode = 200 ∧ after.state = .ready
      else statusCode ≠ 200 ∧ after.state = before
  | .teardown => after.active = false
  | .options | .describe | .unknown => after.active = true ∧ after.state = before

/-- The request is answered once, and the slot follows the rule of its method. -/
def Client.Follows (before : Client) (method : Method) (after : Client) : Prop :=
  ∃ response, after.responses = before.responses ++ [response] ∧
    MethodRule before.state method response.statusCode after

/-- A request that should stop a session that is playing. -/
def Client.Stops (client : Client) (config : Config) (exchange : Exchange) (request : Request) :
    Prop :=
  client.state = .playing ∧ (request.method = .pause ∨ request.method = .setup ∧
    client.setupAccepted config exchange request.url request.transport)

instance (client : Client) (config : Config) (exchange : Exchange) (request : Request) :
    Decidable (client.Stops config exchange request) :=
  inferInstanceAs (Decidable (_ ∧ _))

/-! ### One request -/

section Request

variable {client after : Client} {config : Config} {exchange : Exchange} {request : Request}

/-- The slot as the handler finds it. -/
def Client.atHandler (client : Client) (exchange : Exchange) (request : Request) : Client :=
  { client.pauseInterleaved with lastActivityUs := exchange.now, cseq := request.cseq }

/-- The handler finds the connection of the client, with the number of the request. -/
theorem Client.atHandler_same (client : Client) (exchange : Exchange) (request : Request) :
    SameConnection { client with cseq := request.cseq } (client.atHandler exchange request) := by
  unfold Client.atHandler Client.pauseInterleaved
  split <;> exact ⟨rfl, rfl, rfl, rfl⟩

/-- The mark makes no difference to what SETUP needs. -/
theorem Client.atHandler_setupAccepted {url transport : List UInt8} :
    (client.atHandler exchange request).setupAccepted config exchange url transport ↔
      client.setupAccepted config exchange url transport := by
  unfold Client.atHandler Client.pauseInterleaved
  split <;> exact Iff.rfl

/-- The state is the one before the request, or the mark on a session that plays. -/
theorem Client.atHandler_state (client : Client) (exchange : Exchange) (request : Request) :
    (client.atHandler exchange request).state = client.state ∨
      client.state = .playing ∧ (client.atHandler exchange request).state = .ready := by
  unfold Client.atHandler Client.pauseInterleaved
  split
  · rename_i hmarked
    exact .inr ⟨hmarked.2, rfl⟩
  · exact .inl rfl

/-- The restoration makes a session play that was playing and is ready. -/
theorem Handled.restore_state (handled : Handled) (original : ClientState)
    (hactive : handled.client.active = true) (hresult : 0 ≤ handled.result) :
    (handled.restore original).state =
      if original = .playing ∧ handled.client.state = .ready then .playing
      else handled.client.state := by
  unfold Handled.restore
  by_cases hrestored : original = .playing ∧ handled.client.state = .ready
  · rw [if_pos ⟨hactive, hresult, hrestored⟩, if_pos hrestored]
    exact hrestored.1
  · rw [if_neg fun h => hrestored h.2.2, if_neg hrestored]

/-- With the response sent, every handler returns zero. -/
theorem Client.handleRequest_result (client : Client) (config : Config) (request : Request)
    (hsend : exchange.sendOk = true) :
    (client.handleRequest config exchange request).result = 0 := by
  by_cases hmethod : request.method = .teardown
  · rw [Client.handleRequest, hmethod]
    exact (client.handleTeardownRequest_released exchange).2.2.trans (if_pos hsend)
  · obtain ⟨-, _, _, hanswered⟩ := client.handleRequest_answered config exchange hmethod
    exact hanswered.result.trans (if_pos hsend)

/-- A request whose response is sent leaves what its handler left, restored. -/
theorem Client.serve_served {k : ℤ}
    (hrequest : client.servedRequest config exchange = some request)
    (hsend : exchange.sendOk = true) (hserve : client.serve config exchange = some (after, k)) :
    after = ((client.atHandler exchange request).handleRequest config exchange request).restore
      client.state := by
  obtain ⟨handled, hhandled, hafter⟩ := Client.serve_cases hserve
  rcases Client.handleClientConnection_cases hhandled with
    ⟨served, hserved, rfl⟩ | ⟨hnone, -⟩
  · rw [Client.pauseInterleaved_servedRequest, hrequest] at hserved
    obtain rfl := Option.some.inj hserved
    have hresult := (client.atHandler exchange request).handleRequest_result config request hsend
    rcases hafter with ⟨hnegative, -⟩ | ⟨-, rfl, -⟩
    · exact absurd (hresult ▸ hnegative) (lt_irrefl 0)
    · rfl
  · rw [Client.pauseInterleaved_servedRequest, hrequest] at hnone
    cases hnone

/-- A session that plays goes on playing, and any other is moved by the handler. -/
theorem Answered.restore {r : Client × ℤ} {accepted : Prop} {target : ClientState}
    (hactive : client.active = true) (hsend : exchange.sendOk = true)
    (hanswered : Answered exchange (client.atHandler exchange request) r accepted target)
    (htarget : target = .ready ∨ target = .playing ∨
      target = (client.atHandler exchange request).state) :
    ∃ response, ((Handled.of r).restore client.state).responses = client.responses ++ [response] ∧
      (response.statusCode = 200 ↔ accepted) ∧
      ((Handled.of r).restore client.state).active = true ∧
      (client.state = .playing → ((Handled.of r).restore client.state).state = .playing) ∧
      (client.state ≠ .playing →
        (accepted → ((Handled.of r).restore client.state).state = target) ∧
        (¬accepted → ((Handled.of r).restore client.state).state = client.state)) := by
  have hsame := client.atHandler_same exchange request
  have hstate := client.atHandler_state exchange request
  obtain ⟨response, hresponses, hstatus⟩ := hanswered.response hsend
  have hkept : (Handled.of r).client.active = true :=
    hanswered.active.trans (hsame.active.trans hactive)
  have hresult : (Handled.of r).result = 0 := hanswered.result.trans (if_pos hsend)
  have hrestored := (Handled.of r).restore_state client.state hkept hresult.ge
  refine ⟨response, ?_, hstatus, ?_, ?_, ?_⟩
  · rw [Handled.restore_responses, ← hsame.responses]
    exact hresponses
  · rw [Handled.restore_active, hkept]
  · intro hplaying
    have hreached : r.1.state = .ready ∨ r.1.state = .playing := by
      by_cases haccepted : accepted
      · rw [hanswered.moved haccepted]
        rcases htarget with rfl | rfl | rfl
        · exact .inl rfl
        · exact .inr rfl
        · rcases hstate with hstate | hstate
          · exact .inr (hstate.trans hplaying)
          · exact .inl hstate.2
      · rw [hanswered.kept haccepted]
        rcases hstate with hstate | hstate
        · exact .inr (hstate.trans hplaying)
        · exact .inl hstate.2
    rw [hrestored]
    rcases hreached with hready | hreached
    · exact if_pos ⟨hplaying, hready⟩
    · exact (if_neg fun h => absurd (hreached.symm.trans h.2) (by decide)).trans hreached
  · intro hidle
    rw [hrestored, if_neg fun h => hidle h.1]
    refine ⟨hanswered.moved, fun haccepted => (hanswered.kept haccepted).trans ?_⟩
    exact hstate.resolve_right fun h => hidle h.1

/-- A request that moves nothing leaves the state as it was. -/
theorem Answered.restore_kept {r : Client × ℤ} {accepted : Prop} (hactive : client.active = true)
    (hsend : exchange.sendOk = true)
    (hanswered : Answered exchange (client.atHandler exchange request) r accepted
      (client.atHandler exchange request).state) :
    ∃ response, ((Handled.of r).restore client.state).responses = client.responses ++ [response] ∧
      ((Handled.of r).restore client.state).active = true ∧
      ((Handled.of r).restore client.state).state = client.state := by
  obtain ⟨response, hresponses, -, hkept, hplaying, hidle⟩ :=
    hanswered.restore hactive hsend (.inr (.inr rfl))
  refine ⟨response, hresponses, hkept, ?_⟩
  by_cases hstate : client.state = .playing
  · rw [hplaying hstate, hstate]
  · by_cases haccepted : accepted
    · rw [(hidle hstate).1 haccepted]
      exact (client.atHandler_state exchange request).resolve_right fun h => hstate h.1
    · exact (hidle hstate).2 haccepted

/-- With one response sent, the rule is about its status. -/
theorem Client.follows_iff {method : Method} {response : Response}
    (hresponses : after.responses = client.responses ++ [response]) :
    client.Follows method after ↔ MethodRule client.state method response.statusCode after := by
  constructor
  · rintro ⟨other, hother, hrule⟩
    obtain rfl : other = response := by
      simpa using List.append_cancel_left (hother.symm.trans hresponses)
    exact hrule
  · exact fun hrule => ⟨response, hresponses, hrule⟩

/-- SETUP is followed unless it is accepted for a session that is playing. -/
theorem Client.setup_follows_iff (hactive : client.active = true) (hsend : exchange.sendOk = true)
    (url transport : List UInt8) :
    client.Follows .setup ((Handled.of ((client.atHandler exchange request).handleSetupRequest
        config exchange url transport)).restore client.state) ↔
      ¬(client.state = .playing ∧ client.setupAccepted config exchange url transport) := by
  have hanswered :=
    (client.atHandler exchange request).handleSetupRequest_answered config exchange url transport
  obtain ⟨response, hresponses, hstatus, hkept, hplaying, hidle⟩ :=
    hanswered.restore hactive hsend (.inl rfl)
  rw [Client.atHandler_setupAccepted] at hstatus hidle
  rw [Client.follows_iff hresponses, MethodRule, and_iff_right hkept]
  by_cases hplays : client.state = .playing
  · rw [hplaying hplays, hplays]
    by_cases haccepted : client.setupAccepted config exchange url transport
    · simp [hstatus.mpr haccepted, haccepted]
    · simp [mt hstatus.mp haccepted, haccepted]
  · by_cases haccepted : client.setupAccepted config exchange url transport
    · simp [hstatus.mpr haccepted, hplays, (hidle hplays).1 haccepted]
    · simp [mt hstatus.mp haccepted, hplays, (hidle hplays).2 haccepted]

/-- PLAY is always followed. -/
theorem Client.play_follows (hactive : client.active = true) (hsend : exchange.sendOk = true) :
    client.Follows .play ((Handled.of ((client.atHandler exchange request).handlePlayRequest
      exchange)).restore client.state) := by
  have hstate := client.atHandler_state exchange request
  have hanswered := (client.atHandler exchange request).handlePlayRequest_answered exchange
  obtain ⟨response, hresponses, hstatus, hkept, hplaying, hidle⟩ :=
    hanswered.restore hactive hsend (.inr (.inl rfl))
  rw [Client.follows_iff hresponses, MethodRule, and_iff_right hkept]
  by_cases hplays : client.state = .playing
  · have haccepted : (client.atHandler exchange request).state = .ready ∨
        (client.atHandler exchange request).state = .playing :=
      hstate.elim (fun h => .inr (h.trans hplays)) fun h => .inl h.2
    rw [hplaying hplays]
    simp [hplays, hstatus.mpr haccepted]
  · have hsame : (client.atHandler exchange request).state = client.state :=
      hstate.resolve_right fun h => hplays h.1
    rw [hsame] at hstatus hidle
    by_cases haccepted : client.state = .ready ∨ client.state = .playing
    · simp [haccepted, hstatus.mpr haccepted, (hidle hplays).1 haccepted]
    · simp [haccepted, mt hstatus.mp haccepted, (hidle hplays).2 haccepted]

/-- PAUSE is followed unless the session is playing. -/
theorem Client.pause_follows_iff (hactive : client.active = true) (hsend : exchange.sendOk = true) :
    client.Follows .pause ((Handled.of ((client.atHandler exchange request).handlePauseRequest
        exchange)).restore client.state) ↔ client.state ≠ .playing := by
  have hstate := client.atHandler_state exchange request
  have hanswered := (client.atHandler exchange request).handlePauseRequest_answered exchange
  obtain ⟨response, hresponses, hstatus, hkept, hplaying, hidle⟩ :=
    hanswered.restore hactive hsend (.inl rfl)
  rw [Client.follows_iff hresponses, MethodRule, and_iff_right hkept]
  by_cases hplays : client.state = .playing
  · rw [hplaying hplays]
    simp [hplays]
  · have hsame : (client.atHandler exchange request).state = client.state :=
      hstate.resolve_right fun h => hplays h.1
    rw [hsame] at hstatus hidle
    simp [hplays, mt hstatus.mp hplays, (hidle hplays).2 hplays]

/-- A request that is served and answered is followed unless it should stop a session
that is playing. -/
theorem Client.serve_follows_iff {k : ℤ} (hactive : client.active = true)
    (hrequest : client.servedRequest config exchange = some request)
    (hsend : exchange.sendOk = true) (hserve : client.serve config exchange = some (after, k)) :
    client.Follows request.method after ↔ ¬client.Stops config exchange request := by
  rw [Client.serve_served hrequest hsend hserve]
  unfold Client.Stops Client.handleRequest
  cases hmethod : request.method with
  | teardown =>
    obtain ⟨response, hresponse, -⟩ :=
      (client.atHandler exchange request).handleTeardownRequest_response hsend
    obtain ⟨-, hfreed, -⟩ := (client.atHandler exchange request).handleTeardownRequest_released
      exchange
    refine iff_of_true ⟨response, ?_, ?_⟩ (by simp)
    · rw [Handled.restore_responses, hresponse, (client.atHandler_same exchange request).responses]
    · exact (Handled.restore_active _ _).trans hfreed
  | unknown =>
    have hanswered : Answered exchange (client.atHandler exchange request)
        ((client.atHandler exchange request).sendRtspResponse exchange 405 "Method Not Allowed" []
          none) False (client.atHandler exchange request).state :=
      .of_rejected ⟨rfl, rfl, rfl, rfl⟩ rfl id (by decide)
    exact iff_of_true (hanswered.restore_kept hactive hsend) (by simp)
  | options =>
    have hanswered := (client.atHandler exchange request).handleOptionsRequest_answered exchange
    exact iff_of_true (hanswered.restore_kept hactive hsend) (by simp)
  | describe =>
    obtain ⟨accepted, hanswered⟩ :=
      (client.atHandler exchange request).handleDescribeRequest_answered config exchange request.url
    exact iff_of_true (hanswered.restore_kept hactive hsend) (by simp)
  | setup => simpa using Client.setup_follows_iff hactive hsend request.url request.transport
  | play => exact iff_of_true (Client.play_follows hactive hsend) (by simp)
  | pause => simpa using Client.pause_follows_iff hactive hsend

end Request

/-! ### Iterations -/

/-- The exchange of a slot in use, its data and the request in them, if they are a
complete request that passes authentication and whose response is sent. -/
def Server.receives (server : Server) (activity : Activity) (slot : Slot) :
    Option (Exchange × List UInt8 × Request) := do
  let exchange ← activity.exchange slot
  let received ← exchange.received
  let request ← admittedRequest server.config exchange received.val
  if (server.clients slot).active ∧ 0 ≤ (server.clients slot).socketFd ∧ exchange.sendOk then
    some (exchange, received.val, request)
  else none

/-- Every slot follows the method of the request that it receives. -/
def Server.FollowsMethods (before : Server) (activity : Activity) (after : Server) : Prop :=
  ∀ slot, ∀ r ∈ before.receives activity slot,
    (before.clients slot).Follows r.2.2.method (after.clients slot)

/-- No request that is received is cut by a search for TEARDOWN in its text, and none
should stop a session that is playing. -/
def Server.Undisturbed (before : Server) (activity : Activity) : Prop :=
  ∀ slot, ∀ r ∈ before.receives activity slot,
    (before.clients slot).extractTeardown r.2.1 = r.2.1 ∧
      ¬(before.clients slot).Stops before.config r.1 r.2.2

instance (before : Server) (activity : Activity) : Decidable (before.Undisturbed activity) :=
  inferInstanceAs (Decidable (∀ _, _))

/-- What is received comes with an exchange of a slot that is ready. -/
theorem Server.receives_eq_some {server : Server} {activity : Activity} {slot : Slot}
    {exchange : Exchange} {data : List UInt8} {request : Request}
    (h : server.receives activity slot = some (exchange, data, request)) :
    ∃ plain tls requests, activity = .ready plain tls requests ∧ requests slot = some exchange ∧
      (∃ hfits, exchange.received = some ⟨data, hfits⟩) ∧
      admittedRequest server.config exchange data = some request ∧
      (server.clients slot).InUse ∧ 0 ≤ (server.clients slot).socketFd ∧
      exchange.sendOk = true := by
  obtain ⟨exchange', hexchange, h⟩ := Option.bind_eq_some_iff.mp h
  obtain ⟨received, hreceived, h⟩ := Option.bind_eq_some_iff.mp h
  obtain ⟨request', hrequest, h⟩ := Option.bind_eq_some_iff.mp h
  split_ifs at h with hserved
  cases h
  cases activity with
  | ready plain tls requests =>
    exact ⟨plain, tls, requests, rfl, hexchange, ⟨received.2, hreceived⟩, hrequest, hserved⟩
  | _ => cases hexchange

/-- An iteration follows the methods if nothing disturbs it. -/
theorem Server.iterate_follows {before after : Server} {activity : Activity}
    (hstep : before.iterate activity = some after) (hundisturbed : before.Undisturbed activity) :
    before.FollowsMethods activity after := by
  rintro slot ⟨exchange, data, request⟩ hreceives
  obtain ⟨hdata, hstops⟩ := hundisturbed slot _ hreceives
  obtain ⟨plain, tls, requests, rfl, hexchange, ⟨hfits, hreceived⟩, hrequest, huse, hfd, hsend⟩ :=
    Server.receives_eq_some hreceives
  obtain ⟨k, hserve⟩ := Server.iterate_serves hstep huse hfd hexchange
  have hserved : (before.clients slot).servedRequest before.config exchange = some request := by
    rw [Client.servedRequest, hreceived, Option.bind_some, hdata, hrequest]
  exact (Client.serve_follows_iff huse hserved hsend hserve).mpr hstops

/-- In a run in which nothing disturbs an iteration, every slot follows the methods of
the requests that it receives. -/
theorem Server.followsMethods_of_undisturbed {config : Config} {activities : List Activity}
    (h : Runs.Each Server.iterate (fun before activity _ => before.Undisturbed activity)
      (Server.create config) activities) :
    Runs.Each Server.iterate Server.FollowsMethods (Server.create config) activities := by
  refine h.mono ?_
  intro before activity after hstep hundisturbed
  exact Server.iterate_follows hstep hundisturbed

/-- SETUP for the viewer, with datagrams. -/
def setupRequest : Exchange :=
  .receive ("SETUP rtsp://192.168.1.10/ch0/track1 RTSP/1.0\r\nCSeq: 1\r\n" ++
    "Transport: RTP/AVP;unicast;client_port=5000-5001\r\n\r\n") (by decide)

/-- PLAY for the viewer. -/
def playRequest : Exchange :=
  .receive "PLAY rtsp://192.168.1.10/ch0 RTSP/1.0\r\nCSeq: 2\r\n\r\n" (by decide)

/-- PAUSE for the viewer. -/
def pauseRequest : Exchange :=
  .receive "PAUSE rtsp://192.168.1.10/ch0 RTSP/1.0\r\nCSeq: 3\r\n\r\n" (by decide)

/-- A client connects, sets a stream up and plays it. -/
theorem Server.followsMethods_setupAndPlay :
    Runs.Each Server.iterate Server.FollowsMethods (Server.create openConfig)
      [acceptViewer, viewerSends setupRequest, viewerSends playRequest] :=
  Server.followsMethods_of_undisturbed (by decide +kernel)

/-- A client that then pauses is told that it has paused, and goes on playing. -/
theorem Server.not_followsMethods_pause :
    ¬Runs.Each Server.iterate Server.FollowsMethods (Server.create openConfig)
      [acceptViewer, viewerSends setupRequest, viewerSends playRequest,
        viewerSends pauseRequest] := by
  intro h
  have hpaused : Runs.Each Server.iterate
      (fun before activity after => ∀ slot, ∀ r ∈ before.receives activity slot,
        r.2.2.method = .pause → (before.clients slot).state = .playing →
        (after.clients slot).state = .ready)
      (Server.create openConfig) [acceptViewer, viewerSends setupRequest, viewerSends playRequest,
        viewerSends pauseRequest] := by
    refine h.mono fun before activity after _ hfollows slot r hr hmethod hplaying => ?_
    obtain ⟨response, -, hrule⟩ := hfollows slot r hr
    rw [hmethod, MethodRule, if_pos hplaying] at hrule
    exact hrule.2.2
  exact absurd hpaused (by decide +kernel)

end Rtsp
