import Strero.Http.Authentication

/-!
# The sockets of HTTP connections

What is called for the socket that `accept` returns, by the loop of the server, a handler, and
the thread that an MJPEG stream is handed over to. The loop closes sockets on which it has read
nothing or whose peer it does not know, and the thread closes its own. The functions that send
a response do not close, and neither does anything after them.
-/

namespace Http

open CString AuthUtils

variable {H : Type}

/-- The system calls for a socket. -/
inductive Call
  | setsockopt | recv | getpeername | send | close
deriving DecidableEq

/-- The socket is closed exactly once, and not used afterwards. -/
structure ClosedOnce (calls : List Call) : Prop where
  once : calls.count .close = 1
  unused : ∀ front back, calls = front ++ .close :: back → back = []

/-! ### Reading -/

/-- The calls of `recv` for the rest of a body. -/
def bodyCalls (contentLength : ℤ) (headersLen : ℕ) (request : List UInt8) :
    List (List UInt8) → List Call
  | [] =>
    if (request.length : ℤ) - headersLen < contentLength ∧ request.length < requestRoom then
      [.recv]
    else []
  | chunk :: chunks =>
    if (request.length : ℤ) - headersLen < contentLength ∧ request.length < requestRoom then
      let received := chunk.take (requestRoom - request.length)
      if received = [] then [.recv]
      else .recv :: bodyCalls contentLength headersLen (request ++ received) chunks
    else []

/-- The calls of `recv` for a request. -/
def readCalls : List (List UInt8) → List Call
  | [] => [.recv]
  | first :: chunks =>
    let request := first.take requestRoom
    if request = [] then [.recv]
    else match strstr (cString request) (ascii "Content-Length: ") with
      | none => [.recv]
      | some header =>
        match strstr (cString request) (ascii "\r\n\r\n") with
        | none => [.recv]
        | some headersEnd =>
          .recv :: bodyCalls (Scanf.atoi (header.drop 16))
            ((cString request).length - headersEnd.length + 4) request chunks

/-! ### Streams -/

/-- What becomes of one turn of the loop of an MJPEG stream: the server has stopped, no image is
captured, one of the three calls of `send` fails, or an image is sent. -/
inductive Turn
  | stopped | notCaptured | headerFails | imageFails | separatorFails | sent

/-- The calls of the loop of `mjpeg_stream_thread`, from a turn on. -/
def mjpegLoop (turns : ℕ → Turn) (n frameCount consecutiveErrors : ℕ) : List Call :=
  if frameCount < 3000 ∧ consecutiveErrors < 5 then
    match turns n with
    | .stopped => []
    | .notCaptured => mjpegLoop turns (n + 1) frameCount (consecutiveErrors + 1)
    | .headerFails => [.send]
    | .imageFails => [.send, .send]
    | .separatorFails => [.send, .send, .send]
    | .sent => [.send, .send, .send] ++ mjpegLoop turns (n + 1) (frameCount + 1) 0
  else []
termination_by (3000 - frameCount, 5 - consecutiveErrors)

/-- What happens while a request is answered: whether `send` takes a header, how often a handler
with a response of its own calls `send`, whether there are memory and a thread for a stream,
and how the thread fares. -/
structure Course where
  headerSent : Bool
  sends : ℕ
  allocated : Bool
  created : Bool
  streamStarted : Bool
  turns : ℕ → Turn

/-- `mjpeg_stream_thread`. -/
def mjpegStreamThread (course : Course) : List Call :=
  [.setsockopt, .setsockopt, .setsockopt, .send] ++
    (if course.streamStarted then mjpegLoop course.turns 0 0 0 else []) ++ [.close]

/-- `http_send_response`, for a body that is not empty. -/
def sendResponseCalls (course : Course) : List Call :=
  if course.headerSent then [.send, .send] else [.send]

/-- The channels, of which some are enabled, and the handlers that start a stream. Every other
handler sends a response. -/
structure Streaming (H : Type) where
  enabled : Fin 4 → Bool
  channelOf : H → Option (Fin 4)

/-- `handle_mjpeg_stream`, with the thread that it creates. -/
def Streaming.handleMjpegStream (streaming : Streaming H) (course : Course) (channel : Fin 4) :
    List Call :=
  if !streaming.enabled channel then sendResponseCalls course
  else if !course.allocated then sendResponseCalls course
  else if !course.created then sendResponseCalls course
  else mjpegStreamThread course

/-- The calls of a handler. -/
def Streaming.handlerCalls (streaming : Streaming H) (course : Course) (handler : H) :
    List Call :=
  match streaming.channelOf handler with
  | some channel => streaming.handleMjpegStream course channel
  | none => List.replicate course.sends .send

/-- The calls that follow from the decision on a connection. -/
def Streaming.replyCalls (streaming : Streaming H) (course : Course) : Reply H → List Call
  | .closed => [.close]
  | .response response =>
    if response = unauthorizedResponse then [.send] else sendResponseCalls course
  | .handled route => streaming.handlerCalls course route.handler

/-- The calls for the socket of one connection, by the loop of `http_module_server_thread`, the
handlers and the thread. -/
def Server.connectionCalls (server : Server H) (streaming : Streaming H) (course : Course)
    (peer : Option UInt32) (chunks : List (List UInt8)) : Option (List Call) :=
  (server.handleConnection peer chunks).map fun reply =>
    [.setsockopt, .setsockopt] ++ readCalls chunks ++
      (if readRequest chunks = [] then [] else [.getpeername]) ++
      streaming.replyCalls course reply

/-- The request is authenticated or bypasses that, and goes to a stream that starts: its channel
is enabled, and there are memory and a thread for it. -/
def Server.HandsOver (server : Server H) (streaming : Streaming H) (course : Course)
    (client : ClientInfo) (request : List UInt8) : Prop :=
  (contains request (ascii "/onvif/") = true ∨ server.Passes client request) ∧
    course.allocated = true ∧ course.created = true ∧
    ∃ route channel, server.router.httpRouterDispatch request = some route ∧
      streaming.channelOf route.handler = some channel ∧ streaming.enabled channel = true

/-! ### What closes a socket -/

variable {streaming : Streaming H} {course : Course} {calls front : List Call}

/-- Without `close` the socket stays open. -/
theorem not_closedOnce (h : Call.close ∉ calls) : ¬ClosedOnce calls := by
  intro hclosed
  have hcount := hclosed.once
  rw [List.count_eq_zero_of_not_mem h] at hcount
  exact absurd hcount (by decide)

theorem closedOnce_close : ClosedOnce [.close] where
  once := by decide
  unused front back h := by
    cases front with
    | nil => exact (List.cons.inj h).2.symm
    | cons call front => simpa using congrArg List.length h

/-- What happens before the socket is closed does not matter. -/
theorem closedOnce_append (h : Call.close ∉ front) :
    ClosedOnce (front ++ calls) ↔ ClosedOnce calls := by
  constructor
  · intro hclosed
    refine ⟨?_, fun middle back hsplit => hclosed.unused (front ++ middle) back ?_⟩
    · rw [← hclosed.once, List.count_append, List.count_eq_zero_of_not_mem h, Nat.zero_add]
    · rw [hsplit, List.append_assoc]
  · intro hclosed
    refine ⟨?_, fun middle back hsplit => ?_⟩
    · rw [List.count_append, List.count_eq_zero_of_not_mem h, Nat.zero_add, hclosed.once]
    · obtain ⟨between, rfl, hcalls⟩ | ⟨between, rfl, hcalls⟩ := List.append_eq_append_iff.mp hsplit
      · exact hclosed.unused between back hcalls
      · cases between with
        | nil => exact hclosed.unused [] back hcalls.symm
        | cons call between =>
          obtain ⟨rfl, -⟩ := List.cons.inj hcalls
          exact absurd (List.mem_append_right middle List.mem_cons_self) h

theorem close_notMem_bodyCalls (contentLength : ℤ) (headersLen : ℕ) (request : List UInt8)
    (chunks : List (List UInt8)) :
    Call.close ∉ bodyCalls contentLength headersLen request chunks := by
  induction chunks generalizing request with
  | nil =>
    unfold bodyCalls
    split_ifs <;> decide
  | cons chunk chunks ih =>
    unfold bodyCalls
    dsimp only
    split_ifs
    · decide
    · exact List.not_mem_cons_of_ne_of_not_mem (by decide) (ih _)
    · decide

theorem close_notMem_readCalls (chunks : List (List UInt8)) : Call.close ∉ readCalls chunks := by
  unfold readCalls
  cases chunks with
  | nil => decide
  | cons first chunks =>
    dsimp only
    by_cases hempty : first.take requestRoom = []
    · rw [if_pos hempty]
      decide
    · rw [if_neg hempty]
      have hrecv : Call.close ∉ [Call.recv] := by decide
      cases strstr (cString (first.take requestRoom)) (ascii "Content-Length: ") with
      | none => exact hrecv
      | some header =>
        cases strstr (cString (first.take requestRoom)) (ascii "\r\n\r\n") with
        | none => exact hrecv
        | some headersEnd =>
          exact List.not_mem_cons_of_ne_of_not_mem (by decide) (close_notMem_bodyCalls _ _ _ _)

/-- The loop of a stream leaves the socket open. -/
theorem close_notMem_mjpegLoop (turns : ℕ → Turn) (n frameCount consecutiveErrors : ℕ) :
    Call.close ∉ mjpegLoop turns n frameCount consecutiveErrors := by
  fun_induction mjpegLoop turns n frameCount consecutiveErrors with
  | case1 => decide
  | case2 n frameCount errors hgoes hturn ih => exact ih
  | case3 => decide
  | case4 => decide
  | case5 => decide
  | case6 n frameCount errors hgoes hturn ih =>
    rw [List.mem_append]
    rintro (hsend | hrest)
    · exact absurd hsend (by decide)
    · exact ih hrest
  | case7 => decide

/-- The thread of a stream closes its socket, however it ends. -/
theorem closedOnce_mjpegStreamThread (course : Course) : ClosedOnce (mjpegStreamThread course) := by
  refine (closedOnce_append ?_).mpr closedOnce_close
  rw [List.mem_append]
  rintro (hstart | hloop)
  · exact absurd hstart (by decide)
  · split_ifs at hloop
    · exact close_notMem_mjpegLoop _ _ _ _ hloop
    · cases hloop

/-- A response leaves the socket open. -/
theorem close_notMem_sendResponseCalls (course : Course) :
    Call.close ∉ sendResponseCalls course := by
  unfold sendResponseCalls
  split <;> decide

/-- The socket of a stream is closed exactly if its thread is started. -/
theorem Streaming.closedOnce_handleMjpegStream (channel : Fin 4) :
    ClosedOnce (streaming.handleMjpegStream course channel) ↔
      streaming.enabled channel = true ∧ course.allocated = true ∧ course.created = true := by
  have hopen := not_closedOnce (close_notMem_sendResponseCalls course)
  have hthread := closedOnce_mjpegStreamThread course
  unfold Streaming.handleMjpegStream
  split_ifs with henabled hallocated hcreated
  · exact iff_of_false hopen fun h => by simp [h.1] at henabled
  · exact iff_of_false hopen fun h => by simp [h.2.1] at hallocated
  · exact iff_of_false hopen fun h => by simp [h.2.2] at hcreated
  · rw [Bool.not_eq_true', Bool.not_eq_false] at henabled hallocated hcreated
    exact iff_of_true hthread ⟨henabled, hallocated, hcreated⟩

/-- Of the replies to a connection only those close the socket that are no response. -/
theorem Streaming.closedOnce_replyCalls (reply : Reply H) :
    ClosedOnce (streaming.replyCalls course reply) ↔
      reply = .closed ∨ course.allocated = true ∧ course.created = true ∧
        ∃ route channel, reply = .handled route ∧
          streaming.channelOf route.handler = some channel ∧ streaming.enabled channel = true := by
  cases reply with
  | closed => exact iff_of_true closedOnce_close (.inl rfl)
  | response response =>
    refine iff_of_false (not_closedOnce ?_) ?_
    · rw [Streaming.replyCalls]
      split_ifs
      · decide
      · exact close_notMem_sendResponseCalls course
    · rintro (hclosed | ⟨-, -, _, _, hhandled, -⟩)
      · cases hclosed
      · cases hhandled
  | handled route =>
    rw [Streaming.replyCalls, Streaming.handlerCalls]
    cases hchannel : streaming.channelOf route.handler with
    | none =>
      refine iff_of_false (not_closedOnce fun hmem => ?_) ?_
      · exact absurd (List.eq_of_mem_replicate hmem) (by decide)
      · rintro (hclosed | ⟨-, -, _, _, hhandled, hstream, -⟩)
        · cases hclosed
        · cases hhandled
          rw [hchannel] at hstream
          cases hstream
    | some channel =>
      dsimp only
      rw [Streaming.closedOnce_handleMjpegStream]
      constructor
      · rintro ⟨henabled, hallocated, hcreated⟩
        exact .inr ⟨hallocated, hcreated, route, channel, rfl, hchannel, henabled⟩
      · rintro (hclosed | ⟨hallocated, hcreated, _, other, hhandled, hstream, henabled⟩)
        · cases hclosed
        · cases hhandled
          rw [hchannel, Option.some_inj] at hstream
          exact ⟨hstream ▸ henabled, hallocated, hcreated⟩

/-- A request gets to a handler if it passes, or bypasses authentication. -/
theorem Server.handleRequest_eq_handled {server : Server H} {client : ClientInfo}
    {request : List UInt8} {route : Route H} :
    server.handleRequest client request = some (.handled route) ↔
      (contains request (ascii "/onvif/") = true ∨ server.Passes client request) ∧
        server.router.httpRouterDispatch request = some route := by
  have hrouted : server.routeRequest request = .handled route ↔
      server.router.httpRouterDispatch request = some route := by
    unfold Server.routeRequest
    cases server.router.httpRouterDispatch request with
    | none => exact iff_of_false nofun nofun
    | some found => rw [Reply.handled.injEq, Option.some_inj]
  unfold Server.handleRequest Server.Passes
  dsimp only
  cases honvif : contains request (ascii "/onvif/") with
  | true => simpa using hrouted
  | false =>
    rw [Bool.not_false, if_pos rfl, or_iff_right Bool.false_ne_true]
    cases hresult : authCheckHttpRequest server.tableAddress request server.auth client with
    | none => exact iff_of_false nofun fun hpasses => nomatch hpasses.1
    | some result =>
      cases result with
      | success => simpa using hrouted
      | required => simp
      | invalid => simp
      | error => simp

/-- A request that is decided on is answered. -/
theorem Server.handleRequest_ne_closed {server : Server H} {client : ClientInfo}
    {request : List UInt8} : server.handleRequest client request ≠ some .closed := by
  intro hclosed
  obtain ⟨result, -, hreply⟩ := Option.map_eq_some_iff.mp hclosed
  cases result with
  | success =>
    dsimp only at hreply
    unfold Server.routeRequest at hreply
    split at hreply <;> cases hreply
  | required => cases hreply
  | invalid => cases hreply
  | error => cases hreply

/-- The socket of a connection is closed exactly once, and not used afterwards, if and only if
nothing was read from it, its peer is unknown, or it was handed over to a stream. -/
theorem Server.closedOnce_iff (server : Server H) (streaming : Streaming H) (course : Course)
    (peer : Option UInt32) (chunks : List (List UInt8)) {calls : List Call}
    (h : server.connectionCalls streaming course peer chunks = some calls) :
    ClosedOnce calls ↔ readRequest chunks = [] ∨ ∀ client ∈ authGetClientInfo peer,
      server.HandsOver streaming course client (cString (readRequest chunks)) := by
  obtain ⟨reply, hreply, rfl⟩ := Option.map_eq_some_iff.mp h
  have hstart : Call.close ∉ [Call.setsockopt, .setsockopt] ++ readCalls chunks ++
      (if readRequest chunks = [] then [] else [.getpeername]) := by
    rw [List.mem_append, List.mem_append]
    rintro ((hoptions | hread) | hpeer)
    · exact absurd hoptions (by decide)
    · exact close_notMem_readCalls chunks hread
    · split_ifs at hpeer
      · cases hpeer
      · exact absurd hpeer (by decide)
  rw [closedOnce_append hstart, Streaming.closedOnce_replyCalls]
  unfold Server.handleConnection at hreply
  dsimp only at hreply
  by_cases hempty : readRequest chunks = []
  · rw [if_pos hempty] at hreply
    exact iff_of_true (.inl (Option.some.inj hreply).symm) (.inl hempty)
  · rw [if_neg hempty] at hreply
    rw [or_iff_right hempty]
    cases hclient : authGetClientInfo peer with
    | none =>
      rw [hclient] at hreply
      exact iff_of_true (.inl (Option.some.inj hreply).symm) nofun
    | some client =>
      rw [hclient] at hreply
      dsimp only at hreply
      have hanswered : reply ≠ .closed := by
        rintro rfl
        exact Server.handleRequest_ne_closed hreply
      rw [or_iff_right hanswered]
      constructor
      · rintro ⟨hallocated, hcreated, route, channel, rfl, hstream, henabled⟩ _ hmem
        obtain rfl := Option.some.inj hmem
        obtain ⟨hpasses, hroute⟩ := Server.handleRequest_eq_handled.mp hreply
        exact ⟨hpasses, hallocated, hcreated, route, channel, hroute, hstream, henabled⟩
      · intro hhands
        obtain ⟨hpasses, hallocated, hcreated, route, channel, hroute, hstream, henabled⟩ :=
          hhands client rfl
        have hhandled := Server.handleRequest_eq_handled.mpr ⟨hpasses, hroute⟩
        rw [hreply, Option.some_inj] at hhandled
        exact ⟨hallocated, hcreated, route, channel, hhandled, hstream, henabled⟩

/-- The handlers of the camera that start a stream, with the first channel enabled. -/
def cameraStreaming : Streaming Handler where
  enabled channel := channel.val = 0
  channelOf
    | .streamMjpeg channel => some channel
    | _ => none

/-- Everything that is needed is there, but the stream ends at once. -/
def shortCourse : Course := ⟨true, 2, true, true, true, fun _ => .stopped⟩

/-- The camera, where local clients need no credentials. -/
def bypassServer : Server Handler :=
  { cameraServer with auth := { adminConfig "secret" with localhostBypass := true } }

/-- A local request for the stream. -/
def streamRequest : List UInt8 := ascii "GET /stream0.mjpeg HTTP/1.1\r\n\r\n"

/-- The thread of a stream closes the socket that is handed over to it. -/
theorem Server.closedOnce_stream :
    ∃ calls, bypassServer.connectionCalls cameraStreaming shortCourse (some 0x7F000001)
      [streamRequest] = some calls ∧ ClosedOnce calls := by
  have hreply : bypassServer.handleConnection (some 0x7F000001) [streamRequest] =
      some (.handled (getRoute "/stream0.mjpeg" (.streamMjpeg 0))) := by decide +kernel
  have hcalls := congrArg (Option.map fun reply =>
    [.setsockopt, .setsockopt] ++ readCalls [streamRequest] ++
      (if readRequest [streamRequest] = [] then [] else [.getpeername]) ++
      cameraStreaming.replyCalls shortCourse reply) hreply
  refine ⟨_, hcalls, (Server.closedOnce_iff _ _ _ _ _ hcalls).mpr (.inr fun client hclient => ?_)⟩
  obtain rfl := Option.some.inj hclient
  exact ⟨.inr (by decide +kernel), rfl, rfl, getRoute "/stream0.mjpeg" (.streamMjpeg 0), 0,
    by decide +kernel, rfl, rfl⟩

/-- The socket on which credentials were asked for stays open. -/
theorem Server.not_closedOnce_unauthorized :
    ¬∀ (server : Server Handler) (course : Course) (peer : Option UInt32)
        (chunks : List (List UInt8)),
      ∀ calls ∈ server.connectionCalls cameraStreaming course peer chunks, ClosedOnce calls := by
  intro h
  have hcalls : cameraServer.connectionCalls cameraStreaming shortCourse (some 0xC0A80002)
      [ascii "GET /status.json HTTP/1.1\r\n\r\n"] =
        some [.setsockopt, .setsockopt, .recv, .getpeername, .send] := by decide +kernel
  have hclosed := h cameraServer shortCourse (some 0xC0A80002) _ _ hcalls
  exact absurd hclosed.once (by decide)

end Http
