import Strero.Http.Server

/-!
# Authentication of HTTP requests

The thread leaves requests for the ONVIF service to the module of that service. It takes
for such a request every text that holds the path of the service somewhere, while the router
looks at the path of the request line.
-/

namespace Http

open CString AuthUtils

variable {H : Type}

/-- The handler of the route checks credentials by itself. -/
def Route.isOnvif (route : Route H) : Prop := ascii "/onvif/" <+: route.path

instance (route : Route H) : Decidable route.isOnvif := inferInstanceAs (Decidable (_ <+: _))

/-- An error response, or the handler of a route of the ONVIF service. -/
def Reply.refuses : Reply H → Prop
  | .closed => False
  | .response sent => 400 ≤ sent.statusCode
  | .handled route => route.isOnvif

instance : (reply : Reply H) → Decidable reply.refuses
  | .closed => inferInstanceAs (Decidable False)
  | .response sent => inferInstanceAs (Decidable (400 ≤ sent.statusCode))
  | .handled route => inferInstanceAs (Decidable route.isOnvif)

/-- The request has got `AUTH_RESULT_SUCCESS`. -/
def Server.Passes (server : Server H) (client : ClientInfo) (request : List UInt8) : Prop :=
  authCheckHttpRequest server.tableAddress request server.auth client = some .success

instance (server : Server H) (client : ClientInfo) (request : List UInt8) :
    Decidable (server.Passes client request) :=
  inferInstanceAs (Decidable (_ = _))

/-- A handler outside the ONVIF service runs only for a request that passes; any other
request gets an error or goes to that service. -/
def Server.Gates (server : Server H) (client : ClientInfo) (request : List UInt8)
    (reply : Reply H) : Prop :=
  (∀ route, reply = .handled route → ¬route.isOnvif → server.Passes client request) ∧
    (¬server.Passes client request → reply.refuses)

/-- The text names the ONVIF service, and the method and path are those of a route outside
of it. -/
def Server.Disguises (server : Server H) (request : List UInt8) : Prop :=
  contains request (ascii "/onvif/") = true ∧ server.router.initialized = true ∧
    ∃ route ∈ server.router.routes, ¬route.isOnvif ∧ requestKey request = some route.key

instance (server : Server H) (request : List UInt8) : Decidable (server.Disguises request) :=
  inferInstanceAs (Decidable (_ ∧ _))

/-- A request that passes is gated in any case. -/
theorem Server.gates_of_passes {server : Server H} {client : ClientInfo} {request : List UInt8}
    (reply : Reply H) (hpasses : server.Passes client request) :
    server.Gates client request reply :=
  ⟨fun _ _ _ => hpasses, absurd hpasses⟩

/-- For a request that does not pass the gate is about the reply. -/
theorem Server.gates_iff_refuses {server : Server H} {client : ClientInfo} {request : List UInt8}
    {reply : Reply H} (hfails : ¬server.Passes client request) :
    server.Gates client request reply ↔ reply.refuses := by
  constructor
  · exact fun hgates => hgates.2 hfails
  · intro hrefuses
    refine ⟨?_, fun _ => hrefuses⟩
    rintro route rfl hroute
    exact absurd hrefuses hroute

/-- Routing refuses a request unless its method and path are those of a route outside the
ONVIF service. -/
theorem Server.routeRequest_refuses_iff (server : Server H) (request : List UInt8) :
    (server.routeRequest request).refuses ↔ ¬(server.router.initialized = true ∧
      ∃ route ∈ server.router.routes, ¬route.isOnvif ∧ requestKey request = some route.key) := by
  unfold Server.routeRequest
  cases hdispatch : server.router.httpRouterDispatch request with
  | none =>
    have hrefuses : 400 ≤ notFoundResponse.statusCode := by decide
    refine iff_of_true hrefuses ?_
    rintro ⟨hinitialized, route, hmem, -, hkey⟩
    have hfound := Router.httpRouterDispatch_eq_some_iff.mpr ⟨hinitialized, hmem, hkey⟩
    rw [hdispatch] at hfound
    cases hfound
  | some route =>
    obtain ⟨hinitialized, hmem, hkey⟩ := Router.httpRouterDispatch_eq_some_iff.mp hdispatch
    refine ⟨?_, fun hnone => ?_⟩
    · rintro honvif ⟨-, other, hother, hroute, hkey'⟩
      obtain rfl : route = other := Option.some.inj (hdispatch.symm.trans
        (Router.httpRouterDispatch_eq_some_iff.mpr ⟨hinitialized, hother, hkey'⟩))
      exact hroute honvif
    · by_contra hroute
      exact hnone ⟨hinitialized, route, hmem, hroute, hkey⟩

/-- A request that fails and names the ONVIF service is refused unless it is in disguise. -/
theorem Server.handleRequest_refuses_iff {server : Server H} {client : ClientInfo}
    {request : List UInt8} (hfails : ¬server.Passes client request) :
    (∀ reply ∈ server.handleRequest client request, reply.refuses) ↔
      ¬server.Disguises request := by
  unfold Server.handleRequest Server.Disguises
  cases honvif : contains request (ascii "/onvif/") with
  | true =>
    have hroute := server.routeRequest_refuses_iff request
    simpa using hroute
  | false =>
    refine iff_of_true ?_ (by simp)
    intro reply hreply
    obtain ⟨result, hresult, rfl⟩ := Option.map_eq_some_iff.mp hreply
    cases result with
    | success => exact absurd (by simpa [Server.Passes] using hresult) hfails
    | required =>
      have hrefuses : 400 ≤ unauthorizedResponse.statusCode := by decide
      exact hrefuses
    | invalid =>
      have hrefuses : 400 ≤ forbiddenResponse.statusCode := by decide
      exact hrefuses
    | error => exact (by decide : 400 ≤ 500)

/-- Every request that is read is gated exactly when it passes or is not in disguise. Where
authentication is not required every request passes. -/
theorem Server.handleConnection_gates_iff (server : Server H) {peer : Option UInt32}
    {client : ClientInfo} (chunks : List (List UInt8))
    (hclient : authGetClientInfo peer = some client) (hread : readRequest chunks ≠ []) :
    (∀ reply ∈ server.handleConnection peer chunks,
        server.Gates client (cString (readRequest chunks)) reply) ↔
      (server.Disguises (cString (readRequest chunks)) →
        server.Passes client (cString (readRequest chunks))) := by
  unfold Server.handleConnection
  rw [if_neg hread, hclient]
  dsimp only
  by_cases hpasses : server.Passes client (cString (readRequest chunks))
  · exact iff_of_true (fun reply _ => Server.gates_of_passes reply hpasses) fun _ => hpasses
  · simp only [Server.gates_iff_refuses hpasses, Server.handleRequest_refuses_iff hpasses,
      hpasses, imp_false]

/-- The camera with the routes that are registered first, and authentication for the user
`admin`. -/
def cameraServer : Server Handler where
  auth := adminConfig "secret"
  router := (httpRouterInit.httpRouterRegisterRoutes (coreRoutes ++ onvifRoutes)).getD
    httpRouterInit
  tableAddress := 0

/-- The ONVIF service is reached without the credentials of the HTTP module. -/
def snapshotRequest : List UInt8 := ascii "GET /onvif/snapshot HTTP/1.1\r\n\r\n"

/-- The service in the query of another path. -/
def disguisedRequest : List UInt8 := ascii "GET /config.json?/onvif/ HTTP/1.1\r\n\r\n"

/-- A request for the ONVIF service goes there without credentials. -/
theorem Server.handleConnection_gates_snapshot :
    authGetClientInfo (some 0xC0A80002) = some lanClient ∧
      authIsRequired cameraServer.auth lanClient = true ∧
      cameraServer.handleConnection (some 0xC0A80002) [snapshotRequest] =
        some (.handled (onvifRoute "/onvif/snapshot" .get)) ∧
      ∀ reply ∈ cameraServer.handleConnection (some 0xC0A80002) [snapshotRequest],
        cameraServer.Gates lanClient (cString (readRequest [snapshotRequest])) reply :=
  ⟨by decide, by decide, by decide +kernel,
    (Server.handleConnection_gates_iff cameraServer [snapshotRequest] (by decide)
      (by decide +kernel)).mpr (by decide +kernel)⟩

/-- The configuration is served without credentials to a request that names the ONVIF
service in its query. -/
theorem Server.not_handleConnection_gates_disguised :
    ¬∀ (server : Server Handler) (peer : Option UInt32) (client : ClientInfo)
        (chunks : List (List UInt8)), authGetClientInfo peer = some client →
      authIsRequired server.auth client = true → readRequest chunks ≠ [] →
      ∀ reply ∈ server.handleConnection peer chunks,
        server.Gates client (cString (readRequest chunks)) reply := by
  intro h
  have hreply : cameraServer.handleConnection (some 0xC0A80002) [disguisedRequest] =
      some (.handled (getRoute "/config.json" .configJson)) := by decide +kernel
  have hgates := h cameraServer (some 0xC0A80002) lanClient [disguisedRequest] (by decide)
    (by decide) (by decide +kernel) _ hreply
  have hpasses := hgates.1 _ rfl (by decide)
  exact absurd hpasses (by decide +kernel)

end Http
