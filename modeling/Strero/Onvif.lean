import Strero.AuthUtils
import Strero.Lib.Scanf

/-!
# The ONVIF request handler

The handler first decides whether the request needs authentication, by a search
over the whole text. It then picks an action by other searches, over the headers
and the XML of the body, and runs the action's handler.
-/

namespace Onvif

open CString Scanf AuthUtils

/-- The functions that the request handler hands a request over to. -/
inductive Handler
  | snapshotRequest (channel : ℤ)
  | getDeviceInformation | getSnapshotUri | getCapabilities | getServices
  | getSystemDateAndTime | getVideoSourcesAlt | getProfiles | getStreamUri
  | getVideoEncoderConfiguration
  | getMediaServiceCapabilities | getDeviceServiceCapabilities | ptzGetServiceCapabilities
  | eventGetServiceCapabilities | getServiceCapabilities
  | systemReboot | imagingGetOptions | eventSubscribe | eventUnsubscribe
deriving DecidableEq

/-- What a request leads to: an error with its status and message, a fixed
response, or the call of a handler. -/
inductive Reply
  | httpError (status : ℕ) (message : String)
  | response (text : String)
  | handled (handler : Handler)
deriving DecidableEq

/-! ### The action of a request -/

/-- The text between the opening quote at `start` and the next one. -/
def quoted (start : List UInt8) : Option (List UInt8) :=
  (strchr start '"'.toUInt8).map (between start)

/-- The quoted value of the `SOAPAction` header. -/
def soapActionHeader (request : List UInt8) : Option (List UInt8) := do
  let header ← strstr request (ascii "SOAPAction:")
  match (header.drop 11).dropWhile (· = ' '.toUInt8) with
  | b :: rest => if b = '"'.toUInt8 then quoted rest else none
  | [] => none

/-- The `action` parameter after the `Content-Type` header. -/
def contentTypeAction (request : List UInt8) : Option (List UInt8) := do
  let contentType ← strstr request (ascii "Content-Type:")
  let parameter ← strstr contentType (ascii "action=\"")
  quoted (parameter.drop 8)

/-- The white space that the search for the action element skips. -/
def isBlank (b : UInt8) : Bool := b ∈ ascii " \t\n\r"

/-- A `:` comes before the end of the element name. -/
def isNamespaced (name : List UInt8) : Bool :=
  match strchr name ':'.toUInt8, strpbrk name (ascii "> \t\n\r") with
  | some colon, some stop => before colon stop
  | _, _ => false

/-- The search for the first element with a namespace that is not the envelope's
own. White space holds no `<`, so the search may go on in front of it. -/
def findActionElement : List UInt8 → Option (List UInt8)
  | [] => none
  | b :: rest =>
    if b ≠ '<'.toUInt8 then findActionElement rest
    else
      let name := rest.dropWhile isBlank
      if (ascii "SOAP-ENV:").isPrefixOf name || (ascii "soap:").isPrefixOf name then
        findActionElement rest
      else if isNamespaced name then some name
      else findActionElement rest

/-- `extract_soap_action_from_body`. -/
def extractSoapActionFromBody (request : List UInt8) : Option (List UInt8) := do
  let bodyStart ← strstr request (ascii "\r\n\r\n")
  let bodySection ← (strstr (bodyStart.drop 4) (ascii "<SOAP-ENV:Body>")).orElse fun _ =>
    strstr (bodyStart.drop 4) (ascii "<soap:Body>")
  let element ← findActionElement bodySection
  let colon ← strchr element ':'.toUInt8
  let name := (colon.drop 1).takeWhile (· ∉ ascii "> /")
  if name = [] then none else some name

/-- The action found first in the headers, or else in the body. -/
def soapAction (request : List UInt8) : Option (List UInt8) :=
  ((soapActionHeader request).orElse fun _ => contentTypeAction request).orElse fun _ =>
    extractSoapActionFromBody request

/-- The action that a SOAP request is taken to ask for: that of the body, or else
that of the headers. -/
def requestedAction (request : List UInt8) : Option (List UInt8) :=
  (extractSoapActionFromBody request).orElse fun _ => soapAction request

/-! ### Dispatch -/

/-- `sscanf(text, "channel=%d", &channel)`, with `channel` left at zero where no
number follows. -/
def scanChannel (text : List UInt8) : ℤ :=
  (Scanner.scan (do literal "channel="; int) text).getD 0

/-- The handler for `GetServiceCapabilities`, by the service of the request. -/
def serviceCapabilitiesHandler (request : List UInt8) : Handler :=
  if contains request (ascii "POST /onvif/media_service") then .getMediaServiceCapabilities
  else if contains request (ascii "POST /onvif/device_service") then .getDeviceServiceCapabilities
  else if contains request (ascii "POST /onvif/ptz_service") then .ptzGetServiceCapabilities
  else if contains request (ascii "POST /onvif/event_service") then .eventGetServiceCapabilities
  else .getServiceCapabilities

/-- The first handler of a chain whose test succeeds. -/
def firstHandler (chain : List (Bool × Handler)) : Option Handler :=
  (chain.find? Prod.fst).map Prod.snd

/-- The tests of the chain in front of `GetSystemDateAndTime`. -/
def earlierTests (action : List UInt8) : List (Bool × Handler) :=
  [(contains action (ascii "GetDeviceInformation"), .getDeviceInformation),
    (contains action (ascii "GetSnapshotUri"), .getSnapshotUri),
    (contains action (ascii "GetCapabilities"), .getCapabilities),
    (contains action (ascii "GetServices"), .getServices)]

/-- The tests of the chain after `GetSystemDateAndTime`. -/
def laterTests (request action : List UInt8) : List (Bool × Handler) :=
  [(contains action (ascii "GetVideoSources") || contains action (ascii "wsdlGetVideoSources"),
      .getVideoSourcesAlt),
    (contains action (ascii "GetProfiles"), .getProfiles),
    (contains action (ascii "GetStreamUri"), .getStreamUri),
    (contains action (ascii "GetVideoEncoderConfiguration"), .getVideoEncoderConfiguration),
    (contains action (ascii "GetProfile"), .getProfiles),
    (contains action (ascii "GetServiceCapabilities"), serviceCapabilitiesHandler request),
    (contains action (ascii "SystemReboot"), .systemReboot),
    (contains action (ascii "GetOptions") && contains request (ascii "/onvif/imaging_service"),
      .imagingGetOptions),
    (contains action (ascii "Subscribe"), .eventSubscribe),
    (contains action (ascii "Unsubscribe"), .eventUnsubscribe)]

/-- The chain of searches that picks the handler of an action. -/
def actionHandler (request action : List UInt8) : Option Handler :=
  firstHandler (earlierTests action ++
    (contains action (ascii "GetSystemDateAndTime"), .getSystemDateAndTime) ::
      laterTests request action)

/-- The part of `onvif_module_handle_request` after authentication. -/
def serveRequest (request : List UInt8) : Reply :=
  if contains request (ascii "GET /onvif/snapshot") then
    .handled (.snapshotRequest (((strstr request (ascii "channel=")).map scanChannel).getD 0))
  else if contains request (ascii "POST /onvif/device_service") ||
      contains request (ascii "POST /onvif/media_service") ||
      contains request (ascii "POST /onvif/event_service") ||
      contains request (ascii "POST /onvif") then
    match requestedAction request with
    | none => .httpError 400 "Could not determine SOAP action"
    | some action =>
      match actionHandler request action with
      | some handler => .handled handler
      | none => .response
        "HTTP/1.1 501 Not Implemented\r\nContent-Length: 0\r\nConnection: close\r\n\r\n"
  else .response "HTTP/1.1 400 Bad Request\r\nContent-Length: 0\r\nConnection: close\r\n\r\n"

/-- The response to missing and to wrong credentials. -/
def unauthorizedResponse : String :=
  "HTTP/1.1 401 Unauthorized\r\n" ++
  "WWW-Authenticate: Basic realm=\"Thingino ONVIF Server\"\r\n" ++
  "Content-Type: text/plain\r\n" ++
  "Content-Length: 12\r\n" ++
  "Connection: close\r\n" ++
  "\r\n" ++
  "Unauthorized"

/-- The module's state, and the peer of the socket that the request came on. -/
structure Server where
  enabled : Bool
  peer : Option UInt32
  auth : Option AuthConfig
  tableAddress : UInt32

/-- The text that exempts a request from authentication. -/
def isGetSystemDateTime (request : List UInt8) : Bool :=
  contains request (ascii "<tds:GetSystemDateAndTime")

/-- `onvif_module_handle_request`. -/
def onvifModuleHandleRequest (server : Server) (request : List UInt8) : Option Reply :=
  if !server.enabled then some (.httpError 503 "ONVIF service unavailable")
  else match authGetClientInfo server.peer with
    | none => some (.httpError 500 "Internal server error")
    | some client =>
      match server.auth with
      | none => some (.httpError 500 "Internal server error")
      | some config =>
        let authResult :=
          if !isGetSystemDateTime request then
            authCheckOnvifRequest server.tableAddress request config client
          else some .success
        authResult.map fun
          | .required => .response unauthorizedResponse
          | .invalid => .response unauthorizedResponse
          | .error => .httpError 500 "Authentication system error"
          | .success => serveRequest request

/-! ### What the exemption lets through -/

/-- The action holds the name of a supported action, and `GetSystemDateAndTime`
does not come first. -/
def NamesOther (request action : List UInt8) : Prop :=
  (∃ test ∈ earlierTests action, test.1 = true) ∨
    contains action (ascii "GetSystemDateAndTime") = false ∧
      ∃ test ∈ laterTests request action, test.1 = true

instance (request action : List UInt8) : Decidable (NamesOther request action) :=
  inferInstanceAs (Decidable (_ ∨ _ ∧ _))

/-- The request asks for a snapshot, or for an action that names a supported one
other than `GetSystemDateAndTime`. -/
def AsksForOther (request : List UInt8) : Prop :=
  contains request (ascii "GET /onvif/snapshot") = true ∨
    contains request (ascii "POST /onvif") = true ∧
      ∃ action ∈ requestedAction request, NamesOther request action

instance (request : List UInt8) : Decidable (AsksForOther request) :=
  inferInstanceAs (Decidable (_ ∨ _ ∧ _))

/-- In a chain in which one handler stands once, another handler is picked
exactly when a test in front of it succeeds, or its own test fails and a test
after it succeeds. -/
theorem exists_firstHandler_ne_iff {earlier later : List (Bool × Handler)} {test : Bool}
    {handler : Handler} (hearlier : ∀ e ∈ earlier, e.2 ≠ handler)
    (hlater : ∀ e ∈ later, e.2 ≠ handler) :
    (∃ picked, firstHandler (earlier ++ (test, handler) :: later) = some picked ∧
        picked ≠ handler) ↔
      (∃ e ∈ earlier, e.1 = true) ∨ test = false ∧ ∃ e ∈ later, e.1 = true := by
  induction earlier with
  | nil =>
    cases test with
    | true => simp [firstHandler]
    | false =>
      constructor
      · rintro ⟨picked, hpicked, -⟩
        obtain ⟨e, hfind, -⟩ := Option.map_eq_some_iff.mp hpicked
        exact .inr ⟨rfl, e, List.mem_of_find?_eq_some (by simpa using hfind),
          List.find?_some hfind⟩
      · rintro (⟨e, he, -⟩ | ⟨-, e, he, htest⟩)
        · cases he
        · obtain ⟨f, hf⟩ := Option.isSome_iff_exists.mp (List.find?_isSome.mpr ⟨e, he, htest⟩)
          exact ⟨f.2, by simp [firstHandler, hf], hlater f (List.mem_of_find?_eq_some hf)⟩
  | cons e earlier ih =>
    obtain ⟨first, picked⟩ := e
    have hpicked : picked ≠ handler := hearlier _ List.mem_cons_self
    have ih := ih fun f hf => hearlier f (List.mem_cons_of_mem _ hf)
    cases first with
    | true => simpa [firstHandler] using hpicked
    | false => simpa [firstHandler] using ih

theorem serviceCapabilitiesHandler_ne (request : List UInt8) :
    serviceCapabilitiesHandler request ≠ .getSystemDateAndTime := by
  unfold serviceCapabilitiesHandler
  split_ifs <;> nofun

/-- The chain picks a handler other than that of `GetSystemDateAndTime` exactly
for the actions that name one. -/
theorem exists_actionHandler_ne_iff (request action : List UInt8) :
    (∃ handler, actionHandler request action = some handler ∧ handler ≠ .getSystemDateAndTime) ↔
      NamesOther request action :=
  exists_firstHandler_ne_iff (by simp [earlierTests])
    (by simp [laterTests, serviceCapabilitiesHandler_ne])

/-- The searches for the paths of single services add nothing to the last one. -/
theorem isPost_eq (request : List UInt8) :
    (contains request (ascii "POST /onvif/device_service") ||
      contains request (ascii "POST /onvif/media_service") ||
      contains request (ascii "POST /onvif/event_service") ||
      contains request (ascii "POST /onvif")) = contains request (ascii "POST /onvif") := by
  rw [Bool.eq_iff_iff, Bool.or_eq_true, or_iff_right_iff_imp]
  simp only [Bool.or_eq_true]
  rintro ((h | h) | h)
  · exact contains_append (ascii "/device_service") h
  · exact contains_append (ascii "/media_service") h
  · exact contains_append (ascii "/event_service") h

/-- Without authentication, the requests that ask for something other than
`GetSystemDateAndTime` get it. -/
theorem exists_serveRequest_ne_iff (request : List UInt8) :
    (∃ handler, serveRequest request = .handled handler ∧ handler ≠ .getSystemDateAndTime) ↔
      AsksForOther request := by
  unfold serveRequest AsksForOther
  rw [isPost_eq]
  split_ifs with hsnapshot hpost
  · simp [hsnapshot]
  · cases haction : requestedAction request with
    | none => simp [hsnapshot]
    | some action =>
      have hchain := exists_actionHandler_ne_iff request action
      cases hhandler : actionHandler request action with
      | none => simpa [hsnapshot, hpost, hhandler] using hchain
      | some handler => simpa [hsnapshot, hpost, hhandler] using hchain
  · simp [hsnapshot, hpost]

/-- A disabled module runs no handler. -/
theorem onvifModuleHandleRequest_of_disabled {server : Server} (hdisabled : server.enabled = false)
    (request : List UInt8) (handler : Handler) :
    onvifModuleHandleRequest server request ≠ some (.handled handler) := by
  rw [onvifModuleHandleRequest, hdisabled]
  nofun

/-- A request that is served without the exemption has passed the check. -/
theorem onvifModuleHandleRequest_handled {server : Server} {request : List UInt8}
    {client : ClientInfo} {config : AuthConfig} {handler : Handler}
    (hclient : authGetClientInfo server.peer = some client) (hconfig : server.auth = some config)
    (hexempt : isGetSystemDateTime request = false)
    (h : onvifModuleHandleRequest server request = some (.handled handler)) :
    authCheckOnvifRequest server.tableAddress request config client = some .success := by
  have henabled : server.enabled = true := by
    by_contra hdisabled
    exact onvifModuleHandleRequest_of_disabled (Bool.not_eq_true _ ▸ hdisabled) request handler h
  rw [onvifModuleHandleRequest, henabled, hclient, hconfig, hexempt] at h
  obtain ⟨result, hresult, hreply⟩ := Option.map_eq_some_iff.mp h
  cases result with
  | success => exact hresult
  | required => cases hreply
  | invalid => cases hreply
  | error => cases hreply

/-- An exempt request is served. -/
theorem onvifModuleHandleRequest_of_exempt {server : Server} {request : List UInt8}
    {client : ClientInfo} {config : AuthConfig} (henabled : server.enabled = true)
    (hclient : authGetClientInfo server.peer = some client) (hconfig : server.auth = some config)
    (hexempt : isGetSystemDateTime request = true) :
    onvifModuleHandleRequest server request = some (serveRequest request) := by
  unfold onvifModuleHandleRequest
  rw [henabled, hclient, hconfig, hexempt]
  rfl

/-- A handler other than that of `GetSystemDateAndTime` runs on an authenticated
request only, exactly unless the module is enabled and the request holds the
exempting text, does not pass the check, and asks for something else. -/
theorem handled_authenticated_iff (server : Server) (request : List UInt8) {client : ClientInfo}
    {config : AuthConfig} (hclient : authGetClientInfo server.peer = some client)
    (hconfig : server.auth = some config) :
    (∀ handler, onvifModuleHandleRequest server request = some (.handled handler) →
        handler ≠ .getSystemDateAndTime →
        authCheckOnvifRequest server.tableAddress request config client = some .success) ↔
      (server.enabled = false ∨ isGetSystemDateTime request = false ∨
        authCheckOnvifRequest server.tableAddress request config client = some .success ∨
        ¬AsksForOther request) := by
  constructor
  · intro h
    by_cases henabled : server.enabled = false
    · exact .inl henabled
    by_cases hexempt : isGetSystemDateTime request = false
    · exact .inr (.inl hexempt)
    rw [Bool.not_eq_false] at henabled hexempt
    refine .inr (.inr (or_iff_not_imp_right.mpr fun hasks => ?_))
    obtain ⟨handler, hserve, hne⟩ :=
      (exists_serveRequest_ne_iff request).mpr (not_not.mp hasks)
    refine h handler ?_ hne
    rw [onvifModuleHandleRequest_of_exempt henabled hclient hconfig hexempt, hserve]
  · intro hcondition handler hhandled hne
    rcases hcondition with hdisabled | hexempt | hsuccess | hasks
    · exact absurd hhandled (onvifModuleHandleRequest_of_disabled hdisabled request handler)
    · exact onvifModuleHandleRequest_handled hclient hconfig hexempt hhandled
    · exact hsuccess
    · by_cases hexempt : isGetSystemDateTime request = false
      · exact onvifModuleHandleRequest_handled hclient hconfig hexempt hhandled
      · cases henabled : server.enabled with
        | false =>
          exact absurd hhandled (onvifModuleHandleRequest_of_disabled henabled request handler)
        | true =>
          rw [Bool.not_eq_false] at hexempt
          rw [onvifModuleHandleRequest_of_exempt henabled hclient hconfig hexempt] at hhandled
          exact absurd ((exists_serveRequest_ne_iff request).mp
            ⟨handler, Option.some.inj hhandled, hne⟩) hasks

/-- A server with authentication for the user `admin`, and a client on the local
network. -/
def adminServer : Server where
  enabled := true
  peer := some 0xC0A80002
  auth := some (adminConfig "secret")
  tableAddress := 0

/-- A request for the time of the camera, without credentials. -/
def timeRequest : List UInt8 :=
  ascii "POST /onvif/device_service HTTP/1.1\r\n\r\n" ++
    ascii "<soap:Body><tds:GetSystemDateAndTime/></soap:Body>"

/-- A request for a reboot, without credentials, with the exempting text in a
comment. -/
def rebootRequest : List UInt8 :=
  ascii "POST /onvif/device_service HTTP/1.1\r\n\r\n" ++
    ascii "<!--<tds:GetSystemDateAndTime--><soap:Body><tds:SystemReboot/></soap:Body>"

/-- The request for the time is served without credentials, and nothing else is. -/
theorem handled_authenticated_timeRequest :
    onvifModuleHandleRequest adminServer timeRequest = some (.handled .getSystemDateAndTime) ∧
      ∀ handler, onvifModuleHandleRequest adminServer timeRequest = some (.handled handler) →
        handler ≠ .getSystemDateAndTime →
        authCheckOnvifRequest 0 timeRequest (adminConfig "secret") ⟨0xC0A80002, false⟩ =
          some .success :=
  ⟨by decide +kernel, (handled_authenticated_iff adminServer timeRequest rfl rfl).mpr
    (by decide +kernel)⟩

/-- The comment lets the reboot through. -/
theorem rebootRequest_handled :
    ¬∀ (server : Server) (request : List UInt8) (client : ClientInfo) (config : AuthConfig),
      authGetClientInfo server.peer = some client → server.auth = some config →
      authIsRequired config client = true →
      ∀ handler, onvifModuleHandleRequest server request = some (.handled handler) →
        handler ≠ .getSystemDateAndTime →
        authCheckOnvifRequest server.tableAddress request config client = some .success := fun h =>
  absurd (h adminServer rebootRequest ⟨0xC0A80002, false⟩ (adminConfig "secret") rfl rfl rfl
    .systemReboot (by decide +kernel) nofun) (by decide +kernel)

end Onvif
