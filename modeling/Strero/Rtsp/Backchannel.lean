import Strero.Lib.Decimal
import Strero.Rtsp.ServerTurns
import Strero.Rtsp.SlotReuse
import Strero.Rtsp.StreamUrls

/-!
# Negotiation of the ONVIF backchannel

A client that wants to send audio says so in a header of DESCRIBE and of SETUP. The handlers look
for it in a buffer of the slot, not in the request, and nothing is ever written to that buffer.
-/

namespace Rtsp

open CString Scanf

/-! ### Descriptions -/

/-- The request has the header in its own text. -/
def Request.AsksBackchannel (request : Request) : Prop :=
  contains request.text backchannelHeader = true

instance (request : Request) : Decidable request.AsksBackchannel :=
  inferInstanceAs (Decidable (_ = true))

/-- The tracks of a backchannel. -/
def backchannelTracks : List String := ["audio", "G711_audiobackchannel", "G726_audiobackchannel"]

/-- The URL that the description of a stream has for one of them. -/
def audioControl (config : Config) (streamName : List UInt8) (track : String) : List UInt8 :=
  ascii "rtsp://" ++ config.serverIp.bytes ++ ascii ":" ++ printInt config.port ++ ascii "/" ++
    streamName ++ ascii "/" ++ ascii track

/-- The description ends with the sections for the backchannel. -/
def ListsBackchannel (config : Config) (streamName sdp : List UInt8) : Prop :=
  backchannelSections config streamName <:+ sdp

variable {config : Config} {streamName : List UInt8} {client : Client} {time : Int32}

/-- A section has the URL of its track. -/
theorem audioControl_isInfix (config : Config) (streamName : List UInt8)
    (format bandwidth encoding track direction : String) :
    ascii "a=control:" ++ audioControl config streamName track ++ ascii "\r\n" <:+:
      audioSection config streamName format bandwidth encoding track direction := by
  have hcontrol : ascii "\r\na=control:rtsp://" =
      ascii "\r\n" ++ (ascii "a=control:" ++ ascii "rtsp://") := by decide
  have hdirection : ascii "\r\na=" = ascii "\r\n" ++ ascii "a=" := by decide
  refine ⟨ascii "m=audio " ++ ascii format ++ ascii "\r\nc=IN IP4 0.0.0.0\r\nb=AS:" ++
    ascii bandwidth ++ ascii "\r\na=rtpmap:" ++ ascii encoding ++ ascii "\r\n",
    ascii "a=" ++ ascii direction ++ ascii "\r\n", ?_⟩
  unfold audioControl audioSection
  rw [hcontrol, hdirection]
  simp only [List.append_assoc]

/-- The sections have the URLs of all tracks. -/
theorem audioControl_isInfix_sections {track : String} (htrack : track ∈ backchannelTracks) :
    ascii "a=control:" ++ audioControl config streamName track ++ ascii "\r\n" <:+:
      backchannelSections config streamName := by
  have hsection := audioControl_isInfix config streamName
  unfold backchannelSections
  simp only [backchannelTracks, List.mem_cons, List.not_mem_nil, or_false] at htrack
  rcases htrack with rfl | rfl | rfl
  · exact ((hsection _ _ _ _ _).trans (List.prefix_append _ _).isInfix).trans
      (List.prefix_append _ _).isInfix
  · exact ((hsection _ _ _ _ _).trans (List.suffix_append _ _).isInfix).trans
      (List.prefix_append _ _).isInfix
  · exact (hsection _ _ _ _ _).trans (List.suffix_append _ _).isInfix

/-- A number ends with a digit. -/
theorem printInt_eq_concat (n : ℤ) :
    ∃ front last, printInt n = front ++ [last] ∧ isDigit last = true := by
  have hlast := digits_eq n.natAbs
  refine ⟨(if n < 0 then ascii "-" else []) ++
    (if n.natAbs < 10 then [] else digits (n.natAbs / 10)), digitByte (n.natAbs % 10), ?_, ?_⟩
  · rw [List.append_assoc, ← hlast]
    rfl
  · exact isDigit_of_mem_digits (hlast ▸ List.mem_append_right _ (List.mem_singleton_self _))

/-- A section ends with its direction. -/
theorem suffix_audioSection (config : Config) (streamName : List UInt8)
    (format bandwidth encoding track direction : String) :
    ascii direction ++ ascii "\r\n" <:+
      audioSection config streamName format bandwidth encoding track direction := by
  unfold audioSection
  rw [List.append_assoc _ (ascii direction)]
  exact List.suffix_append _ _

/-- The sections end with that of the last one. -/
theorem suffix_backchannelSections (config : Config) (streamName : List UInt8) :
    ascii "y\r\n" <:+ backchannelSections config streamName := by
  have hdirection : ascii "y\r\n" <:+ ascii "sendonly" ++ ascii "\r\n" := by decide
  have hsection := suffix_audioSection config streamName "98 RTP/AVP 98" "32" "98 G726-16/8000"
    "G726_audiobackchannel" "sendonly"
  exact (hdirection.trans hsection).trans (List.suffix_append _ _)

/-- A description lists the backchannel exactly if the flag of the client is set. -/
theorem generateSdp_lists_iff {sdp : List UInt8}
    (h : generateSdp config streamName client time = some sdp) :
    ListsBackchannel config streamName sdp ↔ client.supportsBackchannel = true := by
  obtain ⟨stream, -, hsdp⟩ := Option.bind_eq_some_iff.mp h
  rw [← Option.some.inj hsdp]
  constructor
  · rintro ⟨rest, hrest⟩
    by_contra hflag
    -- The last line has the frame rate, that of the sections a direction.
    obtain ⟨front, last, hfps, hdigit⟩ := printInt_eq_concat stream.fps.toInt
    have hprinted : printInt32 stream.fps = front ++ [last] := hfps
    obtain ⟨sections, hsections⟩ := suffix_backchannelSections config streamName
    rw [if_neg hflag, List.append_nil, hprinted, ← hsections, ← List.append_assoc rest,
      ← List.append_assoc _ front, List.append_assoc _ [last]] at hrest
    have hsame : ascii "y\r\n" = [last] ++ ascii "\r\n" := List.append_inj_right' hrest rfl
    obtain ⟨hlast, -⟩ := List.cons.inj hsame
    rw [← hlast] at hdigit
    exact absurd hdigit (by decide)
  · intro hflag
    rw [if_pos hflag]
    exact List.suffix_append _ _

/-! ### Requests -/

variable {exchange : Exchange} {request : Request}

/-- DESCRIBE is served for a slot that is in use, it names a stream, and it can be answered. -/
structure Server.Describes (server : Server) (slot : Slot) (exchange : Exchange)
    (request : Request) (stream : StreamConfig) : Prop where
  active : (server.clients slot).active = true
  socketFd : 0 ≤ (server.clients slot).socketFd
  sendOk : exchange.sendOk = true
  served : (server.clients slot).servedRequest server.config exchange = some request
  method : request.method = .describe
  found : describedStream server.config request.url = some stream

/-- SETUP of a URL, with the header and a transport that needs no ports, is answered with 200. -/
def Server.AcceptsTrack (server : Server) (slot : Slot) (url : List UInt8) : Prop :=
  ∀ exchange request after,
    (server.clients slot).servedRequest server.config exchange = some request →
    request.method = .setup → request.url = url → request.AsksBackchannel →
    contains request.transport (ascii "RTP/AVP/TCP") = true → exchange.sendOk = true →
    server.turn (.serve slot exchange) = some after →
    ∃ response, (after.clients slot).responses = (server.clients slot).responses ++ [response] ∧
      response.statusCode = 200

/-- Each DESCRIBE is answered with a description that lists the backchannel exactly if its own
text has the header, and SETUP of the URLs listed is accepted. -/
def Server.Negotiates (before : Server) (turn : Turn) (after : Server) : Prop :=
  ∀ slot exchange request stream, turn = .serve slot exchange →
    before.Describes slot exchange request stream →
    ∃ response sdp, (after.clients slot).responses =
        (before.clients slot).responses ++ [response] ∧
      response.statusCode = 200 ∧ response.body = some sdp ∧
      (ListsBackchannel before.config stream.streamName.bytes sdp ↔ request.AsksBackchannel) ∧
      (ListsBackchannel before.config stream.streamName.bytes sdp → ∀ track ∈ backchannelTracks,
        after.AcceptsTrack slot (audioControl before.config stream.streamName.bytes track))

/-- DESCRIBE is not served with the header. -/
def Server.NotAsked (before : Server) (turn : Turn) : Prop :=
  ∀ slot exchange request stream, turn = .serve slot exchange →
    before.Describes slot exchange request stream → ¬request.AsksBackchannel

/-- DESCRIBE is answered with a description by the flag that the buffer of the slot gives. -/
theorem Client.serve_describe {after : Client} {k : ℤ} {stream : StreamConfig}
    (hsend : exchange.sendOk = true)
    (hserved : client.servedRequest config exchange = some request)
    (hmethod : request.method = .describe)
    (hfound : describedStream config request.url = some stream)
    (hserve : client.serve config exchange = some (after, k)) :
    ∃ response sdp, after.responses = client.responses ++ [response] ∧
      response.statusCode = 200 ∧ response.body = some sdp ∧
      (ListsBackchannel config stream.streamName.bytes sdp ↔
        contains client.requestBuffer backchannelHeader = true) := by
  obtain ⟨handled, hhandled, hcases⟩ := Client.serve_cases hserve
  have hresponses : after.responses = handled.client.responses := by
    rcases hcases with ⟨-, -, -, hsame, -⟩ | ⟨-, rfl, -⟩
    · exact hsame
    · exact handled.restore_responses client.state
  rw [hresponses]
  rcases Client.handleClientConnection_cases hhandled with ⟨own, hown, rfl⟩ | ⟨hnone, -⟩
  · rw [Client.pauseInterleaved_servedRequest, hserved] at hown
    obtain rfl := Option.some.inj hown
    have hdescribes := Client.describes_of_described
      { client.pauseInterleaved with lastActivityUs := exchange.now, cseq := request.cseq }
      hfound exchange
    obtain ⟨sdp, hsdp, -, hanswer⟩ := hdescribes
    have hbuffer : client.pauseInterleaved.requestBuffer = client.requestBuffer := by
      unfold Client.pauseInterleaved
      split <;> rfl
    have hlists := generateSdp_lists_iff hsdp
    dsimp only at hlists
    rw [hbuffer] at hlists
    rw [Client.handleRequest, hmethod]
    dsimp only [Handled.of]
    rw [hanswer, Client.sendRtspResponse_responses _ _ _ _ _ _ hsend]
    dsimp only
    rw [Client.pauseInterleaved_responses]
    exact ⟨_, sdp, rfl, rfl, rfl, hlists⟩
  · rw [Client.pauseInterleaved_servedRequest, hserved] at hnone
    cases hnone

/-- While the buffers are empty, a turn negotiates exactly if nothing is asked for. -/
theorem Server.negotiates_iff_notAsked {before after : Server} {turn : Turn}
    (hempty : before.BuffersEmpty) (hturn : before.turn turn = some after) :
    before.Negotiates turn after ↔ before.NotAsked turn := by
  refine forall₄_congr fun slot exchange request stream => forall₂_congr fun hserve hdescribes => ?_
  subst hserve
  obtain ⟨⟨client, k⟩, hvisit, rfl⟩ := Option.map_eq_some_iff.mp hturn
  unfold serveSlot at hvisit
  dsimp only at hvisit ⊢
  rw [if_pos ⟨hdescribes.active, hdescribes.socketFd⟩] at hvisit
  obtain ⟨response, sdp, hresponses, hstatus, hbody, hlists⟩ := Client.serve_describe
    hdescribes.sendOk hdescribes.served hdescribes.method hdescribes.found hvisit
  have hnone : ¬ListsBackchannel before.config stream.streamName.bytes sdp := by
    rw [hlists, hempty slot]
    decide
  rw [Function.update_self]
  constructor
  · rintro ⟨other, body, hother, -, hsome, hiff, -⟩
    rw [hresponses] at hother
    obtain rfl := List.singleton_inj.mp (List.append_cancel_left hother)
    obtain rfl := Option.some.inj (hbody.symm.trans hsome)
    exact fun hasks => hnone (hiff.mpr hasks)
  · intro hasks
    exact ⟨response, sdp, hresponses, hstatus, hbody, iff_of_false hnone hasks,
      fun hlisted => absurd hlisted hnone⟩

/-- No turn fills a buffer. -/
theorem Server.BuffersEmpty.turn {server after : Server} {turn : Turn}
    (h : server.BuffersEmpty) (hturn : server.turn turn = some after) : after.BuffersEmpty := by
  intro slot
  have hbefore := h slot
  change (after.clients slot).requestBuffer = []
  have hturned := Server.turn_turned hturn slot
  generalize after.clients slot = client at hturned ⊢
  cases hturned with
  | served hserve => exact (Client.serve_requestBuffer hserve).trans hbefore
  | same | accepted _ | acceptedTls _ | handshakeFailed _ | cleaned | dropped => exact hbefore

/-- In a run every DESCRIBE is answered as it asks exactly if none asks for the backchannel. -/
theorem Server.negotiates_run_iff (config : Config) (turns : List Turn) :
    Runs.Each Server.turn Server.Negotiates (Server.create config) turns ↔
      Runs.Each Server.turn (fun before turn _ => before.NotAsked turn) (Server.create config)
        turns := by
  refine Runs.each_congr Server.BuffersEmpty ?_ ?_ fun _ => rfl
  · exact fun before turn after hempty hturn => Server.negotiates_iff_notAsked hempty hturn
  · exact fun before turn after hempty hturn _ => hempty.turn hturn

/-- DESCRIBE with the header. -/
def askingDescribe : Exchange :=
  .receive ("DESCRIBE rtsp://192.168.1.10/ch0 RTSP/1.0\r\nCSeq: 2\r\n" ++
    "Require: www.onvif.org/ver20/backchannel\r\n\r\n") (by decide)

/-- The server after a connection. -/
def viewedServer : Server := (Server.create openConfig).acceptPlain (some viewerConnection)

/-- The header does not make the description list the backchannel. -/
theorem Server.not_negotiates_askingDescribe :
    ¬Runs.Each Server.turn Server.Negotiates (Server.create openConfig)
      [.accept viewerConnection, .serve 0 askingDescribe] := by
  intro hrun
  have hnew : (Server.create openConfig).BuffersEmpty := fun _ => rfl
  have hempty : viewedServer.BuffersEmpty :=
    hnew.turn (show (Server.create openConfig).turn (.accept viewerConnection) = _ from rfl)
  obtain ⟨after, hafter⟩ : ∃ after, viewedServer.turn (.serve 0 askingDescribe) = some after :=
    Option.isSome_iff_exists.mp (by decide +kernel)
  obtain ⟨-, hrest⟩ := hrun viewedServer rfl
  have hnotAsked := (Server.negotiates_iff_notAsked hempty hafter).mp (hrest after hafter).1
  have hserved : ((viewedServer.clients 0).servedRequest openConfig askingDescribe).any
      (fun request => request.method = .describe ∧
        (describedStream openConfig request.url).isSome ∧ request.AsksBackchannel) = true := by
    decide +kernel
  obtain ⟨request, hrequest, hall⟩ := (Option.any_eq_true _ _).mp hserved
  obtain ⟨hmethod, hfound, hasks⟩ := of_decide_eq_true hall
  obtain ⟨stream, hstream⟩ := Option.isSome_iff_exists.mp hfound
  exact hnotAsked 0 askingDescribe request stream rfl
    ⟨by decide, by decide, rfl, hrequest, hmethod, hstream⟩ hasks

end Rtsp
