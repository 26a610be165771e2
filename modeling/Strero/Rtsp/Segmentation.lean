import Strero.Lib.Rtp
import Strero.Lib.Runs
import Strero.Rtsp.ControlRequest
import Strero.Rtsp.RequestEffects

/-!
# The control channel as a stream

A client sends requests and interleaved packets one after another, and every call of
`recv` returns some part of this stream. What the server answers is what the client has
asked for as long as the parts are whole messages with at most one request in front of
the packets that come with it.
-/

namespace Rtsp

open CString AuthUtils

/-! ### What a client sends -/

/-- A message of the control channel: an interleaved packet or a request. -/
inductive Message
  | packet (channel : UInt8) (payload : {payload : List UInt8 // payload.length < 2 ^ 16})
  | request (request : ControlRequest)

/-- The bytes of a message. -/
def Message.bytes : Message → List UInt8
  | .packet channel payload => Rtp.frame channel payload.val
  | .request sent => sent.bytes

def Message.isPacket : Message → Bool
  | .packet _ _ => true
  | .request _ => false

/-- The method and the number of a request. -/
def ControlRequest.key (request : ControlRequest) : Method × ℤ :=
  (methodOfName request.name, request.cseq)

/-- The methods and numbers of the requests among the messages. -/
def requestKeys (messages : List Message) : List (Method × ℤ) :=
  messages.filterMap fun
    | .packet _ _ => none
    | .request request => some request.key

/-- The bytes of messages one after another. -/
def streamOf (messages : List Message) : List UInt8 := messages.flatMap Message.bytes

/-! ### What the server answers -/

/-- A connection, with the methods of the requests that have been answered on it and the
numbers of the responses. -/
structure Conversation where
  client : Client
  answered : List (Method × ℤ)

/-- The responses to what has been received, with the method it was taken for. -/
def Client.answers (before : Client) (exchange : Exchange) (after : Client) : List (Method × ℤ) :=
  (after.responses.drop before.responses.length).map fun response =>
    (((before.ownRequest exchange).map Request.method).getD .unknown, response.cseq)

/-- The connection is open. -/
abbrev Conversation.isOpen (s : Conversation) : Prop :=
  s.client.active = true ∧ 0 ≤ s.client.socketFd

/-- The turn of the loop over the slots for a socket that is ready. -/
def Conversation.step (config : Config) (s : Conversation) (exchange : Exchange) :
    Option Conversation :=
  if s.isOpen then
    (s.client.serve config exchange).map fun r =>
      ⟨r.1, s.answered ++ s.client.answers exchange r.1⟩
  else some s

/-- What one call of `recv` after another leads to. -/
def Conversation.run (config : Config) (s : Conversation) (exchanges : List Exchange) :
    Option Conversation :=
  exchanges.foldlM (Conversation.step config) s

/-- All requests are answered once and in order, by their methods and with their numbers; or
a request to TEARDOWN has ended the connection, and those up to it are. -/
structure Conversation.Answers (s : Conversation) (messages : List Message) : Prop where
  whole : s.isOpen → s.answered = requestKeys messages
  ended : ¬s.isOpen → s.answered <+: requestKeys messages ∧
    (s.answered.map Prod.fst).getLast? = some .teardown

/-! ### Whole messages -/

/-- A call of `recv`, with the messages in what it returns. -/
structure Delivery where
  exchange : Exchange
  messages : List Message

/-- The credentials in the text, if there are any, fit in the array for them. -/
def credentialsFit (config : Config) (text : List UInt8) : Prop :=
  ∀ header ∈ extractAuthHeader text,
    authParseBasicHeader config.tableAddress header ≠ .overflow

instance (config : Config) (text : List UInt8) : Decidable (credentialsFit config text) :=
  inferInstanceAs (Decidable (∀ header ∈ extractAuthHeader text, _))

/-- The request that comes behind the packets, if there is one, is plain and comes with
packets only. The search for `TEARDOWN` in the data finds nothing in packets alone, and
otherwise leaves the request and what comes with it. -/
def Client.ClearRequest (client : Client) (config : Config) (data : List UInt8) :
    List Message → Prop
  | [] => client.extractTeardown data = data
  | .packet _ _ :: _ => False
  | .request sent :: after =>
    (∀ message ∈ after, message.isPacket = true) ∧
      client.extractTeardown data = sent.bytes ++ streamOf after ∧
      sent.Plain ∧ credentialsFit config (cString (sent.bytes ++ streamOf after))

instance (client : Client) (config : Config) (data : List UInt8) :
    (messages : List Message) → Decidable (client.ClearRequest config data messages)
  | [] => inferInstanceAs (Decidable (_ = _))
  | .packet _ _ :: _ => inferInstanceAs (Decidable False)
  | .request _ :: _ => inferInstanceAs (Decidable (_ ∧ _))

/-- What is received are whole messages with one request at most, and the response to it can
be sent to a peer that is known. -/
def Client.Clear (client : Client) (config : Config) (delivery : Delivery) : Prop :=
  delivery.exchange.received.map Subtype.val = some (streamOf delivery.messages) ∧
    delivery.messages ≠ [] ∧ delivery.exchange.sendOk = true ∧ delivery.exchange.peer ≠ none ∧
    client.ClearRequest config (streamOf delivery.messages)
      (delivery.messages.dropWhile Message.isPacket)

instance (client : Client) (config : Config) (delivery : Delivery) :
    Decidable (client.Clear config delivery) :=
  inferInstanceAs (Decidable (_ ∧ _))

/-! ### One delivery -/

theorem requestKeys_append (messages messages' : List Message) :
    requestKeys (messages ++ messages') = requestKeys messages ++ requestKeys messages' :=
  List.filterMap_append

/-- There are no requests in packets. -/
theorem requestKeys_of_packets {messages : List Message}
    (h : ∀ message ∈ messages, message.isPacket = true) : requestKeys messages = [] := by
  induction messages with
  | nil => rfl
  | cons message messages ih =>
    have hrest := ih fun other hother => h other (List.mem_cons_of_mem message hother)
    cases message with
    | packet channel payload => exact hrest
    | request sent => exact absurd (h _ List.mem_cons_self) (by simp [Message.isPacket])

section Delivery

variable {client : Client} {config : Config} {exchange : Exchange} {delivery : Delivery}

/-- The requests of a delivery, by what comes behind its first packets. -/
theorem requestKeys_dropWhile (messages : List Message) :
    requestKeys messages = requestKeys (messages.dropWhile Message.isPacket) := by
  have hpackets : requestKeys (messages.takeWhile Message.isPacket) = [] :=
    requestKeys_of_packets fun _ hmessage => List.mem_takeWhile_imp hmessage
  have hsplit := requestKeys_append (messages.takeWhile Message.isPacket)
    (messages.dropWhile Message.isPacket)
  rw [List.takeWhile_append_dropWhile] at hsplit
  rw [hsplit, hpackets, List.nil_append]

/-- With credentials that fit, the check of the request has a result. -/
theorem checkAuthentication_ne_none {peer : Option UInt32} {request : Request}
    (hfit : credentialsFit config request.text) :
    checkAuthentication config peer request ≠ none := by
  unfold checkAuthentication
  cases authGetClientInfo peer with
  | none => simp
  | some info =>
    unfold authCheckRtspRequest authCheckHttpRequest
    dsimp only
    split_ifs
    · simp
    · unfold authValidateBasic
      cases hheader : extractAuthHeader request.text with
      | none => simp
      | some header =>
        have hparse := hfit header hheader
        cases hcase : authParseBasicHeader config.tableAddress header with
        | overflow => exact absurd hcase hparse
        | failed => simp [hcase]
        | credentials username password =>
          simp only [hcase]
          split_ifs <;> simp

/-- The turn for a client that answers is as its handling, with the state restored. -/
theorem Client.serve_of_handled {handled : Handled}
    (hhandled : client.pauseInterleaved.handleClientConnection config exchange = some handled)
    (hresult : handled.result = 0) :
    client.serve config exchange = some (handled.restore client.state, handled.count) := by
  rw [Client.serve, hhandled]
  exact if_neg (by simp [hresult])

variable (config) in
/-- Packets alone are ignored. -/
theorem Client.serve_packets
    (hreceived : delivery.exchange.received.map Subtype.val = some (streamOf delivery.messages))
    (hne : delivery.messages ≠ []) (hpackets : delivery.messages.dropWhile Message.isPacket = [])
    (hdata : client.extractTeardown (streamOf delivery.messages) = streamOf delivery.messages) :
    ∃ after k, client.serve config delivery.exchange = some (after, k) ∧
      after.responses = client.responses ∧ after.active = client.active ∧
      after.socketFd = client.socketFd := by
  obtain ⟨received, hexchange, hstream⟩ := Option.map_eq_some_iff.mp hreceived
  have hhead : (client.pauseInterleaved.extractTeardown received.val).head? =
      some '$'.toUInt8 := by
    have hsame : client.pauseInterleaved.extractTeardown received.val =
        client.extractTeardown received.val := by
      unfold Client.pauseInterleaved
      split <;> rfl
    rw [hsame, hstream, hdata]
    obtain ⟨message, messages, hmessages⟩ := List.exists_cons_of_ne_nil hne
    rw [hmessages] at hpackets ⊢
    cases message with
    | packet channel payload => rfl
    | request sent => simp [Message.isPacket] at hpackets
  have hhandled := Client.handleClientConnection_interleaved config hexchange hhead
  refine ⟨_, _, Client.serve_of_handled hhandled rfl, ?_, ?_, ?_⟩
  · rw [Handled.restore_responses, Client.pauseInterleaved_responses]
  · rw [Handled.restore_active, Client.pauseInterleaved_active]
  · rw [Handled.restore_socketFd, Client.pauseInterleaved_socketFd]

/-- A plain request is answered once. -/
theorem Client.serve_request {sent : ControlRequest} {after : List Message}
    (hreceived : delivery.exchange.received.map Subtype.val = some (streamOf delivery.messages))
    (hsend : delivery.exchange.sendOk = true) (hpeer : delivery.exchange.peer ≠ none)
    (hdata : client.extractTeardown (streamOf delivery.messages) = sent.bytes ++ streamOf after)
    (hplain : sent.Plain)
    (hfit : credentialsFit config (cString (sent.bytes ++ streamOf after))) :
    ∃ parsed served k, client.ownRequest delivery.exchange = some parsed ∧
      parsed.method = methodOfName sent.name ∧ parsed.cseq = sent.cseq ∧
      client.serve config delivery.exchange = some (served, k) ∧
      AnswersOnce client parsed served := by
  obtain ⟨received, hexchange, hstream⟩ := Option.map_eq_some_iff.mp hreceived
  obtain ⟨parsed, hparse, htext, hmethod, hcseq⟩ := sent.parseRtspRequest_eq hplain (streamOf after)
  have hown : client.ownRequest delivery.exchange = some parsed := by
    rw [Client.ownRequest, hexchange, Option.bind_some]
    dsimp only
    rw [hstream, hdata, if_neg (sent.bytes_head _), hparse]
  have hpaused : client.pauseInterleaved.ownRequest delivery.exchange = some parsed := by
    rw [Client.pauseInterleaved_ownRequest, hown]
  have hcheck : ∀ request ∈ client.pauseInterleaved.ownRequest delivery.exchange,
      checkAuthentication config delivery.exchange.peer request ≠ none := by
    intro request hrequest
    obtain rfl := Option.some.inj (hpaused.symm.trans hrequest)
    exact checkAuthentication_ne_none (htext ▸ hfit)
  obtain ⟨handled, hhandled⟩ := Client.exists_handleClientConnection hcheck
  obtain ⟨⟨⟨response, hresponse, hnumber⟩, hconnection⟩, hresult⟩ :=
    Client.handleClientConnection_answersOnce hpaused hsend hpeer hhandled
  rw [Client.pauseInterleaved_responses] at hresponse
  rw [Client.pauseInterleaved_active, Client.pauseInterleaved_socketFd] at hconnection
  refine ⟨parsed, _, _, hown, hmethod, hcseq, Client.serve_of_handled hhandled hresult, ?_⟩
  constructor
  · exact ⟨response, by rw [Handled.restore_responses, hresponse], hnumber⟩
  · rw [Handled.restore_active, Handled.restore_socketFd]
    exact hconnection

end Delivery

/-! ### Runs -/

/-- A clear delivery answers its request, and ends the connection for TEARDOWN only. -/
theorem Conversation.step_clear {config : Config} {s : Conversation} {delivery : Delivery}
    (hopen : s.isOpen) (hclear : s.client.Clear config delivery) :
    ∃ s', s.step config delivery.exchange = some s' ∧
      s'.answered = s.answered ++ requestKeys delivery.messages ∧
      (¬s'.isOpen → ((requestKeys delivery.messages).map Prod.fst).getLast? = some .teardown) := by
  obtain ⟨hreceived, hne, hsend, hpeer, hrequest⟩ := hclear
  have hkeys := requestKeys_dropWhile delivery.messages
  cases hrest : delivery.messages.dropWhile Message.isPacket with
  | nil =>
    rw [hrest] at hrequest hkeys
    obtain ⟨after, k, hserve, hresponses, hactive, hfd⟩ :=
      Client.serve_packets config hreceived hne hrest hrequest
    refine ⟨⟨after, s.answered ++ s.client.answers delivery.exchange after⟩, ?_, ?_, ?_⟩
    · rw [Conversation.step, if_pos hopen, hserve]
      rfl
    · rw [hkeys]
      simp [Client.answers, hresponses, requestKeys]
    · intro hclosed
      refine absurd ?_ hclosed
      rw [Conversation.isOpen]
      dsimp only
      rw [hactive, hfd]
      exact hopen
  | cons message after =>
    rw [hrest] at hrequest hkeys
    cases message with
    | packet channel payload => exact hrequest.elim
    | request sent =>
      obtain ⟨hpackets, hdata, hplain, hfit⟩ := hrequest
      obtain ⟨parsed, served, k, hown, hmethod, hcseq, hserve, ⟨response, hresponse, hnumber⟩,
        hconnection⟩ := Client.serve_request hreceived hsend hpeer hdata hplain hfit
      have hkey : requestKeys delivery.messages = [sent.key] := by
        rw [hkeys]
        exact congrArg (sent.key :: ·) (requestKeys_of_packets hpackets)
      refine ⟨⟨served, s.answered ++ s.client.answers delivery.exchange served⟩, ?_, ?_, ?_⟩
      · rw [Conversation.step, if_pos hopen, hserve]
        rfl
      · rw [hkey, Client.answers, hresponse, List.drop_left, hown]
        simp [ControlRequest.key, hmethod, hnumber, hcseq]
      · intro hclosed
        rcases hconnection with ⟨hactive, hfd⟩ | ⟨hteardown, -⟩
        · refine absurd ?_ hclosed
          rw [Conversation.isOpen]
          dsimp only
          rw [hactive, hfd]
          exact hopen
        · rw [hkey]
          simp [ControlRequest.key, ← hmethod, hteardown]

/-- In a run of clear deliveries every request is answered once and in order, by its own method
and with its own number, and packets are ignored. -/
theorem Conversation.run_answers {config : Config} {client : Client} {deliveries : List Delivery}
    (hactive : client.active = true) (hfd : 0 ≤ client.socketFd)
    (hclear : Runs.Allowed (fun s delivery => Conversation.step config s delivery.exchange)
      (fun s delivery => s.isOpen → s.client.Clear config delivery) ⟨client, []⟩ deliveries) :
    ∃ final, Conversation.run config ⟨client, []⟩ (deliveries.map Delivery.exchange) = some final ∧
      final.Answers (deliveries.flatMap Delivery.messages) := by
  rw [Conversation.run, List.foldlM_map]
  have hinit : Conversation.Answers ⟨client, []⟩ (([] : List Delivery).flatMap Delivery.messages) :=
    ⟨fun _ => rfl, fun hclosed => absurd ⟨hactive, hfd⟩ hclosed⟩
  refine Runs.Allowed.result (fun past s => Conversation.Answers s (past.flatMap Delivery.messages))
    ?_ hclear hinit
  intro past s delivery hpast hgood
  have hmore : requestKeys ((past ++ [delivery]).flatMap Delivery.messages) =
      requestKeys (past.flatMap Delivery.messages) ++ requestKeys delivery.messages := by
    rw [List.flatMap_append, requestKeys_append, List.flatMap_singleton]
  by_cases hopen : s.isOpen
  · obtain ⟨s', hstep, hanswered, hends⟩ := Conversation.step_clear hopen (hgood hopen)
    rw [hpast.whole hopen, ← hmore] at hanswered
    refine ⟨s', hstep, fun _ => hanswered, fun hclosed => ⟨hanswered ▸ List.prefix_rfl, ?_⟩⟩
    rw [hanswered, hmore, List.map_append, List.getLast?_append, hends hclosed]
    rfl
  · obtain ⟨hbegins, hlast⟩ := hpast.ended hopen
    refine ⟨s, if_neg hopen, fun hstill => absurd hstill hopen, fun _ => ⟨?_, hlast⟩⟩
    rw [hmore]
    exact hbegins.trans (List.prefix_append _ _)

/-- OPTIONS with some digits for its number. -/
def optionsRequest (digits : List UInt8) (hne : digits ≠ [])
    (hdigits : ∀ c ∈ digits, Scanf.isDigit c = true) (hlt : Scanf.decimal digits < 2 ^ 31) :
    ControlRequest where
  name := ascii "OPTIONS"
  url := ascii "rtsp://192.168.1.10/ch0"
  leading := []
  cseqName := ascii "CSeq"
  blanks := ascii " "
  digits := digits
  trailing := []
  body := []
  name_ne := by decide +kernel
  name_token := by decide +kernel
  name_head := by decide +kernel
  url_ne := by decide +kernel
  url_visible := by decide +kernel
  lines := by decide +kernel
  cseqName_eq := by decide +kernel
  blanks_blank := by decide +kernel
  digits_ne := hne
  digits_digit := hdigits
  digits_lt := hlt

/-- OPTIONS as the first request, and as the second. -/
def firstOptions : Message :=
  .request (optionsRequest (ascii "1") (by decide +kernel) (by decide +kernel) (by decide +kernel))

@[inherit_doc firstOptions] def secondOptions : Message :=
  .request (optionsRequest (ascii "2") (by decide +kernel) (by decide +kernel) (by decide +kernel))

/-- A packet on the channel for reports. -/
def reportPacket : Message := .packet 1 ⟨[0x80, 0xC9, 0, 1], by decide⟩

/-- The viewer's slot once its connection is accepted. -/
def viewerSlot : Client := Client.initial.accept viewerConnection

/-- Messages of the viewer that come together. -/
def deliver (messages : List Message) (hfits : (streamOf messages).length < maxRtspBufferSize) :
    Delivery where
  exchange := { Exchange.receive "" noText_fits with received := some ⟨streamOf messages, hfits⟩ }
  messages := messages

/-- Two requests and the packets between them, cut into whole messages. -/
theorem Conversation.run_answers_apart :
    ∃ final, Conversation.run openConfig ⟨viewerSlot, []⟩
        ([deliver [firstOptions, reportPacket] (by decide +kernel),
          deliver [reportPacket] (by decide +kernel),
          deliver [secondOptions] (by decide +kernel)].map Delivery.exchange) = some final ∧
      final.Answers [firstOptions, reportPacket, reportPacket, secondOptions] :=
  Conversation.run_answers rfl (by decide) (by decide +kernel)

/-- Two requests without anything between them. -/
def pipelined : Delivery := deliver [firstOptions, secondOptions] (by decide +kernel)

/-- Two requests that come together are answered once. -/
theorem Conversation.not_run_answers :
    ¬∀ (config : Config) (client : Client) (messages : List Message) (exchanges : List Exchange)
        (chunks : List (List UInt8)), client.active = true → 0 ≤ client.socketFd →
      exchanges.map (fun exchange => exchange.received.map Subtype.val) = chunks.map some →
      [] ∉ chunks → chunks.flatten = streamOf messages →
      (∀ exchange ∈ exchanges, exchange.sendOk = true ∧ exchange.peer ≠ none) →
      ∃ final, Conversation.run config ⟨client, []⟩ exchanges = some final ∧
        final.Answers messages := by
  intro h
  obtain ⟨final, hrun, hanswers⟩ := h openConfig viewerSlot [firstOptions, secondOptions]
    [pipelined.exchange] [streamOf [firstOptions, secondOptions]] rfl (by decide) rfl
    (by decide +kernel) (by simp) (by decide +kernel)
  have hanswered : (Conversation.run openConfig ⟨viewerSlot, []⟩ [pipelined.exchange]).map
      (fun s => (decide s.isOpen, s.answered)) = some (true, [(.options, 1)]) := by
    decide +kernel
  rw [hrun, Option.map_some, Option.some.injEq, Prod.mk.injEq] at hanswered
  have hkeys := hanswers.whole (of_decide_eq_true hanswered.1)
  rw [hanswered.2] at hkeys
  exact absurd hkeys (by decide +kernel)

end Rtsp
