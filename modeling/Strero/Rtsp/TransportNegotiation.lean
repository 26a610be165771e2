import Strero.Rtsp.PacketCalls
import Strero.Rtsp.RefusedSetup
import Strero.Rtsp.TransportHeader

/-!
# Negotiating a transport

A SETUP request asks for channels of the connection or for ports, and the answer has to name
the same pair, on which the media are then sent. Without channels in the request the server
chooses them itself.
-/

namespace Rtsp

open CString Scanf

/-! ### The header in a request -/

/-- The first transport header of the request is this one. -/
def Request.Carries (request : Request) (spec : TransportSpec) : Prop :=
  ∃ front blanks rest, request.text =
      front ++ (ascii "Transport:" ++ (blanks ++ (spec.text ++ rest))) ∧
    strstr front (ascii "Transport:") = none ∧ (∀ c ∈ blanks, isSpace c = true) ∧
    ∀ c ∈ rest.head?, c = '\r'.toUInt8 ∨ c = '\n'.toUInt8

/-- A header is plain but for its semicolons. -/
theorem TransportSpec.mem_text {spec : TransportSpec} {c : UInt8} (h : c ∈ spec.text) :
    c ≠ '\r'.toUInt8 ∧ c ≠ '\n'.toUInt8 := by
  rcases List.mem_append.mp h with hname | hparameters
  · have hplain : Plain (transportName spec.tcp) := by
      cases spec.tcp <;> decide
    exact ⟨(hplain c hname).2.1, (hplain c hname).2.2.1⟩
  · obtain ⟨parameter, -, hmem⟩ := List.mem_flatMap.mp hparameters
    rcases List.mem_cons.mp hmem with rfl | hmem
    · decide
    · exact ⟨(parameter.plain_text c hmem).2.1, (parameter.plain_text c hmem).2.2.1⟩

/-- The handler is given the first 255 bytes of the header. -/
theorem Request.Carries.transport {request : Request} {spec : TransportSpec}
    (h : request.Carries spec) : request.transport = spec.stored := by
  obtain ⟨front, blanks, rest, htext, hfirst, hblanks, hrest⟩ := h
  have hT : 'T'.toUInt8 ∉ ascii "ransport:" := by decide
  have hfound : strstr request.text (ascii "Transport:") =
      some (ascii "Transport:" ++ (blanks ++ (spec.text ++ rest))) := by
    rw [htext]
    exact (strstr_append_cons (ascii "ransport:") hT hfirst).trans
      (strstr_of_begins (List.prefix_append _ _))
  have hspec : ∃ tail, spec.text = 'R'.toUInt8 :: tail := by
    unfold TransportSpec.text transportName
    cases spec.tcp <;> exact ⟨_, rfl⟩
  have hspace : (blanks ++ (spec.text ++ rest)).dropWhile isSpace = spec.text ++ rest := by
    obtain ⟨tail, htail⟩ := hspec
    rw [List.dropWhile_append_of_pos hblanks, htail]
    exact List.dropWhile_cons_of_neg (by decide)
  have hline : ((spec.text ++ rest).take 255).takeWhile
      (fun c => c ≠ '\r'.toUInt8 && c ≠ '\n'.toUInt8) = spec.stored := by
    rw [List.take_append, TransportSpec.stored, List.takeWhile_append_of_pos]
    · cases hend : rest.take (255 - spec.text.length) with
      | nil => rw [List.takeWhile_nil, List.append_nil]
      | cons c tail =>
        have hhead : rest.head? = some c := by
          cases rest with
          | nil => simp at hend
          | cons b rest =>
            cases hleft : 255 - spec.text.length with
            | zero => simp [hleft] at hend
            | succ k =>
              rw [hleft, List.take_succ_cons] at hend
              rw [(List.cons.inj hend).1, List.head?_cons]
        have hc := hrest c hhead
        rw [List.takeWhile_cons_of_neg (by rcases hc with rfl | rfl <;> decide), List.append_nil]
    · intro c hc
      have hmem := spec.mem_text (List.mem_of_mem_take hc)
      simp [hmem]
  have hne : spec.stored ≠ [] := by
    obtain ⟨tail, htail⟩ := hspec
    rw [TransportSpec.stored, htail]
    exact List.cons_ne_nil _ _
  have hliteral := literal_append "Transport:" (blanks ++ (spec.text ++ rest))
  rw [Request.transport, hfound, Option.bind_some]
  simp only [Scanner.scan, transportHeader, bind, StateT.bind, Option.bind, hliteral, space,
    hspace]
  rw [Scanf.set]
  rw [hline, if_neg hne]
  rfl

/-! ### What is answered, and where the media go -/

/-- The answer that names a pair. -/
def answerHeader (tcp : Bool) (pair : ℕ × ℕ) : List UInt8 :=
  ascii (if tcp then "Transport: RTP/AVP/TCP;unicast;interleaved="
    else "Transport: RTP/AVP;unicast;client_port=") ++
    printInt pair.1 ++ ascii "-" ++ printInt pair.2 ++ ascii "\r\n"

/-- The channels that `handle_setup_request` declares for a request that names none. -/
def defaultChannels : ℕ × ℕ := (0, 1)

/-- A call that writes a packet, or the bytes in front of it, to the first of a pair. -/
def Call.SentOn (address : UInt32) (tcp : Bool) (pair : ℕ × ℕ) : Call → Prop
  | .sendto _ socketAddress _ =>
    tcp = false ∧ socketAddress.address = address ∧ socketAddress.port.toNat = pair.1
  | .tlsWrite bytes => tcp = true ∧ ['$'.toUInt8, UInt8.ofNat pair.1] <+: bytes
  | .send _ bytes =>
    tcp = true ∧ (bytes.length = 4 → ['$'.toUInt8, UInt8.ofNat pair.1] <+: bytes)

/-- Once the client plays, its media are sent on the pair. -/
def Client.SendsMediaOn (client : Client) (tcp : Bool) (pair : ℕ × ℕ) : Prop :=
  ∀ (exchange : Exchange) (net : Network) (calls : List Call) (data : List UInt8)
    (timestamp : UInt32) (marker : Bool),
    ∀ call ∈ (sendRtpPacket net ⟨(client.handlePlayRequest exchange).1, calls⟩ data timestamp
      marker).1.calls.drop calls.length, call.SentOn client.clientAddress tcp pair

/-- What a slot holds of the way to its client, for a pair. -/
structure Client.HoldsPair (client : Client) (tcp : Bool) (pair : ℕ × ℕ) : Prop where
  mode : client.transportMode = if tcp then .tcp else .udp
  channel : tcp = true → UInt8.ofInt client.rtpPort = UInt8.ofNat pair.1
  address : tcp = false → client.rtpAddress.port.toNat = pair.1 ∧
    client.rtpAddress.address = client.clientAddress

theorem Client.HoldsPair.tcp_eq {client : Client} {tcp : Bool} {pair : ℕ × ℕ}
    (h : client.HoldsPair tcp pair) : tcp = decide (client.transportMode = .tcp) := by
  rw [h.mode]
  cases tcp <;> rfl

/-- The calls for a client with a pair are on that pair. -/
theorem sentOn_rule (timestamp : UInt32) (address : UInt32) (tcp : Bool) (pair : ℕ × ℕ) :
    CallRule timestamp (fun client => client.HoldsPair tcp pair ∧ client.clientAddress = address)
      (Call.SentOn address tcp pair) where
  rtpSeq := fun _ h => ⟨⟨h.1.mode, h.1.channel, h.1.address⟩, h.2⟩
  datagram := by
    rintro client packet ⟨hpair, haddress⟩ hmode -
    have htcp : tcp = false := hpair.tcp_eq.trans (decide_eq_false (by simp [hmode]))
    obtain ⟨hport, hclient⟩ := hpair.address htcp
    exact ⟨htcp, hclient.trans haddress, hport⟩
  interleaved := by
    rintro client packet ⟨hpair, -⟩ hmode -
    have htcp : tcp = true := hpair.tcp_eq.trans (decide_eq_true hmode)
    refine ⟨htcp, ?_⟩
    rw [interleavedHeader, hpair.channel htcp, List.append_assoc]
    exact List.prefix_append _ _
  header := by
    rintro client packet ⟨hpair, -⟩ hmode -
    have htcp : tcp = true := hpair.tcp_eq.trans (decide_eq_true hmode)
    refine ⟨htcp, fun _ => ?_⟩
    rw [interleavedHeader, hpair.channel htcp]
    exact List.prefix_append _ _
  packet := by
    rintro client packet ⟨hpair, -⟩ hmode ⟨_, _, _, payload, rfl⟩
    have htcp : tcp = true := hpair.tcp_eq.trans (decide_eq_true hmode)
    refine ⟨htcp, fun hlength => ?_⟩
    rw [List.length_append, rtpHeader_length, rtpHeaderSize] at hlength
    omega

/-- PLAY keeps the way to the client. -/
theorem handlePlayRequest_way (client : Client) (exchange : Exchange) :
    let player := (client.handlePlayRequest exchange).1
    player.transportMode = client.transportMode ∧ player.rtpPort = client.rtpPort ∧
      player.rtpAddress = client.rtpAddress ∧ player.clientAddress = client.clientAddress := by
  unfold Client.handlePlayRequest Client.sendRtspResponse
  dsimp only
  split_ifs <;> exact ⟨rfl, rfl, rfl, rfl⟩

/-- The media of a slot with a pair are sent on it. -/
theorem Client.HoldsPair.sendsMediaOn {client : Client} {tcp : Bool} {pair : ℕ × ℕ}
    (h : client.HoldsPair tcp pair) : client.SendsMediaOn tcp pair := by
  intro exchange net calls data timestamp marker
  have hplay : (client.handlePlayRequest exchange).1.HoldsPair tcp pair ∧
      (client.handlePlayRequest exchange).1.clientAddress = client.clientAddress := by
    obtain ⟨hmode, hport, haddress, hclient⟩ := handlePlayRequest_way client exchange
    refine ⟨⟨hmode.trans h.mode, ?_, ?_⟩, hclient⟩
    · rw [hport]
      exact h.channel
    · rw [haddress, hclient]
      exact h.address
  obtain ⟨-, made, hmade, hsent⟩ := (sentOn_rule timestamp client.clientAddress tcp
    pair).sendRtpPacket net (s := ⟨_, calls⟩) hplay data marker
  rwa [hmade, List.drop_left]

/-! ### The answer -/

/-- The pair that an answer has to name: the one requested, or the server's own channels. -/
def TransportSpec.answered (spec : TransportSpec) : Option (ℕ × ℕ) :=
  match spec.requested with
  | some pair => some pair
  | none => if spec.tcp then some defaultChannels else none

/-- A success names the pair and the media are sent on it, and a request that names a pair and
is well formed is a success. -/
def TransportSpec.AnsweredBy (spec : TransportSpec) (wellFormed : Prop) (before after : Client) :
    Prop :=
  ∀ response, after.responses = before.responses ++ [response] →
    (response.statusCode = 200 → ∀ pair ∈ spec.answered,
      response.headers = answerHeader spec.tcp pair ∧ after.SendsMediaOn spec.tcp pair) ∧
    (spec.requested.isSome = true → wellFormed → response.statusCode = 200)

/-- SETUP negotiates the transport of the request. It is well formed if its URL names a stream,
and a track that the client may have. -/
def Client.Negotiates (client : Client) (config : Config) (exchange : Exchange)
    (request : Request) (spec : TransportSpec) : Prop :=
  spec.AnsweredBy ((client.setupTarget config request.url).isOk = true) client
    (client.handleSetupRequest config exchange request.url request.transport).1

section Answer

variable {spec : TransportSpec} {wellFormed : Prop} {before client : Client} {exchange : Exchange}
  {statusCode : ℕ} {statusText : String} {headers : List UInt8} {body : Option (List UInt8)}
  (hresponses : client.responses = before.responses)
include hresponses

/-- The only answer is the one that is sent. -/
theorem answeredBy_iff (hsend : exchange.sendOk = true) :
    spec.AnsweredBy wellFormed before
        (client.sendRtspResponse exchange statusCode statusText headers body).1 ↔
      (statusCode = 200 → ∀ pair ∈ spec.answered, headers = answerHeader spec.tcp pair ∧
        (client.sendRtspResponse exchange statusCode statusText headers body).1.SendsMediaOn
          spec.tcp pair) ∧
      (spec.requested.isSome = true → wellFormed → statusCode = 200) := by
  unfold TransportSpec.AnsweredBy
  rw [Client.sendRtspResponse_responses _ _ _ _ _ _ hsend, hresponses]
  constructor
  · exact fun h => h _ rfl
  · intro h response hresponse
    obtain rfl := List.singleton_inj.mp (List.append_cancel_left hresponse)
    exact h

/-- Without an answer there is nothing to say. -/
theorem answeredBy_of_not_sent (hsend : exchange.sendOk = false) :
    spec.AnsweredBy wellFormed before
      (client.sendRtspResponse exchange statusCode statusText headers body).1 := by
  intro response hresponse
  rw [Client.sendRtspResponse, if_neg (by simp [hsend]), hresponses] at hresponse
  simp at hresponse

end Answer

/-- The header of a success names the numbers in the slot. -/
theorem headers_eq_answerHeader_iff (tcp : Bool) (rtp rtcp : ℤ) (pair : ℕ × ℕ) :
    ascii (if tcp then "Transport: RTP/AVP/TCP;unicast;interleaved="
      else "Transport: RTP/AVP;unicast;client_port=") ++ printInt rtp ++ ascii "-" ++
        printInt rtcp ++ ascii "\r\n" = answerHeader tcp pair ↔
      rtp = pair.1 ∧ rtcp = pair.2 := by
  constructor
  · intro h
    unfold answerHeader at h
    simp only [List.append_assoc] at h
    have hnumbers := List.append_cancel_left h
    have hdash : ∀ rest, EndsNumber (ascii "-" ++ rest) := by
      intro rest c hc
      obtain rfl := Option.some.inj hc
      decide
    have hend : EndsNumber (ascii "\r\n") := by
      intro c hc
      obtain rfl := Option.some.inj hc
      decide
    have hfirst := congrArg int hnumbers
    rw [int_printInt _ (hdash _), int_printInt _ (hdash _)] at hfirst
    obtain ⟨hrtp, hrest⟩ := Prod.mk.inj (Option.some.inj hfirst)
    have hsecond := congrArg int (List.append_cancel_left hrest)
    rw [int_printInt _ hend, int_printInt _ hend] at hsecond
    exact ⟨hrtp, (Prod.mk.inj (Option.some.inj hsecond)).1⟩
  · rintro ⟨rfl, rfl⟩
    rfl

/-- The answers for interleaved media and for datagrams are different. -/
theorem interleaved_ne_answerHeader (rtp rtcp : ℤ) (pair : ℕ × ℕ) :
    ascii "Transport: RTP/AVP/TCP;unicast;interleaved=" ++ printInt rtp ++ ascii "-" ++
      printInt rtcp ++ ascii "\r\n" ≠ answerHeader false pair := by
  intro h
  have htake := congrArg (List.take 19) h
  unfold answerHeader at htake
  simp only [List.append_assoc] at htake
  rw [List.take_append_of_le_length (by decide), List.take_append_of_le_length (by decide)] at htake
  exact absurd htake (by decide)

/-! ### When the answer is right -/

/-- The slot holds these channels from before. -/
def Client.HoldsChannels (client : Client) (pair : ℕ × ℕ) : Prop :=
  client.rtpPort = pair.1 ∧ client.rtcpPort = pair.2

/-- The pair is the second parameter, or none is read and the slot happens to hold the pair. For
datagrams there also has to be a socket, and nothing that looks like the other transport; a client
over TLS is given two fixed ports if none are read. -/
def Client.CanNegotiate (client : Client) (exchange : Exchange) (spec : TransportSpec) : Prop :=
  match spec.tcp, spec.requested with
  | true, some pair => spec.InPlace pair ∨ spec.NoneInPlace ∧ client.HoldsChannels pair
  | true, none => client.HoldsChannels defaultChannels
  | false, some pair => contains spec.stored (ascii "RTP/AVP/TCP") = false ∧
      0 ≤ exchange.rtpSocket ∧
      (spec.InPlace pair ∨ spec.NoneInPlace ∧ client.useTls = true ∧ pair = (5004, 5005))
  | false, none => True

/-- The channels that are read, or else those that the slot holds. -/
def Client.channels (client : Client) (transport : List UInt8) : ℤ × ℤ :=
  ((transportPair "interleaved=").scan transport).getD (client.rtpPort, client.rtcpPort)

theorem setupTcpTransport_eq (client : Client) (exchange : Exchange) (transport : List UInt8) :
    client.setupTcpTransport exchange transport =
      Client.finishSetup
        { client with
          transportMode := .tcp
          rtpPort := (client.channels transport).1
          rtcpPort := (client.channels transport).2 }
        exchange "Transport: RTP/AVP/TCP;unicast;interleaved=" := by
  unfold Client.setupTcpTransport Client.channels
  cases (transportPair "interleaved=").scan transport <;> rfl

/-- A header that asks for no pair has none in place. -/
theorem TransportSpec.noneInPlace_of_requested {spec : TransportSpec}
    (h : spec.requested = none) : spec.NoneInPlace := by
  intro pair hsecond
  obtain ⟨parameter, hindex, hpair⟩ := Option.bind_eq_some_iff.mp hsecond
  have hnone := List.findSome?_eq_none_iff.mp h parameter (List.mem_of_getElem? hindex)
  rw [hpair] at hnone
  cases hnone

/-- The pair in place is the only one that is read. -/
theorem TransportSpec.InPlace.not_noneInPlace {spec : TransportSpec} {pair : ℕ × ℕ}
    (h : spec.InPlace pair) : ¬spec.NoneInPlace := by
  intro hnone
  have hpos : 0 < (digits pair.2).length := List.length_pos_iff.mpr (digits_ne_nil _)
  have := hnone pair h.1
  have := h.2
  omega

/-- What is read is the pair requested exactly if that is in place; otherwise what is kept in
its stead has to be the pair. -/
theorem scan_getD_eq_iff {spec : TransportSpec} {pair : ℕ × ℕ}
    (hrequested : spec.requested = some pair) (kept : ℤ × ℤ) :
    ((transportPair (pairName spec.tcp)).scan spec.stored).getD kept =
        ((pair.1 : ℤ), (pair.2 : ℤ)) ↔
      spec.InPlace pair ∨ spec.NoneInPlace ∧ kept = ((pair.1 : ℤ), (pair.2 : ℤ)) := by
  have hsome := transportPair_scan_stored_eq_some_iff hrequested
  have hnone := transportPair_scan_stored_eq_none_iff spec
  cases hscan : (transportPair (pairName spec.tcp)).scan spec.stored with
  | none =>
    have hplace : spec.NoneInPlace := hnone.mp hscan
    rw [Option.getD_none, and_iff_right hplace, or_iff_right fun h => h.not_noneInPlace hplace]
  | some ports =>
    rw [hscan] at hsome hnone
    rw [Option.getD_some, ← hsome, Option.some.injEq, or_iff_left fun h => by
      cases hnone.mpr h.1]

/-- A channel as a byte. -/
theorem channelByte (n : ℕ) : UInt8.ofInt n = UInt8.ofNat n := by
  have hmod : ((n : ℤ) % 2 ^ 8).toNat = n % 2 ^ 8 := by omega
  rw [UInt8.ofInt, hmod]
  apply UInt8.toNat_inj.mp
  simp

/-- A port as it is stored. -/
theorem port_toNat {n : ℕ} (hn : n ≤ 65535) : (UInt16.ofInt n).toNat = n := by
  have hmod : ((n : ℤ) % 2 ^ 16).toNat = n := by omega
  rw [UInt16.ofInt, hmod, UInt16.toNat_ofNat']
  omega

/-- The ports that are requested are ports. -/
theorem TransportSpec.port_le {spec : TransportSpec} (htcp : spec.tcp = false) {pair : ℕ × ℕ}
    (h : spec.requested = some pair) : pair.1 ≤ 65535 := by
  obtain ⟨parameter, -, hpair⟩ := List.exists_of_findSome?_eq_some h
  rw [htcp] at hpair
  cases parameter with
  | clientPort rtp rtcp =>
    obtain rfl := Option.some.inj hpair
    exact rtp.property.2
  | unicast => cases hpair
  | interleaved rtp rtcp => cases hpair
  | mode value => cases hpair
  | destination value => cases hpair

section Branches

variable {client selected : Client} {exchange : Exchange} {spec : TransportSpec}
  {videoChannel : ℤ} {codec : Codec}
  (hselected : selected = { client with videoChannel := videoChannel, codec := codec })
  (hsend : exchange.sendOk = true) {wellFormed : Prop}
include hselected hsend

/-- The branch for interleaved media. -/
theorem setupTcpTransport_answeredBy_iff :
    spec.AnsweredBy wellFormed client (selected.setupTcpTransport exchange spec.stored).1 ↔
      ∀ pair ∈ spec.answered, spec.tcp = true ∧
        client.channels spec.stored = ((pair.1 : ℤ), (pair.2 : ℤ)) := by
  have hchannels : selected.channels spec.stored = client.channels spec.stored := by
    rw [hselected]
    rfl
  rw [setupTcpTransport_eq, hchannels, Client.finishSetup]
  generalize client.channels spec.stored = ports
  refine Iff.trans (answeredBy_iff (by rw [hselected]) hsend) ?_
  rw [and_iff_left fun _ _ => rfl]
  constructor
  · intro h pair hpair
    have hheader := (h rfl pair hpair).1
    cases htcp : spec.tcp with
    | true =>
      rw [htcp] at hheader
      obtain ⟨hrtp, hrtcp⟩ := (headers_eq_answerHeader_iff true ports.1 ports.2 pair).mp hheader
      exact ⟨rfl, Prod.ext hrtp hrtcp⟩
    | false =>
      rw [htcp] at hheader
      exact absurd hheader (interleaved_ne_answerHeader _ _ _)
  · intro h _ pair hpair
    obtain ⟨htcp, rfl⟩ := h pair hpair
    rw [htcp]
    refine ⟨rfl, Client.HoldsPair.sendsMediaOn ?_⟩
    rw [Client.sendRtspResponse, if_pos hsend]
    exact ⟨rfl, fun _ => channelByte pair.1, fun hudp => by cases hudp⟩

/-- The branch for datagrams, if ports are requested. -/
theorem setupUdpTransport_answeredBy_iff (hwellFormed : wellFormed) (htcp : spec.tcp = false)
    {pair : ℕ × ℕ} (hrequested : spec.requested = some pair) :
    spec.AnsweredBy wellFormed client (selected.setupUdpTransport exchange spec.stored).1 ↔
      0 ≤ exchange.rtpSocket ∧
        client.requestedPorts spec.stored = some ((pair.1 : ℤ), (pair.2 : ℤ)) := by
  have hports : ∀ mode, Client.requestedPorts { selected with transportMode := mode } spec.stored =
      client.requestedPorts spec.stored := by
    rw [hselected]
    exact fun _ => rfl
  have hrefused : ∀ {refused : Client} {statusCode : ℕ} {statusText : String},
      refused.responses = client.responses → statusCode ≠ 200 →
      ¬spec.AnsweredBy wellFormed client
        (refused.sendRtspResponse exchange statusCode statusText [] none).1 := by
    intro refused statusCode statusText hresponses hstatus h
    have hanswer := (answeredBy_iff hresponses hsend).mp h
    exact hstatus (hanswer.2 (by rw [hrequested]; rfl) hwellFormed)
  have hanswered : spec.answered = some pair := by
    rw [TransportSpec.answered, hrequested]
  unfold Client.setupUdpTransport
  dsimp only
  rw [hports]
  cases client.requestedPorts spec.stored with
  | none => exact iff_of_false (hrefused (by rw [hselected]) (by decide)) (fun h => by cases h.2)
  | some ports =>
    dsimp only
    by_cases hsocket : exchange.rtpSocket < 0
    · rw [if_pos hsocket]
      exact iff_of_false (hrefused (by rw [hselected]) (by decide)) (fun h => absurd h.1 (by omega))
    · rw [if_neg hsocket, Client.finishSetup]
      refine Iff.trans (answeredBy_iff (by rw [hselected]) hsend) ?_
      rw [and_iff_left fun _ _ => rfl, and_iff_right (by omega), hanswered, htcp,
        Option.some.injEq]
      constructor
      · intro h
        obtain ⟨hrtp, hrtcp⟩ := (headers_eq_answerHeader_iff false ports.1 ports.2 pair).mp
          (h rfl pair rfl).1
        exact Prod.ext hrtp hrtcp
      · rintro rfl _ pair' hpair'
        obtain rfl := Option.some.inj hpair'
        refine ⟨rfl, Client.HoldsPair.sendsMediaOn ?_⟩
        rw [Client.sendRtspResponse, if_pos hsend]
        exact ⟨rfl, fun hinterleaved => (by cases hinterleaved),
          fun _ => ⟨port_toNat (spec.port_le htcp hrequested), rfl⟩⟩

end Branches

/-- SETUP gives one answer. -/
theorem handleSetupRequest_responds (client : Client) (config : Config) (exchange : Exchange)
    (url transport : List UInt8) : ∃ (answering : Client) (statusCode : ℕ) (statusText : String)
      (headers : List UInt8), answering.responses = client.responses ∧
        client.handleSetupRequest config exchange url transport =
          answering.sendRtspResponse exchange statusCode statusText headers none := by
  unfold Client.handleSetupRequest
  cases client.setupTarget config url with
  | error refusal => exact ⟨_, _, _, _, rfl, rfl⟩
  | ok target =>
    obtain ⟨hsame, -, -⟩ := client.selectStream_same target.1 target.2
    have hresponses := hsame.responses
    dsimp only
    generalize client.selectStream target.1 target.2 = selected at hresponses ⊢
    split
    · rw [setupTcpTransport_eq]
      refine ⟨_, _, _, _, ?_, rfl⟩
      exact hresponses
    · unfold Client.setupUdpTransport
      dsimp only
      split
      · refine ⟨_, _, _, _, ?_, rfl⟩
        exact hresponses
      · split
        · refine ⟨_, _, _, _, ?_, rfl⟩
          exact hresponses
        · refine ⟨_, _, _, _, ?_, rfl⟩
          exact hresponses

/-- A transport on the connection is found in what is stored of it. -/
theorem TransportSpec.contains_stored {spec : TransportSpec} (htcp : spec.tcp = true) :
    contains spec.stored (ascii "RTP/AVP/TCP") = true := by
  have hlength : (ascii "RTP/AVP/TCP").length ≤ 255 := by decide
  have hstart : ascii "RTP/AVP/TCP" <+: spec.stored := by
    rw [TransportSpec.stored, TransportSpec.text, transportName, htcp, if_pos rfl,
      List.take_append, List.take_of_length_le hlength]
    exact List.prefix_append _ _
  rw [contains, strstr_of_begins hstart]
  rfl

/-- The ports that are requested are used exactly if they are in place, or are those that a
client over TLS is given. -/
theorem requestedPorts_eq_iff (client : Client) {spec : TransportSpec} (htcp : spec.tcp = false)
    {pair : ℕ × ℕ} (hrequested : spec.requested = some pair) :
    client.requestedPorts spec.stored = some ((pair.1 : ℤ), (pair.2 : ℤ)) ↔
      spec.InPlace pair ∨ spec.NoneInPlace ∧ client.useTls = true ∧ pair = (5004, 5005) := by
  have hname : pairName spec.tcp = "client_port=" := by rw [htcp]; rfl
  have hsome := transportPair_scan_stored_eq_some_iff hrequested
  have hnone := transportPair_scan_stored_eq_none_iff spec
  rw [hname] at hsome hnone
  unfold Client.requestedPorts
  cases hscan : (transportPair "client_port=").scan spec.stored with
  | none =>
    have hplace : spec.NoneInPlace := hnone.mp hscan
    rw [and_iff_right hplace, or_iff_right fun h => h.not_noneInPlace hplace]
    dsimp only
    cases client.useTls with
    | false => simp
    | true =>
      rw [if_pos rfl, and_iff_right rfl, Option.some.injEq, Prod.ext_iff, Prod.ext_iff]
      dsimp only
      omega
  | some ports =>
    rw [hscan] at hsome hnone
    dsimp only
    rw [← hsome, or_iff_left fun h => by cases hnone.mpr h.1]

/-- The answer to a SETUP request is right exactly if it cannot be sent, the request is refused
for its URL, or the pair can be negotiated. -/
theorem negotiates_iff (client : Client) (config : Config) (exchange : Exchange)
    {request : Request} {spec : TransportSpec} (hcarries : request.Carries spec) :
    client.Negotiates config exchange request spec ↔
      (exchange.sendOk = true → (client.setupTarget config request.url).isOk = true →
        client.CanNegotiate exchange spec) := by
  unfold Client.Negotiates
  rw [hcarries.transport]
  cases hsend : exchange.sendOk with
  | false =>
    obtain ⟨_, _, _, _, hresponses, hanswer⟩ := handleSetupRequest_responds client config exchange
      request.url spec.stored
    rw [hanswer]
    exact iff_of_true (answeredBy_of_not_sent hresponses hsend) (fun h => by cases h)
  | true =>
    rw [Client.handleSetupRequest]
    cases htarget : client.setupTarget config request.url with
    | error refusal =>
      refine iff_of_true ((answeredBy_iff rfl hsend).mpr ⟨fun hstatus => ?_, fun _ hok => ?_⟩)
        (fun _ hok => by cases hok)
      · exact absurd hstatus (Client.setupTarget_error htarget)
      · cases hok
    | ok target =>
      obtain ⟨videoChannel, codec, hselected, -⟩ := selectStream_eq client target.1 target.2
      have hok : (Except.ok (ε := ℕ × String) target).isOk = true := rfl
      rw [forall_prop_of_true rfl, forall_prop_of_true hok]
      unfold Client.CanNegotiate
      dsimp only
      cases htcp : spec.tcp with
      | true =>
        have hname : pairName spec.tcp = "interleaved=" := by rw [htcp]; rfl
        rw [if_pos (TransportSpec.contains_stored htcp)]
        refine Iff.trans (setupTcpTransport_answeredBy_iff hselected hsend) ?_
        unfold TransportSpec.answered Client.channels Client.HoldsChannels
        cases hrequested : spec.requested with
        | some pair =>
          have hread := scan_getD_eq_iff hrequested (client.rtpPort, client.rtcpPort)
          rw [hname] at hread
          simp only [htcp, Option.mem_some_iff, forall_eq', true_and]
          exact hread.trans (or_congr_right (and_congr_right fun _ => Prod.mk_inj))
        | none =>
          have hnone := (transportPair_scan_stored_eq_none_iff spec).mpr
            (spec.noneInPlace_of_requested hrequested)
          rw [hname] at hnone
          simp [htcp, hnone]
      | false =>
        cases hrequested : spec.requested with
        | none =>
          -- no ports are requested, so any answer is right
          refine iff_of_true (fun response _ => ⟨fun _ pair hpair => ?_, fun hsome => ?_⟩) trivial
          · simp [TransportSpec.answered, hrequested, htcp] at hpair
          · simp [hrequested] at hsome
        | some pair =>
          have hanswered : spec.answered = some pair := by
            rw [TransportSpec.answered, hrequested]
          by_cases hlooks : contains spec.stored (ascii "RTP/AVP/TCP") = true
          · rw [if_pos hlooks]
            refine Iff.trans (setupTcpTransport_answeredBy_iff hselected hsend) ?_
            simp [hanswered, htcp, hlooks]
          · rw [if_neg hlooks]
            refine Iff.trans
              (setupUdpTransport_answeredBy_iff hselected hsend hok htcp hrequested) ?_
            dsimp only
            rw [requestedPorts_eq_iff client htcp hrequested,
              and_iff_right (Bool.eq_false_iff.mpr hlooks)]

/-! ### Two orders of the same parameters -/

/-- A SETUP request for the only stream, with this header. -/
def setupWith (spec : TransportSpec) : Request where
  text := ascii "SETUP rtsp://192.168.1.10/ch0 RTSP/1.0\r\nCSeq: 2\r\n" ++
    (ascii "Transport:" ++ (ascii " " ++ (spec.text ++ ascii "\r\n\r\n")))
  method := .setup
  url := ascii "rtsp://192.168.1.10/ch0"
  cseq := 2

theorem setupWith_carries (spec : TransportSpec) : (setupWith spec).Carries spec := by
  refine ⟨_, ascii " ", ascii "\r\n\r\n", rfl, by decide +kernel, by decide +kernel, fun c hc => ?_⟩
  obtain rfl := Option.some.inj hc
  decide

theorem negotiates_unicast_interleaved :
    Client.initial.Negotiates openConfig (.receive "" (by decide))
        (setupWith ⟨true, [.unicast, .interleaved 2 3]⟩)
        ⟨true, [.unicast, .interleaved 2 3]⟩ ↔
      ((Exchange.receive "" (by decide)).sendOk = true →
        (Client.initial.setupTarget openConfig (ascii "rtsp://192.168.1.10/ch0")).isOk = true →
        Client.initial.CanNegotiate (.receive "" (by decide))
          ⟨true, [.unicast, .interleaved 2 3]⟩) :=
  negotiates_iff Client.initial openConfig _ (setupWith_carries _)

/-- With the channels in front of `unicast`, other channels are answered. -/
theorem not_negotiates_interleaved_unicast :
    ¬Client.initial.Negotiates openConfig (.receive "" (by decide))
      (setupWith ⟨true, [.interleaved 2 3, .unicast]⟩)
      ⟨true, [.interleaved 2 3, .unicast]⟩ := by
  intro h
  have hanswer := ((h _ rfl).1 (by decide +kernel) (2, 3) rfl).1
  exact absurd hanswer (by decide +kernel)

end Rtsp
