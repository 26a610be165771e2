import Strero.Lib.Runs
import Strero.Rtsp.SlotPackets

/-!
# Sessions in a slot that has been used

What a connection is sent, in responses and in packets, is the same in any two slots that
were left by earlier connections, as long as each of its requests uses only what the
connection has set itself. Frames come with the state of the clock for their timestamps,
which is shared by all slots.
-/

namespace Rtsp

open CString AuthUtils

/-! ### Histories -/

/-- What happens at a server: an iteration of its thread, or a frame that is offered to a
slot with some state of the clock and of the network. -/
inductive Happening
  | iterate (activity : Activity)
  | deliver (slot : Slot) (net : Network) (clock : RtpClock) (frame : LiveFrame)

/-- One happening. -/
def Server.happen (server : Server) : Happening → Option Server
  | .iterate activity => server.iterate activity
  | .deliver slot net clock frame =>
    (Sender.offerFrame net clock ⟨server.clients slot, []⟩ frame).map fun r =>
      { server with clients := Function.update server.clients slot r.2.client }

section RequestBuffer

variable {client : Client} {config : Config} {exchange : Exchange}

/-- No handler fills the buffer for requests. -/
theorem Client.handleRequest_requestBuffer (request : Request) :
    (client.handleRequest config exchange request).client.requestBuffer = client.requestBuffer := by
  by_cases hmethod : request.method = .play
  · rw [Client.handleRequest, hmethod]
    exact Client.handlePlayRequest_requestBuffer
  · exact (client.handleRequest_sameWait config exchange hmethod).requestBuffer

/-- Reading does not fill it either. -/
theorem Client.handleClientConnection_requestBuffer {handled : Handled}
    (h : client.handleClientConnection config exchange = some handled) :
    handled.client.requestBuffer = client.requestBuffer := by
  cases Client.handleClientConnection_reads h with
  | interleaved | noRequest | noPeer => rfl
  | denied => exact (SameWait.sendRtspResponse ⟨rfl, rfl, rfl⟩ _ _ _ _).requestBuffer
  | served => exact Client.handleRequest_requestBuffer _

/-- A turn of the loop over the slots leaves it as it is. -/
theorem Client.serve_requestBuffer {after : Client} {k : ℤ}
    (h : client.serve config exchange = some (after, k)) :
    after.requestBuffer = client.requestBuffer := by
  obtain ⟨handled, hhandled, hserve⟩ := Option.bind_eq_some_iff.mp h
  have hkept := Client.handleClientConnection_requestBuffer hhandled
  have hpaused : client.pauseInterleaved.requestBuffer = client.requestBuffer := by
    unfold Client.pauseInterleaved
    split <;> rfl
  have hrestored : (handled.restore client.state).requestBuffer = handled.client.requestBuffer := by
    unfold Handled.restore
    split <;> rfl
  rw [← hpaused, ← hkept, ← hrestored]
  dsimp only at hserve
  split at hserve
  · exact congrArg (fun r => r.1.requestBuffer) (Option.some.inj hserve).symm
  · exact congrArg (fun r => r.1.requestBuffer) (Option.some.inj hserve).symm

end RequestBuffer

/-- The buffers for requests are empty. -/
def Server.BuffersEmpty (server : Server) : Prop :=
  ∀ slot, (server.clients slot).requestBuffer = []

/-- A slot that is occupied. -/
theorem Server.BuffersEmpty.update {server : Server} (h : server.BuffersEmpty) {slot : Slot}
    {client : Client} (hclient : client.requestBuffer = []) :
    ∀ i, (Function.update server.clients slot client i).requestBuffer = [] := by
  intro i
  by_cases hslot : i = slot
  · rw [hslot, Function.update_self]
    exact hclient
  · rw [Function.update_of_ne hslot]
    exact h i

/-- New connections. -/
theorem Server.BuffersEmpty.acceptNew {server : Server} (h : server.BuffersEmpty)
    (plain : Option Connection) (tls : Option (Connection × Bool)) :
    (server.acceptNew plain tls).BuffersEmpty := by
  have hplain : (server.acceptPlain plain).BuffersEmpty := by
    unfold Server.acceptPlain
    split
    · exact h
    · split
      · exact h
      · exact h.update (h _)
  have htls : ∀ {server : Server}, server.BuffersEmpty → (server.acceptTls tls).BuffersEmpty := by
    intro server h
    unfold Server.acceptTls
    split
    · exact h
    · split
      · exact h
      · dsimp only
        split
        · exact h.update (h _)
        · exact h.update (h _)
  unfold Server.acceptNew
  split
  · exact htls hplain
  · exact hplain

/-- Nothing that happens fills a buffer. -/
theorem Server.BuffersEmpty.happen {server after : Server} {happening : Happening}
    (h : server.BuffersEmpty) (hafter : server.happen happening = some after) :
    after.BuffersEmpty := by
  cases happening with
  | iterate activity =>
    cases activity with
    | interrupted => exact Option.some.inj hafter ▸ h
    | failed invalid =>
      obtain rfl := Option.some.inj hafter
      intro slot
      unfold Server.dropInvalid
      dsimp only
      split <;> exact h slot
    | quiet now =>
      intro slot
      obtain ⟨k, hk⟩ := Server.sweep_clients hafter slot
      unfold expireSlot at hk
      split at hk
      · exact (congrArg (fun r => r.1.requestBuffer) (Option.some.inj hk)).symm.trans (h slot)
      · exact (congrArg (fun r => r.1.requestBuffer) (Option.some.inj hk)).symm.trans (h slot)
    | ready plain tls requests =>
      intro slot
      obtain ⟨k, hk⟩ := Server.sweep_clients hafter slot
      have hnew := h.acceptNew plain tls slot
      unfold serveSlot at hk
      split at hk
      · exact (congrArg (fun r => r.1.requestBuffer) (Option.some.inj hk)).symm.trans hnew
      · split at hk
        · exact (Client.serve_requestBuffer hk).trans hnew
        · exact (congrArg (fun r => r.1.requestBuffer) (Option.some.inj hk)).symm.trans hnew
  | deliver slot net clock frame =>
    obtain ⟨r, hr, rfl⟩ := Option.map_eq_some_iff.mp hafter
    obtain ⟨rtpSeq, needsIdr, hclient⟩ := offerFrame_client hr
    refine h.update ?_
    rw [hclient]
    exact h slot

/-- The buffers are empty whatever has happened. -/
theorem Server.buffersEmpty_of_history {config : Config} {history : List Happening}
    {server : Server} (h : history.foldlM Server.happen (Server.create config) = some server) :
    server.BuffersEmpty :=
  Runs.invariant_foldlM (fun _ _ _ hempty => hempty.happen) h fun _ => rfl

/-! ### Sessions -/

/-- A connection in its slot, and what it has set itself. -/
structure Session where
  sender : Sender
  own : Own

/-- A connection is accepted into a slot, with TLS or without. -/
def Session.accept (left : Client) (connection : Connection) (tls : Bool) : Session :=
  let client := left.accept connection
  ⟨⟨(if tls then client.startTls else client).initRtp connection, []⟩, ⟨false, false⟩⟩

/-- What happens in the slot of a connection: data are received, a frame is offered with
the state of the clock for timestamps, or nothing is received for a second. -/
inductive SessionEvent
  | request (exchange : Exchange)
  | frame (clock : RtpClock) (frame : LiveFrame)
  | quiet (now : UInt32)

/-- One event. -/
def Session.step (config : Config) (net : Network) (s : Session) : SessionEvent → Option Session
  | .request exchange =>
    if s.sender.client.active ∧ 0 ≤ s.sender.client.socketFd then
      (s.sender.client.serve config exchange).map fun r =>
        ⟨{ s.sender with client := r.1 }, s.own.after s.sender.client config exchange⟩
    else some s
  | .frame clock frame => (s.sender.offerFrame net clock frame).map fun r => ⟨r.2, s.own⟩
  | .quiet now =>
    if s.sender.client.expired config now then
      some { s with sender := { s.sender with client := s.sender.client.cleanup } }
    else some s

/-- The responses and the packets that a connection has been sent. -/
def Session.output (s : Session) : List Response × List Call :=
  (s.sender.client.responses, s.sender.calls.filter Call.isTransmitted)

/-- A request that is served uses only what its connection has set. -/
def Session.SelfContained (config : Config) (s : Session) : SessionEvent → Prop
  | .request exchange => s.own.SufficesFor s.sender.client config exchange
  | _ => True

instance (config : Config) (s : Session) (event : SessionEvent) :
    Decidable (s.SelfContained config event) :=
  match event with
  | .request exchange =>
    inferInstanceAs (Decidable (s.own.SufficesFor s.sender.client config exchange))
  | .frame _ _ | .quiet _ => inferInstanceAs (Decidable True)

/-- Two sessions of the same connection, in different slots. -/
structure Alike (s t : Session) : Prop where
  own : t.own = s.own
  sender : AgreeSender s.own s.sender t.sender

/-- The connection finds the slots different at most in what was left in them. -/
theorem Alike.accept {left left' : Client} (hleft : left.requestBuffer = [])
    (hleft' : left'.requestBuffer = []) (connection : Connection) (tls : Bool) :
    Alike (Session.accept left connection tls) (Session.accept left' connection tls) := by
  have hsame : (Session.accept left' connection tls).sender.client =
      (Session.accept left connection tls).sender.client.put
        ⟨left'.cseq, left'.rtpAddress, left'.rtcpAddress, left'.rtpPort, left'.rtcpPort,
          left'.videoChannel, left'.codec, left'.supportsBackchannel⟩ := by
    unfold Session.accept Client.accept Client.put
    rw [hleft, hleft']
    cases tls <;> rfl
  refine ⟨rfl, ⟨⟨_, hsame⟩, nofun, nofun, ?_, ?_, ?_⟩, rfl⟩
  · cases tls <;> exact nofun
  · cases tls <;> exact nofun
  · cases tls <;> exact nofun

/-- One event. -/
theorem Alike.step (config : Config) (net : Network) {s t : Session} (h : Alike s t)
    {event : SessionEvent} (hself : s.SelfContained config event) :
    Option.Rel Alike (s.step config net event) (t.step config net event) := by
  obtain ⟨hown, hsender⟩ := h
  have hsame : (t.sender.client.active = true ∧ 0 ≤ t.sender.client.socketFd) ↔
      (s.sender.client.active = true ∧ 0 ≤ s.sender.client.socketFd) := by
    obtain ⟨⟨leftover, hleftover⟩, -⟩ := hsender.client
    rw [hleftover]
    exact Iff.rfl
  cases event with
  | request exchange =>
    unfold Session.step
    by_cases hready : s.sender.client.active = true ∧ 0 ≤ s.sender.client.socketFd
    · have hserved := hsender.client.serve hself
      have hafter : t.own.after t.sender.client config exchange =
          s.own.after s.sender.client config exchange := by
        obtain ⟨⟨leftover, hleftover⟩, -⟩ := hsender.client
        rw [hown, hleftover]
        rfl
      simp only [if_pos hready, if_pos (hsame.mpr hready), hafter]
      generalize s.sender.client.serve config exchange = r at hserved ⊢
      generalize t.sender.client.serve config exchange = r' at hserved ⊢
      cases hserved with
      | none => exact .none
      | some hagree => exact .some ⟨rfl, hagree, hsender.calls⟩
    · simp only [if_neg hready, if_neg (mt hsame.mp hready)]
      exact .some ⟨hown, hsender⟩
  | frame clock frame =>
    have hoffered := hsender.offerFrame net clock frame
    unfold Session.step
    dsimp only
    generalize s.sender.offerFrame net clock frame = r at hoffered ⊢
    generalize t.sender.offerFrame net clock frame = r' at hoffered ⊢
    cases hoffered with
    | none => exact .none
    | some hagree => exact .some ⟨hown, hagree.2⟩
  | quiet now =>
    have hexpired : t.sender.client.expired config now = s.sender.client.expired config now := by
      obtain ⟨⟨leftover, hleftover⟩, -⟩ := hsender.client
      rw [hleftover]
      rfl
    simp only [Session.step, hexpired]
    split
    · exact .some ⟨hown, hsender.client.cleanup, hsender.calls⟩
    · exact .some ⟨hown, hsender⟩

/-- Sessions that are alike have been sent the same. -/
theorem Alike.output {s t : Session} (h : Alike s t) : s.output = t.output := by
  obtain ⟨⟨leftover, hleftover⟩, -⟩ := h.sender.client
  rw [Session.output, Session.output, filter_isTransmitted_congr h.sender.calls, hleftover]
  rfl

/-- What a connection is sent does not depend on what happened before in its slot, in every
run in which its requests use only what it has set itself. -/
theorem Session.run_output_eq {config : Config} (net : Network) {history history' : List Happening}
    {server server' : Server}
    (hhistory : history.foldlM Server.happen (Server.create config) = some server)
    (hhistory' : history'.foldlM Server.happen (Server.create config) = some server')
    (slot slot' : Slot) (connection : Connection) (tls : Bool) {events : List SessionEvent}
    (hself : Runs.Allowed (Session.step config net) (Session.SelfContained config)
      (Session.accept (server.clients slot) connection tls) events) :
    (events.foldlM (Session.step config net)
        (Session.accept (server.clients slot) connection tls)).map Session.output =
      (events.foldlM (Session.step config net)
        (Session.accept (server'.clients slot') connection tls)).map Session.output := by
  have halike := Alike.accept (Server.buffersEmpty_of_history hhistory slot)
    (Server.buffersEmpty_of_history hhistory' slot') connection tls
  have hlast := hself.simulation (fun s t event h hself => h.step config net hself) halike
  generalize events.foldlM (Session.step config net) _ = r at hlast ⊢
  generalize events.foldlM (Session.step config net) _ = r' at hlast ⊢
  cases hlast with
  | none => rfl
  | some h => exact congrArg some h.output

/-- SETUP with interleaved channels, and without. -/
def setupChannels : Exchange :=
  .receive ("SETUP rtsp://192.168.1.10/ch0/track1 RTSP/1.0\r\nCSeq: 2\r\n" ++
    "Transport: RTP/AVP/TCP;unicast;interleaved=4-5\r\n\r\n") (by decide +kernel)

@[inherit_doc setupChannels] def setupUnnamed : Exchange :=
  .receive ("SETUP rtsp://192.168.1.10/ch0/track1 RTSP/1.0\r\nCSeq: 2\r\n" ++
    "Transport: RTP/AVP/TCP;unicast\r\n\r\n") (by decide +kernel)

/-- A viewer names channels and leaves. -/
def earlierViewer : List Happening :=
  [.iterate acceptViewer, .iterate (viewerSends setupChannels),
    .iterate (viewerSends sentTeardown)]

/-- A viewer names channels, plays and is offered a key frame in one short unit. -/
def laterViewer : List SessionEvent :=
  [.request setupChannels,
    .request (.receive "PLAY rtsp://192.168.1.10/ch0 RTSP/1.0\r\nCSeq: 3\r\n\r\n"
      (by decide +kernel)),
    .frame .initial ⟨[0, 0, 0, 1, 0x65, 0x88, 0x84], 0, .h264, 3000000, 3000000, 7⟩]

/-- A network that takes all bytes. -/
def takesAll : Network := fun _ bytes => bytes.length

theorem earlierViewer_isSome :
    (earlierViewer.foldlM Server.happen (Server.create openConfig)).isSome = true := by
  decide +kernel

/-- A viewer that names its channels is sent the same after another viewer and in a new
slot. -/
theorem Session.run_output_eq_laterViewer :
    let server := (earlierViewer.foldlM Server.happen (Server.create openConfig)).get
      earlierViewer_isSome
    (laterViewer.foldlM (Session.step openConfig takesAll)
        (Session.accept (server.clients 0) viewerConnection false)).map Session.output =
      (laterViewer.foldlM (Session.step openConfig takesAll)
        (Session.accept ((Server.create openConfig).clients 0) viewerConnection false)).map
          Session.output :=
  Session.run_output_eq takesAll (Option.some_get _).symm
    (rfl : [].foldlM Server.happen (Server.create openConfig) = some _) 0 0 viewerConnection false
    (by decide +kernel)

/-- A viewer that names no channels is told those of the last viewer. -/
theorem Session.not_run_output_eq :
    ¬∀ (config : Config) (net : Network) (history history' : List Happening)
        (server server' : Server) (slot slot' : Slot) (connection : Connection) (tls : Bool)
        (events : List SessionEvent),
      history.foldlM Server.happen (Server.create config) = some server →
      history'.foldlM Server.happen (Server.create config) = some server' →
      (events.foldlM (Session.step config net)
          (Session.accept (server.clients slot) connection tls)).map Session.output =
        (events.foldlM (Session.step config net)
          (Session.accept (server'.clients slot') connection tls)).map Session.output := by
  intro h
  have hsame := h openConfig takesAll earlierViewer [] _ _ 0 0 viewerConnection false
    [.request setupUnnamed] (Option.some_get earlierViewer_isSome).symm rfl
  revert hsame
  decide +kernel

end Rtsp
