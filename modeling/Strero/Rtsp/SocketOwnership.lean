import Strero.Lib.Ownership
import Strero.Lib.Runs
import Strero.Rtsp.ServerTurns
import Strero.Rtsp.SessionState

/-!
# The sockets for media

SETUP with datagrams creates a socket and keeps it in the slot of its client, which closes it
when it is cleaned up. The sockets that are open are those of the active slots in every state
of exactly those runs in which no slot loses a socket: by another SETUP, or by an invalid
descriptor; and no slot closes a descriptor that has become that of a socket.
-/

namespace Rtsp

open CString

/-! ### Calls for one slot -/

/-- The handler of the request calls `socket`: it is SETUP for a stream, with datagrams and
ports. -/
def Client.opensSocket (client : Client) (config : Config) (request : Request) : Prop :=
  request.method = .setup ∧ (client.setupTarget config request.url).isOk = true ∧
    contains request.transport (ascii "RTP/AVP/TCP") = false ∧
    (client.requestedPorts request.transport).isSome = true

instance (client : Client) (config : Config) (request : Request) :
    Decidable (client.opensSocket config request) :=
  inferInstanceAs (Decidable (_ ∧ _))

/-- What `socket` returns while the data received are handled, if it is called. -/
def Client.newSocket (client : Client) (config : Config) (exchange : Exchange) : Option ℤ :=
  match client.servedRequest config exchange with
  | some request => if client.opensSocket config request then some exchange.rtpSocket else none
  | none => none

/-- The client is cleaned up once the data received have been handled. Its connection is
closed or fails, what it sends is not a request, its peer is unknown, the response cannot be
sent, or it has torn its session down. -/
def Client.leaves (client : Client) (config : Config) (exchange : Exchange) : Prop :=
  ¬client.sendsInterleaved exchange ∧ ∀ request ∈ client.ownRequest exchange,
    exchange.peer = none ∧ request.method ≠ .teardown ∨ exchange.sendOk = false ∨
      request.method = .teardown ∧ passes config exchange request

instance (client : Client) (config : Config) (exchange : Exchange) :
    Decidable (client.leaves config exchange) :=
  inferInstanceAs (Decidable (_ ∧ _))

variable {client after : Client} {config : Config} {exchange : Exchange} {request : Request}

/-- A response leaves the descriptor of the socket alone. -/
theorem Client.sendRtspResponse_rtpSocketFd (client : Client) (exchange : Exchange)
    (statusCode : ℕ) (statusText : String) (headers : List UInt8) (body : Option (List UInt8)) :
    (client.sendRtspResponse exchange statusCode statusText headers body).1.rtpSocketFd =
      client.rtpSocketFd := by
  unfold Client.sendRtspResponse
  split <;> rfl

/-- SETUP keeps the descriptor that it has been given by `socket`, if it calls it. -/
theorem Client.handleSetupRequest_rtpSocketFd (hmethod : request.method = .setup) :
    (client.handleSetupRequest config exchange request.url request.transport).1.rtpSocketFd =
      if client.opensSocket config request then exchange.rtpSocket else client.rtpSocketFd := by
  unfold Client.handleSetupRequest
  cases htarget : client.setupTarget config request.url with
  | error refusal =>
    rw [if_neg fun hopens => by simpa [htarget, Except.isOk, Except.toBool] using hopens.2.1]
    exact Client.sendRtspResponse_rtpSocketFd _ _ _ _ _ _
  | ok target =>
    obtain ⟨stream, trackId⟩ := target
    have hok : (client.setupTarget config request.url).isOk = true := by
      rw [htarget]
      rfl
    have hselected : (client.selectStream stream trackId).rtpSocketFd = client.rtpSocketFd := by
      unfold Client.selectStream
      split <;> rfl
    have huseTls := (client.selectStream_same stream trackId).2.2
    dsimp only
    split
    · rename_i htcp
      rw [if_neg fun hopens => absurd htcp (by simp [hopens.2.2.1]), ← hselected]
      unfold Client.setupTcpTransport Client.finishSetup
      dsimp only
      split <;> exact Client.sendRtspResponse_rtpSocketFd _ _ _ _ _ _
    · rename_i hudp
      have hports : Client.requestedPorts
          { client.selectStream stream trackId with transportMode := .udp } request.transport =
          client.requestedPorts request.transport := by
        unfold Client.requestedPorts
        rw [huseTls]
      unfold Client.setupUdpTransport Client.finishSetup
      dsimp only
      rw [hports]
      cases hrequested : client.requestedPorts request.transport with
      | none =>
        rw [if_neg fun hopens => by simpa [hrequested] using hopens.2.2.2, ← hselected]
        exact Client.sendRtspResponse_rtpSocketFd _ _ _ _ _ _
      | some ports =>
        have hopens : client.opensSocket config request :=
          ⟨hmethod, hok, by simpa using hudp, by rw [hrequested]; rfl⟩
        rw [if_pos hopens]
        dsimp only
        split
        · exact Client.sendRtspResponse_rtpSocketFd _ _ _ _ _ _
        · exact Client.sendRtspResponse_rtpSocketFd _ _ _ _ _ _

/-- The handlers other than that of TEARDOWN keep the descriptor, but for a new one. -/
theorem Client.handleRequest_rtpSocketFd (client : Client) (config : Config)
    (exchange : Exchange) (hmethod : request.method ≠ .teardown) :
    (client.handleRequest config exchange request).client.rtpSocketFd =
      if client.opensSocket config request then exchange.rtpSocket else client.rtpSocketFd := by
  by_cases hsetup : request.method = .setup
  · rw [Client.handleRequest, hsetup]
    exact Client.handleSetupRequest_rtpSocketFd hsetup
  · rw [if_neg fun hopens => hsetup hopens.1]
    obtain ⟨_, _, _, _, _, _, _, hwritten⟩ :=
      client.handleRequest_writes config exchange hsetup hmethod
    rw [hwritten]

/-! ### A turn of the loop over the slots -/

/-- With a request, a client leaves because of what becomes of it. -/
theorem Client.leaves_iff (hown : client.ownRequest exchange = some request) :
    client.leaves config exchange ↔
      exchange.peer = none ∧ request.method ≠ .teardown ∨ exchange.sendOk = false ∨
        request.method = .teardown ∧ passes config exchange request := by
  have hother : ¬client.sendsInterleaved exchange := by
    intro hinterleaved
    rw [Client.ownRequest_of_sendsInterleaved hinterleaved] at hown
    cases hown
  simp [Client.leaves, hother, hown]

/-- No socket is created without a request that is served. -/
theorem Client.newSocket_of_not_served (h : client.servedRequest config exchange = none) :
    client.newSocket config exchange = none := by
  rw [Client.newSocket, h]

/-- What handling the data received makes of a slot and its descriptors. -/
theorem Client.handleClientConnection_sockets {handled : Handled} (hactive : client.InUse)
    (h : client.handleClientConnection config exchange = some handled) :
    client.leaves config exchange ∧ (handled.result < 0 ∨ handled.client.active = false) ∨
      ¬client.leaves config exchange ∧ 0 ≤ handled.result ∧ handled.client.active = true ∧
        handled.client.socketFd = client.socketFd ∧
        handled.client.rtpSocketFd =
          (client.newSocket config exchange).getD client.rtpSocketFd := by
  have hserved := client.servedRequest_eq_filter config exchange
  have hfailure : (-1 : ℤ) < 0 := by decide
  cases Client.handleClientConnection_reads h with
  | interleaved hinterleaved =>
    rw [Client.ownRequest_of_sendsInterleaved hinterleaved] at hserved
    rw [Client.newSocket_of_not_served hserved]
    exact .inr ⟨fun hleaves => hleaves.1 hinterleaved, le_refl 0, hactive, rfl, rfl⟩
  | noRequest lastActivityUs hother hown =>
    refine .inl ⟨⟨hother, ?_⟩, .inl hfailure⟩
    rw [hown]
    exact nofun
  | noPeer request hown hpeer hmethod =>
    exact .inl ⟨(Client.leaves_iff hown).mpr (.inl ⟨hpeer, hmethod⟩), .inl hfailure⟩
  | denied request hown hpeer hcheck statusCode statusText headers hstatus =>
    have hfails : ¬passes config exchange request := fun hpasses => hcheck hpasses.2
    rw [hown, Option.filter_some, if_neg (by simpa using hfails)] at hserved
    rw [Client.newSocket_of_not_served hserved, Client.leaves_iff hown]
    have hresult := Client.sendRtspResponse_result
      { client with lastActivityUs := exchange.now, cseq := request.cseq } exchange statusCode
      statusText headers none
    by_cases hsend : exchange.sendOk = true
    · rw [if_pos hsend] at hresult
      refine .inr ⟨?_, hresult.ge, ?_, ?_, ?_⟩
      · simp only [hsend, hfails]
        simpa using hpeer
      · exact (Client.sendRtspResponse_active _ _ _ _ _ _).trans hactive
      · exact Client.sendRtspResponse_socketFd _ _ _ _ _ _
      · exact Client.sendRtspResponse_rtpSocketFd _ _ _ _ _ _
    · rw [if_neg hsend] at hresult
      exact .inl ⟨.inr (.inl (by simpa using hsend)), .inl (hresult.trans_lt hfailure)⟩
  | served request hown hpasses =>
    rw [hown, Option.filter_some, if_pos (by simpa using hpasses)] at hserved
    rw [Client.leaves_iff hown]
    by_cases hmethod : request.method = .teardown
    · refine .inl ⟨.inr (.inr ⟨hmethod, hpasses⟩), .inr ?_⟩
      rw [Client.handleRequest, hmethod]
      rfl
    · obtain ⟨-, accepted, target, hanswered⟩ := Client.handleRequest_answered
        { client with lastActivityUs := exchange.now, cseq := request.cseq } config exchange hmethod
      have hresult := hanswered.result
      by_cases hsend : exchange.sendOk = true
      · rw [if_pos hsend] at hresult
        refine .inr ⟨?_, hresult.ge, hanswered.active.trans hactive, hanswered.socketFd, ?_⟩
        · simp only [hsend, hmethod]
          simpa [hmethod] using hpasses.1
        · refine (Client.handleRequest_rtpSocketFd _ config exchange hmethod).trans ?_
          change (if client.opensSocket config request then exchange.rtpSocket
            else client.rtpSocketFd) = _
          rw [Client.newSocket, hserved]
          dsimp only
          split <;> rfl
      · rw [if_neg hsend] at hresult
        exact .inl ⟨.inr (.inl (by simpa using hsend)), .inl (hresult.trans_lt hfailure)⟩

/-- The mark on a session that plays makes no difference. -/
theorem Client.pauseInterleaved_sockets (client : Client) (config : Config)
    (exchange : Exchange) :
    (client.pauseInterleaved.leaves config exchange ↔ client.leaves config exchange) ∧
      client.pauseInterleaved.newSocket config exchange = client.newSocket config exchange ∧
      client.pauseInterleaved.rtpSocketFd = client.rtpSocketFd := by
  unfold Client.pauseInterleaved
  split
  · exact ⟨Iff.rfl, rfl, rfl⟩
  · exact ⟨Iff.rfl, rfl, rfl⟩

/-- A turn of the loop cleans up a client that leaves, and keeps the descriptors of any other,
but for a new socket. -/
theorem Client.serve_sockets {k : ℤ} (hactive : client.InUse)
    (h : client.serve config exchange = some (after, k)) :
    client.leaves config exchange ∧ after.active = false ∨
      ¬client.leaves config exchange ∧ after.active = true ∧ after.socketFd = client.socketFd ∧
        after.rtpSocketFd = (client.newSocket config exchange).getD client.rtpSocketFd := by
  obtain ⟨handled, hhandled, hafter⟩ := Client.serve_cases h
  obtain ⟨hleaves, hnew, hrtpSocketFd⟩ :=
    client.pauseInterleaved_sockets config exchange
  have hsockets := Client.handleClientConnection_sockets
    (Client.pauseInterleaved_active.trans hactive) hhandled
  rw [hleaves, hnew, hrtpSocketFd, Client.pauseInterleaved_socketFd] at hsockets
  rcases hsockets with ⟨hgone, hfreed⟩ | ⟨hstays, hresult, hkept, hsocketFd, hmedia⟩
  · refine .inl ⟨hgone, ?_⟩
    rcases hafter with ⟨-, hinactive, -⟩ | ⟨hresult, rfl, -⟩
    · exact hinactive
    · rw [Handled.restore_active]
      exact hfreed.resolve_left (not_lt.mpr hresult)
  · rcases hafter with ⟨hnegative, -⟩ | ⟨-, rfl, -⟩
    · exact absurd hresult (not_le.mpr hnegative)
    · refine .inr ⟨hstays, ?_, ?_, ?_⟩
      · rw [Handled.restore_active, hkept]
      · rw [Handled.restore_socketFd, hsocketFd]
      · rw [← hmedia]
        unfold Handled.restore
        split <;> rfl

/-! ### The sockets that are open -/

/-- The server, and the sockets that SETUP has created and that have not been closed. -/
structure Process where
  server : Server
  media : Finset ℤ

/-- The server has been created. -/
def Process.start (config : Config) : Process := ⟨.create config, ∅⟩

/-- The calls of `close` in `cleanup_client`. -/
def Client.closeSockets (client : Client) (media : Finset ℤ) : Finset ℤ :=
  (media.erase client.socketFd).erase client.rtpSocketFd

/-- The calls for a slot that is served: `socket`, which may fail, and then `close`. -/
def Client.serveSockets (client : Client) (config : Config) (exchange : Exchange)
    (media : Finset ℤ) : Finset ℤ :=
  match client.newSocket config exchange with
  | none => if client.leaves config exchange then client.closeSockets media else media
  | some fd =>
    let media := if 0 ≤ fd then insert fd media else media
    if client.leaves config exchange then
      Client.closeSockets { client with rtpSocketFd := fd } media
    else media

/-- The sockets that are open after a turn. Of connections, only new ones are closed without
their slot. -/
def Process.mediaAfter (p : Process) : Turn → Finset ℤ
  | .accept _ | .acceptTls _ _ | .drop _ => p.media
  | .serve slot exchange =>
    let client := p.server.clients slot
    if client.active ∧ 0 ≤ client.socketFd then
      client.serveSockets p.server.config exchange p.media
    else p.media
  | .expire slot now =>
    let client := p.server.clients slot
    if client.expired p.server.config now then client.closeSockets p.media else p.media

/-- A descriptor that is new is not in use: it is not that of an open socket, nor that of the
connection whose request creates it. -/
def Process.Possible (p : Process) : Turn → Prop
  | .accept connection | .acceptTls connection _ => (connection.socketFd : ℤ) ∉ p.media
  | .serve slot exchange =>
    ∀ fd ∈ (p.server.clients slot).newSocket p.server.config exchange,
      fd ∉ p.media ∧ fd ≠ (p.server.clients slot).socketFd
  | .expire _ _ | .drop _ => True

instance (p : Process) : (turn : Turn) → Decidable (p.Possible turn)
  | .accept _ | .acceptTls _ _ => inferInstanceAs (Decidable (_ ∉ _))
  | .serve _ _ => inferInstanceAs (Decidable (∀ fd ∈ _, _))
  | .expire _ _ | .drop _ => inferInstanceAs (Decidable True)

/-- A turn, if it is one that is possible. -/
def Process.step (p : Process) (turn : Turn) : Option Process :=
  if p.Possible turn then (p.server.turn turn).map fun after => ⟨after, p.mediaAfter turn⟩
  else none

/-- The turns of a process are turns of its server. -/
theorem Process.run_server {p p' : Process} {turns : List Turn}
    (h : turns.foldlM Process.step p = some p') :
    turns.foldlM Server.turn p.server = some p'.server := by
  induction turns generalizing p with
  | nil => exact congrArg (fun p => some p.server) (Option.some.inj h)
  | cons turn turns ih =>
    rw [List.foldlM_cons] at h
    obtain ⟨next, hnext, hrest⟩ := Option.bind_eq_some_iff.mp h
    unfold Process.step at hnext
    split_ifs at hnext with hpossible
    obtain ⟨server, hserver, rfl⟩ := Option.map_eq_some_iff.mp hnext
    rw [List.foldlM_cons, hserver]
    exact ih hrest

/-- The sockets that are open are those of the active slots. So there is at most one for each
of them, and none is left once all clients have been cleaned up. -/
structure Process.Owned (p : Process) : Prop where
  exact : ∀ fd, fd ∈ p.media ↔
    ∃ slot, (p.server.clients slot).InUse ∧ (p.server.clients slot).rtpSocketFd = fd ∧ 0 ≤ fd
  onePerSlot : p.media.card ≤ p.server.activeCount
  noneLeft : p.server.activeCount = 0 → p.media = ∅

/-- A turn keeps the books: SETUP creates a socket only for a slot without one, a slot that is
cleaned up closes no descriptor but its own, and a slot that is dropped has no socket. -/
def Process.Keeps (p : Process) : Turn → Prop
  | .accept _ | .acceptTls _ _ => True
  | .serve slot exchange =>
    let client := p.server.clients slot
    client.InUse → 0 ≤ client.socketFd →
      (client.newSocket p.server.config exchange ≠ none → client.rtpSocketFd < 0) ∧
        (client.leaves p.server.config exchange → client.socketFd ∉ p.media)
  | .expire slot now =>
    let client := p.server.clients slot
    client.expired p.server.config now = true → client.socketFd ∉ p.media
  | .drop invalid => ∀ slot, (p.server.clients slot).InUse →
    0 ≤ (p.server.clients slot).socketFd → invalid slot = true →
      (p.server.clients slot).rtpSocketFd < 0

instance (p : Process) : (turn : Turn) → Decidable (p.Keeps turn)
  | .accept _ | .acceptTls _ _ => inferInstanceAs (Decidable True)
  | .serve _ _ | .expire _ _ => inferInstanceAs (Decidable (_ → _))
  | .drop _ => inferInstanceAs (Decidable (∀ _, _))

/-! ### The books -/

/-- The socket of a slot in use. -/
def Client.mediaSocket (client : Client) : Option ℤ :=
  if client.InUse ∧ 0 ≤ client.rtpSocketFd then some client.rtpSocketFd else none

/-- The slots as holders of sockets. -/
def Process.hold (p : Process) (slot : Slot) : Option ℤ := (p.server.clients slot).mediaSocket

theorem Client.mediaSocket_eq_some {fd : ℤ} :
    client.mediaSocket = some fd ↔ client.InUse ∧ client.rtpSocketFd = fd ∧ 0 ≤ fd := by
  unfold Client.mediaSocket
  split
  · rename_i hholds
    rw [Option.some.injEq]
    constructor
    · rintro rfl
      exact ⟨hholds.1, rfl, hholds.2⟩
    · exact fun h => h.2.1
  · rename_i hholds
    refine iff_of_false nofun ?_
    rintro ⟨huse, rfl, hfd⟩
    exact hholds ⟨huse, hfd⟩

/-- A slot in use holds its socket if it has one. -/
theorem Client.mediaSocket_of_inUse (huse : client.InUse) : client.mediaSocket =
    if 0 ≤ client.rtpSocketFd then some client.rtpSocketFd else none :=
  if_congr (and_iff_right huse) rfl rfl

theorem Client.mediaSocket_eq_none (huse : client.InUse) :
    client.mediaSocket = none ↔ client.rtpSocketFd < 0 := by
  rw [Client.mediaSocket_of_inUse huse]
  split
  · rename_i hholds
    exact iff_of_false nofun (not_lt.mpr hholds)
  · rename_i hholds
    exact iff_of_true rfl (not_le.mp hholds)

/-- A slot that is free holds nothing. -/
theorem Client.mediaSocket_of_free (hfree : ¬client.InUse) : client.mediaSocket = none :=
  if_neg fun hholds => hfree hholds.1

variable {p p' : Process} {slot : Slot}

/-- Everything follows from the books. -/
theorem Process.owned_iff : p.Owned ↔ Ownership.Exact p.hold p.media := by
  have hholds : ∀ fd, (∃ slot, p.hold slot = some fd) ↔
      ∃ slot, (p.server.clients slot).InUse ∧ (p.server.clients slot).rtpSocketFd = fd ∧
        0 ≤ fd := fun fd => exists_congr fun _ => Client.mediaSocket_eq_some
  constructor
  · exact fun h fd => (h.exact fd).trans (hholds fd).symm
  · intro h
    have hcard : p.media.card ≤ p.server.activeCount := by
      refine h.card_le.trans ?_
      unfold Server.activeCount Slots.occupied
      refine Finset.card_le_card fun slot hslot => ?_
      obtain ⟨fd, hfd⟩ := Option.isSome_iff_exists.mp (Finset.mem_filter.mp hslot).2
      exact Finset.mem_filter.mpr ⟨Finset.mem_univ slot, (Client.mediaSocket_eq_some.mp hfd).1⟩
    refine ⟨fun fd => (h fd).trans (hholds fd), hcard, fun hnone => ?_⟩
    rw [← Finset.card_eq_zero]
    omega

/-- What holds while the books are exact: no two slots have the same socket, and none has its
connection as its socket. -/
structure Process.Sound (p : Process) : Prop where
  exact : Ownership.Exact p.hold p.media
  exclusive : Ownership.Exclusive p.hold
  apart : ∀ slot, p.hold slot ≠ some (p.server.clients slot).socketFd

/-- A slot that has changed holds what it has now. -/
theorem Process.hold_update (hclients : p'.server.clients =
    Function.update p.server.clients slot client) :
    p'.hold = Function.update p.hold slot client.mediaSocket := by
  funext other
  unfold Process.hold
  rw [hclients, Function.apply_update fun _ => Client.mediaSocket]

/-- The books go on with another content of one slot if they are exact, and if its socket is
new and not its connection. -/
theorem Process.Sound.update (h : p.Sound)
    (hclients : p'.server.clients = Function.update p.server.clients slot client)
    (hfresh : ∀ fd, client.mediaSocket = some fd → fd ∉ p.media)
    (hapart : client.mediaSocket ≠ some client.socketFd) (howned : p'.Owned) : p'.Sound := by
  have hhold := Process.hold_update hclients
  refine ⟨Process.owned_iff.mp howned, ?_, fun other => ?_⟩
  · rw [hhold]
    exact h.exclusive.update h.exact hfresh
  · rw [hhold, hclients]
    by_cases hother : other = slot
    · subst hother
      rwa [Function.update_self, Function.update_self]
    · rw [Function.update_of_ne hother, Function.update_of_ne hother]
      exact h.apart other

/-- So they do if one slot changes without its socket. -/
theorem Process.Sound.update_same (h : p.Sound)
    (hclients : p'.server.clients = Function.update p.server.clients slot client)
    (hsocket : client.mediaSocket = p.hold slot) (hmedia : p'.media = p.media)
    (hapart : client.mediaSocket ≠ some client.socketFd) : p'.Owned ∧ p'.Sound := by
  have hhold : p'.hold = p.hold := by
    rw [Process.hold_update hclients, hsocket, Function.update_eq_self]
  have hexact : Ownership.Exact p'.hold p'.media := by
    rw [hhold, hmedia]
    exact h.exact
  refine ⟨Process.owned_iff.mpr hexact, hexact, ?_, fun other => ?_⟩
  · rw [hhold]
    exact h.exclusive
  · rw [hhold, hclients]
    by_cases hother : other = slot
    · subst hother
      rwa [Function.update_self, ← hsocket]
    · rw [Function.update_of_ne hother]
      exact h.apart other

/-- A slot that is cleaned up closes its socket and its connection, which must not have become
that of another socket. -/
theorem Process.Sound.close_iff (h : p.Sound) (hfree : ¬client.InUse)
    (hclients : p'.server.clients = Function.update p.server.clients slot client)
    (hmedia : p'.media = (p.server.clients slot).closeSockets p.media)
    (huse : (p.server.clients slot).InUse) :
    p'.Owned ↔ (p.server.clients slot).socketFd ∉ p.media := by
  rw [Process.owned_iff, Process.hold_update hclients, Client.mediaSocket_of_free hfree, hmedia]
  refine Ownership.exact_close_iff h.exact h.exclusive (h.apart slot) fun fd => ?_
  have hown : fd ∈ p.media → (fd ≠ (p.server.clients slot).rtpSocketFd ↔
      p.hold slot ≠ some fd) := by
    intro hfd
    obtain ⟨other, hother⟩ := (h.exact fd).mp hfd
    have hnonneg := (Client.mediaSocket_eq_some.mp hother).2.2
    rw [Process.hold, Ne, Ne, Client.mediaSocket_eq_some]
    constructor
    · rintro hne ⟨-, heq, -⟩
      exact hne heq.symm
    · rintro hnot rfl
      exact hnot ⟨huse, rfl, hnonneg⟩
  rw [Client.closeSockets, Finset.mem_erase, Finset.mem_erase]
  tauto

/-- A new connection leaves the books as they are. -/
theorem Process.Sound.accept (h : p.Sound) {connection : Connection} {server : Server}
    (hserver : p.server.Admitting connection server) :
    Process.Owned ⟨server, p.media⟩ ∧ Process.Sound ⟨server, p.media⟩ := by
  rcases hserver with ⟨-, rfl⟩ | ⟨slot, client, hslot, hclients, hnone, -⟩
  · exact ⟨Process.owned_iff.mpr h.exact, h⟩
  · have hfree := (Server.slotForNew_eq_some hslot).2
    have hsocket : client.mediaSocket = none := by
      rw [Client.mediaSocket, hnone]
      exact if_neg fun hholds => absurd hholds.2 (by decide)
    refine h.update_same hclients ?_ rfl ?_
    · rw [hsocket, Process.hold, Client.mediaSocket_of_free hfree]
    · rw [hsocket]
      exact nofun

/-- A slot whose client leaves closes its connection, the socket that the request has created,
and its own one if there is no other. -/
theorem Process.Sound.leave_iff (h : p.Sound) (huse : (p.server.clients slot).InUse)
    (hpossible : p.Possible (.serve slot exchange)) (hfree : ¬client.InUse)
    (hclients : p'.server.clients = Function.update p.server.clients slot client)
    (hleaves : (p.server.clients slot).leaves p.server.config exchange)
    (hmedia : p'.media =
      (p.server.clients slot).serveSockets p.server.config exchange p.media) :
    p'.Owned ↔
      ((p.server.clients slot).newSocket p.server.config exchange ≠ none →
        (p.server.clients slot).rtpSocketFd < 0) ∧ (p.server.clients slot).socketFd ∉ p.media := by
  have hheld : p.hold slot = none ↔ (p.server.clients slot).rtpSocketFd < 0 :=
    Client.mediaSocket_eq_none huse
  unfold Client.serveSockets at hmedia
  cases hnew : (p.server.clients slot).newSocket p.server.config exchange with
  | none =>
    rw [hnew] at hmedia
    dsimp only at hmedia
    rw [if_pos hleaves] at hmedia
    rw [h.close_iff hfree hclients hmedia huse]
    simp
  | some fd =>
    have hfresh := (hpossible fd hnew).1
    rw [hnew] at hmedia
    dsimp only at hmedia
    have hclosed : p'.media = p.media.erase (p.server.clients slot).socketFd := by
      rw [hmedia, if_pos hleaves, Client.closeSockets, Finset.erase_right_comm]
      congr 1
      split
      · exact Finset.erase_insert hfresh
      · exact Finset.erase_eq_of_notMem hfresh
    rw [Process.owned_iff, Process.hold_update hclients, Client.mediaSocket_of_free hfree, hclosed,
      Ownership.exact_abandon_iff h.exact h.exclusive (h.apart slot), hheld]
    simp

/-- A slot whose client stays has the socket that the request has created, if it has created
one. -/
theorem Process.Sound.stay_iff (h : p.Sound) (huse : (p.server.clients slot).InUse)
    (hpossible : p.Possible (.serve slot exchange)) (hkept : client.InUse)
    (hclients : p'.server.clients = Function.update p.server.clients slot client)
    (hstays : ¬(p.server.clients slot).leaves p.server.config exchange)
    (hsocketFd : client.socketFd = (p.server.clients slot).socketFd)
    (hrtpSocketFd : client.rtpSocketFd =
      ((p.server.clients slot).newSocket p.server.config exchange).getD
        (p.server.clients slot).rtpSocketFd)
    (hmedia : p'.media =
      (p.server.clients slot).serveSockets p.server.config exchange p.media) :
    (p'.Owned ↔
      ((p.server.clients slot).newSocket p.server.config exchange ≠ none →
        (p.server.clients slot).rtpSocketFd < 0)) ∧ (p'.Owned → p'.Sound) := by
  have hheld : p.hold slot = none ↔ (p.server.clients slot).rtpSocketFd < 0 :=
    Client.mediaSocket_eq_none huse
  unfold Client.serveSockets at hmedia
  cases hnew : (p.server.clients slot).newSocket p.server.config exchange with
  | none =>
    rw [hnew] at hmedia hrtpSocketFd
    dsimp only at hmedia
    rw [if_neg hstays] at hmedia
    have hsame : client.mediaSocket = p.hold slot := by
      rw [Process.hold, Client.mediaSocket_of_inUse hkept, Client.mediaSocket_of_inUse huse,
        hrtpSocketFd]
      rfl
    have hapart : client.mediaSocket ≠ some client.socketFd := by
      rw [hsame, hsocketFd]
      exact h.apart slot
    obtain ⟨howned, hsound⟩ := h.update_same hclients hsame hmedia hapart
    exact ⟨iff_of_true howned fun hcalled => absurd rfl hcalled, fun _ => hsound⟩
  | some fd =>
    obtain ⟨hfresh, hother⟩ := hpossible fd hnew
    rw [hnew] at hmedia hrtpSocketFd
    dsimp only at hmedia
    rw [if_neg hstays] at hmedia
    have hsocket : client.mediaSocket = if 0 ≤ fd then some fd else none := by
      rw [Client.mediaSocket_of_inUse hkept, hrtpSocketFd]
      rfl
    have hcreated : some fd ≠ none := nofun
    refine ⟨?_, h.update hclients ?_ ?_⟩
    · rw [Process.owned_iff, Process.hold_update hclients, hsocket, hmedia,
        forall_prop_of_true hcreated, ← hheld]
      split
      · exact Ownership.exact_open_iff h.exact h.exclusive hfresh
      · exact Ownership.exact_drop_iff h.exact h.exclusive
    · rw [hsocket]
      split
      · rintro _ ⟨⟩
        exact hfresh
      · exact nofun
    · rw [hsocket, hsocketFd]
      split
      · exact fun heq => hother (Option.some.inj heq)
      · exact nofun

/-- What a slot that is served does to the books. -/
theorem Process.Sound.serve_iff (h : p.Sound) {k : ℤ} (huse : (p.server.clients slot).InUse)
    (hpossible : p.Possible (.serve slot exchange))
    (hserve : (p.server.clients slot).serve p.server.config exchange = some (client, k))
    (hclients : p'.server.clients = Function.update p.server.clients slot client)
    (hmedia : p'.media =
      (p.server.clients slot).serveSockets p.server.config exchange p.media) :
    (p'.Owned ↔
      ((p.server.clients slot).newSocket p.server.config exchange ≠ none →
        (p.server.clients slot).rtpSocketFd < 0) ∧
      ((p.server.clients slot).leaves p.server.config exchange →
        (p.server.clients slot).socketFd ∉ p.media)) ∧ (p'.Owned → p'.Sound) := by
  rcases Client.serve_sockets huse hserve with
    ⟨hleaves, hfreed⟩ | ⟨hstays, hkept, hsocketFd, hrtpSocketFd⟩
  · have hfree : ¬client.InUse := by simp [hfreed]
    have hnone := Client.mediaSocket_of_free hfree
    refine ⟨?_, h.update hclients (by simp [hnone]) (by simp [hnone])⟩
    rw [forall_prop_of_true hleaves]
    exact h.leave_iff huse hpossible hfree hclients hleaves hmedia
  · rw [forall_prop_of_false hstays, and_true]
    exact h.stay_iff huse hpossible hkept hclients hstays hsocketFd hrtpSocketFd hmedia

/-- What an error does to the books: slots that are dropped lose their sockets. -/
theorem Process.Sound.drop_iff (h : p.Sound) (invalid : Slot → Bool) :
    (Process.Owned ⟨p.server.dropInvalid invalid, p.media⟩ ↔ p.Keeps (.drop invalid)) ∧
      (Process.Owned ⟨p.server.dropInvalid invalid, p.media⟩ →
        Process.Sound ⟨p.server.dropInvalid invalid, p.media⟩) := by
  have hhold : Process.hold ⟨p.server.dropInvalid invalid, p.media⟩ = fun slot =>
      if (p.server.clients slot).active = true ∧ 0 ≤ (p.server.clients slot).socketFd ∧
        invalid slot = true then none else p.hold slot := by
    funext slot
    unfold Process.hold Server.dropInvalid
    dsimp only
    split
    · exact Client.mediaSocket_of_free (by simp)
    · rfl
  refine ⟨?_, fun howned => ⟨Process.owned_iff.mp howned, ?_, fun slot => ?_⟩⟩
  · rw [Process.owned_iff, hhold, Ownership.exact_forget_iff h.exact h.exclusive]
    refine forall_congr' fun slot => ?_
    have hheld : (p.server.clients slot).InUse →
        (p.hold slot = none ↔ (p.server.clients slot).rtpSocketFd < 0) :=
      Client.mediaSocket_eq_none
    tauto
  · intro slot other fd hslot hother
    rw [hhold] at hslot hother
    dsimp only at hslot hother
    split_ifs at hslot hother
    exact h.exclusive slot other fd hslot hother
  · rw [hhold]
    dsimp only [Server.dropInvalid]
    split
    · exact nofun
    · exact h.apart slot

/-- While the books are exact, a turn leaves them exact if and only if it keeps them. -/
theorem Process.Sound.step_iff (h : p.Sound) {turn : Turn} (hstep : p.step turn = some p') :
    (p'.Owned ↔ p.Keeps turn) ∧ (p'.Owned → p'.Sound) := by
  have hsame : p.Owned := Process.owned_iff.mpr h.exact
  unfold Process.step at hstep
  split_ifs at hstep with hpossible
  obtain ⟨server, hturn, rfl⟩ := Option.map_eq_some_iff.mp hstep
  cases turn with
  | accept connection =>
    obtain rfl := Option.some.inj hturn
    obtain ⟨howned, hsound⟩ := h.accept (p.server.acceptPlain_admitting connection)
    exact ⟨iff_of_true howned trivial, fun _ => hsound⟩
  | acceptTls connection handshake =>
    obtain rfl := Option.some.inj hturn
    obtain ⟨howned, hsound⟩ := h.accept (p.server.acceptTls_admitting connection handshake)
    exact ⟨iff_of_true howned trivial, fun _ => hsound⟩
  | serve slot exchange =>
    obtain ⟨⟨client, k⟩, hserve, rfl⟩ := Option.map_eq_some_iff.mp hturn
    generalize hafter : Process.mk _ _ = after
    have hclients : after.server.clients = Function.update p.server.clients slot client := by
      rw [← hafter]
    have hmedia : after.media = p.mediaAfter (.serve slot exchange) := by rw [← hafter]
    unfold Process.mediaAfter at hmedia
    unfold serveSlot at hserve
    dsimp only at hserve hmedia
    unfold Process.Keeps
    dsimp only
    split_ifs at hserve with hready
    · rw [if_pos hready] at hmedia
      obtain ⟨hiff, hsound⟩ := h.serve_iff hready.1 hpossible hserve hclients hmedia
      refine ⟨hiff.trans ?_, hsound⟩
      exact ⟨fun hkeeps _ _ => hkeeps, fun hkeeps => hkeeps hready.1 hready.2⟩
    · obtain ⟨rfl, rfl⟩ := Prod.mk.inj (Option.some.inj hserve)
      rw [if_neg hready] at hmedia
      obtain ⟨howned, hsound⟩ := h.update_same hclients rfl hmedia (h.apart slot)
      exact ⟨iff_of_true howned fun huse hfd => absurd ⟨huse, hfd⟩ hready, fun _ => hsound⟩
  | expire slot now =>
    obtain ⟨⟨client, k⟩, hexpire, rfl⟩ := Option.map_eq_some_iff.mp hturn
    generalize hafter : Process.mk _ _ = after
    have hclients : after.server.clients = Function.update p.server.clients slot client := by
      rw [← hafter]
    have hmedia : after.media = p.mediaAfter (.expire slot now) := by rw [← hafter]
    unfold Process.mediaAfter at hmedia
    unfold expireSlot at hexpire
    dsimp only at hmedia
    unfold Process.Keeps
    dsimp only
    split_ifs at hexpire with hexpired
    · obtain ⟨rfl, rfl⟩ := Prod.mk.inj (Option.some.inj hexpire)
      rw [if_pos hexpired] at hmedia
      have huse : (p.server.clients slot).InUse := (Bool.and_eq_true_iff.mp hexpired).1
      have hfree : ¬(p.server.clients slot).cleanup.InUse := by simp [Client.cleanup]
      have hnone := Client.mediaSocket_of_free hfree
      refine ⟨?_, h.update hclients (by simp [hnone]) (by simp [hnone])⟩
      rw [h.close_iff hfree hclients hmedia huse]
      simp [hexpired]
    · obtain ⟨rfl, rfl⟩ := Prod.mk.inj (Option.some.inj hexpire)
      rw [if_neg hexpired] at hmedia
      obtain ⟨howned, hsound⟩ := h.update_same hclients rfl hmedia (h.apart slot)
      exact ⟨iff_of_true howned fun hnow => absurd hnow hexpired, fun _ => hsound⟩
  | drop invalid =>
    obtain rfl := Option.some.inj hturn
    exact h.drop_iff invalid

/-- A server that has been created has no sockets. -/
theorem Process.start_sound (config : Config) : (Process.start config).Sound := by
  have hhold : ∀ slot, (Process.start config).hold slot = none := fun _ => rfl
  refine ⟨fun fd => iff_of_false (Finset.notMem_empty fd) ?_, fun i j fd hi => ?_, fun slot => ?_⟩
  · rintro ⟨slot, hslot⟩
    rw [hhold] at hslot
    cases hslot
  · rw [hhold] at hi
    cases hi
  · rw [hhold]
    exact nofun

/-- The sockets that are open are those of the active slots after each turn of exactly those
runs in which every turn keeps the books. -/
theorem Process.owned_iff_keeps (config : Config) (turns : List Turn) :
    Runs.Each Process.step (fun _ _ after => after.Owned) (Process.start config) turns ↔
      Runs.Each Process.step (fun before turn _ => before.Keeps turn) (Process.start config)
        turns :=
  Runs.each_congr Process.Sound (fun _ _ _ h hstep => (h.step_iff hstep).1)
    (fun _ _ _ h hstep howned => (h.step_iff hstep).2 howned) (Process.start_sound config)

/-- A client that sets two tracks up. -/
def setupTwice : List Turn :=
  [.accept viewerConnection, .serve 0 setupRequest, .serve 0 { setupRequest with rtpSocket := 10 }]

/-- The socket for its first track stays open, and no slot knows of it. -/
theorem Process.not_owned_setupTwice :
    ¬∀ (config : Config) (turns : List Turn),
      Runs.Each Process.step (fun _ _ after => after.Owned) (Process.start config) turns := by
  intro hall
  have hheld : Runs.Each Process.step
      (fun _ _ after => ∀ fd ∈ after.media, ∃ slot, (after.server.clients slot).rtpSocketFd = fd)
      (Process.start openConfig) setupTwice := by
    refine (hall openConfig setupTwice).mono fun before turn after _ howned fd hfd => ?_
    obtain ⟨slot, -, hslot, -⟩ := (howned.exact fd).mp hfd
    exact ⟨slot, hslot⟩
  exact absurd hheld (by decide +kernel)

end Rtsp
