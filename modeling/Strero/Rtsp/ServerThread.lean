import Strero.Lib.Slots
import Strero.Rtsp.Handlers

/-!
# The server thread

One iteration of the loop of `server_thread_func`, by what `select` reports. What
the frame thread changes in a slot is not read here. The value `none` stands for
the overflow in the decoding of credentials.
-/

namespace Rtsp

open CString

/-- `MAX_RTSP_CLIENTS`. -/
abbrev maxRtspClients : ℕ := 8

/-- There are slots. -/
instance maxRtspClients_neZero : NeZero maxRtspClients := ⟨by decide⟩

/-- An index into the table of clients. -/
abbrev Slot := Fin maxRtspClients

/-- `struct rtsp_server`. -/
structure Server where
  config : Config
  clients : Slot → Client
  clientCount : ℤ
  totalConnections : UInt32

/-- `rtsp_server_create`. -/
def Server.create (config : Config) : Server := ⟨config, fun _ => .initial, 0, 0⟩

/-! ### New connections -/

/-- `charset`. -/
def sessionCharset : List UInt8 := ascii "0123456789ABCDEFGHIJKLMNOPQRSTUVWXYZ"

/-- `generate_session_id`, from the indices drawn. -/
def generateSessionId (draws : Fin 31 → Fin 36) : List UInt8 :=
  (List.finRange 31).map fun i => sessionCharset.get ((draws i).cast (by decide))

/-- A connection that `accept` returns, the clock, and the numbers drawn for it. -/
structure Connection where
  socketFd : ℕ
  address : UInt32
  now : UInt32
  sessionDraws : Fin 31 → Fin 36
  rtpSeq : UInt16
  rtpTimestamp : UInt32
  rtpSsrc : UInt32

/-- "Initialize client", up to the TLS context. The fields that are not set keep
what the last client of the slot has left in them. -/
def Client.accept (client : Client) (connection : Connection) : Client :=
  { client with
    socketFd := connection.socketFd
    rtpSocketFd := -1
    active := true
    state := .init
    transportMode := .udp
    needsIdr := false
    idrWaitStartUs := 0
    clientAddress := connection.address
    lastActivityUs := connection.now
    sessionId := generateSessionId connection.sessionDraws
    useTls := false
    sslContext := false
    responses := [] }

/-- "Initialize RTP parameters". -/
def Client.initRtp (client : Client) (connection : Connection) : Client :=
  { client with
    rtpSeq := connection.rtpSeq
    rtpTimestamp := connection.rtpTimestamp
    rtpSsrc := connection.rtpSsrc }

/-- `rtsp_client_tls_accept` after a handshake. -/
def Client.startTls (client : Client) : Client := { client with useTls := true, sslContext := true }

/-- `find_free_client_slot`. -/
def Server.findFreeClientSlot (server : Server) : Option Slot :=
  (List.finRange maxRtspClients).find? fun i => !(server.clients i).active

/-- The slot for a new connection. Without one the connection is refused. -/
def Server.slotForNew (server : Server) : Option Slot :=
  if server.config.maxClients ≤ server.clientCount then none else server.findFreeClientSlot

/-- The slot is in use and counted. -/
def Server.occupy (server : Server) (slot : Slot) (client : Client) : Server :=
  { server with
    clients := Function.update server.clients slot client
    clientCount := server.clientCount + 1
    totalConnections := server.totalConnections + 1 }

/-- The branch for the listening socket, if a connection is accepted from it. -/
def Server.acceptPlain (server : Server) : Option Connection → Server
  | none => server
  | some connection =>
    match server.slotForNew with
    | none => server
    | some slot =>
      server.occupy slot (((server.clients slot).accept connection).initRtp connection)

/-- The branch for the listening socket of TLS, if a connection is accepted from
it, by whether the handshake succeeds. -/
def Server.acceptTls (server : Server) : Option (Connection × Bool) → Server
  | none => server
  | some (connection, handshake) =>
    match server.slotForNew with
    | none => server
    | some slot =>
      let client := (server.clients slot).accept connection
      if handshake then server.occupy slot (client.startTls.initRtp connection)
      else { server with clients := Function.update server.clients slot client }

/-- Both branches. -/
def Server.acceptNew (server : Server) (plain : Option Connection)
    (tls : Option (Connection × Bool)) : Server :=
  if server.config.tlsEnabled then (server.acceptPlain plain).acceptTls tls
  else server.acceptPlain plain

/-! ### Client activity -/

/-- The mark of a client with interleaved transport while its request is handled. -/
def Client.pauseInterleaved (client : Client) : Client :=
  if client.transportMode = .tcp ∧ client.state = .playing then { client with state := .ready }
  else client

/-- The state from before the request is restored. -/
def Handled.restore (handled : Handled) (original : ClientState) : Client :=
  if handled.client.active ∧ 0 ≤ handled.result ∧ original = .playing ∧
      handled.client.state = .ready then
    { handled.client with state := original }
  else handled.client

/-- The amount that the handler has taken off the count of clients. -/
def Handled.count (handled : Handled) : ℤ := if handled.released then 1 else 0

/-- The body of the loop over the slots for one whose socket is ready, with the
amount taken off the count of clients. -/
def Client.serve (client : Client) (config : Config) (exchange : Exchange) :
    Option (Client × ℤ) := do
  let handled ← client.pauseInterleaved.handleClientConnection config exchange
  let restored := handled.restore client.state
  if handled.result < 0 then
    return (Client.cleanup { restored with active := false }, handled.count + 1)
  else return (restored, handled.count)

/-- A turn of the loop over the slots. -/
def serveSlot (config : Config) (requests : Slot → Option Exchange) (slot : Slot)
    (client : Client) : Option (Client × ℤ) :=
  match requests slot with
  | none => some (client, 0)
  | some exchange =>
    if client.active ∧ 0 ≤ client.socketFd then client.serve config exchange else some (client, 0)

/-- A loop over all slots. -/
def Server.sweep (server : Server) (f : Slot → Client → Option (Client × ℤ)) : Option Server :=
  (Slots.sweep f (List.finRange maxRtspClients) (server.clients, server.clientCount)).map fun r =>
    { server with clients := r.1, clientCount := r.2 }

/-! ### Timeouts and errors -/

/-- The client has been silent for longer than the session timeout, in 32-bit
microseconds. -/
def Client.expired (client : Client) (config : Config) (now : UInt32) : Bool :=
  client.active &&
    decide (UInt32.ofNat config.sessionTimeout * 1000000 < now - client.lastActivityUs)

/-- A turn of the loop for inactive clients. -/
def expireSlot (config : Config) (now : UInt32) (_ : Slot) (client : Client) :
    Option (Client × ℤ) :=
  if client.expired config now then some (client.cleanup, 1) else some (client, 0)

/-- The loop for invalid descriptors after a failed `select`. -/
def Server.dropInvalid (server : Server) (invalid : Slot → Bool) : Server :=
  { server with
    clients := fun i =>
      let client := server.clients i
      if client.active ∧ 0 ≤ client.socketFd ∧ invalid i then { client with active := false }
      else client }

/-! ### Iterations -/

/-- What `select` reports: a signal, an error with the slots whose descriptors are
invalid, a second without activity, or activity. The last comes with the
connections accepted, and with the exchanges of the slots whose sockets are
ready. -/
inductive Activity
  | interrupted
  | failed (invalid : Slot → Bool)
  | quiet (now : UInt32)
  | ready (plain : Option Connection) (tls : Option (Connection × Bool))
    (requests : Slot → Option Exchange)

/-- What a slot receives in an iteration. -/
def Activity.exchange (activity : Activity) (slot : Slot) : Option Exchange :=
  match activity with
  | .ready _ _ requests => requests slot
  | _ => none

/-- One iteration of `server_thread_func`. -/
def Server.iterate (server : Server) : Activity → Option Server
  | .interrupted => some server
  | .failed invalid => some (server.dropInvalid invalid)
  | .quiet now => server.sweep (expireSlot server.config now)
  | .ready plain tls requests =>
    (server.acceptNew plain tls).sweep (serveSlot server.config requests)

/-! ### A server with one stream -/

/-- One stream and no authentication. -/
def openConfig : Config where
  port := 554
  auth := ⟨false, false, .copy 64 size64_pos [], .copy 64 size64_pos []⟩
  maxClients := 8
  maxClients_pos := by decide
  maxClients_le := by decide
  sessionTimeout := 60
  sessionTimeout_pos := by decide
  sessionTimeout_lt := by decide
  tlsEnabled := false
  streams := [⟨0, .h264, 1920, 1080, 25, .copy 64 size64_pos (ascii "ch0"),
    .copy 128 size128_pos []⟩]
  serverIp := .copy 64 size64_pos (ascii "192.168.1.10")
  tableAddress := 0x00400000

/-- A connection from another host. -/
def viewerConnection : Connection := ⟨5, 0xC0A80102, 1000000, fun _ => 0, 1, 2, 3⟩

/-- The connection is accepted. -/
def acceptViewer : Activity := .ready (some viewerConnection) none fun _ => none

/-- A text is received, and all calls succeed. -/
def Exchange.receive (text : String) (hfits : (ascii text).length < maxRtspBufferSize) :
    Exchange :=
  ⟨some ⟨ascii text, hfits⟩, 2000000, some 0xC0A80102, 9, true, 7, 8, 2000000, 10⟩

/-- TEARDOWN, with a response that is sent. -/
def sentTeardown : Exchange :=
  .receive "TEARDOWN rtsp://192.168.1.10/ch0 RTSP/1.0\r\nCSeq: 4\r\n\r\n" (by decide)

/-- The text of a request that is not read any more. -/
theorem noText_fits : (ascii "").length < maxRtspBufferSize := by decide

/-- Only the first slot has something to receive. -/
def viewerSends (exchange : Exchange) : Activity :=
  .ready none none fun slot => if slot = 0 then some exchange else none

end Rtsp
