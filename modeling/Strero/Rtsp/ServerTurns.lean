import Strero.Rtsp.SlotAccounting

/-!
# Turns of the server thread

An iteration of the thread does one thing after another: it accepts connections, handles what
slots receive, or looks after slots that are silent or invalid.
-/

namespace Rtsp

/-- One thing that the thread does: it accepts a connection, with TLS or without, handles what
a slot receives, looks whether a slot has timed out, or drops slots with invalid descriptors. -/
inductive Turn
  | accept (connection : Connection)
  | acceptTls (connection : Connection) (handshake : Bool)
  | serve (slot : Slot) (exchange : Exchange)
  | expire (slot : Slot) (now : UInt32)
  | drop (invalid : Slot → Bool)

/-- A connection is refused, or gets a free slot, in which it has no socket for media and is
stamped. -/
def Server.Admitting (server : Server) (connection : Connection) (after : Server) : Prop :=
  server.slotForNew = none ∧ after = server ∨
    ∃ slot client, server.slotForNew = some slot ∧
      after.clients = Function.update server.clients slot client ∧ client.rtpSocketFd = -1 ∧
      client.lastActivityUs = connection.now

/-- A connection without TLS is admitted so. -/
theorem Server.acceptPlain_admitting (server : Server) (connection : Connection) :
    server.Admitting connection (server.acceptPlain (some connection)) := by
  unfold Server.acceptPlain
  dsimp only
  split
  · rename_i hslot
    exact .inl ⟨hslot, rfl⟩
  · rename_i hslot
    exact .inr ⟨_, _, hslot, rfl, rfl, rfl⟩

/-- A connection with TLS is admitted so, also if its handshake fails. -/
theorem Server.acceptTls_admitting (server : Server) (connection : Connection)
    (handshake : Bool) :
    server.Admitting connection (server.acceptTls (some (connection, handshake))) := by
  unfold Server.acceptTls
  dsimp only
  split
  · rename_i hslot
    exact .inl ⟨hslot, rfl⟩
  · rename_i hslot
    split
    · exact .inr ⟨_, _, hslot, rfl, rfl, rfl⟩
    · exact .inr ⟨_, _, hslot, rfl, rfl, rfl⟩

/-- One slot is visited. -/
def Server.visit (server : Server) (f : Slot → Client → Option (Client × ℤ)) (slot : Slot) :
    Option Server :=
  (f slot (server.clients slot)).map fun r =>
    { server with
      clients := Function.update server.clients slot r.1
      clientCount := server.clientCount - r.2 }

/-- What a turn does. -/
def Server.turn (server : Server) : Turn → Option Server
  | .accept connection => some (server.acceptPlain (some connection))
  | .acceptTls connection handshake => some (server.acceptTls (some (connection, handshake)))
  | .serve slot exchange => server.visit (serveSlot server.config fun _ => some exchange) slot
  | .expire slot now => server.visit (expireSlot server.config now) slot
  | .drop invalid => some (server.dropInvalid invalid)

/-- No turn changes the configuration. -/
theorem Server.turn_config {server after : Server} {turn : Turn}
    (h : server.turn turn = some after) : after.config = server.config := by
  cases turn with
  | accept connection =>
    obtain rfl := Option.some.inj h
    exact (server.acceptPlain_spec _).1
  | acceptTls connection handshake =>
    obtain rfl := Option.some.inj h
    exact (server.acceptTls_spec _).1
  | serve slot exchange =>
    obtain ⟨r, -, rfl⟩ := Option.map_eq_some_iff.mp h
    rfl
  | expire slot now =>
    obtain ⟨r, -, rfl⟩ := Option.map_eq_some_iff.mp h
    rfl
  | drop invalid =>
    obtain rfl := Option.some.inj h
    rfl

/-- What a turn makes of one slot: the slot stays, a connection gets it, a request is served, its
client is cleaned up, or it is dropped. -/
inductive Client.Turned (config : Config) (client : Client) : Client → Prop
  | same : Client.Turned config client client
  | accepted (connection : Connection) :
    Client.Turned config client ((client.accept connection).initRtp connection)
  | acceptedTls (connection : Connection) :
    Client.Turned config client ((client.accept connection).startTls.initRtp connection)
  | handshakeFailed (connection : Connection) :
    Client.Turned config client (client.accept connection)
  | served {exchange : Exchange} {after : Client} {k : ℤ}
    (h : client.serve config exchange = some (after, k)) : Client.Turned config client after
  | cleaned : Client.Turned config client client.cleanup
  | dropped : Client.Turned config client { client with active := false }

/-- A slot whose client is replaced so, among others that stay. -/
theorem Client.Turned.update {server : Server} {slot : Slot} {client : Client}
    (h : (server.clients slot).Turned server.config client) (other : Slot) :
    (server.clients other).Turned server.config
      (Function.update server.clients slot client other) := by
  rcases eq_or_ne other slot with rfl | hne
  · rw [Function.update_self]
    exact h
  · rw [Function.update_of_ne hne]
    exact .same

/-- Every turn does this to every slot. -/
theorem Server.turn_turned {server after : Server} {turn : Turn}
    (h : server.turn turn = some after) (slot : Slot) :
    (server.clients slot).Turned server.config (after.clients slot) := by
  cases turn with
  | accept connection =>
    obtain rfl := Option.some.inj h
    unfold Server.acceptPlain
    dsimp only
    split
    · exact .same
    · exact Client.Turned.update (.accepted connection) slot
  | acceptTls connection handshake =>
    obtain rfl := Option.some.inj h
    unfold Server.acceptTls
    dsimp only
    split
    · exact .same
    · split
      · exact Client.Turned.update (.acceptedTls connection) slot
      · exact Client.Turned.update (.handshakeFailed connection) slot
  | serve visited exchange =>
    obtain ⟨⟨client, k⟩, hvisit, rfl⟩ := Option.map_eq_some_iff.mp h
    unfold serveSlot at hvisit
    dsimp only at hvisit
    refine Client.Turned.update ?_ slot
    split_ifs at hvisit
    · exact .served hvisit
    · obtain ⟨rfl, -⟩ := Prod.mk.inj (Option.some.inj hvisit)
      exact .same
  | expire visited now =>
    obtain ⟨⟨client, k⟩, hvisit, rfl⟩ := Option.map_eq_some_iff.mp h
    unfold expireSlot at hvisit
    refine Client.Turned.update ?_ slot
    split_ifs at hvisit
    · obtain ⟨rfl, -⟩ := Prod.mk.inj (Option.some.inj hvisit)
      exact .cleaned
    · obtain ⟨rfl, -⟩ := Prod.mk.inj (Option.some.inj hvisit)
      exact .same
  | drop invalid =>
    obtain rfl := Option.some.inj h
    unfold Server.dropInvalid
    dsimp only
    split
    · exact .dropped
    · exact .same

/-- The turns of an iteration. -/
def Activity.turns (tlsEnabled : Bool) : Activity → List Turn
  | .interrupted => []
  | .failed invalid => [.drop invalid]
  | .quiet now => (List.finRange maxRtspClients).map (.expire · now)
  | .ready plain tls requests =>
    plain.toList.map .accept ++
      (if tlsEnabled then tls.toList.map fun attempt => .acceptTls attempt.1 attempt.2 else []) ++
      (List.finRange maxRtspClients).filterMap fun slot => (requests slot).map (.serve slot)

/-- A loop over slots visits them one after another. -/
theorem Server.sweep_eq_visits (server : Server) (f : Slot → Client → Option (Client × ℤ))
    (slots : List Slot) :
    (Slots.sweep f slots (server.clients, server.clientCount)).map (fun r =>
      { server with clients := r.1, clientCount := r.2 }) =
      slots.foldlM (fun server slot => server.visit f slot) server := by
  induction slots generalizing server with
  | nil => rfl
  | cons slot slots ih =>
    rw [List.foldlM_cons, Server.visit, Slots.sweep, List.foldlM_cons, Slots.visit]
    dsimp only
    cases f slot (server.clients slot) with
    | none => rfl
    | some r =>
      exact ih { server with
        clients := Function.update server.clients slot r.1
        clientCount := server.clientCount - r.2 }

/-- Visits that follow the configuration find it unchanged. -/
theorem Server.visits_config (f : Config → Slot → Client → Option (Client × ℤ))
    (server : Server) (slots : List Slot) :
    slots.foldlM (fun server slot => server.visit (f server.config) slot) server =
      slots.foldlM (fun visited slot => visited.visit (f server.config) slot) server := by
  induction slots generalizing server with
  | nil => rfl
  | cons slot slots ih =>
    rw [List.foldlM_cons, List.foldlM_cons]
    refine Option.bind_congr fun next hnext => ?_
    obtain ⟨r, -, rfl⟩ := Option.map_eq_some_iff.mp hnext
    exact ih _

/-- A slot without anything to receive is left as it is. -/
theorem Server.visit_idle (server : Server) {requests : Slot → Option Exchange} {slot : Slot}
    (hidle : requests slot = none) :
    server.visit (serveSlot server.config requests) slot = some server := by
  rw [Server.visit, serveSlot, hidle, Option.map_some, Function.update_eq_self, sub_zero]

/-- New connections do not change the configuration. -/
theorem Server.acceptNew_config (server : Server) (plain : Option Connection)
    (tls : Option (Connection × Bool)) :
    (server.acceptNew plain tls).config = server.config := by
  have hplain := (server.acceptPlain_spec plain).1
  unfold Server.acceptNew
  split
  · exact ((server.acceptPlain plain).acceptTls_spec tls).1.trans hplain
  · exact hplain

/-- An iteration is its turns, one after another. -/
theorem Server.iterate_eq_turns (server : Server) (activity : Activity) :
    server.iterate activity =
      (activity.turns server.config.tlsEnabled).foldlM Server.turn server := by
  have hsweep : ∀ (server : Server) (f : Config → Slot → Client → Option (Client × ℤ)),
      server.sweep (f server.config) = (List.finRange maxRtspClients).foldlM
        (fun server slot => server.visit (f server.config) slot) server :=
    fun server f => (server.sweep_eq_visits _ _).trans (Server.visits_config f server _).symm
  cases activity with
  | interrupted => rfl
  | failed invalid => rfl
  | quiet now =>
    rw [Activity.turns, List.foldlM_map]
    exact hsweep server fun config => expireSlot config now
  | ready plain tls requests =>
    have hserved : ∀ server : Server, server.sweep (serveSlot server.config requests) =
        ((List.finRange maxRtspClients).filterMap fun slot =>
          (requests slot).map (.serve slot)).foldlM Server.turn server := by
      intro server
      rw [List.foldlM_filterMap, hsweep server fun config => serveSlot config requests]
      congr 1
      funext server slot
      cases hslot : requests slot with
      | none => exact server.visit_idle hslot
      | some exchange =>
        rw [Option.map_some]
        dsimp only
        rw [Server.turn, Server.visit, Server.visit, serveSlot, serveSlot, hslot]
    have haccepted : (plain.toList.map Turn.accept ++
        (if server.config.tlsEnabled then
          tls.toList.map fun attempt => Turn.acceptTls attempt.1 attempt.2
        else [])).foldlM Server.turn server = some (server.acceptNew plain tls) := by
      rw [List.foldlM_append]
      have hplain : (plain.toList.map Turn.accept).foldlM Server.turn server =
          some (server.acceptPlain plain) := by
        cases plain <;> rfl
      rw [hplain, Server.acceptNew]
      cases server.config.tlsEnabled <;> cases tls <;> rfl
    rw [Activity.turns, List.foldlM_append, haccepted, Server.iterate, Option.bind_eq_bind,
      Option.bind_some, ← server.acceptNew_config plain tls]
    exact hserved (server.acceptNew plain tls)

end Rtsp
