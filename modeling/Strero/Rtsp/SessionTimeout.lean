import Strero.Lib.Runs
import Strero.Rtsp.ServerTurns
import Strero.Rtsp.SlotReuse

/-!
# The session timeout

A client is cleaned up when the thread finds that it has been silent for longer than the
session timeout. Interleaved media do not count as a sign of life, and the comparison is made
in microseconds of 32 bits. The exact condition on the times at which bytes have come is
given for whole runs.
-/

namespace Rtsp

open CString

/-! ### The stamp of the last activity -/

section Stamp

variable {client after : Client} {config : Config} {exchange : Exchange} {request : Request}

/-- A response does not count as activity. -/
theorem Client.sendRtspResponse_lastActivityUs (client : Client) (exchange : Exchange)
    (statusCode : ℕ) (statusText : String) (headers : List UInt8) (body : Option (List UInt8)) :
    (client.sendRtspResponse exchange statusCode statusText headers body).1.lastActivityUs =
      client.lastActivityUs := by
  unfold Client.sendRtspResponse
  split <;> rfl

/-- SETUP does not stamp the slot. -/
theorem Client.handleSetupRequest_lastActivityUs (client : Client) (config : Config)
    (exchange : Exchange) (url transport : List UInt8) :
    (client.handleSetupRequest config exchange url transport).1.lastActivityUs =
      client.lastActivityUs := by
  unfold Client.handleSetupRequest
  split
  · exact Client.sendRtspResponse_lastActivityUs _ _ _ _ _ _
  · rename_i stream trackId _
    have hselected : (client.selectStream stream trackId).lastActivityUs =
        client.lastActivityUs := by
      unfold Client.selectStream
      split <;> rfl
    rw [← hselected]
    dsimp only
    split
    · unfold Client.setupTcpTransport Client.finishSetup
      dsimp only
      split <;> exact Client.sendRtspResponse_lastActivityUs _ _ _ _ _ _
    · unfold Client.setupUdpTransport Client.finishSetup
      dsimp only
      split
      · exact Client.sendRtspResponse_lastActivityUs _ _ _ _ _ _
      · split <;> exact Client.sendRtspResponse_lastActivityUs _ _ _ _ _ _

/-- No handler stamps the slot. -/
theorem Client.handleRequest_lastActivityUs (client : Client) (config : Config)
    (exchange : Exchange) (request : Request) :
    (client.handleRequest config exchange request).client.lastActivityUs =
      client.lastActivityUs := by
  by_cases hsetup : request.method = .setup
  · rw [Client.handleRequest, hsetup]
    exact client.handleSetupRequest_lastActivityUs config exchange _ _
  by_cases hteardown : request.method = .teardown
  · rw [Client.handleRequest, hteardown]
    exact Client.sendRtspResponse_lastActivityUs _ _ _ _ _ _
  obtain ⟨_, _, _, _, _, _, _, hwritten⟩ :=
    client.handleRequest_writes config exchange hsetup hteardown
  rw [hwritten]

/-- Bytes have come. -/
def Exchange.bringsBytes (exchange : Exchange) : Prop :=
  ∃ received ∈ exchange.received, received.val ≠ []

instance (exchange : Exchange) : Decidable exchange.bringsBytes :=
  inferInstanceAs (Decidable (∃ received ∈ exchange.received, _))

/-- Interleaved media are bytes. -/
theorem Client.sendsInterleaved.bringsBytes (h : client.sendsInterleaved exchange) :
    exchange.bringsBytes := by
  obtain ⟨received, hreceived, hhead⟩ := h
  refine ⟨received, hreceived, fun hempty => ?_⟩
  rw [hempty, client.extractTeardown_nil] at hhead
  cases hhead

/-- So is a request. -/
theorem Client.bringsBytes_of_ownRequest (h : client.ownRequest exchange = some request) :
    exchange.bringsBytes := by
  obtain ⟨received, hreceived, hparse⟩ := Option.bind_eq_some_iff.mp h
  refine ⟨received, hreceived, fun hempty => ?_⟩
  dsimp only at hparse
  rw [hempty, client.extractTeardown_nil, parseRtspRequest_nil] at hparse
  cases hparse

/-- A client that stays has sent bytes, and is stamped unless they are interleaved media. -/
theorem Client.serve_lastActivityUs {k : ℤ}
    (hserve : client.serve config exchange = some (after, k))
    (hkept : after.active = true) :
    exchange.bringsBytes ∧ after.lastActivityUs =
      if client.sendsInterleaved exchange then client.lastActivityUs else exchange.now := by
  obtain ⟨handled, hhandled, hafter⟩ := Client.serve_cases hserve
  have hpaused : client.pauseInterleaved.lastActivityUs = client.lastActivityUs ∧
      (client.pauseInterleaved.sendsInterleaved exchange ↔ client.sendsInterleaved exchange) := by
    unfold Client.pauseInterleaved
    split
    · exact ⟨rfl, Iff.rfl⟩
    · exact ⟨rfl, Iff.rfl⟩
  rcases hafter with ⟨-, hfreed, -⟩ | ⟨hresult, rfl, -⟩
  · rw [hfreed] at hkept
    cases hkept
  rw [Handled.restore_active] at hkept
  have hrestored : (handled.restore client.state).lastActivityUs =
      handled.client.lastActivityUs := by
    unfold Handled.restore
    split <;> rfl
  have hfailure : ¬(0 : ℤ) ≤ -1 := by decide
  have hrequest : ∀ request, client.pauseInterleaved.ownRequest exchange = some request →
      exchange.bringsBytes ∧ ¬client.sendsInterleaved exchange := by
    intro request hown
    refine ⟨Client.bringsBytes_of_ownRequest hown, fun hinterleaved => ?_⟩
    rw [Client.ownRequest_of_sendsInterleaved (hpaused.2.mpr hinterleaved)] at hown
    cases hown
  rw [hrestored]
  cases Client.handleClientConnection_reads hhandled with
  | interleaved hinterleaved =>
    refine ⟨hinterleaved.bringsBytes, ?_⟩
    rw [if_pos (hpaused.2.mp hinterleaved)]
    exact hpaused.1
  | noRequest lastActivityUs hother hown => exact absurd hresult hfailure
  | noPeer request hown hpeer hmethod => exact absurd hresult hfailure
  | denied request hown hpeer hcheck statusCode statusText headers hstatus =>
    obtain ⟨hbytes, hother⟩ := hrequest request hown
    rw [if_neg hother]
    exact ⟨hbytes, Client.sendRtspResponse_lastActivityUs _ _ _ _ _ _⟩
  | served request hown hpasses =>
    obtain ⟨hbytes, hother⟩ := hrequest request hown
    rw [if_neg hother]
    exact ⟨hbytes, Client.handleRequest_lastActivityUs _ config exchange request⟩

end Stamp

/-! ### The times at which something comes -/

/-- A turn during which the clock shows a time. -/
def Turn.clocked (now : UInt32) : Turn → Turn
  | .accept connection => .accept { connection with now := now }
  | .acceptTls connection handshake => .acceptTls { connection with now := now } handshake
  | .serve slot exchange => .serve slot { exchange with now := now }
  | .expire slot _ => .expire slot now
  | .drop invalid => .drop invalid

/-- The times at which bytes have come on a connection, and the last time that counts: when
something other than interleaved media has come, or the connection itself. -/
structure Hearing where
  arrivals : List ℕ
  counted : ℕ

/-- The server at a time in microseconds, with what has come on the connection of each slot. -/
structure Watch where
  server : Server
  time : ℕ
  hearing : Slot → Hearing

/-- The server has been created. -/
def Watch.start (config : Config) (time : ℕ) : Watch :=
  ⟨.create config, time, fun _ => ⟨[], time⟩⟩

/-- Time passes, the thread takes a turn, or a frame is offered to a slot. -/
inductive WatchEvent
  | elapse (us : ℕ)
  | turn (turn : Turn)
  | deliver (slot : Slot) (net : Network) (clock : RtpClock) (frame : LiveFrame)

/-- What has come after a turn. -/
def Watch.hear (w : Watch) : Turn → Slot → Hearing
  | .accept _ | .acceptTls _ _ =>
    match w.server.slotForNew with
    | none => w.hearing
    | some slot => Function.update w.hearing slot ⟨[], w.time⟩
  | .serve slot exchange =>
    let client := w.server.clients slot
    let heard := w.hearing slot
    if client.active ∧ 0 ≤ client.socketFd ∧ exchange.bringsBytes then
      Function.update w.hearing slot
        ⟨w.time :: heard.arrivals,
          if client.sendsInterleaved exchange then heard.counted else w.time⟩
    else w.hearing
  | .expire _ _ | .drop _ => w.hearing

/-- One event. The clock of the server is an unsigned long. -/
def Watch.step (w : Watch) : WatchEvent → Option Watch
  | .elapse us => some { w with time := w.time + us }
  | .turn turn => (w.server.turn (turn.clocked (UInt32.ofNat w.time))).map fun after =>
    { w with server := after, hearing := w.hear turn }
  | .deliver slot net clock frame =>
    (w.server.happen (.deliver slot net clock frame)).map fun after => { w with server := after }

/-- The session timeout in microseconds. -/
def Config.timeoutUs (config : Config) : ℕ := config.sessionTimeout * 1000000

/-- If a timeout frees a slot, no bytes have come on its connection for that long. -/
def Watch.FreesSilent (before : Watch) (event : WatchEvent) (after : Watch) : Prop :=
  match event with
  | .turn (.expire slot _) => (before.server.clients slot).InUse →
    ¬(after.server.clients slot).InUse →
      ∀ t ∈ (before.hearing slot).arrivals, t + before.server.config.timeoutUs < before.time
  | _ => True

instance (before : Watch) : (event : WatchEvent) → (after : Watch) →
    Decidable (before.FreesSilent event after)
  | .turn (.expire _ _), _ => inferInstanceAs (Decidable (_ → _ → _))
  | .turn (.accept _), _ | .turn (.acceptTls _ _), _ | .turn (.serve _ _), _ | .turn (.drop _), _
  | .elapse _, _ | .deliver _ _ _ _, _ => inferInstanceAs (Decidable True)

/-- When the thread looks at a slot on whose connection bytes have come in time, what counts
is not too long ago in 32 bits. -/
def Watch.Agrees (w : Watch) : WatchEvent → Prop
  | .turn (.expire slot _) => (w.server.clients slot).InUse →
    (∃ t ∈ (w.hearing slot).arrivals, w.time ≤ t + w.server.config.timeoutUs) →
      (w.time - (w.hearing slot).counted) % 2 ^ 32 ≤ w.server.config.timeoutUs % 2 ^ 32
  | _ => True

/-- The slots in use are stamped with the last time that counts. -/
def Watch.Stamped (w : Watch) : Prop :=
  ∀ slot, (w.server.clients slot).InUse →
    (w.server.clients slot).lastActivityUs = UInt32.ofNat (w.hearing slot).counted ∧
      (w.hearing slot).counted ≤ w.time

/-! ### The comparison -/

variable {w after : Watch} {event : WatchEvent}

/-- A client has expired if the time since the last that counts is longer than the timeout,
both modulo 32 bits. -/
theorem Client.expired_iff {client : Client} {config : Config} {time counted : ℕ}
    (huse : client.InUse) (hstamp : client.lastActivityUs = UInt32.ofNat counted)
    (hle : counted ≤ time) :
    client.expired config (UInt32.ofNat time) = true ↔
      config.timeoutUs % 2 ^ 32 < (time - counted) % 2 ^ 32 := by
  have hmillion : (1000000 : UInt32).toNat = 1000000 := rfl
  rw [Client.expired, huse, hstamp, Bool.true_and, decide_eq_true_eq, UInt32.lt_iff_toNat_lt,
    UInt32.toNat_mul, UInt32.toNat_sub, UInt32.toNat_ofNat', UInt32.toNat_ofNat',
    UInt32.toNat_ofNat', hmillion, Config.timeoutUs]
  have hproduct : config.sessionTimeout % 2 ^ 32 * 1000000 % 2 ^ 32 =
      config.sessionTimeout * 1000000 % 2 ^ 32 := by omega
  have helapsed : (2 ^ 32 - counted % 2 ^ 32 + time % 2 ^ 32) % 2 ^ 32 =
      (time - counted) % 2 ^ 32 := by omega
  rw [hproduct, helapsed]

/-- A slot that is stamped in the other slots' place. -/
theorem Watch.Stamped.update (h : w.Stamped) {slot : Slot} {client : Client} {heard : Hearing}
    (hclients : after.server.clients = Function.update w.server.clients slot client)
    (hhearing : after.hearing = Function.update w.hearing slot heard)
    (htime : after.time = w.time)
    (hstamp : client.InUse →
      client.lastActivityUs = UInt32.ofNat heard.counted ∧ heard.counted ≤ w.time) :
    after.Stamped := by
  intro other huse
  rw [hclients] at huse ⊢
  rw [hhearing, htime]
  by_cases hother : other = slot
  · subst hother
    rw [Function.update_self] at huse ⊢
    rw [Function.update_self]
    exact hstamp huse
  · rw [Function.update_of_ne hother] at huse ⊢
    rw [Function.update_of_ne hother]
    exact h other huse

/-- A new connection is stamped with the time. -/
theorem Watch.Stamped.admit (h : w.Stamped) {connection : Connection} {server : Server}
    (hadmitted : w.server.Admitting connection server)
    (hnow : connection.now = UInt32.ofNat w.time) :
    Watch.Stamped { w with
      server := server
      hearing := match w.server.slotForNew with
        | none => w.hearing
        | some slot => Function.update w.hearing slot ⟨[], w.time⟩ } := by
  rcases hadmitted with ⟨hslot, rfl⟩ | ⟨slot, client, hslot, hclients, -, hstamp⟩
  · rw [hslot]
    exact h
  · rw [hslot]
    exact h.update hclients rfl rfl fun _ => ⟨hstamp.trans hnow, le_refl _⟩

/-- What a slot receives stamps it as it is heard. -/
theorem Watch.Stamped.serve (h : w.Stamped) {slot : Slot} {exchange : Exchange}
    {client : Client} {k : ℤ} {server : Server}
    (hserve : serveSlot w.server.config
      (fun _ => some { exchange with now := UInt32.ofNat w.time }) slot (w.server.clients slot) =
        some (client, k))
    (hclients : server.clients = Function.update w.server.clients slot client) :
    Watch.Stamped { w with server := server, hearing := w.hear (.serve slot exchange) } := by
  have hsame : w.hearing = Function.update w.hearing slot (w.hearing slot) :=
    (Function.update_eq_self slot w.hearing).symm
  unfold serveSlot at hserve
  dsimp only at hserve
  split_ifs at hserve with hready
  · by_cases hbytes : exchange.bringsBytes
    · have hheard : w.hear (.serve slot exchange) = Function.update w.hearing slot
          ⟨w.time :: (w.hearing slot).arrivals,
            if (w.server.clients slot).sendsInterleaved exchange then (w.hearing slot).counted
            else w.time⟩ := if_pos ⟨hready.1, hready.2, hbytes⟩
      refine h.update hclients hheard rfl fun huse => ?_
      have hstamp := (Client.serve_lastActivityUs hserve huse).2
      by_cases hinterleaved : (w.server.clients slot).sendsInterleaved exchange
      · rw [if_pos hinterleaved]
        exact ⟨(hstamp.trans (if_pos hinterleaved)).trans (h slot hready.1).1,
          (h slot hready.1).2⟩
      · rw [if_neg hinterleaved]
        exact ⟨hstamp.trans (if_neg hinterleaved), le_refl _⟩
    · have hheard : w.hear (.serve slot exchange) = w.hearing := if_neg fun hall => hbytes hall.2.2
      refine h.update hclients (hheard.trans hsame) rfl fun huse => ?_
      exact absurd (Client.serve_lastActivityUs hserve huse).1 hbytes
  · obtain ⟨rfl, rfl⟩ := Prod.mk.inj (Option.some.inj hserve)
    have hheard : w.hear (.serve slot exchange) = w.hearing :=
      if_neg fun hall => hready ⟨hall.1, hall.2.1⟩
    exact h.update hclients (hheard.trans hsame) rfl fun huse => h slot huse

/-- Whatever happens, the slots in use stay stamped. -/
theorem Watch.Stamped.step (h : w.Stamped) (hstep : w.step event = some after) :
    after.Stamped := by
  cases event with
  | elapse us =>
    obtain rfl := Option.some.inj hstep
    exact fun slot huse => ⟨(h slot huse).1, (h slot huse).2.trans (Nat.le_add_right _ _)⟩
  | deliver slot net clock frame =>
    obtain ⟨server, hserver, rfl⟩ := Option.map_eq_some_iff.mp hstep
    obtain ⟨r, hr, rfl⟩ := Option.map_eq_some_iff.mp hserver
    obtain ⟨rtpSeq, needsIdr, hclient⟩ := offerFrame_client hr
    have hsame : w.hearing = Function.update w.hearing slot (w.hearing slot) :=
      (Function.update_eq_self slot w.hearing).symm
    refine h.update rfl hsame rfl fun huse => ?_
    rw [hclient] at huse ⊢
    exact h slot huse
  | turn turn =>
    obtain ⟨server, hturn, rfl⟩ := Option.map_eq_some_iff.mp hstep
    cases turn with
    | accept connection =>
      obtain rfl := Option.some.inj hturn
      exact h.admit (w.server.acceptPlain_admitting _) rfl
    | acceptTls connection handshake =>
      obtain rfl := Option.some.inj hturn
      exact h.admit (w.server.acceptTls_admitting _ handshake) rfl
    | serve slot exchange =>
      obtain ⟨⟨client, k⟩, hserve, rfl⟩ := Option.map_eq_some_iff.mp hturn
      exact h.serve hserve rfl
    | expire slot now =>
      obtain ⟨⟨client, k⟩, hexpire, rfl⟩ := Option.map_eq_some_iff.mp hturn
      have hsame : w.hearing = Function.update w.hearing slot (w.hearing slot) :=
        (Function.update_eq_self slot w.hearing).symm
      refine h.update rfl hsame rfl fun huse => ?_
      unfold expireSlot at hexpire
      split_ifs at hexpire
      · obtain ⟨rfl, rfl⟩ := Prod.mk.inj (Option.some.inj hexpire)
        cases huse
      · obtain ⟨rfl, rfl⟩ := Prod.mk.inj (Option.some.inj hexpire)
        exact h slot huse
    | drop invalid =>
      obtain rfl := Option.some.inj hturn
      intro slot huse
      unfold Server.dropInvalid at huse ⊢
      dsimp only at huse ⊢
      by_cases hdropped : (w.server.clients slot).active = true ∧
          0 ≤ (w.server.clients slot).socketFd ∧ invalid slot = true
      · rw [if_pos hdropped] at huse
        cases huse
      · rw [if_neg hdropped] at huse ⊢
        exact h slot huse

/-- The look at a slot frees one that has expired. -/
theorem Watch.step_expire {slot : Slot} {now : UInt32}
    (hstep : w.step (.turn (.expire slot now)) = some after)
    (huse : (w.server.clients slot).InUse) :
    ¬(after.server.clients slot).InUse ↔
      (w.server.clients slot).expired w.server.config (UInt32.ofNat w.time) = true := by
  obtain ⟨server, hturn, rfl⟩ := Option.map_eq_some_iff.mp hstep
  obtain ⟨⟨client, k⟩, hexpire, rfl⟩ := Option.map_eq_some_iff.mp hturn
  dsimp only
  rw [Function.update_self]
  unfold expireSlot at hexpire
  split_ifs at hexpire with hexpired
  · obtain ⟨rfl, rfl⟩ := Prod.mk.inj (Option.some.inj hexpire)
    exact iff_of_true nofun hexpired
  · obtain ⟨rfl, rfl⟩ := Prod.mk.inj (Option.some.inj hexpire)
    exact iff_of_false (not_not.mpr huse) hexpired

/-- While the slots are stamped, a timeout frees none whose connection has brought bytes in
time if and only if the two comparisons agree. -/
theorem Watch.Stamped.freesSilent_iff (h : w.Stamped) (hstep : w.step event = some after) :
    w.FreesSilent event after ↔ w.Agrees event := by
  unfold Watch.FreesSilent Watch.Agrees
  split
  · rename_i slot now
    refine imp_congr_right fun huse => ?_
    obtain ⟨hstamp, hle⟩ := h slot huse
    rw [Watch.step_expire hstep huse, Client.expired_iff huse hstamp hle]
    constructor
    · rintro hsilent ⟨t, ht, hlate⟩
      by_contra hexpired
      exact absurd (hsilent (not_le.mp hexpired) t ht) (not_lt.mpr hlate)
    · intro hagrees hexpired t ht
      by_contra hlate
      exact absurd (hagrees ⟨t, ht, not_lt.mp hlate⟩) (not_le.mpr hexpired)
  · exact Iff.rfl

/-- A server that has been created has no slot in use. -/
theorem Watch.start_stamped (config : Config) (time : ℕ) : (Watch.start config time).Stamped :=
  nofun

/-! ### Clients without interleaved media -/

/-- What a slot receives is not interleaved media. -/
def Watch.Counts (w : Watch) : WatchEvent → Prop
  | .turn (.serve slot exchange) => ¬(w.server.clients slot).sendsInterleaved exchange
  | _ => True

/-- Everything that has come counts. -/
def Watch.AllCounted (w : Watch) : Prop :=
  ∀ slot, (∀ t ∈ (w.hearing slot).arrivals, t ≤ (w.hearing slot).counted) ∧
    (w.hearing slot).counted ≤ w.time

/-- Without interleaved media, it goes on so. -/
theorem Watch.AllCounted.step (h : w.AllCounted) (hcounts : w.Counts event)
    (hstep : w.step event = some after) : after.AllCounted := by
  have hupdate : ∀ slot arrivals, (∀ t ∈ arrivals, t ≤ w.time) → ∀ other,
      (∀ t ∈ (Function.update w.hearing slot ⟨arrivals, w.time⟩ other).arrivals,
        t ≤ (Function.update w.hearing slot ⟨arrivals, w.time⟩ other).counted) ∧
      (Function.update w.hearing slot ⟨arrivals, w.time⟩ other).counted ≤ w.time := by
    intro slot arrivals hall other
    by_cases hother : other = slot
    · subst hother
      rw [Function.update_self]
      exact ⟨hall, le_refl _⟩
    · rw [Function.update_of_ne hother]
      exact h other
  cases event with
  | elapse us =>
    obtain rfl := Option.some.inj hstep
    exact fun slot => ⟨(h slot).1, (h slot).2.trans (Nat.le_add_right _ _)⟩
  | deliver slot net clock frame =>
    obtain ⟨server, -, rfl⟩ := Option.map_eq_some_iff.mp hstep
    exact h
  | turn turn =>
    obtain ⟨server, -, rfl⟩ := Option.map_eq_some_iff.mp hstep
    cases turn with
    | accept connection =>
      intro other
      unfold Watch.hear
      cases w.server.slotForNew with
      | none => exact h other
      | some slot => exact hupdate slot [] nofun other
    | acceptTls connection handshake =>
      intro other
      unfold Watch.hear
      cases w.server.slotForNew with
      | none => exact h other
      | some slot => exact hupdate slot [] nofun other
    | serve slot exchange =>
      have harrived : ∀ t ∈ w.time :: (w.hearing slot).arrivals, t ≤ w.time := by
        rw [List.forall_mem_cons]
        exact ⟨le_refl _, fun t ht => ((h slot).1 t ht).trans (h slot).2⟩
      intro other
      unfold Watch.hear
      dsimp only
      split
      · rw [if_neg hcounts]
        exact hupdate slot _ harrived other
      · exact h other
    | expire slot now => exact h
    | drop invalid => exact h

/-- With a timeout that fits, the comparisons agree if everything counts. -/
theorem Watch.AllCounted.agrees (h : w.AllCounted) (htimeout : w.server.config.timeoutUs < 2 ^ 32)
    (event : WatchEvent) : w.Agrees event := by
  unfold Watch.Agrees
  split
  · rintro - ⟨t, ht, hlate⟩
    have hcounted := (h _).1 t ht
    rw [Nat.mod_eq_of_lt htimeout]
    exact (Nat.mod_le _ _).trans (by omega)
  · trivial

/-- No event changes the configuration. -/
theorem Watch.step_config (hstep : w.step event = some after) :
    after.server.config = w.server.config := by
  cases event with
  | elapse us =>
    obtain rfl := Option.some.inj hstep
    rfl
  | turn turn =>
    obtain ⟨server, hturn, rfl⟩ := Option.map_eq_some_iff.mp hstep
    exact Server.turn_config hturn
  | deliver slot net clock frame =>
    obtain ⟨server, hserver, rfl⟩ := Option.map_eq_some_iff.mp hstep
    obtain ⟨r, -, rfl⟩ := Option.map_eq_some_iff.mp hserver
    rfl

/-- With a timeout of less than 4295 seconds, no client that sends requests only is freed
early. -/
theorem Watch.freesSilent_of_counts {config : Config} (htimeout : config.sessionTimeout < 4295)
    {time : ℕ} {events : List WatchEvent}
    (h : Runs.Each Watch.step (fun before event _ => before.Counts event)
      (Watch.start config time) events) :
    Runs.Each Watch.step Watch.FreesSilent (Watch.start config time) events := by
  have hfits : config.timeoutUs < 2 ^ 32 := by
    unfold Config.timeoutUs
    omega
  have hstart : (Watch.start config time).AllCounted := fun _ => ⟨nofun, le_refl _⟩
  have hgoesOn : ∀ (before : Watch) (event : WatchEvent) (after : Watch),
      before.Stamped ∧ before.AllCounted ∧ before.server.config = config →
      before.step event = some after → before.Counts event →
      before.FreesSilent event after ∧
        after.Stamped ∧ after.AllCounted ∧ after.server.config = config := by
    rintro before event after ⟨hstamped, hcounted, hconfig⟩ hstep hcounts
    refine ⟨?_, hstamped.step hstep, hcounted.step hcounts hstep,
      (Watch.step_config hstep).trans hconfig⟩
    exact (hstamped.freesSilent_iff hstep).mpr (hcounted.agrees (hconfig ▸ hfits) event)
  exact h.imp hgoesOn ⟨Watch.start_stamped config time, hstart, rfl⟩

/-! ### All runs -/

/-- A slot is freed by a timeout only if no bytes have come on its connection for that long,
in exactly those runs in which the comparisons agree whenever bytes have come in time. -/
theorem Watch.freesSilent_iff_agrees (config : Config) (time : ℕ) (events : List WatchEvent) :
    Runs.Each Watch.step Watch.FreesSilent (Watch.start config time) events ↔
      Runs.Each Watch.step (fun before event _ => before.Agrees event) (Watch.start config time)
        events := by
  refine Runs.each_congr Watch.Stamped ?_ ?_ (Watch.start_stamped config time)
  · intro before event after h hstep
    exact h.freesSilent_iff hstep
  · intro before event after h hstep _
    exact h.step hstep

/-- A client sends a report on its interleaved channel. -/
def interleavedReport : Exchange := .receive "$\x01\x00\x00" (by decide)

/-- A client sets interleaved channels up, and sends a report 50 seconds later. The thread
looks at its slot after 11 more. -/
def reportInTime : List WatchEvent :=
  [.turn (.accept viewerConnection), .turn (.serve 0 setupChannels), .elapse 50000000,
    .turn (.serve 0 interleavedReport), .elapse 11000000, .turn (.expire 0 0)]

/-- The client is freed although it was heard in the 60 seconds before. -/
theorem Watch.not_freesSilent_reportInTime :
    ¬∀ (config : Config) (time : ℕ) (events : List WatchEvent),
      Runs.Each Watch.step Watch.FreesSilent (Watch.start config time) events := by
  intro hall
  have hrun := hall openConfig 0 reportInTime
  exact absurd hrun (by decide +kernel)

end Rtsp
