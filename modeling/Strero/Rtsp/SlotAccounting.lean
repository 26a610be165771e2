import Strero.Lib.Runs
import Strero.Rtsp.RequestEffects

/-!
# The count of clients

The server refuses a connection by its count of clients. The count is that of the
active slots in every state of exactly those runs in which no step lets the two
drift apart: by a failed handshake, by a TEARDOWN whose response cannot be sent, or
by an invalid descriptor.
-/

namespace Rtsp

open CString AuthUtils

/-- The number of active slots. -/
def Server.activeCount (server : Server) : ℕ := Slots.occupied Client.InUse server.clients

/-- The number of active slots less the count of clients. -/
def Server.drift (server : Server) : ℤ :=
  Slots.drift Client.InUse (server.clients, server.clientCount)

/-- While there are fewer active slots than clients allowed, a connection gets a slot. -/
def Server.Admits (server : Server) : Prop :=
  (server.activeCount : ℤ) < server.config.maxClients → server.slotForNew.isSome = true

/-- The count is that of the active slots, and neither is out of bounds. A connection
is refused at neither of the two places of the iteration unless the limit is reached. -/
structure Server.Accounted (server : Server) : Prop where
  count_eq : server.clientCount = server.activeCount
  count_nonneg : 0 ≤ server.clientCount
  count_le : server.clientCount ≤ maxRtspClients
  active_le : (server.activeCount : ℤ) ≤ server.config.maxClients
  admits : server.Admits
  admitsNext : ∀ plain, (server.acceptPlain plain).Admits

variable {server after : Server}

theorem Server.drift_eq (server : Server) :
    server.drift = server.activeCount - server.clientCount := rfl

/-! ### New connections -/

/-- A slot is found unless the count or the table is full. -/
theorem Server.slotForNew_isSome (hcount : server.clientCount < server.config.maxClients)
    (hactive : server.activeCount < maxRtspClients) : server.slotForNew.isSome = true := by
  obtain ⟨slot, hfree⟩ : ∃ slot, ¬(server.clients slot).InUse :=
    Slots.exists_free (by simpa [Server.activeCount] using hactive)
  rw [Server.slotForNew, if_neg (not_le.mpr hcount), Server.findFreeClientSlot, List.find?_isSome]
  exact ⟨slot, List.mem_finRange slot, by simpa using hfree⟩

/-- A client in a free slot is one more. -/
theorem Server.activeCount_fill {slot : Slot} {client : Client}
    (hclients : after.clients = Function.update server.clients slot client)
    (hfree : ¬(server.clients slot).InUse) (hclient : client.InUse) :
    after.activeCount = server.activeCount + 1 := by
  have hupdate := Slots.occupied_update (p := Client.InUse) server.clients slot client
  rw [Slots.use_of_pos hclient, Slots.use_of_neg hfree, ← hclients] at hupdate
  exact hupdate

/-- A client that is counted in a free slot leaves the drift as it was, and room for no
more than are allowed. -/
theorem Server.occupy_spec (server : Server) {slot : Slot} (client : Client)
    (hslot : server.slotForNew = some slot) (hclient : client.InUse) :
    (server.occupy slot client).drift = server.drift ∧
      (server.drift = 0 →
        ((server.occupy slot client).activeCount : ℤ) ≤ server.config.maxClients) := by
  obtain ⟨hcount, hfree⟩ := Server.slotForNew_eq_some hslot
  have hactive : (server.occupy slot client).activeCount = server.activeCount + 1 :=
    Server.activeCount_fill rfl hfree hclient
  have hcounted : (server.occupy slot client).clientCount = server.clientCount + 1 := rfl
  rw [Server.drift_eq, Server.drift_eq, hactive, hcounted]
  constructor <;> omega

/-- A connection without TLS is counted if it gets a slot. -/
theorem Server.acceptPlain_spec (server : Server) (plain : Option Connection) :
    (server.acceptPlain plain).config = server.config ∧
      (server.acceptPlain plain).drift = server.drift ∧
      (server.drift = 0 → (server.activeCount : ℤ) ≤ server.config.maxClients →
        ((server.acceptPlain plain).activeCount : ℤ) ≤ server.config.maxClients) := by
  unfold Server.acceptPlain
  split
  · exact ⟨rfl, rfl, fun _ h => h⟩
  · split
    · exact ⟨rfl, rfl, fun _ h => h⟩
    · rename_i connection _ slot hslot
      obtain ⟨hdrift, hactive⟩ := server.occupy_spec
        (((server.clients slot).accept connection).initRtp connection) hslot rfl
      exact ⟨rfl, hdrift, fun hzero _ => hactive hzero⟩

/-- A handshake fails on a connection that has got a slot. -/
def Server.handshakeFails (server : Server) : Option (Connection × Bool) → Bool
  | some (_, false) => server.slotForNew.isSome
  | _ => false

/-- A connection with TLS is counted if it gets a slot and its handshake succeeds. -/
theorem Server.acceptTls_spec (server : Server) (tls : Option (Connection × Bool)) :
    (server.acceptTls tls).config = server.config ∧
      (server.acceptTls tls).drift =
        server.drift + (if server.handshakeFails tls = true then 1 else 0) ∧
      (server.drift = 0 → (server.activeCount : ℤ) ≤ server.config.maxClients →
        ((server.acceptTls tls).activeCount : ℤ) ≤ server.config.maxClients) := by
  cases tls with
  | none => exact ⟨rfl, (add_zero _).symm, fun _ h => h⟩
  | some attempt =>
    obtain ⟨connection, handshake⟩ := attempt
    unfold Server.acceptTls
    cases hslot : server.slotForNew with
    | none =>
      have hfails : server.handshakeFails (some (connection, handshake)) = false := by
        cases handshake <;> simp [Server.handshakeFails, hslot]
      exact ⟨rfl, by simp [hfails], fun _ h => h⟩
    | some slot =>
      cases handshake with
      | true =>
        obtain ⟨hdrift, hactive⟩ := server.occupy_spec
          (((server.clients slot).accept connection).startTls.initRtp connection) hslot rfl
        have hsucceeds : server.handshakeFails (some (connection, true)) = false := rfl
        refine ⟨rfl, ?_, fun hzero _ => hactive hzero⟩
        simpa [hsucceeds] using hdrift
      | false =>
        obtain ⟨hcount, hfree⟩ := Server.slotForNew_eq_some hslot
        have hfails : server.handshakeFails (some (connection, false)) = true := by
          simp [Server.handshakeFails, hslot]
        let failed : Server := { server with
          clients := Function.update server.clients slot
            ((server.clients slot).accept connection) }
        have hactive : failed.activeCount = server.activeCount + 1 :=
          Server.activeCount_fill rfl hfree rfl
        have hdrift : failed.drift = server.drift + 1 := by
          have hcounted : failed.clientCount = server.clientCount := rfl
          rw [Server.drift_eq, Server.drift_eq, hactive, hcounted]
          omega
        refine ⟨rfl, ?_, fun hzero _ => ?_⟩
        · rw [if_pos hfails]
          exact hdrift
        · change (failed.activeCount : ℤ) ≤ server.config.maxClients
          rw [Server.drift_eq] at hzero
          omega

/-! ### Sweeps -/

/-- A sweep that frees what it takes off the count, except where it loses, and that
activates nothing. -/
theorem Server.sweep_spec {f : Slot → Client → Option (Client × ℤ)} (loss : Slot → Client → ℕ)
    (hloss : ∀ slot client client' k, f slot client = some (client', k) →
      (Slots.use Client.InUse client' : ℤ) + k = Slots.use Client.InUse client + loss slot client)
    (hkept : ∀ slot client client' k, f slot client = some (client', k) →
      client'.InUse → client.InUse)
    (h : server.sweep f = some after) :
    after.config = server.config ∧
      server.drift ≤ after.drift ∧
      (after.drift = server.drift ↔ ∀ slot, loss slot (server.clients slot) = 0) ∧
      after.activeCount ≤ server.activeCount := by
  obtain ⟨state, hsweep, rfl⟩ := Option.map_eq_some_iff.mp h
  have hnodup := List.nodup_finRange maxRtspClients
  obtain ⟨hle, hiff⟩ := Slots.sweep_drift_eq_iff hloss hnodup hsweep
  refine ⟨rfl, hle, ?_, Slots.sweep_occupied_le hkept hnodup hsweep⟩
  exact hiff.trans
    ⟨fun hall slot => hall slot (List.mem_finRange slot), fun hall slot _ => hall slot⟩

/-- A client that has timed out is counted out. -/
theorem expireSlot_spec {config : Config} {now : UInt32} {slot : Slot} {client client' : Client}
    {k : ℤ} (h : expireSlot config now slot client = some (client', k)) :
    (Slots.use Client.InUse client' : ℤ) + k = Slots.use Client.InUse client ∧
      (client'.InUse → client.InUse) := by
  unfold expireSlot at h
  split_ifs at h with hexpired
  · obtain ⟨rfl, rfl⟩ := Prod.mk.inj (Option.some.inj h)
    have hactive : client.InUse := (Bool.and_eq_true_iff.mp hexpired).1
    have hfree : ¬client.cleanup.InUse := by simp [Client.cleanup]
    rw [Slots.use_of_pos hactive, Slots.use_of_neg hfree]
    exact ⟨rfl, fun _ => hactive⟩
  · obtain ⟨rfl, rfl⟩ := Prod.mk.inj (Option.some.inj h)
    exact ⟨add_zero _, id⟩

/-- Only TEARDOWN frees a slot in its handler. -/
theorem Client.handleClientConnection_release {client : Client} {config : Config}
    {exchange : Exchange} {handled : Handled}
    (h : client.handleClientConnection config exchange = some handled) :
    ((client.servedRequest config exchange).map Request.method = some .teardown ∧
      handled.count = 1 ∧ handled.client.active = false ∧
      handled.result = if exchange.sendOk then 0 else -1) ∨
    ((client.servedRequest config exchange).map Request.method ≠ some .teardown ∧
      handled.count = 0 ∧ handled.client.active = client.active) := by
  rcases Client.handleClientConnection_cases h with
    ⟨request, hrequest, rfl⟩ | ⟨hnone, hreleased, hactive, -⟩
  · rw [hrequest]
    by_cases hmethod : request.method = .teardown
    · left
      rw [Client.handleRequest, hmethod]
      exact ⟨congrArg some hmethod, rfl, rfl, Client.sendRtspResponse_result _ _ _ _ _ _⟩
    · right
      obtain ⟨hreleased, accepted, target, hanswered⟩ := Client.handleRequest_answered
        { client with lastActivityUs := exchange.now, cseq := request.cseq } config exchange hmethod
      refine ⟨fun hteardown => hmethod (Option.some.inj hteardown), ?_, hanswered.active⟩
      rw [Handled.count, hreleased]
      rfl
  · right
    refine ⟨by simp [hnone], ?_, hactive⟩
    rw [Handled.count, hreleased]
    rfl

/-- A TEARDOWN is served for the slot and its response cannot be sent. -/
def unsentTeardown (config : Config) (requests : Slot → Option Exchange) (slot : Slot)
    (client : Client) : Bool :=
  match requests slot with
  | none => false
  | some exchange => client.active && decide (0 ≤ client.socketFd) && !exchange.sendOk &&
      decide ((client.servedRequest config exchange).map Request.method = some .teardown)

/-- A turn of the loop over the slots takes one off the count for a slot that it frees,
and two for an unsent TEARDOWN. -/
theorem Client.serve_count {client after : Client} {config : Config} {exchange : Exchange} {k : ℤ}
    (hactive : client.InUse) (h : client.serve config exchange = some (after, k)) :
    (Slots.use Client.InUse after : ℤ) + k = 1 +
      if exchange.sendOk = false ∧
        (client.servedRequest config exchange).map Request.method = some .teardown then 1
      else 0 := by
  obtain ⟨handled, hhandled, hafter⟩ := Client.serve_cases h
  have hrelease := Client.handleClientConnection_release hhandled
  rw [Client.pauseInterleaved_servedRequest, Client.pauseInterleaved_active] at hrelease
  have hrestored : ∀ original, handled.client.active = false →
      Slots.use Client.InUse (handled.restore original) = 0 := by
    intro original hfreed
    refine Slots.use_of_neg ?_
    rw [Client.InUse, Handled.restore_active, hfreed]
    decide
  rcases hrelease with ⟨hteardown, hcount, hfreed, hresult⟩ | ⟨hother, hcount, hkept⟩
  · rcases hafter with ⟨hnegative, hfree, -, -, rfl⟩ | ⟨hnonneg, rfl, rfl⟩
    · have hunsent : exchange.sendOk = false := by
        by_contra hsent
        rw [hresult, if_pos (Bool.eq_true_of_not_eq_false hsent)] at hnegative
        exact lt_irrefl 0 hnegative
      rw [Slots.use_of_neg (by simp [hfree]), hcount, if_pos ⟨hunsent, hteardown⟩]
      rfl
    · have hsent : exchange.sendOk = true := by
        by_contra hunsent
        simp [hresult, hunsent] at hnonneg
      rw [hrestored _ hfreed, hcount, if_neg (by simp [hsent])]
      rfl
  · rw [if_neg fun hlost => hother hlost.2]
    rcases hafter with ⟨hnegative, hfree, -, -, rfl⟩ | ⟨hnonneg, rfl, rfl⟩
    · rw [Slots.use_of_neg (by simp [hfree]), hcount]
      rfl
    · rw [Slots.use_of_pos, hcount]
      · rfl
      · rw [Client.InUse, Handled.restore_active, hkept, hactive]

/-- The same for any turn. -/
theorem serveSlot_spec {config : Config} {requests : Slot → Option Exchange} {slot : Slot}
    {client client' : Client} {k : ℤ}
    (h : serveSlot config requests slot client = some (client', k)) :
    (Slots.use Client.InUse client' : ℤ) + k = Slots.use Client.InUse client +
        (if unsentTeardown config requests slot client = true then 1 else 0 : ℕ) ∧
      (client'.InUse → client.InUse) := by
  unfold serveSlot at h
  unfold unsentTeardown
  cases hrequest : requests slot with
  | none =>
    rw [hrequest] at h
    obtain ⟨rfl, rfl⟩ := Prod.mk.inj (Option.some.inj h)
    exact ⟨by simp, id⟩
  | some exchange =>
    rw [hrequest] at h
    dsimp only at h ⊢
    split_ifs at h with hready
    · have huse : Slots.use Client.InUse client = 1 := Slots.use_of_pos hready.1
      refine ⟨?_, fun _ => hready.1⟩
      rw [huse, Client.serve_count hready.1 h]
      simp [hready.1, hready.2]
    · obtain ⟨rfl, rfl⟩ := Prod.mk.inj (Option.some.inj h)
      have hidle : (client.active && decide (0 ≤ client.socketFd)) = false := by
        simpa using hready
      exact ⟨by simp [hidle], id⟩

/-- An error frees the active slots whose descriptors are invalid, and counts none of
them out. -/
theorem Server.dropInvalid_spec (server : Server) (invalid : Slot → Bool) :
    (server.dropInvalid invalid).activeCount ≤ server.activeCount ∧
      ((server.dropInvalid invalid).drift = server.drift ↔
        ∀ slot, (server.clients slot).InUse → 0 ≤ (server.clients slot).socketFd →
          invalid slot = false) := by
  have hslot : ∀ slot, ((server.dropInvalid invalid).clients slot).InUse ↔
      (server.clients slot).InUse ∧
        ¬(0 ≤ (server.clients slot).socketFd ∧ invalid slot = true) := by
    intro slot
    unfold Server.dropInvalid
    dsimp only
    split_ifs with hdropped <;> simp_all
  have himp : ∀ slot, ((server.dropInvalid invalid).clients slot).InUse →
      (server.clients slot).InUse := fun slot hslotAfter => ((hslot slot).mp hslotAfter).1
  refine ⟨Slots.occupied_le_of_imp himp, ?_⟩
  have hequal : (server.dropInvalid invalid).activeCount = server.activeCount ↔ _ :=
    Slots.occupied_eq_iff_of_imp himp
  have hcounted : (server.dropInvalid invalid).clientCount = server.clientCount := rfl
  rw [Server.drift_eq, Server.drift_eq, hcounted]
  constructor
  · intro hdrift slot hactive hfd
    have hkept := (hslot slot).mp (hequal.mp (by omega) slot hactive)
    simpa using fun hinvalid => hkept.2 ⟨hfd, hinvalid⟩
  · intro hvalid
    rw [hequal.mpr fun slot hactive => ?_]
    refine (hslot slot).mpr ⟨hactive, fun hdropped => ?_⟩
    simp [hvalid slot hactive hdropped.1] at hdropped

/-! ### Iterations -/

/-- No slot is left uncounted and none is counted out twice: no active slot has an
invalid descriptor when `select` fails, the handshake of a connection that has got a
slot succeeds, and the response to a TEARDOWN that is served is sent. -/
def Server.CountsExactly (server : Server) : Activity → Prop
  | .interrupted => True
  | .failed invalid => ∀ slot, (server.clients slot).InUse →
      0 ≤ (server.clients slot).socketFd → invalid slot = false
  | .quiet _ => True
  | .ready plain tls requests =>
    (server.config.tlsEnabled = true → (server.acceptPlain plain).handshakeFails tls = false) ∧
      ∀ slot, unsentTeardown server.config requests slot
        ((server.acceptNew plain tls).clients slot) = false

instance (server : Server) : (activity : Activity) → Decidable (server.CountsExactly activity)
  | .interrupted => inferInstanceAs (Decidable True)
  | .failed _ => inferInstanceAs (Decidable (∀ _, _))
  | .quiet _ => inferInstanceAs (Decidable True)
  | .ready _ _ _ => inferInstanceAs (Decidable (_ ∧ _))

/-- While there is no drift, a connection gets a slot unless the limit is reached. -/
theorem Server.admits_of_drift (hmax : server.config.maxClients ≤ maxRtspClients)
    (hdrift : server.drift = 0) : server.Admits := by
  intro hbelow
  rw [Server.drift_eq] at hdrift
  exact Server.slotForNew_isSome (by omega) (by omega)

/-- Within the limit everything is accounted for as long as there is no drift. -/
theorem Server.accounted_iff (hmax : server.config.maxClients ≤ maxRtspClients)
    (hactive : (server.activeCount : ℤ) ≤ server.config.maxClients) :
    server.Accounted ↔ server.drift = 0 := by
  constructor
  · intro h
    rw [Server.drift_eq, h.count_eq, sub_self]
  · intro hdrift
    have hcount : server.clientCount = server.activeCount := by
      rw [Server.drift_eq] at hdrift
      omega
    refine ⟨hcount, by omega, by omega, hactive, server.admits_of_drift hmax hdrift, ?_⟩
    intro plain
    obtain ⟨hconfig, hsame, -⟩ := server.acceptPlain_spec plain
    exact Server.admits_of_drift (hconfig ▸ hmax) (hsame.trans hdrift)

/-- Both kinds of new connections together. -/
theorem Server.acceptNew_spec (server : Server) (plain : Option Connection)
    (tls : Option (Connection × Bool)) (hzero : server.drift = 0)
    (hactive : (server.activeCount : ℤ) ≤ server.config.maxClients) :
    (server.acceptNew plain tls).config = server.config ∧
      0 ≤ (server.acceptNew plain tls).drift ∧
      ((server.acceptNew plain tls).drift = 0 ↔
        (server.config.tlsEnabled = true →
          (server.acceptPlain plain).handshakeFails tls = false)) ∧
      ((server.acceptNew plain tls).activeCount : ℤ) ≤ server.config.maxClients := by
  obtain ⟨hconfig, hdrift, hbound⟩ := server.acceptPlain_spec plain
  obtain ⟨htlsConfig, htlsDrift, htlsBound⟩ := (server.acceptPlain plain).acceptTls_spec tls
  have hplain := hbound hzero hactive
  unfold Server.acceptNew
  split_ifs with htls
  · refine ⟨htlsConfig.trans hconfig, ?_, ?_, ?_⟩
    · rw [htlsDrift, hdrift, hzero]
      split <;> decide
    · rw [htlsDrift, hdrift, hzero]
      simp [htls]
    · have hboth := htlsBound (hdrift.trans hzero)
      rw [hconfig] at hboth
      exact hboth hplain
  · refine ⟨hconfig, (hdrift.trans hzero).ge, ?_, hplain⟩
    simp [htls, hdrift, hzero]

/-- From a state in which everything is accounted for, an iteration leads to another one
if and only if it counts exactly. -/
theorem Server.iterate_accounted_iff {activity : Activity}
    (hmax : server.config.maxClients ≤ maxRtspClients) (h : server.Accounted)
    (hstep : server.iterate activity = some after) :
    after.config = server.config ∧ (after.Accounted ↔ server.CountsExactly activity) := by
  have hzero : server.drift = 0 := (Server.accounted_iff hmax h.active_le).mp h
  cases activity with
  | interrupted =>
    obtain rfl := Option.some.inj hstep
    exact ⟨rfl, iff_of_true h trivial⟩
  | failed invalid =>
    obtain rfl := Option.some.inj hstep
    obtain ⟨hle, hiff⟩ := server.dropInvalid_spec invalid
    have hactive : ((server.dropInvalid invalid).activeCount : ℤ) ≤ server.config.maxClients :=
      le_trans (by exact_mod_cast hle) h.active_le
    have haccounted : (server.dropInvalid invalid).Accounted ↔ _ :=
      Server.accounted_iff hmax hactive
    rw [haccounted, ← hzero]
    exact ⟨rfl, hiff⟩
  | quiet now =>
    have hspec := fun slot client client' k
        (hslot : expireSlot server.config now slot client = some (client', k)) =>
      expireSlot_spec hslot
    obtain ⟨hconfig, -, hiff, hle⟩ := Server.sweep_spec (fun _ _ => 0)
      (fun slot client client' k hslot => by simpa using (hspec slot client client' k hslot).1)
      (fun slot client client' k hslot => (hspec slot client client' k hslot).2) hstep
    have hactive : (after.activeCount : ℤ) ≤ after.config.maxClients := by
      rw [hconfig]
      exact le_trans (by exact_mod_cast hle) h.active_le
    refine ⟨hconfig, iff_of_true ?_ trivial⟩
    rw [Server.accounted_iff (hconfig ▸ hmax) hactive, hiff.mpr fun _ => rfl, hzero]
  | ready plain tls requests =>
    obtain ⟨hacceptConfig, hacceptDrift, hacceptIff, hacceptActive⟩ :=
      server.acceptNew_spec plain tls hzero h.active_le
    obtain ⟨hsweepConfig, hsweepDrift, hsweepIff, hsweepActive⟩ := Server.sweep_spec
      (fun slot client => if unsentTeardown server.config requests slot client = true then 1 else 0)
      (fun _ _ _ _ hslot => (serveSlot_spec hslot).1)
      (fun _ _ _ _ hslot => (serveSlot_spec hslot).2) hstep
    have hconfig := hsweepConfig.trans hacceptConfig
    have hactive : (after.activeCount : ℤ) ≤ after.config.maxClients := by
      rw [hconfig]
      exact le_trans (by exact_mod_cast hsweepActive) hacceptActive
    refine ⟨hconfig, ?_⟩
    rw [Server.accounted_iff (hconfig ▸ hmax) hactive, Server.CountsExactly, ← hacceptIff]
    constructor
    · intro hafter
      have haccepted : (server.acceptNew plain tls).drift = 0 := by omega
      refine ⟨haccepted, fun slot => ?_⟩
      simpa using hsweepIff.mp (hafter.trans haccepted.symm) slot
    · rintro ⟨haccepted, hserved⟩
      rw [hsweepIff.mpr fun slot => by simp [hserved slot], haccepted]

/-- The server starts with everything accounted for. -/
theorem Server.create_accounted {config : Config}
    (hmax : config.maxClients ≤ maxRtspClients) : (Server.create config).Accounted := by
  have hempty : (Server.create config).activeCount = 0 := by
    simp [Server.activeCount, Slots.occupied, Server.create, Client.InUse, Client.initial]
  have hpos := config.maxClients_pos
  rw [Server.accounted_iff hmax]
  · rw [Server.drift_eq, hempty]
    rfl
  · rw [hempty]
    exact hpos.le

/-- With a limit of at most as many clients as there are slots, everything is accounted
for at the top of each iteration of a run if and only if each iteration counts exactly. -/
theorem Server.accounted_iff_countsExactly {config : Config} {activities : List Activity}
    (hmax : config.maxClients ≤ maxRtspClients) :
    ((Server.create config).Accounted ∧ Runs.Each Server.iterate
      (fun _ _ after => after.Accounted) (Server.create config) activities) ↔
      Runs.Each Server.iterate (fun before activity _ => before.CountsExactly activity)
        (Server.create config) activities := by
  have hcreate := Server.create_accounted hmax
  rw [and_iff_right hcreate]
  refine Runs.each_congr (fun server : Server =>
    server.config.maxClients ≤ maxRtspClients ∧ server.Accounted) ?_ ?_ ⟨hmax, hcreate⟩
  · intro before activity after hinv hstep
    exact (Server.iterate_accounted_iff hinv.1 hinv.2 hstep).2
  · intro before activity after hinv hstep hafter
    obtain ⟨hconfig, -⟩ := Server.iterate_accounted_iff hinv.1 hinv.2 hstep
    exact ⟨hconfig ▸ hinv.1, hafter⟩

/-- A client connects and tears its session down. -/
theorem Server.accounted_sentTeardown :
    openConfig.maxClients ≤ maxRtspClients ∧
      (Server.create openConfig).Accounted ∧ Runs.Each Server.iterate
        (fun _ _ after => after.Accounted) (Server.create openConfig)
        [acceptViewer, viewerSends sentTeardown] :=
  ⟨by decide, (Server.accounted_iff_countsExactly (by decide)).mpr (by decide +kernel)⟩

/-- A client connects, asks for the end of its session, and is gone before the response:
the count falls below zero. -/
theorem Server.not_accounted_unsentTeardown :
    ¬((Server.create openConfig).Accounted ∧ Runs.Each Server.iterate
      (fun _ _ after => after.Accounted) (Server.create openConfig)
      [acceptViewer, viewerSends { sentTeardown with sendOk := false }]) := by
  rintro ⟨-, haccounted⟩
  have hcount : Runs.Each Server.iterate (fun _ _ after => 0 ≤ after.clientCount)
      (Server.create openConfig)
      [acceptViewer, viewerSends { sentTeardown with sendOk := false }] :=
    haccounted.mono fun _ _ _ _ hafter => hafter.count_nonneg
  exact absurd hcount (by decide +kernel)

end Rtsp
