import Strero.Lib.Runs
import Strero.Rtsp.RequestEffects

/-!
# Authentication of RTSP sessions

A session leaves its first state, starts to play, or has a request answered with
success only in an iteration in which the request of that session has passed
`auth_check_rtsp_request`. The exception is TEARDOWN on a broken connection, which
frees the slot.
-/

namespace Rtsp

open CString AuthUtils

/-- The slots as the loop over the clients finds them. -/
def Server.accepting (server : Server) : Activity → Server
  | .ready plain tls _ => server.acceptNew plain tls
  | _ => server

/-- The request of the slot has got `AUTH_RESULT_SUCCESS` in this iteration. -/
def Server.Authenticated (server : Server) (activity : Activity) (slot : Slot) : Prop :=
  ∃ exchange request info, activity.exchange slot = some exchange ∧
    ((server.accepting activity).clients slot).ownRequest exchange = some request ∧
    authGetClientInfo exchange.peer = some info ∧
    authCheckRtspRequest server.config.tableAddress request.text server.config.auth info =
      some .success

/-- A method other than TEARDOWN. -/
def Method.isGated (method : Method) : Prop :=
  method = .options ∨ method = .describe ∨ method = .setup ∨ method = .play ∨ method = .pause

/-- What the slot may only get by authentication: another state than the first, the
state of playing, or a success in answer to its request. -/
def Server.Grants (before : Server) (activity : Activity) (slot : Slot) (after : Server) : Prop :=
  let client := (before.accepting activity).clients slot
  client.state = .init ∧ (after.clients slot).state ≠ .init ∨
    client.state ≠ .playing ∧ (after.clients slot).state = .playing ∨
    ∃ exchange request response, activity.exchange slot = some exchange ∧
      client.ownRequest exchange = some request ∧ request.method.isGated ∧
      (after.clients slot).responses = client.responses ++ [response] ∧ response.statusCode = 200

/-- Every slot that is granted this has been authenticated. -/
def Server.Gated (before : Server) (activity : Activity) (after : Server) : Prop :=
  ∀ slot, before.Grants activity slot after → before.Authenticated activity slot

/-! ### One request -/

section Request

variable {client after : Client} {config : Config} {exchange : Exchange} {request : Request}

/-- The restoration leaves a session in the state of the handler or makes one play that
was playing. -/
theorem Handled.restore_state_cases (handled : Handled) (original : ClientState) :
    (handled.restore original).state = handled.client.state ∨
      original = .playing ∧ (handled.restore original).state = .playing := by
  unfold Handled.restore
  split
  · rename_i hrestored
    exact .inr ⟨hrestored.2.2.1, hrestored.2.2.1⟩
  · exact .inl rfl

/-- The mark leaves a session in its state, or finds it playing. -/
theorem Client.pauseInterleaved_state_cases (client : Client) :
    client.pauseInterleaved.state = client.state ∨
      client.state = .playing ∧ client.pauseInterleaved.state = .ready := by
  unfold Client.pauseInterleaved
  split
  · rename_i hmarked
    exact .inr ⟨hmarked.2, rfl⟩
  · exact .inl rfl

/-- TEARDOWN leaves the slot in the first state. -/
theorem Client.handleTeardownRequest_state (client : Client) (original : ClientState) :
    ((client.handleTeardownRequest exchange).restore original).state = .init := by
  rcases (client.handleTeardownRequest exchange).restore_state_cases original with
    hkept | ⟨rfl, -⟩
  · exact hkept
  · exact congrArg Client.state (if_neg fun h => absurd h.1 Bool.false_ne_true)

/-- Without a request that is served a session neither starts nor gets a success. -/
theorem Client.serve_unserved {k : ℤ} (hnone : client.servedRequest config exchange = none)
    (h : client.serve config exchange = some (after, k)) :
    (client.state = .init → after.state = .init) ∧
      (after.state = .playing → client.state = .playing) ∧ Unsuccessful client after := by
  obtain ⟨handled, hhandled, hafter⟩ := Client.serve_cases h
  rcases Client.handleClientConnection_cases hhandled with
    ⟨request, hrequest, -⟩ | ⟨-, -, -, hstate, hanswer⟩
  · rw [Client.pauseInterleaved_servedRequest, hnone] at hrequest
    cases hrequest
  · unfold Unsuccessful at hanswer ⊢
    rw [Client.pauseInterleaved_responses] at hanswer
    rcases hafter with ⟨-, -, hinit, hresponses, -⟩ | ⟨-, rfl, -⟩
    · rw [hinit, hresponses]
      exact ⟨fun _ => rfl, nofun, hanswer⟩
    · rw [Handled.restore_responses]
      have hmark := client.pauseInterleaved_state_cases
      rw [← hstate] at hmark
      refine ⟨fun hinit => ?_, fun hplaying => ?_, hanswer⟩
      · rcases handled.restore_state_cases client.state with hkept | ⟨hplayed, -⟩
        · exact hkept.trans ((hmark.resolve_right fun h => by simp [hinit] at h).trans hinit)
        · rw [hinit] at hplayed
          cases hplayed
      · rcases handled.restore_state_cases client.state with hkept | ⟨hplayed, -⟩
        · rcases hmark with hsame | ⟨hplayed, -⟩
          · exact hsame.symm.trans (hkept.symm.trans hplaying)
          · exact hplayed
        · exact hplayed

/-- TEARDOWN leaves a session in the first state, whatever its peer is. -/
theorem Client.serve_teardown {k : ℤ}
    (hrequest : client.servedRequest config exchange = some request)
    (hmethod : request.method = .teardown)
    (h : client.serve config exchange = some (after, k)) : after.state = .init := by
  obtain ⟨handled, hhandled, hafter⟩ := Client.serve_cases h
  rcases Client.handleClientConnection_cases hhandled with ⟨served, hserved, rfl⟩ | ⟨hnone, -⟩
  · rw [Client.pauseInterleaved_servedRequest, hrequest] at hserved
    obtain rfl := Option.some.inj hserved
    rcases hafter with ⟨-, -, hinit, -⟩ | ⟨-, rfl, -⟩
    · exact hinit
    · rw [Client.handleRequest, hmethod]
      exact Client.handleTeardownRequest_state _ _
  · rw [Client.pauseInterleaved_servedRequest, hrequest] at hnone
    cases hnone

end Request

/-! ### Iterations -/

/-- Outside the handling of requests no slot is granted this. -/
theorem Server.not_admits_of_kept {before after : Server} {activity : Activity} {slot : Slot}
    (hstate : (after.clients slot).state = ((before.accepting activity).clients slot).state ∨
      (after.clients slot).state = .init)
    (hresponses : (after.clients slot).responses =
      ((before.accepting activity).clients slot).responses) :
    ¬before.Grants activity slot after := by
  rintro (⟨hinit, hleft⟩ | ⟨hidle, hplaying⟩ | ⟨_, _, response, -, -, -, hresponse, -⟩)
  · rcases hstate with hstate | hstate
    · exact hleft (hstate.trans hinit)
    · exact hleft hstate
  · rcases hstate with hstate | hstate
    · exact hidle (hstate.symm.trans hplaying)
    · rw [hplaying] at hstate
      cases hstate
  · simp [hresponses] at hresponse

/-- A slot that is served and granted this is authenticated. -/
theorem Server.authenticated_of_serve {before after : Server} {plain : Option Connection}
    {tls : Option (Connection × Bool)} {requests : Slot → Option Exchange} {slot : Slot}
    {exchange : Exchange} {k : ℤ} (hexchange : requests slot = some exchange)
    (hserve : ((before.acceptNew plain tls).clients slot).serve before.config exchange =
      some (after.clients slot, k))
    (hgrants : before.Grants (.ready plain tls requests) slot after) :
    before.Authenticated (.ready plain tls requests) slot := by
  cases hserved : ((before.acceptNew plain tls).clients slot).servedRequest before.config
      exchange with
  | none =>
    obtain ⟨hinit, hplaying, hanswer⟩ := Client.serve_unserved hserved hserve
    rcases hgrants with
      ⟨hfirst, hleft⟩ | ⟨hidle, hplays⟩ | ⟨_, _, response, -, -, -, hsent, hstatus⟩
    · exact absurd (hinit hfirst) hleft
    · exact absurd (hplaying hplays) hidle
    · exact absurd hstatus (hanswer response hsent)
  | some request =>
    obtain ⟨hown, hpeer, hcheck⟩ := Client.servedRequest_eq_some hserved
    cases hinfo : authGetClientInfo exchange.peer with
    | some info =>
      refine ⟨exchange, request, info, hexchange, hown, hinfo, ?_⟩
      rwa [checkAuthentication, hinfo] at hcheck
    | none =>
      -- The check is left out for TEARDOWN only, and that ends the session.
      have hteardown : request.method = .teardown := hpeer (Option.map_eq_none_iff.mp hinfo)
      have hfreed := Client.serve_teardown hserved hteardown hserve
      rcases hgrants with ⟨-, hleft⟩ | ⟨-, hplays⟩ | ⟨other, own, -, hother, hown', hgated, -⟩
      · exact absurd hfreed hleft
      · rw [hfreed] at hplays
        cases hplays
      · obtain rfl : exchange = other := Option.some.inj (hexchange.symm.trans hother)
        obtain rfl : request = own := Option.some.inj (hown.symm.trans hown')
        simp [Method.isGated, hteardown] at hgated

/-- Every iteration is gated. -/
theorem Server.iterate_gated {before after : Server} {activity : Activity}
    (hstep : before.iterate activity = some after) : before.Gated activity after := by
  intro slot hgrants
  cases activity with
  | interrupted =>
    obtain rfl : before = after := Option.some.inj hstep
    exact absurd hgrants (Server.not_admits_of_kept (.inl rfl) rfl)
  | failed invalid =>
    obtain rfl : before.dropInvalid invalid = after := Option.some.inj hstep
    refine absurd hgrants (Server.not_admits_of_kept (.inl ?_) ?_)
    all_goals
      simp only [Server.dropInvalid, Server.accepting]
      split <;> rfl
  | quiet now =>
    obtain ⟨k, hk⟩ := Server.sweep_clients hstep slot
    unfold expireSlot at hk
    split_ifs at hk
    all_goals
      obtain ⟨hclient, -⟩ := Prod.mk.inj (Option.some.inj hk)
      refine absurd hgrants (Server.not_admits_of_kept ?_ ?_)
      all_goals rw [← hclient]
    · exact .inr rfl
    · rfl
    · exact .inl rfl
    · rfl
  | ready plain tls requests =>
    obtain ⟨k, hk⟩ := Server.sweep_clients hstep slot
    have hidle : some ((before.acceptNew plain tls).clients slot, (0 : ℤ)) =
        some (after.clients slot, k) → False := by
      intro hsame
      obtain ⟨hclient, -⟩ := Prod.mk.inj (Option.some.inj hsame)
      exact Server.not_admits_of_kept (.inl (congrArg Client.state hclient.symm))
        (congrArg Client.responses hclient.symm) hgrants
    cases hexchange : requests slot with
    | none =>
      rw [serveSlot, hexchange] at hk
      exact absurd hk hidle
    | some exchange =>
      rw [serveSlot, hexchange] at hk
      dsimp only at hk
      split_ifs at hk
      · exact Server.authenticated_of_serve hexchange hk hgrants
      · exact absurd hk hidle

/-- In every run, sessions start, play and get successes only by requests that pass
authentication. -/
theorem Server.run_gated (config : Config) (activities : List Activity) :
    Runs.Each Server.iterate Server.Gated (Server.create config) activities :=
  Runs.each_of_step (fun _ _ _ => Server.iterate_gated) _ _

end Rtsp
