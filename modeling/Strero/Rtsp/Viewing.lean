import Strero.Lib.Runs
import Strero.Rtsp.FrameLoop
import Strero.Rtsp.ServerThread

/-!
# PLAY and the loop over the clients, write by write

`handle_play_request` runs in the server thread, and the loop of `rtsp_server_send_frame`
in the thread that delivers frames. Both work on the slot of a client without a lock. A
step is one write or read of a field, one response, or one call of `send_frame_to_client`.
The clock that both threads read is an unsigned long.
-/

namespace Rtsp

open CString

/-! ### The state -/

/-- The next step of `handle_play_request`: nothing to do, the first number, the identifier
of the source, the response, the mark of the wait, or its start. -/
inductive PlayStage
  | idle
  | started (exchange : Exchange)
  | sequenced (exchange : Exchange)
  | numbered (exchange : Exchange)
  | answered
  | marked

/-- No PLAY is being handled. -/
def PlayStage.isIdle : PlayStage → Bool
  | .idle => true
  | _ => false

/-- The exchange of a PLAY that is not answered yet. -/
def PlayStage.exchange : PlayStage → Option Exchange
  | .started exchange | .sequenced exchange | .numbered exchange => some exchange
  | _ => none

/-- The next step of the loop for a client: the tests whether it is active, whether it
plays and whether it plays this channel, the tests of its wait and of the start of its
wait, the end of the wait by time, the frame, and for a key frame the frame and the end of
the wait. -/
inductive LoopStage
  | sampled | active | playing | plays | waits | clears
  | sends (waited : Bool)
  | sendsKey | sent
deriving DecidableEq

/-- The loop for a frame has reached the client. It is noted when the clock was read, and
whether PLAY has been at work since then. -/
structure Pass where
  frame : LiveFrame
  sampledAt : ℕ
  overlapped : Bool
  stage : LoopStage
deriving DecidableEq

/-- A client between the two threads at a time in microseconds. It is noted since when the
client has played without having been sent a key frame. -/
structure Viewing where
  client : Client
  time : ℕ
  play : PlayStage
  pass : Option Pass
  awaitsKey : Option ℕ

/-! ### The steps -/

/-- The clock as an unsigned long. -/
def Viewing.clock (v : Viewing) : UInt32 := UInt32.ofNat v.time

/-- The slot once PLAY has set its state. -/
def Client.beginPlay (client : Client) : Client :=
  { client with
    supportsBackchannel :=
      contains client.requestBuffer backchannelHeader || client.supportsBackchannel
    state := .playing }

/-- PLAY begins if the session is ready or playing. -/
def Viewing.beginPlay (v : Viewing) (exchange : Exchange) : Viewing :=
  if v.play.isIdle ∧ (v.client.state = .ready ∨ v.client.state = .playing) then
    { v with
      client := v.client.beginPlay
      play := .started exchange
      pass := v.pass.map fun pass => { pass with overlapped := true }
      awaitsKey := if v.client.state = .ready then some v.time else v.awaitsKey }
  else v

/-- The next step of PLAY. -/
def Viewing.proceed (v : Viewing) : Viewing :=
  match v.play with
  | .idle => v
  | .started exchange =>
    { v with client := { v.client with rtpSeq := exchange.rtpSeq }, play := .sequenced exchange }
  | .sequenced exchange =>
    { v with client := { v.client with rtpSsrc := exchange.rtpSsrc }, play := .numbered exchange }
  | .numbered exchange =>
    let r := v.client.sendRtspResponse exchange 200 "OK" (ascii "Range: npt=0.000-\r\n") none
    { v with
      client := r.1
      play := if r.2 = 0 ∧ r.1.videoChannel < maxVideoStreams then .answered else .idle }
  | .answered => { v with client := { v.client with needsIdr := true }, play := .marked }
  | .marked => { v with client := { v.client with idrWaitStartUs := v.clock }, play := .idle }

/-- The loop for a frame reads the clock. -/
def Viewing.beginPass (v : Viewing) (frame : LiveFrame) : Viewing :=
  match v.pass with
  | none => { v with
      pass := some ⟨{ frame with now := v.clock }, v.time, !v.play.isIdle, .sampled⟩ }
  | some _ => v

/-- The pass is at another step, or over. -/
def Viewing.goTo (v : Viewing) (pass : Pass) (stage : LoopStage) : Viewing :=
  { v with pass := some { pass with stage := stage } }

@[inherit_doc Viewing.goTo] def Viewing.endPass (v : Viewing) : Viewing := { v with pass := none }

/-- The mark of the wait is cleared. -/
def Viewing.clearNeedsIdr (v : Viewing) : Viewing :=
  { v with client := { v.client with needsIdr := false } }

/-- The frame holds a key frame, or parameter sets. -/
def LiveFrame.isKey (frame : LiveFrame) : Bool := isIdrFrame frame.codec frame.data

@[inherit_doc LiveFrame.isKey] def LiveFrame.hasParameters (frame : LiveFrame) : Bool :=
  hasParameterSets frame.codec frame.data

/-- `send_frame_to_client`, which sends nothing to a client that does not play. -/
def Viewing.sendFrame (v : Viewing) (frame : LiveFrame) : Viewing :=
  if v.client.state = .playing ∧ frame.isKey then { v with awaitsKey := none } else v

/-- The next step of a pass. -/
def Viewing.look (v : Viewing) : Viewing :=
  match v.pass with
  | none => v
  | some pass =>
    match pass.stage with
    | .sampled => if v.client.active then v.goTo pass .active else v.endPass
    | .active => if v.client.state = .playing then v.goTo pass .playing else v.endPass
    | .playing =>
      if v.client.videoChannel = pass.frame.channel.val then v.goTo pass .plays else v.endPass
    | .plays => if v.client.needsIdr then v.goTo pass .waits else v.goTo pass (.sends false)
    | .waits =>
      match pass.frame.offer true v.client.idrWaitStartUs with
      | .dropped => v.endPass
      | .sent => v.goTo pass (.sends true)
      | .sentAsKey => v.goTo pass .sendsKey
      | .sentByTimeout => v.goTo pass .clears
    | .clears => v.clearNeedsIdr.goTo pass (.sends true)
    | .sends _ => (v.sendFrame pass.frame).endPass
    | .sendsKey => (v.sendFrame pass.frame).goTo pass .sent
    | .sent => v.clearNeedsIdr.endPass

/-- A step: time elapses, a PLAY that is admitted begins or proceeds, the server thread
writes the fields that other requests write or accepts a connection, or the loop for a
frame begins or proceeds. -/
inductive ViewingEvent
  | elapse (us : ℕ)
  | play (exchange : Exchange)
  | proceed
  | write (active : Bool) (state : ClientState) (videoChannel : ℤ)
  | accept (connection : Connection)
  | frame (frame : LiveFrame)
  | look

/-- One step. The server thread does nothing else while it handles PLAY. -/
def Viewing.step (v : Viewing) : ViewingEvent → Viewing
  | .elapse us => { v with time := v.time + us }
  | .play exchange => v.beginPlay exchange
  | .proceed => v.proceed
  | .write active state videoChannel =>
    if v.play.isIdle then
      { v with client :=
          { v.client with active := active, state := state, videoChannel := videoChannel } }
    else v
  | .accept connection =>
    if v.play.isIdle then
      { v with client := (v.client.accept connection).initRtp connection, awaitsKey := none }
    else v
  | .frame frame => v.beginPass frame
  | .look => v.look

/-! ### Without overlaps -/

/-- The last three steps of PLAY. -/
theorem Viewing.proceed_numbered (v : Viewing) {exchange : Exchange}
    (hplay : v.play = .numbered exchange) :
    let r := v.client.sendRtspResponse exchange 200 "OK" (ascii "Range: npt=0.000-\r\n") none
    v.proceed.proceed.proceed.client =
      if r.2 = 0 ∧ r.1.videoChannel < maxVideoStreams then
        { r.1 with needsIdr := true, idrWaitStartUs := v.clock }
      else r.1 := by
  intro r
  have hanswer : v.proceed = { v with
      client := r.1
      play := if r.2 = 0 ∧ r.1.videoChannel < maxVideoStreams then .answered else .idle } := by
    rw [Viewing.proceed, hplay]
  rw [hanswer]
  split
  · rfl
  · rfl

/-- PLAY does to the slot what its handler does, if the loop does not get in between. -/
theorem Viewing.play_alone (v : Viewing) (hidle : v.play = .idle)
    (hstate : v.client.state = .ready ∨ v.client.state = .playing) {exchange : Exchange}
    (htime : exchange.playTime = v.clock) :
    ((.play exchange :: List.replicate 5 .proceed).foldl Viewing.step v).client =
      (v.client.handlePlayRequest exchange).1 := by
  have hbegins : v.play.isIdle ∧ (v.client.state = .ready ∨ v.client.state = .playing) :=
    ⟨by rw [hidle]; rfl, hstate⟩
  have hflag : (if contains v.client.requestBuffer backchannelHeader then
      { v.client with supportsBackchannel := true } else v.client) =
      { v.client with
        supportsBackchannel := contains v.client.requestBuffer backchannelHeader ||
          v.client.supportsBackchannel } := by
    split
    · rename_i hcontains
      rw [hcontains, Bool.true_or]
    · rename_i hcontains
      rw [Bool.eq_false_iff.mpr hcontains, Bool.false_or]
  have hstarts : ¬(v.client.state ≠ .ready ∧ v.client.state ≠ .playing) := by tauto
  let r := Client.sendRtspResponse
    { v.client.beginPlay with rtpSeq := exchange.rtpSeq, rtpSsrc := exchange.rtpSsrc } exchange 200
    "OK" (ascii "Range: npt=0.000-\r\n") none
  have hhandler : (v.client.handlePlayRequest exchange).1 =
      if r.2 = 0 ∧ r.1.videoChannel < maxVideoStreams then
        { r.1 with needsIdr := true, idrWaitStartUs := exchange.playTime }
      else r.1 := by
    unfold Client.handlePlayRequest
    rw [hflag]
    dsimp only
    rw [if_neg hstarts]
    exact apply_ite Prod.fst _ _ _
  have hbegin : v.step (.play exchange) = { v with
      client := v.client.beginPlay
      play := .started exchange
      pass := v.pass.map fun pass => { pass with overlapped := true }
      awaitsKey := if v.client.state = .ready then some v.time else v.awaitsKey } := if_pos hbegins
  rw [hhandler, htime, List.foldl_cons, hbegin]
  exact Viewing.proceed_numbered
    ⟨{ v.client.beginPlay with rtpSeq := exchange.rtpSeq, rtpSsrc := exchange.rtpSsrc }, v.time,
      .numbered exchange, _, _⟩ rfl

/-- What the loop leaves of the wait. -/
def LiveFrame.waitAfter (frame : LiveFrame) (client : Client) : Bool :=
  if client.plays frame.channel then
    match frame.offer client.needsIdr client.idrWaitStartUs with
    | .dropped | .sent => client.needsIdr
    | .sentAsKey | .sentByTimeout => false
  else client.needsIdr

/-- The body of the loop leaves this. -/
theorem Sender.offerFrame_needsIdr {net : Network} {clock clock' : RtpClock} {s s' : Sender}
    {frame : LiveFrame} (h : s.offerFrame net clock frame = some (clock', s')) :
    s'.client.needsIdr = frame.waitAfter s.client := by
  have hsend : ∀ {s : Sender} {r},
      (sendFrameToClient net clock s frame.data frame.channel frame.sendTime frame.random).map
        (fun r => (r.1, r.2.1)) = some r → r.2.client.needsIdr = s.client.needsIdr := by
    intro s r hr
    obtain ⟨r₀, hr₀, rfl⟩ := Option.map_eq_some_iff.mp hr
    obtain ⟨rtpSeq, hclient⟩ := sendFrameToClient_client hr₀
    dsimp only
    rw [hclient]
  unfold Sender.offerFrame at h
  unfold LiveFrame.waitAfter
  dsimp only at h
  split
  · rename_i hplays
    rw [if_pos hplays] at h
    cases hoffer : frame.offer s.client.needsIdr s.client.idrWaitStartUs with
    | dropped =>
      rw [hoffer] at h
      cases h
      rfl
    | sent =>
      rw [hoffer] at h
      exact hsend h
    | sentAsKey =>
      rw [hoffer] at h
      obtain ⟨r, -, hr⟩ := Option.map_eq_some_iff.mp h
      cases hr
      rfl
    | sentByTimeout =>
      rw [hoffer] at h
      exact hsend h
  · rename_i hplays
    rw [if_neg hplays] at h
    cases h
    rfl

section Passes

variable (v : Viewing) (pass : Pass)

@[simp] theorem Viewing.look_sampled : (v.goTo pass .sampled).look =
    if v.client.active then v.goTo pass .active else v.endPass := rfl

@[simp] theorem Viewing.look_active : (v.goTo pass .active).look =
    if v.client.state = .playing then v.goTo pass .playing else v.endPass := rfl

@[simp] theorem Viewing.look_playing : (v.goTo pass .playing).look =
    if v.client.videoChannel = pass.frame.channel.val then v.goTo pass .plays
    else v.endPass := rfl

@[simp] theorem Viewing.look_plays : (v.goTo pass .plays).look =
    if v.client.needsIdr then v.goTo pass .waits else v.goTo pass (.sends false) := rfl

@[simp] theorem Viewing.look_waits : (v.goTo pass .waits).look =
    match pass.frame.offer true v.client.idrWaitStartUs with
    | .dropped => v.endPass
    | .sent => v.goTo pass (.sends true)
    | .sentAsKey => v.goTo pass .sendsKey
    | .sentByTimeout => v.goTo pass .clears := rfl

@[simp] theorem Viewing.look_clears :
    (v.goTo pass .clears).look = v.clearNeedsIdr.goTo pass (.sends true) := rfl

@[simp] theorem Viewing.look_endPass : v.endPass.look = v.endPass := rfl

@[simp] theorem Viewing.sendFrame_client (frame : LiveFrame) :
    (v.sendFrame frame).client = v.client := by
  unfold Viewing.sendFrame
  split <;> rfl

@[simp] theorem Viewing.look_sends_client (waited : Bool) :
    (v.goTo pass (.sends waited)).look.client = v.client :=
  Viewing.sendFrame_client (v.goTo pass (.sends waited)) pass.frame

@[simp] theorem Viewing.look_sendsKey_client :
    (v.goTo pass .sendsKey).look.look.client = v.clearNeedsIdr.client := by
  have hsent := Viewing.sendFrame_client (v.goTo pass .sendsKey) pass.frame
  exact congrArg (fun client : Client => { client with needsIdr := false }) hsent

end Passes

/-- So does a pass, if the server thread does not get in between. -/
theorem Viewing.pass_alone (v : Viewing) (hpass : v.pass = none) (frame : LiveFrame) :
    let last := (.frame frame :: List.replicate 7 .look).foldl Viewing.step v
    last.pass = none ∧
      last.client = { v.client with
        needsIdr := LiveFrame.waitAfter { frame with now := v.clock } v.client } := by
  let pass : Pass := ⟨{ frame with now := v.clock }, v.time, !v.play.isIdle, .sampled⟩
  have hbegin : v.step (.frame frame) = v.goTo pass .sampled := by
    rw [Viewing.step, Viewing.beginPass, hpass]
    rfl
  dsimp only
  rw [List.foldl_cons, hbegin]
  show (v.goTo pass .sampled).look.look.look.look.look.look.look.pass = none ∧
    (v.goTo pass .sampled).look.look.look.look.look.look.look.client = _
  unfold LiveFrame.waitAfter
  by_cases hactive : v.client.active = true
  · by_cases hstate : v.client.state = .playing
    · by_cases hchannel : v.client.videoChannel = frame.channel.val
      · rw [if_pos ⟨hactive, hstate, hchannel⟩, look_sampled, if_pos hactive, look_active,
          if_pos hstate, look_playing, if_pos hchannel, look_plays]
        by_cases hneeds : v.client.needsIdr = true
        · rw [if_pos hneeds, look_waits]
          have hsame : LiveFrame.offer { frame with now := v.clock } v.client.needsIdr
              v.client.idrWaitStartUs = pass.frame.offer true v.client.idrWaitStartUs := by
            rw [hneeds]
          rw [hsame]
          cases pass.frame.offer true v.client.idrWaitStartUs with
          | dropped => exact ⟨rfl, rfl⟩
          | sent => exact ⟨rfl, v.look_sends_client pass true⟩
          | sentAsKey => exact ⟨rfl, v.look_sendsKey_client pass⟩
          | sentByTimeout => exact ⟨rfl, v.clearNeedsIdr.look_sends_client pass true⟩
        · have hsame : LiveFrame.offer { frame with now := v.clock } v.client.needsIdr
              v.client.idrWaitStartUs = .sent := if_neg hneeds
          rw [if_neg hneeds, hsame]
          exact ⟨rfl, v.look_sends_client pass false⟩
      · rw [if_neg fun h => hchannel h.2.2, look_sampled, if_pos hactive, look_active,
          if_pos hstate, look_playing, if_neg hchannel]
        exact ⟨rfl, rfl⟩
    · rw [if_neg fun h => hstate h.2.1, look_sampled, if_pos hactive, look_active, if_neg hstate]
      exact ⟨rfl, rfl⟩
  · rw [if_neg fun h => hactive h.1, look_sampled, if_neg hactive]
    exact ⟨rfl, rfl⟩

end Rtsp
