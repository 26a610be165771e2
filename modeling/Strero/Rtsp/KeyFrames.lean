import Strero.Rtsp.Viewing

/-!
# A viewer starts on a key frame

A client that has begun to play is sent nothing but key frames and parameter sets until
the first key frame or until five seconds have passed, as long as the loop for a frame that
the client plays does not overlap the writes of PLAY. What is carried from step to step is
that the mark of the wait is set, with a start not before PLAY and not after the clock of
the loop was read.
-/

namespace Rtsp

/-! ### The property -/

/-- The wait has lasted for more than five seconds. -/
def Viewing.Expired (v : Viewing) (since : ℕ) : Prop := since + 5000000 < v.time

/-- The next step of the pass sends its frame. -/
def LoopStage.isSend : LoopStage → Bool
  | .sends _ | .sendsKey => true
  | _ => false

/-- A frame that is sent to a client without a key frame is one or holds parameter sets,
unless five seconds have passed since PLAY. -/
def Viewing.KeyFirst (v : Viewing) : ViewingEvent → Prop
  | .look => ∀ pass ∈ v.pass, pass.stage.isSend = true → v.client.state = .playing →
      pass.frame.isKey = true ∨ pass.frame.hasParameters = true ∨
        ∀ since ∈ v.awaitsKey, v.Expired since
  | _ => True

instance (v : Viewing) (event : ViewingEvent) : Decidable (v.KeyFirst event) :=
  match event with
  | .look => inferInstanceAs (Decidable (∀ pass ∈ v.pass, pass.stage.isSend = true →
      v.client.state = .playing → pass.frame.isKey = true ∨ pass.frame.hasParameters = true ∨
        ∀ since ∈ v.awaitsKey, since + 5000000 < v.time))
  | .elapse _ | .play _ | .proceed | .write .. | .accept _ | .frame _ =>
    inferInstanceAs (Decidable True)

/-! ### The condition -/

/-- The pass has found that the client plays its channel. -/
def LoopStage.hasLooked : LoopStage → Bool
  | .sampled | .active | .playing => false
  | _ => true

/-- PLAY can be answered and has one of the streams whose viewers wait, and no pass is under
way for the client, except one with a key frame still to be sent. A pass during which PLAY
has been at work goes on to the client only with a key frame, and if it has found the
client waiting then the client still plays when the key frame is sent. -/
def Viewing.Orderly (v : Viewing) : ViewingEvent → Prop
  | .play exchange =>
    v.play.isIdle = true → (v.client.state = .ready ∨ v.client.state = .playing) →
      exchange.sendOk = true ∧ v.client.videoChannel < maxVideoStreams ∧
      ∀ pass ∈ v.pass, pass.stage.hasLooked = true →
        pass.frame.isKey = true ∧ pass.stage ≠ .sent
  | .look => ∀ pass ∈ v.pass,
      (pass.stage = .playing → v.client.videoChannel = pass.frame.channel.val →
        pass.overlapped = true → pass.frame.isKey = true) ∧
      (pass.stage = .sendsKey ∨ pass.stage = .sends true → pass.frame.isKey = true →
        v.client.state = .playing)
  | _ => True

instance (v : Viewing) (event : ViewingEvent) : Decidable (v.Orderly event) :=
  match event with
  | .play exchange => inferInstanceAs (Decidable (v.play.isIdle = true →
      (v.client.state = .ready ∨ v.client.state = .playing) →
      exchange.sendOk = true ∧ v.client.videoChannel < maxVideoStreams ∧
      ∀ pass ∈ v.pass, pass.stage.hasLooked = true →
        pass.frame.isKey = true ∧ pass.stage ≠ .sent))
  | .look => inferInstanceAs (Decidable (∀ pass ∈ v.pass,
      (pass.stage = .playing → v.client.videoChannel = pass.frame.channel.val →
        pass.overlapped = true → pass.frame.isKey = true) ∧
      (pass.stage = .sendsKey ∨ pass.stage = .sends true → pass.frame.isKey = true →
        v.client.state = .playing)))
  | .elapse _ | .proceed | .write .. | .accept _ | .frame _ => inferInstanceAs (Decidable True)

/-! ### The invariant -/

/-- The client waits, and its wait has begun after PLAY and before the clock of a pass was
read that PLAY has not overlapped. -/
def Viewing.WaitsSince (v : Viewing) (since : ℕ) : Prop :=
  v.client.needsIdr = true ∧ ∃ start, since ≤ start ∧ start ≤ v.time ∧
    v.client.idrWaitStartUs = UInt32.ofNat start ∧
    ∀ pass ∈ v.pass, pass.overlapped = false → start ≤ pass.sampledAt

/-- The pass has cleared the mark and sends a key frame next. -/
def Viewing.SendsKey (v : Viewing) : Prop :=
  ∃ pass ∈ v.pass, pass.frame.isKey = true ∧ pass.stage = .sends true

/-- What holds of a pass at its step. -/
structure Viewing.PassSafe (v : Viewing) (pass : Pass) : Prop where
  now : pass.frame.now = UInt32.ofNat pass.sampledAt
  past : pass.sampledAt ≤ v.time
  overlapped : v.play.isIdle = false → pass.overlapped = true
  looked : pass.stage.hasLooked = true → pass.frame.isKey = false → pass.overlapped = false
  clears : pass.stage = .clears → pass.frame.isKey = false →
    ∀ since ∈ v.awaitsKey, v.Expired since
  sends : pass.stage.isSend = true → pass.frame.isKey = true ∨ pass.frame.hasParameters = true ∨
    ∀ since ∈ v.awaitsKey, v.Expired since
  key : pass.stage = .sendsKey → pass.frame.isKey = true
  sent : pass.stage = .sent → v.awaitsKey = none

/-- What holds between the two threads. -/
structure Viewing.Safe (v : Viewing) : Prop where
  past : ∀ since ∈ v.awaitsKey, since ≤ v.time
  admitted : ∀ exchange ∈ v.play.exchange,
    exchange.sendOk = true ∧ v.client.videoChannel < maxVideoStreams
  pass : ∀ pass ∈ v.pass, v.PassSafe pass
  marked : v.play = .marked → ∀ since ∈ v.awaitsKey, v.client.needsIdr = true ∨ v.SendsKey
  waits : v.play.isIdle = true → ∀ since ∈ v.awaitsKey,
    v.WaitsSince since ∨ v.Expired since ∨ v.SendsKey

/-- A wait that seems too long to the loop has been. -/
theorem expired_of_wait {start now : ℕ} (hle : start ≤ now)
    (hwait : 5000000 < UInt32.ofNat now - UInt32.ofNat start) : start + 5000000 < now := by
  rw [UInt32.lt_iff_toNat_lt, UInt32.toNat_sub] at hwait
  simp at hwait
  omega

section Steps

variable {v v' : Viewing} {pass : Pass}

/-- The invariant of a pass stays when time passes, PLAY ends, or a key frame is sent. -/
theorem Viewing.PassSafe.mono (h : v.PassSafe pass) (htime : v.time ≤ v'.time)
    (hplay : v'.play.isIdle = false → v.play.isIdle = false)
    (hawaits : ∀ since ∈ v'.awaitsKey, since ∈ v.awaitsKey) : v'.PassSafe pass where
  now := h.now
  past := h.past.trans htime
  overlapped := fun hbusy => h.overlapped (hplay hbusy)
  looked := h.looked
  clears := fun hstage hkey since hsince =>
    (h.clears hstage hkey since (hawaits since hsince)).trans_le htime
  sends := fun hstage => (h.sends hstage).imp_right fun hrest => hrest.imp_right
    fun hexpired since hsince => (hexpired since (hawaits since hsince)).trans_le htime
  key := h.key
  sent := by
    intro hstage
    rw [Option.eq_none_iff_forall_not_mem]
    intro since hsince
    have hnone := hawaits since hsince
    rw [h.sent hstage] at hnone
    cases hnone

/-- Nothing is to be kept for a client that has been sent a key frame. -/
theorem Viewing.Safe.of_none (hnone : v.awaitsKey = none)
    (hadmitted : ∀ exchange ∈ v.play.exchange,
      exchange.sendOk = true ∧ v.client.videoChannel < maxVideoStreams)
    (hpass : ∀ pass ∈ v.pass, v.PassSafe pass) : v.Safe where
  past := by simp [hnone]
  admitted := hadmitted
  pass := hpass
  marked := by simp [hnone]
  waits := by simp [hnone]

/-- No exchange is under way when PLAY is not. -/
theorem PlayStage.exchange_of_isIdle {play : PlayStage} (h : play.isIdle = true) :
    play.exchange = none := by
  cases play with
  | idle => rfl
  | _ => cases h

/-- Time passes. -/
theorem Viewing.Safe.elapse (h : v.Safe) (us : ℕ) : (v.step (.elapse us)).Safe where
  past := fun since hsince => (h.past since hsince).trans (Nat.le_add_right _ _)
  admitted := h.admitted
  pass := fun pass hpass => (h.pass pass hpass).mono (Nat.le_add_right _ _) id fun _ => id
  marked := h.marked
  waits := by
    intro hidle since hsince
    rcases h.waits hidle since hsince with ⟨hneeds, start, hsinceStart, hstart, hclock, hsampled⟩ |
      hexpired | hkey
    · refine .inl ⟨hneeds, start, hsinceStart, ?_, hclock, hsampled⟩
      exact hstart.trans (Nat.le_add_right _ _)
    · exact .inr (.inl (hexpired.trans_le (Nat.le_add_right _ _)))
    · exact .inr (.inr hkey)

/-- PLAY begins. -/
theorem Viewing.Safe.beginPlay (h : v.Safe) {exchange : Exchange}
    (horderly : v.Orderly (.play exchange)) : (v.step (.play exchange)).Safe := by
  unfold Viewing.step Viewing.beginPlay
  dsimp only
  split
  · rename_i hbegins
    obtain ⟨hsend, hchannel, hclear⟩ := horderly hbegins.1 hbegins.2
    refine ⟨?_, ?_, ?_, nofun, nofun⟩
    · intro since hsince
      dsimp only at hsince
      split at hsince
      · exact (Option.some.inj hsince).ge
      · exact h.past since hsince
    · rintro _ ⟨⟩
      exact ⟨hsend, hchannel⟩
    · intro pass' hpass'
      obtain ⟨pass, hpass, rfl⟩ := Option.map_eq_some_iff.mp hpass'
      have hsafe := h.pass pass hpass
      have hkey := hclear pass hpass
      refine ⟨hsafe.now, hsafe.past, fun _ => rfl, ?_, ?_, ?_, hsafe.key, ?_⟩
      · intro hlooked hnot
        rw [(hkey hlooked).1] at hnot
        cases hnot
      · intro hstage hnot
        rw [(hkey (by dsimp only at hstage; rw [hstage]; rfl)).1] at hnot
        cases hnot
      · intro hstage
        refine .inl (hkey ?_).1
        revert hstage
        cases pass.stage <;> simp [LoopStage.isSend, LoopStage.hasLooked]
      · intro hstage
        exact absurd hstage (hkey (by dsimp only at hstage; rw [hstage]; rfl)).2
  · exact h

/-- PLAY proceeds. -/
theorem Viewing.Safe.proceed (h : v.Safe) : (v.step .proceed).Safe := by
  unfold Viewing.step Viewing.proceed
  dsimp only
  cases hplay : v.play with
  | idle => exact h
  | started exchange | sequenced exchange =>
    have hadmitted := h.admitted exchange (by rw [hplay]; rfl)
    refine ⟨h.past, ?_, fun pass hpass => ?_, nofun, nofun⟩
    · rintro _ ⟨⟩
      exact hadmitted
    · exact (h.pass pass hpass).mono le_rfl (fun _ => by rw [hplay]; rfl) fun _ => id
  | numbered exchange =>
    have hadmitted := h.admitted exchange (by rw [hplay]; rfl)
    unfold Client.sendRtspResponse
    dsimp only
    rw [if_pos hadmitted.1, if_pos ⟨rfl, hadmitted.2⟩]
    refine ⟨h.past, nofun, fun pass hpass => ?_, nofun, nofun⟩
    exact (h.pass pass hpass).mono le_rfl (fun _ => by rw [hplay]; rfl) fun _ => id
  | answered =>
    refine ⟨h.past, nofun, fun pass hpass => ?_, fun _ _ _ => .inl rfl, nofun⟩
    exact (h.pass pass hpass).mono le_rfl (fun _ => by rw [hplay]; rfl) fun _ => id
  | marked =>
    refine ⟨h.past, nofun, fun pass hpass => ?_, nofun, fun _ since hsince => ?_⟩
    · exact (h.pass pass hpass).mono le_rfl nofun fun _ => id
    · rcases h.marked hplay since hsince with hneeds | hkey
      · refine .inl ⟨hneeds, v.time, h.past since hsince, le_rfl, rfl, fun pass hpass hclear => ?_⟩
        have hoverlapped := (h.pass pass hpass).overlapped (by rw [hplay]; rfl)
        rw [hoverlapped] at hclear
        cases hclear
      · exact .inr (.inr hkey)

/-- The server thread writes what other requests write. -/
theorem Viewing.Safe.write (h : v.Safe) (active : Bool) (state : ClientState) (videoChannel : ℤ) :
    (v.step (.write active state videoChannel)).Safe := by
  unfold Viewing.step
  dsimp only
  split
  · rename_i hidle
    refine ⟨h.past, ?_, fun pass hpass => ?_, h.marked, h.waits⟩
    · intro exchange hexchange
      rw [PlayStage.exchange_of_isIdle hidle] at hexchange
      cases hexchange
    · exact (h.pass pass hpass).mono le_rfl id fun _ => id
  · exact h

/-- A connection is accepted. -/
theorem Viewing.Safe.accept (h : v.Safe) (connection : Connection) :
    (v.step (.accept connection)).Safe := by
  unfold Viewing.step
  dsimp only
  split
  · rename_i hidle
    refine .of_none rfl ?_ fun pass hpass => ?_
    · intro exchange hexchange
      rw [PlayStage.exchange_of_isIdle hidle] at hexchange
      cases hexchange
    · exact (h.pass pass hpass).mono le_rfl id nofun
  · exact h

/-- While no key frame is sent next, PLAY has just set the mark. -/
theorem Viewing.Safe.needsIdr (h : v.Safe) (hnot : ¬v.SendsKey) (hmarked : v.play = .marked)
    (since : ℕ) (hsince : since ∈ v.awaitsKey) : v.client.needsIdr = true :=
  (h.marked hmarked since hsince).resolve_right hnot

/-- While no key frame is sent next, the client waits, or its time is over. -/
theorem Viewing.Safe.waits_or_expired (h : v.Safe) (hnot : ¬v.SendsKey)
    (hidle : v.play.isIdle = true) (since : ℕ) (hsince : since ∈ v.awaitsKey) :
    v.WaitsSince since ∨ v.Expired since :=
  (h.waits hidle since hsince).imp_right fun hrest => hrest.resolve_right hnot

/-- The loop for a frame begins. -/
theorem Viewing.Safe.beginPass (h : v.Safe) (frame : LiveFrame) : (v.step (.frame frame)).Safe := by
  unfold Viewing.step Viewing.beginPass
  dsimp only
  split
  · rename_i hnone
    have hnot : ¬v.SendsKey := by
      rintro ⟨pass, hpass, -⟩
      rw [hnone] at hpass
      cases hpass
    refine ⟨h.past, h.admitted, ?_, ?_, ?_⟩
    · rintro _ ⟨⟩
      refine ⟨rfl, le_rfl, fun hbusy => ?_, nofun, nofun, nofun, nofun, nofun⟩
      dsimp only at hbusy ⊢
      rw [hbusy]
      rfl
    · intro hmarked since hsince
      exact .inl (h.needsIdr hnot hmarked since hsince)
    · intro hidle since hsince
      rcases h.waits_or_expired hnot hidle since hsince with
        ⟨hneeds, start, hsinceStart, hstart, hclock, -⟩ | hexpired
      · refine .inl ⟨hneeds, start, hsinceStart, hstart, hclock, ?_⟩
        rintro _ ⟨⟩ -
        exact hstart
      · exact .inr (.inl hexpired)
  · exact h

/-- A pass that does not send a key frame next goes to a step at which it is safe. -/
theorem Viewing.Safe.goTo (h : v.Safe) (hpass : v.pass = some pass) (hnot : ¬v.SendsKey)
    {stage : LoopStage} (hsafe : v.PassSafe { pass with stage := stage }) :
    (v.goTo pass stage).Safe := by
  have hkept : ∀ pass' ∈ (v.goTo pass stage).pass, pass' = { pass with stage := stage } := by
    rintro _ ⟨⟩
    rfl
  refine ⟨h.past, h.admitted, ?_, ?_, ?_⟩
  · intro pass' hpass'
    rw [hkept pass' hpass']
    exact hsafe.mono le_rfl id fun _ => id
  · intro hmarked since hsince
    exact .inl (h.needsIdr hnot hmarked since hsince)
  · intro hidle since hsince
    rcases h.waits_or_expired hnot hidle since hsince with
      ⟨hneeds, start, hsinceStart, hstart, hclock, hsampled⟩ | hexpired
    · refine .inl ⟨hneeds, start, hsinceStart, hstart, hclock, fun pass' hpass' hclear => ?_⟩
      rw [hkept pass' hpass'] at hclear ⊢
      exact hsampled pass hpass hclear
    · exact .inr (.inl hexpired)

/-- A pass that does not send a key frame next may end. -/
theorem Viewing.Safe.endPass (h : v.Safe) (hnot : ¬v.SendsKey) : v.endPass.Safe := by
  refine ⟨h.past, h.admitted, nofun, ?_, ?_⟩
  · intro hmarked since hsince
    exact .inl (h.needsIdr hnot hmarked since hsince)
  · intro hidle since hsince
    rcases h.waits_or_expired hnot hidle since hsince with
      ⟨hneeds, start, hsinceStart, hstart, hclock, -⟩ | hexpired
    · exact .inl ⟨hneeds, start, hsinceStart, hstart, hclock, nofun⟩
    · exact .inr (.inl hexpired)

/-- The wait of a client, as a pass that PLAY has not overlapped finds it. -/
theorem Viewing.Safe.waits_of_not_key (h : v.Safe) (hpass : v.pass = some pass)
    (hlooked : pass.stage.hasLooked = true) (hnot : ¬v.SendsKey)
    (hkey : pass.frame.isKey = false) (since : ℕ) (hsince : since ∈ v.awaitsKey) :
    v.Expired since ∨ v.client.needsIdr = true ∧ ∃ start, since ≤ start ∧
      v.client.idrWaitStartUs = UInt32.ofNat start ∧ start ≤ pass.sampledAt := by
  have hsafe := h.pass pass hpass
  have hclear := hsafe.looked hlooked hkey
  have hidle : v.play.isIdle = true := by
    by_contra hbusy
    rw [hsafe.overlapped (Bool.eq_false_iff.mpr hbusy)] at hclear
    cases hclear
  rcases h.waits_or_expired hnot hidle since hsince with
    ⟨hneeds, start, hsinceStart, -, hclock, hsampled⟩ | hexpired
  · exact .inr ⟨hneeds, start, hsinceStart, hclock, hsampled pass hpass hclear⟩
  · exact .inl hexpired

/-- A pass finds out whether the client waits. -/
theorem Viewing.Safe.look_plays (h : v.Safe) (hpass : v.pass = some pass)
    (hstage : pass.stage = .plays) (hnot : ¬v.SendsKey) : v.look.Safe := by
  have hsafe := h.pass pass hpass
  have hlooked : pass.stage.hasLooked = true := by rw [hstage]; rfl
  unfold Viewing.look
  rw [hpass]
  dsimp only
  rw [hstage]
  dsimp only
  split
  · refine h.goTo hpass hnot ⟨hsafe.now, hsafe.past, hsafe.overlapped, fun _ => ?_, nofun, nofun,
      nofun, nofun⟩
    exact hsafe.looked hlooked
  · rename_i hneeds
    refine h.goTo hpass hnot ⟨hsafe.now, hsafe.past, hsafe.overlapped, fun _ => ?_, nofun,
      fun _ => ?_, nofun, nofun⟩
    · exact hsafe.looked hlooked
    · cases hkey : pass.frame.isKey with
      | true => exact .inl rfl
      | false =>
        refine .inr (.inr fun since hsince => ?_)
        rcases h.waits_of_not_key hpass hlooked hnot hkey since hsince with hexpired | ⟨htrue, -⟩
        · exact hexpired
        · exact absurd htrue hneeds

/-- A pass decides what to do for a client that waits. -/
theorem Viewing.Safe.look_waits (h : v.Safe) (hpass : v.pass = some pass)
    (hstage : pass.stage = .waits) (hnot : ¬v.SendsKey) : v.look.Safe := by
  have hsafe := h.pass pass hpass
  have hlooked : pass.stage.hasLooked = true := by rw [hstage]; rfl
  unfold Viewing.look
  rw [hpass]
  dsimp only
  rw [hstage]
  dsimp only
  cases hoffer : pass.frame.offer true v.client.idrWaitStartUs with
  | dropped => exact h.endPass hnot
  | sent =>
    have hparameters : pass.frame.hasParameters = true := by
      rw [LiveFrame.offer, if_pos rfl] at hoffer
      dsimp only at hoffer
      split_ifs at hoffer with _ _ hparameters
      exact hparameters
    refine h.goTo hpass hnot ⟨hsafe.now, hsafe.past, hsafe.overlapped, fun _ => ?_, nofun,
      fun _ => .inr (.inl hparameters), nofun, nofun⟩
    exact hsafe.looked hlooked
  | sentAsKey =>
    have hkey : pass.frame.isKey = true := by
      rw [LiveFrame.offer, if_pos rfl] at hoffer
      dsimp only at hoffer
      split_ifs at hoffer with _ hkey
      exact hkey
    refine h.goTo hpass hnot ⟨hsafe.now, hsafe.past, hsafe.overlapped, fun _ => ?_, nofun,
      fun _ => .inl hkey, fun _ => hkey, nofun⟩
    exact hsafe.looked hlooked
  | sentByTimeout =>
    have hlong : 5000000 < pass.frame.now - v.client.idrWaitStartUs := by
      rw [LiveFrame.offer, if_pos rfl] at hoffer
      dsimp only at hoffer
      split_ifs at hoffer with hlong
      exact hlong
    refine h.goTo hpass hnot ⟨hsafe.now, hsafe.past, hsafe.overlapped, fun _ => ?_, fun _ hkey =>
      fun since hsince => ?_, nofun, nofun, nofun⟩
    · exact hsafe.looked hlooked
    · rcases h.waits_of_not_key hpass hlooked hnot hkey since hsince with
        hexpired | ⟨-, start, hsinceStart, hclock, hsampled⟩
      · exact hexpired
      · rw [hclock, hsafe.now] at hlong
        have hwait := expired_of_wait hsampled hlong
        have hpast := hsafe.past
        show since + 5000000 < v.time
        omega

/-- A pass ends the wait by time. -/
theorem Viewing.Safe.look_clears (h : v.Safe) (hpass : v.pass = some pass)
    (hstage : pass.stage = .clears) : v.look.Safe := by
  have hsafe := h.pass pass hpass
  have hlooked : pass.stage.hasLooked = true := by rw [hstage]; rfl
  unfold Viewing.look
  rw [hpass]
  dsimp only
  rw [hstage]
  dsimp only
  cases hkey : pass.frame.isKey with
  | true =>
    have hsends : (v.clearNeedsIdr.goTo pass (.sends true)).SendsKey := ⟨_, rfl, hkey, rfl⟩
    refine ⟨h.past, h.admitted, ?_, fun _ _ _ => .inr hsends, fun _ _ _ => .inr (.inr hsends)⟩
    rintro _ ⟨⟩
    exact ⟨hsafe.now, hsafe.past, hsafe.overlapped, fun _ => hsafe.looked hlooked, nofun,
      fun _ => .inl hkey, nofun, nofun⟩
  | false =>
    have hexpired := hsafe.clears hstage hkey
    refine ⟨h.past, h.admitted, ?_, fun hmarked => ?_, fun _ since hsince =>
      .inr (.inl (hexpired since hsince))⟩
    · rintro _ ⟨⟩
      exact ⟨hsafe.now, hsafe.past, hsafe.overlapped, fun _ => hsafe.looked hlooked, nofun,
        fun _ => .inr (.inr hexpired), nofun, nofun⟩
    · -- PLAY is not at work while this frame is on its way
      have hclear := hsafe.looked hlooked hkey
      have hplay : v.play = .marked := hmarked
      rw [hsafe.overlapped (by rw [hplay]; rfl)] at hclear
      cases hclear

/-- A pass sends its frame. -/
theorem Viewing.Safe.look_sends (h : v.Safe) (hpass : v.pass = some pass) {waited : Bool}
    (hstage : pass.stage = .sends waited) (horderly : v.Orderly .look) : v.look.Safe := by
  unfold Viewing.look
  rw [hpass]
  dsimp only
  rw [hstage]
  dsimp only
  unfold Viewing.sendFrame
  split
  · exact .of_none rfl h.admitted nofun
  · rename_i hturned
    refine h.endPass ?_
    rintro ⟨pass', hpass', hkey, hwaited⟩
    obtain rfl : pass = pass' := Option.some.inj (hpass.symm.trans hpass')
    exact hturned ⟨(horderly pass hpass).2 (.inr hwaited) hkey, hkey⟩

/-- A pass sends its key frame to a client that waits. -/
theorem Viewing.Safe.look_sendsKey (h : v.Safe) (hpass : v.pass = some pass)
    (hstage : pass.stage = .sendsKey) (horderly : v.Orderly .look) : v.look.Safe := by
  have hsafe := h.pass pass hpass
  have hkey := hsafe.key hstage
  have hplaying := (horderly pass hpass).2 (.inl hstage) hkey
  unfold Viewing.look
  rw [hpass]
  dsimp only
  rw [hstage]
  dsimp only
  rw [Viewing.sendFrame, if_pos ⟨hplaying, hkey⟩]
  refine .of_none rfl h.admitted ?_
  rintro _ ⟨⟩
  refine ⟨hsafe.now, hsafe.past, hsafe.overlapped, fun _ hnot => ?_, nofun, nofun, nofun,
    fun _ => rfl⟩
  rw [hkey] at hnot
  cases hnot

/-- The next step of a pass. -/
theorem Viewing.Safe.look (h : v.Safe) (horderly : v.Orderly .look) : (v.step .look).Safe := by
  show v.look.Safe
  cases hpass : v.pass with
  | none =>
    unfold Viewing.look
    rw [hpass]
    exact h
  | some pass =>
    have hsafe := h.pass pass hpass
    have hnot : pass.stage ≠ .sends true → ¬v.SendsKey := by
      rintro hstage ⟨pass', hpass', -, hsends⟩
      obtain rfl : pass = pass' := Option.some.inj (hpass.symm.trans hpass')
      exact hstage hsends
    have hearly : ∀ stage : LoopStage, stage.hasLooked = false →
        v.PassSafe { pass with stage := stage } := by
      intro stage hstage
      refine ⟨hsafe.now, hsafe.past, hsafe.overlapped, ?_, ?_, ?_, ?_, ?_⟩
      all_goals
        intro hlater
        dsimp only at hlater
        revert hstage hlater
        cases stage <;> simp [LoopStage.hasLooked, LoopStage.isSend]
    cases hstage : pass.stage with
    | plays => exact h.look_plays hpass hstage (hnot (by rw [hstage]; decide))
    | waits => exact h.look_waits hpass hstage (hnot (by rw [hstage]; decide))
    | clears => exact h.look_clears hpass hstage
    | sends waited => exact h.look_sends hpass hstage horderly
    | sendsKey => exact h.look_sendsKey hpass hstage horderly
    | sampled | active =>
      unfold Viewing.look
      rw [hpass]
      dsimp only
      rw [hstage]
      dsimp only
      split
      · exact h.goTo hpass (hnot (by rw [hstage]; decide)) (hearly _ rfl)
      · exact h.endPass (hnot (by rw [hstage]; decide))
    | playing =>
      unfold Viewing.look
      rw [hpass]
      dsimp only
      rw [hstage]
      dsimp only
      split
      · rename_i hchannel
        refine h.goTo hpass (hnot (by rw [hstage]; decide)) ⟨hsafe.now, hsafe.past,
          hsafe.overlapped, fun _ hkey => ?_, nofun, nofun, nofun, nofun⟩
        have hclear := (horderly pass hpass).1 hstage hchannel
        rw [hkey] at hclear
        exact Bool.eq_false_iff.mpr fun hoverlapped => Bool.false_ne_true (hclear hoverlapped)
      · exact h.endPass (hnot (by rw [hstage]; decide))
    | sent =>
      unfold Viewing.look
      rw [hpass]
      dsimp only
      rw [hstage]
      exact .of_none (hsafe.sent hstage) h.admitted nofun

/-- An orderly step keeps the invariant and, under it, shows key frames first. -/
theorem Viewing.Safe.step (h : v.Safe) {event : ViewingEvent} (horderly : v.Orderly event) :
    v.KeyFirst event ∧ (v.step event).Safe := by
  cases event with
  | elapse us => exact ⟨trivial, h.elapse us⟩
  | play exchange => exact ⟨trivial, h.beginPlay horderly⟩
  | proceed => exact ⟨trivial, h.proceed⟩
  | write active state videoChannel => exact ⟨trivial, h.write active state videoChannel⟩
  | accept connection => exact ⟨trivial, h.accept connection⟩
  | frame frame => exact ⟨trivial, h.beginPass frame⟩
  | look => exact ⟨fun pass hpass hsend _ => (h.pass pass hpass).sends hsend, h.look horderly⟩

end Steps

/-- A slot before any of this. -/
def Viewing.start (client : Client) (time : ℕ) : Viewing := ⟨client, time, .idle, none, none⟩

/-- A viewer starts on a key frame in every run in which PLAY is not overlapped. -/
theorem Viewing.run_keyFirst (client : Client) (time : ℕ) {events : List ViewingEvent}
    (horderly : Runs.Guarded Viewing.step Viewing.Orderly (.start client time) events) :
    Runs.Guarded Viewing.step Viewing.KeyFirst (.start client time) events := by
  have hstart : (Viewing.start client time).Safe := .of_none rfl nofun nofun
  exact horderly.imp Viewing.Safe (fun v event hsafe hevent => hsafe.step hevent) hstart

/-- A frame of the first stream with one unit. -/
def unitFrame (header : UInt8) : LiveFrame := ⟨[0, 0, 0, 1, header, 0x88], 0, .h264, 0, 0, 7⟩

/-- A slice that needs others, and a slice of a key frame. -/
def laterSlice : LiveFrame := unitFrame 0x41

@[inherit_doc laterSlice] def keySlice : LiveFrame := unitFrame 0x65

/-- PLAY, whose text does not matter any more. -/
def viewerPlays : Exchange := .receive "" noText_fits

/-- The loop for a frame from its start to its end. -/
def wholePass (frame : LiveFrame) : List ViewingEvent := .frame frame :: List.replicate 7 .look

/-- A viewer plays, and three frames follow. -/
def playThenFrames : List ViewingEvent :=
  .accept viewerConnection :: .write true .ready 0 :: .play viewerPlays ::
    List.replicate 5 .proceed ++ wholePass laterSlice ++ wholePass keySlice ++ wholePass laterSlice

/-- Frames that come after PLAY are shown from the key frame on. -/
theorem Viewing.run_keyFirst_playThenFrames :
    Runs.Guarded Viewing.step Viewing.KeyFirst (.start .initial 1000000) playThenFrames :=
  Viewing.run_keyFirst .initial 1000000 (by decide +kernel)

/-- A slice is sent between the state that PLAY sets and the mark of the wait. -/
theorem Viewing.not_run_keyFirst :
    ¬∀ (client : Client) (time : ℕ) (events : List ViewingEvent),
      Runs.Guarded Viewing.step Viewing.KeyFirst (.start client time) events := by
  intro h
  have hshown := h .initial 1000000 (.accept viewerConnection :: .write true .ready 0 ::
    .play viewerPlays :: wholePass laterSlice)
  revert hshown
  decide +kernel

end Rtsp
