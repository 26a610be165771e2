import Strero.FrameAssembly
import Strero.Rtsp.ShownFrames

/-!
# From the encoder to the viewers

The thread of the frame manager puts the frames of the encoder together and hands them to the
consumers. The consumer of the RTSP module, which asks for the first two channels, gives them to the
server, and the server offers them to its clients. Other modules come and go in the table of
consumers meanwhile, and other clients in the slots.
-/

namespace Rtsp

open CString Runs
open FrameManager (Manager FrameConsumer FrameInfo Buffers EncoderCalls EncoderStream
  processFrameFromEncoder)

/-! ### The consumer of the RTSP module -/

/-- The callback of the RTSP consumer, or that of another module. -/
inductive FrameCallback (Other : Type*)
  | rtsp
  | other (callback : Other)
deriving DecidableEq

/-- The table of consumers, whose user data may be the null pointer. -/
abbrev Consumers (Other UserData : Type*) := Manager (FrameCallback Other) (Option UserData)

variable {Other UserData : Type*}

/-- `frame_manager_get_consumer_count`. -/
def frameManagerGetConsumerCount (m : Consumers Other UserData) (channel : Fin 4) : ℕ :=
  m.consumers.countP fun c => c.active && (c.channelMask &&& 1#32 <<< channel.val) != 0#32

/-- `g_rtsp_consumer`. Of the pointer to the server it is known whether it is set. -/
structure RtspConsumer where
  consumerId : ℤ
  rtspServer : Bool
  initialized : Bool
deriving DecidableEq

/-- As the program starts. -/
def RtspConsumer.unset : RtspConsumer := ⟨0, false, false⟩

/-- What `rtsp_consumer_init` registers. -/
def rtspFrameConsumer : FrameConsumer (FrameCallback Other) (Option UserData) where
  name := some (ascii "RTSP")
  callback := some .rtsp
  userData := none
  channelMask := 0x03#32
  active := true

/-- `rtsp_consumer_init`, which is given a server or the null pointer. -/
def rtspConsumerInit (m : Consumers Other UserData) (c : RtspConsumer) (rtspServer : Bool) :
    (Consumers Other UserData × RtspConsumer) × ℤ :=
  if c.initialized then ((m, c), 0)
  else if rtspServer = false then ((m, c), -1)
  else
    let r := m.registerConsumer (some rtspFrameConsumer)
    if r.2 < 0 then ((r.1, ⟨r.2, true, false⟩), -1) else ((r.1, ⟨r.2, true, true⟩), 0)

/-- `rtsp_consumer_cleanup`. -/
def rtspConsumerCleanup (m : Consumers Other UserData) (c : RtspConsumer) :
    Consumers Other UserData × RtspConsumer :=
  if c.initialized then
    (if 0 ≤ c.consumerId then (m.unregisterConsumer c.consumerId).1 else m,
      { c with initialized := false })
  else (m, c)

/-- `rtsp_consumer_set_enabled`. -/
def rtspConsumerSetEnabled (m : Consumers Other UserData) (c : RtspConsumer) (enabled : Bool) :
    Consumers Other UserData × ℤ :=
  if c.initialized then m.setConsumerEnabled c.consumerId enabled else (m, -1)

/-! ### The thread of the frame manager -/

/-- What is read besides a frame: the codec that the encoder reports, the clocks before and in the
loop over the clients, and what `calculate_monotonic_rtp_timestamp` may draw. -/
structure Reading where
  codec : Codec
  now : UInt32
  sendTime : UInt64
  random : UInt32
  sendTimes : Slot → UInt64

/-- The frame as the server is given it. -/
def Reading.frame (reading : Reading) (channel : Fin 4) (data : List UInt8) : LiveFrame :=
  ⟨data, channel, reading.codec, reading.now, reading.sendTime, reading.random⟩

/-- A call of a callback: `rtsp_frame_callback`, or one that does not concern the server. -/
def callConsumer (net : Slot → Network) (c : RtspConsumer) (channel : Fin 4) (reading : Reading)
    (viewers : Viewers) (delivery : FrameManager.Delivery (FrameCallback Other) (Option UserData)) :
    Option Viewers :=
  match delivery.callback with
  | some .rtsp =>
    if c.rtspServer then
      rtspServerSendFrame net viewers (reading.frame channel delivery.frame.data) reading.sendTimes
    else some viewers
  | some (.other _) | none => some viewers

/-- The frame manager, the RTSP consumer, and the clock and the clients of the server. -/
structure LiveSystem (Other UserData : Type*) where
  buffers : Buffers
  manager : Consumers Other UserData
  consumer : RtspConsumer
  viewers : Viewers

/-- Before the first call. -/
def LiveSystem.start (viewers : Viewers) : LiveSystem Other UserData :=
  ⟨.empty, .empty, .unset, viewers⟩

/-- The thread comes to a channel. -/
def LiveSystem.turn (net : Slot → Network) (s : LiveSystem Other UserData) (channel : Fin 4)
    (calls : EncoderCalls) (reading : Reading) : Option (LiveSystem Other UserData) :=
  if 0 < frameManagerGetConsumerCount s.manager channel then
    (processFrameFromEncoder s.buffers channel calls).bind fun processed =>
      match processed.2 with
      | none => some { s with buffers := processed.1 }
      | some frame =>
        ((s.manager.distributeFrameToConsumers frame.info).foldlM
          (callConsumer net s.consumer channel reading) s.viewers).map
            fun viewers => { s with buffers := processed.1, viewers := viewers }
  else some s

/-- What happens: a call of the RTSP module, one of another module, a client that has become
another, and a turn of the thread. -/
inductive LiveEvent (Other UserData : Type*)
  | init (rtspServer : Bool)
  | cleanup
  | setEnabled (enabled : Bool)
  | call (call : FrameManager.Call (FrameCallback Other) (Option UserData))
  | client (slot : Slot) (sender : Sender)
  | turn (channel : Fin 4) (calls : EncoderCalls) (reading : Reading)

/-- One event. -/
def LiveSystem.step (net : Slot → Network) (s : LiveSystem Other UserData) :
    LiveEvent Other UserData → Option (LiveSystem Other UserData)
  | .init rtspServer =>
    let r := (rtspConsumerInit s.manager s.consumer rtspServer).1
    some { s with manager := r.1, consumer := r.2 }
  | .cleanup =>
    let r := rtspConsumerCleanup s.manager s.consumer
    some { s with manager := r.1, consumer := r.2 }
  | .setEnabled enabled =>
    some { s with manager := (rtspConsumerSetEnabled s.manager s.consumer enabled).1 }
  | .call call => some { s with manager := (s.manager.call call).1 }
  | .client slot sender =>
    some { s with viewers := (s.viewers.1, Function.update s.viewers.2 slot sender) }
  | .turn channel calls reading => s.turn net channel calls reading

/-- Another module calls with its own callback and for its own consumers. -/
def LiveSystem.Permits (s : LiveSystem Other UserData) : LiveEvent Other UserData → Prop
  | .call (.register (some consumer)) => consumer.callback ≠ some .rtsp
  | .call (.unregister consumerId) | .call (.setEnabled consumerId _) =>
    0 ≤ consumerId → ∀ c ∈ s.manager.consumers[consumerId.toNat]?, c.callback ≠ some .rtsp
  | _ => True

/-- The consumer of the RTSP module is active. -/
def LiveSystem.listens (s : LiveSystem Other UserData) : Bool :=
  s.manager.consumers[s.consumer.consumerId.toNat]?.any (·.active)

/-! ### The consumer in the table -/

/-- An entry of the table with the callback of the RTSP module. -/
def LiveSystem.HasEntry (s : LiveSystem Other UserData) (i : ℕ)
    (c : FrameConsumer (FrameCallback Other) (Option UserData)) : Prop :=
  s.manager.consumers[i]? = some c ∧ c.callback = some .rtsp

/-- The buffers have their capacities, and of the entries of the RTSP module none is active except
the one that it holds, which asks for the first two channels. -/
structure LiveSystem.Wired (s : LiveSystem Other UserData) : Prop where
  sound : s.buffers.Sound
  server : s.consumer.initialized = true → s.consumer.rtspServer = true
  entry : s.consumer.initialized = true →
    ∃ (i : ℕ) (c : _), s.consumer.consumerId = i ∧ s.HasEntry i c ∧ c.channelMask = 0x03#32
  others : ∀ i c, s.HasEntry i c → c.active = true →
    s.consumer.initialized = true ∧ s.consumer.consumerId = i

variable {s s' : LiveSystem Other UserData} {net : Slot → Network}

theorem wired_start (viewers : Viewers) :
    (LiveSystem.start viewers : LiveSystem Other UserData).Wired where
  sound := FrameManager.Buffers.empty_sound
  server := fun h => absurd h Bool.false_ne_true
  entry := fun h => absurd h Bool.false_ne_true
  others := fun i c h => absurd h.1 (by simp [LiveSystem.start, Manager.empty])

/-- What `setActive` does to the entries. -/
theorem getElem?_setActive (m : Consumers Other UserData) (slot i : ℕ) (active : Bool) :
    (m.setActive slot active).consumers[i]? =
      if slot = i then m.consumers[i]?.map fun c => { c with active := active }
      else m.consumers[i]? := by
  rw [Manager.setActive, List.getElem?_modify]
  split_ifs
  · rfl
  · exact id_map' _

/-- The flag of the consumer that the RTSP module holds is set. -/
theorem LiveSystem.Wired.setEnabled (h : s.Wired) (hinit : s.consumer.initialized = true)
    (enabled : Bool) :
    let m := (rtspConsumerSetEnabled s.manager s.consumer enabled).1
    ({ s with manager := m } : LiveSystem Other UserData).Wired ∧
      ({ s with manager := m } : LiveSystem Other UserData).listens = enabled := by
  obtain ⟨i, c, hid, ⟨hget, hcallback⟩, hmask⟩ := h.entry hinit
  have hhas : s.manager.hasId s.consumer.consumerId = true := by
    have hlt := (List.getElem?_eq_some_iff.mp hget).1
    simp only [Manager.hasId, hid, Bool.and_eq_true, decide_eq_true_eq]
    omega
  have hm : (rtspConsumerSetEnabled s.manager s.consumer enabled).1 =
      s.manager.setActive i enabled := by
    rw [rtspConsumerSetEnabled, if_pos hinit, Manager.setConsumerEnabled, if_pos hhas, hid,
      Int.toNat_natCast]
  intro m
  rw [show m = s.manager.setActive i enabled from hm]
  have hentry : (s.manager.setActive i enabled).consumers[i]? =
      some { c with active := enabled } := by
    rw [getElem?_setActive, if_pos rfl, hget]
    rfl
  refine ⟨⟨h.sound, h.server, fun _ => ⟨i, _, hid, ⟨hentry, hcallback⟩, hmask⟩, ?_⟩, ?_⟩
  · rintro j d ⟨hd, hcall⟩ hactive
    refine ⟨hinit, ?_⟩
    dsimp only at hd ⊢
    by_cases hsame : i = j
    · exact hid.trans (congrArg _ hsame)
    · rw [getElem?_setActive, if_neg hsame] at hd
      exact (h.others j d ⟨hd, hcall⟩ hactive).2
  · rw [LiveSystem.listens]
    dsimp only
    rw [hid, Int.toNat_natCast, hentry]
    rfl

/-- What the invariant says is about the entries of the RTSP module only. -/
theorem LiveSystem.Wired.of_entries (h : s.Wired) (hsound : s'.buffers.Sound)
    (hconsumer : s'.consumer = s.consumer) (hentries : ∀ i c, s'.HasEntry i c ↔ s.HasEntry i c) :
    s'.Wired := by
  refine ⟨hsound, ?_, ?_, ?_⟩
  · rw [hconsumer]
    exact h.server
  · rw [hconsumer]
    intro hinit
    obtain ⟨i, c, hid, hentry, hmask⟩ := h.entry hinit
    exact ⟨i, c, hid, (hentries i c).mpr hentry, hmask⟩
  · rw [hconsumer]
    exact fun i c hentry hactive => h.others i c ((hentries i c).mp hentry) hactive

/-- And so is whether its consumer is active. -/
theorem LiveSystem.Wired.listens_of_entries (h : s.Wired) (hinit : s.consumer.initialized = true)
    (hconsumer : s'.consumer = s.consumer) (hentries : ∀ i c, s'.HasEntry i c ↔ s.HasEntry i c) :
    s'.listens = s.listens := by
  obtain ⟨i, c, hid, hentry, -⟩ := h.entry hinit
  rw [LiveSystem.listens, LiveSystem.listens, hconsumer, hid, Int.toNat_natCast, hentry.1,
    ((hentries i c).mpr hentry).1]

/-- A call of another module leaves the entries of the RTSP module alone. -/
theorem hasEntry_call {call : FrameManager.Call (FrameCallback Other) (Option UserData)}
    (hpermits : s.Permits (.call call)) (i : ℕ)
    (c : FrameConsumer (FrameCallback Other) (Option UserData)) :
    ({ s with manager := (s.manager.call call).1 } : LiveSystem Other UserData).HasEntry i c ↔
      s.HasEntry i c := by
  have hactive : ∀ (slot : ℕ) (active : Bool),
      (∀ d ∈ s.manager.consumers[slot]?, d.callback ≠ some .rtsp) →
      (((s.manager.setActive slot active).consumers[i]? = some c ∧ c.callback = some .rtsp) ↔
        s.HasEntry i c) := by
    intro slot active hforeign
    rw [getElem?_setActive]
    split_ifs with hsame
    · subst hsame
      refine iff_of_false (fun hboth => ?_) fun hentry => hforeign c hentry.1 hentry.2
      obtain ⟨d, hd, rfl⟩ := Option.map_eq_some_iff.mp hboth.1
      exact hforeign d hd hboth.2
    · rfl
  cases call with
  | distribute frame => rfl
  | unregister consumerId =>
    unfold LiveSystem.HasEntry Manager.call Manager.unregisterConsumer
    dsimp only
    split_ifs with hid
    · exact hactive _ false (hpermits (by
        simp only [Manager.hasId, Bool.and_eq_true, decide_eq_true_eq] at hid
        exact hid.1))
    · rfl
  | setEnabled consumerId enabled =>
    unfold LiveSystem.HasEntry Manager.call Manager.setConsumerEnabled
    dsimp only
    split_ifs with hid
    · exact hactive _ enabled (hpermits (by
        simp only [Manager.hasId, Bool.and_eq_true, decide_eq_true_eq] at hid
        exact hid.1))
    · rfl
  | register consumer =>
    unfold LiveSystem.HasEntry Manager.call
    dsimp only
    rcases s.manager.registerConsumer_cases consumer with hfail | ⟨d, rfl, hvalid, hroom⟩
    · rw [hfail]
    · rw [(s.manager.registerConsumer_some hvalid hroom).1, List.getElem?_append]
      split_ifs with hlt
      · rfl
      · refine iff_of_false (fun hboth => ?_) fun hentry => hlt ?_
        · obtain rfl := List.mem_singleton.mp (List.mem_of_getElem? hboth.1)
          exact hpermits hboth.2
        · exact (List.getElem?_eq_some_iff.mp hentry.1).1

/-- A turn of the thread changes the buffers, and what the server keeps. -/
theorem turn_eq {channel : Fin 4} {calls : EncoderCalls} {reading : Reading}
    (h : s.turn net channel calls reading = some s') :
    s'.manager = s.manager ∧ s'.consumer = s.consumer ∧
      (s.buffers.Sound → s'.buffers.Sound) := by
  unfold LiveSystem.turn at h
  split_ifs at h
  · obtain ⟨⟨buffers, frame⟩, hprocessed, hrest⟩ := Option.bind_eq_some_iff.mp h
    have hsound := fun hs : s.buffers.Sound => hs.process hprocessed
    cases frame with
    | none =>
      obtain rfl := Option.some.inj hrest
      exact ⟨rfl, rfl, hsound⟩
    | some frame =>
      obtain ⟨viewers, -, rfl⟩ := Option.map_eq_some_iff.mp hrest
      exact ⟨rfl, rfl, hsound⟩
  · obtain rfl := Option.some.inj h
    exact ⟨rfl, rfl, id⟩

/-- The RTSP consumer is registered in the slot behind all others. -/
theorem LiveSystem.Wired.init (h : s.Wired) (rtspServer : Bool) :
    let r := (rtspConsumerInit s.manager s.consumer rtspServer).1
    ({ s with manager := r.1, consumer := r.2 } : LiveSystem Other UserData).Wired := by
  unfold rtspConsumerInit
  cases hinit : s.consumer.initialized with
  | true => exact h
  | false =>
    have hnone : ∀ i c, s.HasEntry i c → c.active ≠ true := fun i c hentry hactive => by
      have hheld := (h.others i c hentry hactive).1
      rw [hinit] at hheld
      cases hheld
    cases rtspServer with
    | false => exact h
    | true =>
      rw [if_neg Bool.false_ne_true, if_neg Bool.false_ne_true.symm]
      dsimp only
      rcases s.manager.registerConsumer_cases (some rtspFrameConsumer) with
        hfail | ⟨d, hd, hvalid, hroom⟩
      · rw [hfail, if_pos (show (-1 : ℤ) < 0 by decide)]
        exact ⟨h.sound, fun hset => (by cases hset), fun hset => (by cases hset),
          fun i c hentry hactive => absurd hactive (hnone i c hentry)⟩
      · obtain rfl := Option.some.inj hd
        obtain ⟨hconsumers, hid⟩ := s.manager.registerConsumer_some hvalid hroom
        rw [if_neg (by rw [hid]; omega)]
        refine ⟨h.sound, fun _ => rfl, fun _ => ⟨s.manager.consumers.length, rtspFrameConsumer, hid,
          ⟨?_, rfl⟩, rfl⟩, ?_⟩
        · dsimp only
          rw [hconsumers, List.getElem?_append_right le_rfl, Nat.sub_self]
          rfl
        · rintro i c ⟨hget, hcallback⟩ hactive
          refine ⟨rfl, hid.trans ?_⟩
          dsimp only at hget
          rw [hconsumers, List.getElem?_append] at hget
          split_ifs at hget with hlt
          · exact absurd hactive (hnone i c ⟨hget, hcallback⟩)
          · have hzero := (List.getElem?_eq_some_iff.mp hget).1
            rw [List.length_singleton] at hzero
            congr 1
            omega

/-- The RTSP module gives its entry up. -/
theorem LiveSystem.Wired.cleanup (h : s.Wired) :
    let r := rtspConsumerCleanup s.manager s.consumer
    ({ s with manager := r.1, consumer := r.2 } : LiveSystem Other UserData).Wired := by
  unfold rtspConsumerCleanup
  cases hinit : s.consumer.initialized with
  | false =>
    rw [if_neg Bool.false_ne_true]
    exact h
  | true =>
    obtain ⟨i, c, hid, ⟨hget, hcallback⟩, -⟩ := h.entry hinit
    have hhas : s.manager.hasId s.consumer.consumerId = true := by
      have hlt := (List.getElem?_eq_some_iff.mp hget).1
      simp only [Manager.hasId, hid, Bool.and_eq_true, decide_eq_true_eq]
      omega
    have hm : (s.manager.unregisterConsumer s.consumer.consumerId).1 =
        s.manager.setActive i false := by
      rw [Manager.unregisterConsumer, if_pos hhas, hid, Int.toNat_natCast]
    rw [if_pos rfl, if_pos (hid ▸ Int.natCast_nonneg i), hm]
    refine ⟨h.sound, fun h => (by cases h), fun h => (by cases h), ?_⟩
    rintro j d ⟨hd, hcall⟩ hactive
    dsimp only at hd
    rw [getElem?_setActive] at hd
    split_ifs at hd with hsame
    · obtain ⟨e, -, rfl⟩ := Option.map_eq_some_iff.mp hd
      cases hactive
    · have hother := (h.others j d ⟨hd, hcall⟩ hactive).2
      rw [hid] at hother
      exact absurd (Int.ofNat.inj hother) hsame

/-- Every event keeps the entries in order. -/
theorem LiveSystem.Wired.step (h : s.Wired) {e : LiveEvent Other UserData} (hpermits : s.Permits e)
    (hstep : s.step net e = some s') : s'.Wired := by
  cases e with
  | init rtspServer =>
    obtain rfl := Option.some.inj hstep
    exact h.init rtspServer
  | cleanup =>
    obtain rfl := Option.some.inj hstep
    exact h.cleanup
  | setEnabled enabled =>
    obtain rfl := Option.some.inj hstep
    cases hinit : s.consumer.initialized with
    | true => exact (h.setEnabled hinit enabled).1
    | false =>
      rw [rtspConsumerSetEnabled, hinit, if_neg Bool.false_ne_true]
      exact h
  | call call =>
    obtain rfl := Option.some.inj hstep
    exact h.of_entries h.sound rfl (hasEntry_call hpermits)
  | client slot sender =>
    obtain rfl := Option.some.inj hstep
    exact h.of_entries h.sound rfl fun _ _ => Iff.rfl
  | turn channel calls reading =>
    obtain ⟨hmanager, hconsumer, hsound⟩ := turn_eq hstep
    refine h.of_entries (hsound h.sound) hconsumer fun i c => ?_
    rw [LiveSystem.HasEntry, LiveSystem.HasEntry, hmanager]

/-! ### A frame for the server -/

variable {channel : Fin 4} {reading : Reading} {viewers : Viewers}

/-- Other callbacks leave the clients of the server alone. -/
theorem foldlM_callConsumer_foreign {consumer : RtspConsumer}
    {deliveries : List (FrameManager.Delivery (FrameCallback Other) (Option UserData))}
    (h : ∀ d ∈ deliveries, d.callback ≠ some .rtsp) :
    deliveries.foldlM (callConsumer net consumer channel reading) viewers = some viewers := by
  induction deliveries with
  | nil => rfl
  | cons d deliveries ih =>
    obtain ⟨hd, hdeliveries⟩ := List.forall_mem_cons.mp h
    have hfirst : callConsumer net consumer channel reading viewers d = some viewers := by
      unfold callConsumer
      split
      · rename_i hcallback
        exact absurd hcallback hd
      · rfl
      · rfl
    rw [List.foldlM_cons, hfirst]
    exact ih hdeliveries

/-- The mask of the RTSP consumer has the bits of the first two channels. -/
theorem getLsbD_rtspMask (channel : Fin 4) :
    (0x03#32).getLsbD channel.val = decide (channel.val < 2) := by
  revert channel
  decide

/-- The entries around that of the RTSP module do not ask for frames with its callback. -/
theorem LiveSystem.Wired.foreign (h : s.Wired) {i : ℕ} (hid : s.consumer.consumerId = i)
    {entries : List (FrameConsumer (FrameCallback Other) (Option UserData))} {frame : FrameInfo}
    (hentries : ∀ c ∈ entries, ∃ j, j ≠ i ∧ s.manager.consumers[j]? = some c) :
    ∀ d ∈ (entries.filter (·.wants frame)).map (·.delivery frame), d.callback ≠ some .rtsp := by
  intro d hd hcallback
  obtain ⟨c, hc, rfl⟩ := List.mem_map.mp hd
  obtain ⟨hmem, hwants⟩ := List.mem_filter.mp hc
  obtain ⟨j, hne, hget⟩ := hentries c hmem
  rw [FrameConsumer.wants_eq, Bool.and_eq_true] at hwants
  have hheld := (h.others j c ⟨hget, hcallback⟩ hwants.1).2
  rw [hid] at hheld
  exact hne (Int.ofNat.inj hheld).symm

/-- The server is given the frame if the RTSP consumer is active and the channel is one of its. -/
theorem LiveSystem.Wired.distribute (h : s.Wired) (hinit : s.consumer.initialized = true)
    {frame : FrameInfo} (hchannel : frame.channel = channel.val) :
    (s.manager.distributeFrameToConsumers frame).foldlM
        (callConsumer net s.consumer channel reading) viewers =
      if s.listens = true ∧ channel.val < 2 then
        rtspServerSendFrame net viewers (reading.frame channel frame.data) reading.sendTimes
      else some viewers := by
  obtain ⟨i, c, hid, ⟨hget, hcallback⟩, hmask⟩ := h.entry hinit
  have hlistens : s.listens = c.active := by
    rw [LiveSystem.listens, hid, Int.toNat_natCast, hget]
    rfl
  have hwants : c.wants frame = decide (s.listens = true ∧ channel.val < 2) := by
    rw [FrameConsumer.wants_eq, hmask, hchannel, getLsbD_rtspMask, hlistens]
    cases c.active <;> simp
  obtain ⟨hlt, hc⟩ := List.getElem?_eq_some_iff.mp hget
  have hsplit : s.manager.consumers =
      s.manager.consumers.take i ++ c :: s.manager.consumers.drop (i + 1) := by
    rw [← hc, ← List.drop_eq_getElem_cons hlt, List.take_append_drop]
  have hfront : ∀ d ∈ s.manager.consumers.take i,
      ∃ j, j ≠ i ∧ s.manager.consumers[j]? = some d := by
    intro d hd
    obtain ⟨j, hj⟩ := List.mem_iff_getElem?.mp hd
    rw [List.getElem?_take] at hj
    split_ifs at hj with hbefore
    exact ⟨j, hbefore.ne, hj⟩
  have hback : ∀ d ∈ s.manager.consumers.drop (i + 1),
      ∃ j, j ≠ i ∧ s.manager.consumers[j]? = some d := by
    intro d hd
    obtain ⟨j, hj⟩ := List.mem_iff_getElem?.mp hd
    rw [List.getElem?_drop] at hj
    exact ⟨i + 1 + j, by omega, hj⟩
  rw [Manager.distributeFrameToConsumers, hsplit, List.filter_append, List.map_append,
    List.foldlM_append, foldlM_callConsumer_foreign (h.foreign hid hfront), Option.bind_eq_bind,
    Option.bind_some, List.filter_cons, hwants]
  by_cases hgiven : s.listens = true ∧ channel.val < 2
  · rw [if_pos (decide_eq_true hgiven), if_pos hgiven, List.map_cons, List.foldlM_cons]
    have hcalled : callConsumer net s.consumer channel reading viewers (c.delivery frame) =
        rtspServerSendFrame net viewers (reading.frame channel frame.data) reading.sendTimes := by
      rw [callConsumer]
      have hcall : (c.delivery frame).callback = some .rtsp := hcallback
      rw [hcall]
      dsimp only
      rw [if_pos (h.server hinit)]
      rfl
    rw [hcalled]
    cases rtspServerSendFrame net viewers (reading.frame channel frame.data) reading.sendTimes with
    | none => rfl
    | some viewers' => exact foldlM_callConsumer_foreign (h.foreign hid hback)
  · rw [if_neg (by simpa using hgiven), if_neg hgiven]
    exact foldlM_callConsumer_foreign (h.foreign hid hback)

/-- An active RTSP consumer is counted for its channels. -/
theorem LiveSystem.Wired.count_pos (h : s.Wired) (hinit : s.consumer.initialized = true)
    (hgiven : s.listens = true ∧ channel.val < 2) :
    0 < frameManagerGetConsumerCount s.manager channel := by
  obtain ⟨i, c, hid, ⟨hget, -⟩, hmask⟩ := h.entry hinit
  have hlistens : s.listens = c.active := by
    rw [LiveSystem.listens, hid, Int.toNat_natCast, hget]
    rfl
  have hwants := FrameConsumer.wants_eq c ⟨[], channel.val, 0, false⟩
  rw [hmask, getLsbD_rtspMask, ← hlistens, hgiven.1, decide_eq_true hgiven.2] at hwants
  exact List.countP_pos_iff.mpr ⟨c, List.mem_of_getElem? hget, hwants⟩

/-- The packs are put together, if they can be counted and there is memory for them. -/
theorem processFrameFromEncoder_some {buffers : Buffers} (hsound : buffers.Sound)
    {stream : EncoderStream} (htotal : stream.totalLength < 2 ^ 32)
    (hcount : stream.packs.length < 2 ^ 31) {realloc : Option (ℕ → UInt8)}
    (hgrows : ¬(buffers.cap channel < FrameManager.frameSize stream ∧ realloc = none)) :
    ∃ buffers' frame, processFrameFromEncoder buffers channel ⟨some stream, realloc⟩ =
        some (buffers', some frame) ∧ frame.info.data = stream.logicalBytes ∧
      frame.info.channel = channel.val := by
  rw [← FrameManager.grow_eq_none_iff (buffers.buf channel)] at hgrows
  obtain ⟨⟨memory, cap⟩, hgrow⟩ := Option.ne_none_iff_exists'.mp hgrows
  obtain ⟨hmemory, hroom⟩ := FrameManager.grow_eq_some (hsound channel) hgrow
  obtain ⟨copied, hcopy, -, htake⟩ :=
    FrameManager.copyPacks_frameSize htotal (.inl hcount) hmemory hroom
  unfold processFrameFromEncoder
  dsimp only
  rw [hgrow]
  dsimp only
  rw [hcopy]
  exact ⟨_, _, rfl, htake, rfl⟩

/-! ### What a viewer watches -/

/-- What there is to say of a viewer: whether the RTSP consumer is active, whether the viewer waits
for a key frame, and the frames that it has been shown. -/
structure Watching where
  enabled : Bool
  waits : Bool
  frames : List UnitFrame

/-- The viewer is shown the frames of its channel. -/
def Watching.step (client : Client) (content : EncoderStream → UnitFrame) (w : Watching) :
    LiveEvent Other UserData → Watching
  | .setEnabled enabled => { w with enabled := enabled }
  | .turn channel calls reading =>
    match calls.stream with
    | none => w
    | some stream =>
      if w.enabled = true ∧ channel.val < 2 ∧ client.videoChannel = channel.val then
        let offer := (reading.frame channel (content stream).bytes).offer w.waits
          client.idrWaitStartUs
        { w with waits := offer.waits w.waits, frames := w.frames ++ offer.shown (content stream) }
      else w
  | .init _ | .cleanup | .call _ | .client _ _ => w

/-- The encoder delivers frames of NAL units on the first two channels, there is memory for each
frame, nothing is done to the viewer, and the RTSP module is not stopped. -/
def LiveSystem.Undisturbed (slot : Slot) (content : EncoderStream → UnitFrame)
    (s : LiveSystem Other UserData) (e : LiveEvent Other UserData) : Prop :=
  s.Permits e ∧
    match e with
    | .cleanup => False
    | .client other _ => other ≠ slot
    | .turn channel calls _ => ∀ stream ∈ calls.stream,
      (stream.totalLength < 2 ^ 32 ∧ stream.packs.length < 2 ^ 31 ∧
        ¬(s.buffers.cap channel < FrameManager.frameSize stream ∧ calls.realloc = none)) ∧
      (channel.val < 2 → stream.logicalBytes = (content stream).bytes) ∧
      ((s.viewers.2 slot).client.videoChannel = channel.val →
        (content stream).Suits (s.viewers.2 slot).client.codec)
    | .init _ | .setEnabled _ | .call _ => True

/-- The viewer plays, and what it is shown can reach it. -/
structure Client.Viewing (client : Client) : Prop where
  active : client.active = true
  playing : client.state = .playing
  socket : client.transportMode = .udp → 0 ≤ client.rtpSocketFd

/-- Since the first state the viewer has been shown the frames. -/
structure LiveSystem.Follows (slot : Slot) (first : LiveSystem Other UserData) (w : Watching)
    (s : LiveSystem Other UserData) : Prop where
  wired : s.Wired
  initialized : s.consumer.initialized = true
  enabled : s.listens = w.enabled
  waits : (s.viewers.2 slot).client.needsIdr = w.waits
  shows : ∃ groups, (first.viewers.2 slot).Shows (s.viewers.2 slot) w.frames groups

variable {slot : Slot} {first : LiveSystem Other UserData} {w : Watching}
  {content : EncoderStream → UnitFrame} {calls : EncoderCalls}

/-- Nothing has been sent to the viewer, and the consumer is as active as it was. -/
theorem LiveSystem.Follows.of_same (h : first.Follows slot w s) (hwired : s'.Wired)
    (hinit : s'.consumer.initialized = true) (hlistens : s'.listens = s.listens)
    (hviewer : s'.viewers.2 slot = s.viewers.2 slot) : first.Follows slot w s' where
  wired := hwired
  initialized := hinit
  enabled := hlistens.trans h.enabled
  waits := by rw [hviewer, h.waits]
  shows := by
    rw [hviewer]
    exact h.shows

/-- What a turn with a frame does to the viewer. -/
theorem LiveSystem.Follows.frame (h : first.Follows slot w s)
    (hviewing : (first.viewers.2 slot).client.Viewing) (hnet : (net slot).Succeeds)
    {stream : EncoderStream}
    (hdata : channel.val < 2 → stream.logicalBytes = (content stream).bytes)
    (hsuits : (s.viewers.2 slot).client.videoChannel = channel.val →
      (content stream).Suits (s.viewers.2 slot).client.codec)
    {buffers : Buffers} (hsound : buffers.Sound) :
    ∃ viewers', (if s.listens = true ∧ channel.val < 2 then
        rtspServerSendFrame net s.viewers (reading.frame channel stream.logicalBytes)
          reading.sendTimes else some s.viewers) = some viewers' ∧
      first.Follows slot
        (if w.enabled = true ∧ channel.val < 2 ∧
            (first.viewers.2 slot).client.videoChannel = channel.val then
          let offer := (reading.frame channel (content stream).bytes).offer w.waits
            (first.viewers.2 slot).client.idrWaitStartUs
          { w with
            waits := offer.waits w.waits, frames := w.frames ++ offer.shown (content stream) }
        else w) { s with buffers := buffers, viewers := viewers' } := by
  obtain ⟨groups, hshows⟩ := h.shows
  have hclient := hshows.client_eq
  have hwired : ∀ viewers', ({ s with buffers := buffers, viewers := viewers' } :
      LiveSystem Other UserData).Wired :=
    fun _ => h.wired.of_entries hsound rfl fun _ _ => Iff.rfl
  rw [← h.enabled]
  by_cases hgiven : s.listens = true ∧ channel.val < 2
  · rw [if_pos hgiven, hdata hgiven.2]
    obtain ⟨viewers', hsent⟩ : ∃ viewers', rtspServerSendFrame net s.viewers
        (reading.frame channel (content stream).bytes) reading.sendTimes = some viewers' :=
      rtspServerSendFrame_unitFrame rfl
    refine ⟨viewers', hsent, ?_⟩
    by_cases hchannel : (first.viewers.2 slot).client.videoChannel = channel.val
    · rw [if_pos ⟨hgiven.1, hgiven.2, hchannel⟩]
      have hcurrent : (s.viewers.2 slot).client.videoChannel = channel.val := by
        rw [hclient]
        exact hchannel
      have hplays : (s.viewers.2 slot).client.plays channel := by
        refine ⟨?_, ?_, hcurrent⟩
        · rw [hclient]
          exact hviewing.active
        · rw [hclient]
          exact hviewing.playing
      have hsocket : (s.viewers.2 slot).client.transportMode = .udp →
          0 ≤ (s.viewers.2 slot).client.rtpSocketFd := by
        rw [hclient]
        exact hviewing.socket
      obtain ⟨groups', hframe, hwaits⟩ :=
        rtspServerSendFrame_shows hnet hsocket (hsuits hcurrent) rfl hplays hsent
      have hsince : (s.viewers.2 slot).client.idrWaitStartUs =
          (first.viewers.2 slot).client.idrWaitStartUs := by rw [hclient]
      rw [h.waits, hsince] at hframe hwaits
      exact ⟨hwired viewers', h.initialized, rfl, hwaits, _, hshows.trans hframe⟩
    · rw [if_neg fun hall => hchannel hall.2.2]
      have hnot : ¬(s.viewers.2 slot).client.plays channel := fun hplays => by
        have hvideo := hplays.2.2
        rw [hclient] at hvideo
        exact hchannel hvideo
      exact h.of_same (hwired viewers') h.initialized rfl
        (rtspServerSendFrame_of_not_plays hnot hsent)
  · rw [if_neg hgiven, if_neg fun hall => hgiven ⟨hall.1, hall.2.1⟩]
    exact ⟨s.viewers, rfl, h.of_same (hwired s.viewers) h.initialized rfl rfl⟩

/-- A turn of the thread. -/
theorem LiveSystem.Follows.turn (h : first.Follows slot w s)
    (hviewing : (first.viewers.2 slot).client.Viewing) (hnet : (net slot).Succeeds)
    (hundisturbed : s.Undisturbed slot content (.turn channel calls reading)) :
    ∃ s', s.turn net channel calls reading = some s' ∧
      first.Follows slot
        (w.step (first.viewers.2 slot).client content (.turn channel calls reading :
          LiveEvent Other UserData)) s' := by
  obtain ⟨-, hstreams⟩ := hundisturbed
  obtain ⟨stream, realloc⟩ := calls
  unfold LiveSystem.turn Watching.step
  dsimp only
  cases stream with
  | none =>
    have hnothing : processFrameFromEncoder s.buffers channel ⟨none, realloc⟩ =
      some (s.buffers, none) := rfl
    rw [hnothing]
    by_cases hpos : 0 < frameManagerGetConsumerCount s.manager channel
    · rw [if_pos hpos]
      exact ⟨s, rfl, h⟩
    · rw [if_neg hpos]
      exact ⟨s, rfl, h⟩
  | some stream =>
    obtain ⟨⟨htotal, hcount, hgrows⟩, hdata, hsuits⟩ := hstreams stream rfl
    dsimp only
    by_cases hpos : 0 < frameManagerGetConsumerCount s.manager channel
    · obtain ⟨buffers, frame, hprocessed, hbytes, hchannel⟩ :=
        processFrameFromEncoder_some h.wired.sound htotal hcount hgrows
      have hsound := h.wired.sound.process hprocessed
      obtain ⟨viewers, hsent, hfollows⟩ :=
        h.frame hviewing hnet hdata hsuits hsound
      rw [if_pos hpos, hprocessed, Option.bind_some]
      dsimp only
      rw [h.wired.distribute h.initialized hchannel, hbytes, hsent]
      exact ⟨_, rfl, hfollows⟩
    · have hnot : ¬(w.enabled = true ∧ channel.val < 2 ∧
          (first.viewers.2 slot).client.videoChannel = channel.val) := fun hall =>
        hpos (h.wired.count_pos h.initialized ⟨h.enabled.trans hall.1, hall.2.1⟩)
      rw [if_neg hpos, if_neg hnot]
      exact ⟨s, rfl, h⟩

/-- The viewer is shown what it is to be shown, whatever happens. -/
theorem LiveSystem.Follows.step (h : first.Follows slot w s)
    (hviewing : (first.viewers.2 slot).client.Viewing) (hnet : (net slot).Succeeds)
    {e : LiveEvent Other UserData} (hundisturbed : s.Undisturbed slot content e) :
    ∃ s', s.step net e = some s' ∧
      first.Follows slot (w.step (first.viewers.2 slot).client content e) s' := by
  cases e with
  | init rtspServer =>
    have hkept : rtspConsumerInit s.manager s.consumer rtspServer =
        ((s.manager, s.consumer), 0) := by
      rw [rtspConsumerInit, if_pos h.initialized]
    refine ⟨s, ?_, h⟩
    rw [LiveSystem.step, hkept]
  | cleanup => exact hundisturbed.2.elim
  | setEnabled enabled =>
    obtain ⟨hwired, hlistens⟩ := h.wired.setEnabled h.initialized enabled
    exact ⟨_, rfl, hwired, h.initialized, hlistens, h.waits, h.shows⟩
  | call call =>
    have hentries := hasEntry_call hundisturbed.1
    exact ⟨_, rfl, h.of_same (h.wired.of_entries h.wired.sound rfl hentries) h.initialized
      (h.wired.listens_of_entries h.initialized rfl hentries) rfl⟩
  | client other sender =>
    exact ⟨_, rfl, h.of_same (h.wired.of_entries h.wired.sound rfl fun _ _ => Iff.rfl)
      h.initialized rfl (Function.update_of_ne (Ne.symm hundisturbed.2) sender s.viewers.2)⟩
  | turn channel calls reading => exact h.turn hviewing hnet hundisturbed

theorem parameters_ne_nil : ([0x67, 0x42] : List UInt8) ≠ [] := List.cons_ne_nil _ _

theorem emulationFree_parameters : AnnexB.EmulationFree [0x67, 0x42] := ⟨by decide, by decide⟩

theorem slice_ne_nil : ([0x65, 0x88] : List UInt8) ≠ [] := List.cons_ne_nil _ _

theorem emulationFree_slice : AnnexB.EmulationFree [0x65, 0x88] := ⟨by decide, by decide⟩

/-- Parameters and a slice. -/
def keyFrame : UnitFrame where
  units := [⟨.long, [0x67, 0x42], parameters_ne_nil, emulationFree_parameters⟩,
    ⟨.short, [0x65, 0x88], slice_ne_nil, emulationFree_slice⟩]
  ne_nil := List.cons_ne_nil _ _
  room := by decide
  ends := by decide

/-- The frame in two packs. -/
def keyStream : EncoderStream where
  ring := [0, 0, 1, 0x65, 0x88, 0, 0, 0, 1, 0x67, 0x42]
  streamSize := 11
  packs := [⟨5, 6, 40000⟩, ⟨0, 5, 40000⟩]
  packCount := 2
  ring_length := rfl
  packs_length := rfl
  inside := by decide

/-- A client that plays the first channel. -/
def firstViewer : Sender := ⟨{ udpClient .h264 with active := true }, []⟩

/-- The RTSP module has been started, and the client has come. -/
def watchedSystem : LiveSystem Unit Unit where
  buffers := .empty
  manager := ⟨[rtspFrameConsumer], by decide, by decide⟩
  consumer := ⟨0, true, true⟩
  viewers := (.initial, Function.update (fun _ => ⟨Client.initial, []⟩) 0 firstViewer)

/-- The calls of one turn. -/
def keyCalls : EncoderCalls := ⟨some keyStream, some fun _ => 0⟩

/-- What is read in it. -/
def keyReading : Reading := ⟨.h264, 0, 40000, 7, fun _ => 40000⟩

/-- Two bytes of which the first is the header of a unit. -/
theorem suits_pair {b c : UInt8} (hbit : b &&& 0x80 = 0) (htype : 1 ≤ b &&& 31 ∧ b &&& 31 ≤ 23)
    (hcode : skipStartCode [b, c] = [b, c]) :
    IsNalUnit .h264 [b, c] ∧ SingleUnit .h264 [b, c] := by
  have hheader : [b, c] ≠ [] ∧ (Codec.h264 = .h265 → 2 ≤ [b, c].length) :=
    ⟨List.cons_ne_nil _ _, fun _ => le_rfl⟩
  have hlength : [b, c].length ≤ 300 * 1024 := show 2 ≤ 300 * 1024 by decide
  refine ⟨⟨hheader, fun _ => hlength, hcode, fun a ha => ?_⟩, fun a ha => ?_⟩
  · obtain rfl := Option.mem_some_iff.mp ha
    exact hbit
  · obtain rfl := Option.mem_some_iff.mp ha
    exact htype

theorem keyFrame_suits : keyFrame.Suits .h264 := by
  have hnals : keyFrame.nals = [[0x67, 0x42], [0x65, 0x88]] := rfl
  rw [UnitFrame.Suits, hnals]
  intro nal hnal
  rcases List.mem_pair.mp hnal with rfl | rfl
  · exact suits_pair (by decide) (by decide) rfl
  · exact suits_pair (by decide) (by decide) rfl

end Rtsp
