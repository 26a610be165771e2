import Mathlib.Algebra.Group.Nat.Defs
import Mathlib.Data.Int.Notation
import Mathlib.Data.List.Perm.Basic
import Strero.Lib.Runs

/-!
# The frame manager

Modules register consumers, and each frame from the encoder is handed to them. The table of
consumers is modelled as the code keeps it. What the calls mean to the modules is kept next
to it, in a list of the registrations that each call adds to or changes.
-/

namespace FrameManager

/-- `MAX_FRAME_CONSUMERS`. -/
def maxFrameConsumers : ℕ := 8

/-- `frame_info_t`. The processing thread distributes frames of channels 0 to 3. -/
structure FrameInfo where
  data : List UInt8
  channel : ℕ
  sequence : UInt32
  isKeyframe : Bool
deriving DecidableEq

/-- `frame_consumer_t`, with `none` for the null pointers. -/
structure FrameConsumer (Callback UserData : Type*) where
  name : Option (List UInt8)
  callback : Option Callback
  userData : UserData
  channelMask : BitVec 32
  active : Bool
deriving DecidableEq

/-- One call of a callback. -/
structure Delivery (Callback UserData : Type*) where
  callback : Option Callback
  userData : UserData
  frame : FrameInfo
deriving DecidableEq

/-- `consumers` up to `consumer_count` in `g_frame_manager`. The table does not overflow, and
whatever is in it can be called. -/
structure Manager (Callback UserData : Type*) where
  consumers : List (FrameConsumer Callback UserData)
  count_le : consumers.length ≤ maxFrameConsumers
  callable : ∀ consumer ∈ consumers, consumer.callback ≠ none

variable {Callback UserData : Type*}

/-- No consumer has been registered. -/
def Manager.empty : Manager Callback UserData := ⟨[], Nat.zero_le _, by simp⟩

/-- The consumer is given with what `frame_manager_register_consumer` checks. -/
def FrameConsumer.Valid (consumer : FrameConsumer Callback UserData) : Prop :=
  consumer.callback ≠ none ∧ consumer.name ≠ none

instance FrameConsumer.Valid.decidable (consumer : FrameConsumer Callback UserData) :
    Decidable consumer.Valid :=
  match hcallback : consumer.callback, hname : consumer.name with
  | some _, some _ => isTrue ⟨by simp [hcallback], by simp [hname]⟩
  | none, _ => isFalse fun h => h.1 hcallback
  | _, none => isFalse fun h => h.2 hname

/-- `frame_manager_register_consumer`. -/
def Manager.registerConsumer (m : Manager Callback UserData) :
    Option (FrameConsumer Callback UserData) → Manager Callback UserData × ℤ
  | none => (m, -1)
  | some consumer =>
    if hvalid : consumer.Valid then
      if hroom : m.consumers.length < maxFrameConsumers then
        let registered := { consumer with active := true }
        (⟨m.consumers ++ [registered], by
          simpa using Nat.succ_le_of_lt hroom, by
          intro c hc
          rcases List.mem_append.mp hc with hold | hnew
          · exact m.callable c hold
          · obtain rfl : c = registered := by simpa using hnew
            exact hvalid.1⟩, m.consumers.length)
      else (m, -1)
    else (m, -1)

/-- With room in the table the consumer is appended, and its index is returned. -/
theorem Manager.registerConsumer_some (m : Manager Callback UserData)
    {c : FrameConsumer Callback UserData} (hvalid : c.Valid)
    (hroom : m.consumers.length < maxFrameConsumers) :
    (m.registerConsumer (some c)).1.consumers = m.consumers ++ [{ c with active := true }] ∧
      (m.registerConsumer (some c)).2 = m.consumers.length := by
  simp [registerConsumer, hvalid, hroom]

/-- Otherwise the registration fails and changes nothing. -/
theorem Manager.registerConsumer_cases (m : Manager Callback UserData)
    (consumer : Option (FrameConsumer Callback UserData)) :
    m.registerConsumer consumer = (m, -1) ∨
      ∃ c, consumer = some c ∧ c.Valid ∧ m.consumers.length < maxFrameConsumers := by
  cases consumer with
  | none => exact .inl rfl
  | some c =>
    by_cases hvalid : c.Valid
    · by_cases hroom : m.consumers.length < maxFrameConsumers
      · exact .inr ⟨c, rfl, hvalid, hroom⟩
      · exact .inl (by simp [registerConsumer, hroom])
    · exact .inl (by simp [registerConsumer, hvalid])

/-- The assignment to the `active` flag of a slot. -/
def Manager.setActive (m : Manager Callback UserData) (slot : ℕ) (active : Bool) :
    Manager Callback UserData where
  consumers := m.consumers.modify slot fun consumer => { consumer with active := active }
  count_le := by simpa using m.count_le
  callable := by
    intro c hc
    obtain ⟨i, hi⟩ := List.mem_iff_getElem?.mp hc
    rw [List.getElem?_modify] at hi
    obtain ⟨old, hold, rfl⟩ := Option.map_eq_some_iff.mp hi
    have hcallable := m.callable old (List.mem_of_getElem? hold)
    split <;> exact hcallable

/-- The check of a consumer id. -/
def Manager.hasId (m : Manager Callback UserData) (consumerId : ℤ) : Bool :=
  0 ≤ consumerId && consumerId < m.consumers.length

/-- `frame_manager_set_consumer_enabled`. -/
def Manager.setConsumerEnabled (m : Manager Callback UserData) (consumerId : ℤ)
    (enabled : Bool) : Manager Callback UserData × ℤ :=
  if m.hasId consumerId then (m.setActive consumerId.toNat enabled, 0) else (m, -1)

/-- `frame_manager_unregister_consumer`. -/
def Manager.unregisterConsumer (m : Manager Callback UserData) (consumerId : ℤ) :
    Manager Callback UserData × ℤ :=
  if m.hasId consumerId then (m.setActive consumerId.toNat false, 0) else (m, -1)

/-- `consumer->active && (consumer->channel_mask & channel_bit)`. -/
def FrameConsumer.wants (consumer : FrameConsumer Callback UserData) (frame : FrameInfo) : Bool :=
  consumer.active && (consumer.channelMask &&& 1#32 <<< frame.channel) != 0#32

/-- The call of the consumer's callback for the frame. -/
def FrameConsumer.delivery (consumer : FrameConsumer Callback UserData) (frame : FrameInfo) :
    Delivery Callback UserData :=
  ⟨consumer.callback, consumer.userData, frame⟩

/-- `distribute_frame_to_consumers`: the calls that it makes, in their order. -/
def Manager.distributeFrameToConsumers (m : Manager Callback UserData) (frame : FrameInfo) :
    List (Delivery Callback UserData) :=
  (m.consumers.filter (·.wants frame)).map (·.delivery frame)

/-- No null pointer is called. -/
theorem Manager.callback_ne_none (m : Manager Callback UserData) {frame : FrameInfo}
    {delivery : Delivery Callback UserData}
    (h : delivery ∈ m.distributeFrameToConsumers frame) : delivery.callback ≠ none := by
  obtain ⟨consumer, hconsumer, rfl⟩ := List.mem_map.mp h
  exact m.callable consumer (List.mem_of_mem_filter hconsumer)

/-- The mask test is a test of the bit of the channel. -/
theorem FrameConsumer.wants_eq (consumer : FrameConsumer Callback UserData) (frame : FrameInfo) :
    consumer.wants frame = (consumer.active && consumer.channelMask.getLsbD frame.channel) := by
  have hbit : (consumer.channelMask &&& 1#32 <<< frame.channel = 0#32) ↔
      consumer.channelMask.getLsbD frame.channel = false := by
    constructor
    · intro hzero
      have hlsb := congrArg (·.getLsbD frame.channel) hzero
      by_cases hchannel : frame.channel < 32
      · simpa [hchannel] using hlsb
      · exact BitVec.getLsbD_of_ge _ _ (by omega)
    · intro hclear
      refine BitVec.eq_of_getLsbD_eq fun i hi => ?_
      by_cases heq : i = frame.channel
      · simp [heq, hclear]
      · have hne : ¬ (frame.channel ≤ i ∧ i - frame.channel = 0) := by omega
        by_cases hle : frame.channel ≤ i
        · have hsub : i - frame.channel ≠ 0 := by omega
          simp [hi, hsub]
        · simp [show i < frame.channel by omega]
  unfold FrameConsumer.wants
  cases hmask : consumer.channelMask.getLsbD frame.channel with
  | false => simp [hbit.mpr hmask]
  | true =>
    have hne : consumer.channelMask &&& 1#32 <<< frame.channel ≠ 0#32 := by
      intro hzero
      simp [hbit.mp hzero] at hmask
    simp [hne]

/-! ### Registrations -/

/-- A call of the interface, or a frame from the encoder. -/
inductive Call (Callback UserData : Type*)
  | register (consumer : Option (FrameConsumer Callback UserData))
  | unregister (consumerId : ℤ)
  | setEnabled (consumerId : ℤ) (enabled : Bool)
  | distribute (frame : FrameInfo)
deriving DecidableEq

/-- What a successful registration is to the module that made it: the id that it was given,
what it asked for, and whether it still stands and is enabled. -/
structure Registration (Callback UserData : Type*) where
  id : ℤ
  consumer : FrameConsumer Callback UserData
  registered : Bool
  enabled : Bool
deriving DecidableEq

/-- The consumer is to be passed the frame. -/
def Registration.receives (r : Registration Callback UserData) (frame : FrameInfo) : Bool :=
  r.registered && r.enabled && r.consumer.channelMask.getLsbD frame.channel

/-- The consumer with this id, if it is registered, becomes what the function says. -/
def Registration.change (consumerId : ℤ)
    (f : Registration Callback UserData → Registration Callback UserData)
    (r : Registration Callback UserData) : Registration Callback UserData :=
  if r.registered ∧ r.id = consumerId then f r else r

/-- The registrations after a call with its result. -/
def observe (registrations : List (Registration Callback UserData)) (result : ℤ) :
    Call Callback UserData → List (Registration Callback UserData)
  | .register none => registrations
  | .register (some consumer) =>
    if 0 ≤ result then registrations ++ [⟨result, consumer, true, true⟩] else registrations
  | .unregister consumerId =>
    registrations.map (.change consumerId fun r => { r with registered := false })
  | .setEnabled consumerId enabled =>
    registrations.map (.change consumerId fun r => { r with enabled := enabled })
  | .distribute _ => registrations

/-- The frame manager and the registrations that its callers have seen. -/
structure Monitored (Callback UserData : Type*) where
  manager : Manager Callback UserData
  registrations : List (Registration Callback UserData)

/-- The manager after a call, and the value that is returned. -/
def Manager.call (m : Manager Callback UserData) :
    Call Callback UserData → Manager Callback UserData × ℤ
  | .register consumer => m.registerConsumer consumer
  | .unregister consumerId => m.unregisterConsumer consumerId
  | .setEnabled consumerId enabled => m.setConsumerEnabled consumerId enabled
  | .distribute _ => (m, 0)

/-- One call. -/
def Monitored.step (s : Monitored Callback UserData) (call : Call Callback UserData) :
    Monitored Callback UserData :=
  ⟨(s.manager.call call).1, observe s.registrations (s.manager.call call).2 call⟩

/-- The program has started. -/
def Monitored.start : Monitored Callback UserData := ⟨.empty, []⟩

/-- The number of consumers that are registered at the moment. -/
def Monitored.registeredCount (s : Monitored Callback UserData) : ℕ :=
  s.registrations.countP (·.registered)

/-- What the callers rely on. A frame is passed once to each consumer that is to have it and
to no other, and a registration succeeds while there is room for one more. -/
def Monitored.Served (s : Monitored Callback UserData) : Call Callback UserData → Prop
  | .register consumer =>
    s.registeredCount < maxFrameConsumers → 0 ≤ (s.manager.registerConsumer consumer).2
  | .distribute frame =>
    (s.manager.distributeFrameToConsumers frame).Perm
      ((s.registrations.filter (·.receives frame)).map (·.consumer.delivery frame))
  | _ => True

/-- The registration of this number has been taken back. -/
def Monitored.Unregistered (s : Monitored Callback UserData) (i : ℕ) : Prop :=
  ∃ r, s.registrations[i]? = some r ∧ r.registered = false

/-- Nobody enables a consumer that has been unregistered. Nobody registers a consumer without
a callback or a name, or after eight registrations of which one has been taken back. -/
def Monitored.Admissible (s : Monitored Callback UserData) : Call Callback UserData → Prop
  | .register consumer =>
    s.registeredCount < maxFrameConsumers →
      (∃ c, consumer = some c ∧ c.Valid) ∧ s.registrations.length < maxFrameConsumers
  | .setEnabled consumerId enabled =>
    enabled = true → ∀ r ∈ s.registrations, r.id = consumerId → r.registered = true
  | _ => True

/-! ### The table and the registrations -/

/-- The slot of a registration. -/
def Registration.slot (r : Registration Callback UserData) : FrameConsumer Callback UserData :=
  { r.consumer with active := r.registered && r.enabled }

/-- The table has one slot for each registration, at its id. -/
structure Monitored.Agrees (s : Monitored Callback UserData) : Prop where
  slots : s.manager.consumers = s.registrations.map Registration.slot
  ids : ∀ (i : ℕ) r, s.registrations[i]? = some r → r.id = i

namespace Monitored.Agrees

variable {s : Monitored Callback UserData}

theorem length_eq (h : s.Agrees) : s.manager.consumers.length = s.registrations.length := by
  rw [h.slots, List.length_map]

/-- The id check finds the ids that were handed out. -/
theorem hasId_iff (h : s.Agrees) {consumerId : ℤ} :
    s.manager.hasId consumerId = true ↔ ∃ r ∈ s.registrations, r.id = consumerId := by
  have hlength := h.length_eq
  simp only [Manager.hasId, Bool.and_eq_true, decide_eq_true_eq, hlength]
  constructor
  · rintro ⟨hpos, hlt⟩
    have hi : consumerId.toNat < s.registrations.length := by omega
    have hget := List.getElem?_eq_getElem hi
    refine ⟨_, List.mem_of_getElem? hget, ?_⟩
    rw [h.ids _ _ hget]
    omega
  · rintro ⟨r, hr, rfl⟩
    obtain ⟨i, hi⟩ := List.mem_iff_getElem?.mp hr
    have hlt := (List.getElem?_eq_some_iff.mp hi).1
    rw [h.ids i r hi]
    omega

theorem nonneg_of_hasId {consumerId : ℤ} (h : s.manager.hasId consumerId = true) :
    0 ≤ consumerId := by
  simp only [Manager.hasId, Bool.and_eq_true, decide_eq_true_eq] at h
  exact h.1

/-- The flag of a slot against the registrations: `active` is assigned to the slot of the id
and nowhere else. -/
theorem setActive_slots (h : s.Agrees) {consumerId : ℤ} {active : Bool}
    {f : Registration Callback UserData → Registration Callback UserData}
    (hpos : 0 ≤ consumerId)
    (hf : ∀ r ∈ s.registrations, r.id = consumerId →
      { r.slot with active := active } = (r.change consumerId f).slot) :
    (s.manager.setActive consumerId.toNat active).consumers =
      (s.registrations.map (Registration.change consumerId f)).map Registration.slot := by
  refine List.ext_getElem? fun i => ?_
  simp only [Manager.setActive, h.slots, List.getElem?_modify, List.getElem?_map]
  cases hi : s.registrations[i]? with
  | none => rfl
  | some r =>
    have hid := h.ids i r hi
    simp only [Option.map_eq_map, Option.map_some]
    by_cases heq : consumerId.toNat = i
    · rw [if_pos heq, hf r (List.mem_of_getElem? hi) (by omega)]
    · have hother : ¬ (r.registered ∧ r.id = consumerId) := fun hboth => heq (by omega)
      rw [if_neg heq, Registration.change, if_neg hother]

/-- A change of one registration keeps all ids. -/
theorem change_ids (h : s.Agrees) {consumerId : ℤ}
    {f : Registration Callback UserData → Registration Callback UserData}
    (hf : ∀ r, (f r).id = r.id) (i : ℕ) (r : Registration Callback UserData)
    (hr : (s.registrations.map (Registration.change consumerId f))[i]? = some r) : r.id = i := by
  rw [List.getElem?_map] at hr
  obtain ⟨old, hold, rfl⟩ := Option.map_eq_some_iff.mp hr
  have hid : (old.change consumerId f).id = old.id := by
    unfold Registration.change
    split
    · exact hf old
    · rfl
  rw [hid, h.ids i old hold]

/-- A registration takes the next slot, or it changes nothing. -/
theorem register (h : s.Agrees) (consumer : Option (FrameConsumer Callback UserData)) :
    (s.step (.register consumer)).Agrees := by
  have hlength := h.length_eq
  rcases s.manager.registerConsumer_cases consumer with hfail | ⟨c, rfl, hvalid, hroom⟩
  · have hsame : s.step (.register consumer) = s := by
      cases consumer <;> simp [Monitored.step, Manager.call, hfail, observe]
    rwa [hsame]
  · obtain ⟨hconsumers, hvalue⟩ := s.manager.registerConsumer_some hvalid hroom
    have hregistrations : (s.step (.register (some c))).registrations =
        s.registrations ++ [⟨s.manager.consumers.length, c, true, true⟩] := by
      simp [Monitored.step, Manager.call, observe, hvalue]
    refine ⟨?_, fun i r hr => ?_⟩
    · rw [hregistrations, List.map_append, ← h.slots]
      exact hconsumers
    · rw [hregistrations, List.getElem?_append] at hr
      split at hr
      · exact h.ids i r hr
      · rename_i hi
        obtain ⟨hzero, heq⟩ := Option.ite_none_right_eq_some.mp
          (List.getElem?_singleton.symm.trans hr)
        obtain rfl := Option.some.inj heq
        dsimp only
        omega

/-- An id that was not handed out changes nothing. -/
theorem change_of_not_hasId (h : s.Agrees) {consumerId : ℤ}
    (f : Registration Callback UserData → Registration Callback UserData)
    (hid : s.manager.hasId consumerId = false) :
    s.registrations.map (Registration.change consumerId f) = s.registrations := by
  have hnone : ∀ r ∈ s.registrations, r.id ≠ consumerId := by
    intro r hr heq
    have htrue := h.hasId_iff.mpr ⟨r, hr, heq⟩
    simp [hid] at htrue
  refine (List.map_congr_left fun r hr => ?_).trans (List.map_id _)
  rw [Registration.change, if_neg fun hboth => hnone r hr hboth.2, id]

/-- An admissible call keeps the agreement. -/
theorem step (h : s.Agrees) {call : Call Callback UserData} (hcall : s.Admissible call) :
    (s.step call).Agrees := by
  cases call with
  | register consumer => exact h.register consumer
  | distribute frame => exact h
  | unregister consumerId =>
    refine ⟨?_, h.change_ids fun _ => rfl⟩
    unfold Monitored.step Manager.call Manager.unregisterConsumer observe
    dsimp only
    cases hid : s.manager.hasId consumerId with
    | false => exact h.slots.trans (by rw [h.change_of_not_hasId _ hid])
    | true =>
      refine h.setActive_slots (nonneg_of_hasId hid) fun r _ heq => ?_
      unfold Registration.change
      split_ifs with hboth
      · rfl
      · have hgone : r.registered = false := by simpa [heq] using hboth
        simp [Registration.slot, hgone]
  | setEnabled consumerId enabled =>
    refine ⟨?_, h.change_ids fun _ => rfl⟩
    unfold Monitored.step Manager.call Manager.setConsumerEnabled observe
    dsimp only
    cases hid : s.manager.hasId consumerId with
    | false => exact h.slots.trans (by rw [h.change_of_not_hasId _ hid])
    | true =>
      refine h.setActive_slots (nonneg_of_hasId hid) fun r hr heq => ?_
      unfold Registration.change
      split_ifs with hboth
      · simp [Registration.slot, hboth.1]
      · -- The consumer has been unregistered, so that the call disables it.
        have hgone : r.registered = false := by simpa [heq] using hboth
        have hdisabled : enabled = false := by
          by_contra henabled
          have hregistered := hcall (by simpa using henabled) r hr heq
          simp [hgone] at hregistered
        simp [Registration.slot, hgone, hdisabled]

/-- The manager serves an admissible call. -/
theorem served (h : s.Agrees) {call : Call Callback UserData} (hcall : s.Admissible call) :
    s.Served call := by
  cases call with
  | unregister consumerId => trivial
  | setEnabled consumerId enabled => trivial
  | register consumer =>
    intro hcount
    obtain ⟨⟨c, rfl, hvalid⟩, hroom⟩ := hcall hcount
    rw [(s.manager.registerConsumer_some hvalid (h.length_eq ▸ hroom)).2]
    exact Int.natCast_nonneg _
  | distribute frame =>
    have hwants : ∀ r : Registration Callback UserData,
        r.slot.wants frame = r.receives frame := by
      intro r
      rw [FrameConsumer.wants_eq]
      rfl
    refine List.Perm.of_eq ?_
    unfold Manager.distributeFrameToConsumers
    rw [h.slots, List.filter_map, List.map_map]
    congr 1
    exact List.filter_congr fun r _ => hwants r

end Monitored.Agrees

/-! ### Runs -/

/-- What has been taken back stays so: no call touches the registration any more. -/
theorem Monitored.Unregistered.step {s : Monitored Callback UserData} {i : ℕ}
    (h : s.Unregistered i) (call : Call Callback UserData) : (s.step call).Unregistered i := by
  obtain ⟨r, hr, hgone⟩ := h
  have hchange : ∀ consumerId f, r.change consumerId f = r := by
    intro consumerId f
    rw [Registration.change, if_neg fun hboth => by simp [hgone] at hboth]
  refine ⟨r, ?_, hgone⟩
  unfold Monitored.step
  cases call with
  | distribute frame => exact hr
  | unregister consumerId => simp [observe, hr, hchange]
  | setEnabled consumerId enabled => simp [observe, hr, hchange]
  | register consumer =>
    cases consumer with
    | none => exact hr
    | some consumer =>
      unfold observe
      dsimp only
      split
      · rw [List.getElem?_append_left (List.getElem?_eq_some_iff.mp hr).1, hr]
      · exact hr

/-- The same over a run. -/
theorem Monitored.Unregistered.run {s : Monitored Callback UserData} {i : ℕ}
    (h : s.Unregistered i) (calls : List (Call Callback UserData)) :
    (calls.foldl Monitored.step s).Unregistered i := by
  induction calls generalizing s with
  | nil => exact h
  | cons call calls ih => exact ih (h.step call)

/-- In every run of admissible calls all calls are served. A registration that has been taken
back is one of those that get no frames, for the rest of the run. -/
theorem run_served (calls : List (Call Callback UserData))
    (hcalls : Runs.Guarded Monitored.step Monitored.Admissible .start calls) :
    Runs.Guarded Monitored.step Monitored.Served .start calls ∧
      ∀ past later, calls = past ++ later → ∀ i,
        (past.foldl Monitored.step (.start : Monitored Callback UserData)).Unregistered i →
        (calls.foldl Monitored.step .start).Unregistered i := by
  constructor
  · refine Runs.Guarded.imp Monitored.Agrees ?_ hcalls ⟨rfl, by simp [Monitored.start]⟩
    exact fun s call hagrees hcall => ⟨hagrees.served hcall, hagrees.step hcall⟩
  · rintro past later rfl i hunregistered
    rw [List.foldl_append]
    exact hunregistered.run later

section Decidable

variable [DecidableEq Callback] [DecidableEq UserData]

instance Monitored.Served.decidable (s : Monitored Callback UserData) :
    (call : Call Callback UserData) → Decidable (s.Served call)
  | .register _ => inferInstanceAs (Decidable (_ → _))
  | .distribute _ => inferInstanceAs (Decidable (List.Perm _ _))
  | .unregister _ | .setEnabled _ _ => inferInstanceAs (Decidable True)

instance Monitored.Admissible.decidable (s : Monitored Callback UserData) :
    (call : Call Callback UserData) → Decidable (s.Admissible call)
  | .register none => decidable_of_iff (¬ s.registeredCount < maxFrameConsumers) <| by
      simp [Monitored.Admissible]
  | .register (some c) =>
    decidable_of_iff (s.registeredCount < maxFrameConsumers →
      c.Valid ∧ s.registrations.length < maxFrameConsumers) <| by simp [Monitored.Admissible]
  | .setEnabled _ _ => inferInstanceAs (Decidable (_ → _))
  | .unregister _ | .distribute _ => inferInstanceAs (Decidable True)

end Decidable

/-- A consumer of the first two channels. -/
def rtspConsumer : FrameConsumer Unit Unit := ⟨some [82], some (), (), 0x03, true⟩

/-- A frame of the first channel. -/
def someFrame : FrameInfo := ⟨[0, 0, 0, 1, 0x65], 0, 1, true⟩

/-- A consumer is enabled and disabled, gets a frame, and is unregistered before the next. -/
theorem run_served_example :
    Runs.Guarded Monitored.step Monitored.Served .start
        [.register (some rtspConsumer), .setEnabled 0 false, .setEnabled 0 true,
          .distribute someFrame, .unregister 0, .distribute someFrame] ∧
      (([.register (some rtspConsumer), .setEnabled 0 false, .setEnabled 0 true,
        .distribute someFrame, .unregister 0, .distribute someFrame] :
          List (Call Unit Unit)).foldl Monitored.step .start).Unregistered 0 := by
  obtain ⟨hserved, hretired⟩ := run_served
    [.register (some rtspConsumer), .setEnabled 0 false, .setEnabled 0 true,
      .distribute someFrame, .unregister 0, .distribute someFrame] (by decide +kernel)
  exact ⟨hserved, hretired [.register (some rtspConsumer), .setEnabled 0 false,
    .setEnabled 0 true, .distribute someFrame, .unregister 0] [.distribute someFrame] rfl 0
    ⟨⟨0, rtspConsumer, false, true⟩, by decide +kernel, rfl⟩⟩

/-- An old id that is enabled again gets frames, and a module that has been started and
stopped eight times cannot register a ninth time. -/
theorem not_served :
    ¬ Runs.Guarded Monitored.step Monitored.Served .start
        [.register (some rtspConsumer), .unregister 0, .setEnabled 0 true,
          .distribute someFrame] ∧
      ¬ Runs.Guarded Monitored.step Monitored.Served .start
        ((List.range 9).flatMap fun i =>
          [.register (some rtspConsumer), .unregister (i : ℤ)]) := by
  decide +kernel

end FrameManager
