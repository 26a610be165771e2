import Strero.ImpControl.Setters

/-!
# The parameters that are kept and the registers

Parameters are applied register by register, and those before a register that refuses stay
written. The registers that have been written hold the settings of the parameters that are kept
exactly as long as no call fails after it has changed something.
-/

namespace ImpControl

open Registers Runs

variable {t31 : Bool} {s : State} {refuses : Register → Bool} {p : Params} {r : Register}

/-- The call of `imp_control_set_params` in the course of another one: the state in which it is
called and what it is called with. -/
def State.setCall (t31 : Bool) (s : State) : Operation → Option (State × (Register → Bool) × Params)
  | .setParams refuses p => some (s, refuses, p)
  | .set refuses x =>
    match s.getParams t31 with
    | (none, _) => none
    | (some p, s) => some (s, refuses, x.update p)
  | .reset refuses => if s.initialized then some (s, refuses, s.config) else none
  | _ => none

/-- Where the call returns -1, neither the registers nor the parameters that are kept change. -/
def AllOrNothing (t31 : Bool) (s : State) (op : Operation) : Prop :=
  ∀ before refuses p, s.setCall t31 op = some (before, refuses, p) →
    (before.setParams t31 refuses p).1 = -1 →
      (before.setParams t31 refuses p).2.isp = before.isp ∧
        (before.setParams t31 refuses p).2.current = before.current

/-- Where some register refuses its value in the call, those before it hold their settings
already, and the parameters that are kept say the same about them. -/
def Harmless (t31 : Bool) (s : State) (op : Operation) : Prop :=
  ∀ before refuses p, s.setCall t31 op = some (before, refuses, p) → before.initialized = true →
    (∃ r ∈ order t31, refuses r = true) → ∀ r ∈ written refuses (order t31),
      before.isp r = p.settings r ∧ before.current.settings r = p.settings r

/-- The module with the registers that it has written since it was initialised. -/
structure Session where
  state : State
  applied : List Register

/-- Before the first call. -/
def Session.first (isp : Isp) : Session := ⟨.first isp, []⟩

/-- The call of `apply_imp_params` in the course of another one, by what refuses. -/
def State.applyCall (t31 : Bool) (s : State) : Operation → Option (Register → Bool)
  | .start refuses => if s.initialized && !s.running then some refuses else none
  | op => ((s.setCall t31 op).filter fun call => call.1.initialized).map fun call => call.2.1

/-- The registers that have been written after a call. -/
def Session.appliedAfter (t31 : Bool) (s : Session) : Operation → List Register
  | .init _ _ => if s.state.initialized then s.applied else []
  | .cleanup => if s.state.initialized then [] else s.applied
  | op => (s.state.applyCall t31 op).elim s.applied fun refuses =>
    s.applied ++ written refuses (order t31)

/-- One call. -/
def Session.step (t31 : Bool) (s : Session) (op : Operation) : Session :=
  ⟨s.state.step t31 op, s.appliedAfter t31 op⟩

/-- These registers hold the settings of the parameters that are kept. -/
def State.Holding (applied : List Register) (s : State) : Prop :=
  Holds s.current.settings applied s.isp

/-- The registers hold what was last applied: the settings of the parameters that are kept. -/
def Session.Coherent (s : Session) : Prop := s.state.Holding s.applied

/-- Only registers that there are have been written. -/
def Session.WithinOrder (t31 : Bool) (s : Session) : Prop := ∀ r ∈ s.applied, r ∈ order t31

/-! ### One call -/

/-- Reading back keeps the setting of a register that holds the one of what is kept. -/
theorem settings_read {isp : Isp} {current : Params} (h : isp r = current.settings r) :
    isp r = (getCurrentImpParams t31 isp current).settings r := by
  have hcompensated : ∀ (held : ℤ) (value : UInt8), held = value.toNat →
      held = (toUChar held).toNat := by
    rintro held value rfl
    rw [toUChar_toNat]
  cases r with
  | wb =>
    have hread := part_read_wb t31 isp current
    have hattr : ∀ attr : WbAttr, attr = current.wbAttr →
        ∀ q : Params, q.part .wb = attr → attr = q.wbAttr := by
      intro attr hheld q hq
      have hparts := WbAttr.mk.injEq .. ▸ hq
      unfold Params.wbAttr at hheld ⊢
      rw [hparts.1, hparts.2.1, hparts.2.2, hheld]
      cases current.whiteBalanceMode <;> rfl
    exact hattr _ h _ hread
  | ispRunningMode =>
    have hmode : ∀ mode : RunningMode, mode =
        (if mode = .night then DayNightMode.night else .day).running := by
      intro mode
      cases mode <;> rfl
    exact hmode _
  | aeComp =>
    cases t31 with
    | false => exact h
    | true => exact hcompensated _ _ h
  | backlightComp =>
    cases t31 with
    | false => exact h
    | true => exact hcompensated _ _ h
  | hiLightDepress =>
    cases t31 with
    | false => exact h
    | true => exact hcompensated _ _ h
  | bcshHue =>
    cases t31 with
    | false => exact h
    | true => rfl
  | brightness | contrast | saturation | sharpness => rfl
  | sinterStrength | temperStrength | ispHflip | ispVflip | antiFlickerAttr | drcStrength
  | defogStrength => exact h

variable {applied : List Register} {op : Operation}

theorem getParams_uninitialized (h : s.initialized = false) : s.getParams t31 = (none, s) := by
  unfold State.getParams
  rw [h]
  rfl

theorem getParams_eq (h : s.initialized = true) :
    s.getParams t31 = (some (getCurrentImpParams t31 s.isp s.current),
      { s with current := getCurrentImpParams t31 s.isp s.current }) := by
  unfold State.getParams
  rw [h]
  rfl

theorem State.Holding.getParams (t31 : Bool) (h : s.Holding applied) :
    (s.getParams t31).2.Holding applied := by
  cases hinit : s.initialized with
  | false =>
    rw [getParams_uninitialized hinit]
    exact h
  | true =>
    rw [getParams_eq hinit]
    exact fun r hr => settings_read (h r hr)

/-- Writing the parameters that are kept keeps what is held and adds what is written. -/
theorem State.Holding.apply (h : s.Holding applied) :
    { s with isp := (applyImpParams t31 refuses s.current s.isp).2 }.Holding
      (applied ++ written refuses (order t31)) := by
  intro r hr
  by_cases hwritten : r ∈ written refuses (order t31)
  · exact writeAll_of_mem hwritten
  · have hold := (List.mem_append.mp hr).resolve_right hwritten
    exact (writeAll_of_notMem hwritten).trans (h r hold)

theorem State.Holding.start (h : s.Holding applied) :
    (s.start t31 refuses).2.Holding (if s.initialized && !s.running then
      applied ++ written refuses (order t31) else applied) := by
  unfold State.start
  cases hinit : s.initialized with
  | false => exact h
  | true =>
    cases hrunning : s.running with
    | true => exact h
    | false =>
      simp only [Bool.not_true, Bool.false_eq_true, if_false, Bool.not_false, Bool.and_self,
        if_true]
      cases (applyImpParams t31 refuses s.current s.isp).1 <;> exact h.apply

/-- What `imp_control_set_params` does once the module is initialised. -/
theorem setParams_eq (h : s.initialized = true) (p : Params) :
    s.setParams t31 refuses p =
      if (applyImpParams t31 refuses p s.isp).1 = true then
        (0, { s with isp := (applyImpParams t31 refuses p s.isp).2, current := p })
      else (-1, { s with isp := (applyImpParams t31 refuses p s.isp).2 }) := by
  unfold State.setParams
  rw [h, validateParams_eq_true]
  rfl

theorem setParams_uninitialized (h : s.initialized = false) (p : Params) :
    s.setParams t31 refuses p = (-1, s) := by
  unfold State.setParams
  rw [h]
  rfl

/-- Parameters that every register accepts are held by all registers. -/
theorem holding_of_accepted (hok : (applyImpParams t31 refuses p s.isp).1 = true)
    (happlied : ∀ r ∈ applied, r ∈ order t31) :
    { s with isp := (applyImpParams t31 refuses p s.isp).2, current := p }.Holding
      (applied ++ written refuses (order t31)) := by
  intro r hr
  have hmem : r ∈ order t31 := by
    rcases List.mem_append.mp hr with hold | hnew
    · exact happlied r hold
    · exact mem_of_mem_written hnew
  have hall := written_of_success hok
  exact writeAll_of_mem (hall.symm ▸ hmem)

/-- Parameters that some register refuses change nothing, and leave what is held, if and only if
the registers before it hold them already. -/
theorem refused_iff (h : s.Holding applied) :
    ((applyImpParams t31 refuses p s.isp).2 = s.isp ∧
      { s with isp := (applyImpParams t31 refuses p s.isp).2 }.Holding
        (applied ++ written refuses (order t31))) ↔
      ∀ r ∈ written refuses (order t31),
        s.isp r = p.settings r ∧ s.current.settings r = p.settings r := by
  constructor
  · rintro ⟨hisp, hholding⟩ r hr
    have hnew : (applyImpParams t31 refuses p s.isp).2 r = p.settings r := writeAll_of_mem hr
    have hkept : (applyImpParams t31 refuses p s.isp).2 r = s.current.settings r :=
      hholding r (List.mem_append_right _ hr)
    exact ⟨(congrFun hisp r).symm.trans hnew, hkept.symm.trans hnew⟩
  · intro hall
    have hisp : (applyImpParams t31 refuses p s.isp).2 = s.isp :=
      writeAll_eq_self_iff.mpr fun r hr => (hall r hr).1
    refine ⟨hisp, fun r hr => ?_⟩
    have hheld : s.isp r = s.current.settings r := by
      rcases List.mem_append.mp hr with hold | hnew
      · exact h r hold
      · rw [(hall r hnew).1, (hall r hnew).2]
    exact (congrFun hisp r).trans hheld

/-- The conditions for one call of `imp_control_set_params`. -/
theorem setParams_iff (h : s.Holding applied) (happlied : ∀ r ∈ applied, r ∈ order t31)
    (p : Params) :
    (((s.setParams t31 refuses p).1 = -1 → (s.setParams t31 refuses p).2.isp = s.isp ∧
        (s.setParams t31 refuses p).2.current = s.current) ∧
      (s.setParams t31 refuses p).2.Holding (if s.initialized then
        applied ++ written refuses (order t31) else applied)) ↔
      (s.initialized = true → (∃ r ∈ order t31, refuses r = true) →
        ∀ r ∈ written refuses (order t31),
          s.isp r = p.settings r ∧ s.current.settings r = p.settings r) := by
  cases hinit : s.initialized with
  | false =>
    rw [setParams_uninitialized hinit]
    exact iff_of_true ⟨fun _ => ⟨rfl, rfl⟩, h⟩ (by simp)
  | true =>
    rw [setParams_eq hinit]
    by_cases hok : (applyImpParams t31 refuses p s.isp).1 = true
    · have hnone : ¬∃ r ∈ order t31, refuses r = true := by
        rintro ⟨r, hr, hrefuses⟩
        have haccepts := writeAll_success_iff.mp hok r hr
        exact absurd (haccepts.symm.trans hrefuses) (by decide)
      rw [if_pos hok]
      exact iff_of_true ⟨fun hret => by simp at hret, holding_of_accepted hok happlied⟩
        fun _ hrefuses => absurd hrefuses hnone
    · have hsome : ∃ r ∈ order t31, refuses r = true := by
        by_contra hnone
        refine hok (writeAll_success_iff.mpr fun r hr => ?_)
        exact Bool.not_eq_true _ ▸ fun hrefuses => hnone ⟨r, hr, hrefuses⟩
      rw [if_neg hok]
      constructor
      · rintro ⟨hsame, hholding⟩ _ _
        exact (refused_iff h).mp ⟨(hsame rfl).1, hholding⟩
      · intro hharmless
        obtain ⟨hisp, hholding⟩ := (refused_iff h).mpr (hharmless rfl hsome)
        exact ⟨fun _ => ⟨hisp, rfl⟩, hholding⟩

/-! ### Runs -/

variable {session : Session}

/-- A call without a call of `imp_control_set_params` keeps what is held. -/
theorem step_iff_of_no_call (hcall : session.state.setCall t31 op = none)
    (h : (session.step t31 op).Coherent) :
    (AllOrNothing t31 session.state op ∧ (session.step t31 op).Coherent) ↔
      Harmless t31 session.state op := by
  refine iff_of_true ⟨fun before refuses p hsome => ?_, h⟩ fun before refuses p hsome => ?_
  · exact absurd (hcall.symm.trans hsome) (by simp)
  · exact absurd (hcall.symm.trans hsome) (by simp)

/-- What has been written after a call of `imp_control_set_params`. -/
theorem appliedAfter_of_call {before : State}
    (hcall : session.state.setCall t31 op = some (before, refuses, p)) :
    session.appliedAfter t31 op = if before.initialized then
      session.applied ++ written refuses (order t31) else session.applied := by
  have hset : (((session.state.setCall t31 op).filter fun call => call.1.initialized).map
      fun call => call.2.1).elim session.applied (fun refuses =>
        session.applied ++ written refuses (order t31)) =
      if before.initialized then session.applied ++ written refuses (order t31)
      else session.applied := by
    rw [hcall]
    cases hinit : before.initialized <;> simp [Option.filter, hinit]
  cases op with
  | setParams _ _ | set _ _ | reset _ => exact hset
  | _ => exact absurd hcall (by simp [State.setCall])

/-- The conditions for a call with a call of `imp_control_set_params` are those for the latter. -/
theorem step_iff_of_call {before : State}
    (hcall : session.state.setCall t31 op = some (before, refuses, p))
    (hstep : session.state.step t31 op = (before.setParams t31 refuses p).2)
    (hwithin : session.WithinOrder t31) (h : before.Holding session.applied) :
    (AllOrNothing t31 session.state op ∧ (session.step t31 op).Coherent) ↔
      Harmless t31 session.state op := by
  have hnothing : AllOrNothing t31 session.state op ↔
      ((before.setParams t31 refuses p).1 = -1 →
        (before.setParams t31 refuses p).2.isp = before.isp ∧
          (before.setParams t31 refuses p).2.current = before.current) := by
    refine ⟨fun hall => hall before refuses p hcall, fun hthis before' refuses' p' hcall' => ?_⟩
    obtain ⟨rfl, rfl, rfl⟩ : before = before' ∧ refuses = refuses' ∧ p = p' := by
      simpa using hcall.symm.trans hcall'
    exact hthis
  have hharmless : Harmless t31 session.state op ↔ (before.initialized = true →
      (∃ r ∈ order t31, refuses r = true) → ∀ r ∈ written refuses (order t31),
        before.isp r = p.settings r ∧ before.current.settings r = p.settings r) := by
    refine ⟨fun hall => hall before refuses p hcall, fun hthis before' refuses' p' hcall' => ?_⟩
    obtain ⟨rfl, rfl, rfl⟩ : before = before' ∧ refuses = refuses' ∧ p = p' := by
      simpa using hcall.symm.trans hcall'
    exact hthis
  have hcoherent : (session.step t31 op).Coherent ↔
      (before.setParams t31 refuses p).2.Holding (if before.initialized then
        session.applied ++ written refuses (order t31) else session.applied) := by
    unfold Session.Coherent Session.step
    rw [hstep, appliedAfter_of_call hcall]
  rw [hnothing, hharmless, hcoherent]
  exact setParams_iff h hwithin p

/-- A start writes the parameters that are kept. -/
theorem Session.Coherent.start (h : session.Coherent) (refuses : Register → Bool) :
    (session.step t31 (.start refuses)).Coherent := by
  have happlied : session.appliedAfter t31 (.start refuses) =
      if session.state.initialized && !session.state.running then
        session.applied ++ written refuses (order t31) else session.applied := by
    unfold Session.appliedAfter State.applyCall
    cases session.state.initialized <;> cases session.state.running <;> rfl
  unfold Session.Coherent Session.step
  rw [happlied]
  exact State.Holding.start h

/-- What is saved is what is read back. -/
theorem Session.Coherent.save (h : session.Coherent) (saved : Bool) :
    (session.step t31 (.save saved)).Coherent := by
  have hget := State.Holding.getParams t31 h
  unfold Session.Coherent Session.step State.step State.save
  cases hinit : session.state.initialized with
  | false =>
    rw [getParams_uninitialized hinit]
    exact h
  | true =>
    rw [getParams_eq hinit] at hget ⊢
    cases saved <;> exact hget

/-- The conditions for setting one parameter. -/
theorem step_iff_set (hwithin : session.WithinOrder t31) (h : session.Coherent)
    (refuses : Register → Bool) (x : Setter) :
    (AllOrNothing t31 session.state (.set refuses x) ∧
        (session.step t31 (.set refuses x)).Coherent) ↔
      Harmless t31 session.state (.set refuses x) := by
  cases hinit : session.state.initialized with
  | false =>
    have hnone : session.state.getParams t31 = (none, session.state) :=
      getParams_uninitialized hinit
    refine step_iff_of_no_call ?_ ?_
    · unfold State.setCall
      rw [hnone]
    · unfold Session.Coherent Session.step Session.appliedAfter State.applyCall State.step
        State.set State.setCall
      rw [hnone]
      exact h
  | true =>
    have hget := State.Holding.getParams t31 h
    have hsome : session.state.getParams t31 = _ := getParams_eq hinit
    rw [hsome] at hget
    have hcall : session.state.setCall t31 (.set refuses x) =
        some ({ session.state with
            current := getCurrentImpParams t31 session.state.isp session.state.current }, refuses,
          x.update (getCurrentImpParams t31 session.state.isp session.state.current)) := by
      unfold State.setCall
      rw [hsome]
    refine step_iff_of_call hcall ?_ hwithin hget
    unfold State.step State.set
    rw [hsome]

/-- The conditions for a reset. -/
theorem step_iff_reset (hwithin : session.WithinOrder t31) (h : session.Coherent)
    (refuses : Register → Bool) :
    (AllOrNothing t31 session.state (.reset refuses) ∧
        (session.step t31 (.reset refuses)).Coherent) ↔
      Harmless t31 session.state (.reset refuses) := by
  cases hinit : session.state.initialized with
  | false =>
    refine step_iff_of_no_call ?_ ?_
    · unfold State.setCall
      rw [hinit]
      rfl
    · unfold Session.Coherent Session.step Session.appliedAfter State.applyCall State.step
        State.resetToDefaults State.setCall
      rw [hinit]
      exact h
  | true =>
    have hcall : session.state.setCall t31 (.reset refuses) =
        some (session.state, refuses, session.state.config) := by
      unfold State.setCall
      rw [hinit]
      rfl
    refine step_iff_of_call hcall ?_ hwithin h
    unfold State.step State.resetToDefaults
    rw [hinit]
    rfl

/-- The conditions for one call. -/
theorem Session.Coherent.step_iff (h : session.Coherent) (hwithin : session.WithinOrder t31)
    (op : Operation) :
    (AllOrNothing t31 session.state op ∧ (session.step t31 op).Coherent) ↔
      Harmless t31 session.state op := by
  cases op with
  | init config mutexInit =>
    refine step_iff_of_no_call rfl ?_
    unfold Session.Coherent Session.step Session.appliedAfter State.step State.init
    cases hinit : session.state.initialized with
    | true => exact h
    | false => exact fun r hr => absurd hr List.not_mem_nil
  | start refuses => exact step_iff_of_no_call rfl (h.start refuses)
  | stop => exact step_iff_of_no_call rfl h
  | cleanup =>
    refine step_iff_of_no_call rfl ?_
    unfold Session.Coherent Session.step Session.appliedAfter State.step State.cleanup
    cases hinit : session.state.initialized with
    | true => exact fun r hr => absurd hr List.not_mem_nil
    | false => exact h
  | get => exact step_iff_of_no_call rfl (h.getParams t31)
  | save saved => exact step_iff_of_no_call rfl (h.save saved)
  | setParams refuses p => exact step_iff_of_call rfl rfl hwithin h
  | set refuses x => exact step_iff_set hwithin h refuses x
  | reset refuses => exact step_iff_reset hwithin h refuses

theorem Session.WithinOrder.step (h : session.WithinOrder t31) (op : Operation) :
    (session.step t31 op).WithinOrder t31 := by
  have hcall : ∀ call : Option (Register → Bool), ∀ r ∈ call.elim session.applied (fun refuses =>
      session.applied ++ written refuses (order t31)), r ∈ order t31 := by
    intro call r hr
    cases call with
    | none => exact h r hr
    | some refuses =>
      rcases List.mem_append.mp hr with hold | hnew
      · exact h r hold
      · exact mem_of_mem_written hnew
  unfold Session.WithinOrder Session.step Session.appliedAfter
  cases op with
  | init config mutexInit =>
    dsimp only
    split_ifs
    · exact h
    · simp
  | cleanup =>
    dsimp only
    split_ifs
    · simp
    · exact h
  | stop | get | save _ => exact h
  | start _ | setParams _ _ | set _ _ | reset _ => exact hcall _

/-- In every run: calls of `imp_control_set_params` that fail change nothing and the registers
hold what was last applied, exactly if each call that meets a refusing register is harmless. -/
theorem params_all_or_nothing_iff (t31 : Bool) (isp : Isp) (ops : List Operation) :
    (Guarded (Session.step t31) (fun session op => AllOrNothing t31 session.state op) (.first isp)
        ops ∧ ∀ n, ((ops.take n).foldl (Session.step t31) (.first isp)).Coherent) ↔
      Guarded (Session.step t31) (fun session op => Harmless t31 session.state op) (.first isp)
        ops := by
  have hfirst : (Session.first isp).WithinOrder t31 ∧ (Session.first isp).Coherent :=
    ⟨fun r hr => absurd hr List.not_mem_nil, fun r hr => absurd hr List.not_mem_nil⟩
  have hruns : (∀ n, ((ops.take n).foldl (Session.step t31) (.first isp)).Coherent) ↔
      Guarded (Session.step t31) (fun session op => (session.step t31 op).Coherent) (.first isp)
        ops :=
    forall_take_iff_guarded (Session.WithinOrder t31) Session.Coherent
      (fun session op h => h.step op) (fun _ _ _ _ => Iff.rfl) ops hfirst.1 hfirst.2
  rw [hruns, ← guarded_and]
  exact guarded_congr (fun session => session.WithinOrder t31 ∧ session.Coherent)
    (fun session op h => h.2.step_iff h.1 op) (fun session op h hgood => ⟨h.1.step op, hgood.2⟩)
    hfirst

/-- The contrast is refused. -/
def contrastRefused : Register → Bool := fun r => r = .contrast

/-- The module is initialised and started, and parameters are refused after the first of them. -/
def refusedRun : List Operation :=
  [.init .defaults true, .start noneRefuses,
    .setParams contrastRefused { Params.defaults with brightness := 100 }]

/-- The call has failed, but the brightness is a new one. -/
theorem not_refusedRun_all_or_nothing :
    ¬(Guarded (Session.step true) (fun session op => AllOrNothing true session.state op)
        (.first Params.zeroed.settings) refusedRun ∧
      ∀ n, ((refusedRun.take n).foldl (Session.step true)
        (.first Params.zeroed.settings)).Coherent) := by
  rintro ⟨⟨-, -, hset, -⟩, -⟩
  have hsame := hset _ contrastRefused { Params.defaults with brightness := 100 } rfl
    (by decide +kernel)
  exact absurd (congrArg UInt8.toNat (congrFun hsame.1 .brightness)) (by decide +kernel)

end ImpControl
