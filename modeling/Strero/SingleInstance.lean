import Strero.Lib.CString
import Strero.Lib.FileLocks
import Strero.Lib.Runs

/-!
# One instance of the streamer

At its start the program opens a file and locks it, and when it exits it gives the lock back and
removes the file. The lock keeps a second instance from running, crashes or not, as long as no
process has the file open when it is removed: a process that has it open then may lock a file
that the next process no longer finds.
-/

namespace SingleInstance

open CString FileLocks Runs

/-- `g_lock_file`. -/
def gLockFile : List UInt8 := ascii "/run/streamer.lock"

/-- Where a process is: in `check_another_instance_running` behind `open`, behind its return, or
in `cleanup_lock_file` between `close` and `unlink`. A process that runs has its file in
`g_lock_fd`. -/
inductive Stage
  | ready
  | opened (fd : ℕ)
  | refused
  | running (gLockFd : ℕ)
  | closed
  | ended
deriving DecidableEq

/-- The processes and the files. -/
structure State (ρ : Type) where
  fs : FileSystem (List UInt8) ρ
  stage : ρ → Stage

/-- What a process does next. `open` may fail, and `fcntl` may fail without a lock of somebody
else; a process may be killed at any time. -/
inductive Action
  | openFile (opened : Bool)
  | setLock (fails : Bool)
  | close
  | unlink
  | crash
deriving DecidableEq

variable {ρ : Type}

section Steps

variable [DecidableEq ρ]

/-- A process goes on to a stage. -/
def State.goTo (s : State ρ) (fs : FileSystem (List UInt8) ρ) (p : ρ) (stage : Stage) : State ρ :=
  ⟨fs, Function.update s.stage p stage⟩

/-- The first half of `check_another_instance_running`. -/
def State.openFile (s : State ρ) (p : ρ) (opened : Bool) : State ρ :=
  if opened then
    s.goTo (s.fs.openCreate gLockFile).2 p (.opened (s.fs.openCreate gLockFile).1)
  else s.goTo s.fs p .refused

/-- The second half of `check_another_instance_running`. -/
def State.setLock (s : State ρ) (p : ρ) (fd : ℕ) (fails : Bool) : State ρ :=
  if fails then s.goTo (s.fs.close p fd) p .refused
  else if (s.fs.setLock p fd).1 then s.goTo (s.fs.setLock p fd).2 p (.running fd)
  else s.goTo ((s.fs.setLock p fd).2.close p fd) p .refused

/-- One step of a process. What a process cannot do at its stage changes nothing. -/
def State.step (s : State ρ) (e : ρ × Action) : State ρ :=
  match s.stage e.1, e.2 with
  | .ready, .openFile opened => s.openFile e.1 opened
  | .opened fd, .setLock fails => s.setLock e.1 fd fails
  | .running fd, .close => s.goTo (s.fs.close e.1 fd) e.1 .closed
  | .closed, .unlink => s.goTo (s.fs.unlink gLockFile) e.1 .ended
  | _, .crash => s.goTo (s.fs.exit e.1) e.1 .ended
  | _, _ => s

end Steps

/-- Processes that have not done anything, over any files. The lock file may be there. -/
def State.first (fs : FileSystem (List UInt8) ρ) : State ρ := ⟨fs, fun _ => .ready⟩

/-- The process has the lock file open. -/
def Stage.hasOpen : Stage → Prop
  | .opened _ | .running _ => True
  | _ => False

/-- No process but the one that removes the file has it open. -/
def State.RemovesAlone (s : State ρ) (e : ρ × Action) : Prop :=
  s.stage e.1 = .closed → e.2 = .unlink → ∀ q, ¬(s.stage q).hasOpen

/-- At most one instance runs. -/
def State.AtMostOne (s : State ρ) : Prop :=
  ∀ p q fd fd', s.stage p = .running fd → s.stage q = .running fd' → p = q

/-- The file that a process has open is the one with the name, and the process that runs is the
one that holds the lock. -/
structure State.Guarding (s : State ρ) : Prop where
  sound : s.fs.Sound
  opened : ∀ p fd, s.stage p = .opened fd → s.fs.link gLockFile = some fd
  running : ∀ p fd, s.stage p = .running fd →
    s.fs.link gLockFile = some fd ∧ s.fs.holder fd = some p
  holder : ∀ fd p, s.fs.holder fd = some p → s.stage p = .running fd

variable {s : State ρ} {p q : ρ} {fd : ℕ}

theorem State.Guarding.atMostOne (h : s.Guarding) : s.AtMostOne := by
  intro p q fd fd' hp hq
  obtain ⟨hlink, hholder⟩ := h.running p fd hp
  obtain ⟨hlink', hholder'⟩ := h.running q fd' hq
  obtain rfl := Option.some.inj (hlink.symm.trans hlink')
  exact Option.some.inj (hholder.symm.trans hholder')

theorem guarding_first {fs : FileSystem (List UInt8) ρ} (hsound : fs.Sound)
    (hunlocked : ∀ f, fs.holder f = none) : (State.first fs).Guarding where
  sound := hsound
  opened p fd h := by cases h
  running p fd h := by cases h
  holder fd p h := by
    have hnone : fs.holder fd = none := hunlocked fd
    exact absurd (hnone.symm.trans h) (by simp)

/-- The link of an open file, whether or not the process runs. -/
theorem State.Guarding.link (h : s.Guarding)
    (hstage : s.stage p = .opened fd ∨ s.stage p = .running fd) :
    s.fs.link gLockFile = some fd := by
  rcases hstage with hopened | hrunning
  · exact h.opened p fd hopened
  · exact (h.running p fd hrunning).1

/-- A process that does not run holds no lock. -/
theorem State.Guarding.holder_ne (h : s.Guarding) (hstage : ∀ fd, s.stage p ≠ .running fd) (f : ℕ) :
    s.fs.holder f ≠ some p := fun hheld => hstage f (h.holder f p hheld)

/-! ### One step -/

variable [DecidableEq ρ]

@[simp] theorem stage_goTo (s : State ρ) (fs : FileSystem (List UInt8) ρ) (p : ρ) (stage : Stage) :
    (s.goTo fs p stage).stage p = stage := Function.update_self _ _ _

theorem stage_goTo_of_ne (h : q ≠ p) (s : State ρ) (fs : FileSystem (List UInt8) ρ)
    (stage : Stage) : (s.goTo fs p stage).stage q = s.stage q := Function.update_of_ne h _ _

@[simp] theorem fs_goTo (s : State ρ) (fs : FileSystem (List UInt8) ρ) (p : ρ) (stage : Stage) :
    (s.goTo fs p stage).fs = fs := rfl

/-- A step of one process keeps the guard if the files of the others keep the name and their
locks, and the process itself holds the lock where it runs. -/
theorem State.Guarding.goTo (h : s.Guarding) {fs : FileSystem (List UInt8) ρ} {stage : Stage}
    (hsound : fs.Sound)
    (hothers : ∀ q ≠ p, ∀ fd, s.stage q = .opened fd ∨ s.stage q = .running fd →
      fs.link gLockFile = some fd)
    (hown : ∀ fd, stage = .opened fd ∨ stage = .running fd → fs.link gLockFile = some fd)
    (hheld : ∀ f q, q ≠ p → (fs.holder f = some q ↔ s.fs.holder f = some q))
    (hholds : ∀ f, fs.holder f = some p ↔ stage = .running f) : (s.goTo fs p stage).Guarding where
  sound := hsound
  opened q fd hq := by
    by_cases heq : q = p
    · subst heq
      rw [stage_goTo] at hq
      exact hown fd (.inl hq)
    · rw [stage_goTo_of_ne heq] at hq
      exact hothers q heq fd (.inl hq)
  running q fd hq := by
    by_cases heq : q = p
    · subst heq
      rw [stage_goTo] at hq
      exact ⟨hown fd (.inr hq), (hholds fd).mpr hq⟩
    · rw [stage_goTo_of_ne heq] at hq
      exact ⟨hothers q heq fd (.inr hq), (hheld fd q heq).mpr (h.running q fd hq).2⟩
  holder f q hq := by
    by_cases heq : q = p
    · subst heq
      rw [stage_goTo]
      exact (hholds f).mp hq
    · rw [stage_goTo_of_ne heq]
      exact h.holder f q ((hheld f q heq).mp hq)

/-- A step over the same names and without the locks of the process. -/
theorem State.Guarding.leave (h : s.Guarding) {fs : FileSystem (List UInt8) ρ} {stage : Stage}
    (hsound : fs.Sound) (hlink : fs.link = s.fs.link)
    (hholder : ∀ f q, fs.holder f = some q ↔ s.fs.holder f = some q ∧ q ≠ p)
    (hstage : stage = .refused ∨ stage = .closed ∨ stage = .ended) :
    (s.goTo fs p stage).Guarding := by
  refine h.goTo hsound (fun q _ fd hq => hlink ▸ h.link hq) ?_ (fun f q hne => ?_) (fun f => ?_)
  · rintro fd hopen
    rcases hstage with rfl | rfl | rfl <;> simp at hopen
  · rw [hholder]
    exact and_iff_left hne
  · rw [hholder]
    rcases hstage with rfl | rfl | rfl <;> simp

theorem State.Guarding.openFile (h : s.Guarding) (hp : s.stage p = .ready) (opened : Bool) :
    (s.openFile p opened).Guarding := by
  have hnone := h.holder_ne (p := p) (by simp [hp])
  cases opened with
  | false =>
    refine h.leave h.sound rfl (fun f q => ⟨fun hq => ⟨hq, ?_⟩, And.left⟩) (.inl rfl)
    rintro rfl
    exact hnone f hq
  | true =>
    have hlink : (s.fs.openCreate gLockFile).2.link gLockFile =
        some (s.fs.openCreate gLockFile).1 := FileSystem.link_openCreate
    refine h.goTo h.sound.openCreate (fun q _ fd hq => ?_) (fun fd hfd => ?_) (fun f q _ => ?_)
      (fun f => ?_)
    · rw [FileSystem.openCreate_of_link (h.link hq)]
      exact h.link hq
    · rcases hfd with hfd | hfd
      · cases hfd
        exact hlink
      · cases hfd
    · rw [FileSystem.holder_openCreate]
    · rw [FileSystem.holder_openCreate]
      exact ⟨fun hheld => absurd hheld (hnone f), fun hrun => by cases hrun⟩

/-- The files without the locks of a process that gives up its file. -/
theorem holder_close_iff (hholds : ∀ f, s.fs.holder f = some p → f = fd) (f : ℕ) (q : ρ) :
    (s.fs.close p fd).holder f = some q ↔ s.fs.holder f = some q ∧ q ≠ p := by
  rw [FileSystem.holder_close]
  refine and_congr_right fun hq => ⟨?_, fun hne hsame => hne hsame.2⟩
  rintro hnot rfl
  exact hnot ⟨hholds f hq, rfl⟩

theorem State.Guarding.close (h : s.Guarding) {stage : Stage}
    (hholds : ∀ f, s.fs.holder f = some p → f = fd)
    (hstage : stage = .refused ∨ stage = .closed ∨ stage = .ended) :
    (s.goTo (s.fs.close p fd) p stage).Guarding :=
  h.leave h.sound.close FileSystem.link_close (holder_close_iff hholds) hstage

theorem State.Guarding.setLock (h : s.Guarding) (hp : s.stage p = .opened fd) (fails : Bool) :
    (s.setLock p fd fails).Guarding := by
  have hnone := h.holder_ne (p := p) (by simp [hp])
  have hlink := h.opened p fd hp
  unfold State.setLock
  cases fails with
  | true => exact h.close (fun f hheld => absurd hheld (hnone f)) (.inl rfl)
  | false =>
    rw [if_neg Bool.false_ne_true]
    cases hholder : s.fs.holder fd with
    | some q =>
      have hne : q ≠ p := fun heq => hnone fd (heq ▸ hholder)
      rw [FileSystem.setLock_of_held hholder hne, if_neg Bool.false_ne_true]
      exact h.close (fun f hheld => absurd hheld (hnone f)) (.inl rfl)
    | none =>
      have hsound := h.sound.setLock (p := p) (h.sound.link_lt gLockFile fd hlink)
      rw [FileSystem.setLock_of_free hholder] at hsound ⊢
      rw [if_pos rfl]
      refine h.goTo hsound (fun q _ fd' hq => h.link hq) (fun fd' hfd => ?_) (fun f q hne => ?_)
        (fun f => ?_)
      · rcases hfd with hfd | hfd
        · cases hfd
        · cases hfd
          exact hlink
      · dsimp only
        by_cases heq : f = fd
        · subst heq
          rw [Function.update_self, hholder]
          simp [hne.symm]
        · rw [Function.update_of_ne heq]
      · dsimp only
        by_cases heq : f = fd
        · subst heq
          simp
        · rw [Function.update_of_ne heq]
          exact ⟨fun hheld => absurd hheld (hnone f), fun hrun => absurd (by cases hrun; rfl) heq⟩

/-- What a step is. -/
theorem step_cases (s : State ρ) (p : ρ) (action : Action) :
    (∃ opened, s.stage p = .ready ∧ s.step (p, action) = s.openFile p opened) ∨
    (∃ fd fails, s.stage p = .opened fd ∧ s.step (p, action) = s.setLock p fd fails) ∨
    (∃ fd, s.stage p = .running fd ∧ s.step (p, action) = s.goTo (s.fs.close p fd) p .closed) ∨
    (s.stage p = .closed ∧ action = .unlink ∧
      s.step (p, action) = s.goTo (s.fs.unlink gLockFile) p .ended) ∨
    s.step (p, action) = s.goTo (s.fs.exit p) p .ended ∨ s.step (p, action) = s := by
  unfold State.step
  dsimp only
  cases hstage : s.stage p with
  | ready =>
    cases action with
    | openFile opened => exact .inl ⟨opened, rfl, rfl⟩
    | setLock | close | unlink | crash => simp
  | opened fd =>
    cases action with
    | setLock fails => exact .inr (.inl ⟨fd, fails, rfl, rfl⟩)
    | openFile | close | unlink | crash => simp
  | running fd =>
    cases action with
    | close => exact .inr (.inr (.inl ⟨fd, rfl, rfl⟩))
    | openFile | setLock | unlink | crash => simp
  | closed =>
    cases action with
    | unlink => exact .inr (.inr (.inr (.inl ⟨rfl, rfl, rfl⟩)))
    | openFile | setLock | close | crash => simp
  | refused | ended => cases action <;> simp

/-- The guard goes on as long as the file is removed by a process that is alone with it. -/
theorem State.Guarding.step (h : s.Guarding) (e : ρ × Action) (halone : s.RemovesAlone e) :
    (s.step e).Guarding := by
  obtain ⟨p, action⟩ := e
  obtain ⟨opened, hp, hstep⟩ | ⟨fd, fails, hp, hstep⟩ | ⟨fd, hp, hstep⟩ | ⟨hp, haction, hstep⟩ |
    hstep | hstep := step_cases s p action
  · exact hstep ▸ h.openFile hp opened
  · exact hstep ▸ h.setLock hp fails
  · rw [hstep]
    refine h.close (fun f hheld => ?_) (.inr (.inl rfl))
    have hrunning := h.holder f p hheld
    rw [hp] at hrunning
    cases hrunning
    rfl
  · rw [hstep]
    have hnobody := halone hp haction
    refine h.goTo h.sound.unlink (fun q _ fd hq => ?_) (fun fd hfd => by simp at hfd)
      (fun f q _ => Iff.rfl) (fun f => ?_)
    · have hopen : (s.stage q).hasOpen := by
        rcases hq with hq | hq <;> exact hq ▸ trivial
      exact absurd hopen (hnobody q)
    · have hnone := h.holder_ne (p := p) (by simp [hp]) f
      exact ⟨fun hheld => absurd hheld hnone, fun hrun => by cases hrun⟩
  · rw [hstep]
    exact h.leave h.sound.exit rfl (fun f q => FileSystem.holder_exit) (.inr (.inr rfl))
  · exact hstep.symm ▸ h

/-! ### Starting -/

/-- The actions of `check_another_instance_running`, without a failure. -/
def starting (p : ρ) : List (ρ × Action) := [(p, .openFile true), (p, .setLock false)]

theorem step_openFile (hp : s.stage p = .ready) : s.step (p, .openFile true) =
    s.goTo (s.fs.openCreate gLockFile).2 p (.opened (s.fs.openCreate gLockFile).1) := by
  unfold State.step
  dsimp only
  rw [hp]
  rfl

theorem step_setLock (hp : s.stage p = .opened fd) :
    s.step (p, .setLock false) = s.setLock p fd false := by
  unfold State.step
  dsimp only
  rw [hp]

theorem setLock_of_free (h : s.fs.holder fd = none) :
    s.setLock p fd false = s.goTo (s.fs.setLock p fd).2 p (.running fd) := by
  rw [State.setLock, FileSystem.setLock_of_free h, if_neg Bool.false_ne_true, if_pos rfl]

theorem setLock_of_held (h : s.fs.holder fd = some q) (hne : q ≠ p) :
    s.setLock p fd false = s.goTo (s.fs.close p fd) p .refused := by
  rw [State.setLock, FileSystem.setLock_of_held h hne, if_neg Bool.false_ne_true,
    if_neg Bool.false_ne_true]

/-- A process that starts runs exactly if no instance does. -/
theorem State.Guarding.starts_iff (h : s.Guarding) (hp : s.stage p = .ready) :
    (∃ fd, ((starting p).foldl State.step s).stage p = .running fd) ↔
      ∀ q fd, s.stage q ≠ .running fd := by
  have hnext := h.openFile hp true
  have hopen : s.openFile p true =
      s.goTo (s.fs.openCreate gLockFile).2 p (.opened (s.fs.openCreate gLockFile).1) := rfl
  rw [starting, List.foldl_cons, List.foldl_cons, List.foldl_nil, step_openFile hp]
  rw [hopen] at hnext
  generalize s.fs.openCreate gLockFile = opened at hnext ⊢
  have hstage : (s.goTo opened.2 p (.opened opened.1)).stage p = .opened opened.1 :=
    stage_goTo _ _ _ _
  have hothers : ∀ q, (∃ fd, (s.goTo opened.2 p (.opened opened.1)).stage q = .running fd) ↔
      ∃ fd, s.stage q = .running fd := by
    intro q
    by_cases heq : q = p
    · subst heq
      simp [hp]
    · rw [stage_goTo_of_ne heq]
  generalize s.goTo opened.2 p (.opened opened.1) = next at hnext hstage hothers ⊢
  rw [step_setLock hstage]
  cases hholder : next.fs.holder opened.1 with
  | none =>
    rw [setLock_of_free hholder, stage_goTo]
    refine iff_of_true ⟨_, rfl⟩ fun q fd hq => ?_
    obtain ⟨fd', hq'⟩ := (hothers q).mpr ⟨fd, hq⟩
    obtain ⟨hlink, hheld⟩ := hnext.running q fd' hq'
    obtain rfl := Option.some.inj ((hnext.opened p _ hstage).symm.trans hlink)
    exact absurd (hholder.symm.trans hheld) (by simp)
  | some q =>
    have hrunning := hnext.holder _ q hholder
    have hne : q ≠ p := by
      rintro rfl
      rw [hstage] at hrunning
      cases hrunning
    rw [setLock_of_held hholder hne, stage_goTo]
    refine iff_of_false (by simp) fun hnobody => ?_
    obtain ⟨fd, hq⟩ := (hothers q).mp ⟨_, hrunning⟩
    exact hnobody q fd hq

/-! ### Removing the file -/

theorem guarded_starting (s : State ρ) (p : ρ) :
    Guarded State.step State.RemovesAlone s (starting p) := by
  rw [starting, guarded_cons, guarded_cons]
  refine ⟨fun _ haction => ?_, fun _ haction => ?_, guarded_nil _ _ _⟩ <;> cases haction

/-- Where the file has no name a process that starts makes a new one, and runs. -/
theorem starts_without_link {r : ρ} (hsound : s.fs.Sound) (hlink : s.fs.link gLockFile = none)
    (hr : s.stage r = .ready) :
    ((starting r).foldl State.step s).stage r = .running s.fs.fresh ∧
      ∀ q ≠ r, ((starting r).foldl State.step s).stage q = s.stage q := by
  have hfree : s.fs.holder s.fs.fresh = none := by
    cases hholder : s.fs.holder s.fs.fresh with
    | none => rfl
    | some q => exact absurd (hsound.holder_lt _ q hholder) (Nat.lt_irrefl _)
  have hlock : ∀ (fs : FileSystem (List UInt8) ρ) stage, fs.holder = s.fs.holder →
      (s.goTo fs r stage).setLock r s.fs.fresh false =
        (s.goTo fs r stage).goTo (fs.setLock r s.fs.fresh).2 r (.running s.fs.fresh) :=
    fun fs stage hfs => setLock_of_free ((congrFun hfs _).trans hfree)
  rw [starting, List.foldl_cons, List.foldl_cons, List.foldl_nil, step_openFile hr,
    FileSystem.openCreate_of_none hlink, step_setLock (stage_goTo _ _ _ _)]
  dsimp only
  rw [hlock _ _ (by rfl)]
  refine ⟨stage_goTo _ _ _ _, fun q hq => ?_⟩
  rw [stage_goTo_of_ne hq, stage_goTo_of_ne hq]

/-- Beside an instance whose file has lost its name another one can start. -/
theorem two_run_of_running {r : ρ} (hsound : s.fs.Sound) (hlink : s.fs.link gLockFile = none)
    (hq : s.stage q = .running fd) (hr : s.stage r = .ready) :
    ¬((starting r).foldl State.step s).AtMostOne := by
  intro hone
  obtain ⟨hruns, hothers⟩ := starts_without_link hsound hlink hr
  have hne : q ≠ r := by
    rintro rfl
    rw [hq] at hr
    cases hr
  exact hne (hone q r fd s.fs.fresh ((hothers q hne).trans hq) hruns)

/-- While a process has the file open, removing the file lets two instances run. -/
theorem two_run_after_unlink (h : s.Guarding) {r : ρ} (hp : s.stage p = .closed)
    (hq : (s.stage q).hasOpen) (hr : s.stage r = .ready) :
    ∃ es : List (ρ × Action), Guarded State.step State.RemovesAlone (s.step (p, .unlink)) es ∧
      ¬(es.foldl State.step (s.step (p, .unlink))).AtMostOne := by
  have hstep : s.step (p, .unlink) = s.goTo (s.fs.unlink gLockFile) p .ended := by
    unfold State.step
    dsimp only
    rw [hp]
  have hother : ∀ q, s.stage q ≠ .closed → (s.step (p, .unlink)).stage q = s.stage q := by
    intro q hq
    rw [hstep]
    refine stage_goTo_of_ne ?_ _ _ _
    rintro rfl
    exact hq hp
  have hlink : (s.step (p, .unlink)).fs.link gLockFile = none := by
    rw [hstep]
    exact Function.update_self gLockFile none s.fs.link
  have hsound : (s.step (p, .unlink)).fs.Sound := by
    rw [hstep]
    exact h.sound.unlink
  have hholder : (s.step (p, .unlink)).fs.holder = s.fs.holder := by
    rw [hstep]
    rfl
  have hfresh : (s.step (p, .unlink)).fs.fresh = s.fs.fresh := by
    rw [hstep]
    rfl
  have hr' := (hother r (by simp [hr])).trans hr
  generalize s.step (p, .unlink) = next at hother hlink hsound hholder hfresh hr' ⊢
  -- Some process runs with the old file, or the one that has it open can go on to run.
  have hrun : ∀ q fd, s.stage q = .running fd →
      ∃ es : List (ρ × Action), Guarded State.step State.RemovesAlone next es ∧
        ¬(es.foldl State.step next).AtMostOne := fun q fd hq =>
    ⟨starting r, guarded_starting next r,
      two_run_of_running hsound hlink ((hother q (by simp [hq])).trans hq) hr'⟩
  cases hstage : s.stage q with
  | running fd => exact hrun q fd hstage
  | opened fd =>
    cases hheld : s.fs.holder fd with
    | some q' => exact hrun q' fd (h.holder fd q' hheld)
    | none =>
      have hq' := (hother q (by simp [hstage])).trans hstage
      have hfree : next.fs.holder fd = none := hholder ▸ hheld
      have hfd : fd < next.fs.fresh := hfresh ▸ h.sound.link_lt _ fd (h.opened q fd hstage)
      have hguard :
          Guarded State.step State.RemovesAlone next ((q, .setLock false) :: starting r) :=
        ⟨fun _ haction => (by cases haction), guarded_starting _ r⟩
      refine ⟨(q, .setLock false) :: starting r, hguard, ?_⟩
      have hne : r ≠ q := by
        rintro rfl
        rw [hr] at hstage
        cases hstage
      rw [List.foldl_cons, step_setLock hq', setLock_of_free hfree]
      refine two_run_of_running (hsound.setLock hfd) ?_ (stage_goTo _ _ _ _)
        ((stage_goTo_of_ne hne _ _ _).trans hr')
      rw [fs_goTo, FileSystem.setLock_of_free hfree]
      exact hlink
  | ready | refused | closed | ended =>
    rw [hstage] at hq
    exact hq.elim

/-- In every run of any number of processes, killed at any time or not, in which the file is
removed only by processes that are alone with it: at most one instance runs, a process that starts
gets to run exactly if no instance does, and the next removal is harmless to all such runs behind
it exactly if nobody else has the file open. -/
theorem single_instance {fs : FileSystem (List UInt8) ρ} (hsound : fs.Sound)
    (hunlocked : ∀ f, fs.holder f = none) {es : List (ρ × Action)}
    (hguard : Guarded State.step State.RemovesAlone (State.first fs) es)
    (hs : es.foldl State.step (State.first fs) = s) :
    s.AtMostOne ∧
      (∀ p, s.stage p = .ready → ((∃ fd, ((starting p).foldl State.step s).stage p = .running fd) ↔
        ∀ q fd, s.stage q ≠ .running fd)) ∧
      ∀ p r, s.stage p = .closed → s.stage r = .ready →
        ((∀ es', Guarded State.step State.RemovesAlone (s.step (p, .unlink)) es' →
          (es'.foldl State.step (s.step (p, .unlink))).AtMostOne) ↔
            ∀ q, ¬(s.stage q).hasOpen) := by
  have hrun : ∀ {s' : State ρ} {es' : List (ρ × Action)}, s'.Guarding →
      Guarded State.step State.RemovesAlone s' es' → (es'.foldl State.step s').Guarding :=
    fun hfirst hes => invariant (fun _ e h halone => h.step e halone) hes hfirst
  have h : s.Guarding := hs ▸ hrun (guarding_first hsound hunlocked) hguard
  refine ⟨h.atMostOne, fun p hp => h.starts_iff hp, fun p r hp hr => ⟨fun hall q hq => ?_, ?_⟩⟩
  · obtain ⟨es', hes, htwo⟩ := two_run_after_unlink h hp hq hr
    exact htwo (hall es' hes)
  · intro hnobody es' hes
    exact (hrun (h.step (p, .unlink) fun _ _ => hnobody) hes).atMostOne

/-- Three processes over no file: the second starts while the first runs and is refused, the first
is killed, and the third starts and exits. -/
def killedRun : List (ℕ × Action) :=
  starting 0 ++ starting 1 ++ [(0, .crash)] ++ starting 2 ++ [(2, .close)]

theorem single_instance_killed :
    (killedRun.foldl State.step (State.first ⟨fun _ => none, 0, fun _ => none⟩)).AtMostOne ∧
      ∀ p, (killedRun.foldl State.step (State.first ⟨fun _ => none, 0, fun _ => none⟩)).stage p =
        .ready → ((∃ fd, ((starting p).foldl State.step (killedRun.foldl State.step
          (State.first ⟨fun _ => none, 0, fun _ => none⟩))).stage p = .running fd) ↔
        ∀ q fd, (killedRun.foldl State.step (State.first ⟨fun _ => none, 0, fun _ => none⟩)).stage
          q ≠ .running fd) :=
  have hsound : (⟨fun _ => none, 0, fun _ => none⟩ : FileSystem (List UInt8) ℕ).Sound :=
    ⟨fun _ _ hlink => (by cases hlink), fun _ _ hholder => (by cases hholder)⟩
  have hguard : Guarded State.step State.RemovesAlone
      (State.first (⟨fun _ => none, 0, fun _ => none⟩ : FileSystem (List UInt8) ℕ))
      killedRun := by
    simp [killedRun, starting, State.RemovesAlone]
  have hall := single_instance hsound (fun _ => rfl) hguard rfl
  ⟨hall.1, hall.2.1⟩

end SingleInstance
