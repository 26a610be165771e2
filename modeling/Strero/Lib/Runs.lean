import Mathlib.Data.List.Basic
import Mathlib.Logic.Function.Basic
import Mathlib.Tactic.Tauto

/-!
# Runs of a step function

A program that takes one event after another is a step function, and its runs
are left folds. The rules here package the induction over a run once: an
invariant carried by every guarded step holds in the last state, and two
systems related by every guarded step stay related. A step that may have no
result gives runs that end there, and a property of steps holds of each of them.
-/

namespace Runs

variable {σ τ ι : Type*}

/-- Every event of the run is acceptable in the state in which it is taken. -/
def Guarded (step : σ → ι → σ) (good : σ → ι → Prop) : σ → List ι → Prop
  | _, [] => True
  | s, e :: es => good s e ∧ Guarded step good (step s e) es

@[simp] theorem guarded_nil (step : σ → ι → σ) (good : σ → ι → Prop) (s : σ) :
    Guarded step good s [] := trivial

@[simp] theorem guarded_cons {step : σ → ι → σ} {good : σ → ι → Prop} {s : σ} {e : ι}
    {es : List ι} :
    Guarded step good s (e :: es) ↔ good s e ∧ Guarded step good (step s e) es := Iff.rfl

instance Guarded.decidable (step : σ → ι → σ) (good : σ → ι → Prop) [∀ s e, Decidable (good s e)] :
    (s : σ) → (es : List ι) → Decidable (Guarded step good s es)
  | _, [] => inferInstanceAs (Decidable True)
  | s, e :: es =>
    have := Guarded.decidable step good (step s e) es
    inferInstanceAs (Decidable (good s e ∧ Guarded step good (step s e) es))

/-- A guarded run goes on after a guarded run. -/
theorem guarded_append {step : σ → ι → σ} {good : σ → ι → Prop} {s : σ} {es es' : List ι} :
    Guarded step good s (es ++ es') ↔
      Guarded step good s es ∧ Guarded step good (es.foldl step s) es' := by
  induction es generalizing s with
  | nil => simp
  | cons e es ih => simp [ih, and_assoc]

/-- Each event of a guarded run was acceptable. -/
theorem Guarded.getElem? {step : σ → ι → σ} {good : σ → ι → Prop} {s : σ} {es : List ι}
    (h : Guarded step good s es) {n : ℕ} {e : ι} (he : es[n]? = some e) :
    good ((es.take n).foldl step s) e := by
  induction es generalizing s n with
  | nil => simp at he
  | cons first es ih =>
    cases n with
    | zero =>
      obtain rfl : first = e := by simpa using he
      exact h.1
    | succ n => exact ih h.2 (by simpa using he)

/-- The invariant rule: what the first state satisfies and every guarded step
preserves holds at the end of a guarded run. -/
theorem invariant {step : σ → ι → σ} {good : σ → ι → Prop} {Inv : σ → Prop}
    (hstep : ∀ s e, Inv s → good s e → Inv (step s e)) {s : σ} {es : List ι}
    (hguard : Guarded step good s es) (hinit : Inv s) : Inv (es.foldl step s) := by
  induction es generalizing s with
  | nil => exact hinit
  | cons e es ih => exact ih hguard.2 (hstep s e hinit hguard.1)

/-- The simulation rule: a relation that every guarded step of both systems
preserves relates the two last states. -/
theorem simulation {step : σ → ι → σ} {step' : τ → ι → τ} {good : σ → ι → Prop}
    {R : σ → τ → Prop} (hstep : ∀ s t e, R s t → good s e → R (step s e) (step' t e))
    {s : σ} {t : τ} {es : List ι} (hguard : Guarded step good s es) (hinit : R s t) :
    R (es.foldl step s) (es.foldl step' t) := by
  induction es generalizing s t with
  | nil => exact hinit
  | cons e es ih => exact ih hguard.2 (hstep s t e hinit hguard.1)

/-- What a guard implies under an invariant that it carries is a guard of the same runs. -/
theorem Guarded.imp (Inv : σ → Prop) {step : σ → ι → σ} {good good' : σ → ι → Prop}
    (hstep : ∀ s e, Inv s → good s e → good' s e ∧ Inv (step s e)) {s : σ} {es : List ι}
    (h : Guarded step good s es) (hinit : Inv s) : Guarded step good' s es := by
  induction es generalizing s with
  | nil => trivial
  | cons e es ih =>
    obtain ⟨hgood, hinv⟩ := hstep s e hinit h.1
    exact ⟨hgood, ih h.2 hinv⟩

/-- Guards between which there is no difference under an invariant guard the same runs. -/
theorem guarded_congr (Inv : σ → Prop) {step : σ → ι → σ} {good good' : σ → ι → Prop}
    (hiff : ∀ s e, Inv s → (good s e ↔ good' s e))
    (hinv : ∀ s e, Inv s → good s e → Inv (step s e)) {s : σ} {es : List ι} (hinit : Inv s) :
    Guarded step good s es ↔ Guarded step good' s es := by
  constructor
  · intro h
    exact h.imp Inv (fun s e hs hgood => ⟨(hiff s e hs).mp hgood, hinv s e hs hgood⟩) hinit
  · intro h
    refine h.imp Inv (fun s e hs hgood' => ?_) hinit
    have hgood := (hiff s e hs).mpr hgood'
    exact ⟨hgood, hinv s e hs hgood⟩

/-- Two guards of the same run. -/
theorem guarded_and {step : σ → ι → σ} {good good' : σ → ι → Prop} {s : σ} {es : List ι} :
    Guarded step (fun s e => good s e ∧ good' s e) s es ↔
      Guarded step good s es ∧ Guarded step good' s es := by
  induction es generalizing s with
  | nil => simp
  | cons e es ih =>
    simp only [guarded_cons, ih]
    tauto

/-- A guard that says of each step whether the property goes on describes the runs that never
lose it. -/
theorem forall_take_iff_guarded (Inv P : σ → Prop) {step : σ → ι → σ} {good : σ → ι → Prop}
    (hinv : ∀ s e, Inv s → Inv (step s e))
    (hstep : ∀ s e, Inv s → P s → (P (step s e) ↔ good s e)) {s : σ} (es : List ι)
    (hinit : Inv s) (hfirst : P s) :
    (∀ n, P ((es.take n).foldl step s)) ↔ Guarded step good s es := by
  induction es generalizing s with
  | nil => simp [hfirst]
  | cons e es ih =>
    constructor
    · intro hall
      have hnext : P (step s e) := hall 1
      exact ⟨(hstep s e hinit hfirst).mp hnext,
        (ih (hinv s e hinit) hnext).mp fun n => hall (n + 1)⟩
    · rintro ⟨hgood, hrest⟩ n
      have hnext : P (step s e) := (hstep s e hinit hfirst).mpr hgood
      cases n with
      | zero => exact hfirst
      | succ n => exact (ih (hinv s e hinit) hnext).mpr hrest n

/-! ### Runs without end -/

/-- The state after the first `n` of infinitely many events. -/
def orbit (step : σ → ι → σ) (s : σ) (events : ℕ → ι) : ℕ → σ
  | 0 => s
  | n + 1 => step (orbit step s events n) (events n)

@[simp] theorem orbit_zero (step : σ → ι → σ) (s : σ) (events : ℕ → ι) :
    orbit step s events 0 = s := rfl

@[simp] theorem orbit_succ (step : σ → ι → σ) (s : σ) (events : ℕ → ι) (n : ℕ) :
    orbit step s events (n + 1) = step (orbit step s events n) (events n) := rfl

/-- The ranking rule: a run whose rank falls with each step, except while it waits, reaches
its goal or waits for ever. -/
theorem reaches_or_waits {x : ℕ → σ} (rank : σ → ℕ) (Goal Waits : σ → Prop)
    (hstep : ∀ n, Goal (x n) ∨ Waits (x n) ∧ rank (x (n + 1)) ≤ rank (x n) ∨
      rank (x (n + 1)) < rank (x n)) :
    (∃ n, Goal (x n)) ∨ ∃ n, ∀ m, n ≤ m → Waits (x m) := by
  by_cases hgoal : ∃ n, Goal (x n)
  · exact .inl hgoal
  refine .inr ?_
  have hfalls : ∀ n, Waits (x n) ∧ rank (x (n + 1)) ≤ rank (x n) ∨
      rank (x (n + 1)) < rank (x n) :=
    fun n => (hstep n).resolve_left fun h => hgoal ⟨n, h⟩
  have hle : ∀ n k, rank (x (n + k)) ≤ rank (x n) := by
    intro n k
    induction k with
    | zero => exact Nat.le_refl _
    | succ k ih =>
      rcases hfalls (n + k) with ⟨-, hsame⟩ | hless
      · exact Nat.le_trans hsame ih
      · exact Nat.le_trans (Nat.le_of_lt hless) ih
  -- The state with the least rank is one from which on the run waits.
  have hfrom : ∀ r n, rank (x n) = r → ∃ n, ∀ m, n ≤ m → Waits (x m) := by
    intro r
    induction r using Nat.strongRecOn with
    | ind r ih =>
      rintro n rfl
      by_cases hall : ∀ m, n ≤ m → Waits (x m)
      · exact ⟨n, hall⟩
      · obtain ⟨m, hm⟩ := not_forall.mp hall
        obtain ⟨hnm, hmoves⟩ := Classical.not_imp.mp hm
        have hless : rank (x (m + 1)) < rank (x m) :=
          (hfalls m).resolve_left fun h => hmoves h.1
        have hbefore : rank (x m) ≤ rank (x n) := by
          obtain ⟨k, rfl⟩ := Nat.exists_eq_add_of_le hnm
          exact hle n k
        exact ih _ (Nat.lt_of_lt_of_le hless hbefore) (m + 1) rfl
  exact hfrom _ 0 rfl

/-! ### Events that concern one key each -/

section Keyed

variable {κ : Type*} [DecidableEq κ] (key : ι → κ) (f : ι → σ → σ)

/-- An event changes the state of its own key. -/
def keyedStep (states : κ → σ) (e : ι) : κ → σ :=
  Function.update states (key e) (f e (states (key e)))

variable {key f} {states : κ → σ} {es : List ι}

/-- Keys without an event keep their state. -/
theorem foldl_keyedStep_of_notMem {k : κ} (hk : k ∉ es.map key) :
    es.foldl (keyedStep key f) states k = states k := by
  induction es generalizing states with
  | nil => rfl
  | cons e es ih =>
    obtain ⟨hne, hrest⟩ := not_or.mp (mt List.mem_cons.mpr hk)
    exact (ih hrest).trans (Function.update_of_ne hne _ _)

/-- With one event for each key at most, the state of a key is what its own event makes of it. -/
theorem foldl_keyedStep_of_mem (f : ι → σ → σ) (states : κ → σ) (hnodup : (es.map key).Nodup)
    {e : ι} (he : e ∈ es) :
    es.foldl (keyedStep key f) states (key e) = f e (states (key e)) := by
  induction es generalizing states with
  | nil => cases he
  | cons first es ih =>
    obtain ⟨hfirst, hrest⟩ := List.nodup_cons.mp hnodup
    rcases List.mem_cons.mp he with rfl | hmem
    · exact (foldl_keyedStep_of_notMem hfirst).trans (Function.update_self _ _ _)
    · have hne : key e ≠ key first := fun heq => hfirst (heq ▸ List.mem_map_of_mem hmem)
      have hold : keyedStep key f states first (key e) = states (key e) :=
        Function.update_of_ne hne _ _
      exact (ih _ hrest hmem).trans (by rw [hold])

/-- With one event for each key at most, the order does not matter to the guards. -/
theorem guarded_keyedStep (good : ι → σ → Prop) (hnodup : (es.map key).Nodup) :
    Guarded (keyedStep key f) (fun states e => good e (states (key e))) states es ↔
      ∀ e ∈ es, good e (states (key e)) := by
  induction es generalizing states with
  | nil => simp
  | cons first es ih =>
    obtain ⟨hfirst, hrest⟩ := List.nodup_cons.mp hnodup
    rw [guarded_cons, ih hrest, List.forall_mem_cons]
    refine and_congr_right fun _ => forall₂_congr fun e he => ?_
    have hne : key e ≠ key first := fun heq => hfirst (heq ▸ List.mem_map_of_mem he)
    have hold : keyedStep key f states first (key e) = states (key e) :=
      Function.update_of_ne hne _ _
    rw [hold]

end Keyed

/-! ### Steps that may have no result -/

/-- A relation between the state before, the event and the state after holds of
each step of the run, up to the first event without a result. -/
def Each (step : σ → ι → Option σ) (R : σ → ι → σ → Prop) : σ → List ι → Prop
  | _, [] => True
  | s, e :: es => ∀ s', step s e = some s' → R s e s' ∧ Each step R s' es

instance Each.decidable (step : σ → ι → Option σ) (R : σ → ι → σ → Prop)
    [∀ s e s', Decidable (R s e s')] : (s : σ) → (es : List ι) → Decidable (Each step R s es)
  | _, [] => inferInstanceAs (Decidable True)
  | s, e :: es =>
    match h : step s e with
    | none => isTrue fun s' hs' => by simp [h] at hs'
    | some s' =>
      have := Each.decidable step R s' es
      decidable_of_iff (R s e s' ∧ Each step R s' es) <| by
        constructor
        · intro hboth t ht
          obtain rfl : s' = t := Option.some.inj (h.symm.trans ht)
          exact hboth
        · exact fun hall => hall s' h

/-- What follows of every step under an invariant follows of each step of a run. -/
theorem Each.imp {step : σ → ι → Option σ} {Q R : σ → ι → σ → Prop} {Inv : σ → Prop}
    (hstep : ∀ s e s', Inv s → step s e = some s' → Q s e s' → R s e s' ∧ Inv s') {s : σ}
    {es : List ι} (h : Each step Q s es) (hinit : Inv s) : Each step R s es := by
  induction es generalizing s with
  | nil => trivial
  | cons e es ih =>
    intro s' hs'
    obtain ⟨hQ, hrest⟩ := h s' hs'
    obtain ⟨hR, hinv⟩ := hstep s e s' hinit hs' hQ
    exact ⟨hR, ih hrest hinv⟩

/-- What follows of every step follows of each step of a run. -/
theorem Each.mono {step : σ → ι → Option σ} {Q R : σ → ι → σ → Prop}
    (hstep : ∀ s e s', step s e = some s' → Q s e s' → R s e s') {s : σ} {es : List ι}
    (h : Each step Q s es) : Each step R s es :=
  h.imp (fun s e s' (_ : True) hs' hQ => ⟨hstep s e s' hs' hQ, trivial⟩) trivial

/-- What follows of every step holds of each step of every run. -/
theorem each_of_step {step : σ → ι → Option σ} {R : σ → ι → σ → Prop}
    (hstep : ∀ s e s', step s e = some s' → R s e s') (s : σ) (es : List ι) :
    Each step R s es := by
  induction es generalizing s with
  | nil => trivial
  | cons e es ih => exact fun s' hs' => ⟨hstep s e s' hs', ih s'⟩

/-- Two relations between which there is no difference under an invariant hold of
each step of the same runs. -/
theorem each_congr {step : σ → ι → Option σ} {Q R : σ → ι → σ → Prop} (Inv : σ → Prop)
    (hiff : ∀ s e s', Inv s → step s e = some s' → (R s e s' ↔ Q s e s'))
    (hinv : ∀ s e s', Inv s → step s e = some s' → R s e s' → Inv s') {s : σ} {es : List ι}
    (hinit : Inv s) : Each step R s es ↔ Each step Q s es := by
  constructor
  · intro h
    refine h.imp (fun s e s' hs hstep hR => ?_) hinit
    exact ⟨(hiff s e s' hs hstep).mp hR, hinv s e s' hs hstep hR⟩
  · intro h
    refine h.imp (fun s e s' hs hstep hQ => ?_) hinit
    have hR := (hiff s e s' hs hstep).mpr hQ
    exact ⟨hR, hinv s e s' hs hstep hR⟩

/-- A condition holds of each event in the state in which it is taken, up to the first event
without a result. -/
def Allowed (step : σ → ι → Option σ) (good : σ → ι → Prop) : σ → List ι → Prop
  | _, [] => True
  | s, e :: es => good s e ∧ ∀ s', step s e = some s' → Allowed step good s' es

instance Allowed.decidable (step : σ → ι → Option σ) (good : σ → ι → Prop)
    [∀ s e, Decidable (good s e)] : (s : σ) → (es : List ι) → Decidable (Allowed step good s es)
  | _, [] => inferInstanceAs (Decidable True)
  | s, e :: es =>
    match h : step s e with
    | none => decidable_of_iff (good s e) (by simp [Allowed, h])
    | some s' =>
      have := Allowed.decidable step good s' es
      decidable_of_iff (good s e ∧ Allowed step good s' es) (by simp [Allowed, h])

/-- The rule for runs that must come to an end: if every allowed step has a result and takes
the invariant of the events so far to that of one more, the run has a result with the
invariant of all of them. -/
theorem Allowed.result {step : σ → ι → Option σ} {good : σ → ι → Prop}
    (Inv : List ι → σ → Prop)
    (hstep : ∀ past s e, Inv past s → good s e → ∃ s', step s e = some s' ∧ Inv (past ++ [e]) s')
    {past : List ι} {s : σ} {es : List ι} (h : Allowed step good s es) (hinit : Inv past s) :
    ∃ s', es.foldlM step s = some s' ∧ Inv (past ++ es) s' := by
  induction es generalizing past s with
  | nil => exact ⟨s, rfl, by rwa [List.append_nil]⟩
  | cons e es ih =>
    obtain ⟨s', hs', hinv⟩ := hstep past s e hinit h.1
    obtain ⟨last, hlast, hall⟩ := ih (h.2 s' hs') hinv
    refine ⟨last, ?_, by simpa using hall⟩
    rw [List.foldlM_cons, hs']
    exact hlast

/-- The invariant rule for steps that may have no result. -/
theorem invariant_foldlM {step : σ → ι → Option σ} {Inv : σ → Prop}
    (hstep : ∀ s e s', Inv s → step s e = some s' → Inv s') {s s' : σ} {es : List ι}
    (hrun : es.foldlM step s = some s') (hinit : Inv s) : Inv s' := by
  induction es generalizing s with
  | nil => exact Option.some.inj hrun ▸ hinit
  | cons e es ih =>
    rw [List.foldlM_cons] at hrun
    obtain ⟨next, hnext, hrest⟩ := Option.bind_eq_some_iff.mp hrun
    exact ih hrest (hstep s e next hinit hnext)

/-- The invariant rule for allowed runs of such steps. -/
theorem Allowed.invariant {step : σ → ι → Option σ} {good : σ → ι → Prop} {Inv : σ → Prop}
    (hstep : ∀ s e s', Inv s → good s e → step s e = some s' → Inv s') {s s' : σ} {es : List ι}
    (h : Allowed step good s es) (hrun : es.foldlM step s = some s') (hinit : Inv s) : Inv s' := by
  induction es generalizing s with
  | nil => exact Option.some.inj hrun ▸ hinit
  | cons e es ih =>
    rw [List.foldlM_cons] at hrun
    obtain ⟨next, hnext, hrest⟩ := Option.bind_eq_some_iff.mp hrun
    exact ih (h.2 next hnext) hrest (hstep s e next hinit h.1 hnext)

/-- The simulation rule for steps that may have no result: of two related systems one comes
to an end exactly if the other does. -/
theorem Allowed.simulation {step : σ → ι → Option σ} {step' : τ → ι → Option τ}
    {good : σ → ι → Prop} {R : σ → τ → Prop}
    (hstep : ∀ s t e, R s t → good s e → Option.Rel R (step s e) (step' t e)) {s : σ} {t : τ}
    {es : List ι} (h : Allowed step good s es) (hinit : R s t) :
    Option.Rel R (es.foldlM step s) (es.foldlM step' t) := by
  induction es generalizing s t with
  | nil => exact .some hinit
  | cons e es ih =>
    rw [List.foldlM_cons, List.foldlM_cons]
    have hnext := hstep s t e hinit h.1
    have hrest := h.2
    generalize step s e = r at hnext hrest
    generalize step' t e = r' at hnext
    cases hnext with
    | none => exact .none
    | some hrelated => exact ih (hrest _ rfl) hrelated

end Runs
