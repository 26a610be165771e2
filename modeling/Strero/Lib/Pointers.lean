import Mathlib.Data.Finset.Insert
import Mathlib.Logic.Equiv.Basic
import Strero.Lib.Ownership

/-!
# Pointers to what has been acquired

Pointers may point to resources, which are numbered as they are acquired. A resource that is
given back stays in the pointer until the pointer is overwritten. The books are kept if what is
there is what one pointer each points to, and nothing was used or given back after it had been
given back. They are lost with the last pointer to something that is still there.
-/

namespace Pointers

variable {κ : Type*}

/-- The pointers, what is there, the number of the next resource, and whether nothing was used
after it had been given back. -/
structure Store (κ : Type*) where
  hold : κ → Option ℕ
  opened : Finset ℕ
  next : ℕ
  proper : Bool

/-- All pointers are null, and nothing has been acquired. -/
def Store.empty : Store κ where
  hold := fun _ => none
  opened := ∅
  next := 0
  proper := true

namespace Store

/-! ### What is done with a pointer -/

/-- What the pointer points to is used. The null pointer is not. -/
def touch (k : κ) (s : Store κ) : Store κ :=
  match s.hold k with
  | none => s
  | some r => { s with proper := s.proper && decide (r ∈ s.opened) }

/-- Several pointers are used. -/
def touchAll (ks : List κ) (s : Store κ) : Store κ := ks.foldl (fun s k => s.touch k) s

/-- What the pointer points to is given back. Nothing happens for the null pointer. -/
def free (k : κ) (s : Store κ) : Store κ :=
  match s.hold k with
  | none => s
  | some r =>
    { s with opened := s.opened.erase r, proper := s.proper && decide (r ∈ s.opened) }

/-- Some pointers are overwritten with null, or go out of scope. -/
def forget (p : κ → Prop) [DecidablePred p] (s : Store κ) : Store κ :=
  { s with hold := fun k => if p k then none else s.hold k }

section Update

variable [DecidableEq κ]

/-- A new resource is acquired into a pointer. -/
def acquire (k : κ) (s : Store κ) : Store κ :=
  { s with
    hold := Function.update s.hold k (some s.next)
    opened := insert s.next s.opened
    next := s.next + 1 }

/-- A pointer is copied. -/
def copy (src dst : κ) (s : Store κ) : Store κ :=
  { s with hold := Function.update s.hold dst (s.hold src) }

/-- A pointer is set to null. -/
def null (k : κ) (s : Store κ) : Store κ := { s with hold := Function.update s.hold k none }

/-- What the pointer points to is given back, and the pointer set to null. -/
def release (k : κ) (s : Store κ) : Store κ := (s.free k).null k

/-- A pointer takes over what another one points to. What it pointed to itself is given back. -/
def replace (src dst : κ) (s : Store κ) : Store κ := ((s.free dst).copy src dst).null src

/-- Several pointers are released one after another. -/
def releaseAll (ks : List κ) (s : Store κ) : Store κ := ks.foldl (fun s k => s.release k) s

end Update

/-! ### The pointers afterwards -/

section Hold

variable {s : Store κ} {k j src dst : κ}

@[simp] theorem hold_touch (k : κ) (s : Store κ) : (s.touch k).hold = s.hold := by
  unfold touch
  split <;> rfl

@[simp] theorem hold_touchAll (ks : List κ) (s : Store κ) : (s.touchAll ks).hold = s.hold := by
  induction ks generalizing s with
  | nil => rfl
  | cons k ks ih => exact (ih _).trans (hold_touch k s)

@[simp] theorem hold_free (k : κ) (s : Store κ) : (s.free k).hold = s.hold := by
  unfold free
  split <;> rfl

@[simp] theorem hold_forget_of_not {p : κ → Prop} [DecidablePred p] (h : ¬p k) :
    (s.forget p).hold k = s.hold k := if_neg h

theorem hold_forget_of {p : κ → Prop} [DecidablePred p] (h : p k) : (s.forget p).hold k = none :=
  if_pos h

variable [DecidableEq κ]

@[simp] theorem hold_acquire_self (k : κ) (s : Store κ) : (s.acquire k).hold k = some s.next :=
  Function.update_self _ _ _

@[simp] theorem hold_acquire_of_ne (h : j ≠ k) : (s.acquire k).hold j = s.hold j :=
  Function.update_of_ne h _ _

@[simp] theorem hold_release_self (k : κ) (s : Store κ) : (s.release k).hold k = none :=
  Function.update_self _ _ _

@[simp] theorem hold_release_of_ne (h : j ≠ k) : (s.release k).hold j = s.hold j := by
  have hnull : (s.release k).hold j = (s.free k).hold j := Function.update_of_ne h _ _
  rw [hnull, hold_free]

@[simp] theorem hold_replace_src (src dst : κ) (s : Store κ) :
    (s.replace src dst).hold src = none :=
  Function.update_self _ _ _

@[simp] theorem hold_replace_of_ne (hsrc : j ≠ src) (hdst : j ≠ dst) :
    (s.replace src dst).hold j = s.hold j := by
  have hnull : (s.replace src dst).hold j = ((s.free dst).copy src dst).hold j :=
    Function.update_of_ne hsrc _ _
  have hcopy : ((s.free dst).copy src dst).hold j = (s.free dst).hold j :=
    Function.update_of_ne hdst _ _
  rw [hnull, hcopy, hold_free]

theorem hold_replace_dst (h : src ≠ dst) : (s.replace src dst).hold dst = s.hold src := by
  have hnull : (s.replace src dst).hold dst = ((s.free dst).copy src dst).hold dst :=
    Function.update_of_ne h.symm _ _
  have hcopy : ((s.free dst).copy src dst).hold dst = (s.free dst).hold src :=
    Function.update_self _ _ _
  rw [hnull, hcopy, hold_free]

theorem hold_releaseAll_of_notMem {ks : List κ} (h : k ∉ ks) :
    (s.releaseAll ks).hold k = s.hold k := by
  induction ks generalizing s with
  | nil => rfl
  | cons j ks ih =>
    obtain ⟨hne, hnot⟩ := not_or.mp (mt List.mem_cons.mpr h)
    rw [releaseAll, List.foldl_cons]
    exact (ih hnot).trans (hold_release_of_ne hne)

theorem hold_releaseAll_of_mem {ks : List κ} (h : k ∈ ks) : (s.releaseAll ks).hold k = none := by
  induction ks generalizing s with
  | nil => exact absurd h List.not_mem_nil
  | cons j ks ih =>
    rw [releaseAll, List.foldl_cons]
    by_cases hmem : k ∈ ks
    · exact ih hmem
    · obtain rfl := (List.mem_cons.mp h).resolve_right hmem
      exact (hold_releaseAll_of_notMem hmem).trans (hold_release_self k s)

end Hold

/-! ### The books -/

/-- What is there is what one pointer each points to, it has an earlier number, and nothing was
used after it had been given back. -/
structure Accounted (s : Store κ) : Prop where
  exact : Ownership.Exact s.hold s.opened
  exclusive : Ownership.Exclusive s.hold
  fresh : ∀ r ∈ s.opened, r < s.next
  proper : s.proper = true

theorem accounted_empty : (empty : Store κ).Accounted where
  exact := fun r => iff_of_false (Finset.notMem_empty r) fun ⟨_, hk⟩ => absurd hk (by simp [empty])
  exclusive := fun _ _ _ hj => absurd hj (by simp [empty])
  fresh := fun r hr => absurd hr (Finset.notMem_empty r)
  proper := rfl

variable {s : Store κ} {k : κ} {r : ℕ}

/-- What a pointer points to is there. -/
theorem Accounted.opened_of_hold (h : s.Accounted) (hk : s.hold k = some r) : r ∈ s.opened :=
  (h.exact r).mpr ⟨k, hk⟩

/-- What is there may be used. -/
theorem Accounted.touch_eq (h : s.Accounted) (k : κ) : s.touch k = s := by
  unfold touch
  cases hk : s.hold k with
  | none => rfl
  | some r =>
    dsimp only
    rw [decide_eq_true (h.opened_of_hold hk), Bool.and_true]

theorem Accounted.touchAll_eq (h : s.Accounted) (ks : List κ) : s.touchAll ks = s := by
  induction ks with
  | nil => rfl
  | cons k ks ih =>
    rw [touchAll, List.foldl_cons, h.touch_eq]
    exact ih

/-- Pointers may be overwritten that are null. -/
theorem Accounted.forget (h : s.Accounted) {p : κ → Prop} [DecidablePred p]
    (hnull : ∀ k, p k → s.hold k = none) : (s.forget p).Accounted where
  exact := (Ownership.exact_forget_iff h.exact h.exclusive p).mpr hnull
  exclusive := by
    intro i j r hi hj
    unfold Store.forget at hi hj
    dsimp only at hi hj
    split_ifs at hi hj
    exact h.exclusive i j r hi hj
  fresh := h.fresh
  proper := h.proper

section Update

variable [DecidableEq κ]

/-- A null pointer may take up a new resource. -/
theorem Accounted.acquire (h : s.Accounted) (hk : s.hold k = none) : (s.acquire k).Accounted := by
  have hfresh : s.next ∉ s.opened := fun hmem => (h.fresh _ hmem).ne rfl
  refine ⟨(Ownership.exact_open_iff h.exact h.exclusive hfresh).mpr hk, ?_, ?_, h.proper⟩
  · refine h.exclusive.update h.exact fun r hr => ?_
    exact Option.some.inj hr ▸ hfresh
  · intro r hr
    have hnext : (s.acquire k).next = s.next + 1 := rfl
    rcases Finset.mem_insert.mp hr with rfl | hmem
    · omega
    · have hlt := h.fresh r hmem
      omega

/-- Any pointer may be released. -/
theorem Accounted.release (h : s.Accounted) (k : κ) : (s.release k).Accounted := by
  unfold Store.release free null
  cases hk : s.hold k with
  | none =>
    dsimp only
    rw [← hk, Function.update_eq_self]
    exact h
  | some r =>
    have hmem := h.opened_of_hold hk
    refine ⟨?_, ?_, fun q hq => h.fresh q (Finset.mem_of_mem_erase hq), ?_⟩
    · refine (Ownership.exact_update_iff h.exact h.exclusive none _).mpr fun q => ?_
      dsimp only
      rw [Finset.mem_erase, hk]
      simp [and_comm, eq_comm]
    · exact h.exclusive.update h.exact fun q hq => absurd hq (by simp)
    · dsimp only
      rw [decide_eq_true hmem, h.proper]
      rfl

/-- Pointers may be exchanged. -/
theorem Accounted.swap (h : s.Accounted) (src dst : κ) :
    ({ s with hold := s.hold ∘ Equiv.swap src dst } : Store κ).Accounted where
  exact := fun r => (h.exact r).trans (Equiv.swap src dst).surjective.exists
  exclusive := fun _ _ r hi hj => (Equiv.swap src dst).injective (h.exclusive _ _ r hi hj)
  fresh := h.fresh
  proper := h.proper

/-- A null pointer that takes over from another one is exchanged with it. -/
theorem replace_eq {src dst : κ} (hne : src ≠ dst) (s : Store κ) :
    s.replace src dst =
      { s.release dst with hold := (s.release dst).hold ∘ Equiv.swap src dst } := by
  have hhold : (s.replace src dst).hold = (s.release dst).hold ∘ Equiv.swap src dst := by
    funext k
    rw [Function.comp_apply]
    by_cases hsrc : k = src
    · rw [hsrc, Equiv.swap_apply_left, hold_replace_src, hold_release_self]
    by_cases hdst : k = dst
    · rw [hdst, Equiv.swap_apply_right, hold_replace_dst hne, hold_release_of_ne hne]
    · rw [Equiv.swap_apply_of_ne_of_ne hsrc hdst, hold_replace_of_ne hsrc hdst,
        hold_release_of_ne hdst]
  rw [← hhold]
  rfl

/-- Any pointer may take over from another one. -/
theorem Accounted.replace {src dst : κ} (h : s.Accounted) (hne : src ≠ dst) :
    (s.replace src dst).Accounted := by
  rw [replace_eq hne]
  exact (h.release dst).swap src dst

theorem Accounted.releaseAll (h : s.Accounted) (ks : List κ) : (s.releaseAll ks).Accounted := by
  induction ks generalizing s with
  | nil => exact h
  | cons k ks ih => exact ih (h.release k)

end Update

/-! ### What is lost -/

/-- Something is there to which no pointer points. -/
def Lost (r : ℕ) (s : Store κ) : Prop := r ∈ s.opened ∧ r < s.next ∧ ∀ k, s.hold k ≠ some r

theorem Lost.not_accounted (h : s.Lost r) : ¬s.Accounted := by
  intro hs
  obtain ⟨k, hk⟩ := (hs.exact r).mp h.1
  exact h.2.2 k hk

/-- The last pointer to something is overwritten. -/
theorem Accounted.lost_forget (h : s.Accounted) {p : κ → Prop} [DecidablePred p] (hp : p k)
    (hk : s.hold k = some r) : (s.forget p).Lost r := by
  have hmem := h.opened_of_hold hk
  refine ⟨hmem, h.fresh r hmem, fun j hj => ?_⟩
  unfold Store.forget at hj
  dsimp only at hj
  split_ifs at hj with hpj
  exact hpj (h.exclusive j k r hj hk ▸ hp)

/-- Pointers may be overwritten exactly if they are null. -/
theorem Accounted.forget_iff (h : s.Accounted) {p : κ → Prop} [DecidablePred p] :
    (s.forget p).Accounted ↔ ∀ k, p k → s.hold k = none := by
  constructor
  · intro hforget k hp
    by_contra hk
    obtain ⟨r, hr⟩ := Option.ne_none_iff_exists'.mp hk
    exact (h.lost_forget hp hr).not_accounted hforget
  · exact h.forget

/-- Something is lost where the pointers should not have been overwritten. -/
theorem Accounted.exists_lost (h : s.Accounted) {p : κ → Prop} [DecidablePred p]
    (hnot : ¬(s.forget p).Accounted) : ∃ r, (s.forget p).Lost r := by
  rw [h.forget_iff] at hnot
  obtain ⟨k, hk⟩ := not_forall.mp hnot
  obtain ⟨hp, hheld⟩ := Classical.not_imp.mp hk
  obtain ⟨r, hr⟩ := Option.ne_none_iff_exists'.mp hheld
  exact ⟨r, h.lost_forget hp hr⟩

/-- What is lost stays lost. -/
def Persists (f : Store κ → Store κ) : Prop := ∀ r s, s.Lost r → (f s).Lost r

theorem persists_id : Persists (id : Store κ → Store κ) := fun _ _ h => h

theorem Persists.comp {f g : Store κ → Store κ} (hg : Persists g) (hf : Persists f) :
    Persists (g ∘ f) := fun r s h => hg r _ (hf r s h)

theorem Persists.foldl {ι : Type*} {f : ι → Store κ → Store κ} (hf : ∀ i, Persists (f i))
    (is : List ι) : Persists fun s => is.foldl (fun s i => f i s) s := by
  induction is with
  | nil => exact persists_id
  | cons i is ih => exact fun r s h => ih r _ (hf i r s h)

theorem persists_touch (k : κ) : Persists (touch k) := by
  intro r s h
  unfold touch
  split <;> exact h

theorem persists_touchAll (ks : List κ) : Persists (touchAll ks) := Persists.foldl persists_touch ks

theorem persists_free (k : κ) : Persists (free k) := by
  intro r s h
  unfold free
  cases hk : s.hold k with
  | none => exact h
  | some q =>
    refine ⟨Finset.mem_erase.mpr ⟨?_, h.1⟩, h.2⟩
    rintro rfl
    exact h.2.2 k hk

theorem persists_forget (p : κ → Prop) [DecidablePred p] : Persists (forget p) := by
  intro r s h
  refine ⟨h.1, h.2.1, fun k hk => ?_⟩
  unfold Store.forget at hk
  dsimp only at hk
  split_ifs at hk
  exact h.2.2 k hk

section Update

variable [DecidableEq κ]

theorem persists_acquire (k : κ) : Persists (acquire k) := by
  intro r s h
  have hlt := h.2.1
  refine ⟨Finset.mem_insert_of_mem h.1, Nat.lt_succ_of_lt hlt, fun j hj => ?_⟩
  by_cases hjk : j = k
  · subst hjk
    rw [hold_acquire_self] at hj
    obtain rfl := Option.some.inj hj
    omega
  · rw [hold_acquire_of_ne hjk] at hj
    exact h.2.2 j hj

/-- A pointer takes a value that another one has, or null. -/
theorem Lost.update {v : Option ℕ} (h : s.Lost r) (hv : v ≠ some r) (k : κ) :
    ({ s with hold := Function.update s.hold k v } : Store κ).Lost r := by
  refine ⟨h.1, h.2.1, fun j hj => ?_⟩
  change Function.update s.hold k v j = some r at hj
  by_cases hjk : j = k
  · rw [hjk, Function.update_self] at hj
    exact hv hj
  · rw [Function.update_of_ne hjk] at hj
    exact h.2.2 j hj

theorem persists_null (k : κ) : Persists (null k) :=
  fun _ _ h => h.update (Option.some_ne_none _).symm k

theorem persists_copy (src dst : κ) : Persists (copy src dst) :=
  fun _ _ h => h.update (h.2.2 src) dst

theorem persists_release (k : κ) : Persists (release k) :=
  (persists_null k).comp (persists_free k)

theorem persists_replace (src dst : κ) : Persists (replace src dst) :=
  (persists_null src).comp ((persists_copy src dst).comp (persists_free dst))

theorem persists_releaseAll (ks : List κ) : Persists (releaseAll ks) :=
  Persists.foldl persists_release ks

end Update

end Store

end Pointers
