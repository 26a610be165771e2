import Mathlib.Algebra.BigOperators.Group.List.Basic
import Mathlib.Algebra.GroupWithZero.Nat
import Mathlib.Algebra.Order.BigOperators.Group.List
import Mathlib.Data.Finset.Card
import Mathlib.Data.Fintype.Card
import Mathlib.Logic.Function.Basic

/-!
# Tables of slots with a count

A fixed table whose slots are in use or free, and a counter that is kept next to
it. A sweep visits slots one after another; each visit sees its own slot only and
may lower the counter. The drift is the number of slots in use less the counter.
-/

namespace Slots

variable {ι α : Type*} [DecidableEq ι]

/-! ### Sweeps -/

/-- One visit of a sweep. -/
def visit (f : ι → α → Option (α × ℤ)) (state : (ι → α) × ℤ) (i : ι) : Option ((ι → α) × ℤ) :=
  (f i (state.1 i)).map fun r => (Function.update state.1 i r.1, state.2 - r.2)

/-- The visits of the listed slots. The function gives the new content of a slot and
the amount that is taken off the counter. -/
def sweep (f : ι → α → Option (α × ℤ)) (visited : List ι) (state : (ι → α) × ℤ) :
    Option ((ι → α) × ℤ) :=
  visited.foldlM (visit f) state

variable {f : ι → α → Option (α × ℤ)} {visited : List ι} {state state' : (ι → α) × ℤ}

/-- A sweep is the visit of the first slot and the sweep of the others. -/
theorem sweep_cons {i : ι} : sweep f (i :: visited) state = some state' ↔
    ∃ a k, f i (state.1 i) = some (a, k) ∧
      sweep f visited (Function.update state.1 i a, state.2 - k) = some state' := by
  constructor
  · intro h
    obtain ⟨_, hvisit, hrest⟩ := Option.bind_eq_some_iff.mp h
    obtain ⟨⟨a, k⟩, hfirst, rfl⟩ := Option.map_eq_some_iff.mp hvisit
    exact ⟨a, k, hfirst, hrest⟩
  · rintro ⟨a, k, hfirst, hrest⟩
    exact Option.bind_eq_some_iff.mpr ⟨_, Option.map_eq_some_iff.mpr ⟨_, hfirst, rfl⟩, hrest⟩

/-- A sweep leaves the slots alone that it does not visit. -/
theorem sweep_unvisited (h : sweep f visited state = some state') {j : ι} (hj : j ∉ visited) :
    state'.1 j = state.1 j := by
  induction visited generalizing state with
  | nil =>
    obtain rfl : state = state' := Option.some.inj h
    rfl
  | cons i visited ih =>
    obtain ⟨a, k, -, hrest⟩ := sweep_cons.mp h
    have hlater : state'.1 j = Function.update state.1 i a j :=
      ih hrest (List.not_mem_of_not_mem_cons hj)
    rwa [Function.update_of_ne (List.ne_of_not_mem_cons hj)] at hlater

/-- A visited slot is changed by its own visit only, from the content that it had
before the sweep. -/
theorem sweep_visited (hnodup : visited.Nodup) (h : sweep f visited state = some state') {i : ι}
    (hi : i ∈ visited) : ∃ k, f i (state.1 i) = some (state'.1 i, k) := by
  induction visited generalizing state with
  | nil => cases hi
  | cons j visited ih =>
    obtain ⟨hnotMem, hnodup⟩ := List.nodup_cons.mp hnodup
    obtain ⟨a, k, hfirst, hrest⟩ := sweep_cons.mp h
    by_cases hij : i = j
    · subst hij
      have hlater : state'.1 i = Function.update state.1 i a i := sweep_unvisited hrest hnotMem
      rw [Function.update_self] at hlater
      exact ⟨k, hlater ▸ hfirst⟩
    · obtain ⟨l, hl⟩ := ih hnodup hrest (List.mem_of_ne_of_mem hij hi)
      have hkept : Function.update state.1 j a i = state.1 i := Function.update_of_ne hij a state.1
      exact ⟨l, hkept ▸ hl⟩

/-! ### Slots in use -/

variable [Fintype ι] {p : α → Prop} [DecidablePred p]

/-- The number of slots in use. -/
def occupied (p : α → Prop) [DecidablePred p] (slots : ι → α) : ℕ :=
  (Finset.univ.filter fun i => p (slots i)).card

/-- One for a slot in use, zero for a free one. -/
def use (p : α → Prop) [DecidablePred p] (a : α) : ℕ := if p a then 1 else 0

@[simp] theorem use_of_pos {a : α} (h : p a) : use p a = 1 := if_pos h

@[simp] theorem use_of_neg {a : α} (h : ¬p a) : use p a = 0 := if_neg h

omit [DecidableEq ι] in
/-- With fewer slots in use than there are, one is free. -/
theorem exists_free {slots : ι → α} (h : occupied p slots < Fintype.card ι) :
    ∃ i, ¬p (slots i) := by
  by_contra hnone
  have hall : ∀ i, p (slots i) := by simpa using hnone
  have hfull : occupied p slots = Fintype.card ι := by simp [occupied, hall]
  omega

omit [DecidableEq ι] in
/-- What puts no slot into use does not raise their number. -/
theorem occupied_le_of_imp {slots slots' : ι → α} (h : ∀ i, p (slots' i) → p (slots i)) :
    occupied p slots' ≤ occupied p slots :=
  Finset.card_le_card (Finset.monotone_filter_right _ fun i _ => h i)

omit [DecidableEq ι] in
/-- What puts no slot into use keeps their number only if it frees none. -/
theorem occupied_eq_iff_of_imp {slots slots' : ι → α} (h : ∀ i, p (slots' i) → p (slots i)) :
    occupied p slots' = occupied p slots ↔ ∀ i, p (slots i) → p (slots' i) := by
  have hsubset := Finset.monotone_filter_right (Finset.univ : Finset ι) fun i _ => h i
  constructor
  · intro hequal i hi
    have hfilter := Finset.eq_of_subset_of_card_le hsubset hequal.ge
    have hmem : i ∈ Finset.univ.filter fun i => p (slots' i) := by
      rw [hfilter]
      simpa using hi
    simpa using hmem
  · intro hback
    exact le_antisymm (occupied_le_of_imp h) (occupied_le_of_imp hback)

/-- A change to one slot changes the number by that slot only. -/
theorem occupied_update (slots : ι → α) (i : ι) (a : α) :
    occupied p (Function.update slots i a) + use p (slots i) = occupied p slots + use p a := by
  have hsplit : ∀ t : ι → α, occupied p t =
      ((Finset.univ.erase i).filter fun j => p (t j)).card + use p (t i) := by
    intro t
    rw [occupied, ← Finset.insert_erase (Finset.mem_univ i), Finset.filter_insert]
    by_cases hp : p (t i)
    · rw [if_pos hp, Finset.card_insert_of_notMem (by simp), Finset.erase_insert (by simp),
        use_of_pos hp]
    · rw [if_neg hp, Finset.erase_insert (by simp), use_of_neg hp, Nat.add_zero]
  have hrest : ((Finset.univ.erase i).filter fun j => p (Function.update slots i a j)) =
      (Finset.univ.erase i).filter fun j => p (slots j) := by
    refine Finset.filter_congr fun j hj => ?_
    rw [Function.update_of_ne (Finset.ne_of_mem_erase hj)]
  rw [hsplit (Function.update slots i a), hsplit slots, hrest, Function.update_self]
  omega

/-! ### The drift of the counter -/

/-- The slots in use less the counter. -/
def drift (p : α → Prop) [DecidablePred p] (state : (ι → α) × ℤ) : ℤ :=
  (occupied p state.1 : ℤ) - state.2

/-- The losses of the visits add up in the drift. A visit loses what it takes off
the counter beyond the slots that it frees. -/
theorem sweep_drift {loss : ι → α → ℕ}
    (hloss : ∀ i a a' k, f i a = some (a', k) → (use p a' : ℤ) + k = use p a + loss i a)
    (hnodup : visited.Nodup) (h : sweep f visited state = some state') :
    drift p state' = drift p state + ((visited.map fun i => loss i (state.1 i)).sum : ℕ) := by
  induction visited generalizing state with
  | nil =>
    obtain rfl : state = state' := Option.some.inj h
    simp
  | cons i visited ih =>
    obtain ⟨hnotMem, hnodup⟩ := List.nodup_cons.mp hnodup
    obtain ⟨a, k, hfirst, hrest⟩ := sweep_cons.mp h
    have hlater : (visited.map fun j => loss j (Function.update state.1 i a j)) =
        visited.map fun j => loss j (state.1 j) := by
      refine List.map_congr_left fun j hj => ?_
      have hji : j ≠ i := fun hequal => hnotMem (hequal ▸ hj)
      rw [Function.update_of_ne hji]
    have hslot := hloss i _ _ _ hfirst
    have hcount : occupied p (Function.update state.1 i a) + use p (state.1 i) =
        occupied p state.1 + use p a := occupied_update state.1 i a
    rw [ih hnodup hrest, hlater, List.map_cons, List.sum_cons]
    unfold drift
    dsimp only
    push_cast
    omega

/-- A sweep in which some visit loses leaves a larger drift, and any other sweep leaves
the drift as it was. -/
theorem sweep_drift_eq_iff {loss : ι → α → ℕ}
    (hloss : ∀ i a a' k, f i a = some (a', k) → (use p a' : ℤ) + k = use p a + loss i a)
    (hnodup : visited.Nodup) (h : sweep f visited state = some state') :
    drift p state ≤ drift p state' ∧
      (drift p state' = drift p state ↔ ∀ i ∈ visited, loss i (state.1 i) = 0) := by
  have hdrift := sweep_drift hloss hnodup h
  have hzero : (visited.map fun i => loss i (state.1 i)).sum = 0 ↔
      ∀ i ∈ visited, loss i (state.1 i) = 0 := by
    rw [List.sum_eq_zero_iff_forall_eq_nat]
    simp
  rw [← hzero]
  constructor <;> omega

/-- A sweep whose visits put no slot into use does not raise the number. -/
theorem sweep_occupied_le (huse : ∀ i a a' k, f i a = some (a', k) → p a' → p a)
    (hnodup : visited.Nodup) (h : sweep f visited state = some state') :
    occupied p state'.1 ≤ occupied p state.1 := by
  refine occupied_le_of_imp fun i hi => ?_
  by_cases hvisited : i ∈ visited
  · obtain ⟨k, hk⟩ := sweep_visited hnodup h hvisited
    exact huse i _ _ _ hk hi
  · rwa [sweep_unvisited h hvisited] at hi

end Slots
