import Mathlib.Data.Finset.Card
import Mathlib.Data.Fintype.Basic
import Mathlib.Logic.Function.Basic

/-!
# Resources and their holders

Each of some holders keeps at most one resource, and resources are opened and closed. The
books are exact if what is open is what is held.
-/

namespace Ownership

variable {κ ρ : Type*}

/-- What is open is what is held. -/
def Exact (hold : κ → Option ρ) (opened : Finset ρ) : Prop :=
  ∀ r, r ∈ opened ↔ ∃ k, hold k = some r

/-- No two holders keep the same resource. -/
def Exclusive (hold : κ → Option ρ) : Prop := ∀ j k r, hold j = some r → hold k = some r → j = k

variable {hold : κ → Option ρ} {opened : Finset ρ}

/-- No more is open than there are holders. -/
theorem Exact.card_le [Fintype κ] [DecidableEq ρ] (h : Exact hold opened) :
    opened.card ≤ (Finset.univ.filter fun k => (hold k).isSome).card := by
  have hheld : opened.image some ⊆ (Finset.univ.filter fun k => (hold k).isSome).image hold := by
    intro o ho
    obtain ⟨r, hr, rfl⟩ := Finset.mem_image.mp ho
    obtain ⟨k, hk⟩ := (h r).mp hr
    exact Finset.mem_image.mpr ⟨k, by simp [hk], hk⟩
  calc opened.card = (opened.image some).card :=
        (Finset.card_image_of_injective _ (Option.some_injective ρ)).symm
    _ ≤ ((Finset.univ.filter fun k => (hold k).isSome).image hold).card :=
        Finset.card_le_card hheld
    _ ≤ (Finset.univ.filter fun k => (hold k).isSome).card := Finset.card_image_le

/-- Holders that lose track of what they keep had nothing. -/
theorem exact_forget_iff (h : Exact hold opened) (hexclusive : Exclusive hold) (p : κ → Prop)
    [DecidablePred p] :
    Exact (fun k => if p k then none else hold k) opened ↔ ∀ k, p k → hold k = none := by
  constructor
  · intro hforgot k hk
    by_contra hkept
    obtain ⟨r, hr⟩ := Option.ne_none_iff_exists'.mp hkept
    obtain ⟨j, hj⟩ := (hforgot r).mp ((h r).mpr ⟨k, hr⟩)
    dsimp only at hj
    split_ifs at hj with hpj
    exact hpj (hexclusive j k r hj hr ▸ hk)
  · intro hnone
    have hsame : (fun k => if p k then none else hold k) = hold := by
      funext k
      split_ifs with hk
      · exact (hnone k hk).symm
      · rfl
    rwa [hsame]

/-! ### Changes of one holder -/

section Update

variable [DecidableEq κ] {k : κ}

/-- What the books have to say after one holder has changed. -/
theorem exact_update_iff (h : Exact hold opened) (hexclusive : Exclusive hold) (kept : Option ρ)
    (opened' : Finset ρ) :
    Exact (Function.update hold k kept) opened' ↔
      ∀ r, r ∈ opened' ↔ r ∈ opened ∧ hold k ≠ some r ∨ kept = some r := by
  refine forall_congr' fun r => iff_congr Iff.rfl ?_
  constructor
  · rintro ⟨j, hj⟩
    by_cases hjk : j = k
    · subst hjk
      rw [Function.update_self] at hj
      exact .inr hj
    · rw [Function.update_of_ne hjk] at hj
      exact .inl ⟨(h r).mpr ⟨j, hj⟩, fun hk => hjk (hexclusive j k r hj hk)⟩
  · rintro (⟨hr, hk⟩ | hkept)
    · obtain ⟨j, hj⟩ := (h r).mp hr
      have hjk : j ≠ k := fun heq => hk (heq ▸ hj)
      exact ⟨j, by rwa [Function.update_of_ne hjk]⟩
    · exact ⟨k, by rwa [Function.update_self]⟩

/-- Holders keep different resources if one takes up only what was not open, or less. -/
theorem Exclusive.update (hexclusive : Exclusive hold) (h : Exact hold opened)
    {kept : Option ρ} (hfresh : ∀ r, kept = some r → r ∉ opened) :
    Exclusive (Function.update hold k kept) := by
  have hother : ∀ j r, j ≠ k → Function.update hold k kept j = some r → kept ≠ some r := by
    intro j r hjk hj hkept
    rw [Function.update_of_ne hjk] at hj
    exact hfresh r hkept ((h r).mpr ⟨j, hj⟩)
  intro i j r hi hj
  by_cases hik : i = k <;> by_cases hjk : j = k
  · rw [hik, hjk]
  · subst hik
    rw [Function.update_self] at hi
    exact absurd hi (hother j r hjk hj)
  · subst hjk
    rw [Function.update_self] at hj
    exact absurd hj (hother i r hik hi)
  · rw [Function.update_of_ne hik] at hi
    rw [Function.update_of_ne hjk] at hj
    exact hexclusive i j r hi hj

/-- A holder that loses track of its resource had none. -/
theorem exact_drop_iff (h : Exact hold opened) (hexclusive : Exclusive hold) :
    Exact (Function.update hold k none) opened ↔ hold k = none := by
  have hupdate : Function.update hold k none = fun j => if j = k then none else hold j :=
    funext fun j => Function.update_apply hold k none j
  rw [hupdate, exact_forget_iff h hexclusive]
  simp

variable [DecidableEq ρ] {r c : ρ}

/-- A new resource may be taken up by a holder that has none. -/
theorem exact_open_iff (h : Exact hold opened) (hexclusive : Exclusive hold) (hfresh : r ∉ opened) :
    Exact (Function.update hold k (some r)) (insert r opened) ↔ hold k = none := by
  rw [exact_update_iff h hexclusive]
  constructor
  · intro hall
    by_contra hkept
    obtain ⟨q, hq⟩ := Option.ne_none_iff_exists'.mp hkept
    have hopen := (h q).mpr ⟨k, hq⟩
    rcases (hall q).mp (Finset.mem_insert_of_mem hopen) with ⟨-, hne⟩ | hsame
    · exact hne hq
    · exact hfresh (Option.some.inj hsame ▸ hopen)
  · intro hnone q
    simp [hnone, or_comm, eq_comm]

/-- A holder closes its resource, and a number with it: that must not be of another one. -/
theorem exact_close_iff (h : Exact hold opened) (hexclusive : Exclusive hold)
    (hown : hold k ≠ some c) {closed : Finset ρ}
    (hclosed : ∀ r, r ∈ closed ↔ r ∈ opened ∧ r ≠ c ∧ hold k ≠ some r) :
    Exact (Function.update hold k none) closed ↔ c ∉ opened := by
  rw [exact_update_iff h hexclusive]
  constructor
  · intro hall hc
    exact ((hclosed c).mp ((hall c).mpr (.inl ⟨hc, hown⟩))).2.1 rfl
  · intro hc r
    have hne : r ∈ opened → r ≠ c := fun hr heq => hc (heq ▸ hr)
    rw [hclosed]
    simp only [reduceCtorEq, or_false]
    tauto

/-- A holder closes only a number, and loses track of its resource. -/
theorem exact_abandon_iff (h : Exact hold opened) (hexclusive : Exclusive hold)
    (hown : hold k ≠ some c) :
    Exact (Function.update hold k none) (opened.erase c) ↔ hold k = none ∧ c ∉ opened := by
  rw [exact_update_iff h hexclusive]
  constructor
  · intro hall
    have hc : c ∉ opened := fun hc =>
      absurd ((hall c).mpr (.inl ⟨hc, hown⟩)) (Finset.notMem_erase c opened)
    refine ⟨?_, hc⟩
    by_contra hkept
    obtain ⟨q, hq⟩ := Option.ne_none_iff_exists'.mp hkept
    have hopen := (h q).mpr ⟨k, hq⟩
    have hqc : q ≠ c := fun heq => hc (heq ▸ hopen)
    rcases (hall q).mp (Finset.mem_erase.mpr ⟨hqc, hopen⟩) with ⟨-, hne⟩ | hnone
    · exact hne hq
    · cases hnone
  · rintro ⟨hnone, hc⟩ r
    rw [Finset.erase_eq_of_notMem hc]
    simp [hnone]

end Update

end Ownership
