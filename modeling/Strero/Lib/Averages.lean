import Mathlib.Algebra.GroupWithZero.Nat
import Mathlib.Algebra.Order.BigOperators.Group.List
import Mathlib.Algebra.Order.Group.Nat
import Strero.Lib.WrappedDivision

/-!
# Averages of running totals

The average of a list of numbers is what it has for each of them, and lies between the smallest
and the largest. A total that has run over gives another quotient.
-/

namespace Averages

open WrappedDivision

variable {xs : List ℕ} {avg m : ℕ}

/-- The quotient of the sum by the number of summands, which lies between two of them. -/
structure IsAverage (xs : List ℕ) (avg : ℕ) : Prop where
  quotient : avg = xs.sum / xs.length
  between : xs ≠ [] → (∃ least ∈ xs, least ≤ avg) ∧ ∃ largest ∈ xs, avg ≤ largest

theorem exists_le_mean (hne : xs ≠ []) : ∃ least ∈ xs, least ≤ xs.sum / xs.length := by
  have hpos := List.length_pos_of_ne_nil hne
  have hsum : (xs.map id).sum < (xs.map fun _ => xs.sum / xs.length + 1).sum := by
    rw [List.map_id, List.map_const', List.sum_replicate, Nat.nsmul_eq_mul, Nat.mul_comm]
    exact Nat.lt_mul_of_div_lt (Nat.lt_succ_self _) hpos
  obtain ⟨least, hmem, hlt⟩ := List.exists_lt_of_sum_lt _ _ hsum
  exact ⟨least, hmem, Nat.le_of_lt_succ hlt⟩

theorem exists_mean_le (hne : xs ≠ []) : ∃ largest ∈ xs, xs.sum / xs.length ≤ largest := by
  have hsum : (xs.map fun _ => xs.sum / xs.length).sum ≤ (xs.map id).sum := by
    rw [List.map_id, List.map_const', List.sum_replicate, Nat.nsmul_eq_mul]
    exact Nat.mul_div_le _ _
  exact List.exists_le_of_sum_le hne _ _ hsum

theorem isAverage_iff : IsAverage xs avg ↔ avg = xs.sum / xs.length := by
  constructor
  · exact IsAverage.quotient
  · rintro rfl
    exact ⟨rfl, fun hne => ⟨exists_le_mean hne, exists_mean_le hne⟩⟩

/-- The average of fewer numbers than a word can count is right if and only if their sum is a
word, too. -/
theorem isAverage_mod_iff (hlength : xs.length < m) :
    IsAverage xs (xs.sum % m / (xs.length % m)) ↔ xs.sum < m := by
  rw [isAverage_iff]
  by_cases hne : xs = []
  · subst hne
    exact iff_of_true (by simp) hlength
  · have hpos := List.length_pos_of_ne_nil hne
    have hmod : xs.length % m ≠ 0 := by
      rw [Nat.mod_eq_of_lt hlength]
      omega
    rw [← survives_iff_of_lt hpos hlength, ← mod_div_mod_eq_iff (by omega)]
    exact (and_iff_right hmod).symm

end Averages
