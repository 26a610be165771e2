import Mathlib.Data.Nat.Notation

/-!
# Division of products that have overflowed

A machine divides what its words hold of two numbers, which are their remainders modulo some
number. When the result is the quotient of the numbers themselves is told by how often each of
them runs over.
-/

namespace WrappedDivision

variable {m n d : ℕ}

/-- How often the dividend runs over beyond what the divisor does, taken by the quotient. -/
def excess (m n d : ℕ) : ℕ := n / m - n / d * (d / m)

/-- The remainder of the division makes up for the excess, and for no more than that. -/
def Survives (m n d : ℕ) : Prop :=
  excess m n d * m ≤ n % d ∧ n % d < excess m n d * m + d % m

instance (m n d : ℕ) : Decidable (Survives m n d) := inferInstanceAs (Decidable (_ ∧ _))

/-- The dividend runs over at least as often as the divisor does, taken by the quotient. -/
theorem mul_le_div (hm : 0 < m) : n / d * (d / m) ≤ n / m := by
  refine (Nat.le_div_iff_mul_le hm).mpr ?_
  calc n / d * (d / m) * m = n / d * (d / m * m) := Nat.mul_assoc _ _ _
    _ ≤ n / d * d := Nat.mul_le_mul_left _ (Nat.div_mul_le_self d m)
    _ ≤ n := Nat.div_mul_le_self n d

/-- What is left of the dividend, with its excess, is the quotient of what is left of the divisor,
with the remainder. -/
theorem mod_add_excess (hm : 0 < m) :
    n % m + excess m n d * m = n / d * (d % m) + n % d := by
  have hover := mul_le_div (n := n) (d := d) hm
  have hn : m * (n / m) + n % m = n := Nat.div_add_mod n m
  have hquotient : n / d * d + n % d = n := Nat.div_add_mod' n d
  have hd : n / d * d = n / d * (d / m) * m + n / d * (d % m) := by
    calc n / d * d = n / d * (d / m * m + d % m) := by rw [Nat.div_add_mod' d m]
      _ = n / d * (d / m) * m + n / d * (d % m) := by rw [Nat.mul_add, Nat.mul_assoc]
  have hexcess : excess m n d * m = n / m * m - n / d * (d / m) * m := Nat.sub_mul _ _ _
  have hle : n / d * (d / m) * m ≤ n / m * m := Nat.mul_le_mul_right m hover
  rw [Nat.mul_comm] at hn
  omega

/-- The words have the quotient of the numbers if and only if the remainder makes up for the
excess. -/
theorem mod_div_mod_eq_iff (hm : 0 < m) :
    d % m ≠ 0 ∧ n % m / (d % m) = n / d ↔ Survives m n d := by
  have hsum := mod_add_excess (n := n) (d := d) hm
  unfold Survives
  rcases Nat.eq_zero_or_pos (d % m) with hzero | hpos
  · rw [hzero]
    refine iff_of_false (fun h => h.1 rfl) fun h => ?_
    omega
  · have hquotient : n % m / (d % m) = n / d ↔
        n / d * (d % m) ≤ n % m ∧ n % m < n / d * (d % m) + d % m := by
      rw [Nat.div_eq_iff hpos, Nat.mul_comm]
      omega
    rw [hquotient]
    omega

/-- Where the divisor does not run over, the dividend must not. -/
theorem survives_iff_of_lt (hd : 0 < d) (hlt : d < m) : Survives m n d ↔ n < m := by
  have hremainder := Nat.mod_lt n hd
  have hexcess : excess m n d = n / m := by
    rw [excess, Nat.div_eq_of_lt hlt, Nat.mul_zero, Nat.sub_zero]
  unfold Survives
  rw [hexcess, Nat.mod_eq_of_lt hlt]
  constructor
  · rintro ⟨hle, -⟩
    refine Nat.lt_of_not_le fun hover => ?_
    have hmul : m ≤ n / m * m := by
      calc m = 1 * m := (Nat.one_mul m).symm
        _ ≤ n / m * m := Nat.mul_le_mul_right m ((Nat.one_le_div_iff (by omega)).mpr (by omega))
    omega
  · intro hn
    rw [Nat.div_eq_of_lt hn]
    omega

end WrappedDivision
