import Mathlib.Algebra.Group.Nat.Defs
import Strero.Lib.Scanf

/-!
# Decimal numerals

What `printf` writes for a number, `scanf` reads back, whatever follows. Of a numeral that is
cut off a smaller number is read.
-/

namespace Scanf

open CString

/-- The digits of a number. -/
def digits (n : ℕ) : List UInt8 := (Nat.toDigits 10 n).map fun c => UInt8.ofNat c.toNat

theorem printInt_natCast (n : ℕ) : printInt n = digits n := by
  rw [printInt, if_neg (by omega), List.nil_append, Int.natAbs_natCast]
  rfl

/-- The byte of a digit. -/
def digitByte (d : ℕ) : UInt8 := UInt8.ofNat (48 + d)

private theorem digitChar_byte : ∀ d < 10, UInt8.ofNat (Nat.digitChar d).toNat = digitByte d ∧
    isDigit (digitByte d) = true ∧ ((digitByte d).toNat - 48 : ℤ) = d := by
  decide

/-- The last digit comes off the end. -/
theorem digits_eq (n : ℕ) :
    digits n = (if n < 10 then [] else digits (n / 10)) ++ [digitByte (n % 10)] := by
  unfold digits
  rw [Nat.toDigits_eq_if (by decide)]
  split
  · rename_i hsmall
    rw [Nat.mod_eq_of_lt hsmall, List.map_singleton, (digitChar_byte n hsmall).1]
    rfl
  · rw [List.map_append, List.map_singleton,
      (digitChar_byte (n % 10) (Nat.mod_lt n (by decide))).1]

theorem digits_ne_nil (n : ℕ) : digits n ≠ [] := by
  rw [digits_eq]
  exact List.append_ne_nil_of_right_ne_nil _ (List.cons_ne_nil _ _)

/-- A number has as many digits as the power of ten above it tells. -/
theorem length_digits_le {n k : ℕ} (hk : 0 < k) (h : n < 10 ^ k) : (digits n).length ≤ k := by
  rw [digits, List.length_map]
  exact (Nat.length_toDigits_le_iff (by decide) hk).mpr h

/-- A sign goes in front of them. -/
theorem length_printInt_le {n : ℤ} {k : ℕ} (hk : 0 < k) (h : n.natAbs < 10 ^ k) :
    (printInt n).length ≤ k + 1 := by
  have hdigits := length_digits_le hk h
  have hsign : ((if n < 0 then ascii "-" else []) : List UInt8).length ≤ 1 := by
    split <;> decide
  rw [printInt, List.length_append]
  unfold digits at hdigits
  omega

theorem isDigit_of_mem_digits {n : ℕ} {c : UInt8} (h : c ∈ digits n) : isDigit c = true := by
  induction n using Nat.strongRecOn with
  | ind n ih =>
    rw [digits_eq] at h
    rcases List.mem_append.mp h with hmem | hmem
    · split at hmem
      · cases hmem
      · exact ih (n / 10) (by omega) hmem
    · rw [List.mem_singleton.mp hmem]
      exact (digitChar_byte (n % 10) (Nat.mod_lt n (by decide))).2.1

theorem decimal_concat (run : List UInt8) (c : UInt8) :
    decimal (run ++ [c]) = 10 * decimal run + (c.toNat - 48 : ℤ) := by
  rw [decimal, List.foldl_append]
  rfl

/-- The digits of a number have its value. -/
theorem decimal_digits (n : ℕ) : decimal (digits n) = n := by
  induction n using Nat.strongRecOn with
  | ind n ih =>
    have hlast := (digitChar_byte (n % 10) (Nat.mod_lt n (by decide))).2.2
    rw [digits_eq, decimal_concat, hlast]
    split
    · have hzero : decimal [] = 0 := rfl
      omega
    · rw [ih (n / 10) (by omega)]
      omega

/-- Fewer digits have a smaller value. -/
theorem decimal_take_lt {n k : ℕ} (hpos : 0 < n) (hk : k < (digits n).length) :
    decimal ((digits n).take k) < n := by
  induction n using Nat.strongRecOn generalizing k with
  | ind n ih =>
    rw [digits_eq] at hk ⊢
    rw [List.length_append, List.length_singleton] at hk
    rw [List.take_append_of_le_length (by omega)]
    split
    · rw [List.take_nil]
      exact Int.natCast_pos.mpr hpos
    · rename_i hlarge
      rw [if_neg hlarge] at hk
      rcases Nat.lt_or_ge k (digits (n / 10)).length with hless | hge
      · have := ih (n / 10) (by omega) (by omega) hless
        omega
      · rw [List.take_of_length_le hge, decimal_digits]
        omega

/-! ### Reading -/

/-- A sign and digits are read as the number with that sign. -/
theorem int_minus {run rest : List UInt8} (hne : run ≠ [])
    (hdigits : ∀ c ∈ run, isDigit c = true) (hrest : EndsNumber rest) :
    int ('-'.toUInt8 :: run ++ rest) = some (-decimal run, rest) := by
  have hrun := takeWhile_isDigit hdigits hrest
  have hspace : ('-'.toUInt8 :: (run ++ rest)).dropWhile isSpace =
      '-'.toUInt8 :: (run ++ rest) := List.dropWhile_cons_of_neg (by decide)
  unfold int
  dsimp only
  rw [List.cons_append, hspace]
  dsimp only
  rw [if_pos rfl, hrun, if_neg hne, if_pos rfl, List.drop_left]

/-- The number that was printed is read back. -/
theorem int_printInt (n : ℤ) {rest : List UInt8} (hrest : EndsNumber rest) :
    int (printInt n ++ rest) = some (n, rest) := by
  rcases Int.lt_or_le n 0 with hneg | hpos
  · have hprint : printInt n = '-'.toUInt8 :: digits n.natAbs := by
      rw [printInt, if_pos hneg]
      rfl
    rw [hprint, int_minus (digits_ne_nil _) (fun _ => isDigit_of_mem_digits) hrest,
      decimal_digits]
    congr 2
    omega
  · obtain ⟨m, rfl⟩ := Int.eq_ofNat_of_zero_le hpos
    rw [printInt_natCast, int_digits (digits_ne_nil _) (fun _ => isDigit_of_mem_digits) hrest,
      decimal_digits]

/-- Of a number that is cut off, what is left of its digits is read. -/
theorem int_take {run rest : List UInt8} (hne : run ≠ [])
    (hdigits : ∀ c ∈ run, isDigit c = true) (hrest : EndsNumber rest) {k : ℕ} (hk : 0 < k) :
    int ((run ++ rest).take k) = some (decimal (run.take k), rest.take (k - run.length)) := by
  rw [List.take_append]
  refine int_digits ?_ (fun c hc => hdigits c (List.mem_of_mem_take hc)) ?_
  · rw [ne_eq, List.take_eq_nil_iff]
    rintro (hzero | hnil)
    · omega
    · exact hne hnil
  · intro c hc
    rw [List.head?_take] at hc
    split at hc
    · cases hc
    · exact hrest c hc

end Scanf
