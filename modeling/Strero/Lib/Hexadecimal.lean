import Mathlib.Algebra.Group.Nat.Defs
import Mathlib.Data.List.Induction
import Strero.Lib.Scanf

/-!
# Hexadecimal numerals

`strtoul` with base 16 on a target whose `unsigned long` has 32 bits: white space, a sign, a
prefix `0x`, and the longest run of hexadecimal digits. The value of a run of digits is that of
its parts, each shifted by the digits that follow.
-/

namespace Scanf

open CString

/-- `isxdigit`. -/
def isXDigit (c : UInt8) : Bool := isDigit c || (65 ≤ c && c ≤ 70) || (97 ≤ c && c ≤ 102)

/-- The value of a hexadecimal digit, in either case. -/
def xDigitValue (c : UInt8) : ℕ :=
  if isDigit c then c.toNat - 48 else if c ≤ 70 then c.toNat - 55 else c.toNat - 87

/-- The value of a run of hexadecimal digits. -/
def hexadecimal (digits : List UInt8) : ℕ :=
  digits.foldl (fun n c => 16 * n + xDigitValue c) 0

/-- The digits behind a prefix `0x`, where there is one before a digit. -/
def skipHexPrefix (text : List UInt8) : List UInt8 :=
  match text with
  | zero :: x :: c :: rest =>
    if zero = 48 ∧ (x = 120 ∨ x = 88) ∧ isXDigit c = true then c :: rest else text
  | _ => text

/-- A sign, and the text behind it. -/
def sign (text : List UInt8) : Bool × List UInt8 :=
  match text with
  | c :: rest => if c = 45 then (true, rest) else if c = 43 then (false, rest) else (false, text)
  | [] => (false, [])

/-- `strtoul(text, NULL, 16)`: the largest value for a number that is too large, and the negative
of a number modulo `2 ^ 32`. -/
def strtoulHex (text : List UInt8) : UInt32 :=
  let (negative, unsigned) := sign (text.dropWhile isSpace)
  let n := hexadecimal ((skipHexPrefix unsigned).takeWhile isXDigit)
  if 2 ^ 32 ≤ n then 0xFFFFFFFF else if negative then -UInt32.ofNat n else UInt32.ofNat n

theorem xDigitValue_lt {c : UInt8} (h : isXDigit c = true) : xDigitValue c < 16 := by
  unfold isXDigit isDigit at h
  unfold xDigitValue isDigit
  simp only [Bool.or_eq_true, Bool.and_eq_true, decide_eq_true_eq, UInt8.le_iff_toNat_le,
    UInt8.toNat_ofNat] at h ⊢
  split_ifs <;> omega

/-- The value of two runs, one behind the other. -/
theorem hexadecimal_append (front back : List UInt8) :
    hexadecimal (front ++ back) = hexadecimal front * 16 ^ back.length + hexadecimal back := by
  unfold hexadecimal
  rw [List.foldl_append]
  generalize front.foldl _ 0 = n
  induction back using List.reverseRecOn with
  | nil => simp
  | append_singleton back c ih =>
    rw [List.foldl_append, List.foldl_append, ih, List.length_append, List.length_singleton,
      Nat.pow_succ]
    simp only [List.foldl_cons, List.foldl_nil]
    rw [Nat.mul_add, ← Nat.mul_assoc n, Nat.mul_comm 16 (n * _), Nat.add_assoc]

/-- A run of digits is below the power of 16 that its length tells. -/
theorem hexadecimal_lt {digits : List UInt8} (h : ∀ c ∈ digits, isXDigit c = true) :
    hexadecimal digits < 16 ^ digits.length := by
  induction digits using List.reverseRecOn with
  | nil => decide
  | append_singleton digits c ih =>
    have hfront := ih fun d hd => h d (List.mem_append_left _ hd)
    have hlast := xDigitValue_lt (h c (by simp))
    rw [hexadecimal_append, List.length_append, List.length_singleton, Nat.pow_succ]
    have hvalue : hexadecimal [c] = xDigitValue c := by simp [hexadecimal]
    rw [hvalue]
    omega

/-- No digit is a space, a sign or the letter of the prefix. -/
theorem not_special_of_isXDigit {c : UInt8} (h : isXDigit c = true) :
    isSpace c = false ∧ c ≠ 45 ∧ c ≠ 43 ∧ c ≠ 120 ∧ c ≠ 88 := by
  unfold isXDigit isDigit at h
  unfold isSpace
  simp only [Bool.or_eq_true, Bool.and_eq_true, decide_eq_true_eq, UInt8.le_iff_toNat_le,
    UInt8.toNat_ofNat, Bool.or_eq_false_iff, Bool.and_eq_false_iff, decide_eq_false_iff_not,
    ne_eq, ← UInt8.toNat_inj] at h ⊢
  omega

/-- A run of digits is read as it is. -/
theorem strtoulHex_digits {digits : List UInt8} (h : ∀ c ∈ digits, isXDigit c = true)
    (hsmall : hexadecimal digits < 2 ^ 32) :
    strtoulHex digits = UInt32.ofNat (hexadecimal digits) := by
  have hspaces : digits.dropWhile isSpace = digits := by
    cases digits with
    | nil => rfl
    | cons c rest =>
      have hc := not_special_of_isXDigit (h c List.mem_cons_self)
      rw [List.dropWhile_cons_of_neg (by rw [hc.1]; exact Bool.false_ne_true)]
  have hsign : sign digits = (false, digits) := by
    cases digits with
    | nil => rfl
    | cons c rest =>
      have hc := not_special_of_isXDigit (h c List.mem_cons_self)
      rw [sign, if_neg hc.2.1, if_neg hc.2.2.1]
  have hbegins : skipHexPrefix digits = digits := by
    unfold skipHexPrefix
    split
    · rename_i zero x c rest
      have hx := not_special_of_isXDigit (h x (by simp))
      rw [if_neg]
      rintro ⟨-, hletter, -⟩
      exact hletter.elim hx.2.2.2.1 hx.2.2.2.2
    · rfl
  have hrun : digits.takeWhile isXDigit = digits := List.takeWhile_eq_self_iff.mpr h
  unfold strtoulHex
  rw [hspaces, hsign]
  dsimp only
  rw [hbegins, hrun, if_neg (by omega), if_neg Bool.false_ne_true]

end Scanf
