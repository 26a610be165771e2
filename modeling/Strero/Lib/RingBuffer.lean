import Mathlib.Data.List.Basic
import Mathlib.Data.Nat.Notation

/-!
# Rings and writes into a buffer

A part of a ring may run over its end and go on at its begin. It is read in two pieces then.
A write into a buffer is checked: the value `none` stands for a write beyond its end.
-/

namespace RingBuffer

variable {α : Type*} {ring buffer buffer' bytes more : List α} {offset length position : ℕ}

/-! ### Parts of a ring -/

/-- The elements from an offset on, around the end. -/
def unroll (ring : List α) (offset length : ℕ) : List α :=
  ((ring ++ ring).drop offset).take length

theorem unroll_length (hoffset : offset ≤ ring.length) (hlength : length ≤ ring.length) :
    (unroll ring offset length).length = length := by
  rw [unroll, List.length_take, List.length_drop, List.length_append]
  omega

/-- The element at an index is the one that many places further, counted around the ring. -/
theorem getElem?_unroll (hoffset : offset ≤ ring.length) (hlength : length ≤ ring.length) {i : ℕ}
    (hi : i < length) : (unroll ring offset length)[i]? = ring[(offset + i) % ring.length]? := by
  rw [unroll, List.getElem?_take_of_lt hi, List.getElem?_drop]
  by_cases hinside : offset + i < ring.length
  · rw [List.getElem?_append_left hinside, Nat.mod_eq_of_lt hinside]
  · rw [List.getElem?_append_right (by omega), Nat.mod_eq_sub_mod (by omega),
      Nat.mod_eq_of_lt (by omega)]

/-- A part that ends before the end of the ring is one piece. -/
theorem unroll_of_le (h : offset + length ≤ ring.length) :
    unroll ring offset length = (ring.drop offset).take length := by
  rw [unroll, List.drop_append_of_le_length (by omega),
    List.take_append_of_le_length (by rw [List.length_drop]; omega)]

/-- A part that runs over the end is two pieces. -/
theorem unroll_wrapped (hoffset : offset ≤ ring.length)
    (hover : ring.length - offset ≤ length) :
    unroll ring offset length =
      ring.drop offset ++ ring.take (length - (ring.length - offset)) := by
  have hfirst : (ring.drop offset).length = ring.length - offset := List.length_drop
  rw [unroll, List.drop_append_of_le_length hoffset, List.take_append, hfirst,
    List.take_of_length_le (by omega)]

/-! ### Writes -/

/-- The elements replace those from a position on. -/
def writeAt (buffer : List α) (position : ℕ) (bytes : List α) : Option (List α) :=
  if position + bytes.length ≤ buffer.length then
    some (buffer.take position ++ bytes ++ buffer.drop (position + bytes.length))
  else none

/-- A write keeps the size of the buffer and what stands in front. -/
theorem writeAt_eq_some (h : writeAt buffer position bytes = some buffer') :
    buffer'.length = buffer.length ∧
      buffer'.take (position + bytes.length) = buffer.take position ++ bytes := by
  unfold writeAt at h
  split_ifs at h with hfits
  obtain rfl := Option.some.inj h
  have hfront : (buffer.take position ++ bytes).length = position + bytes.length := by
    rw [List.length_append, List.length_take]
    omega
  constructor
  · rw [List.length_append, hfront, List.length_drop]
    omega
  · rw [← hfront, List.take_left]

/-- A write and another right behind it are one write. -/
theorem writeAt_append (buffer bytes more : List α) (position : ℕ) :
    (writeAt buffer position bytes).bind (writeAt · (position + bytes.length) more) =
      writeAt buffer position (bytes ++ more) := by
  cases hfirst : writeAt buffer position bytes with
  | none =>
    unfold writeAt at hfirst ⊢
    split_ifs at hfirst with hfits
    rw [List.length_append, if_neg (by omega)]
    rfl
  | some buffer' =>
    obtain ⟨hlength, htake⟩ := writeAt_eq_some hfirst
    unfold writeAt at hfirst
    split_ifs at hfirst with hfits
    have hfront : (buffer.take position ++ bytes).length = position + bytes.length := by
      rw [List.length_append, List.length_take]
      omega
    have hdrop : buffer'.drop (position + bytes.length + more.length) =
        buffer.drop (position + bytes.length + more.length) := by
      rw [← Option.some.inj hfirst, ← hfront, List.drop_length_add_append, List.drop_drop, hfront]
    rw [Option.bind_some, writeAt, writeAt, hlength, htake, hdrop, List.length_append,
      ← Nat.add_assoc]
    simp only [List.append_assoc]

end RingBuffer
