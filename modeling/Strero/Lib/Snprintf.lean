import Mathlib.Data.List.Basic
import Mathlib.Data.Nat.Notation

/-!
# Printing into a buffer

A buffer of fixed size is filled by several calls of `snprintf`. Each of them is told how much
of the buffer is left, as an unsigned number, and adds the length of its text to the offset of
the next one, even where it had to cut the text off.
-/

namespace Snprintf

variable {α : Type*} {size : ℕ}

/-- The string in a buffer, and the offset for the next text. -/
structure Printed (α : Type*) where
  text : List α
  offset : ℕ

/-- `offset += snprintf(buffer + offset, size - offset, "%s", text)`. Behind the end of the
buffer the number of bytes that are left underflows, and the text would be printed outside. -/
def Printed.print (size : ℕ) (printed : Printed α) (text : List α) : Option (Printed α) :=
  if printed.offset ≤ size then
    some ⟨printed.text ++ text.take (size - printed.offset - 1), printed.offset + text.length⟩
  else none

/-- Some texts are printed, one behind the other. -/
def printAll (size : ℕ) (texts : List (List α)) : Option (Printed α) :=
  texts.foldlM (Printed.print size) ⟨[], 0⟩

/-- The bytes in front of the offset, as long as the string in the buffer reaches so far. -/
def Printed.passed (printed : Printed α) : Option (List α) :=
  if printed.offset ≤ printed.text.length then some (printed.text.take printed.offset) else none

/-- The offset stays below the size of the buffer with each text, and no text is cut off. -/
def PrintsWhole (size : ℕ) (texts : List (List α)) : Prop :=
  ∀ n, ∃ printed, printAll size (texts.take n) = some printed ∧ printed.offset < size ∧
    printed.text = (texts.take n).flatten ∧ printed.passed = some (texts.take n).flatten

/-- The offset goes on by the length of the text, which is printed whole if there was room. -/
theorem Printed.print_eq_some {printed next : Printed α} {text : List α}
    (h : printed.print size text = some next) :
    next.offset = printed.offset + text.length ∧
      (next.offset < size → next.text = printed.text ++ text) := by
  unfold Printed.print at h
  split_ifs at h
  obtain rfl := Option.some.inj h
  refine ⟨rfl, fun hroom => ?_⟩
  dsimp only at hroom ⊢
  rw [List.take_of_length_le (by omega)]

/-- With room for it a text is printed. -/
theorem Printed.exists_print {printed : Printed α} {text : List α}
    (hroom : printed.offset + text.length < size) :
    ∃ next, printed.print size text = some next ∧ next.offset = printed.offset + text.length := by
  rw [Printed.print, if_pos (by omega)]
  exact ⟨_, rfl, rfl⟩

/-- Texts for which there is room are printed whole. -/
theorem foldlM_print {printed : Printed α} {texts : List (List α)}
    (hroom : printed.offset + texts.flatten.length < size) :
    texts.foldlM (Printed.print size) printed =
      some ⟨printed.text ++ texts.flatten, printed.offset + texts.flatten.length⟩ := by
  induction texts generalizing printed with
  | nil => simp
  | cons text texts ih =>
    rw [List.flatten_cons, List.length_append] at hroom
    have hfits : text.length ≤ size - printed.offset - 1 := by omega
    rw [List.foldlM_cons, Printed.print, if_pos (by omega), List.take_of_length_le hfits]
    refine (ih (by dsimp only; omega)).trans ?_
    simp [Nat.add_assoc]

/-- Into an empty buffer, too. -/
theorem printAll_eq {texts : List (List α)} (hroom : texts.flatten.length < size) :
    printAll size texts = some ⟨texts.flatten, texts.flatten.length⟩ := by
  refine (foldlM_print (by simpa using hroom)).trans ?_
  rw [List.nil_append, Nat.zero_add]

/-- The offset counts what is printed and what is cut off. -/
theorem foldlM_print_offset {printed last : Printed α} {texts : List (List α)}
    (h : texts.foldlM (Printed.print size) printed = some last) :
    last.offset = printed.offset + texts.flatten.length := by
  induction texts generalizing printed with
  | nil =>
    obtain rfl := Option.some.inj h
    rfl
  | cons text texts ih =>
    rw [List.foldlM_cons] at h
    obtain ⟨next, hnext, hrest⟩ := Option.bind_eq_some_iff.mp h
    unfold Printed.print at hnext
    split_ifs at hnext
    obtain rfl := Option.some.inj hnext
    rw [ih hrest, List.flatten_cons, List.length_append, Nat.add_assoc]

/-- Nothing is cut off if and only if all texts together leave room for the terminator. -/
theorem printsWhole_iff {texts : List (List α)} :
    PrintsWhole size texts ↔ texts.flatten.length < size := by
  constructor
  · intro h
    obtain ⟨printed, hprinted, hlt, -⟩ := h texts.length
    rw [List.take_length] at hprinted
    have hoffset := foldlM_print_offset hprinted
    rw [Nat.zero_add] at hoffset
    exact hoffset ▸ hlt
  · intro hlt n
    have hsplit : texts.flatten = (texts.take n).flatten ++ (texts.drop n).flatten := by
      rw [← List.flatten_append, List.take_append_drop]
    rw [hsplit, List.length_append] at hlt
    have hroom : (texts.take n).flatten.length < size := by omega
    refine ⟨_, printAll_eq hroom, hroom, rfl, ?_⟩
    rw [Printed.passed, if_pos (Nat.le_refl _), List.take_length]

end Snprintf
