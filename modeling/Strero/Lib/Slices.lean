import Mathlib.Data.List.Basic

/-!
# Parts of a buffer

A decoder that moves an offset over a buffer looks at one part of it after the other. Here is
what it means that given elements stand at an offset, whatever is around them. An encoder for a
buffer of fixed size appends one part after the other as long as they fit.
-/

namespace Slices

variable {α β : Type*}

/-! ### Where a part stands -/

/-- The elements stand in the buffer from the offset on. -/
def StandsAt (buffer : List α) (offset : ℕ) (part : List α) : Prop :=
  ∃ before after, buffer = before ++ (part ++ after) ∧ before.length = offset

variable {buffer part left right : List α} {offset : ℕ} {a : α}

/-- A buffer stands at its beginning. -/
theorem standsAt_self (buffer : List α) : StandsAt buffer 0 buffer :=
  ⟨[], [], by simp, rfl⟩

/-- What stands in a buffer is inside it. -/
theorem StandsAt.le_length (h : StandsAt buffer offset part) :
    offset + part.length ≤ buffer.length := by
  obtain ⟨before, after, rfl, rfl⟩ := h
  simp only [List.length_append]
  omega

/-- Two parts stand in a buffer one after the other. -/
theorem standsAt_append : StandsAt buffer offset (left ++ right) ↔
    StandsAt buffer offset left ∧ StandsAt buffer (offset + left.length) right := by
  constructor
  · rintro ⟨before, after, rfl, rfl⟩
    exact ⟨⟨before, right ++ after, by simp, rfl⟩, ⟨before ++ left, after, by simp, by simp⟩⟩
  · rintro ⟨⟨before, after, rfl, rfl⟩, ⟨before', after', heq, hlength⟩⟩
    rw [← List.append_assoc] at heq
    obtain ⟨rfl, hafter⟩ := List.append_inj heq (by simpa using hlength.symm)
    exact ⟨before, after', by rw [hafter, List.append_assoc], rfl⟩

/-- An element and what follows it. -/
theorem standsAt_cons : StandsAt buffer offset (a :: part) ↔
    StandsAt buffer offset [a] ∧ StandsAt buffer (offset + 1) part := by
  rw [← List.singleton_append, standsAt_append, List.length_singleton]

/-- The element at the offset. -/
theorem StandsAt.getElem? (h : StandsAt buffer offset (a :: part)) : buffer[offset]? = some a := by
  obtain ⟨before, after, rfl, rfl⟩ := h
  simp

/-- The elements as they are copied out of the buffer. -/
theorem StandsAt.take_drop (h : StandsAt buffer offset part) :
    (buffer.drop offset).take part.length = part := by
  obtain ⟨before, after, rfl, rfl⟩ := h
  simp

/-- Before an element there is room in the buffer. -/
theorem StandsAt.lt_length (h : StandsAt buffer offset (a :: part)) : offset < buffer.length := by
  have hle := h.le_length
  rw [List.length_cons] at hle
  omega

/-! ### Appending within a size -/

/-- The buffer with the part behind it, if both fit into the size. -/
def appendWithin (size : ℕ) (part buffer : List α) : Option (List α) :=
  if buffer.length + part.length ≤ size then some (buffer ++ part) else none

/-- An encoder that checks the room first. -/
theorem ite_eq_appendWithin {size needed : ℕ} {result : List α}
    (hneeded : needed = buffer.length + part.length) (hresult : result = buffer ++ part) :
    (if needed > size then none else some result) = appendWithin size part buffer := by
  subst hneeded hresult
  unfold appendWithin
  split_ifs
  · omega
  · rfl
  · rfl
  · omega

/-- Two parts are appended one after the other or at once. -/
theorem appendWithin_bind (size : ℕ) (left right buffer : List α) :
    (appendWithin size left buffer).bind (appendWithin size right) =
      appendWithin size (left ++ right) buffer := by
  unfold appendWithin
  rw [List.length_append, ← Nat.add_assoc]
  split_ifs with hleft hboth
  · rw [Option.bind_some, List.length_append, if_pos hboth, List.append_assoc]
  · rw [Option.bind_some, List.length_append, if_neg hboth]
  · omega
  · rfl

/-- So are the parts of a list. -/
theorem appendWithin_foldlM (size : ℕ) (encode : β → List α) (left : List α) (items : List β)
    (buffer : List α) :
    ((appendWithin size left buffer).bind fun buffer =>
      items.foldlM (fun buffer item => appendWithin size (encode item) buffer) buffer) =
        appendWithin size (left ++ items.flatMap encode) buffer := by
  induction items generalizing left with
  | nil => simp
  | cons item items ih =>
    rw [List.flatMap_cons, ← List.append_assoc, ← ih, ← appendWithin_bind, Option.bind_assoc]
    rfl

/-- What was appended, and that it fitted. -/
theorem appendWithin_eq_some {size : ℕ} {result : List α} :
    appendWithin size part buffer = some result ↔
      buffer.length + part.length ≤ size ∧ buffer ++ part = result := by
  unfold appendWithin
  split_ifs with hfits
  · simp [hfits]
  · simp [hfits]

end Slices
