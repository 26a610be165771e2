import Mathlib.Data.List.TakeWhile
import Mathlib.Logic.Function.Basic

/-!
# Registers that are written one after another

The registers of a device hold values of different types. They are written in some order, up to
the first that refuses its value. Those before it have been written then.
-/

namespace Registers

variable {ρ : Type}

/-- The registers before the first that refuses. -/
def written (refuses : ρ → Bool) (order : List ρ) : List ρ := order.takeWhile fun r => !refuses r

section Written

variable {refuses : ρ → Bool} {order : List ρ} {r : ρ}

@[simp] theorem written_nil : written refuses [] = [] := rfl

theorem written_cons_of_refuses (h : refuses r = true) :
    written refuses (r :: order) = [] := by
  simp [written, h]

theorem written_cons_of_accepts (h : refuses r = false) :
    written refuses (r :: order) = r :: written refuses order := by
  simp [written, h]

theorem mem_of_mem_written (h : r ∈ written refuses order) : r ∈ order :=
  (List.takeWhile_sublist _).subset h

end Written

variable [DecidableEq ρ] {β : ρ → Type}

/-- The registers are given their values in this order, until one refuses. -/
def writeAll (refuses : ρ → Bool) (target : (r : ρ) → β r) :
    List ρ → ((r : ρ) → β r) → Bool × ((r : ρ) → β r)
  | [], device => (true, device)
  | r :: order, device =>
    if refuses r then (false, device)
    else writeAll refuses target order (Function.update device r (target r))

/-- The device holds these values in these registers. -/
def Holds (target : (r : ρ) → β r) (order : List ρ) (device : (r : ρ) → β r) : Prop :=
  ∀ r ∈ order, device r = target r

variable {refuses : ρ → Bool} {target device : (r : ρ) → β r} {order : List ρ} {r : ρ}

/-- All of them are written if the writing succeeds. -/
theorem written_of_success (h : (writeAll refuses target order device).1 = true) :
    written refuses order = order := by
  induction order generalizing device with
  | nil => rfl
  | cons r order ih =>
    unfold writeAll at h
    cases hr : refuses r with
    | true => simp [hr] at h
    | false =>
      rw [if_neg (by simp [hr])] at h
      rw [written_cons_of_accepts hr, ih h]

/-- The writing succeeds if no register refuses. -/
theorem writeAll_success_iff :
    (writeAll refuses target order device).1 = true ↔ ∀ r ∈ order, refuses r = false := by
  induction order generalizing device with
  | nil => simp [writeAll]
  | cons r order ih =>
    unfold writeAll
    cases hr : refuses r with
    | true => simp [hr]
    | false => simp [hr, ih]

/-- A register that is not written keeps its value. -/
theorem writeAll_of_notMem (h : r ∉ written refuses order) :
    (writeAll refuses target order device).2 r = device r := by
  induction order generalizing device with
  | nil => rfl
  | cons first order ih =>
    unfold writeAll
    cases hfirst : refuses first with
    | true => rfl
    | false =>
      rw [written_cons_of_accepts hfirst, List.mem_cons, not_or] at h
      rw [if_neg (by simp), ih h.2, Function.update_of_ne h.1]

/-- A register that is written holds its value afterwards. -/
theorem writeAll_of_mem (h : r ∈ written refuses order) :
    (writeAll refuses target order device).2 r = target r := by
  induction order generalizing device with
  | nil => simp at h
  | cons first order ih =>
    unfold writeAll
    cases hfirst : refuses first with
    | true => simp [written_cons_of_refuses hfirst] at h
    | false =>
      rw [if_neg (by simp)]
      by_cases hrest : r ∈ written refuses order
      · exact ih hrest
      · rw [written_cons_of_accepts hfirst, List.mem_cons] at h
        obtain rfl := h.resolve_right hrest
        rw [writeAll_of_notMem hrest, Function.update_self]

/-- Nothing changes exactly if the registers that are written hold their values already. -/
theorem writeAll_eq_self_iff :
    (writeAll refuses target order device).2 = device ↔
      Holds target (written refuses order) device := by
  constructor
  · intro h r hr
    rw [← h]
    exact writeAll_of_mem hr
  · intro h
    funext r
    by_cases hr : r ∈ written refuses order
    · rw [writeAll_of_mem hr, h r hr]
    · exact writeAll_of_notMem hr

end Registers
