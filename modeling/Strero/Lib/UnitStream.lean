import Mathlib.Data.List.Basic

/-!
# Streams of units

A stream is written unit by unit, and a write may take only the beginning of what it is
given. As long as nothing else is written until a unit is complete, the stream and what it
still owes make up the units that were begun.
-/

namespace UnitStream

variable {υ α : Type*}

/-- The stream and what it owes are the units that were begun. -/
def Owes (encode : υ → List α) (units : List υ) (stream owed : List α) : Prop :=
  stream ++ owed = units.flatMap encode

variable {encode : υ → List α} {units : List υ} {stream owed : List α}

/-- Before the first unit nothing is owed. -/
theorem owes_nil : Owes encode [] [] [] := rfl

/-- A stream that owes nothing consists of whole units. -/
theorem Owes.whole (h : Owes encode units stream []) : stream = units.flatMap encode := by
  rw [← h, List.append_nil]

/-- A stream is at any time the beginning of its units. -/
theorem Owes.beginning (h : Owes encode units stream owed) : stream <+: units.flatMap encode :=
  ⟨owed, h⟩

/-- The beginning of a unit is written, and the rest of it is owed. -/
theorem Owes.begin (h : Owes encode units stream []) (unit : υ) (n : ℕ) :
    Owes encode (units ++ [unit]) (stream ++ (encode unit).take n) ((encode unit).drop n) := by
  unfold Owes
  rw [List.append_assoc, List.take_append_drop, h.whole, List.flatMap_append,
    List.flatMap_singleton]

/-- More of what is owed is written. -/
theorem Owes.resume (h : Owes encode units stream owed) (n : ℕ) :
    Owes encode units (stream ++ owed.take n) (owed.drop n) := by
  unfold Owes at h ⊢
  rw [List.append_assoc, List.take_append_drop, h]

/-- What is owed after `n` elements of `unit` were taken from a new unit: nothing, if the
unit has not even begun. -/
def remainder (unit : List α) (n : ℕ) : List α := if n = 0 then [] else unit.drop n

/-- A write of a unit that may take only a part of it, or nothing. -/
theorem Owes.write (h : Owes encode units stream []) (unit : υ) (n : ℕ) :
    ∃ units', Owes encode units' (stream ++ (encode unit).take n)
      (remainder (encode unit) n) := by
  unfold remainder
  split_ifs with hn
  · rw [hn, List.take_zero, List.append_nil]
    exact ⟨units, h⟩
  · exact ⟨_, h.begin unit n⟩

end UnitStream
