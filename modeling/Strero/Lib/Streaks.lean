import Mathlib.Data.Nat.Notation

/-!
# Streaks

How many elements at the end of a list satisfy a predicate, one after another. A counter that goes
up with each element that does, and back to zero with each that does not, is the streak.
-/

namespace Streaks

variable {α β : Type*} {p : α → Bool} {xs : List α} {x : α}

/-- The number of elements at the end of a list that satisfy a predicate. -/
def streak (p : α → Bool) (xs : List α) : ℕ := (xs.reverse.takeWhile p).length

@[simp] theorem streak_nil : streak p [] = 0 := rfl

theorem streak_concat_of_pos (h : p x = true) : streak p (xs ++ [x]) = streak p xs + 1 := by
  rw [streak, List.reverse_append, List.reverse_singleton, List.singleton_append,
    List.takeWhile_cons_of_pos h, List.length_cons, streak]

theorem streak_concat_of_neg (h : p x = false) : streak p (xs ++ [x]) = 0 := by
  rw [streak, List.reverse_append, List.reverse_singleton, List.singleton_append,
    List.takeWhile_cons_of_neg (by simp [h]), List.length_nil]

end Streaks
