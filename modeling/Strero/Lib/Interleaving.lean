import Mathlib.Data.List.Perm.Basic
import Mathlib.Data.List.Perm.Subperm

/-!
# Interleavings of several sequences

Several senders share one channel: each keeps its own order and nothing else
is promised. `Interleaves ls r` says that `r` merges the sequences of `ls`.
The order inside `r` is then arbitrary apart from the order inside each
sequence, and nothing is lost or repeated.
-/

namespace Interleaving

variable {α β : Type*}

/-- `r` takes heads off the sequences of `ls`, one at a time, until all are empty. -/
inductive Interleaves : List (List α) → List α → Prop
  | nil {ls : List (List α)} : (∀ l ∈ ls, l = []) → Interleaves ls []
  | cons {pre post : List (List α)} {a : α} {l r : List α} :
      Interleaves (pre ++ l :: post) r → Interleaves (pre ++ (a :: l) :: post) (a :: r)

/-- Nothing is lost and nothing is repeated by a merge. -/
theorem Interleaves.perm {ls : List (List α)} {r : List α} (h : Interleaves ls r) :
    r.Perm ls.flatten := by
  induction h with
  | nil hempty =>
    rw [List.flatten_eq_nil_iff.mpr hempty]
  | @cons pre post a l r _ ih =>
    have hmove : (pre ++ (a :: l) :: post).flatten.Perm (a :: (pre ++ l :: post).flatten) := by
      simp only [List.flatten_append, List.flatten_cons, List.cons_append]
      exact List.perm_middle
    exact (ih.cons a).trans hmove.symm

/-- A merge contains exactly the elements of its sequences. -/
theorem Interleaves.mem_iff {ls : List (List α)} {r : List α} (h : Interleaves ls r) {a : α} :
    a ∈ r ↔ ∃ l ∈ ls, a ∈ l := by
  rw [h.perm.mem_iff, List.mem_flatten]

/-- The sequences one after the other are one of their merges. -/
theorem interleaves_flatten (ls : List (List α)) : Interleaves ls ls.flatten := by
  induction ls with
  | nil => exact .nil (by simp)
  | cons l ls ih =>
    induction l with
    | nil =>
      have hskip : ∀ {ks : List (List α)} {r : List α},
          Interleaves ks r → Interleaves ([] :: ks) r := by
        intro ks r h
        induction h with
        | nil hempty => exact .nil (by simpa using hempty)
        | @cons pre post a l r _ ih => exact @Interleaves.cons _ ([] :: pre) post a l r ih
      exact hskip ih
    | cons a l ihl => exact @Interleaves.cons _ [] ls a l _ ihl

end Interleaving
