import Mathlib.Data.List.Range

/-!
# Buffers that are given out and given back

The buffers are numbered in the order in which they are given out. A ledger keeps how many there
were and which have been given back. It is balanced with the buffers that somebody holds if each
of the others was given back, and once.
-/

namespace Allocation

/-- What was given out and given back. -/
structure Ledger where
  allocated : ℕ
  freed : List ℕ
deriving DecidableEq

/-- Nothing was given out yet. -/
def Ledger.empty : Ledger := ⟨0, []⟩

/-- The buffer that is given out next is given out. -/
def Ledger.alloc (ledger : Ledger) : Ledger := { ledger with allocated := ledger.allocated + 1 }

/-- A pointer is given back. Nothing happens for the null pointer. -/
def Ledger.free (ledger : Ledger) : Option ℕ → Ledger
  | none => ledger
  | some buffer => { ledger with freed := ledger.freed ++ [buffer] }

/-- Of the buffers that were given out, those that are held and those that were given back are
each there once. -/
def Ledger.Balanced (ledger : Ledger) (held : List ℕ) : Prop :=
  (held ++ ledger.freed).Perm (List.range ledger.allocated)

instance (ledger : Ledger) (held : List ℕ) : Decidable (ledger.Balanced held) :=
  inferInstanceAs (Decidable (List.Perm _ _))

variable {ledger : Ledger} {held held' : List ℕ} {buffer : ℕ}

@[simp] theorem Ledger.free_none (ledger : Ledger) : ledger.free none = ledger := rfl

/-- Nothing is held at first. -/
theorem balanced_empty : Ledger.empty.Balanced [] := List.Perm.refl _

/-- The new buffer is held. -/
theorem balanced_alloc_iff :
    ledger.alloc.Balanced (ledger.allocated :: held) ↔ ledger.Balanced held := by
  unfold Ledger.Balanced Ledger.alloc
  rw [List.range_succ, List.cons_append]
  have hlast : (List.range ledger.allocated ++ [ledger.allocated]).Perm
      (ledger.allocated :: List.range ledger.allocated) := List.perm_append_singleton _ _
  exact ⟨fun h => (List.perm_cons _).mp (h.trans hlast),
    fun h => ((List.perm_cons _).mpr h).trans hlast.symm⟩

/-- What is given back was held. -/
theorem balanced_free_iff :
    (ledger.free (some buffer)).Balanced held ↔ ledger.Balanced (buffer :: held) := by
  unfold Ledger.Balanced Ledger.free
  have hmoved : (held ++ (ledger.freed ++ [buffer])).Perm (buffer :: held ++ ledger.freed) := by
    rw [← List.append_assoc, List.cons_append]
    exact List.perm_append_singleton _ _
  exact ⟨fun h => hmoved.symm.trans h, fun h => hmoved.trans h⟩

/-- A buffer that is given back at once is as good as none. -/
theorem balanced_alloc_free_iff :
    (ledger.alloc.free (some ledger.allocated)).Balanced held ↔ ledger.Balanced held := by
  rw [balanced_free_iff, balanced_alloc_iff]

/-- How many buffers are held is determined. -/
theorem Ledger.Balanced.held_length (h : ledger.Balanced held) (h' : ledger.Balanced held') :
    held.length = held'.length := by
  have hlength := (List.Perm.length_eq h).trans (List.Perm.length_eq h').symm
  rw [List.length_append, List.length_append] at hlength
  omega

/-- What is held can be listed in any order. -/
theorem Ledger.Balanced.perm (h : ledger.Balanced held) (hperm : held.Perm held') :
    ledger.Balanced held' :=
  (hperm.symm.append_right ledger.freed).trans h

theorem balanced_congr (hperm : held.Perm held') :
    ledger.Balanced held ↔ ledger.Balanced held' :=
  ⟨fun h => h.perm hperm, fun h => h.perm hperm.symm⟩

/-- A pointer that may be null is given back. -/
theorem balanced_free_option_iff {pointer : Option ℕ} :
    (ledger.free pointer).Balanced held ↔ ledger.Balanced (pointer.toList ++ held) := by
  cases pointer with
  | none => rfl
  | some buffer => exact balanced_free_iff

/-! ### Requests that may be refused -/

/-- A ledger with the number of requests made so far. -/
structure Heap where
  ledger : Ledger
  requests : ℕ
deriving DecidableEq

/-- Nothing was asked for yet. -/
def Heap.empty : Heap := ⟨.empty, 0⟩

/-- `free`. -/
def Heap.free (heap : Heap) (pointer : Option ℕ) : Heap :=
  { heap with ledger := heap.ledger.free pointer }

/-- `malloc`, where `served` says which requests get a buffer. -/
def Heap.malloc (served : ℕ → Bool) (heap : Heap) : Option ℕ × Heap :=
  if served heap.requests then
    (some heap.ledger.allocated, ⟨heap.ledger.alloc, heap.requests + 1⟩)
  else (none, { heap with requests := heap.requests + 1 })

/-- `realloc`, which gives the old buffer back if it can serve the request. -/
def Heap.realloc (served : ℕ → Bool) (heap : Heap) (old : Option ℕ) : Option ℕ × Heap :=
  match heap.malloc served with
  | (some buffer, heap) => (some buffer, heap.free old)
  | (none, heap) => (none, heap)

section Heap

variable {served : ℕ → Bool} {heap heap' : Heap} {pointer old : Option ℕ}

/-- What was given back is no longer held. -/
theorem Heap.free_balanced_iff :
    (heap.free pointer).ledger.Balanced held ↔ heap.ledger.Balanced (pointer.toList ++ held) :=
  balanced_free_option_iff

/-- A request that is served adds a buffer to what is held. -/
theorem Heap.malloc_balanced (h : heap.ledger.Balanced held)
    (hmalloc : heap.malloc served = (pointer, heap')) :
    heap'.ledger.Balanced (pointer.toList ++ held) := by
  unfold Heap.malloc at hmalloc
  split_ifs at hmalloc
  · obtain ⟨rfl, rfl⟩ := Prod.mk.inj hmalloc
    exact balanced_alloc_iff.mpr h
  · obtain ⟨rfl, rfl⟩ := Prod.mk.inj hmalloc
    exact h

/-- A buffer that is moved replaces the old one in what is held. -/
theorem Heap.realloc_balanced {buffer : ℕ} (h : heap.ledger.Balanced (old.toList ++ held))
    (hrealloc : heap.realloc served old = (some buffer, heap')) :
    heap'.ledger.Balanced (buffer :: held) := by
  unfold Heap.realloc at hrealloc
  rcases hmalloc : heap.malloc served with ⟨_ | fresh, moved⟩
  · rw [hmalloc] at hrealloc
    cases hrealloc
  · rw [hmalloc] at hrealloc
    obtain ⟨hbuffer, rfl⟩ := Prod.mk.inj hrealloc
    obtain rfl := Option.some.inj hbuffer
    have hheld := Heap.malloc_balanced h hmalloc
    have hmiddle : (old.toList ++ fresh :: held).Perm (fresh :: (old.toList ++ held)) :=
      List.perm_middle
    exact Heap.free_balanced_iff.mpr (hheld.perm hmiddle.symm)

/-- A request that is refused changes nothing of what is held. -/
theorem Heap.realloc_refused (h : heap.ledger.Balanced held)
    (hrealloc : heap.realloc served old = (none, heap')) : heap'.ledger.Balanced held := by
  unfold Heap.realloc at hrealloc
  rcases hmalloc : heap.malloc served with ⟨_ | fresh, moved⟩
  · rw [hmalloc] at hrealloc
    obtain ⟨-, rfl⟩ := Prod.mk.inj hrealloc
    exact Heap.malloc_balanced h hmalloc
  · rw [hmalloc] at hrealloc
    cases hrealloc

/-- Only a request that is not served gets nothing. -/
theorem Heap.exists_refused_of_malloc (hmalloc : heap.malloc served = (none, heap')) :
    ∃ n, served n = false := by
  unfold Heap.malloc at hmalloc
  split_ifs at hmalloc with hserved
  · cases hmalloc
  · exact ⟨_, by simpa using hserved⟩

theorem Heap.exists_refused_of_realloc (hrealloc : heap.realloc served old = (none, heap')) :
    ∃ n, served n = false := by
  unfold Heap.realloc at hrealloc
  rcases hmalloc : heap.malloc served with ⟨_ | fresh, moved⟩
  · exact Heap.exists_refused_of_malloc hmalloc
  · rw [hmalloc] at hrealloc
    cases hrealloc

end Heap

end Allocation
