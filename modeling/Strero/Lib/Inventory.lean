import Mathlib.Data.List.Nodup
import Strero.Lib.Runs

/-!
# Objects that are created and destroyed

The objects of a device are created and destroyed by calls. A creation is proper if no object of
its kind exists, and a destruction if the object exists. Objects that are acquired one after
another are given back properly from the last to the first.
-/

namespace Inventory

open Runs

variable {α κ : Type*}

/-- What is done to an object. -/
inductive Action (α : Type*)
  | create (object : α)
  | destroy (object : α)
deriving DecidableEq

/-- The action is proper among the objects that exist. -/
def Proper (kind : α → κ) (live : List α) : Action α → Prop
  | .create object => ∀ other ∈ live, kind other ≠ kind object
  | .destroy object => object ∈ live

variable [DecidableEq α] {kind : α → κ} {live acquired : List α}

/-- The objects that exist after an action, the newest first. -/
def step (live : List α) : Action α → List α
  | .create object => object :: live
  | .destroy object => live.erase object

/-- Every action is proper. -/
abbrev AllProper (kind : α → κ) : List α → List (Action α) → Prop := Guarded step (Proper kind)

theorem foldl_create (acquired live : List α) :
    (acquired.map .create).foldl step live = acquired.reverse ++ live := by
  induction acquired generalizing live with
  | nil => rfl
  | cons object acquired ih =>
    rw [List.map_cons, List.foldl_cons, step, ih]
    simp

theorem foldl_destroy (acquired live : List α) :
    (acquired.map .destroy).foldl step (acquired ++ live) = live := by
  induction acquired with
  | nil => rfl
  | cons object acquired ih =>
    rw [List.map_cons, List.foldl_cons, step, List.cons_append, List.erase_cons_head, ih]

/-- Objects of kinds that are not there yet may be acquired. -/
theorem allProper_create (h : ((acquired.reverse ++ live).map kind).Nodup) :
    AllProper kind live (acquired.map .create) := by
  induction acquired generalizing live with
  | nil => trivial
  | cons object acquired ih =>
    rw [List.reverse_cons, List.append_assoc, List.singleton_append] at h
    refine ⟨?_, ih h⟩
    intro other hother hkind
    rw [List.map_append, List.map_cons] at h
    have hfresh := (List.nodup_cons.mp h.of_append_right).1
    exact hfresh (hkind ▸ List.mem_map_of_mem hother)

/-- What exists may be destroyed from the newest on. -/
theorem allProper_destroy (acquired live : List α) :
    AllProper kind (acquired ++ live) (acquired.map .destroy) := by
  induction acquired with
  | nil => trivial
  | cons object acquired ih =>
    refine ⟨List.mem_cons_self, ?_⟩
    rw [step, List.cons_append, List.erase_cons_head]
    exact ih

/-- What has been acquired is given back. -/
def undone (acquired : List α) : List (Action α) :=
  acquired.map .create ++ acquired.reverse.map .destroy

/-- Nothing is left of what is undone. -/
theorem foldl_undone (acquired live : List α) : (undone acquired).foldl step live = live := by
  rw [undone, List.foldl_append, foldl_create, foldl_destroy]

theorem allProper_undone (h : ((acquired.reverse ++ live).map kind).Nodup) :
    AllProper kind live (undone acquired) := by
  rw [undone, AllProper, guarded_append, foldl_create]
  exact ⟨allProper_create h, allProper_destroy _ _⟩

/-- An object that does not exist is destroyed: nothing happens, but it is not proper. -/
theorem step_destroy_of_notMem {object : α} (h : object ∉ live) :
    step live (.destroy object) = live := List.erase_of_not_mem h

end Inventory
