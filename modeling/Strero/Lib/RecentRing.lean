import Mathlib.Data.List.Dedup
import Mathlib.Data.List.Basic
import Mathlib.Data.Nat.ModEq
import Mathlib.Logic.Function.Basic

/-!
# Rings of recent entries

A ring of fixed size takes one entry after another, each in place of the oldest one. It holds the
last entries of the log of all of them. If keys do not return to the log while they are recent,
then a window of time with few keys has all its entries in the ring.
-/

namespace RecentRing

variable {α κ : Type*} {n : ℕ}

/-- A ring, and the slot that is written next. -/
structure Ring (n : ℕ) (α : Type*) where
  slots : Fin n → α
  next : Fin n

/-- The slot after another, around the end. -/
def advance (i : Fin n) : Fin n :=
  ⟨(i.val + 1) % n, Nat.mod_lt _ (Nat.lt_of_le_of_lt (Nat.zero_le _) i.isLt)⟩

/-- An entry takes the place of the oldest one. -/
def Ring.push (ring : Ring n α) (a : α) : Ring n α :=
  ⟨Function.update ring.slots ring.next a, advance ring.next⟩

/-- The slots hold the last entries of a log. -/
structure Ring.Records (ring : Ring n α) (log : List α) : Prop where
  next : ring.next.val = log.length % n
  slot : ∀ i : Fin n, ∃ j, log.length ≤ j + n ∧ j % n = i.val ∧ log[j]? = some (ring.slots i)

/-- At first the ring holds one entry in all of its slots. -/
theorem records_replicate (a : α) (first : Fin n) (hfirst : first.val = 0) :
    (Ring.mk (fun _ => a) first).Records (List.replicate n a) where
  next := by rw [List.length_replicate, Nat.mod_self, hfirst]
  slot i := ⟨i.val, by rw [List.length_replicate]; omega, Nat.mod_eq_of_lt i.isLt,
    List.getElem?_replicate_of_lt i.isLt⟩

@[simp] theorem Ring.push_slots_next (ring : Ring n α) (a : α) :
    (ring.push a).slots ring.next = a := Function.update_self ..

theorem Ring.push_slots_of_ne (ring : Ring n α) (a : α) {i : Fin n} (hi : i ≠ ring.next) :
    (ring.push a).slots i = ring.slots i := Function.update_of_ne hi ..

variable {ring : Ring n α} {log : List α} {a : α}

theorem Ring.Records.push (h : ring.Records log) (a : α) : (ring.push a).Records (log ++ [a]) := by
  refine ⟨?_, fun i => ?_⟩
  · have hnext := h.next
    rw [List.length_append, List.length_singleton, Ring.push, advance]
    dsimp only
    rw [hnext, Nat.mod_add_mod]
  · by_cases hi : i = ring.next
    · have hpos := i.isLt
      refine ⟨log.length, ?_, by rw [hi, h.next], ?_⟩
      · rw [List.length_append, List.length_singleton]
        omega
      · subst hi
        rw [List.getElem?_concat_length]
        exact congrArg some (ring.push_slots_next a).symm
    · obtain ⟨j, hrecent, hslot, hentry⟩ := h.slot i
      refine ⟨j, ?_, hslot, ?_⟩
      · -- The oldest entry is in the slot that is written.
        have holdest : j + n ≠ log.length := fun heq => hi (Fin.ext (by
          rw [h.next, ← heq, Nat.add_mod_right, hslot]))
        rw [List.length_append, List.length_singleton]
        omega
      · rw [List.getElem?_append_left (List.getElem?_eq_some_iff.mp hentry).1, hentry]
        exact congrArg some (ring.push_slots_of_ne a hi).symm

/-- A recent entry is in its slot. -/
theorem Ring.Records.slot_eq (h : ring.Records log) {j : ℕ} (hrecent : log.length ≤ j + n)
    (hentry : log[j]? = some a) {i : Fin n} (hi : i.val = j % n) : ring.slots i = a := by
  obtain ⟨k, hk, hslot, hslotEntry⟩ := h.slot i
  have hj := (List.getElem?_eq_some_iff.mp hentry).1
  have hkLog := (List.getElem?_eq_some_iff.mp hslotEntry).1
  have hsame : k = j := by
    have hmod : k % n = j % n := hslot.trans hi
    rcases Nat.le_total k j with hle | hle
    · have hdvd := (Nat.modEq_iff_dvd' hle).mp hmod
      have hzero := Nat.eq_zero_of_dvd_of_lt hdvd (by omega)
      omega
    · have hdvd := (Nat.modEq_iff_dvd' hle).mp hmod.symm
      have hzero := Nat.eq_zero_of_dvd_of_lt hdvd (by omega)
      omega
  rw [hsame, hentry] at hslotEntry
  exact (Option.some.inj hslotEntry).symm

/-- A recent entry after those that were there first is in its slot. -/
theorem Ring.Records.exists_slot {first : α}
    (h : ring.Records (List.replicate n first ++ log)) {j : ℕ} (hrecent : log.length ≤ j + n)
    (hentry : log[j]? = some a) : ∃ i : Fin n, i.val = j % n ∧ ring.slots i = a := by
  have hpos : 0 < n := Nat.lt_of_le_of_lt (Nat.zero_le _) ring.next.isLt
  refine ⟨⟨j % n, Nat.mod_lt j hpos⟩, rfl, h.slot_eq (j := n + j) ?_ ?_ ?_⟩
  · rw [List.length_append, List.length_replicate]
    omega
  · rw [List.getElem?_append_right (by simp), List.length_replicate, Nat.add_sub_cancel_left,
      hentry]
  · rw [Nat.add_mod_left]

/-- What is in a slot was there first, or is an entry. -/
theorem Ring.Records.mem_of_slot {first : α}
    (h : ring.Records (List.replicate n first ++ log)) (i : Fin n) :
    ring.slots i = first ∨ ring.slots i ∈ log := by
  obtain ⟨j, -, -, hentry⟩ := h.slot i
  rcases List.mem_append.mp (List.mem_of_getElem? hentry) with hfirst | hlog
  · exact .inl (List.eq_of_mem_replicate hfirst)
  · exact .inr hlog

/-! ### Entries with a key and a time -/

/-- A key does not come again among the next entries as long as it is recent. -/
def Fresh (n window : ℕ) (log : List (κ × ℕ)) : Prop :=
  ∀ (i k : ℕ) (a b : κ × ℕ), i < k → k ≤ i + n → log[i]? = some a → log[k]? = some b →
    a.1 = b.1 → a.2 + window ≤ b.2

/-- There are no more than `n` keys in a window of time. -/
def FewKeys [DecidableEq κ] (n window : ℕ) (log : List (κ × ℕ)) : Prop :=
  ∀ time, ((log.filter fun a => time ≤ a.2 ∧ a.2 < time + window).map Prod.fst).dedup.length ≤ n

variable {window : ℕ} {entries : List (κ × ℕ)}

theorem fresh_nil : Fresh n window ([] : List (κ × ℕ)) := by
  intro i k a b _ _ hi
  rw [List.getElem?_nil] at hi
  cases hi

/-- One more entry is fresh if its key is not a recent one. -/
theorem Fresh.concat (h : Fresh n window entries) {b : κ × ℕ}
    (hnew : ∀ (i : ℕ) (a : κ × ℕ), entries.length ≤ i + n → entries[i]? = some a → a.1 = b.1 →
      a.2 + window ≤ b.2) : Fresh n window (entries ++ [b]) := by
  intro i k a c hik hkn hi hk hkey
  have hklength := (List.getElem?_eq_some_iff.mp hk).1
  rw [List.length_append, List.length_singleton] at hklength
  rw [List.getElem?_append_left (by omega)] at hi
  rcases Nat.lt_or_ge k entries.length with hold | hlast
  · rw [List.getElem?_append_left hold] at hk
    exact h i k a c hik hkn hi hk hkey
  · obtain rfl : k = entries.length := by omega
    rw [List.getElem?_concat_length, Option.some_inj] at hk
    subst hk
    exact hnew i a hkn hi hkey

/-- A short log has few keys. -/
theorem fewKeys_of_length_le [DecidableEq κ] (h : entries.length ≤ n) :
    FewKeys n window entries := fun time => by
  refine le_trans ((List.dedup_sublist _).length_le.trans ?_) h
  rw [List.length_map]
  exact List.length_filter_le _ _

/-- Fewer entries have fewer keys. -/
theorem FewKeys.mono [DecidableEq κ] {part : List (κ × ℕ)} (h : FewKeys n window entries)
    (hpart : part ⊆ entries) : FewKeys n window part := by
  intro time
  refine le_trans (List.Nodup.length_le_of_subset (List.nodup_dedup _) fun key hkey => ?_) (h time)
  obtain ⟨b, hb, rfl⟩ := List.mem_map.mp (List.mem_dedup.mp hkey)
  obtain ⟨hmem, htime⟩ := List.mem_filter.mp hb
  exact List.mem_dedup.mpr (List.mem_map_of_mem (List.mem_filter.mpr ⟨hpart hmem, htime⟩))

/-- In a log with few keys in a window an entry stays among the last ones while it is recent. -/
theorem Fresh.recent [DecidableEq κ] (h : Fresh n window entries) (hfew : FewKeys n window entries)
    (hsorted : entries.Pairwise fun a b => a.2 ≤ b.2) {i : ℕ} {a : κ × ℕ}
    (hentry : entries[i]? = some a) (hnow : ∀ b ∈ entries, b.2 < a.2 + window) :
    entries.length ≤ i + n := by
  by_contra hold
  -- The entry and the `n` next ones have different keys.
  let next := (entries.drop i).take (n + 1)
  have hlength : next.length = n + 1 := by
    rw [List.length_take, List.length_drop]
    omega
  have hnext {k : ℕ} {b : κ × ℕ} (hk : next[k]? = some b) :
      k < n + 1 ∧ entries[i + k]? = some b := by
    have hshort := (List.getElem?_eq_some_iff.mp hk).1
    rw [hlength] at hshort
    rw [List.getElem?_take_of_lt hshort, List.getElem?_drop] at hk
    exact ⟨hshort, hk⟩
  have hafter {k : ℕ} {b : κ × ℕ} (hk : entries[i + k]? = some b) : a.2 ≤ b.2 := by
    rcases Nat.eq_zero_or_pos k with rfl | hpos
    · rw [Nat.add_zero, hentry] at hk
      rw [Option.some.inj hk]
    · obtain ⟨hi, rfl⟩ := List.getElem?_eq_some_iff.mp hentry
      obtain ⟨hlast, rfl⟩ := List.getElem?_eq_some_iff.mp hk
      exact List.pairwise_iff_getElem.mp hsorted _ _ hi hlast (by omega)
  have hnodup : (next.map Prod.fst).Nodup := by
    refine List.nodup_iff_getElem?_ne_getElem?.mpr fun j k hjk hk hsame => ?_
    rw [List.length_map] at hk
    rw [List.getElem?_map, List.getElem?_map, List.getElem?_eq_getElem hk,
      List.getElem?_eq_getElem (hjk.trans hk), Option.map_some, Option.map_some,
      Option.some_inj] at hsame
    obtain ⟨hj, hfirst⟩ := hnext (List.getElem?_eq_getElem (hjk.trans hk))
    obtain ⟨hkn, hsecond⟩ := hnext (List.getElem?_eq_getElem hk)
    have haged := h (i + j) (i + k) _ _ (by omega) (by omega) hfirst hsecond hsame
    have hrecent := hnow _ (List.mem_of_getElem? hsecond)
    have hlater := hafter hfirst
    omega
  have hwindow : next.map Prod.fst ⊆
      ((entries.filter fun b => a.2 ≤ b.2 ∧ b.2 < a.2 + window).map Prod.fst).dedup := by
    intro key hkey
    obtain ⟨b, hb, rfl⟩ := List.mem_map.mp hkey
    obtain ⟨k, hk⟩ := List.mem_iff_getElem?.mp hb
    obtain ⟨-, hold⟩ := hnext hk
    refine List.mem_dedup.mpr (List.mem_map_of_mem (List.mem_filter.mpr ⟨?_, ?_⟩))
    · exact List.mem_of_getElem? hold
    · exact decide_eq_true ⟨hafter hold, hnow b (List.mem_of_getElem? hold)⟩
  have hcount := List.Nodup.length_le_of_subset hnodup hwindow
  rw [List.length_map, hlength] at hcount
  have hmost := hfew a.2
  omega

end RecentRing
