import Mathlib.Data.List.Chain

/-!
# Pulses on a line

A line rises and falls, and a log keeps when it did. A log is regular if the line rises first,
rises and falls in turn, never rises again too soon and never falls too soon after it rose.
-/

namespace Pulses

/-- What the line does. -/
inductive Edge
  | rise | fall
deriving DecidableEq, Repr

/-- What the line does, and when. -/
structure Mark where
  edge : Edge
  time : ℕ
deriving DecidableEq, Repr

/-- When the line rose. -/
def rises (log : List Mark) : List ℕ :=
  log.filterMap fun mark => if mark.edge = .rise then some mark.time else none

/-- The first mark is a rise, rises and falls take turns, from one rise to the next there is at
least the first time, and from a rise to its fall at least the second. -/
structure Regular (apart atLeast : ℕ) (log : List Mark) : Prop where
  rises_first : ∀ mark ∈ log.head?, mark.edge = .rise
  take_turns : log.IsChain fun a b => a.edge ≠ b.edge
  rises_apart : (rises log).IsChain fun a b => a + apart ≤ b
  lasts : log.IsChain fun a b => a.edge = .rise → a.time + atLeast ≤ b.time

/-- The line is low: it has not risen since it fell. -/
def Low (log : List Mark) : Prop := ∀ mark ∈ log.getLast?, mark.edge = .fall

variable {apart atLeast time start : ℕ} {log : List Mark}

@[simp] theorem rises_append_rise : rises (log ++ [⟨.rise, time⟩]) = rises log ++ [time] := by
  simp [rises]

@[simp] theorem rises_append_fall : rises (log ++ [⟨.fall, time⟩]) = rises log := by
  simp [rises]

theorem regular_nil : Regular apart atLeast [] where
  rises_first := by simp
  take_turns := .nil
  rises_apart := .nil
  lasts := .nil

theorem low_nil : Low [] := by simp [Low]

theorem low_append_fall : Low (log ++ [⟨.fall, time⟩]) := by simp [Low]

/-- A line that is low may rise, late enough after it rose before. -/
theorem Regular.rise (h : Regular apart atLeast log) (hlow : Low log)
    (hapart : ∀ before ∈ (rises log).getLast?, before + apart ≤ time) :
    Regular apart atLeast (log ++ [⟨.rise, time⟩]) := by
  constructor
  · cases log with
    | nil => simp
    | cons first rest => simpa using h.rises_first
  · refine h.take_turns.append (.singleton _) ?_
    intro mark hmark next hnext
    obtain rfl : Mark.mk .rise time = next := by simpa using hnext
    simp [hlow mark hmark]
  · rw [rises_append_rise]
    refine h.rises_apart.append (.singleton _) ?_
    intro before hbefore next hnext
    obtain rfl : time = next := by simpa using hnext
    exact hapart before hbefore
  · refine h.lasts.append (.singleton _) ?_
    intro mark hmark next _ hrise
    exact absurd (hrise.symm.trans (hlow mark hmark)) (by simp)

/-- A line that has risen may fall when it has been high for long enough. -/
theorem Regular.fall (h : Regular apart atLeast log)
    (hhigh : log.getLast? = some ⟨.rise, start⟩) (hlasts : start + atLeast ≤ time) :
    Regular apart atLeast (log ++ [⟨.fall, time⟩]) := by
  constructor
  · cases log with
    | nil => simp at hhigh
    | cons first rest => simpa using h.rises_first
  · refine h.take_turns.append (.singleton _) ?_
    intro mark hmark next hnext
    obtain rfl : Mark.mk .fall time = next := by simpa using hnext
    obtain rfl : Mark.mk .rise start = mark := Option.some.inj (hhigh.symm.trans hmark)
    simp
  · rw [rises_append_fall]
    exact h.rises_apart
  · refine h.lasts.append (.singleton _) ?_
    intro mark hmark next hnext _
    obtain rfl : Mark.mk .fall time = next := by simpa using hnext
    obtain rfl : Mark.mk .rise start = mark := Option.some.inj (hhigh.symm.trans hmark)
    exact hlasts

/-- Times that are apart are at most as many as the last of them says. -/
theorem length_le_of_apart {times : List ℕ} (hpos : 0 < apart) (hfirst : ∀ t ∈ times, 0 < t)
    (h : times.IsChain fun a b => a + apart ≤ b) :
    ∀ last ∈ times.getLast?, times.length ≤ last := by
  induction times using List.reverseRecOn with
  | nil => simp
  | append_singleton times time ih =>
    intro last hlast
    obtain rfl : time = last := by simpa using hlast
    obtain ⟨hbefore, -, hapart⟩ := List.isChain_append.mp h
    rw [List.length_append, List.length_singleton]
    cases hend : times.getLast? with
    | none =>
      have hnone := List.getLast?_eq_none_iff.mp hend
      have htime := hfirst time (by simp)
      simp [hnone]
      omega
    | some t =>
      have hlen := ih (fun t ht => hfirst t (List.mem_append_left _ ht)) hbefore t hend
      have hgap := hapart t hend time (by simp)
      omega

end Pulses
