import Mathlib.Data.List.Infix
import Mathlib.Data.Nat.Notation

/-!
# Loops over the offsets of a buffer

A loop reads a buffer at one offset after the other and may skip some. Every read is
checked: the value `none` stands for a read outside of the buffer. A loop whose limit lies
behind the end of the buffer fails once it gets there.
-/

namespace Scan

variable {α σ : Type*}

/-! ### Reading words -/

section Words

variable [DecidableEq α] {data word : List α} {offset : ℕ}

/-- The elements from the offset on are compared with a word, one after the other up to the
first difference. -/
def readsAs (data : List α) (offset : ℕ) : List α → Option Bool
  | [] => some true
  | a :: word =>
    data[offset]?.bind fun b => if b = a then readsAs data (offset + 1) word else some false

/-- A word is found where it stands. -/
theorem readsAs_eq_true_iff : readsAs data offset word = some true ↔ word <+: data.drop offset := by
  induction word generalizing offset with
  | nil => simp [readsAs]
  | cons a word ih =>
    rw [readsAs]
    by_cases hlt : offset < data.length
    · rw [List.getElem?_eq_getElem hlt, Option.bind_some, List.drop_eq_getElem_cons hlt,
        List.cons_prefix_cons]
      by_cases heq : data[offset] = a
      · rw [if_pos heq, ih]
        simp [heq]
      · rw [if_neg heq]
        simp [Ne.symm heq]
    · have hend := Nat.le_of_not_lt hlt
      simp [List.getElem?_eq_none hend, List.drop_of_length_le hend]

/-- A word that fits can be read. -/
theorem readsAs_of_le (h : offset + word.length ≤ data.length) :
    readsAs data offset word = some (decide (word <+: data.drop offset)) := by
  have hsome : (readsAs data offset word).isSome := by
    induction word generalizing offset with
    | nil => rfl
    | cons a word ih =>
      rw [List.length_cons] at h
      have hlt : offset < data.length := by omega
      rw [readsAs, List.getElem?_eq_getElem hlt, Option.bind_some]
      split
      · exact ih (by omega)
      · rfl
  obtain ⟨found, hfound⟩ := Option.isSome_iff_exists.mp hsome
  have hiff : readsAs data offset word = some true ↔ word <+: data.drop offset :=
    readsAs_eq_true_iff
  cases found with
  | true => simp [hfound, hiff.mp hfound]
  | false =>
    have hnot : ¬word <+: data.drop offset := fun hword => by simp [hiff.mpr hword] at hfound
    simp [hfound, hnot]

/-- A word that is found fits. -/
theorem le_of_readsAs (h : readsAs data offset word = some true) (hword : word ≠ []) :
    offset + word.length ≤ data.length := by
  have hlength := (readsAs_eq_true_iff.mp h).length_le
  have hpos := List.length_pos_of_ne_nil hword
  rw [List.length_drop] at hlength
  omega

/-- Nothing can be read at the end. -/
theorem readsAs_end (hword : word ≠ []) : readsAs data data.length word = none := by
  cases word with
  | nil => exact absurd rfl hword
  | cons a word => simp [readsAs]

/-- A word is compared if there is room for it. -/
def readsWithin (data : List α) (offset : ℕ) (word : List α) : Option Bool :=
  if offset + word.length ≤ data.length then readsAs data offset word else some false

/-- Such a comparison does not fail. -/
theorem readsWithin_eq (hword : word ≠ []) :
    readsWithin data offset word = some (decide (word <+: data.drop offset)) := by
  have hpos := List.length_pos_of_ne_nil hword
  unfold readsWithin
  split
  · rename_i hle
    exact readsAs_of_le hle
  · rename_i hlong
    have hnot : ¬word <+: data.drop offset := by
      intro hfound
      have hlength := hfound.length_le
      rw [List.length_drop] at hlength
      omega
    rw [decide_eq_false hnot]

end Words

/-- The elements between two offsets are copied. -/
def readPart (data : List α) (start stop : ℕ) : Option (List α) :=
  if stop ≤ data.length then some ((data.take stop).drop start) else none

/-! ### Loops -/

/-- The loop below the limit while the state lets it go on. The body returns how many offsets
are skipped, and the new state. -/
def scan (limit : ℕ) (goesOn : σ → Bool) (body : ℕ → σ → Option (ℕ × σ)) (offset : ℕ) (s : σ) :
    Option σ :=
  if offset < limit ∧ goesOn s = true then
    (body offset s).bind fun r => scan limit goesOn body (offset + 1 + r.1) r.2
  else some s
termination_by limit - offset

variable {limit : ℕ} {goesOn : σ → Bool} {body : ℕ → σ → Option (ℕ × σ)} (Inv : ℕ → σ → Prop)

/-- A loop does not fail if its body does not, and keeps what its body keeps. -/
theorem scan_invariant
    (hbody : ∀ offset s, offset < limit → goesOn s = true → Inv offset s →
      ∃ skipped s', body offset s = some (skipped, s') ∧ Inv (offset + 1 + skipped) s')
    {offset : ℕ} {s : σ} (hinv : Inv offset s) :
    ∃ s' stop, scan limit goesOn body offset s = some s' ∧ Inv stop s' ∧
      ¬(stop < limit ∧ goesOn s' = true) := by
  induction hleft : limit - offset using Nat.strong_induction_on generalizing offset s with
  | _ left ih =>
    rw [scan]
    by_cases hnext : offset < limit ∧ goesOn s = true
    · obtain ⟨skipped, s', hstep, hinv'⟩ := hbody offset s hnext.1 hnext.2 hinv
      rw [if_pos hnext, hstep, Option.bind_some]
      exact ih _ (by omega) hinv' rfl
    · rw [if_neg hnext]
      exact ⟨s, offset, rfl, hinv, hnext⟩

/-- Offsets at which the body does nothing are passed over. -/
theorem scan_skip {offset : ℕ} {s : σ} {count : ℕ}
    (hskip : ∀ n < count, offset + n < limit → body (offset + n) s = some (0, s)) :
    scan limit goesOn body offset s = scan limit goesOn body (offset + count) s := by
  induction count with
  | zero => rfl
  | succ count ih =>
    rw [ih fun n hn => hskip n (by omega), scan]
    by_cases hnext : offset + count < limit ∧ goesOn s = true
    · rw [if_pos hnext, hskip count (Nat.lt_succ_self count) hnext.1]
      rfl
    · rw [if_neg hnext, scan, if_neg fun h => hnext ⟨by omega, h.2⟩]

/-- A loop fails if its body fails at an offset below the limit, and the loop does not end
before and cannot skip this offset. -/
theorem scan_eq_none {stop : ℕ} (hlimit : stop < limit)
    (hgoes : ∀ offset s, offset ≤ stop → Inv offset s → goesOn s = true)
    (hbody : ∀ offset s skipped s', offset < stop → Inv offset s →
      body offset s = some (skipped, s') → offset + 1 + skipped ≤ stop ∧
        Inv (offset + 1 + skipped) s')
    (hfails : ∀ s, Inv stop s → body stop s = none) {offset : ℕ} {s : σ} (hle : offset ≤ stop)
    (hinv : Inv offset s) : scan limit goesOn body offset s = none := by
  induction hleft : stop - offset using Nat.strong_induction_on generalizing offset s with
  | _ left ih =>
    rw [scan, if_pos ⟨by omega, hgoes offset s hle hinv⟩]
    rcases Nat.lt_or_eq_of_le hle with hlt | rfl
    · cases hstep : body offset s with
      | none => rfl
      | some r =>
        obtain ⟨hle', hinv'⟩ := hbody offset s r.1 r.2 hlt hinv hstep
        exact ih _ (by omega) hle' hinv' rfl
    · rw [hfails s hinv]
      rfl

/-! ### The last offset -/

section Last

variable {p : ℕ → Prop} [DecidablePred p] {limit offset : ℕ}

/-- A loop over the offsets below a limit keeps the last one that it likes. -/
def lastBelow (p : ℕ → Prop) [DecidablePred p] (limit : ℕ) : Option ℕ :=
  (List.range limit).foldl (fun last i => if p i then some i else last) none

/-- The loop goes one further. -/
theorem lastBelow_succ (p : ℕ → Prop) [DecidablePred p] (limit : ℕ) :
    lastBelow p (limit + 1) = if p limit then some limit else lastBelow p limit := by
  rw [lastBelow, List.range_succ, List.foldl_append]
  rfl

/-- It keeps none if it likes none. -/
theorem lastBelow_eq_none_iff : lastBelow p limit = none ↔ ∀ i < limit, ¬p i := by
  induction limit with
  | zero => simp [lastBelow]
  | succ limit ih =>
    rw [lastBelow_succ, Nat.forall_lt_succ_right]
    split_ifs with hlast
    · simp [hlast]
    · rw [ih]
      simp [hlast]

/-- The one that it keeps is followed by others. -/
theorem lastBelow_eq_some_iff : lastBelow p limit = some offset ↔
    offset < limit ∧ p offset ∧ ∀ i < limit, offset < i → ¬p i := by
  induction limit with
  | zero => simp [lastBelow]
  | succ limit ih =>
    rw [lastBelow_succ, Nat.forall_lt_succ_right]
    split_ifs with hlast
    · rw [Option.some_inj]
      constructor
      · rintro rfl
        exact ⟨Nat.lt_succ_self _, hlast, fun i hi hlt => absurd hi (by omega),
          fun hlt => absurd hlt (Nat.lt_irrefl _)⟩
      · rintro ⟨hlt, -, -, hnone⟩
        by_contra hne
        exact hnone (by omega) hlast
    · rw [ih]
      constructor
      · rintro ⟨hlt, hp, hnone⟩
        exact ⟨by omega, hp, hnone, fun _ => hlast⟩
      · rintro ⟨hlt, hp, hnone, -⟩
        have hne : offset ≠ limit := fun heq => hlast (heq ▸ hp)
        exact ⟨by omega, hp, hnone⟩

end Last

end Scan
