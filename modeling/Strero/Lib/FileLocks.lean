import Mathlib.Data.Nat.Notation
import Mathlib.Logic.Function.Basic
import Mathlib.Tactic.SplitIfs

/-!
# Files, their names and their locks

A file may lose its name while it is open, and the name may then be given to another file. A lock
belongs to a process and to a file, whatever the name of the file: it is given back when the process
closes the file or ends.
-/

namespace FileLocks

/-- The files are numbered, and those from `fresh` on do not exist yet. A name may stand for a
file, and a process may hold the lock of a file. -/
structure FileSystem (π ρ : Type*) where
  link : π → Option ℕ
  fresh : ℕ
  holder : ℕ → Option ρ

namespace FileSystem

variable {π ρ : Type*}

/-- `open` with `O_CREAT`: the file, and whether it is new. -/
def openCreate [DecidableEq π] (fs : FileSystem π ρ) (path : π) : ℕ × FileSystem π ρ :=
  match fs.link path with
  | some f => (f, fs)
  | none =>
    (fs.fresh, { fs with
      link := Function.update fs.link path (some fs.fresh)
      fresh := fs.fresh + 1 })

/-- `fcntl` with `F_SETLK` for a write lock of a whole file, with whether it succeeds. -/
def setLock [DecidableEq ρ] (fs : FileSystem π ρ) (p : ρ) (f : ℕ) : Bool × FileSystem π ρ :=
  if fs.holder f = none ∨ fs.holder f = some p then
    (true, { fs with holder := Function.update fs.holder f (some p) })
  else (false, fs)

/-- `close`: the process loses its lock of the file. -/
def close [DecidableEq ρ] (fs : FileSystem π ρ) (p : ρ) (f : ℕ) : FileSystem π ρ :=
  if fs.holder f = some p then { fs with holder := Function.update fs.holder f none } else fs

/-- The end of a process: it loses all its locks. -/
def exit [DecidableEq ρ] (fs : FileSystem π ρ) (p : ρ) : FileSystem π ρ :=
  { fs with holder := fun f => if fs.holder f = some p then none else fs.holder f }

/-- `unlink`. -/
def unlink [DecidableEq π] (fs : FileSystem π ρ) (path : π) : FileSystem π ρ :=
  { fs with link := Function.update fs.link path none }

/-- Only files that exist have names and are locked. -/
structure Sound (fs : FileSystem π ρ) : Prop where
  link_lt : ∀ path f, fs.link path = some f → f < fs.fresh
  holder_lt : ∀ f p, fs.holder f = some p → f < fs.fresh

variable {fs : FileSystem π ρ} {path : π} {p q : ρ} {f g : ℕ}

section Names

variable [DecidableEq π]

theorem openCreate_of_link (h : fs.link path = some f) : fs.openCreate path = (f, fs) := by
  rw [openCreate, h]

theorem openCreate_of_none (h : fs.link path = none) : fs.openCreate path =
    (fs.fresh, { fs with
      link := Function.update fs.link path (some fs.fresh)
      fresh := fs.fresh + 1 }) := by
  rw [openCreate, h]

/-- The file that has been opened has the name. -/
theorem link_openCreate : (fs.openCreate path).2.link path = some (fs.openCreate path).1 := by
  cases h : fs.link path with
  | some f =>
    rw [openCreate_of_link h]
    exact h
  | none =>
    rw [openCreate_of_none h]
    exact Function.update_self _ _ _

@[simp] theorem holder_openCreate : (fs.openCreate path).2.holder = fs.holder := by
  cases h : fs.link path with
  | some f => rw [openCreate_of_link h]
  | none => rw [openCreate_of_none h]

theorem Sound.openCreate (h : fs.Sound) : (fs.openCreate path).2.Sound := by
  cases hlink : fs.link path with
  | some f =>
    rw [openCreate_of_link hlink]
    exact h
  | none =>
    rw [openCreate_of_none hlink]
    refine ⟨fun other f hf => ?_, fun f p hf => Nat.lt_succ_of_lt (h.holder_lt f p hf)⟩
    dsimp only at hf ⊢
    by_cases hother : other = path
    · subst hother
      rw [Function.update_self] at hf
      obtain rfl := Option.some.inj hf
      exact Nat.lt_succ_self _
    · rw [Function.update_of_ne hother] at hf
      exact Nat.lt_succ_of_lt (h.link_lt other f hf)

theorem Sound.unlink (h : fs.Sound) : (fs.unlink path).Sound where
  link_lt other f hf := by
    by_cases hother : other = path
    · subst hother
      have hnone : (fs.unlink other).link other = none := Function.update_self _ _ _
      rw [hnone] at hf
      cases hf
    · exact h.link_lt other f ((Function.update_of_ne hother _ _).symm.trans hf)
  holder_lt := h.holder_lt

end Names

section Locks

variable [DecidableEq ρ]

theorem setLock_of_free (h : fs.holder f = none) : fs.setLock p f =
    (true, { fs with holder := Function.update fs.holder f (some p) }) := by
  rw [setLock, if_pos (.inl h)]

/-- A lock that another process holds is refused. -/
theorem setLock_of_held (h : fs.holder f = some q) (hne : q ≠ p) :
    fs.setLock p f = (false, fs) := by
  rw [setLock, if_neg]
  rw [h]
  rintro (hnone | hsame)
  · cases hnone
  · exact hne (Option.some.inj hsame)

theorem Sound.setLock (h : fs.Sound) (hf : f < fs.fresh) : (fs.setLock p f).2.Sound := by
  rw [FileSystem.setLock]
  split_ifs
  · refine ⟨h.link_lt, fun g q hg => ?_⟩
    by_cases heq : g = f
    · exact heq ▸ hf
    · exact h.holder_lt g q ((Function.update_of_ne heq _ _).symm.trans hg)
  · exact h

@[simp] theorem link_close : (fs.close p f).link = fs.link := by
  rw [close]
  split_ifs <;> rfl

@[simp] theorem fresh_close : (fs.close p f).fresh = fs.fresh := by
  rw [close]
  split_ifs <;> rfl

/-- Only the lock of the process on the file is lost. -/
theorem holder_close : (fs.close p f).holder g = some q ↔
    fs.holder g = some q ∧ ¬(g = f ∧ q = p) := by
  rw [close]
  split_ifs with hheld
  · dsimp only
    by_cases heq : g = f
    · subst heq
      rw [Function.update_self, hheld]
      constructor
      · intro h
        cases h
      · rintro ⟨h, hne⟩
        exact absurd ⟨rfl, (Option.some.inj h).symm⟩ hne
    · rw [Function.update_of_ne heq]
      exact ⟨fun h => ⟨h, fun hsame => heq hsame.1⟩, And.left⟩
  · refine ⟨fun h => ⟨h, ?_⟩, And.left⟩
    rintro ⟨rfl, rfl⟩
    exact hheld h

theorem Sound.close (h : fs.Sound) : (fs.close p f).Sound where
  link_lt path g hg := by
    rw [link_close] at hg
    rw [fresh_close]
    exact h.link_lt path g hg
  holder_lt g q hg := by
    rw [fresh_close]
    exact h.holder_lt g q (holder_close.mp hg).1

/-- Only the locks of the process are lost. -/
theorem holder_exit : (fs.exit p).holder g = some q ↔ fs.holder g = some q ∧ q ≠ p := by
  have hholder : (fs.exit p).holder g = if fs.holder g = some p then none else fs.holder g := rfl
  rw [hholder]
  split_ifs with hheld
  · rw [hheld]
    constructor
    · intro h
      cases h
    · rintro ⟨h, hne⟩
      exact absurd (Option.some.inj h).symm hne
  · refine ⟨fun h => ⟨h, ?_⟩, And.left⟩
    rintro rfl
    exact hheld h

theorem Sound.exit (h : fs.Sound) : (fs.exit p).Sound where
  link_lt := h.link_lt
  holder_lt g q hg := h.holder_lt g q (holder_exit.mp hg).1

end Locks

end FileSystem

end FileLocks
