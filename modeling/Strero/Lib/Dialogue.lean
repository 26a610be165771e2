import Mathlib.Data.List.Basic
import Mathlib.Logic.Relation
import Mathlib.Order.GameAdd

/-!
# Two programs that talk over a byte stream

Each end of a connection runs a program that writes exact runs of items and
reads exact numbers of them. A call of the socket may move any positive part of
what is asked for, the two pipes hold a bounded number of items, and the two
programs are scheduled in any order. Steps of the two ends commute, so where one
schedule ends, every schedule ends, and a call that fails takes nothing away from
what the other end has already been given.
-/

namespace Dialogue

variable {β ε ρ ε' ρ' : Type*}

/-- A program on a connection. A read whose call fails stops with an error that
may depend on the items that came before the failure. -/
inductive Script (β : Type*) (ε : Type*) (ρ : Type*)
  | done (result : ρ)
  | stop (error : ε)
  | write (items : List β) (error : ε) (next : Script β ε ρ)
  | read (count : ℕ) (error : List β → ε) (next : List β → Script β ε ρ)

/-- One call of the socket, or the end of a loop of such calls: the items that are
sent and the items that are taken. -/
inductive Script.Acts : Script β ε ρ → List β → List β → Script β ε ρ → Prop
  | send {x rest : List β} {error : ε} {next : Script β ε ρ} (hx : x ≠ []) :
      Acts (.write (x ++ rest) error next) x [] (.write rest error next)
  | sent {error : ε} {next : Script β ε ρ} : Acts (.write [] error next) [] [] next
  | recv {y : List β} {n : ℕ} {error : List β → ε} {next : List β → Script β ε ρ} (hy : y ≠ []) :
      Acts (.read (y.length + n) error next) [] y
        (.read n (fun rest => error (y ++ rest)) (fun rest => next (y ++ rest)))
  | received {error : List β → ε} {next : List β → Script β ε ρ} :
      Acts (.read 0 error next) [] [] (next [])

/-- A call that fails. -/
inductive Script.Fails : Script β ε ρ → Script β ε ρ → Prop
  | write {items : List β} {error : ε} {next : Script β ε ρ} :
      Fails (.write items error next) (.stop error)
  | read {n : ℕ} {error : List β → ε} {next : List β → Script β ε ρ} :
      Fails (.read n error next) (.stop (error []))

/-- The second program is the first one, or comes after it by one act. -/
def Script.Follows (p : Script β ε ρ) (x y : List β) (q : Script β ε ρ) : Prop :=
  (x = [] ∧ y = [] ∧ p = q) ∨ p.Acts x y q

theorem Script.acts_write_iff {items : List β} {error : ε} {next p : Script β ε ρ}
    {x y : List β} :
    (Script.write items error next).Acts x y p ↔
      y = [] ∧ ((items = [] ∧ x = [] ∧ p = next) ∨
        (x ≠ [] ∧ ∃ rest, items = x ++ rest ∧ p = .write rest error next)) := by
  constructor
  · intro h
    generalize hp : Script.write items error next = s at h
    cases h with
    | send hx =>
      obtain ⟨rfl, rfl, rfl⟩ := Script.write.inj hp
      exact ⟨rfl, .inr ⟨hx, _, rfl, rfl⟩⟩
    | sent =>
      obtain ⟨rfl, rfl, rfl⟩ := Script.write.inj hp
      exact ⟨rfl, .inl ⟨rfl, rfl, rfl⟩⟩
    | recv hy => cases hp
    | received => cases hp
  · rintro ⟨rfl, ⟨rfl, rfl, rfl⟩ | ⟨hx, rest, rfl, rfl⟩⟩
    · exact .sent
    · exact .send hx

theorem Script.acts_read_iff {n : ℕ} {error : List β → ε} {next : List β → Script β ε ρ}
    {p : Script β ε ρ} {x y : List β} :
    (Script.read n error next).Acts x y p ↔
      x = [] ∧ ((n = 0 ∧ y = [] ∧ p = next []) ∨
        (y ≠ [] ∧ ∃ m, n = y.length + m ∧
          p = .read m (fun rest => error (y ++ rest)) (fun rest => next (y ++ rest)))) := by
  constructor
  · intro h
    generalize hp : Script.read n error next = s at h
    cases h with
    | send hx => cases hp
    | sent => cases hp
    | recv hy =>
      obtain ⟨rfl, rfl, rfl⟩ := Script.read.inj hp
      exact ⟨rfl, .inr ⟨hy, _, rfl, rfl⟩⟩
    | received =>
      obtain ⟨rfl, rfl, rfl⟩ := Script.read.inj hp
      exact ⟨rfl, .inl ⟨rfl, rfl, rfl⟩⟩
  · rintro ⟨rfl, ⟨rfl, rfl, rfl⟩ | ⟨hy, m, rfl, rfl⟩⟩
    · exact .received
    · exact .recv hy

@[simp] theorem Script.not_acts_done {result : ρ} {p : Script β ε ρ} {x y : List β} :
    ¬(Script.done result).Acts x y p := by
  intro h
  cases h

@[simp] theorem Script.not_acts_stop {error : ε} {p : Script β ε ρ} {x y : List β} :
    ¬(Script.stop error).Acts x y p := by
  intro h
  cases h

theorem Script.follows_write (a rest : List β) (error : ε) (next : Script β ε ρ) :
    (Script.write (a ++ rest) error next).Follows a [] (.write rest error next) := by
  by_cases ha : a = []
  · subst ha
    exact .inl ⟨rfl, rfl, rfl⟩
  · exact .inr (.send ha)

theorem Script.follows_read (a : List β) (n : ℕ) (error : List β → ε)
    (next : List β → Script β ε ρ) :
    (Script.read (a.length + n) error next).Follows [] a
      (.read n (fun rest => error (a ++ rest)) (fun rest => next (a ++ rest))) := by
  by_cases ha : a = []
  · subst ha
    refine .inl ⟨rfl, rfl, ?_⟩
    simp
  · exact .inr (.recv ha)

/-- Two ways to go on with one program differ in how much one call moved: one of them
is on the way of the other. -/
theorem Script.Acts.compare {p p₁ p₂ : Script β ε ρ} {x₁ y₁ x₂ y₂ rest₁ rest₂ : List β}
    (h₁ : p.Acts x₁ y₁ p₁) (h₂ : p.Acts x₂ y₂ p₂) (hin : y₁ ++ rest₁ = y₂ ++ rest₂) :
    (∃ x y, x₂ = x₁ ++ x ∧ y₂ = y₁ ++ y ∧ p₁.Follows x y p₂) ∨
    (∃ x y, x₁ = x₂ ++ x ∧ y₁ = y₂ ++ y ∧ p₂.Follows x y p₁) := by
  cases p with
  | done result => exact absurd h₁ Script.not_acts_done
  | stop error => exact absurd h₁ Script.not_acts_stop
  | write items error next =>
    obtain ⟨rfl, ⟨rfl, rfl, rfl⟩ | ⟨hx₁, r₁, rfl, rfl⟩⟩ := Script.acts_write_iff.mp h₁
    · obtain ⟨rfl, ⟨-, rfl, rfl⟩ | ⟨hx₂, r₂, hitems, rfl⟩⟩ := Script.acts_write_iff.mp h₂
      · exact .inl ⟨[], [], rfl, rfl, .inl ⟨rfl, rfl, rfl⟩⟩
      · exact absurd (List.append_eq_nil_iff.mp hitems.symm).1 hx₂
    · obtain ⟨rfl, ⟨hitems, -, -⟩ | ⟨-, r₂, hitems, rfl⟩⟩ := Script.acts_write_iff.mp h₂
      · exact absurd (List.append_eq_nil_iff.mp hitems).1 hx₁
      · obtain ⟨a, rfl, rfl⟩ | ⟨a, rfl, rfl⟩ := List.append_eq_append_iff.mp hitems
        · exact .inl ⟨a, [], rfl, rfl, Script.follows_write a r₂ error next⟩
        · exact .inr ⟨a, [], rfl, rfl, Script.follows_write a r₁ error next⟩
  | read n error next =>
    obtain ⟨rfl, ⟨rfl, rfl, rfl⟩ | ⟨hy₁, m₁, rfl, rfl⟩⟩ := Script.acts_read_iff.mp h₁
    · obtain ⟨rfl, ⟨-, rfl, rfl⟩ | ⟨hy₂, m₂, hcount, rfl⟩⟩ := Script.acts_read_iff.mp h₂
      · exact .inl ⟨[], [], rfl, rfl, .inl ⟨rfl, rfl, rfl⟩⟩
      · have hempty : y₂.length = 0 := by omega
        exact absurd (List.length_eq_zero_iff.mp hempty) hy₂
    · obtain ⟨rfl, ⟨hcount, -, -⟩ | ⟨-, m₂, hcount, rfl⟩⟩ := Script.acts_read_iff.mp h₂
      · have hempty : y₁.length = 0 := by omega
        exact absurd (List.length_eq_zero_iff.mp hempty) hy₁
      · obtain ⟨a, rfl, -⟩ | ⟨a, rfl, -⟩ := List.append_eq_append_iff.mp hin
        · obtain rfl : m₁ = a.length + m₂ := by
            rw [List.length_append] at hcount
            omega
          refine .inl ⟨[], a, rfl, rfl, ?_⟩
          simpa only [List.append_assoc] using Script.follows_read a m₂
            (fun rest => error (y₁ ++ rest)) (fun rest => next (y₁ ++ rest))
        · obtain rfl : m₂ = a.length + m₁ := by
            rw [List.length_append] at hcount
            omega
          refine .inr ⟨[], a, rfl, rfl, ?_⟩
          simpa only [List.append_assoc] using Script.follows_read a m₁
            (fun rest => error (y₂ ++ rest)) (fun rest => next (y₂ ++ rest))

/-- One act takes the program closer to its end. -/
def Script.Nearer (q p : Script β ε ρ) : Prop := ∃ x y, p.Acts x y q

/-- A program takes finitely many acts: a loop of calls moves an item at each call. -/
theorem Script.nearer_wellFounded : WellFounded (@Script.Nearer β ε ρ) := by
  refine ⟨fun p => ?_⟩
  induction p with
  | done result => exact ⟨_, fun q ⟨_, _, h⟩ => absurd h not_acts_done⟩
  | stop error => exact ⟨_, fun q ⟨_, _, h⟩ => absurd h not_acts_stop⟩
  | write items error next ih =>
    induction hlength : items.length using Nat.strong_induction_on generalizing items with
    | _ n ihn =>
      refine ⟨_, fun q ⟨x, y, h⟩ => ?_⟩
      obtain ⟨-, ⟨-, -, rfl⟩ | ⟨hx, rest, rfl, rfl⟩⟩ := acts_write_iff.mp h
      · exact ih
      · have hpos := List.length_pos_iff.mpr hx
        rw [List.length_append] at hlength
        exact ihn rest.length (by omega) rest rfl
  | read n error next ih =>
    induction n using Nat.strong_induction_on generalizing error next with
    | _ n ihn =>
      refine ⟨_, fun q ⟨x, y, h⟩ => ?_⟩
      obtain ⟨-, ⟨-, -, rfl⟩ | ⟨hy, m, rfl, rfl⟩⟩ := acts_read_iff.mp h
      · exact ih []
      · have hpos := List.length_pos_iff.mpr hy
        exact ihn m (by omega) _ _ fun rest => ih (y ++ rest)

/-- The two programs and the items under way in each direction. -/
structure Link (β : Type*) (ε : Type*) (ρ : Type*) (ε' : Type*) (ρ' : Type*) where
  near : Script β ε ρ
  far : Script β ε' ρ'
  outgoing : List β
  incoming : List β

namespace Link

/-- The connection as the other end sees it. -/
def swap (s : Link β ε ρ ε' ρ') : Link β ε' ρ' ε ρ := ⟨s.far, s.near, s.incoming, s.outgoing⟩

@[simp] theorem swap_swap (s : Link β ε ρ ε' ρ') : s.swap.swap = s := rfl

/-- The near program takes a step; a pipe holds at most `capacity` items. -/
def NearStep (capacity : ℕ) (s t : Link β ε ρ ε' ρ') : Prop :=
  ∃ x y, s.near.Acts x y t.near ∧ t.far = s.far ∧ s.incoming = y ++ t.incoming ∧
    t.outgoing = s.outgoing ++ x ∧ t.outgoing.length ≤ capacity

/-- One of the two programs takes a step. -/
inductive Step (capacity : ℕ) (s t : Link β ε ρ ε' ρ') : Prop
  | near (h : NearStep capacity s t)
  | far (h : NearStep capacity s.swap t.swap)

/-- A call of one of the two programs fails. -/
inductive Fault : Link β ε ρ ε' ρ' → Link β ε ρ ε' ρ' → Prop
  | near {p p' : Script β ε ρ} {q : Script β ε' ρ'} {out inc : List β} (h : p.Fails p') :
      Fault ⟨p, q, out, inc⟩ ⟨p', q, out, inc⟩
  | far {p : Script β ε ρ} {q q' : Script β ε' ρ'} {out inc : List β} (h : q.Fails q') :
      Fault ⟨p, q, out, inc⟩ ⟨p, q', out, inc⟩

/-- Any number of steps, without a failure. -/
abbrev Steps (capacity : ℕ) : Link β ε ρ ε' ρ' → Link β ε ρ ε' ρ' → Prop :=
  Relation.ReflTransGen (Step capacity)

/-- Any number of steps and failures. -/
abbrev Run (capacity : ℕ) : Link β ε ρ ε' ρ' → Link β ε ρ ε' ρ' → Prop :=
  Relation.ReflTransGen fun s t => Step capacity s t ∨ Fault s t

theorem Step.swap {capacity : ℕ} {s t : Link β ε ρ ε' ρ'} (h : Step capacity s t) :
    Step capacity s.swap t.swap := by
  cases h with
  | near h => exact .far h
  | far h => exact .near h

theorem Steps.swap {capacity : ℕ} {s t : Link β ε ρ ε' ρ'} (h : Steps capacity s t) :
    Steps capacity s.swap t.swap :=
  h.lift Link.swap fun _ _ hstep => hstep.swap

/-! ### Steps commute -/

/-- Two steps of the near program: one of them is on the way of the other. -/
theorem NearStep.compare {capacity : ℕ} {s t u : Link β ε ρ ε' ρ'} (ht : NearStep capacity s t)
    (hu : NearStep capacity s u) : t = u ∨ NearStep capacity t u ∨ NearStep capacity u t := by
  obtain ⟨x₁, y₁, hacts₁, hfar₁, hin₁, hout₁, hroom₁⟩ := ht
  obtain ⟨x₂, y₂, hacts₂, hfar₂, hin₂, hout₂, hroom₂⟩ := hu
  obtain ⟨p₁, q₁, o₁, i₁⟩ := t
  obtain ⟨p₂, q₂, o₂, i₂⟩ := u
  dsimp only at *
  subst q₁ q₂ o₁ o₂
  obtain ⟨x, y, rfl, rfl, hfollows⟩ | ⟨x, y, rfl, rfl, hfollows⟩ :=
    hacts₁.compare hacts₂ (hin₁.symm.trans hin₂)
  · obtain rfl : i₁ = y ++ i₂ := List.append_cancel_left (by
      rw [← hin₁, hin₂, List.append_assoc])
    obtain ⟨rfl, rfl, rfl⟩ | hacts := hfollows
    · exact .inl (by simp)
    · exact .inr (.inl ⟨x, y, hacts, rfl, rfl, (List.append_assoc ..).symm, hroom₂⟩)
  · obtain rfl : i₂ = y ++ i₁ := List.append_cancel_left (by
      rw [← hin₂, hin₁, List.append_assoc])
    obtain ⟨rfl, rfl, rfl⟩ | hacts := hfollows
    · exact .inl (by simp)
    · exact .inr (.inr ⟨x, y, hacts, rfl, rfl, (List.append_assoc ..).symm, hroom₁⟩)

/-- A step of the near program and one of the far program can be taken in either order. -/
theorem NearStep.commute {capacity : ℕ} {s t u : Link β ε ρ ε' ρ'} (ht : NearStep capacity s t)
    (hu : NearStep capacity s.swap u.swap) :
    ∃ v : Link β ε ρ ε' ρ', NearStep capacity t.swap v.swap ∧ NearStep capacity u v := by
  obtain ⟨x₁, y₁, hacts₁, hfar₁, hin₁, hout₁, hroom₁⟩ := ht
  obtain ⟨x₂, y₂, hacts₂, hfar₂, hin₂, hout₂, hroom₂⟩ := hu
  obtain ⟨p, q, o, i⟩ := s
  obtain ⟨p₁, q₁, o₁, i₁⟩ := t
  obtain ⟨p₂, q₂, o₂, i₂⟩ := u
  simp only [Link.swap] at *
  subst p₂ q₁ o₁ i₂ i o
  simp only [List.length_append] at hroom₁ hroom₂
  -- what one end sends is behind what the other end takes
  refine ⟨⟨p₁, q₂, o₂ ++ x₁, i₁ ++ x₂⟩, ?_, ?_⟩
  · refine ⟨x₂, y₂, hacts₂, rfl, by simp, rfl, ?_⟩
    simp only [List.length_append]
    omega
  · refine ⟨x₁, y₁, hacts₁, rfl, by simp, rfl, ?_⟩
    simp only [List.length_append]
    omega

/-- Two steps from one state lead to states with a common future. -/
theorem Step.diamond {capacity : ℕ} {s t u : Link β ε ρ ε' ρ'} (ht : Step capacity s t)
    (hu : Step capacity s u) :
    ∃ v, Relation.ReflGen (Step capacity) t v ∧ Steps capacity u v := by
  cases ht with
  | near ht =>
    cases hu with
    | near hu =>
      obtain rfl | htu | hut := ht.compare hu
      · exact ⟨t, .refl, .refl⟩
      · exact ⟨u, .single (.near htu), .refl⟩
      · exact ⟨t, .refl, .single (.near hut)⟩
    | far hu =>
      obtain ⟨v, htv, huv⟩ := ht.commute hu
      exact ⟨v, .single (.far htv), .single (.near huv)⟩
  | far ht =>
    cases hu with
    | near hu =>
      obtain ⟨v, huv, htv⟩ := hu.commute ht
      exact ⟨v, .single (.near htv), .single (.far huv)⟩
    | far hu =>
      obtain heq | htu | hut := ht.compare hu
      · obtain rfl : t = u := congrArg Link.swap heq
        exact ⟨t, .refl, .refl⟩
      · exact ⟨u, .single (.far htu), .refl⟩
      · exact ⟨t, .refl, .single (.far hut)⟩

/-! ### Every schedule ends -/

/-- A step takes one of the two programs closer to its end and leaves the other alone. -/
theorem Step.gameAdd {capacity : ℕ} {s t : Link β ε ρ ε' ρ'} (h : Step capacity s t) :
    Prod.GameAdd Script.Nearer Script.Nearer (t.near, t.far) (s.near, s.far) := by
  cases h with
  | near h =>
    obtain ⟨x, y, hacts, hfar, -⟩ := h
    rw [hfar]
    exact .fst ⟨x, y, hacts⟩
  | far h =>
    obtain ⟨x, y, hacts, hnear, -⟩ := h
    rw [show t.near = s.near from hnear]
    exact .snd ⟨x, y, hacts⟩

/-- No schedule goes on for ever. -/
theorem step_wellFounded (capacity : ℕ) :
    WellFounded fun t s : Link β ε ρ ε' ρ' => Step capacity s t :=
  Subrelation.wf Step.gameAdd
    (InvImage.wf (fun s : Link β ε ρ ε' ρ' => (s.near, s.far))
      (Script.nearer_wellFounded.prod_gameAdd Script.nearer_wellFounded))

/-- A sequence of states is not a schedule for ever. -/
theorem exists_not_step (capacity : ℕ) (run : ℕ → Link β ε ρ ε' ρ') :
    ∃ n, ¬Step capacity (run n) (run (n + 1)) := by
  obtain ⟨-, ⟨n, rfl⟩, hmin⟩ := (step_wellFounded capacity).has_min (Set.range run)
    (Set.range_nonempty run)
  exact ⟨n, hmin _ ⟨n + 1, rfl⟩⟩

/-- Two programs that are done take no step. -/
theorem not_step_of_done {capacity : ℕ} {f t : Link β ε ρ ε' ρ'} {r : ρ} {r' : ρ'}
    (hnear : f.near = .done r) (hfar : f.far = .done r') : ¬Step capacity f t := by
  intro h
  cases h with
  | near h =>
    obtain ⟨x, y, hacts, -⟩ := h
    rw [hnear] at hacts
    exact Script.not_acts_done hacts
  | far h =>
    obtain ⟨x, y, hacts, -⟩ := h
    rw [show f.swap.near = f.far from rfl, hfar] at hacts
    exact Script.not_acts_done hacts

/-- Where one schedule ends with both programs done, every schedule can be continued to that
end. -/
theorem Steps.to_end {capacity : ℕ} {s t f : Link β ε ρ ε' ρ'} {r : ρ} {r' : ρ'}
    (hend : Steps capacity s f) (hnear : f.near = .done r) (hfar : f.far = .done r')
    (hrun : Steps capacity s t) : Steps capacity t f := by
  obtain ⟨v, htv, hfv⟩ := Relation.church_rosser (fun _ _ _ hb hc => hb.diamond hc) hrun hend
  obtain rfl | ⟨u, hfu, -⟩ := Relation.ReflTransGen.cases_head hfv
  · exact htv
  · exact absurd hfu (not_step_of_done hnear hfar)

/-! ### Failures -/

/-- `t` is `s` but for programs that failed. -/
structure Shadow (s t : Link β ε ρ ε' ρ') : Prop where
  near : t.near = s.near ∨ ∃ error, t.near = .stop error
  far : t.far = s.far ∨ ∃ error, t.far = .stop error
  outgoing : t.outgoing = s.outgoing
  incoming : t.incoming = s.incoming

theorem Shadow.swap {s t : Link β ε ρ ε' ρ'} (h : Shadow s t) : Shadow s.swap t.swap :=
  ⟨h.far, h.near, h.incoming, h.outgoing⟩

/-- A step of a program that did not fail is one of the connection without failures. -/
theorem Shadow.nearStep {capacity : ℕ} {s t t' : Link β ε ρ ε' ρ'} (h : Shadow s t)
    (ht : NearStep capacity t t') : ∃ s', NearStep capacity s s' ∧ Shadow s' t' := by
  obtain ⟨x, y, hacts, hfar, hin, hout, hroom⟩ := ht
  obtain hnear | ⟨error, hnear⟩ := h.near
  · refine ⟨⟨t'.near, s.far, t'.outgoing, t'.incoming⟩,
      ⟨x, y, hnear ▸ hacts, rfl, ?_, ?_, hroom⟩, .inl rfl, ?_, rfl, rfl⟩
    · rw [← h.incoming, hin]
    · rw [← h.outgoing, hout]
    · rw [hfar]
      exact h.far
  · rw [hnear] at hacts
    exact absurd hacts Script.not_acts_stop

theorem Shadow.step {capacity : ℕ} {s t t' : Link β ε ρ ε' ρ'} (h : Shadow s t)
    (ht : Step capacity t t') : ∃ s', Step capacity s s' ∧ Shadow s' t' := by
  cases ht with
  | near ht =>
    obtain ⟨s', hs, hshadow⟩ := h.nearStep ht
    exact ⟨s', .near hs, hshadow⟩
  | far ht =>
    obtain ⟨s', hs, hshadow⟩ := h.swap.nearStep ht
    exact ⟨s'.swap, .far hs, hshadow.swap⟩

theorem Shadow.fault {s t t' : Link β ε ρ ε' ρ'} (h : Shadow s t) (ht : Fault t t') :
    Shadow s t' := by
  cases ht with
  | near hfails =>
    refine ⟨.inr ?_, h.far, h.outgoing, h.incoming⟩
    cases hfails with
    | write => exact ⟨_, rfl⟩
    | read => exact ⟨_, rfl⟩
  | far hfails =>
    refine ⟨h.near, .inr ?_, h.outgoing, h.incoming⟩
    cases hfails with
    | write => exact ⟨_, rfl⟩
    | read => exact ⟨_, rfl⟩

/-- A run with failures has gone through what a run without failures goes through. -/
theorem Run.exists_shadow {capacity : ℕ} {s t : Link β ε ρ ε' ρ'} (h : Run capacity s t) :
    ∃ u, Steps capacity s u ∧ Shadow u t := by
  induction h with
  | refl => exact ⟨s, .refl, .inl rfl, .inl rfl, rfl, rfl⟩
  | tail _ hlast ih =>
    obtain ⟨u, hu, hshadow⟩ := ih
    obtain hstep | hfault := hlast
    · obtain ⟨u', hu', hshadow'⟩ := hshadow.step hstep
      exact ⟨u', hu.tail hu', hshadow'⟩
    · exact ⟨u, hu, hshadow.fault hfault⟩

/-- A program that is done stays as it is. -/
theorem Steps.near_done {capacity : ℕ} {s t : Link β ε ρ ε' ρ'} {r : ρ}
    (h : Steps capacity s t) (hdone : s.near = .done r) : t.near = .done r := by
  induction h with
  | refl => exact hdone
  | tail _ hlast ih =>
    cases hlast with
    | near hstep =>
      obtain ⟨x, y, hacts, -⟩ := hstep
      rw [ih] at hacts
      exact absurd hacts Script.not_acts_done
    | far hstep =>
      obtain ⟨x, y, -, hkept, -⟩ := hstep
      exact Eq.trans hkept ih

/-- Also when calls fail at any time, the near program ends in no other way than with the
result of the schedule that ends. -/
theorem Run.near_result {capacity : ℕ} {s t f : Link β ε ρ ε' ρ'} {r result : ρ} {r' : ρ'}
    (hend : Steps capacity s f) (hnear : f.near = .done r) (hfar : f.far = .done r')
    (hrun : Run capacity s t) (hdone : t.near = .done result) : result = r := by
  obtain ⟨u, hu, hshadow⟩ := hrun.exists_shadow
  have hkept : u.near = .done result := by
    obtain hsame | ⟨error, hstop⟩ := hshadow.near
    · rw [← hsame, hdone]
    · cases hdone.symm.trans hstop
  have hlast := (hend.to_end hnear hfar hu).near_done hkept
  exact Script.done.inj (hlast.symm.trans hnear)

theorem Run.swap {capacity : ℕ} {s t : Link β ε ρ ε' ρ'} (h : Run capacity s t) :
    Run capacity s.swap t.swap := by
  refine h.lift Link.swap fun a b hstep => ?_
  obtain hstep | hfault := hstep
  · exact .inl hstep.swap
  · cases hfault with
    | near hfails => exact .inr (.far hfails)
    | far hfails => exact .inr (.near hfails)

/-- And so does the far program. -/
theorem Run.far_result {capacity : ℕ} {s t f : Link β ε ρ ε' ρ'} {r : ρ} {r' result : ρ'}
    (hend : Steps capacity s f) (hnear : f.near = .done r) (hfar : f.far = .done r')
    (hrun : Run capacity s t) (hdone : t.far = .done result) : result = r' :=
  Run.near_result (Steps.swap hend) hfar hnear hrun.swap hdone

/-! ### One schedule -/

/-- What fits is sent. -/
theorem steps_send {capacity : ℕ} {items out inc : List β} {error : ε} {next : Script β ε ρ}
    {q : Script β ε' ρ'} (hroom : (out ++ items).length ≤ capacity) :
    Steps capacity ⟨.write items error next, q, out, inc⟩ ⟨next, q, out ++ items, inc⟩ := by
  have hsent : Step capacity (⟨.write [] error next, q, out ++ items, inc⟩ : Link β ε ρ ε' ρ')
      ⟨next, q, out ++ items, inc⟩ :=
    .near ⟨[], [], .sent, rfl, rfl, (List.append_nil _).symm, hroom⟩
  by_cases hitems : items = []
  · subst hitems
    rw [List.append_nil] at hsent ⊢
    exact .single hsent
  · have hacts : (Script.write items error next).Acts items [] (.write [] error next) :=
      Script.acts_write_iff.mpr ⟨rfl, .inr ⟨hitems, [], (List.append_nil _).symm, rfl⟩⟩
    have hsend : Step capacity (⟨.write items error next, q, out, inc⟩ : Link β ε ρ ε' ρ')
        ⟨.write [] error next, q, out ++ items, inc⟩ :=
      .near ⟨items, [], hacts, rfl, rfl, rfl, hroom⟩
    exact .head hsend (.single hsent)

/-- What is there is taken. -/
theorem steps_recv {capacity n : ℕ} {items out inc : List β} {error : List β → ε}
    {next : List β → Script β ε ρ} {q : Script β ε' ρ'} (hroom : out.length ≤ capacity)
    (hlength : items.length = n) :
    Steps capacity ⟨.read n error next, q, out, items ++ inc⟩ ⟨next items, q, out, inc⟩ := by
  subst hlength
  by_cases hitems : items = []
  · subst hitems
    have hreceived : Step capacity (⟨.read 0 error next, q, out, inc⟩ : Link β ε ρ ε' ρ')
        ⟨next [], q, out, inc⟩ :=
      .near ⟨[], [], .received, rfl, rfl, (List.append_nil _).symm, hroom⟩
    exact .single hreceived
  · have hacts : (Script.read items.length error next).Acts [] items
        (.read 0 (fun rest => error (items ++ rest)) (fun rest => next (items ++ rest))) :=
      Script.acts_read_iff.mpr ⟨rfl, .inr ⟨hitems, 0, rfl, rfl⟩⟩
    have hrecv : Step capacity
        (⟨.read items.length error next, q, out, items ++ inc⟩ : Link β ε ρ ε' ρ')
        ⟨.read 0 (fun rest => error (items ++ rest)) (fun rest => next (items ++ rest)),
          q, out, inc⟩ :=
      .near ⟨[], items, hacts, rfl, rfl, (List.append_nil _).symm, hroom⟩
    have hreceived : Step capacity
        (⟨.read 0 (fun rest => error (items ++ rest)) (fun rest => next (items ++ rest)),
          q, out, inc⟩ : Link β ε ρ ε' ρ')
        ⟨next (items ++ []), q, out, inc⟩ :=
      .near ⟨[], [], .received, rfl, rfl, (List.append_nil _).symm, hroom⟩
    rw [List.append_nil] at hreceived
    exact .head hrecv (.single hreceived)

/-- Items pass from a program that writes to one that reads, however few fit into the pipe. -/
theorem steps_transfer {capacity n : ℕ} {items inc : List β} {error : ε} {next : Script β ε ρ}
    {error' : List β → ε'} {next' : List β → Script β ε' ρ'} (hcapacity : 1 ≤ capacity)
    (hinc : inc.length ≤ capacity) (hlength : items.length = n) :
    Steps capacity ⟨.write items error next, .read n error' next', [], inc⟩
      ⟨next, next' items, [], inc⟩ := by
  subst hlength
  induction items generalizing error' next' with
  | nil =>
    have hsent : Step capacity
        (⟨.write [] error next, .read 0 error' next', [], inc⟩ : Link β ε ρ ε' ρ')
        ⟨next, .read 0 error' next', [], inc⟩ :=
      .near ⟨[], [], .sent, rfl, rfl, rfl, Nat.zero_le _⟩
    have hreceived : Step capacity
        (⟨next, .read 0 error' next', [], inc⟩ : Link β ε ρ ε' ρ') ⟨next, next' [], [], inc⟩ :=
      .far ⟨[], [], .received, rfl, rfl, (List.append_nil _).symm, hinc⟩
    exact .head hsent (.single hreceived)
  | cons a items ih =>
    have hsend : Step capacity
        (⟨.write (a :: items) error next, .read (items.length + 1) error' next', [], inc⟩ :
          Link β ε ρ ε' ρ')
        ⟨.write items error next, .read (items.length + 1) error' next', [a], inc⟩ :=
      .near ⟨[a], [], .send (List.cons_ne_nil a []), rfl, rfl, rfl, hcapacity⟩
    have hacts : (Script.read (items.length + 1) error' next').Acts [] [a]
        (.read items.length (fun rest => error' (a :: rest)) (fun rest => next' (a :: rest))) := by
      rw [Nat.add_comm]
      exact .recv (List.cons_ne_nil a [])
    have htake : Step capacity
        (⟨.write items error next, .read (items.length + 1) error' next', [a], inc⟩ :
          Link β ε ρ ε' ρ')
        ⟨.write items error next, .read items.length (fun rest => error' (a :: rest))
          (fun rest => next' (a :: rest)), [], inc⟩ :=
      .far ⟨[], [a], hacts, rfl, rfl, (List.append_nil _).symm, hinc⟩
    exact .head hsend (.head htake ih)

end Link

end Dialogue
