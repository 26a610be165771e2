import Mathlib.Logic.Function.Basic

/-!
# Programs that make calls

A program asks its surroundings and goes on by what they answer. A protocol says which calls
a program may make, and a program that follows it does so whatever the answers are. Threads
that share one device make their calls one at a time, in any order.
-/

namespace Programs

/-- A program that ends with a value, or makes a call and goes on with the answer. -/
inductive Program (Call : Type) (Answer : Call → Type) (α : Type)
  | done (value : α)
  | call (made : Call) (next : Answer made → Program Call Answer α)

variable {Call : Type} {Answer : Call → Type} {α β Mode σ ι : Type}

/-- A second program that starts with the value of the first. -/
def Program.bind : Program Call Answer α → (α → Program Call Answer β) → Program Call Answer β
  | .done value, rest => rest value
  | .call made next, rest => .call made fun answer => (next answer).bind rest

/-- Which calls a program may make in each mode, and the mode after the answer. -/
structure Protocol (Call : Type) (Answer : Call → Type) (Mode : Type) where
  allows : Mode → Call → Prop
  after : Mode → (made : Call) → Answer made → Mode

/-- The program makes allowed calls only, whatever it is answered, and ends as it is said. -/
def Follows (protocol : Protocol Call Answer Mode) (post : Mode → α → Prop) :
    Mode → Program Call Answer α → Prop
  | mode, .done value => post mode value
  | mode, .call made next => protocol.allows mode made ∧
      ∀ answer, Follows protocol post (protocol.after mode made answer) (next answer)

section Rules

variable {protocol : Protocol Call Answer Mode} {post : Mode → α → Prop} {mode : Mode}

@[simp] theorem follows_done {value : α} :
    Follows protocol post mode (.done value) ↔ post mode value := Iff.rfl

@[simp] theorem follows_call {made : Call} {next : Answer made → Program Call Answer α} :
    Follows protocol post mode (.call made next) ↔ protocol.allows mode made ∧
      ∀ answer, Follows protocol post (protocol.after mode made answer) (next answer) := Iff.rfl

/-- The rule of sequence: the second program takes over where the first has ended. -/
theorem Follows.bind {middle : Mode → α → Prop} {last : Mode → β → Prop}
    {program : Program Call Answer α} {rest : α → Program Call Answer β}
    (hfirst : Follows protocol middle mode program)
    (hrest : ∀ mode value, middle mode value → Follows protocol last mode (rest value)) :
    Follows protocol last mode (program.bind rest) := by
  induction program generalizing mode with
  | done value => exact hrest mode value hfirst
  | call made next ih =>
    obtain ⟨hallowed, hnext⟩ := hfirst
    exact ⟨hallowed, fun answer => ih answer (hnext answer)⟩

end Rules

/-! ### Threads that share a device -/

/-- The device, what each thread still has to do and its mode. -/
structure Threads (Call : Type) (Answer : Call → Type) (α Mode σ ι : Type) where
  device : σ
  rest : ι → Program Call Answer α
  mode : ι → Mode

variable {protocol : ι → Protocol Call Answer Mode} {post : Mode → α → Prop}
  {s : Threads Call Answer α Mode σ ι} {i : ι}

/-- Each thread follows its protocol from where it is. -/
def Threads.AllFollow (protocol : ι → Protocol Call Answer Mode) (post : Mode → α → Prop)
    (s : Threads Call Answer α Mode σ ι) : Prop :=
  ∀ i, Follows (protocol i) post (s.mode i) (s.rest i)

/-- The call that a thread makes is one that its protocol allows. -/
theorem Threads.AllFollow.allows (h : s.AllFollow protocol post) {made : Call}
    {next : Answer made → Program Call Answer α} (hcall : s.rest i = .call made next) :
    (protocol i).allows (s.mode i) made := by
  have hthread := h i
  rw [hcall] at hthread
  exact hthread.1

variable [DecidableEq ι] {respond : σ → (made : Call) → Answer made × σ}

/-- A thread makes its next call. One that has ended does nothing more. -/
def Threads.step (respond : σ → (made : Call) → Answer made × σ)
    (protocol : ι → Protocol Call Answer Mode) (s : Threads Call Answer α Mode σ ι) (i : ι) :
    Threads Call Answer α Mode σ ι :=
  match s.rest i with
  | .done _ => s
  | .call made next =>
    let answered := respond s.device made
    { device := answered.2
      rest := Function.update s.rest i (next answered.1)
      mode := Function.update s.mode i ((protocol i).after (s.mode i) made answered.1) }

theorem Threads.step_of_done {value : α} (h : s.rest i = .done value) :
    s.step respond protocol i = s := by
  unfold step
  rw [h]

theorem Threads.step_of_call {made : Call} {next : Answer made → Program Call Answer α}
    (h : s.rest i = .call made next) :
    s.step respond protocol i =
      { device := (respond s.device made).2
        rest := Function.update s.rest i (next (respond s.device made).1)
        mode := Function.update s.mode i
          ((protocol i).after (s.mode i) made (respond s.device made).1) } := by
  unfold step
  rw [h]

/-- Threads that follow their protocols go on doing so, in whatever order they make their calls. -/
theorem Threads.AllFollow.step (h : s.AllFollow protocol post) :
    (s.step respond protocol i).AllFollow protocol post := by
  have hthread := h i
  cases hrest : s.rest i with
  | done value => rwa [step_of_done hrest]
  | call made next =>
    rw [hrest] at hthread
    rw [step_of_call hrest]
    intro j
    by_cases hj : j = i
    · subst hj
      simpa using hthread.2 _
    · simpa [Function.update_of_ne hj] using h j

end Programs
