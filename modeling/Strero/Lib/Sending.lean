import Mathlib.Data.List.Basic
import Mathlib.Data.Nat.Notation

/-!
# Sending over a connection

A call of `send` takes some of the bytes that it is offered, or none. A sender that offers the
rest again gets everything through; one that goes on regardless does so only over a connection
that takes every part at once.
-/

namespace Sending

variable {α : Type*}

/-- How a call of `send` ends: with room for some bytes, without room for the time being, or with
an error. -/
inductive Result
  | sent (room : ℕ)
  | again
  | failed
deriving DecidableEq

/-- The bytes that a connection has taken, and how the next calls end. -/
structure Connection (α : Type*) where
  written : List α
  results : List Result
deriving DecidableEq

/-- A call of `send`, which does not return without a result. -/
def Connection.send (connection : Connection α) (data : List α) :
    Option (Result × Connection α) :=
  match connection.results with
  | [] => none
  | .sent room :: results =>
    some (.sent (min room data.length), ⟨connection.written ++ data.take room, results⟩)
  | .again :: results => some (.again, ⟨connection.written, results⟩)
  | .failed :: results => some (.failed, ⟨connection.written, results⟩)

/-- A negative value of `send`. -/
def Result.isError : Result → Bool
  | .sent _ => false
  | .again => true
  | .failed => true

/-- A loop that sends what is left, until a call fails or takes nothing. It tells whether it
has come to an end without a failure. -/
def sendLoop (written : List α) : List α → List Result → Option (Bool × Connection α)
  | [], results => some (true, ⟨written, results⟩)
  | _ :: _, [] => none
  | byte :: data, .sent room :: results =>
    if room = 0 then some (true, ⟨written, results⟩)
    else sendLoop (written ++ (byte :: data).take room) ((byte :: data).drop room) results
  | byte :: data, .again :: results => sendLoop written (byte :: data) results
  | _ :: _, .failed :: results => some (false, ⟨written, results⟩)

/-- Parts are sent one by one, until there is an error. -/
def Connection.sendParts (connection : Connection α) : List (List α) → Option (Connection α)
  | [] => some connection
  | part :: parts => (connection.send part).bind fun sent =>
    if sent.1.isError then some sent.2 else sent.2.sendParts parts

/-- Each of at least `n` calls takes some bytes. -/
structure Progresses (results : List Result) (n : ℕ) : Prop where
  enough : n ≤ results.length
  moves : ∀ result ∈ results, ∃ room, 0 < room ∧ result = .sent room

/-- Each call takes the whole of its part. -/
def TakesAll (results : List Result) (parts : List (List α)) : Prop :=
  ∀ (i : ℕ) (part : List α), parts[i]? = some part →
    ∃ room, results[i]? = some (Result.sent room) ∧ part.length ≤ room

variable {results : List Result} {written data : List α} {parts : List (List α)} {n room : ℕ}

theorem progresses_cons {result : Result} (h : Progresses (result :: results) (n + 1)) :
    Progresses results n :=
  ⟨Nat.le_of_succ_le_succ h.enough, fun other hother =>
    h.moves other (List.mem_cons_of_mem _ hother)⟩

theorem Progresses.mono {m : ℕ} (h : Progresses results n) (hle : m ≤ n) : Progresses results m :=
  ⟨Nat.le_trans hle h.enough, h.moves⟩

/-- Some of the calls are over. -/
theorem Progresses.exists_cons (h : Progresses results (n + 1)) :
    ∃ room rest, 0 < room ∧ results = .sent room :: rest ∧ Progresses rest n := by
  cases results with
  | nil => exact absurd h.enough (Nat.not_succ_le_zero n)
  | cons result rest =>
    obtain ⟨room, hroom, rfl⟩ := h.moves result List.mem_cons_self
    exact ⟨room, rest, hroom, rfl, progresses_cons h⟩

/-- The loop sends everything. -/
theorem sendLoop_of_progresses (written : List α)
    (h : Progresses results (data.length + n)) :
    ∃ rest, sendLoop written data results = some (true, ⟨written ++ data, rest⟩) ∧
      Progresses rest n := by
  induction results generalizing written data with
  | nil =>
    have hnone := h.enough
    rw [List.length_nil] at hnone
    obtain rfl : data = [] := List.eq_nil_of_length_eq_zero (by omega)
    exact ⟨[], by rw [sendLoop, List.append_nil], h.mono (by omega)⟩
  | cons result results ih =>
    cases data with
    | nil => exact ⟨result :: results, by rw [sendLoop, List.append_nil], h.mono (by omega)⟩
    | cons byte data =>
      obtain ⟨room, hroom, rfl⟩ := h.moves result List.mem_cons_self
      rw [List.length_cons] at h
      have hrest : Progresses results (((byte :: data).drop room).length + n) :=
        (progresses_cons (n := data.length + n) (h.mono (by omega))).mono (by
          rw [List.length_drop, List.length_cons]
          omega)
      rw [sendLoop, if_neg (by omega)]
      obtain ⟨rest, hsent, hprogress⟩ := ih (written ++ (byte :: data).take room) hrest
      rw [List.append_assoc, List.take_append_drop] at hsent
      exact ⟨rest, hsent, hprogress⟩

theorem takesAll_nil : TakesAll results ([] : List (List α)) := fun i part h => by
  rw [List.getElem?_nil] at h
  cases h

/-- The first call takes the first part. -/
theorem takesAll_cons {part : List α} :
    TakesAll (.sent room :: results) (part :: parts) ↔
      part.length ≤ room ∧ TakesAll results parts := by
  constructor
  · intro h
    refine ⟨?_, fun i other hother => h (i + 1) other hother⟩
    obtain ⟨first, hfirst, hle⟩ := h 0 part rfl
    rw [List.getElem?_cons_zero, Option.some_inj, Result.sent.injEq] at hfirst
    exact hfirst ▸ hle
  · rintro ⟨hle, hrest⟩ i other hother
    cases i with
    | zero =>
      rw [List.getElem?_cons_zero, Option.some_inj] at hother
      exact ⟨room, rfl, hother ▸ hle⟩
    | succ i => exact hrest i other hother

/-- The calls take no more than the parts. -/
theorem exists_sendParts (written : List α) (h : Progresses results parts.length) :
    ∃ connection, (Connection.mk written results).sendParts parts = some connection ∧
      connection.written.length ≤ written.length + parts.flatten.length ∧
      (connection.written = written ++ parts.flatten ↔ TakesAll results parts) := by
  induction parts generalizing results written with
  | nil => exact ⟨_, rfl, Nat.le_add_right _ _, iff_of_true (List.append_nil _).symm takesAll_nil⟩
  | cons part parts ih =>
    obtain ⟨room, rest, -, rfl, hrest⟩ := h.exists_cons
    obtain ⟨connection, hconnection, hlength, hwhole⟩ := ih (written ++ part.take room) hrest
    refine ⟨connection, hconnection, ?_, ?_⟩
    · rw [List.length_append, List.length_take] at hlength
      rw [List.flatten_cons, List.length_append]
      omega
    · rw [takesAll_cons, List.flatten_cons, ← List.append_assoc]
      by_cases hle : part.length ≤ room
      · rw [List.take_of_length_le hle] at hwhole
        rw [hwhole]
        exact (and_iff_right hle).symm
      · refine iff_of_false (fun heq => ?_) fun hall => hle hall.1
        rw [heq] at hlength
        simp only [List.length_append, List.length_take] at hlength
        omega

end Sending
