import Strero.Lib.CString

/-!
# Formatted printing

What `snprintf` prints for a format whose arguments are strings. A text that is used as a format
is printed as it stands exactly if there is no percent sign in it: with one it gets shorter, or
asks for an argument that there is not.
-/

namespace Printf

open CString

/-- `%`, which starts a directive. -/
def percent : UInt8 := '%'.toUInt8

/-- What a format prints: itself, with `%s` replaced by the next argument and `%%` by one percent
sign. There is no value for a `%s` without an argument, and none for any other directive. -/
def format : List UInt8 → List (List UInt8) → Option (List UInt8)
  | [], _ => some []
  | [c], _ => if c = percent then none else some [c]
  | c :: d :: rest, args =>
    if c ≠ percent then (format (d :: rest) args).map (c :: ·)
    else if d = percent then (format rest args).map (percent :: ·)
    else if d = 's'.toUInt8 then args.head?.bind fun arg =>
      (format rest args.tail).map (arg ++ ·)
    else none

/-- `snprintf`: the string in an array of `size` bytes. -/
def snprintf (size : ℕ) (text : List UInt8) (args : List (List UInt8)) : Option (List UInt8) :=
  (format text args).map (List.take (size - 1))

variable {text rest arg out : List UInt8} {args : List (List UInt8)}

theorem format_cons {c : UInt8} (h : c ≠ percent) :
    format (c :: rest) args = (format rest args).map (c :: ·) := by
  cases rest with
  | nil =>
    rw [format, format, if_neg h]
    rfl
  | cons d rest => rw [format, if_pos h]

/-- Text without directives is printed as it stands. -/
theorem format_append (h : percent ∉ text) :
    format (text ++ rest) args = (format rest args).map (text ++ ·) := by
  induction text with
  | nil => simp
  | cons c text ih =>
    rw [List.mem_cons, not_or] at h
    rw [List.cons_append, format_cons (Ne.symm h.1), ih h.2, Option.map_map]
    rfl

theorem format_string :
    format (ascii "%s" ++ rest) (arg :: args) = (format rest args).map (arg ++ ·) := by
  have hpercent : ascii "%s" ++ rest = percent :: 's'.toUInt8 :: rest := rfl
  rw [hpercent, format, if_neg (by decide), if_neg (by decide), if_pos rfl]
  rfl

/-- Without arguments a format does not print more than itself, and less if it has directives. -/
theorem length_format_le (h : format text [] = some out) :
    out.length ≤ text.length ∧ (percent ∈ text → out.length < text.length) := by
  induction hlength : text.length using Nat.strong_induction_on generalizing text out with
  | _ n ih =>
    subst hlength
    rcases text with _ | ⟨c, rest⟩
    · obtain rfl := Option.some.inj h
      exact ⟨Nat.le_refl _, nofun⟩
    by_cases hc : c = percent
    · subst hc
      rcases rest with _ | ⟨d, rest⟩
      · rw [format, if_pos rfl] at h
        cases h
      -- Two percent signs become one, and `%s` has no argument.
      rw [format, if_neg (not_not.mpr rfl)] at h
      by_cases hd : d = percent
      · rw [if_pos hd] at h
        obtain ⟨last, hlast, rfl⟩ := Option.map_eq_some_iff.mp h
        have hshorter : rest.length < (percent :: d :: rest).length := by
          simp only [List.length_cons]
          omega
        have hle := (ih rest.length hshorter hlast rfl).1
        simp only [List.length_cons]
        omega
      · rw [if_neg hd, List.head?_nil, Option.bind_none, ite_self] at h
        cases h
    · rw [format_cons hc] at h
      obtain ⟨last, hlast, rfl⟩ := Option.map_eq_some_iff.mp h
      obtain ⟨hle, hlt⟩ := ih rest.length (by simp) hlast rfl
      rw [List.length_cons, List.length_cons]
      refine ⟨Nat.succ_le_succ hle, fun hmem => Nat.succ_lt_succ (hlt ?_)⟩
      exact (List.mem_cons.mp hmem).resolve_left (Ne.symm hc)

/-- A text is printed as it stands exactly if it has no percent sign. -/
theorem format_eq_self_iff : format text [] = some text ↔ percent ∉ text := by
  constructor
  · exact fun h hmem => absurd ((length_format_le h).2 hmem) (Nat.lt_irrefl _)
  · intro h
    rw [← List.append_nil text, format_append h, format]
    rfl

end Printf
