import Strero.Lib.CString
import Mathlib.Data.Int.Notation

/-!
# Formatted scanning

The directives of `sscanf`, each a scanner of the text that is left. A format is
the sequence of its directives, and it fails with the first one that does not
match. A number beyond the range of `int` is kept as it is written.
-/

namespace Scanf

open CString

/-- One or more directives: the value converted and the text left after it. -/
abbrev Scanner (α : Type) := StateT (List UInt8) Option α

/-- `isspace` in the C locale. -/
def isSpace (c : UInt8) : Bool := c = 32 || (9 ≤ c && c ≤ 13)

/-- `isdigit`. -/
def isDigit (c : UInt8) : Bool := 48 ≤ c && c ≤ 57

/-- White space in a format: any white space in the text, also none. -/
def space : Scanner Unit := fun text => some ((), text.dropWhile isSpace)

/-- Ordinary characters in a format. -/
def literal (format : String) : Scanner Unit := fun text =>
  if ascii format <+: text then some ((), text.drop (ascii format).length) else none

/-- `%[…]`: the longest run of bytes that the set accepts, at least one and at
most the field width. -/
def set (width : Option ℕ) (accept : UInt8 → Bool) : Scanner (List UInt8) := fun text =>
  let field := match width with
    | some width => text.take width
    | none => text
  let run := field.takeWhile accept
  if run = [] then none else some (run, text.drop run.length)

/-- `%s`. -/
def word (width : Option ℕ) : Scanner (List UInt8) := do
  space
  set width fun c => !isSpace c

/-- The value of a run of decimal digits. -/
def decimal (digits : List UInt8) : ℤ := digits.foldl (fun n c => 10 * n + (c.toNat - 48 : ℤ)) 0

/-- `%d`: white space, a sign, and decimal digits. -/
def int : Scanner ℤ := fun text =>
  let number := text.dropWhile isSpace
  let unsigned (negative : Bool) (rest : List UInt8) : Option (ℤ × List UInt8) :=
    let digits := rest.takeWhile isDigit
    if digits = [] then none
    else some (if negative then -decimal digits else decimal digits, rest.drop digits.length)
  match number with
  | [] => none
  | c :: rest =>
    if c = '-'.toUInt8 then unsigned true rest
    else if c = '+'.toUInt8 then unsigned false rest
    else unsigned false number

/-- What a format converts in a text, where it matches to its end. -/
def Scanner.scan {α : Type} (format : Scanner α) (text : List UInt8) : Option α :=
  (format text).map Prod.fst

/-- `atoi`. -/
def atoi (text : List UInt8) : ℤ := (int.scan text).getD 0

/-! ### What the directives match -/

theorem dropWhile_isSpace_of_ne_nil {run : List UInt8} (hne : run ≠ [])
    (hrun : ∀ c ∈ run, isSpace c = false) (rest : List UInt8) :
    (run ++ rest).dropWhile isSpace = run ++ rest := by
  cases run with
  | nil => exact absurd rfl hne
  | cons c run => rw [List.cons_append, List.dropWhile_cons_of_neg (by simp [hrun c])]

/-- A word with white space after it is read up to the field width. -/
theorem word_append {width : ℕ} (hwidth : 0 < width) {run : List UInt8} (hne : run ≠ [])
    (hrun : ∀ c ∈ run, isSpace c = false) {c : UInt8} (hspace : isSpace c = true)
    (rest : List UInt8) :
    word (some width) (run ++ c :: rest) =
      some (run.take width, (run ++ c :: rest).drop (run.take width).length) := by
  have hfield : ((run ++ c :: rest).take width).takeWhile (fun c => !isSpace c) =
      run.take width := by
    rw [List.take_append, List.takeWhile_append_of_pos]
    · cases width - run.length with
      | zero => simp
      | succ n => simp [hspace]
    · intro b hb
      simp [hrun b (List.mem_of_mem_take hb)]
  have htake : run.take width ≠ [] := by
    rw [ne_eq, List.take_eq_nil_iff]
    rintro (hzero | hnil)
    · omega
    · exact hne hnil
  have hset : set (some width) (fun c => !isSpace c) (run ++ c :: rest) =
      some (run.take width, (run ++ c :: rest).drop (run.take width).length) := by
    unfold set
    dsimp only
    rw [hfield, if_neg htake]
  change (space (run ++ c :: rest)).bind (fun r => set (some width) (fun c => !isSpace c) r.2) = _
  rw [space, dropWhile_isSpace_of_ne_nil hne hrun]
  exact hset

/-- A text without white space is one word. -/
theorem word_eq {text : List UInt8} (hne : text ≠ []) (htext : ∀ c ∈ text, isSpace c = false) :
    word none text = some (text, []) := by
  have hrun : text.takeWhile (fun c => !isSpace c) = text :=
    List.takeWhile_eq_self_iff.mpr fun c hc => by simp [htext c hc]
  have hspace : text.dropWhile isSpace = text := by
    simpa using dropWhile_isSpace_of_ne_nil hne htext []
  change (space text).bind (fun r => set none (fun c => !isSpace c) r.2) = _
  rw [space, Option.bind_some, hspace, set]
  dsimp only
  rw [hrun, if_neg hne, List.drop_length]

@[simp] theorem word_nil (width : Option ℕ) : word width [] = none := by
  cases width <;> simp [word, space, set, bind, StateT.bind]

/-- A run of any length, and the text from its end on. -/
theorem set_none_eq (accept : UInt8 → Bool) (text : List UInt8) :
    set none accept text = if text.takeWhile accept = [] then none
      else some (text.takeWhile accept, text.dropWhile accept) := by
  have hdrop : text.drop (text.takeWhile accept).length = text.dropWhile accept := by
    generalize htake : text.takeWhile accept = run
    have hsplit : run ++ text.dropWhile accept = text :=
      htake ▸ List.takeWhile_append_dropWhile
    rw [← hsplit, List.drop_left, hsplit]
  unfold set
  dsimp only
  rw [hdrop]

/-- A text with anything but white space in it has a word. -/
theorem word_isSome {width : ℕ} (hwidth : 0 < width) {text : List UInt8} {c : UInt8}
    (hmem : c ∈ text) (hc : isSpace c = false) : (word (some width) text).isSome = true := by
  have hne : text.dropWhile isSpace ≠ [] := by
    rw [ne_eq, List.dropWhile_eq_nil_iff]
    exact fun hall => absurd (hall c hmem) (by simp [hc])
  obtain ⟨b, tail, htail⟩ := List.exists_cons_of_ne_nil hne
  have hb : isSpace b = false := by
    have hhead := List.head_dropWhile_not isSpace hne
    simpa [htail] using hhead
  change ((space text).bind fun r => set (some width) (fun c => !isSpace c) r.2).isSome = true
  obtain ⟨n, rfl⟩ := Nat.exists_eq_succ_of_ne_zero hwidth.ne'
  rw [space, Option.bind_some, set, htail]
  simp [hb]

theorem isSpace_of_isDigit {c : UInt8} (h : isDigit c = true) : isSpace c = false := by
  simp only [isDigit, isSpace] at h ⊢
  grind

/-- The text does not go on with a digit. -/
def EndsNumber (rest : List UInt8) : Prop := ∀ c ∈ rest.head?, isDigit c = false

/-- The run of digits ends where the number ends. -/
theorem takeWhile_isDigit {run rest : List UInt8} (hdigits : ∀ c ∈ run, isDigit c = true)
    (hrest : EndsNumber rest) : (run ++ rest).takeWhile isDigit = run := by
  have hstop : rest.takeWhile isDigit = [] := by
    cases rest with
    | nil => rfl
    | cons c rest => rw [List.takeWhile_cons_of_neg (by simp [hrest c rfl])]
  rw [List.takeWhile_append_of_pos hdigits, hstop, List.append_nil]

/-- Decimal digits are read as their value, if no digit follows. -/
theorem int_digits {run rest : List UInt8} (hne : run ≠ [])
    (hdigits : ∀ c ∈ run, isDigit c = true) (hrest : EndsNumber rest) :
    int (run ++ rest) = some (decimal run, rest) := by
  have hrun := takeWhile_isDigit hdigits hrest
  have hspace : (run ++ rest).dropWhile isSpace = run ++ rest :=
    dropWhile_isSpace_of_ne_nil hne (fun b hb => isSpace_of_isDigit (hdigits b hb)) _
  obtain ⟨d, tail, rfl⟩ := List.exists_cons_of_ne_nil hne
  have hsign : d ≠ '-'.toUInt8 ∧ d ≠ '+'.toUInt8 := by
    have hdigit := hdigits d List.mem_cons_self
    constructor <;> rintro rfl <;> exact absurd hdigit (by decide)
  unfold int
  dsimp only
  rw [hspace]
  dsimp only [List.cons_append] at hrun ⊢
  rw [if_neg hsign.1, if_neg hsign.2]
  simp only [hrun]
  simp

/-- Decimal digits with something else after them are read as their value. -/
theorem int_append {digits : List UInt8} (hne : digits ≠ [])
    (hdigits : ∀ c ∈ digits, isDigit c = true) {c : UInt8} (hc : isDigit c = false)
    (rest : List UInt8) : int (digits ++ c :: rest) = some (decimal digits, c :: rest) :=
  int_digits hne hdigits fun b hb => by
    obtain rfl := Option.some.inj hb
    exact hc

end Scanf
