import Mathlib.Data.List.Forall2
import Strero.Lib.Json

/-!
# Writing JSON

Texts of values that are put together from those of their parts, and what is read of them. What
is known of the parts at the beginning is read of the whole, too, whatever the text goes on with.
-/

namespace Json

open CString Scanf

/-! ### Texts -/

/-- A string in quotes, as it is. -/
def stringText (s : List UInt8) : List UInt8 := quote :: (s ++ [quote])

def boolText (b : Bool) : List UInt8 := if b then ascii "true" else ascii "false"

/-- What follows on an element: the other elements, with commas in front, and the bracket. -/
def elementsEnd : List (List UInt8) → List UInt8
  | [] => [closeBracket]
  | element :: elements => comma :: (element ++ elementsEnd elements)

/-- Elements with commas between them, in brackets. -/
def arrayText : List (List UInt8) → List UInt8
  | [] => [openBracket, closeBracket]
  | element :: elements => openBracket :: (element ++ elementsEnd elements)

/-- A member to be written, and the value that its text stands for. -/
structure Field where
  key : List UInt8
  text : List UInt8
  value : Value

def Field.written (f : Field) : List UInt8 := stringText f.key ++ colon :: f.text

def Field.member (f : Field) : List UInt8 × Value := (f.key, f.value)

/-! Members of each kind of value. -/

def Field.ofString (key s : List UInt8) : Field := ⟨key, stringText s, .string s⟩

def Field.ofBool (key : List UInt8) (b : Bool) : Field := ⟨key, boolText b, .bool b⟩

def Field.ofInt (key : List UInt8) (n : ℤ) : Field := ⟨key, printInt n, .number (printInt n)⟩

def Field.ofArray (key : List UInt8) (elements : List (List UInt8 × Value)) : Field :=
  ⟨key, arrayText (elements.map Prod.fst), .array (elements.map Prod.snd)⟩

/-- What follows on a member: the other members, with commas in front, and the brace. -/
def membersEnd : List Field → List UInt8
  | [] => [closeBrace]
  | f :: fields => comma :: (f.written ++ membersEnd fields)

/-- Members with commas between them, in braces. -/
def objectText : List Field → List UInt8
  | [] => [openBrace, closeBrace]
  | f :: fields => openBrace :: (f.written ++ membersEnd fields)

def Field.ofObject (key : List UInt8) (fields : List Field) : Field :=
  ⟨key, objectText fields, .object (fields.map Field.member)⟩

/-- The characters that a value may stand before. -/
def Ends (c : UInt8) : Prop := c = comma ∨ c = closeBracket ∨ c = closeBrace

/-- A text stands for a value wherever a value may stand. -/
def Stands (text : List UInt8) (v : Value) : Prop :=
  ∀ c rest, Ends c → Reads .value (text ++ c :: rest) v (c :: rest)

/-- A text stands for a value whatever comes behind it. -/
def Closed (text : List UInt8) (v : Value) : Prop := ∀ rest, Reads .value (text ++ rest) v rest

theorem Closed.stands {text : List UInt8} {v : Value} (h : Closed text v) : Stands text v :=
  fun c rest _ => h (c :: rest)

/-- A text that needs nothing behind it is a JSON text. -/
theorem Closed.text {text : List UInt8} {v : Value} (h : Closed text v) : Text text v :=
  ⟨[], by simpa using h [], rfl⟩

/-- The name is plain, and the text stands for the value. -/
structure Field.Sound (f : Field) : Prop where
  key : Plain f.key
  text : Stands f.text f.value

/-! ### Parts -/

variable {text rest : List UInt8} {v : Value}

theorem closed_string {s : List UInt8} (h : Plain s) : Closed (stringText s) (.string s) := by
  intro rest
  have htext : skipBlank (stringText s ++ rest) = quote :: (s ++ quote :: rest) := by
    rw [stringText, List.cons_append, skipBlank_cons (by decide), List.append_assoc]
    rfl
  exact .string htext (chars_of_plain h rest)

theorem closed_bool (b : Bool) : Closed (boolText b) (.bool b) := by
  intro rest
  cases b with
  | true => exact .scalar rfl
  | false => exact .scalar rfl

/-- A number but zero does not begin with a zero. -/
theorem head_digits_ne {n : ℕ} (h : 0 < n) : (digits n).head? ≠ some '0'.toUInt8 := by
  induction n using Nat.strongRecOn with
  | ind n ih =>
    rw [digits_eq]
    split
    · rename_i hsmall
      have hdigit : ∀ d < 10, 0 < d → [digitByte (d % 10)].head? ≠ some '0'.toUInt8 := by decide
      exact hdigit n hsmall h
    · rename_i hlarge
      obtain ⟨c, hc⟩ := Option.ne_none_iff_exists'.mp
        (mt List.head?_eq_none_iff.mp (digits_ne_nil (n / 10)))
      have hfirst := ih (n / 10) (by omega) (by omega)
      rw [List.head?_append, hc]
      rw [hc] at hfirst
      exact hfirst

theorem integerEnd_digits (n : ℕ) (hrest : EndsNumber rest) :
    integerEnd (digits n ++ rest) = some rest := by
  rcases Nat.eq_zero_or_pos n with rfl | hpos
  · rfl
  · have hhead := head_digits_ne hpos
    have hne := digits_ne_nil n
    have hrun := takeWhile_isDigit (fun c (hc : c ∈ digits n) => isDigit_of_mem_digits hc) hrest
    have hbehind : (digits n ++ rest).dropWhile isDigit = rest := by
      have hsplit := List.takeWhile_append_dropWhile (p := isDigit) (l := digits n ++ rest)
      rw [hrun] at hsplit
      exact List.append_cancel_left hsplit
    have hend : digitsEnd (digits n ++ rest) = some rest := by
      unfold digitsEnd
      rw [hrun, if_neg hne, hbehind]
    cases hdigits : digits n with
    | nil => exact absurd hdigits hne
    | cons c run =>
      rw [hdigits] at hend hhead
      have hzero : c ≠ '0'.toUInt8 := fun heq => hhead (congrArg some heq)
      rw [List.cons_append] at hend ⊢
      rw [integerEnd, if_neg hzero, hend]

/-- What `%d` prints is a number. -/
theorem numberEnd_printInt (n : ℤ) {c : UInt8} (hc : Ends c) :
    numberEnd (printInt n ++ c :: rest) = some (c :: rest) := by
  have hdigit : EndsNumber (c :: rest) := by
    intro b hb
    obtain rfl := Option.some.inj hb
    rcases hc with rfl | rfl | rfl <;> rfl
  have htail : (fractionEnd (c :: rest)).bind exponentEnd = some (c :: rest) := by
    rcases hc with rfl | rfl | rfl <;> rfl
  rcases Int.lt_or_le n 0 with hneg | hpos
  · have hprint : printInt n = '-'.toUInt8 :: digits n.natAbs := by
      rw [printInt, if_pos hneg]
      rfl
    unfold numberEnd
    rw [hprint, List.cons_append]
    dsimp only
    rw [if_pos rfl, integerEnd_digits _ hdigit]
    exact htail
  · obtain ⟨m, rfl⟩ := Int.eq_ofNat_of_zero_le hpos
    have hint := integerEnd_digits m hdigit
    rw [printInt_natCast]
    unfold numberEnd
    cases hdigits : digits m with
    | nil => exact absurd hdigits (digits_ne_nil m)
    | cons d run =>
      have hd : isDigit d = true := isDigit_of_mem_digits (n := m) (by rw [hdigits]; simp)
      have hminus : d ≠ '-'.toUInt8 := by
        rintro rfl
        exact absurd hd (by decide)
      rw [hdigits, List.cons_append] at hint
      rw [List.cons_append]
      dsimp only
      rw [if_neg hminus, hint]
      exact htail

/-- A number begins with a digit or a sign. -/
theorem printInt_cons (n : ℤ) :
    ∃ c run, printInt n = c :: run ∧ (isDigit c = true ∨ c = '-'.toUInt8) := by
  rcases Int.lt_or_le n 0 with hneg | hpos
  · refine ⟨'-'.toUInt8, digits n.natAbs, ?_, .inr rfl⟩
    rw [printInt, if_pos hneg]
    rfl
  · obtain ⟨m, rfl⟩ := Int.eq_ofNat_of_zero_le hpos
    rw [printInt_natCast]
    cases hdigits : digits m with
    | nil => exact absurd hdigits (digits_ne_nil m)
    | cons c run =>
      exact ⟨c, run, rfl, .inl (isDigit_of_mem_digits (n := m) (by rw [hdigits]; simp))⟩

/-- A number has no characters that need an escape. -/
theorem plain_printInt (n : ℤ) : Plain (printInt n) := by
  have hdigits (m : ℕ) : Plain (digits m) := by
    intro c hc
    have hdigit : isDigit c = true := isDigit_of_mem_digits hc
    rw [isPlain_iff]
    revert hdigit
    unfold isDigit quote backslash
    grind
  rcases Int.lt_or_le n 0 with hneg | hpos
  · rw [printInt, if_pos hneg]
    exact plain_cons.mpr ⟨rfl, hdigits n.natAbs⟩
  · obtain ⟨m, rfl⟩ := Int.eq_ofNat_of_zero_le hpos
    rw [printInt_natCast]
    exact hdigits m

theorem stands_int (n : ℤ) : Stands (printInt n) (.number (printInt n)) := by
  intro c rest hc
  have hend : numberEnd (printInt n ++ c :: rest) = some (c :: rest) := numberEnd_printInt n hc
  obtain ⟨d, run, hprint, hd⟩ := printInt_cons n
  have hblank : isBlank d = false := by
    rcases hd with hdigit | rfl
    · revert hdigit
      unfold isDigit isBlank
      grind
    · rfl
  have hletters (letters : String) (first : UInt8) (more : List UInt8)
      (hascii : ascii letters = first :: more) (hfirst : isDigit first = false)
      (hminus : first ≠ '-'.toUInt8) : ¬ascii letters <+: printInt n ++ c :: rest := by
    rw [hascii, hprint, List.cons_append, List.cons_prefix_cons]
    rintro ⟨rfl, -⟩
    rcases hd with hdigit | rfl
    · exact absurd (hfirst.symm.trans hdigit) Bool.false_ne_true
    · exact hminus rfl
  refine .scalar ?_
  rw [show skipBlank (printInt n ++ c :: rest) = printInt n ++ c :: rest by
    rw [hprint, List.cons_append, skipBlank_cons hblank]]
  unfold readScalar
  rw [if_neg (hletters "null" _ _ rfl (by decide) (by decide)),
    if_neg (hletters "true" _ _ rfl (by decide) (by decide)),
    if_neg (hletters "false" _ _ rfl (by decide) (by decide)), hend]
  simp

/-! ### Arrays and objects -/

theorem reads_elements {text : List UInt8} {v : Value} {texts : List (List UInt8)} {vs : List Value}
    (hv : Stands text v) (h : List.Forall₂ Stands texts vs) (rest : List UInt8) :
    Reads .elements (text ++ (elementsEnd texts ++ rest)) (.array (v :: vs)) rest := by
  induction h generalizing text v with
  | nil =>
    exact .lastElement (hv closeBracket rest (.inr (.inl rfl))) (skipBlank_cons (by decide) rest)
  | @cons text' v' texts vs hv' h ih =>
    have hfirst := hv comma (text' ++ (elementsEnd texts ++ rest)) (.inl rfl)
    rw [elementsEnd, List.cons_append, List.append_assoc]
    exact .element hfirst (skipBlank_cons (by decide) _) (ih hv')

theorem closed_array {texts : List (List UInt8)} {vs : List Value}
    (h : List.Forall₂ Stands texts vs) : Closed (arrayText texts) (.array vs) := by
  intro rest
  cases h with
  | nil => exact .emptyArray (skipBlank_cons (by decide) _) (skipBlank_cons (by decide) rest)
  | cons hv h =>
    rw [arrayText, List.cons_append, List.append_assoc]
    exact .array (skipBlank_cons (by decide) _) (reads_elements hv h rest)

theorem elementsEnd_eq (text : List UInt8) (texts : List (List UInt8)) :
    text ++ elementsEnd texts = List.intercalate [comma] (text :: texts) ++ [closeBracket] := by
  induction texts generalizing text with
  | nil => rw [List.intercalate_singleton, elementsEnd]
  | cons next texts ih =>
    rw [elementsEnd, ih next, List.intercalate_cons_cons]
    simp

/-- An array of some texts with commas between them. -/
theorem arrayText_eq (texts : List (List UInt8)) :
    arrayText texts = openBracket :: (List.intercalate [comma] texts ++ [closeBracket]) := by
  cases texts with
  | nil => rfl
  | cons text texts => rw [arrayText, elementsEnd_eq]

/-- A name is read before its value. -/
theorem skipBlank_written (f : Field) (rest : List UInt8) :
    skipBlank (f.written ++ rest) = quote :: (f.key ++ quote :: colon :: (f.text ++ rest)) := by
  unfold Field.written stringText
  rw [List.cons_append, List.cons_append, skipBlank_cons (by decide)]
  simp

theorem reads_members {f : Field} {fields : List Field} (hf : f.Sound)
    (h : ∀ f ∈ fields, f.Sound) (rest : List UInt8) :
    Reads .members (f.written ++ (membersEnd fields ++ rest))
      (.object (f.member :: fields.map Field.member)) rest := by
  induction fields generalizing f with
  | nil =>
    exact .lastMember (skipBlank_written f _) (chars_of_plain hf.key _)
      (skipBlank_cons (by decide) _) (hf.text closeBrace rest (.inr (.inr rfl)))
      (skipBlank_cons (by decide) rest)
  | cons g fields ih =>
    obtain ⟨hg, hfields⟩ := List.forall_mem_cons.mp h
    rw [membersEnd, List.cons_append, List.append_assoc]
    exact .member (skipBlank_written f _) (chars_of_plain hf.key _)
      (skipBlank_cons (by decide) _) (hf.text comma _ (.inl rfl))
      (skipBlank_cons (by decide) _) (ih hg hfields)

theorem closed_object {fields : List Field} (h : ∀ f ∈ fields, f.Sound) :
    Closed (objectText fields) (.object (fields.map Field.member)) := by
  intro rest
  cases fields with
  | nil => exact .emptyObject (skipBlank_cons (by decide) _) (skipBlank_cons (by decide) rest)
  | cons f fields =>
    obtain ⟨hf, hfields⟩ := List.forall_mem_cons.mp h
    rw [objectText, List.cons_append, List.append_assoc]
    exact .object (skipBlank_cons (by decide) _) (reads_members hf hfields rest)

/-! Members that are sound. -/

variable {key : List UInt8}

theorem Field.sound_ofString {s : List UInt8} (hkey : Plain key) (h : Plain s) :
    (Field.ofString key s).Sound := ⟨hkey, (closed_string h).stands⟩

theorem Field.sound_ofBool (hkey : Plain key) (b : Bool) : (Field.ofBool key b).Sound :=
  ⟨hkey, (closed_bool b).stands⟩

theorem Field.sound_ofInt (hkey : Plain key) (n : ℤ) : (Field.ofInt key n).Sound :=
  ⟨hkey, stands_int n⟩

theorem Field.sound_ofArray {elements : List (List UInt8 × Value)} (hkey : Plain key)
    (h : ∀ e ∈ elements, Stands e.1 e.2) : (Field.ofArray key elements).Sound := by
  refine ⟨hkey, (closed_array ?_).stands⟩
  induction elements with
  | nil => exact .nil
  | cons e elements ih =>
    obtain ⟨he, helements⟩ := List.forall_mem_cons.mp h
    exact .cons he (ih helements)

theorem Field.sound_ofObject {fields : List Field} (hkey : Plain key)
    (h : ∀ f ∈ fields, f.Sound) : (Field.ofObject key fields).Sound :=
  ⟨hkey, (closed_object h).stands⟩

/-! ### Known beginnings -/

/-- Behind a known element and a comma there are more. -/
theorem Reads.behind_element {known : List UInt8} {w : Value} (hknown : Stands known w)
    (h : Reads .elements (known ++ comma :: text) v rest) :
    ∃ vs, v = .array (w :: vs) ∧ Reads .elements text (.array vs) rest := by
  have hw := hknown comma text (.inl rfl)
  cases h with
  | lastElement hv hend =>
    obtain ⟨rfl, rfl⟩ := hw.unique hv
    rw [skipBlank_cons (by decide)] at hend
    exact absurd (List.cons.inj hend).1 (by decide)
  | element hv hcomma hmore =>
    obtain ⟨rfl, rfl⟩ := hw.unique hv
    rw [skipBlank_cons (by decide)] at hcomma
    obtain ⟨-, rfl⟩ := List.cons.inj hcomma
    exact ⟨_, rfl, hmore⟩

/-- The element behind known ones is read as a value. -/
theorem Reads.next_element {known : List (List UInt8)} {ws : List Value}
    (hknown : List.Forall₂ Stands known ws)
    (h : Reads .elements ((known.flatMap fun t => t ++ [comma]) ++ text) v rest) :
    ∃ first behind vs, v = .array (ws ++ first :: vs) ∧ Reads .value text first behind := by
  induction hknown generalizing v with
  | nil =>
    cases h with
    | lastElement hv _ => exact ⟨_, _, [], rfl, hv⟩
    | element hv _ _ => exact ⟨_, _, _, rfl, hv⟩
  | @cons t w known ws ht _ ih =>
    rw [List.flatMap_cons, List.append_assoc, List.append_assoc, List.singleton_append] at h
    obtain ⟨vs, rfl, hmore⟩ := h.behind_element ht
    obtain ⟨first, behind, vs', hvs, hfirst⟩ := ih hmore
    obtain rfl := Value.array.inj hvs
    exact ⟨first, behind, vs', rfl, hfirst⟩

/-- The elements in front of one, each with its comma. -/
theorem elementsEnd_append (known : List (List UInt8)) (element : List UInt8)
    (texts : List (List UInt8)) : elementsEnd (known ++ element :: texts) =
      comma :: ((known.flatMap fun t => t ++ [comma]) ++ (element ++ elementsEnd texts)) := by
  induction known with
  | nil => rfl
  | cons t known ih =>
    rw [List.cons_append, elementsEnd, ih, List.flatMap_cons]
    simp

theorem arrayText_append (known : List (List UInt8)) (element : List UInt8)
    (texts : List (List UInt8)) : arrayText (known ++ element :: texts) =
      openBracket :: ((known.flatMap fun t => t ++ [comma]) ++ (element ++ elementsEnd texts)) := by
  cases known with
  | nil => rfl
  | cons t known =>
    rw [List.cons_append, arrayText, elementsEnd_append, List.flatMap_cons]
    simp

/-- The element behind known ones of an array is read as a value. -/
theorem Reads.element_of_array {known texts : List (List UInt8)} {ws : List Value}
    {element : List UInt8} (hknown : List.Forall₂ Stands known ws)
    (helement : ∃ inner, element = openBrace :: inner)
    (h : Reads .value (arrayText (known ++ element :: texts) ++ text) v rest) :
    ∃ first behind vs, v = .array (ws ++ first :: vs) ∧
      Reads .value (element ++ (elementsEnd texts ++ text)) first behind := by
  obtain ⟨inner, rfl⟩ := helement
  rw [arrayText_append, List.cons_append, List.append_assoc, List.append_assoc] at h
  rcases h.of_bracket (skipBlank_cons (by decide) _) with ⟨hend, -⟩ | helements
  · cases hknown with
    | nil =>
      rw [List.flatMap_nil, List.nil_append, List.cons_append, skipBlank_cons (by decide)] at hend
      exact absurd (List.cons.inj hend).1 (by decide)
    | @cons t w known ws ht _ =>
      rw [List.flatMap_cons, List.append_assoc, List.append_assoc, List.singleton_append] at hend
      exact absurd hend (ht comma _ (.inl rfl)).value_not_closed
  · exact helements.next_element hknown

/-- The value of the first member begins behind its name. -/
theorem Reads.first_member {key : List UInt8} (hkey : Plain key)
    (h : Reads .members (stringText key ++ colon :: text) v rest) :
    ∃ first behind ms, v = .object ((key, first) :: ms) ∧ Reads .value text first behind := by
  have hname := skipBlank_written ⟨key, text, .null⟩ []
  simp only [Field.written, List.append_nil] at hname
  have hchars := chars_of_plain hkey (colon :: text)
  cases h with
  | lastMember h' hkey' hcolon' hv' hend' =>
    obtain ⟨rfl, rfl⟩ := name_unique hname hchars (skipBlank_cons (by decide) _) h' hkey' hcolon'
    exact ⟨_, _, [], rfl, hv'⟩
  | member h' hkey' hcolon' hv' hcomma' hmore' =>
    obtain ⟨rfl, rfl⟩ := name_unique hname hchars (skipBlank_cons (by decide) _) h' hkey' hcolon'
    exact ⟨_, _, _, rfl, hv'⟩

/-- Behind a known member and a comma there are more. -/
theorem Reads.behind_member {f : Field} (hf : f.Sound)
    (h : Reads .members (f.written ++ comma :: text) v rest) :
    ∃ ms, v = .object (f.member :: ms) ∧ Reads .members text (.object ms) rest := by
  have hname := skipBlank_written f (comma :: text)
  have hchars := chars_of_plain hf.key (colon :: (f.text ++ comma :: text))
  have hvalue := hf.text comma text (.inl rfl)
  cases h with
  | lastMember h' hkey' hcolon' hv' hend' =>
    obtain ⟨rfl, rfl⟩ := name_unique hname hchars (skipBlank_cons (by decide) _) h' hkey' hcolon'
    obtain ⟨rfl, rfl⟩ := hvalue.unique hv'
    rw [skipBlank_cons (by decide)] at hend'
    exact absurd (List.cons.inj hend').1 (by decide)
  | member h' hkey' hcolon' hv' hcomma' hmore' =>
    obtain ⟨rfl, rfl⟩ := name_unique hname hchars (skipBlank_cons (by decide) _) h' hkey' hcolon'
    obtain ⟨rfl, rfl⟩ := hvalue.unique hv'
    rw [skipBlank_cons (by decide)] at hcomma'
    obtain ⟨-, rfl⟩ := List.cons.inj hcomma'
    exact ⟨_, rfl, hmore'⟩

/-- The value of the member behind known ones is read as a value. -/
theorem Reads.next_member {known : List Field} {key : List UInt8}
    (hknown : ∀ f ∈ known, f.Sound) (hkey : Plain key)
    (h : Reads .members ((known.flatMap fun f => f.written ++ [comma]) ++
      (stringText key ++ colon :: text)) v rest) :
    ∃ first behind ms, v = .object (known.map Field.member ++ (key, first) :: ms) ∧
      Reads .value text first behind := by
  induction known generalizing v with
  | nil => exact h.first_member hkey
  | cons f known ih =>
    obtain ⟨hf, hrest⟩ := List.forall_mem_cons.mp hknown
    rw [List.flatMap_cons, List.append_assoc, List.append_assoc, List.singleton_append] at h
    obtain ⟨ms, rfl, hmore⟩ := h.behind_member hf
    obtain ⟨first, behind, ms', hms, hfirst⟩ := ih hrest hmore
    obtain rfl := Value.object.inj hms
    exact ⟨first, behind, ms', rfl, hfirst⟩

/-- The members in front of one, each with its comma. -/
theorem membersEnd_append (known : List Field) (f : Field) (fields : List Field) :
    membersEnd (known ++ f :: fields) =
      comma :: ((known.flatMap fun f => f.written ++ [comma]) ++
        (f.written ++ membersEnd fields)) := by
  induction known with
  | nil => rfl
  | cons g known ih =>
    rw [List.cons_append, membersEnd, ih, List.flatMap_cons]
    simp

theorem objectText_append (known : List Field) (f : Field) (fields : List Field) :
    objectText (known ++ f :: fields) =
      openBrace :: ((known.flatMap fun f => f.written ++ [comma]) ++
        (f.written ++ membersEnd fields)) := by
  cases known with
  | nil => rfl
  | cons g known =>
    rw [List.cons_append, objectText, membersEnd_append, List.flatMap_cons]
    simp

/-- The value of the member behind known ones of an object is read as a value. -/
theorem Reads.member_of_object {known fields : List Field} {f : Field}
    (hknown : ∀ f ∈ known, f.Sound) (hkey : Plain f.key)
    (h : Reads .value (objectText (known ++ f :: fields) ++ text) v rest) :
    ∃ first behind ms, v = .object (known.map Field.member ++ (f.key, first) :: ms) ∧
      Reads .value (f.text ++ (membersEnd fields ++ text)) first behind := by
  have hmember : f.written ++ (membersEnd fields ++ text) =
      stringText f.key ++ colon :: (f.text ++ (membersEnd fields ++ text)) := by
    unfold Field.written
    simp
  rw [objectText_append, List.cons_append, List.append_assoc, List.append_assoc, hmember] at h
  rcases h.of_brace (skipBlank_cons (by decide) _) with ⟨hend, -⟩ | hmembers
  · have hquote : ∃ chars, skipBlank ((known.flatMap fun f => f.written ++ [comma]) ++
        (stringText f.key ++ colon :: (f.text ++ (membersEnd fields ++ text)))) =
          quote :: chars := by
      cases known with
      | nil => exact ⟨_, skipBlank_cons (by decide) _⟩
      | cons g known =>
        rw [List.flatMap_cons, List.append_assoc, List.append_assoc]
        exact ⟨_, skipBlank_written g _⟩
    obtain ⟨chars, hchars⟩ := hquote
    exact (not_both (by decide) hchars hend).elim
  · exact hmembers.next_member hknown hkey

/-- A string that is read as it was written needs no escapes, if something plain stands between
it and the next quote. -/
theorem Reads.plain_of_string {s m more : List UInt8} (hm : Plain m) (hne : m ≠ [])
    (h : Reads .value (stringText s ++ (m ++ quote :: more)) (.string s) rest) : Plain s := by
  have htext : skipBlank (stringText s ++ (m ++ quote :: more)) =
      quote :: (s ++ quote :: (m ++ quote :: more)) := by
    rw [stringText, List.cons_append, skipBlank_cons (by decide)]
    simp
  obtain ⟨s', hs, hchars⟩ := h.of_quote htext
  obtain rfl := Value.string.inj hs
  exact (hchars.plain_of_unchanged hm hne).1

/-! ### Members and elements by name and index -/

/-- The first value of a name is that of the member behind others. -/
theorem named_append {known : List Field} {key : List UInt8} {first : Value}
    {ms : List (List UInt8 × Value)} (h : key ∉ known.map Field.key) :
    Value.named key (.object (known.map Field.member ++ (key, first) :: ms)) =
      first :: Value.named key (.object ms) := by
  have hnone : (known.map Field.member).filter (fun m => m.1 = key) = [] := by
    rw [List.filter_eq_nil_iff]
    intro m hm heq
    obtain ⟨f, hf, rfl⟩ := List.mem_map.mp hm
    exact h (List.mem_map.mpr ⟨f, hf, of_decide_eq_true heq⟩)
  unfold Value.named
  dsimp only
  rw [List.filter_append, hnone, List.nil_append, List.filter_cons_of_pos (by simp),
    List.map_cons]

/-- The member behind known ones of an object is the first of its name. -/
theorem Reads.named_of_object {known fields : List Field} {f : Field}
    (hknown : ∀ f ∈ known, f.Sound) (hkey : Plain f.key) (hfirst : f.key ∉ known.map Field.key)
    (h : Reads .value (objectText (known ++ f :: fields) ++ text) v rest) :
    ∃ first others behind, Value.named f.key v = first :: others ∧
      Reads .value (f.text ++ (membersEnd fields ++ text)) first behind := by
  obtain ⟨first, behind, ms, rfl, hread⟩ := h.member_of_object hknown hkey
  exact ⟨first, _, behind, named_append hfirst, hread⟩

/-- The element behind known ones of an array is the one of its index. -/
theorem Reads.indexed_of_array {known texts : List (List UInt8)} {ws : List Value}
    {element : List UInt8} (hknown : List.Forall₂ Stands known ws)
    (helement : ∃ inner, element = openBrace :: inner)
    (h : Reads .value (arrayText (known ++ element :: texts) ++ text) v rest) :
    ∃ first behind, Value.indexed known.length v = [first] ∧
      Reads .value (element ++ (elementsEnd texts ++ text)) first behind := by
  obtain ⟨first, behind, vs, rfl, hread⟩ := h.element_of_array hknown helement
  refine ⟨first, behind, ?_, hread⟩
  unfold Value.indexed
  dsimp only
  rw [hknown.length_eq, List.getElem?_append_right (Nat.le_refl _), Nat.sub_self]
  rfl

/-- The only value along a path is the first one. -/
theorem eq_of_flatMap {α β : Type} {f : α → List β} {as : List α} {a : α} {x y : β}
    {xs : List β} (hf : f a = x :: xs) (h : (a :: as).flatMap f = [y]) : x = y := by
  rw [List.flatMap_cons, hf, List.cons_append] at h
  exact (List.cons.inj h).1

/-- A string that is read back as the only one of its name needs no escapes, if something plain
stands between its member and the next quote. -/
theorem Reads.plain_of_named {known fields : List Field} {key s m more : List UInt8}
    {others : List Value} (hknown : ∀ f ∈ known, f.Sound) (hkey : Plain key)
    (hfirst : key ∉ known.map Field.key)
    (h : Reads .value (objectText (known ++ Field.ofString key s :: fields) ++ text) v rest)
    (htext : membersEnd fields ++ text = m ++ quote :: more) (hm : Plain m) (hne : m ≠ [])
    (hback : (v :: others).flatMap (Value.named key) = [.string s]) : Plain s := by
  obtain ⟨first, others, behind, hnamed, hread⟩ :=
    h.named_of_object (f := Field.ofString key s) hknown hkey hfirst
  obtain rfl := eq_of_flatMap hnamed hback
  rw [htext] at hread
  exact hread.plain_of_string hm hne

end Json
