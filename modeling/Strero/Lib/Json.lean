import Strero.Lib.Decimal
import Strero.Lib.Hexadecimal

/-!
# JSON texts

The grammar of JSON, as a relation between a text, the value that it stands for, and the text
behind it. A character beyond ASCII is some bytes from 128 on here, whatever its encoding. Strings
that are put into a text as they are read back unchanged exactly if nothing in them needs an
escape.
-/

namespace Json

open CString Scanf

/-! ### Characters -/

/-- `"`. -/
def quote : UInt8 := 34

/-- `\`. -/
def backslash : UInt8 := 92

def comma : UInt8 := 44

def colon : UInt8 := 58

def openBracket : UInt8 := 91

def closeBracket : UInt8 := 93

def openBrace : UInt8 := 123

def closeBrace : UInt8 := 125

/-- White space between the parts of a text. -/
def isBlank (c : UInt8) : Bool := c = 32 || c = 9 || c = 10 || c = 13

/-- The text behind white space. -/
def skipBlank (text : List UInt8) : List UInt8 := text.dropWhile isBlank

/-- A character that stands for itself in a string: neither a quote, nor a backslash, nor a control
character. -/
def isPlain (c : UInt8) : Bool := c ≠ quote && c ≠ backslash && 32 ≤ c

/-- A string without characters that need an escape. -/
def Plain (s : List UInt8) : Prop := ∀ c ∈ s, isPlain c = true

instance (s : List UInt8) : Decidable (Plain s) := List.decidableBAll _ s

/-! ### Escapes -/

/-- The escapes of one letter. -/
def simpleEscape (c : UInt8) : Option UInt8 :=
  if c = quote ∨ c = backslash ∨ c = '/'.toUInt8 then some c
  else if c = 'b'.toUInt8 then some 8
  else if c = 'f'.toUInt8 then some 12
  else if c = 'n'.toUInt8 then some 10
  else if c = 'r'.toUInt8 then some 13
  else if c = 't'.toUInt8 then some 9
  else none

/-- Four hexadecimal digits, and the text behind them. -/
def codeUnit (text : List UInt8) : Option (ℕ × List UInt8) :=
  if (text.take 4).length = 4 ∧ (text.take 4).all isXDigit = true then
    some (hexadecimal (text.take 4), text.drop 4)
  else none

/-- The bytes of a code point. -/
def utf8 (n : ℕ) : List UInt8 :=
  let low (shift : ℕ) : UInt8 := .ofNat (128 + (n >>> shift) % 64)
  if n < 0x80 then [.ofNat n]
  else if n < 0x800 then [.ofNat (192 + n >>> 6), low 0]
  else if n < 0x10000 then [.ofNat (224 + n >>> 12), low 6, low 0]
  else [.ofNat (240 + n >>> 18), low 12, low 6, low 0]

/-- The bytes of the replacement character. -/
def replacement : List UInt8 := utf8 0xFFFD

def isHigh (n : ℕ) : Bool := 0xD800 ≤ n && n < 0xDC00

def isLow (n : ℕ) : Bool := 0xDC00 ≤ n && n < 0xE000

/-- The escape of a second half. -/
def lowUnit (text : List UInt8) : Option (ℕ × List UInt8) :=
  match text with
  | b :: u :: rest =>
    if b = backslash ∧ u = 'u'.toUInt8 then (codeUnit rest).filter fun unit => isLow unit.1
    else none
  | _ => none

/-- The escape of a code unit. Two halves stand for one character, and a half alone for the
replacement character. -/
def unicodeEscape (text : List UInt8) : Option (List UInt8 × List UInt8) :=
  (codeUnit text).map fun (n, rest) =>
    if isHigh n then
      match lowUnit rest with
      | some (low, behind) => (utf8 (0x10000 + (n - 0xD800) * 0x400 + (low - 0xDC00)), behind)
      | none => (replacement, rest)
    else if isLow n then (replacement, rest)
    else (utf8 n, rest)

/-- What is behind a backslash: the bytes it stands for, and the text behind the escape. -/
def escaped (text : List UInt8) : Option (List UInt8 × List UInt8) :=
  match text with
  | [] => none
  | c :: rest =>
    if c = 'u'.toUInt8 then unicodeEscape rest else (simpleEscape c).map fun d => ([d], rest)

/-- The text behind an opening quote, the string that it stands for, and the text behind the
closing quote. -/
inductive Chars : List UInt8 → List UInt8 → List UInt8 → Prop
  | done {rest} : Chars (quote :: rest) [] rest
  | plain {c text s rest} (hc : isPlain c = true) (h : Chars text s rest) :
      Chars (c :: text) (c :: s) rest
  | escape {text bytes behind s rest} (hc : escaped text = some (bytes, behind))
      (h : Chars behind s rest) : Chars (backslash :: text) (bytes ++ s) rest

/-! ### Numbers -/

/-- One or more digits: the text behind them. -/
def digitsEnd (text : List UInt8) : Option (List UInt8) :=
  if text.takeWhile isDigit = [] then none else some (text.dropWhile isDigit)

/-- Zero, or digits that do not begin with it. -/
def integerEnd (text : List UInt8) : Option (List UInt8) :=
  match text with
  | [] => none
  | c :: rest => if c = '0'.toUInt8 then some rest else digitsEnd text

/-- A point and digits, if there is a point. -/
def fractionEnd (text : List UInt8) : Option (List UInt8) :=
  match text with
  | [] => some []
  | c :: rest => if c = '.'.toUInt8 then digitsEnd rest else some text

/-- A letter, a sign and digits, if there is such a letter. -/
def exponentEnd (text : List UInt8) : Option (List UInt8) :=
  match text with
  | [] => some []
  | c :: rest =>
    if c = 'e'.toUInt8 ∨ c = 'E'.toUInt8 then
      match rest with
      | [] => none
      | sign :: digits =>
        if sign = '+'.toUInt8 ∨ sign = '-'.toUInt8 then digitsEnd digits else digitsEnd rest
    else some text

/-- A number: the text behind it. -/
def numberEnd (text : List UInt8) : Option (List UInt8) :=
  let unsigned := match text with
    | [] => []
    | c :: rest => if c = '-'.toUInt8 then rest else text
  ((integerEnd unsigned).bind fractionEnd).bind exponentEnd

/-! ### Values -/

/-- A value. A number is the text of it. -/
inductive Value
  | null
  | bool (b : Bool)
  | number (text : List UInt8)
  | string (s : List UInt8)
  | array (elements : List Value)
  | object (members : List (List UInt8 × Value))

/-- A name or a number, and the text behind it. -/
def readScalar (text : List UInt8) : Option (Value × List UInt8) :=
  if ascii "null" <+: text then some (.null, text.drop 4)
  else if ascii "true" <+: text then some (.bool true, text.drop 4)
  else if ascii "false" <+: text then some (.bool false, text.drop 5)
  else (numberEnd text).map fun rest => (.number (between text rest), rest)

/-- What is read of a value: all of it, or what is left of its elements or its members. -/
inductive Part
  | value | elements | members

/-- The text, what is read of it, and the text behind that. -/
inductive Reads : Part → List UInt8 → Value → List UInt8 → Prop
  | scalar {text v rest} (h : readScalar (skipBlank text) = some (v, rest)) :
      Reads .value text v rest
  | string {text chars s rest} (h : skipBlank text = quote :: chars) (hchars : Chars chars s rest) :
      Reads .value text (.string s) rest
  | emptyArray {text inner rest} (h : skipBlank text = openBracket :: inner)
      (hend : skipBlank inner = closeBracket :: rest) : Reads .value text (.array []) rest
  | array {text inner v rest} (h : skipBlank text = openBracket :: inner)
      (helements : Reads .elements inner v rest) : Reads .value text v rest
  | emptyObject {text inner rest} (h : skipBlank text = openBrace :: inner)
      (hend : skipBlank inner = closeBrace :: rest) : Reads .value text (.object []) rest
  | object {text inner v rest} (h : skipBlank text = openBrace :: inner)
      (hmembers : Reads .members inner v rest) : Reads .value text v rest
  | lastElement {text v behind rest} (hv : Reads .value text v behind)
      (hend : skipBlank behind = closeBracket :: rest) : Reads .elements text (.array [v]) rest
  | element {text v behind more vs rest} (hv : Reads .value text v behind)
      (hcomma : skipBlank behind = comma :: more) (hmore : Reads .elements more (.array vs) rest) :
      Reads .elements text (.array (v :: vs)) rest
  | lastMember {text chars key next inner v behind rest} (h : skipBlank text = quote :: chars)
      (hkey : Chars chars key next) (hcolon : skipBlank next = colon :: inner)
      (hv : Reads .value inner v behind) (hend : skipBlank behind = closeBrace :: rest) :
      Reads .members text (.object [(key, v)]) rest
  | member {text chars key next inner v behind more ms rest} (h : skipBlank text = quote :: chars)
      (hkey : Chars chars key next) (hcolon : skipBlank next = colon :: inner)
      (hv : Reads .value inner v behind) (hcomma : skipBlank behind = comma :: more)
      (hmore : Reads .members more (.object ms) rest) :
      Reads .members text (.object ((key, v) :: ms)) rest

/-- A JSON text. -/
def Text (text : List UInt8) (v : Value) : Prop :=
  ∃ rest, Reads .value text v rest ∧ skipBlank rest = []

/-- The values of all members of a name. -/
def Value.named (key : List UInt8) : Value → List Value
  | .object members => (members.filter fun m => m.1 = key).map Prod.snd
  | _ => []

/-- The element of an index, if there is one. -/
def Value.indexed (i : ℕ) : Value → List Value
  | .array elements => elements[i]?.toList
  | _ => []

/-! ### Reading strings -/

variable {text text' s m rest rest' : List UInt8}

theorem isPlain_iff {c : UInt8} : isPlain c = true ↔ c ≠ quote ∧ c ≠ backslash ∧ 32 ≤ c := by
  unfold isPlain
  simp only [Bool.and_eq_true, decide_eq_true_eq, and_assoc]

theorem plain_nil : Plain [] := fun _ h => absurd h List.not_mem_nil

theorem plain_cons {c : UInt8} : Plain (c :: s) ↔ isPlain c = true ∧ Plain s :=
  List.forall_mem_cons

/-- Four digits make a unit of 16 bits. -/
theorem codeUnit_eq_some {n : ℕ} (h : codeUnit text = some (n, rest)) :
    ∃ digits, text = digits ++ rest ∧ digits.length = 4 ∧ quote ∉ digits ∧ n < 65536 := by
  unfold codeUnit at h
  split at h
  · rename_i hunit
    obtain ⟨rfl, rfl⟩ := Prod.mk.inj (Option.some.inj h)
    have hdigits : ∀ c ∈ text.take 4, isXDigit c = true := List.all_eq_true.mp hunit.2
    have hlt := hexadecimal_lt hdigits
    rw [hunit.1] at hlt
    refine ⟨text.take 4, (List.take_append_drop 4 text).symm, hunit.1, fun hquote => ?_, hlt⟩
    exact absurd (hdigits quote hquote) (by decide)
  · cases h

theorem length_utf8_le (n : ℕ) : (utf8 n).length ≤ 4 ∧ (n < 65536 → (utf8 n).length ≤ 3) := by
  unfold utf8
  dsimp only
  split_ifs
  all_goals
    simp only [List.length_cons, List.length_nil]
    omega

/-- The escape of a second half has six characters. -/
theorem lowUnit_eq_some {n : ℕ} (h : lowUnit text = some (n, rest)) :
    ∃ item, text = item ++ rest ∧ item.length = 6 ∧ quote ∉ item := by
  unfold lowUnit at h
  split at h
  · rename_i b u behind
    split at h
    · rename_i hletters
      obtain ⟨rfl, rfl⟩ := hletters
      obtain ⟨hunit, -⟩ := Option.filter_eq_some_iff.mp h
      obtain ⟨digits, rfl, hlength, hquote, -⟩ := codeUnit_eq_some hunit
      refine ⟨backslash :: 'u'.toUInt8 :: digits, rfl, by simp [hlength], ?_⟩
      simp only [List.mem_cons, not_or]
      exact ⟨by decide, by decide, hquote⟩
    · cases h
  · cases h

theorem unicodeEscape_eq_some {bytes : List UInt8} (h : unicodeEscape text = some (bytes, rest)) :
    ∃ item, text = item ++ rest ∧ bytes.length ≤ item.length ∧ quote ∉ item := by
  unfold unicodeEscape at h
  obtain ⟨⟨n, behind⟩, hunit, hbytes⟩ := Option.map_eq_some_iff.mp h
  obtain ⟨digits, rfl, hlength, hquote, hlt⟩ := codeUnit_eq_some hunit
  have hreplacement : replacement.length ≤ 3 := (length_utf8_le 0xFFFD).2 (by decide)
  dsimp only at hbytes
  split_ifs at hbytes with hhigh hlow
  · cases hnext : lowUnit behind with
    | none =>
      rw [hnext] at hbytes
      obtain ⟨rfl, rfl⟩ := Prod.mk.inj hbytes
      exact ⟨digits, rfl, by omega, hquote⟩
    | some pair =>
      obtain ⟨low, last⟩ := pair
      rw [hnext] at hbytes
      obtain ⟨rfl, rfl⟩ := Prod.mk.inj hbytes
      obtain ⟨item, rfl, hitem, hnone⟩ := lowUnit_eq_some hnext
      refine ⟨digits ++ item, (List.append_assoc _ _ _).symm, ?_, ?_⟩
      · have hle := (length_utf8_le (0x10000 + (n - 0xD800) * 0x400 + (low - 0xDC00))).1
        rw [List.length_append]
        omega
      · exact fun hmem => (List.mem_append.mp hmem).elim hquote hnone
  · obtain ⟨rfl, rfl⟩ := Prod.mk.inj hbytes
    exact ⟨digits, rfl, by omega, hquote⟩
  · obtain ⟨rfl, rfl⟩ := Prod.mk.inj hbytes
    have hle := (length_utf8_le n).2 hlt
    exact ⟨digits, rfl, by omega, hquote⟩

/-- An escape is not shorter than what it stands for, even without the backslash. The only one
with a quote in it is the one of the quote. -/
theorem escaped_eq_some {bytes : List UInt8} (h : escaped text = some (bytes, rest)) :
    ∃ item, text = item ++ rest ∧ bytes.length ≤ item.length ∧
      (quote ∈ item → item = [quote] ∧ bytes = [quote]) := by
  cases text with
  | nil => cases h
  | cons c behind =>
    unfold escaped at h
    dsimp only at h
    split_ifs at h with hunicode
    · obtain ⟨item, rfl, hlength, hquote⟩ := unicodeEscape_eq_some h
      refine ⟨c :: item, rfl, ?_, fun hmem => ?_⟩
      · rw [List.length_cons]
        omega
      · rcases List.mem_cons.mp hmem with rfl | hitem
        · exact absurd hunicode (by decide)
        · exact absurd hitem hquote
    · obtain ⟨d, hd, hpair⟩ := Option.map_eq_some_iff.mp h
      obtain ⟨rfl, rfl⟩ := Prod.mk.inj hpair
      refine ⟨[c], rfl, Nat.le_refl _, fun hmem => ?_⟩
      obtain rfl := List.mem_singleton.mp hmem
      obtain rfl : quote = d := by simpa [simpleEscape] using hd
      exact ⟨rfl, rfl⟩

/-- Characters without escapes are read as they are. -/
theorem chars_of_plain (h : Plain s) (rest : List UInt8) : Chars (s ++ quote :: rest) s rest := by
  induction s with
  | nil => exact .done
  | cons c s ih => exact .plain (plain_cons.mp h).1 (ih (plain_cons.mp h).2)

/-- There is one way to read a string. -/
theorem Chars.unique (h : Chars text s rest) (h' : Chars text m rest') : s = m ∧ rest = rest' := by
  induction h generalizing m with
  | done =>
    cases h' with
    | done => exact ⟨rfl, rfl⟩
    | plain hc _ => exact absurd rfl (isPlain_iff.mp hc).1
  | plain hc _ ih =>
    cases h' with
    | done => exact absurd rfl (isPlain_iff.mp hc).1
    | plain _ h' =>
      obtain ⟨rfl, rfl⟩ := ih h'
      exact ⟨rfl, rfl⟩
    | escape _ _ => exact absurd rfl (isPlain_iff.mp hc).2.1
  | escape hc _ ih =>
    cases h' with
    | plain hplain _ => exact absurd rfl (isPlain_iff.mp hplain).2.1
    | escape hc' h' =>
      obtain ⟨rfl, rfl⟩ := Prod.mk.inj (Option.some.inj (hc.symm.trans hc'))
      obtain ⟨rfl, rfl⟩ := ih h'
      exact ⟨rfl, rfl⟩

/-- A string is not longer than its text, and has its length only without escapes. -/
theorem Chars.length_le (h : Chars text s rest) :
    s.length + rest.length + 1 ≤ text.length ∧
      (s.length + rest.length + 1 = text.length → text = s ++ quote :: rest ∧ Plain s) := by
  induction h with
  | done => simp [plain_nil]
  | plain hc _ ih =>
    simp only [List.length_cons]
    refine ⟨by omega, fun hlength => ?_⟩
    obtain ⟨rfl, hplain⟩ := ih.2 (by omega)
    exact ⟨rfl, plain_cons.mpr ⟨hc, hplain⟩⟩
  | escape hc _ ih =>
    obtain ⟨item, rfl, hle, -⟩ := escaped_eq_some hc
    simp only [List.length_cons, List.length_append] at ih ⊢
    exact ⟨by omega, fun hlength => by omega⟩

/-- A quote at which a string does not end stands behind a backslash, and the string goes on
behind it. -/
theorem Chars.behind_quote {a b : List UInt8} (h : Chars text s rest)
    (htext : text = a ++ quote :: b) (hlong : rest.length < b.length) :
    a.getLast? = some backslash ∧ ∃ front back, s = front ++ quote :: back ∧ Chars b back rest := by
  induction h generalizing a with
  | done =>
    have hlength := congrArg List.length htext
    simp only [List.length_cons, List.length_append] at hlength
    omega
  | @plain c text s rest hc h ih =>
    cases a with
    | nil => exact absurd (List.cons.inj htext).1 (isPlain_iff.mp hc).1
    | cons c' a =>
      obtain ⟨rfl, hnext⟩ := List.cons.inj htext
      obtain ⟨hlast, front, back, rfl, hback⟩ := ih hnext hlong
      refine ⟨?_, c :: front, back, rfl, hback⟩
      rw [List.getLast?_cons, hlast]
      rfl
  | @escape text bytes behind s rest hc h ih =>
    obtain ⟨item, rfl, -, hquote⟩ := escaped_eq_some hc
    cases a with
    | nil => exact absurd (List.cons.inj htext).1 (by decide)
    | cons c a =>
      obtain ⟨rfl, hnext⟩ := List.cons.inj htext
      rcases List.append_eq_append_iff.mp hnext with ⟨a', rfl, hbehind⟩ | ⟨item', rfl, hitem⟩
      · obtain ⟨hlast, front, back, rfl, hback⟩ := ih hbehind hlong
        refine ⟨?_, bytes ++ front, back, (List.append_assoc _ _ _).symm, hback⟩
        rw [← List.cons_append, List.getLast?_append, hlast]
        rfl
      · cases item' with
        | nil =>
          obtain ⟨hlast, front, back, rfl, hback⟩ := ih (a := []) hitem.symm hlong
          exact absurd hlast (by simp)
        | cons c item' =>
          obtain ⟨rfl, rfl⟩ := List.cons.inj hitem
          obtain ⟨hsingle, rfl⟩ := hquote (by simp)
          obtain ⟨rfl, rfl⟩ : a = [] ∧ item' = [] := by
            cases a with
            | nil => simpa using hsingle
            | cons _ _ => simp at hsingle
          exact ⟨rfl, [], s, rfl, h⟩

/-- A string that is read back unchanged needs no escapes, if there is something plain up to the
next quote behind it. -/
theorem Chars.plain_of_unchanged {more : List UInt8}
    (h : Chars (s ++ quote :: (m ++ quote :: more)) s rest) (hm : Plain m) (hne : m ≠ []) :
    Plain s ∧ rest = m ++ quote :: more := by
  rcases Nat.lt_or_ge rest.length (m ++ quote :: more).length with hlong | hshort
  · obtain ⟨hlast, front, back, hs, hback⟩ := h.behind_quote rfl hlong
    obtain ⟨rfl, -⟩ := hback.unique (chars_of_plain hm more)
    have hmem : backslash ∈ back := by
      rw [hs, List.getLast?_append, List.getLast?_cons] at hlast
      obtain ⟨c, hc⟩ := Option.ne_none_iff_exists'.mp (mt List.getLast?_eq_none_iff.mp hne)
      rw [hc] at hlast
      obtain rfl := Option.some.inj hlast
      exact List.mem_of_getLast? hc
    exact absurd rfl (isPlain_iff.mp (hm _ hmem)).2.1
  · obtain ⟨hle, hsame⟩ := h.length_le
    simp only [List.length_append, List.length_cons] at hle hsame hshort
    obtain ⟨htext, hplain⟩ := hsame (by omega)
    exact ⟨hplain, (List.cons.inj (List.append_cancel_left htext)).2.symm⟩

/-! ### Reading values -/

theorem skipBlank_cons {c : UInt8} (h : isBlank c = false) (text : List UInt8) :
    skipBlank (c :: text) = c :: text :=
  List.dropWhile_cons_of_neg (by rw [h]; exact Bool.false_ne_true)

/-- Names and numbers do not begin with other characters. -/
theorem readScalar_eq_none {c : UInt8} (hdigit : isDigit c = false) (hminus : c ≠ '-'.toUInt8)
    (hletter : c ≠ 'n'.toUInt8 ∧ c ≠ 't'.toUInt8 ∧ c ≠ 'f'.toUInt8) (text : List UInt8) :
    readScalar (c :: text) = none := by
  obtain ⟨hn, ht, hf⟩ := hletter
  have hnull : ¬ascii "null" <+: c :: text := fun h => hn (List.cons_prefix_cons.mp h).1.symm
  have htrue : ¬ascii "true" <+: c :: text := fun h => ht (List.cons_prefix_cons.mp h).1.symm
  have hfalse : ¬ascii "false" <+: c :: text := fun h => hf (List.cons_prefix_cons.mp h).1.symm
  have hzero : c ≠ '0'.toUInt8 := by
    rintro rfl
    exact absurd hdigit (by decide)
  have hnumber : numberEnd (c :: text) = none := by
    unfold numberEnd integerEnd digitsEnd
    dsimp only
    rw [if_neg hminus]
    dsimp only
    rw [if_neg hzero, if_pos (List.takeWhile_cons_of_neg (by simp [hdigit]))]
    rfl
  unfold readScalar
  rw [if_neg hnull, if_neg htrue, if_neg hfalse, hnumber]
  rfl

/-- What a value begins with tells what it is. -/
theorem Reads.value_cases {v : Value} (h : Reads .value text v rest) :
    readScalar (skipBlank text) = some (v, rest) ∨
    (∃ chars s, skipBlank text = quote :: chars ∧ v = .string s ∧ Chars chars s rest) ∨
    (∃ inner, skipBlank text = openBracket :: inner ∧
      (skipBlank inner = closeBracket :: rest ∧ v = .array [] ∨ Reads .elements inner v rest)) ∨
    ∃ inner, skipBlank text = openBrace :: inner ∧
      (skipBlank inner = closeBrace :: rest ∧ v = .object [] ∨ Reads .members inner v rest) := by
  cases h with
  | scalar h => exact .inl h
  | string h hchars => exact .inr (.inl ⟨_, _, h, rfl, hchars⟩)
  | emptyArray h hend => exact .inr (.inr (.inl ⟨_, h, .inl ⟨hend, rfl⟩⟩))
  | array h helements => exact .inr (.inr (.inl ⟨_, h, .inr helements⟩))
  | emptyObject h hend => exact .inr (.inr (.inr ⟨_, h, .inl ⟨hend, rfl⟩⟩))
  | object h hmembers => exact .inr (.inr (.inr ⟨_, h, .inr hmembers⟩))

/-- A text does not begin with two characters. -/
theorem not_both {a b : UInt8} (hne : a ≠ b) (h : text = a :: rest) (h' : text = b :: rest') :
    False := hne (List.cons.inj (h.symm.trans h')).1

theorem Reads.of_quote {v : Value} {chars : List UInt8} (h : Reads .value text v rest)
    (htext : skipBlank text = quote :: chars) : ∃ s, v = .string s ∧ Chars chars s rest := by
  rcases h.value_cases with hscalar | ⟨chars', s, h', rfl, hchars⟩ | ⟨_, h', -⟩ | ⟨_, h', -⟩
  · rw [htext, readScalar_eq_none (by decide) (by decide) (by decide)] at hscalar
    cases hscalar
  · rw [htext] at h'
    obtain ⟨-, rfl⟩ := List.cons.inj h'
    exact ⟨s, rfl, hchars⟩
  · exact (not_both (by decide) htext h').elim
  · exact (not_both (by decide) htext h').elim

theorem Reads.of_bracket {v : Value} {inner : List UInt8} (h : Reads .value text v rest)
    (htext : skipBlank text = openBracket :: inner) :
    skipBlank inner = closeBracket :: rest ∧ v = .array [] ∨ Reads .elements inner v rest := by
  rcases h.value_cases with hscalar | ⟨_, _, h', -⟩ | ⟨_, h', harray⟩ | ⟨_, h', -⟩
  · rw [htext, readScalar_eq_none (by decide) (by decide) (by decide)] at hscalar
    cases hscalar
  · exact (not_both (by decide) htext h').elim
  · rw [htext] at h'
    obtain ⟨-, rfl⟩ := List.cons.inj h'
    exact harray
  · exact (not_both (by decide) htext h').elim

theorem Reads.of_brace {v : Value} {inner : List UInt8} (h : Reads .value text v rest)
    (htext : skipBlank text = openBrace :: inner) :
    skipBlank inner = closeBrace :: rest ∧ v = .object [] ∨ Reads .members inner v rest := by
  rcases h.value_cases with hscalar | ⟨_, _, h', -⟩ | ⟨_, h', -⟩ | ⟨_, h', hobject⟩
  · rw [htext, readScalar_eq_none (by decide) (by decide) (by decide)] at hscalar
    cases hscalar
  · exact (not_both (by decide) htext h').elim
  · exact (not_both (by decide) htext h').elim
  · rw [htext] at h'
    obtain ⟨-, rfl⟩ := List.cons.inj h'
    exact hobject

theorem Reads.of_scalar {v w : Value} (h : Reads .value text v rest)
    (hscalar : readScalar (skipBlank text) = some (w, rest')) : v = w ∧ rest = rest' := by
  rcases h.value_cases with h' | ⟨_, _, h', -⟩ | ⟨_, h', -⟩ | ⟨_, h', -⟩
  · exact Prod.mk.inj (Option.some.inj (h'.symm.trans hscalar))
  all_goals
    rw [h', readScalar_eq_none (by decide) (by decide) (by decide)] at hscalar
    cases hscalar

/-- No value begins with the bracket that closes an array. -/
theorem Reads.value_not_closed {v : Value} (h : Reads .value text v rest) :
    skipBlank text ≠ closeBracket :: rest' := by
  intro htext
  rcases h.value_cases with hscalar | ⟨_, _, h', -⟩ | ⟨_, h', -⟩ | ⟨_, h', -⟩
  · rw [htext, readScalar_eq_none (by decide) (by decide) (by decide)] at hscalar
    cases hscalar
  all_goals exact not_both (by decide) htext h'

theorem Reads.not_closed {v : Value} (h : Reads .elements text v rest) :
    skipBlank text ≠ closeBracket :: rest' := by
  cases h with
  | lastElement hv _ => exact hv.value_not_closed
  | element hv _ _ => exact hv.value_not_closed

/-- No member begins with the brace that closes the object. -/
theorem Reads.not_ended {v : Value} (h : Reads .members text v rest) :
    skipBlank text ≠ closeBrace :: rest' := by
  intro htext
  cases h with
  | lastMember h _ _ _ _ => exact not_both (by decide) htext h
  | member h _ _ _ _ _ => exact not_both (by decide) htext h

/-- There is one way to read the name of a member. -/
theorem name_unique {chars chars' key key' next next' inner inner' : List UInt8}
    (h : skipBlank text = quote :: chars) (hkey : Chars chars key next)
    (hcolon : skipBlank next = colon :: inner) (h' : skipBlank text = quote :: chars')
    (hkey' : Chars chars' key' next') (hcolon' : skipBlank next' = colon :: inner') :
    key = key' ∧ inner = inner' := by
  obtain ⟨-, rfl⟩ := List.cons.inj (h.symm.trans h')
  obtain ⟨rfl, rfl⟩ := hkey.unique hkey'
  exact ⟨rfl, (List.cons.inj (hcolon.symm.trans hcolon')).2⟩

/-- There is one way to read a text. -/
theorem Reads.unique {part : Part} {v w : Value} (h : Reads part text v rest)
    (h' : Reads part text w rest') : v = w ∧ rest = rest' := by
  induction h generalizing w rest' with
  | scalar h =>
    obtain ⟨rfl, rfl⟩ := h'.of_scalar h
    exact ⟨rfl, rfl⟩
  | string h hchars =>
    obtain ⟨s, rfl, hchars'⟩ := h'.of_quote h
    obtain ⟨rfl, rfl⟩ := hchars.unique hchars'
    exact ⟨rfl, rfl⟩
  | emptyArray h hend =>
    rcases h'.of_bracket h with ⟨hend', rfl⟩ | helements
    · exact ⟨rfl, (List.cons.inj (hend.symm.trans hend')).2⟩
    · exact absurd hend helements.not_closed
  | array h helements ih =>
    rcases h'.of_bracket h with ⟨hend', -⟩ | helements'
    · exact absurd hend' helements.not_closed
    · exact ih helements'
  | emptyObject h hend =>
    rcases h'.of_brace h with ⟨hend', rfl⟩ | hmembers
    · exact ⟨rfl, (List.cons.inj (hend.symm.trans hend')).2⟩
    · exact absurd hend hmembers.not_ended
  | object h hmembers ih =>
    rcases h'.of_brace h with ⟨hend', -⟩ | hmembers'
    · exact absurd hend' hmembers.not_ended
    · exact ih hmembers'
  | lastElement hv hend ih =>
    cases h' with
    | lastElement hv' hend' =>
      obtain ⟨rfl, rfl⟩ := ih hv'
      exact ⟨rfl, (List.cons.inj (hend.symm.trans hend')).2⟩
    | element hv' hcomma' hmore' =>
      obtain ⟨rfl, rfl⟩ := ih hv'
      exact (not_both (by decide) hend hcomma').elim
  | element hv hcomma hmore ih ihmore =>
    cases h' with
    | lastElement hv' hend' =>
      obtain ⟨rfl, rfl⟩ := ih hv'
      exact (not_both (by decide) hcomma hend').elim
    | element hv' hcomma' hmore' =>
      obtain ⟨rfl, rfl⟩ := ih hv'
      obtain ⟨-, rfl⟩ := List.cons.inj (hcomma.symm.trans hcomma')
      obtain ⟨hvs, rfl⟩ := ihmore hmore'
      obtain rfl := Value.array.inj hvs
      exact ⟨rfl, rfl⟩
  | lastMember h hkey hcolon hv hend ih =>
    cases h' with
    | lastMember h' hkey' hcolon' hv' hend' =>
      obtain ⟨rfl, rfl⟩ := name_unique h hkey hcolon h' hkey' hcolon'
      obtain ⟨rfl, rfl⟩ := ih hv'
      exact ⟨rfl, (List.cons.inj (hend.symm.trans hend')).2⟩
    | member h' hkey' hcolon' hv' hcomma' hmore' =>
      obtain ⟨rfl, rfl⟩ := name_unique h hkey hcolon h' hkey' hcolon'
      obtain ⟨rfl, rfl⟩ := ih hv'
      exact (not_both (by decide) hend hcomma').elim
  | member h hkey hcolon hv hcomma hmore ih ihmore =>
    cases h' with
    | lastMember h' hkey' hcolon' hv' hend' =>
      obtain ⟨rfl, rfl⟩ := name_unique h hkey hcolon h' hkey' hcolon'
      obtain ⟨rfl, rfl⟩ := ih hv'
      exact (not_both (by decide) hcomma hend').elim
    | member h' hkey' hcolon' hv' hcomma' hmore' =>
      obtain ⟨rfl, rfl⟩ := name_unique h hkey hcolon h' hkey' hcolon'
      obtain ⟨rfl, rfl⟩ := ih hv'
      obtain ⟨-, rfl⟩ := List.cons.inj (hcomma.symm.trans hcomma')
      obtain ⟨hms, rfl⟩ := ihmore hmore'
      obtain rfl := Value.object.inj hms
      exact ⟨rfl, rfl⟩

/-- There is one value of a text. -/
theorem Text.unique {v w : Value} (h : Text text v) (h' : Text text w) : v = w := by
  obtain ⟨rest, hreads, -⟩ := h
  obtain ⟨rest', hreads', -⟩ := h'
  exact (hreads.unique hreads').1

end Json
