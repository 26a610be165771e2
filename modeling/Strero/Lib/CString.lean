import Mathlib.Data.Int.Notation
import Mathlib.Data.List.TakeWhile

/-!
# Byte strings as the C library sees them

A C string is the run of bytes up to the first NUL. This file fixes the
spelling of literal strings, the length-bounded copy, arrays that hold a string,
and the searches of the standard library. A pointer into a string is the list of
bytes from it to the end.
-/

namespace CString

/-- The bytes of a literal. -/
def ascii (s : String) : List UInt8 := s.toList.map fun c => UInt8.ofNat c.toNat

/-- A literal is the list of its characters, which need not be decoded. -/
theorem ascii_ofList (chars : List Char) :
    ascii (String.ofList chars) = chars.map fun c => UInt8.ofNat c.toNat := by
  rw [ascii, String.toList_ofList]

/-- `%d` of `printf`. -/
def printInt (n : ℤ) : List UInt8 :=
  (if n < 0 then ascii "-" else []) ++
    (Nat.toDigits 10 n.natAbs).map fun c => UInt8.ofNat c.toNat

/-- The string that a buffer holds: everything up to the first NUL. -/
def cString (buffer : List UInt8) : List UInt8 := buffer.takeWhile (· ≠ 0)

/-- The string that `strncpy` leaves in an array of `size` bytes whose last
byte is then set to NUL. -/
def strncpy (size : ℕ) (source : List UInt8) : List UInt8 := (cString source).take (size - 1)

/-- A C string holds no NUL. -/
theorem zero_notMem_cString (buffer : List UInt8) : 0 ∉ cString buffer := by
  intro h
  simpa using List.mem_takeWhile_imp h

/-- A buffer without NUL is read to its end. -/
theorem cString_of_notMem {buffer : List UInt8} (h : 0 ∉ buffer) : cString buffer = buffer := by
  rw [cString, List.takeWhile_eq_self_iff]
  intro b hb
  have : b ≠ 0 := fun hzero => h (hzero ▸ hb)
  simpa using this

/-- A string that goes on past some bytes without NUL starts with them. -/
theorem cString_append_of_notMem {buffer : List UInt8} (h : 0 ∉ buffer) (rest : List UInt8) :
    cString (buffer ++ rest) = buffer ++ cString rest := by
  refine List.takeWhile_append_of_pos ?_
  intro b hb
  have : b ≠ 0 := fun hzero => h (hzero ▸ hb)
  simpa using this

/-- A terminator behind the buffer does not change the string. -/
theorem cString_append_zero (buffer : List UInt8) : cString (buffer ++ [0]) = cString buffer := by
  induction buffer with
  | nil => rfl
  | cons b buffer ih =>
    unfold cString at ih ⊢
    rw [List.cons_append, List.takeWhile_cons, List.takeWhile_cons, ih]

theorem strncpy_length_lt {size : ℕ} (hsize : 0 < size) (source : List UInt8) :
    (strncpy size source).length < size := by
  have := List.length_take_le (size - 1) (cString source)
  unfold strncpy
  omega

/-- A string that fits is copied whole. -/
theorem strncpy_eq_self_iff {size : ℕ} (hsize : 0 < size) (source : List UInt8) :
    strncpy size source = source ↔ source.length < size ∧ 0 ∉ source := by
  constructor
  · intro hsame
    have hlt := strncpy_length_lt hsize source
    have hnoNul : 0 ∉ strncpy size source := fun hmem =>
      zero_notMem_cString source (List.mem_of_mem_take hmem)
    rw [hsame] at hlt hnoNul
    exact ⟨hlt, hnoNul⟩
  · rintro ⟨hlt, hnoNul⟩
    unfold strncpy
    rw [cString_of_notMem hnoNul]
    exact List.take_of_length_le (Nat.le_sub_one_of_lt hlt)

/-- The string in a `char` array of `size` bytes. -/
structure FixedString (size : ℕ) where
  bytes : List UInt8
  fits : bytes.length < size
  noNul : 0 ∉ bytes
deriving DecidableEq

/-- The string that `strncpy` leaves in an array of `size` bytes, as a value of
that array. -/
def FixedString.copy (size : ℕ) (hsize : 0 < size) (source : List UInt8) : FixedString size where
  bytes := strncpy size source
  fits := strncpy_length_lt hsize source
  noNul := fun h => zero_notMem_cString source (List.mem_of_mem_take h)

/-- What an array holds fits into another one of its size. -/
theorem FixedString.copy_bytes {size : ℕ} (hsize : 0 < size) (string : FixedString size) :
    FixedString.copy size hsize string.bytes = string := by
  have hbytes := (strncpy_eq_self_iff hsize string.bytes).mpr ⟨string.fits, string.noNul⟩
  cases string
  unfold FixedString.copy
  congr

/-! The sizes that arrays for strings have. None of them is zero. -/

theorem size16_pos : 0 < 16 := by decide

theorem size32_pos : 0 < 32 := by decide

theorem size64_pos : 0 < 64 := by decide

theorem size128_pos : 0 < 128 := by decide

theorem size256_pos : 0 < 256 := by decide

theorem size512_pos : 0 < 512 := by decide

/-- The empty string has no terminator inside. -/
theorem zero_notMem_nil : (0 : UInt8) ∉ [] := List.not_mem_nil

/-- `strstr`: the string from the first occurrence of `needle` on. -/
def strstr (haystack needle : List UInt8) : Option (List UInt8) :=
  match haystack with
  | [] => if needle = [] then some [] else none
  | b :: rest => if needle <+: b :: rest then some (b :: rest) else strstr rest needle

/-- `strchr`: the string from the first occurrence of a character on. -/
def strchr (string : List UInt8) (c : UInt8) : Option (List UInt8) :=
  match string with
  | [] => none
  | b :: rest => if b = c then some (b :: rest) else strchr rest c

/-- The first occurrence is behind bytes that are others. -/
theorem strchr_append {front : List UInt8} {c : UInt8} (h : c ∉ front) (rest : List UInt8) :
    strchr (front ++ c :: rest) c = some (c :: rest) := by
  induction front with
  | nil => rw [List.nil_append, strchr, if_pos rfl]
  | cons b front ih =>
    rw [List.mem_cons, not_or] at h
    rw [List.cons_append, strchr, if_neg (Ne.symm h.1), ih h.2]

/-- Nothing is found in such bytes. -/
theorem strchr_eq_none {string : List UInt8} {c : UInt8} (h : c ∉ string) :
    strchr string c = none := by
  induction string with
  | nil => rfl
  | cons b string ih =>
    rw [List.mem_cons, not_or] at h
    rw [strchr, if_neg (Ne.symm h.1), ih h.2]

/-- A string has one first occurrence of a character. -/
theorem append_cons_inj {front front' rest rest' : List UInt8} {c : UInt8} (h : c ∉ front)
    (h' : c ∉ front') (hsame : front ++ c :: rest = front' ++ c :: rest') :
    front = front' ∧ rest = rest' := by
  have hfound : some (c :: rest) = some (c :: rest') := by
    rw [← strchr_append h, hsame, strchr_append h']
  injection hfound with hfound
  injection hfound with _ hrest
  subst hrest
  exact ⟨List.append_cancel_right hsame, rfl⟩

/-- What is found is the first occurrence. -/
theorem exists_of_strchr {string found : List UInt8} {c : UInt8}
    (h : strchr string c = some found) :
    ∃ front tail, string = front ++ c :: tail ∧ c ∉ front ∧ found = c :: tail := by
  induction string with
  | nil => cases h
  | cons b string ih =>
    rw [strchr] at h
    split_ifs at h with hb
    · exact ⟨[], string, by rw [hb, List.nil_append], List.not_mem_nil, by
        rw [← Option.some.inj h, hb]⟩
    · obtain ⟨front, tail, rfl, hfront, hfound⟩ := ih h
      exact ⟨b :: front, tail, rfl, by simp [Ne.symm hb, hfront], hfound⟩

/-- `strpbrk`: the string from the first byte on that is in `accept`. -/
def strpbrk (string accept : List UInt8) : Option (List UInt8) :=
  match string with
  | [] => none
  | b :: rest => if b ∈ accept then some (b :: rest) else strpbrk rest accept

/-- `strstr(haystack, needle) != NULL`. -/
def contains (haystack needle : List UInt8) : Bool := (strstr haystack needle).isSome

/-- A text that holds a string holds every prefix of it. -/
theorem contains_append {haystack needle : List UInt8} (rest : List UInt8)
    (h : contains haystack (needle ++ rest) = true) : contains haystack needle = true := by
  unfold contains at h ⊢
  induction haystack with
  | nil =>
    simp only [strstr, List.append_eq_nil_iff] at h ⊢
    split_ifs at h with hempty
    · simp [hempty.1]
    · simp at h
  | cons b haystack ih =>
    rw [strstr] at h ⊢
    by_cases hstart : needle <+: b :: haystack
    · simp [hstart]
    · have hlong : ¬needle ++ rest <+: b :: haystack := fun hlong =>
        hstart ((List.prefix_append needle rest).trans hlong)
      rw [if_neg hlong] at h
      rw [if_neg hstart]
      exact ih h

/-- What is found starts with what was looked for, and ends where the text ends. -/
theorem strstr_eq_some {haystack needle found : List UInt8}
    (h : strstr haystack needle = some found) :
    needle <+: found ∧ found <:+ haystack := by
  induction haystack with
  | nil =>
    rw [strstr] at h
    split_ifs at h with hempty
    obtain rfl := Option.some.inj h
    exact ⟨hempty ▸ List.prefix_rfl, List.suffix_rfl⟩
  | cons b haystack ih =>
    rw [strstr] at h
    split_ifs at h with hstart
    · obtain rfl := Option.some.inj h
      exact ⟨hstart, List.suffix_rfl⟩
    · obtain ⟨hneedle, hfound⟩ := ih h
      exact ⟨hneedle, hfound.trans (List.suffix_cons b haystack)⟩

/-- What is found in a text is found in every longer one. -/
theorem strstr_append {haystack needle found : List UInt8}
    (h : strstr haystack needle = some found) (rest : List UInt8) :
    strstr (haystack ++ rest) needle = some (found ++ rest) := by
  induction haystack with
  | nil =>
    rw [strstr] at h
    split_ifs at h with hempty
    obtain rfl := Option.some.inj h
    subst hempty
    cases rest <;> simp [strstr]
  | cons b haystack ih =>
    obtain ⟨hneedle, hfound⟩ := strstr_eq_some h
    have hfits : needle.length ≤ (b :: haystack).length := hneedle.length_le.trans hfound.length_le
    have hstart : needle <+: b :: (haystack ++ rest) ↔ needle <+: b :: haystack := by
      rw [← List.cons_append]
      exact ⟨fun hlong => List.prefix_of_prefix_length_le hlong (List.prefix_append _ _) hfits,
        List.prefix_append_of_prefix⟩
    rw [List.cons_append, strstr]
    rw [strstr] at h
    simp only [hstart]
    split_ifs at h ⊢
    · obtain rfl := Option.some.inj h
      rfl
    · exact ih h

/-- A text that starts with a byte it does not have further on is looked for on both sides of
such a byte. -/
theorem strstr_append_cons {haystack tail : List UInt8} {c : UInt8} (body : List UInt8)
    (hc : c ∉ body) (h : strstr haystack (c :: body) = none) :
    strstr (haystack ++ c :: tail) (c :: body) = strstr (c :: tail) (c :: body) := by
  induction haystack with
  | nil => rfl
  | cons b rest ih =>
    rw [strstr] at h
    split_ifs at h with hstart
    have hlong : ¬c :: body <+: b :: rest ++ c :: tail := by
      intro hlong
      have hcut : b :: rest ++ [c] <+: b :: rest ++ c :: tail :=
        (List.prefix_append_right_inj _).mpr (by simp)
      rcases Nat.lt_or_ge (b :: rest).length (c :: body).length with hless | hfits
      · have hinside : b :: rest ++ [c] <+: c :: body :=
          List.prefix_of_prefix_length_le hcut hlong (by
            simp only [List.length_append, List.length_cons, List.length_nil] at hless ⊢
            omega)
        exact hc ((List.cons_prefix_cons.mp hinside).2.subset (by simp))
      · exact hstart (List.prefix_of_prefix_length_le hlong (List.prefix_append _ _) hfits)
    rw [List.cons_append] at hlong ⊢
    rw [strstr, if_neg hlong]
    exact ih h

/-- A text is not found exactly if it stands nowhere. -/
theorem strstr_eq_none_iff {haystack needle : List UInt8} :
    strstr haystack needle = none ↔ ¬needle <:+: haystack := by
  induction haystack with
  | nil =>
    rw [strstr, List.infix_nil]
    split_ifs with hempty <;> simp [hempty]
  | cons b rest ih =>
    rw [strstr, List.infix_cons_iff]
    split_ifs with hstart
    · simp [hstart]
    · simp [hstart, ih]

/-- What is found is the first occurrence: the text does not stand in front of it. -/
theorem exists_of_strstr {haystack needle found : List UInt8} (hneedle : needle ≠ [])
    (h : strstr haystack needle = some found) :
    ∃ front rest, haystack = front ++ needle ++ rest ∧ found = needle ++ rest ∧
      ¬needle <:+: front := by
  obtain ⟨⟨rest, rfl⟩, front, rfl⟩ := strstr_eq_some h
  refine ⟨front, rest, (List.append_assoc _ _ _).symm, rfl, fun hoccurs => ?_⟩
  -- An occurrence in front would have been found.
  obtain ⟨earlier, hearlier⟩ := Option.ne_none_iff_exists'.mp
    (fun hnone => strstr_eq_none_iff.mp hnone hoccurs)
  have hsame := strstr_append hearlier (needle ++ rest)
  rw [h] at hsame
  have hlength := congrArg List.length (Option.some.inj hsame)
  have hfits := (strstr_eq_some hearlier).1.length_le
  have hpos := List.length_pos_iff.mpr hneedle
  simp only [List.length_append] at hlength
  omega

/-- A text is found at the start of the string that begins with it. -/
theorem strstr_of_begins {haystack needle : List UInt8} (h : needle <+: haystack) :
    strstr haystack needle = some haystack := by
  cases haystack with
  | nil => simp [strstr, List.prefix_nil.mp h]
  | cons b rest => rw [strstr, if_pos h]

/-- A text without some byte stands on one side of that byte. -/
theorem infix_append_cons_iff {needle left right : List UInt8} {c : UInt8} (hc : c ∉ needle) :
    needle <:+: left ++ c :: right ↔ needle <:+: left ∨ needle <:+: right := by
  induction left with
  | nil =>
    rw [List.nil_append, List.infix_cons_iff, List.infix_nil]
    refine or_congr_left ⟨fun hstart => ?_, fun hnil => hnil ▸ List.nil_prefix⟩
    cases needle with
    | nil => rfl
    | cons b body => exact absurd (List.cons_prefix_cons.mp hstart).1.symm (by simp_all)
  | cons b left ih =>
    rw [List.cons_append, List.infix_cons_iff, List.infix_cons_iff, ih, or_assoc]
    refine or_congr_left ⟨fun hstart => ?_, fun hstart =>
      hstart.trans (List.prefix_append (b :: left) (c :: right))⟩
    -- A prefix that reached the byte would have it.
    have hcut : b :: left ++ [c] <+: b :: (left ++ c :: right) :=
      (List.prefix_append_right_inj (b :: left)).mpr (by simp)
    rcases List.prefix_or_prefix_of_prefix hstart hcut with hshort | hlong
    · rcases List.prefix_concat_iff.mp hshort with rfl | hleft
      · simp at hc
      · exact hleft
    · exact absurd (hlong.subset (by simp)) hc

/-- Of two pointers into one string, `p` is the one to the earlier byte. -/
def before (p q : List UInt8) : Bool := decide (q.length < p.length)

/-- The bytes from `start` up to the later pointer `stop` into the same string. -/
def between (start stop : List UInt8) : List UInt8 := start.take (start.length - stop.length)

/-- What lies in front of the later pointer is the rest. -/
@[simp] theorem between_append (front stop : List UInt8) :
    between (front ++ stop) stop = front := by
  simp [between]

/-- What stands before the first stop is a given text exactly if the string begins with that and
the stop, where the stop comes first in the two together. -/
theorem between_strstr_iff {start text stop : List UInt8}
    (h : strstr (text ++ stop) stop = some stop) :
    (∃ found, strstr start stop = some found ∧ between start found = text) ↔
      text ++ stop <+: start := by
  constructor
  · rintro ⟨found, hfound, rfl⟩
    obtain ⟨hstop, front, hfront⟩ := strstr_eq_some hfound
    rw [← hfront, between_append] at h ⊢
    exact (List.prefix_append_right_inj _).mpr hstop
  · rintro ⟨rest, rfl⟩
    have hfound := strstr_append h rest
    refine ⟨_, hfound, ?_⟩
    rw [List.append_assoc, between_append]

/-- The earlier of two search results. -/
def earlier (p q : Option (List UInt8)) : Option (List UInt8) :=
  match p, q with
  | some p, some q => if before p q then some p else some q
  | some p, none => some p
  | none, q => q

end CString
