import Mathlib.Algebra.Group.Nat.Defs
import Mathlib.Data.Fintype.Basic
import Strero.AuthUtils
import Strero.Lib.Base64

/-!
# The two base64 functions

`auth_base64_encode` writes base64, and `auth_base64_decode` reads it back. The decoder checks
the length of its input, but not the characters.
-/

namespace AuthUtils

open CString Base64

/-! ### Encoding -/

/-- `base64_chars[x & 63]`. -/
def base64Char (x : UInt32) : UInt8 := base64Chars.getD (x &&& 63).toNat 0

/-- What the loop of `auth_base64_encode` writes for up to three bytes. -/
def encodeGroup (a : UInt8) (b c : Option UInt8) : List UInt8 :=
  let triple := a.toUInt32 <<< 16 + (b.getD 0).toUInt32 <<< 8 + (c.getD 0).toUInt32
  [base64Char (triple >>> 18), base64Char (triple >>> 12),
    if b.isSome then base64Char (triple >>> 6) else '='.toUInt8,
    if c.isSome then base64Char triple else '='.toUInt8]

/-- `auth_base64_encode`. -/
def authBase64Encode : List UInt8 → List UInt8
  | a :: b :: c :: rest => encodeGroup a (some b) (some c) ++ authBase64Encode rest
  | [a, b] => encodeGroup a (some b) none
  | [a] => encodeGroup a none none
  | [] => []

/-! ### The alphabet of the code -/

/-- The table has no character twice. -/
theorem idxOf_getD (i : Fin 64) : base64Chars.idxOf? (base64Chars.getD i.val 0) = some i.val := by
  revert i
  decide +kernel

/-- `base64_chars`, with the character `=` for padding. -/
def base64Alphabet : Alphabet UInt8 where
  char i := base64Chars.getD i.val 0
  pad := '='.toUInt8
  char_injective i j hsame := by
    have hindex := idxOf_getD i
    dsimp only at hsame
    rw [hsame, idxOf_getD j] at hindex
    exact Fin.ext (Option.some.inj hindex).symm
  char_ne_pad := by decide +kernel

theorem mem_range_char_iff {c : UInt8} : c ∈ Set.range base64Alphabet.char ↔ c ∈ base64Chars := by
  constructor
  · rintro ⟨i, rfl⟩
    have hi : i.val < base64Chars.length := i.isLt
    change base64Chars.getD i.val 0 ∈ base64Chars
    rw [← List.getElem_eq_getD (h := hi) 0]
    exact List.getElem_mem hi
  · intro hc
    obtain ⟨i, hi, rfl⟩ := List.getElem_of_mem hc
    have hlt : i < 64 := hi
    exact ⟨⟨i, hlt⟩, (List.getElem_eq_getD 0).symm⟩

/-- The number that the loop makes of three bytes. -/
theorem toNat_triple (a b c : UInt8) :
    (a.toUInt32 <<< 16 + b.toUInt32 <<< 8 + c.toUInt32).toNat = word a b c := by
  have ha := a.toNat_lt
  have hb := b.toNat_lt
  have hc := c.toNat_lt
  simp only [UInt32.toNat_add, UInt32.toNat_shiftLeft, UInt8.toNat_toUInt32, UInt32.reduceToNat,
    Nat.shiftLeft_eq, Nat.reduceMod, Nat.reducePow, word]
  omega

/-- Shifting to the right divides. -/
theorem toNat_shiftRight_eq (x i : UInt32) (weight : ℕ) (h : 2 ^ (i.toNat % 32) = weight) :
    (x >>> i).toNat = x.toNat / weight := by
  rw [UInt32.toNat_shiftRight, Nat.shiftRight_eq_div_pow, h]

/-- A character of the table is the one for the digit. -/
theorem base64Char_eq {x : UInt32} (n weight : ℕ) (h : x.toNat = n / weight) :
    base64Char x = base64Alphabet.digit n weight := by
  have hmask : (x &&& 63).toNat = n / weight % 64 := by
    rw [UInt32.toNat_and, h]
    exact Nat.and_two_pow_sub_one_eq_mod _ 6
  rw [base64Char, hmask]
  rfl

/-- What is written for up to three bytes. -/
theorem encodeGroup_eq (a : UInt8) (b c : Option UInt8) :
    encodeGroup a b c =
      [base64Alphabet.digit (word a (b.getD 0) (c.getD 0)) 262144,
        base64Alphabet.digit (word a (b.getD 0) (c.getD 0)) 4096,
        if b.isSome then base64Alphabet.digit (word a (b.getD 0) (c.getD 0)) 64
          else base64Alphabet.pad,
        if c.isSome then base64Alphabet.digit (word a (b.getD 0) (c.getD 0)) 1
          else base64Alphabet.pad] := by
  have htriple := toNat_triple a (b.getD 0) (c.getD 0)
  unfold encodeGroup
  dsimp only
  generalize a.toUInt32 <<< 16 + (b.getD 0).toUInt32 <<< 8 + (c.getD 0).toUInt32 = triple at htriple
  rw [← htriple, base64Char_eq _ _ (toNat_shiftRight_eq triple 18 262144 rfl),
    base64Char_eq _ _ (toNat_shiftRight_eq triple 12 4096 rfl),
    base64Char_eq _ _ (toNat_shiftRight_eq triple 6 64 rfl),
    base64Char_eq triple.toNat 1 (Nat.div_one _).symm]
  rfl

/-- The encoder writes base64. -/
theorem authBase64Encode_eq (bytes : List UInt8) :
    authBase64Encode bytes = base64Alphabet.encode bytes := by
  match bytes with
  | [] => rfl
  | [a] => exact encodeGroup_eq a none none
  | [a, b] => exact encodeGroup_eq a (some b) none
  | a :: b :: c :: rest =>
    rw [authBase64Encode, encodeGroup_eq, authBase64Encode_eq rest]
    rfl

/-! ### Decoding -/

section Decoding

variable (tableAddress : UInt32)

/-- No digit is written as padding. -/
theorem char_ne_equals (i : Fin 64) : base64Alphabet.char i ≠ '='.toUInt8 :=
  base64Alphabet.char_ne_pad i

/-- A character is looked up. -/
theorem sextet_char (i : Fin 64) :
    sextet tableAddress (base64Alphabet.char i) = UInt32.ofNat i.val := by
  have hindex : base64Chars.idxOf? (base64Alphabet.char i) = some i.val := idxOf_getD i
  rw [sextet, if_neg (char_ne_equals i), hindex]

/-- Padding counts as zero. -/
theorem sextet_pad : sextet tableAddress base64Alphabet.pad = 0 := if_pos rfl

/-- The bytes of the number that the loop makes of four digits. -/
theorem bytes_triple (i j k l : Fin 64) {triple : UInt32}
    (htriple : triple = UInt32.ofNat i.val <<< 18 + UInt32.ofNat j.val <<< 12 +
      UInt32.ofNat k.val <<< 6 + UInt32.ofNat l.val) :
    (triple >>> 16).toUInt8 = firstByte i j ∧ (triple >>> 8).toUInt8 = secondByte j k ∧
      triple.toUInt8 = thirdByte k l := by
  have hi := i.isLt
  have hj := j.isLt
  have hk := k.isLt
  have hl := l.isLt
  have hnat : triple.toNat = i.val * 262144 + j.val * 4096 + k.val * 64 + l.val := by
    rw [htriple]
    simp only [UInt32.toNat_add, UInt32.toNat_shiftLeft, UInt32.toNat_ofNat', UInt32.reduceToNat,
      Nat.shiftLeft_eq, Nat.reduceMod, Nat.reducePow]
    omega
  refine ⟨UInt8.toNat_inj.mp ?_, UInt8.toNat_inj.mp ?_, UInt8.toNat_inj.mp ?_⟩
  · rw [UInt32.toNat_toUInt8, toNat_shiftRight_eq triple 16 65536 rfl, hnat, toNat_firstByte]
    omega
  · rw [UInt32.toNat_toUInt8, toNat_shiftRight_eq triple 8 256 rfl, hnat, toNat_secondByte]
    omega
  · rw [UInt32.toNat_toUInt8, hnat, toNat_thirdByte]
    omega

/-- A group of characters for digits. -/
theorem decodeGroup_char (i j k l : Fin 64) :
    decodeGroup tableAddress (base64Alphabet.char i) (base64Alphabet.char j)
      (base64Alphabet.char k) (base64Alphabet.char l) =
        [firstByte i j, secondByte j k, thirdByte k l] := by
  obtain ⟨hfirst, hsecond, hthird⟩ := bytes_triple i j k l rfl
  unfold decodeGroup
  simp only [sextet_char, if_pos (char_ne_equals k), if_pos (char_ne_equals l), hfirst, hsecond,
    hthird]
  rfl

/-- A group with one padding character. -/
theorem decodeGroup_pad (i j k : Fin 64) :
    decodeGroup tableAddress (base64Alphabet.char i) (base64Alphabet.char j)
      (base64Alphabet.char k) base64Alphabet.pad = [firstByte i j, secondByte j k] := by
  have hpad : ¬base64Alphabet.pad ≠ '='.toUInt8 := not_not.mpr rfl
  obtain ⟨hfirst, hsecond, -⟩ := bytes_triple i j k 0 rfl
  unfold decodeGroup
  simp only [sextet_char, sextet_pad, if_pos (char_ne_equals k), if_neg hpad]
  exact congrArg₂ (fun a b => [a, b]) hfirst hsecond

/-- A group with two of them. -/
theorem decodeGroup_pad_pad (i j : Fin 64) :
    decodeGroup tableAddress (base64Alphabet.char i) (base64Alphabet.char j)
      base64Alphabet.pad base64Alphabet.pad = [firstByte i j] := by
  have hpad : ¬base64Alphabet.pad ≠ '='.toUInt8 := not_not.mpr rfl
  obtain ⟨hfirst, -, -⟩ := bytes_triple i j 0 0 rfl
  unfold decodeGroup
  simp only [sextet_char, sextet_pad, if_neg hpad]
  exact congrArg (fun a => [a]) hfirst

/-- Base64 is decoded to the bytes that it was written for. -/
theorem decodeGroups_encode (bytes : List UInt8) :
    decodeGroups tableAddress (base64Alphabet.encode bytes) = bytes := by
  match bytes with
  | [] => rfl
  | [a] =>
    obtain ⟨hfirst, -, -⟩ := bytes_word a 0 0
    simp only [Alphabet.encode, Alphabet.digit, decodeGroups, decodeGroup_pad_pad, hfirst]
    rfl
  | [a, b] =>
    obtain ⟨hfirst, hsecond, -⟩ := bytes_word a b 0
    simp only [Alphabet.encode, Alphabet.digit, decodeGroups, decodeGroup_pad, hfirst, hsecond]
    rfl
  | a :: b :: c :: rest =>
    obtain ⟨hfirst, hsecond, hthird⟩ := bytes_word a b c
    simp only [Alphabet.encode, Alphabet.digit, decodeGroups, decodeGroup_char, hfirst, hsecond,
      hthird, decodeGroups_encode rest]
    rfl

end Decoding

/-! ### The round trip -/

/-- Only characters of base64 are written. -/
theorem notMem_encode {c : UInt8} (hchar : c ∉ base64Chars) (hpad : c ≠ '='.toUInt8)
    (bytes : List UInt8) : c ∉ base64Alphabet.encode bytes := by
  obtain ⟨body, hbody, hchars⟩ := base64Alphabet.encode_padded bytes
  rw [hbody, List.mem_append, not_or]
  refine ⟨fun hmem => ?_, fun hmem => ?_⟩
  · exact hchar (mem_range_char_iff.mp (hchars c hmem))
  · exact hpad (List.eq_of_mem_replicate hmem)

/-- A text that was written is accepted, and stands for the bytes. -/
theorem authBase64Decode_alphabet (tableAddress : UInt32) (bytes : List UInt8) :
    authBase64Decode tableAddress (base64Alphabet.encode bytes) = some bytes := by
  have hlength := (base64Alphabet.text_encode bytes).exists_body.1
  rw [authBase64Decode, if_neg (not_not.mpr hlength), decodeGroups_encode]

/-- The encoder writes four characters for every three bytes, of the alphabet and with padding
for the bytes that are missing, and the decoder gives the bytes back. -/
theorem authBase64Decode_encode (tableAddress : UInt32) (bytes : List UInt8) :
    (authBase64Encode bytes).length = 4 * ((bytes.length + 2) / 3) ∧
      (∃ body, authBase64Encode bytes =
          body ++ List.replicate ((3 - bytes.length % 3) % 3) '='.toUInt8 ∧
        ∀ c ∈ body, c ∈ base64Chars) ∧
      authBase64Decode tableAddress (cString (authBase64Encode bytes)) = some bytes := by
  have hzero : 0 ∉ base64Alphabet.encode bytes :=
    notMem_encode (by decide +kernel) (by decide) bytes
  rw [authBase64Encode_eq, cString_of_notMem hzero]
  obtain ⟨body, hbody, hchars⟩ := base64Alphabet.encode_padded bytes
  exact ⟨base64Alphabet.length_encode bytes,
    ⟨body, hbody, fun c hc => mem_range_char_iff.mp (hchars c hc)⟩,
    authBase64Decode_alphabet tableAddress bytes⟩

/-! ### What is accepted -/

/-- All characters are of the alphabet, but for at most two padding characters at the end. -/
def Plain (input : List UInt8) : Prop :=
  ∃ body padding, input = body ++ List.replicate padding '='.toUInt8 ∧ padding ≤ 2 ∧
    ∀ c ∈ body, c ∈ base64Chars

/-- The input is base64. -/
def IsBase64 (input : List UInt8) : Prop := input.length % 4 = 0 ∧ Plain input

theorem isBase64_iff {input : List UInt8} : IsBase64 input ↔ base64Alphabet.Text input := by
  simp only [IsBase64, Plain, Alphabet.text_iff, mem_range_char_iff]
  rfl

/-- The decoder takes two inputs exactly if they are base64, and does not decode different ones
to the same bytes if their unused bits are zero. -/
structure DecodesExactly (tableAddress : UInt32) (first second : List UInt8) : Prop where
  first_iff : (authBase64Decode tableAddress first).isSome = true ↔ IsBase64 first
  second_iff : (authBase64Decode tableAddress second).isSome = true ↔ IsBase64 second
  ne : first ≠ second → (authBase64Decode tableAddress first).isSome = true →
    (authBase64Decode tableAddress second).isSome = true → base64Alphabet.UnusedZero first →
    base64Alphabet.UnusedZero second →
    authBase64Decode tableAddress first ≠ authBase64Decode tableAddress second

/-- Only the length is checked. -/
theorem isSome_authBase64Decode (tableAddress : UInt32) (input : List UInt8) :
    (authBase64Decode tableAddress input).isSome = true ↔ input.length % 4 = 0 := by
  unfold authBase64Decode
  split_ifs with hlength
  · simp [hlength]
  · simpa using hlength

/-- So an input is taken exactly if it is base64 where the length is right only for base64. -/
theorem isSome_iff_isBase64 (tableAddress : UInt32) (input : List UInt8) :
    ((authBase64Decode tableAddress input).isSome = true ↔ IsBase64 input) ↔
      (input.length % 4 = 0 → Plain input) := by
  rw [isSome_authBase64Decode, IsBase64]
  exact ⟨fun h hlength => (h.mp hlength).2,
    fun h => ⟨fun hlength => ⟨hlength, h hlength⟩, And.left⟩⟩

/-- The decoder keeps to base64 exactly on inputs that are plain or of a wrong length. -/
theorem decodesExactly_iff (tableAddress : UInt32) (first second : List UInt8) :
    DecodesExactly tableAddress first second ↔
      (first.length % 4 = 0 → Plain first) ∧ (second.length % 4 = 0 → Plain second) := by
  constructor
  · intro h
    exact ⟨(isSome_iff_isBase64 tableAddress first).mp h.first_iff,
      (isSome_iff_isBase64 tableAddress second).mp h.second_iff⟩
  · rintro ⟨hfirst, hsecond⟩
    have hfirst' := (isSome_iff_isBase64 tableAddress first).mpr hfirst
    have hsecond' := (isSome_iff_isBase64 tableAddress second).mpr hsecond
    refine ⟨hfirst', hsecond', fun hne htaken htaken' hzero hzero' hsame => hne ?_⟩
    -- Both are what is written for some bytes, which the decoder gives back.
    obtain ⟨bytes, rfl⟩ := (isBase64_iff.mp (hfirst'.mp htaken)).exists_encode hzero
    obtain ⟨bytes', rfl⟩ := (isBase64_iff.mp (hsecond'.mp htaken')).exists_encode hzero'
    rw [authBase64Decode_alphabet, authBase64Decode_alphabet] at hsame
    rw [Option.some.inj hsame]

/-- Four characters that are not of the alphabet are taken. -/
theorem not_decodesExactly_exclamation :
    ¬∀ (tableAddress : UInt32) (first second : List UInt8),
      DecodesExactly tableAddress first second := by
  intro hall
  obtain ⟨-, body, padding, hbody, hpadding, hchars⟩ :=
    (hall 0 (ascii "!!!!") []).first_iff.mp (by decide)
  cases body with
  | nil =>
    have hlength := congrArg List.length hbody
    rw [List.nil_append, List.length_replicate] at hlength
    change 4 = padding at hlength
    omega
  | cons c body =>
    obtain ⟨rfl, -⟩ := List.cons.inj hbody
    exact absurd (hchars _ List.mem_cons_self) (by decide +kernel)

end AuthUtils
