import Mathlib.Data.Fin.Basic
import Mathlib.Data.List.Basic
import Mathlib.Logic.Function.Basic

/-!
# Base64

Three bytes are written as four digits to the base 64. Where one or two bytes are missing at the
end, the digits that they would have stand for nothing and are replaced by padding, and the bits
of the last digit that belong to no byte are zero. The characters for the digits and for the
padding are given by an alphabet.
-/

namespace Base64

variable {α : Type*}

/-- Characters for the digits, and another one for the padding. -/
structure Alphabet (α : Type*) where
  char : Fin 64 → α
  pad : α
  char_injective : Function.Injective char
  char_ne_pad : ∀ i, char i ≠ pad

/-- The number that three bytes stand for. -/
def word (a b c : UInt8) : ℕ := a.toNat * 65536 + b.toNat * 256 + c.toNat

/-- The digit at a place with this weight. -/
def digitAt (n weight : ℕ) : Fin 64 := Fin.ofNat 64 (n / weight)

/-- The character for it. -/
def Alphabet.digit (A : Alphabet α) (n weight : ℕ) : α := A.char (digitAt n weight)

/-- The text for some bytes. -/
def Alphabet.encode (A : Alphabet α) : List UInt8 → List α
  | a :: b :: c :: rest =>
    A.digit (word a b c) 262144 :: A.digit (word a b c) 4096 :: A.digit (word a b c) 64 ::
      A.digit (word a b c) 1 :: A.encode rest
  | [a, b] =>
    [A.digit (word a b 0) 262144, A.digit (word a b 0) 4096, A.digit (word a b 0) 64, A.pad]
  | [a] => [A.digit (word a 0 0) 262144, A.digit (word a 0 0) 4096, A.pad, A.pad]
  | [] => []

/-- A text in groups of four, of which the last may be padded. -/
inductive Alphabet.Text (A : Alphabet α) : List α → Prop
  | nil : A.Text []
  | one (i j : Fin 64) : A.Text [A.char i, A.char j, A.pad, A.pad]
  | two (i j k : Fin 64) : A.Text [A.char i, A.char j, A.char k, A.pad]
  | group (i j k l : Fin 64) {rest : List α} (h : A.Text rest) :
    A.Text (A.char i :: A.char j :: A.char k :: A.char l :: rest)

/-- The bits of the last digit in front of the padding that belong to no byte are zero. -/
def Alphabet.UnusedZero (A : Alphabet α) (text : List α) : Prop :=
  (∀ front i j, text = front ++ [A.char i, A.char j, A.pad, A.pad] → j.val % 16 = 0) ∧
    ∀ front i j k, text = front ++ [A.char i, A.char j, A.char k, A.pad] → k.val % 4 = 0

variable {A : Alphabet α} {text : List α}

/-! ### The shape of a text -/

/-- Bytes are written as a text. -/
theorem Alphabet.text_encode (A : Alphabet α) (bytes : List UInt8) : A.Text (A.encode bytes) := by
  match bytes with
  | [] => exact .nil
  | [_] => exact .one _ _
  | [_, _] => exact .two _ _ _
  | a :: b :: c :: rest => exact .group _ _ _ _ (A.text_encode rest)

/-- A text consists of characters for digits with padding behind them. -/
theorem Alphabet.Text.exists_body (h : A.Text text) :
    text.length % 4 = 0 ∧ ∃ body padding, text = body ++ List.replicate padding A.pad ∧
      padding ≤ 2 ∧ ∀ c ∈ body, c ∈ Set.range A.char := by
  induction h with
  | nil => exact ⟨rfl, [], 0, rfl, Nat.zero_le 2, by simp⟩
  | one i j => exact ⟨by simp, [A.char i, A.char j], 2, rfl, Nat.le_refl 2, by simp⟩
  | two i j k => exact ⟨by simp, [A.char i, A.char j, A.char k], 1, rfl, by decide, by simp⟩
  | group i j k l _ ih =>
    obtain ⟨hlength, body, padding, rfl, hle, hbody⟩ := ih
    refine ⟨?_, A.char i :: A.char j :: A.char k :: A.char l :: body, padding, rfl, hle, ?_⟩
    · simp only [List.length_cons] at hlength ⊢
      omega
    · simpa using hbody

/-- Such characters in groups of four are a text. -/
theorem Alphabet.text_of_body (A : Alphabet α) (body : List α) {padding : ℕ}
    (hpadding : padding ≤ 2) (hlength : (body.length + padding) % 4 = 0)
    (hbody : ∀ c ∈ body, c ∈ Set.range A.char) :
    A.Text (body ++ List.replicate padding A.pad) := by
  match body with
  | [] =>
    simp only [List.length_nil] at hlength
    obtain rfl : padding = 0 := by omega
    exact .nil
  | [_] =>
    simp only [List.length_cons, List.length_nil] at hlength
    omega
  | [x, y] =>
    simp only [List.length_cons, List.length_nil] at hlength
    obtain rfl : padding = 2 := by omega
    obtain ⟨i, rfl⟩ := hbody x (by simp)
    obtain ⟨j, rfl⟩ := hbody y (by simp)
    exact .one i j
  | [x, y, z] =>
    simp only [List.length_cons, List.length_nil] at hlength
    obtain rfl : padding = 1 := by omega
    obtain ⟨i, rfl⟩ := hbody x (by simp)
    obtain ⟨j, rfl⟩ := hbody y (by simp)
    obtain ⟨k, rfl⟩ := hbody z (by simp)
    exact .two i j k
  | x :: y :: z :: w :: rest =>
    simp only [List.length_cons] at hlength
    obtain ⟨i, rfl⟩ := hbody x (by simp)
    obtain ⟨j, rfl⟩ := hbody y (by simp)
    obtain ⟨k, rfl⟩ := hbody z (by simp)
    obtain ⟨l, rfl⟩ := hbody w (by simp)
    have hrest : ∀ c ∈ rest, c ∈ Set.range A.char := fun c hc => hbody c (by simp [hc])
    exact .group i j k l (A.text_of_body rest hpadding (by omega) hrest)

/-- A text, described from outside. -/
theorem Alphabet.text_iff : A.Text text ↔
    text.length % 4 = 0 ∧ ∃ body padding, text = body ++ List.replicate padding A.pad ∧
      padding ≤ 2 ∧ ∀ c ∈ body, c ∈ Set.range A.char := by
  refine ⟨Alphabet.Text.exists_body, ?_⟩
  rintro ⟨hlength, body, padding, rfl, hpadding, hbody⟩
  rw [List.length_append, List.length_replicate] at hlength
  exact A.text_of_body body hpadding hlength hbody

/-! ### The length and the padding of what is written -/

/-- Every three bytes, and those that are left, take four characters. -/
theorem Alphabet.length_encode (A : Alphabet α) (bytes : List UInt8) :
    (A.encode bytes).length = 4 * ((bytes.length + 2) / 3) := by
  match bytes with
  | [] => rfl
  | [_] => simp [Alphabet.encode]
  | [_, _] => simp [Alphabet.encode]
  | a :: b :: c :: rest =>
    have hrest := A.length_encode rest
    simp only [Alphabet.encode, List.length_cons, hrest]
    omega

/-- Behind the characters for digits there is one padding character for each byte that is
missing in the last group. -/
theorem Alphabet.encode_padded (A : Alphabet α) (bytes : List UInt8) :
    ∃ body, A.encode bytes = body ++ List.replicate ((3 - bytes.length % 3) % 3) A.pad ∧
      ∀ c ∈ body, c ∈ Set.range A.char := by
  match bytes with
  | [] => exact ⟨[], rfl, by simp⟩
  | [a] => exact ⟨[_, _], rfl, by simp [Alphabet.digit]⟩
  | [a, b] => exact ⟨[_, _, _], rfl, by simp [Alphabet.digit]⟩
  | a :: b :: c :: rest =>
    obtain ⟨body, hrest, hbody⟩ := A.encode_padded rest
    refine ⟨A.digit (word a b c) 262144 :: A.digit (word a b c) 4096 ::
      A.digit (word a b c) 64 :: A.digit (word a b c) 1 :: body, ?_, ?_⟩
    · have hmod : (a :: b :: c :: rest).length % 3 = rest.length % 3 := by
        simp only [List.length_cons]
        omega
      rw [hmod, Alphabet.encode, hrest]
      rfl
    · simpa [Alphabet.digit] using hbody

/-! ### What a text stands for -/

/-- The bytes whose digits are the given ones: the first is made of two digits, and so is the
second. -/
def firstByte (i j : Fin 64) : UInt8 := UInt8.ofNat (i.val * 4 + j.val / 16)

@[inherit_doc firstByte]
def secondByte (j k : Fin 64) : UInt8 := UInt8.ofNat (j.val % 16 * 16 + k.val / 4)

@[inherit_doc firstByte]
def thirdByte (k l : Fin 64) : UInt8 := UInt8.ofNat (k.val % 4 * 64 + l.val)

theorem toNat_firstByte (i j : Fin 64) : (firstByte i j).toNat = i.val * 4 + j.val / 16 := by
  have hi := i.isLt
  have hj := j.isLt
  rw [firstByte, UInt8.toNat_ofNat']
  omega

theorem toNat_secondByte (j k : Fin 64) :
    (secondByte j k).toNat = j.val % 16 * 16 + k.val / 4 := by
  have hk := k.isLt
  rw [secondByte, UInt8.toNat_ofNat']
  omega

theorem toNat_thirdByte (k l : Fin 64) : (thirdByte k l).toNat = k.val % 4 * 64 + l.val := by
  have hl := l.isLt
  rw [thirdByte, UInt8.toNat_ofNat']
  omega

/-- Four digits are those of three bytes. -/
theorem word_bytes (i j k l : Fin 64) :
    word (firstByte i j) (secondByte j k) (thirdByte k l) =
      i.val * 262144 + j.val * 4096 + k.val * 64 + l.val := by
  rw [word, toNat_firstByte, toNat_secondByte, toNat_thirdByte]
  omega

/-- Three bytes are read back from their digits. -/
theorem bytes_word (a b c : UInt8) :
    firstByte (digitAt (word a b c) 262144) (digitAt (word a b c) 4096) = a ∧
      secondByte (digitAt (word a b c) 4096) (digitAt (word a b c) 64) = b ∧
      thirdByte (digitAt (word a b c) 64) (digitAt (word a b c) 1) = c := by
  have ha := a.toNat_lt
  have hb := b.toNat_lt
  have hc := c.toNat_lt
  have hdigit : ∀ n weight, (digitAt n weight).val = n / weight % 64 := fun _ _ => rfl
  refine ⟨UInt8.toNat_inj.mp ?_, UInt8.toNat_inj.mp ?_, UInt8.toNat_inj.mp ?_⟩
  · rw [toNat_firstByte, hdigit, hdigit, word]
    omega
  · rw [toNat_secondByte, hdigit, hdigit, word]
    omega
  · rw [toNat_thirdByte, hdigit, hdigit, word]
    omega

/-- A digit at its place. -/
theorem Alphabet.digit_eq {n weight : ℕ} {i : Fin 64} (h : n / weight % 64 = i.val) :
    A.digit n weight = A.char i :=
  congrArg A.char (Fin.ext h)

/-- A text whose unused bits are zero is what is written for some bytes. -/
theorem Alphabet.Text.exists_encode (h : A.Text text) (hzero : A.UnusedZero text) :
    ∃ bytes, A.encode bytes = text := by
  induction h with
  | nil => exact ⟨[], rfl⟩
  | one i j =>
    have hj := hzero.1 [] i j rfl
    have hi := i.isLt
    have hword : word (firstByte i j) 0 0 = i.val * 262144 + j.val * 4096 := by
      rw [word, toNat_firstByte, UInt8.toNat_zero]
      omega
    refine ⟨[firstByte i j], ?_⟩
    rw [Alphabet.encode, hword, A.digit_eq (i := i) (by omega), A.digit_eq (i := j) (by omega)]
  | two i j k =>
    have hk := hzero.2 [] i j k rfl
    have hi := i.isLt
    have hj := j.isLt
    have hword : word (firstByte i j) (secondByte j k) 0 =
        i.val * 262144 + j.val * 4096 + k.val * 64 := by
      rw [word, toNat_firstByte, toNat_secondByte, UInt8.toNat_zero]
      omega
    refine ⟨[firstByte i j, secondByte j k], ?_⟩
    rw [Alphabet.encode, hword, A.digit_eq (i := i) (by omega), A.digit_eq (i := j) (by omega),
      A.digit_eq (i := k) (by omega)]
  | group i j k l _ ih =>
    obtain ⟨bytes, hbytes⟩ := ih
      ⟨fun front i' j' hrest => hzero.1 (_ :: _ :: _ :: _ :: front) i' j' (by rw [hrest]; rfl),
        fun front i' j' k' hrest => hzero.2 (_ :: _ :: _ :: _ :: front) i' j' k'
          (by rw [hrest]; rfl)⟩
    refine ⟨firstByte i j :: secondByte j k :: thirdByte k l :: bytes, ?_⟩
    rw [Alphabet.encode, word_bytes, hbytes, A.digit_eq (i := i) (by omega),
      A.digit_eq (i := j) (by omega), A.digit_eq (i := k) (by omega),
      A.digit_eq (i := l) (by omega)]

end Base64
