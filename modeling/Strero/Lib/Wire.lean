import Mathlib.Data.Nat.Bitwise
import Mathlib.Tactic.NormNum

/-!
# Fixed-width integers on a byte stream

Network protocols store integers as runs of bytes in a fixed order. This file
collects the big-endian and little-endian layouts of 16, 24, 32 and 64 bits,
the operation that takes an exact number of bytes off the front of a stream,
and the identities that make writing and reading inverse to each other.
-/

namespace Wire

/-- The low byte of a word, as an assignment to an unsigned byte keeps it. -/
def lowByte (x : UInt32) : UInt8 := (x &&& 0xFF).toUInt8

@[simp] theorem lowByte_toNat (x : UInt32) : (lowByte x).toNat = x.toNat % 256 := by
  simp [lowByte, Nat.and_two_pow_sub_one_eq_mod _ 8]

/-- A statement about all bytes is one about 256 numbers. -/
theorem forall_byte {p : UInt8 → Prop} (h : ∀ n : Fin 256, p ⟨⟨n⟩⟩) (b : UInt8) : p b :=
  h b.toBitVec.toFin

/-- Sixteen bits, most significant byte first. -/
def putBe16 (x : UInt32) : List UInt8 := [lowByte (x >>> 8), lowByte x]

/-- Twenty-four bits, most significant byte first. -/
def putBe24 (x : UInt32) : List UInt8 := [lowByte (x >>> 16), lowByte (x >>> 8), lowByte x]

/-- Thirty-two bits, most significant byte first. -/
def putBe32 (x : UInt32) : List UInt8 :=
  [lowByte (x >>> 24), lowByte (x >>> 16), lowByte (x >>> 8), lowByte x]

/-- Thirty-two bits, least significant byte first. -/
def putLe32 (x : UInt32) : List UInt8 :=
  [lowByte x, lowByte (x >>> 8), lowByte (x >>> 16), lowByte (x >>> 24)]

@[simp] theorem putBe16_length (x : UInt32) : (putBe16 x).length = 2 := rfl
@[simp] theorem putBe24_length (x : UInt32) : (putBe24 x).length = 3 := rfl
@[simp] theorem putBe32_length (x : UInt32) : (putBe32 x).length = 4 := rfl
@[simp] theorem putLe32_length (x : UInt32) : (putLe32 x).length = 4 := rfl

/-- Two bytes, most significant first, as a word. -/
def getBe16 (a b : UInt8) : UInt32 := (a.toUInt32 <<< 8) ||| b.toUInt32

/-- Three bytes, most significant first, as a word. -/
def getBe24 (a b c : UInt8) : UInt32 := (a.toUInt32 <<< 16) ||| (b.toUInt32 <<< 8) ||| c.toUInt32

/-- Four bytes, most significant first, as a word. -/
def getBe32 (a b c d : UInt8) : UInt32 :=
  (a.toUInt32 <<< 24) ||| (b.toUInt32 <<< 16) ||| (c.toUInt32 <<< 8) ||| d.toUInt32

/-- Four bytes, least significant first, as a word. -/
def getLe32 (a b c d : UInt8) : UInt32 :=
  a.toUInt32 ||| (b.toUInt32 <<< 8) ||| (c.toUInt32 <<< 16) ||| (d.toUInt32 <<< 24)

/-! ### Bitwise assembly as arithmetic -/

/-- Joining a shifted number with one that fits below the shift is addition. -/
theorem shiftLeft_or (a : ℕ) {b i : ℕ} (h : b < 2 ^ i) : a <<< i ||| b = a * 2 ^ i + b := by
  rw [← Nat.shiftLeft_add_eq_or_of_lt h, Nat.shiftLeft_eq]

private theorem byte_shift_toNat (a : UInt8) {i : UInt32} (hi : i.toNat ≤ 24) :
    (a.toUInt32 <<< i).toNat = a.toNat <<< i.toNat := by
  have ha := a.toNat_lt
  have hpow : 2 ^ i.toNat ≤ 2 ^ 24 := Nat.pow_le_pow_right (by norm_num) hi
  have hmod : i.toNat % 32 = i.toNat := Nat.mod_eq_of_lt (by omega)
  rw [UInt32.toNat_shiftLeft, UInt8.toNat_toUInt32, hmod, Nat.shiftLeft_eq, Nat.mod_eq_of_lt]
  calc a.toNat * 2 ^ i.toNat ≤ 255 * 2 ^ 24 := Nat.mul_le_mul (by omega) hpow
    _ < 2 ^ 32 := by norm_num

theorem getBe16_toNat (a b : UInt8) : (getBe16 a b).toNat = a.toNat * 256 + b.toNat := by
  have hb := b.toNat_lt
  rw [getBe16, UInt32.toNat_or, UInt8.toNat_toUInt32, byte_shift_toNat a (by decide)]
  exact shiftLeft_or a.toNat (i := 8) (by omega)

theorem getBe24_toNat (a b c : UInt8) :
    (getBe24 a b c).toNat = a.toNat * 65536 + b.toNat * 256 + c.toNat := by
  have hb := b.toNat_lt
  have hc := c.toNat_lt
  have hlow : b.toNat <<< 8 ||| c.toNat = b.toNat * 2 ^ 8 + c.toNat := shiftLeft_or _ (by omega)
  have hall : a.toNat <<< 16 ||| (b.toNat * 2 ^ 8 + c.toNat) =
      a.toNat * 2 ^ 16 + (b.toNat * 2 ^ 8 + c.toNat) := shiftLeft_or _ (by omega)
  rw [getBe24, UInt32.toNat_or, UInt32.toNat_or, UInt8.toNat_toUInt32,
    byte_shift_toNat a (by decide), byte_shift_toNat b (by decide), Nat.or_assoc]
  change a.toNat <<< 16 ||| (b.toNat <<< 8 ||| c.toNat) = _
  rw [hlow, hall]
  omega

theorem getBe32_toNat (a b c d : UInt8) :
    (getBe32 a b c d).toNat =
      a.toNat * 16777216 + b.toNat * 65536 + c.toNat * 256 + d.toNat := by
  have hb := b.toNat_lt
  have hc := c.toNat_lt
  have hd := d.toNat_lt
  have hlow : c.toNat <<< 8 ||| d.toNat = c.toNat * 2 ^ 8 + d.toNat := shiftLeft_or _ (by omega)
  have hmid : b.toNat <<< 16 ||| (c.toNat * 2 ^ 8 + d.toNat) =
      b.toNat * 2 ^ 16 + (c.toNat * 2 ^ 8 + d.toNat) := shiftLeft_or _ (by omega)
  have hall : a.toNat <<< 24 ||| (b.toNat * 2 ^ 16 + (c.toNat * 2 ^ 8 + d.toNat)) =
      a.toNat * 2 ^ 24 + (b.toNat * 2 ^ 16 + (c.toNat * 2 ^ 8 + d.toNat)) :=
    shiftLeft_or _ (by omega)
  rw [getBe32, UInt32.toNat_or, UInt32.toNat_or, UInt32.toNat_or, UInt8.toNat_toUInt32,
    byte_shift_toNat a (by decide), byte_shift_toNat b (by decide),
    byte_shift_toNat c (by decide), Nat.or_assoc, Nat.or_assoc]
  change a.toNat <<< 24 ||| (b.toNat <<< 16 ||| (c.toNat <<< 8 ||| d.toNat)) = _
  rw [hlow, hmid, hall]
  omega

/-- The little-endian layout is the big-endian one read from the other end. -/
theorem getLe32_eq_getBe32 (a b c d : UInt8) : getLe32 a b c d = getBe32 d c b a := by
  unfold getLe32 getBe32
  generalize a.toUInt32 = w, b.toUInt32 <<< 8 = x, c.toUInt32 <<< 16 = y, d.toUInt32 <<< 24 = z
  ac_rfl

/-! ### Reading back what was written -/

theorem getBe16_putBe16 {x : UInt32} (hx : x.toNat < 2 ^ 16) :
    getBe16 (lowByte (x >>> 8)) (lowByte x) = x := by
  apply UInt32.toNat_inj.mp
  rw [getBe16_toNat]
  simp only [lowByte_toNat, UInt32.toNat_shiftRight, UInt32.reduceToNat, Nat.shiftRight_eq_div_pow,
    Nat.reduceMod, Nat.reducePow]
  omega

theorem getBe24_putBe24 {x : UInt32} (hx : x.toNat < 2 ^ 24) :
    getBe24 (lowByte (x >>> 16)) (lowByte (x >>> 8)) (lowByte x) = x := by
  apply UInt32.toNat_inj.mp
  rw [getBe24_toNat]
  simp only [lowByte_toNat, UInt32.toNat_shiftRight, UInt32.reduceToNat, Nat.shiftRight_eq_div_pow,
    Nat.reduceMod, Nat.reducePow]
  omega

theorem getBe32_putBe32 (x : UInt32) :
    getBe32 (lowByte (x >>> 24)) (lowByte (x >>> 16)) (lowByte (x >>> 8)) (lowByte x) = x := by
  have hx := x.toNat_lt
  apply UInt32.toNat_inj.mp
  rw [getBe32_toNat]
  simp only [lowByte_toNat, UInt32.toNat_shiftRight, UInt32.reduceToNat, Nat.shiftRight_eq_div_pow,
    Nat.reduceMod, Nat.reducePow]
  omega

theorem getLe32_putLe32 (x : UInt32) :
    getLe32 (lowByte x) (lowByte (x >>> 8)) (lowByte (x >>> 16)) (lowByte (x >>> 24)) = x := by
  rw [getLe32_eq_getBe32, getBe32_putBe32]

/-- Only the low 24 bits are written. -/
theorem putBe24_congr {x y : UInt32} (h : x.toNat % 2 ^ 24 = y.toNat % 2 ^ 24) :
    putBe24 x = putBe24 y := by
  have hhigh : lowByte (x >>> 16) = lowByte (y >>> 16) := by
    apply UInt8.toNat_inj.mp
    simp only [lowByte_toNat, UInt32.toNat_shiftRight, UInt32.reduceToNat,
      Nat.shiftRight_eq_div_pow, Nat.reduceMod, Nat.reducePow]
    omega
  have hmid : lowByte (x >>> 8) = lowByte (y >>> 8) := by
    apply UInt8.toNat_inj.mp
    simp only [lowByte_toNat, UInt32.toNat_shiftRight, UInt32.reduceToNat,
      Nat.shiftRight_eq_div_pow, Nat.reduceMod, Nat.reducePow]
    omega
  have hlow : lowByte x = lowByte y := by
    apply UInt8.toNat_inj.mp
    rw [lowByte_toNat, lowByte_toNat]
    omega
  rw [putBe24, putBe24, hhigh, hmid, hlow]

/-! ### Sixty-four bits -/

/-- Sixty-four bits, most significant byte first, as a loop over the shifts writes them. -/
def putBe64 (bits : UInt64) : List UInt8 :=
  ([56, 48, 40, 32, 24, 16, 8, 0] : List UInt64).map fun i => ((bits >>> i) &&& 0xFF).toUInt8

@[simp] theorem putBe64_length (bits : UInt64) : (putBe64 bits).length = 8 := rfl

/-- The lowest of the bytes that a shift leaves. -/
theorem shiftRight_lowByte (bits i : UInt64) :
    ((bits >>> i) &&& 0xFF).toUInt8.toUInt64.toNat = (bits >>> i).toNat % 256 := by
  have hmask : ∀ n, n &&& UInt64.toNat 255 = n % 2 ^ 8 := fun n =>
    Nat.and_two_pow_sub_one_eq_mod n 8
  rw [UInt8.toNat_toUInt64, UInt64.toNat_toUInt8, UInt64.toNat_and, hmask]
  omega

/-- One more byte below those that were read. -/
theorem shiftRight_step (bits i j : UInt64) (hj : j.toNat = i.toNat + 8) (hlt : j.toNat < 64) :
    (bits >>> j) <<< 8 ||| ((bits >>> i) &&& 0xFF).toUInt8.toUInt64 = bits >>> i := by
  apply UInt64.toNat_inj.mp
  have hshift : (bits >>> j).toNat = (bits >>> i).toNat >>> 8 := by
    rw [UInt64.toNat_shiftRight, UInt64.toNat_shiftRight, Nat.mod_eq_of_lt hlt,
      Nat.mod_eq_of_lt (by omega), hj, Nat.shiftRight_add]
  have hword := (bits >>> i).toNat_lt
  rw [UInt64.toNat_or, UInt64.toNat_shiftLeft, shiftRight_lowByte, hshift]
  change (bits >>> i).toNat >>> 8 <<< 8 % 2 ^ 64 ||| _ = _
  rw [Nat.mod_eq_of_lt, shiftLeft_or _ (by omega), Nat.shiftRight_eq_div_pow]
  · omega
  · rw [Nat.shiftRight_eq_div_pow, Nat.shiftLeft_eq]
    omega

/-- A loop that shifts in byte after byte reads the word back. -/
theorem foldl_putBe64 (bits : UInt64) :
    (putBe64 bits).foldl (fun (acc : UInt64) b => (acc <<< 8) ||| b.toUInt64) 0 = bits := by
  have hfirst : (0 : UInt64) <<< 8 ||| ((bits >>> 56) &&& 0xFF).toUInt8.toUInt64 = bits >>> 56 := by
    apply UInt64.toNat_inj.mp
    have hbits := bits.toNat_lt
    rw [UInt64.zero_shiftLeft, UInt64.zero_or, shiftRight_lowByte, UInt64.toNat_shiftRight]
    change bits.toNat >>> 56 % 256 = bits.toNat >>> 56
    rw [Nat.shiftRight_eq_div_pow]
    omega
  have hstep := shiftRight_step bits
  simp only [putBe64, List.map_cons, List.map_nil, List.foldl_cons, List.foldl_nil]
  rw [hfirst, hstep 48 56 rfl (by decide), hstep 40 48 rfl (by decide),
    hstep 32 40 rfl (by decide), hstep 24 32 rfl (by decide), hstep 16 24 rfl (by decide),
    hstep 8 16 rfl (by decide), hstep 0 8 rfl (by decide)]
  exact UInt64.toNat_inj.mp (by rw [UInt64.toNat_shiftRight]; rfl)

/-! ### Taking bytes off a stream -/

/-- Take exactly `n` bytes off the front of a stream, or fail when it ends first. -/
def takeExact (n : ℕ) (input : List UInt8) : Option (List UInt8 × List UInt8) :=
  if n ≤ input.length then some (input.take n, input.drop n) else none

/-- A stream that begins with `n` given bytes yields exactly those. -/
theorem takeExact_append {n : ℕ} {bytes : List UInt8} (h : bytes.length = n) (rest : List UInt8) :
    takeExact n (bytes ++ rest) = some (bytes, rest) := by
  subst h
  simp [takeExact]

theorem takeExact_eq_some {n : ℕ} {input bytes rest : List UInt8} :
    takeExact n input = some (bytes, rest) ↔ bytes.length = n ∧ input = bytes ++ rest := by
  constructor
  · intro h
    unfold takeExact at h
    split at h
    · rename_i hn
      obtain ⟨rfl, rfl⟩ := Prod.mk.inj (Option.some.inj h)
      exact ⟨List.length_take_of_le hn, (List.take_append_drop n input).symm⟩
    · cases h
  · rintro ⟨hlen, rfl⟩
    exact takeExact_append hlen rest

end Wire
