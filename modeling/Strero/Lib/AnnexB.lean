import Mathlib.Data.List.Infix
import Mathlib.Data.Nat.Notation

/-!
# Byte streams of NAL units

In a byte stream each NAL unit stands behind a start code of three or four bytes. A unit
holds nothing that looks like a start code, so a reader finds the units again. Only where a
unit ends in a zero does a code of three bytes look like one of four.
-/

namespace AnnexB

/-! ### Units and their start codes -/

/-- The two start codes. -/
inductive StartCode
  | short | long
deriving DecidableEq, Repr

/-- The bytes of a start code. -/
def StartCode.bytes : StartCode → List UInt8
  | .short => [0, 0, 1]
  | .long => [0, 0, 0, 1]

/-- The bytes hold neither three zeros nor a start code. -/
structure EmulationFree (bytes : List UInt8) : Prop where
  zeros : ¬[0, 0, 0] <:+: bytes
  startCode : ¬[0, 0, 1] <:+: bytes

/-- A NAL unit has a first byte and holds nothing like a start code. -/
structure NalUnit where
  bytes : List UInt8
  ne_nil : bytes ≠ []
  emulationFree : EmulationFree bytes

/-- A NAL unit with the start code in front of it. -/
structure CodedUnit where
  code : StartCode
  nal : NalUnit

/-- The byte stream of some units. -/
def assemble (units : List CodedUnit) : List UInt8 :=
  units.flatMap fun u => u.code.bytes ++ u.nal.bytes

/-- The last byte of the unit is a zero. -/
def NalUnit.EndsInZero (nal : NalUnit) : Prop := nal.bytes.getLast? = some 0

instance (nal : NalUnit) : Decidable nal.EndsInZero := inferInstanceAs (Decidable (_ = _))

/-- The first byte of the unit. -/
def NalUnit.header (nal : NalUnit) : UInt8 := nal.bytes.head nal.ne_nil

@[simp] theorem assemble_nil : assemble [] = [] := rfl

@[simp] theorem assemble_cons (u : CodedUnit) (units : List CodedUnit) :
    assemble (u :: units) = u.code.bytes ++ (u.nal.bytes ++ assemble units) := by
  rw [assemble, List.flatMap_cons, List.append_assoc]
  rfl

theorem NalUnit.length_pos (nal : NalUnit) : 0 < nal.bytes.length :=
  List.length_pos_of_ne_nil nal.ne_nil

theorem NalUnit.bytes_eq (nal : NalUnit) : nal.bytes = nal.header :: nal.bytes.tail :=
  (List.cons_head_tail nal.ne_nil).symm

/-- Nothing follows a unit, or a start code does. -/
def FollowsUnit (rest : List UInt8) : Prop := rest = [] ∨ [0, 0] <+: rest

theorem followsUnit_assemble (units : List CodedUnit) : FollowsUnit (assemble units) := by
  cases units with
  | nil => exact .inl rfl
  | cons u units =>
    rw [assemble_cons]
    cases u.code with
    | short => exact .inr ⟨_, rfl⟩
    | long => exact .inr ⟨_, rfl⟩

/-! ### Where start codes appear -/

/-- A part of such bytes is such bytes. -/
theorem EmulationFree.suffix {bytes part : List UInt8} (h : EmulationFree bytes)
    (hpart : part <:+ bytes) : EmulationFree part :=
  ⟨fun hzeros => h.zeros (hzeros.trans hpart.isInfix),
    fun hcode => h.startCode (hcode.trans hpart.isInfix)⟩

/-- A short start code does not begin in a unit. -/
theorem EmulationFree.not_short {bytes rest : List UInt8} (h : EmulationFree bytes)
    (hne : bytes ≠ []) (hrest : FollowsUnit rest) : ¬[0, 0, 1] <+: bytes ++ rest := by
  rintro ⟨after, hcode⟩
  match bytes with
  | [a] =>
    rcases hrest with rfl | ⟨more, rfl⟩ <;> simp at hcode
  | [a, b] =>
    rcases hrest with rfl | ⟨more, rfl⟩ <;> simp at hcode
  | a :: b :: c :: part =>
    simp only [List.cons_append, List.cons.injEq, List.nil_append] at hcode
    obtain ⟨rfl, rfl, rfl, -⟩ := hcode
    exact h.startCode ⟨[], part, rfl⟩

/-- A long start code begins in a unit only if its last byte is the first zero of the code. -/
theorem EmulationFree.long_iff {bytes rest : List UInt8} (h : EmulationFree bytes)
    (hne : bytes ≠ []) (hrest : FollowsUnit rest) :
    [0, 0, 0, 1] <+: bytes ++ rest ↔ bytes = [0] ∧ [0, 0, 1] <+: rest := by
  constructor
  · rintro ⟨after, hcode⟩
    match bytes with
    | [a] =>
      simp only [List.cons_append, List.nil_append, List.cons.injEq] at hcode
      exact ⟨by rw [← hcode.1], after, by simpa using hcode.2⟩
    | [a, b] =>
      rcases hrest with rfl | ⟨more, rfl⟩ <;> simp at hcode
    | a :: b :: c :: part =>
      simp only [List.cons_append, List.cons.injEq, List.nil_append] at hcode
      obtain ⟨rfl, rfl, rfl, -⟩ := hcode
      exact (h.zeros ⟨[], part, rfl⟩).elim
  · rintro ⟨rfl, after, rfl⟩
    exact ⟨after, rfl⟩

/-- No start code begins at the offset. -/
def NoCodeAt (stream : List UInt8) (offset : ℕ) : Prop :=
  ¬[0, 0, 0, 1] <+: stream.drop offset ∧ ¬[0, 0, 1] <+: stream.drop offset

/-- What stands in front of a stream does not matter. -/
theorem NoCodeAt.append {stream : List UInt8} {offset : ℕ} (h : NoCodeAt stream offset)
    (before : List UInt8) : NoCodeAt (before ++ stream) (before.length + offset) := by
  rwa [NoCodeAt, List.drop_length_add_append]

/-- No start code begins in a unit unless its last byte is the first zero of a code. -/
theorem EmulationFree.noCodeAt {bytes rest : List UInt8} (h : EmulationFree bytes)
    (hrest : FollowsUnit rest) {offset : ℕ} (hoffset : offset < bytes.length)
    (hlast : bytes.getLast? = some 0 → [0, 0, 1] <+: rest → offset + 1 < bytes.length) :
    NoCodeAt (bytes ++ rest) offset := by
  have hne : bytes.drop offset ≠ [] := by simpa using hoffset
  have hfree := h.suffix (List.drop_suffix offset bytes)
  rw [NoCodeAt, List.drop_append_of_le_length hoffset.le, hfree.long_iff hne hrest]
  refine ⟨?_, hfree.not_short hne hrest⟩
  rintro ⟨hzero, hcode⟩
  have hlength : bytes.length - offset = 1 := by
    rw [← List.length_drop, hzero, List.length_singleton]
  have hend : bytes.getLast? = some 0 := by
    rw [← List.take_append_drop offset bytes, hzero, List.getLast?_append]
    rfl
  have := hlast hend hcode
  omega

/-- Behind a unit the first start code is the one of the next unit, and begins with the last byte
of the unit where that is a zero in front of a short code. -/
theorem NalUnit.next_code (nal : NalUnit) (u : CodedUnit) (units : List CodedUnit) :
    ∃ (front : List UInt8) (code : StartCode),
      nal.bytes ++ assemble (u :: units) =
        front ++ (code.bytes ++ (u.nal.bytes ++ assemble units)) ∧
      front.length + code.bytes.length = nal.bytes.length + u.code.bytes.length ∧
      (nal.bytes = front ∨ nal.bytes = front ++ [0]) ∧
      ∀ n < front.length, NoCodeAt (nal.bytes ++ assemble (u :: units)) n := by
  have hfollows := followsUnit_assemble (u :: units)
  by_cases hjoined : nal.EndsInZero ∧ u.code = .short
  · obtain ⟨hzero, hcode⟩ := hjoined
    obtain ⟨front, hfront⟩ : ∃ front, nal.bytes = front ++ [0] := List.getLast?_eq_some_iff.mp hzero
    refine ⟨front, .long, ?_, ?_, .inr hfront, fun n hn => ?_⟩
    · rw [assemble_cons, hfront, hcode, List.append_assoc]
      rfl
    · rw [hfront, hcode, List.length_append]
      rfl
    · have hlength : nal.bytes.length = front.length + 1 := by rw [hfront, List.length_append]; rfl
      exact nal.emulationFree.noCodeAt hfollows (by omega) fun _ _ => by omega
  · refine ⟨nal.bytes, u.code, by rw [assemble_cons], rfl, .inl rfl, fun n hn => ?_⟩
    refine nal.emulationFree.noCodeAt hfollows hn fun hzero hcode => ?_
    rw [assemble_cons] at hcode
    cases hshort : u.code with
    | short => exact absurd ⟨hzero, hshort⟩ hjoined
    | long => simp [hshort, StartCode.bytes] at hcode

/-! ### Units behind long start codes -/

/-- The first bytes of the units behind long start codes, for a reader that looks at every
offset. -/
def longHeaders : List UInt8 → List UInt8
  | 0 :: 0 :: 0 :: 1 :: b :: rest => b :: longHeaders (0 :: 0 :: 1 :: b :: rest)
  | _ :: rest => longHeaders rest
  | [] => []

/-- The units that such a reader finds. -/
def behindLong (afterZero : Prop) [Decidable afterZero] : List CodedUnit → List NalUnit
  | [] => []
  | u :: units =>
    (if u.code = .long ∨ afterZero then [u.nal] else []) ++ behindLong u.nal.EndsInZero units

theorem mem_of_mem_behindLong {afterZero : Prop} [Decidable afterZero] {units : List CodedUnit}
    {nal : NalUnit} (h : nal ∈ behindLong afterZero units) : ∃ u ∈ units, u.nal = nal := by
  induction units generalizing afterZero with
  | nil => cases h
  | cons u units ih =>
    rcases List.mem_append.mp h with hfirst | hrest
    · split at hfirst
      · exact ⟨u, List.mem_cons_self, (List.mem_singleton.mp hfirst).symm⟩
      · cases hfirst
    · obtain ⟨v, hv, heq⟩ := ih hrest
      exact ⟨v, List.mem_cons_of_mem u hv, heq⟩

theorem longHeaders_cons_of_not {a : UInt8} {rest : List UInt8}
    (h : ¬[0, 0, 0, 1] <+: a :: rest) : longHeaders (a :: rest) = longHeaders rest := by
  rw [longHeaders]
  rintro b more rfl rfl
  exact h ⟨b :: more, rfl⟩

theorem longHeaders_long (b : UInt8) (rest : List UInt8) :
    longHeaders (0 :: 0 :: 0 :: 1 :: b :: rest) = b :: longHeaders (b :: rest) := by
  rw [longHeaders, longHeaders_cons_of_not (by simp), longHeaders_cons_of_not (by simp),
    longHeaders_cons_of_not (by simp)]

theorem longHeaders_short (b : UInt8) (rest : List UInt8) :
    longHeaders (0 :: 0 :: 1 :: b :: rest) = longHeaders (b :: rest) := by
  rw [longHeaders_cons_of_not (by simp), longHeaders_cons_of_not (by simp),
    longHeaders_cons_of_not (by simp)]

/-- The reader finds nothing in a unit, except for its last byte. -/
theorem longHeaders_append {bytes rest : List UInt8} (h : EmulationFree bytes)
    (hne : bytes ≠ []) (hrest : FollowsUnit rest) :
    longHeaders (bytes ++ rest) =
      longHeaders (if bytes.getLast? = some 0 then 0 :: rest else rest) := by
  induction bytes with
  | nil => exact absurd rfl hne
  | cons a bytes ih =>
    by_cases hlast : bytes = []
    · subst hlast
      by_cases hzero : a = 0
      · simp [hzero]
      · have hskip : ¬[0, 0, 0, 1] <+: a :: rest := by
          rintro ⟨after, hcode⟩
          exact hzero (List.cons.inj hcode).1.symm
        simpa [hzero] using longHeaders_cons_of_not hskip
    · have hskip : ¬[0, 0, 0, 1] <+: a :: (bytes ++ rest) := by
        intro hcode
        have heq := ((h.long_iff hne hrest).mp hcode).1
        exact hlast (List.cons.inj heq).2
      rw [List.cons_append, longHeaders_cons_of_not hskip,
        ih (h.suffix (List.suffix_cons a bytes)) hlast, List.getLast?_cons_of_ne_nil hlast]

/-- The reader finds the units behind long start codes, also if a zero stands in front. -/
theorem longHeaders_zero_assemble (afterZero : Prop) [Decidable afterZero]
    (units : List CodedUnit) :
    longHeaders (if afterZero then 0 :: assemble units else assemble units) =
      (behindLong afterZero units).map NalUnit.header := by
  induction units generalizing afterZero with
  | nil => by_cases h : afterZero <;> simp [h, behindLong, longHeaders]
  | cons u units ih =>
    have hnext : longHeaders (u.nal.bytes ++ assemble units) =
        (behindLong u.nal.EndsInZero units).map NalUnit.header := by
      rw [longHeaders_append u.nal.emulationFree u.nal.ne_nil (followsUnit_assemble units)]
      exact ih u.nal.EndsInZero
    have hlong : longHeaders ([0, 0, 0, 1] ++ (u.nal.bytes ++ assemble units)) =
        (u.nal :: behindLong u.nal.EndsInZero units).map NalUnit.header := by
      rw [List.map_cons, ← hnext, u.nal.bytes_eq]
      exact longHeaders_long _ _
    have hshort : longHeaders ([0, 0, 1] ++ (u.nal.bytes ++ assemble units)) =
        (behindLong u.nal.EndsInZero units).map NalUnit.header := by
      rw [← hnext, u.nal.bytes_eq]
      exact longHeaders_short _ _
    rw [assemble_cons, behindLong]
    cases hcode : u.code with
    | long =>
      have hskip : longHeaders (0 :: ([0, 0, 0, 1] ++ (u.nal.bytes ++ assemble units))) =
          longHeaders ([0, 0, 0, 1] ++ (u.nal.bytes ++ assemble units)) :=
        longHeaders_cons_of_not (by simp)
      have hfound : StartCode.long = .long ∨ afterZero := .inl rfl
      rw [if_pos hfound, List.singleton_append, ← hlong]
      split
      · exact hskip
      · rfl
    | short =>
      by_cases hzero : afterZero
      · have hfound : StartCode.short = .long ∨ afterZero := .inr hzero
        rw [if_pos hzero, if_pos hfound, List.singleton_append, ← hlong]
        rfl
      · rw [if_neg hzero, if_neg (by simp [hzero]), List.nil_append, ← hshort]
        rfl

/-- The reader finds the units behind long start codes. -/
theorem longHeaders_assemble (units : List CodedUnit) :
    longHeaders (assemble units) = (behindLong False units).map NalUnit.header :=
  longHeaders_zero_assemble False units

end AnnexB
