import Strero.Lib.Wire

/-!
# The AVC file format

The file format has no start codes: each unit stands behind its length, in four bytes. The bytes
determine the units as long as the lengths fit. The parameter sets stand in a record of their
own, the decoder configuration.
-/

namespace Avcc

open Wire

/-! ### Units with their lengths in front -/

/-- A unit with its length in front. -/
def prefixed (unit : List UInt8) : List UInt8 := putBe32 (UInt32.ofNat unit.length) ++ unit

/-- Units one after another. -/
def assemble (units : List (List UInt8)) : List UInt8 := units.flatMap prefixed

@[simp] theorem assemble_nil : assemble [] = [] := rfl

@[simp] theorem assemble_cons (unit : List UInt8) (units : List (List UInt8)) :
    assemble (unit :: units) = prefixed unit ++ assemble units := rfl

@[simp] theorem prefixed_length (unit : List UInt8) : (prefixed unit).length = 4 + unit.length := by
  rw [prefixed, List.length_append, putBe32_length]

/-- Four bytes are enough for the length. -/
def Fits (unit : List UInt8) : Prop := unit.length < 2 ^ 32

/-- A unit whose length fits is told from what follows. -/
theorem prefixed_append_inj {unit unit' rest rest' : List UInt8} (h : Fits unit) (h' : Fits unit')
    (heq : prefixed unit ++ rest = prefixed unit' ++ rest') : unit = unit' ∧ rest = rest' := by
  unfold prefixed at heq
  rw [List.append_assoc, List.append_assoc] at heq
  obtain ⟨hsizes, htail⟩ := List.append_inj heq rfl
  have hword : UInt32.ofNat unit.length = UInt32.ofNat unit'.length := by
    have hsame := hsizes
    simp only [putBe32, List.cons.injEq, and_true] at hsame
    obtain ⟨ha, hb, hc, hd⟩ := hsame
    rw [← getBe32_putBe32 (UInt32.ofNat unit.length), ha, hb, hc, hd, getBe32_putBe32]
  have hlength : unit.length = unit'.length := by
    have hnat := congrArg UInt32.toNat hword
    rwa [UInt32.toNat_ofNat_of_lt' h, UInt32.toNat_ofNat_of_lt' h'] at hnat
  exact List.append_inj htail hlength

/-- Only no units have no bytes. -/
theorem assemble_eq_nil {units : List (List UInt8)} : assemble units = [] ↔ units = [] := by
  cases units with
  | nil => exact iff_of_true rfl rfl
  | cons unit units => simp [prefixed, putBe32]

/-- The bytes determine the units. -/
theorem assemble_inj {units units' : List (List UInt8)} (h : ∀ unit ∈ units, Fits unit)
    (h' : ∀ unit ∈ units', Fits unit) (heq : assemble units = assemble units') :
    units = units' := by
  induction units generalizing units' with
  | nil => exact (assemble_eq_nil.mp heq.symm).symm
  | cons unit units ih =>
    cases units' with
    | nil => exact assemble_eq_nil.mp heq
    | cons unit' units' =>
      rw [assemble_cons, assemble_cons] at heq
      obtain ⟨hfirst, hrest⟩ := List.forall_mem_cons.mp h
      obtain ⟨hfirst', hrest'⟩ := List.forall_mem_cons.mp h'
      obtain ⟨rfl, hsame⟩ := prefixed_append_inj hfirst hfirst' heq
      rw [ih hrest hrest' hsame]

/-- The units behind their lengths, unless something is cut off. -/
def disassemble : List UInt8 → Option (List (List UInt8))
  | [] => some []
  | a :: b :: c :: d :: rest =>
    let size := (getBe32 a b c d).toNat
    if size ≤ rest.length then (disassemble (rest.drop size)).map (rest.take size :: ·) else none
  | _ => none
termination_by bytes => bytes.length
decreasing_by
  simp only [List.length_drop, List.length_cons]
  omega

/-- Units whose lengths fit are taken apart again. -/
theorem disassemble_assemble {units : List (List UInt8)} (h : ∀ unit ∈ units, Fits unit) :
    disassemble (assemble units) = some units := by
  induction units with
  | nil => rw [assemble_nil, disassemble]
  | cons unit units ih =>
    obtain ⟨hfirst, hrest⟩ := List.forall_mem_cons.mp h
    have hsize : (UInt32.ofNat unit.length).toNat = unit.length :=
      UInt32.toNat_ofNat_of_lt' hfirst
    have hroom : unit.length ≤ (unit ++ assemble units).length := by
      rw [List.length_append]
      exact Nat.le_add_right _ _
    rw [assemble_cons, prefixed, putBe32, List.append_assoc]
    simp only [List.cons_append, List.nil_append]
    rw [disassemble, getBe32_putBe32, hsize, if_pos hroom, List.drop_left, List.take_left,
      ih hrest, Option.map_some]

/-! ### The decoder configuration -/

/-- `AVCDecoderConfigurationRecord`, with the size of the lengths in front of units. -/
structure Configuration where
  profile : UInt8
  compatibility : UInt8
  level : UInt8
  lengthSize : ℕ
  sequenceSets : List (List UInt8)
  pictureSets : List (List UInt8)
deriving DecidableEq

/-- A parameter set behind its length in two bytes. -/
def takeSet : List UInt8 → Option (List UInt8 × List UInt8)
  | a :: b :: rest => takeExact (getBe16 a b).toNat rest
  | _ => none

/-- A number of parameter sets. -/
def takeSets : ℕ → List UInt8 → Option (List (List UInt8) × List UInt8)
  | 0, input => some ([], input)
  | n + 1, input => do
    let (set, rest) ← takeSet input
    let (sets, rest) ← takeSets n rest
    return (set :: sets, rest)

/-- The record, and what stands behind it: more fields for some profiles. The reserved bits are
ones. -/
def parseConfiguration : List UInt8 → Option (Configuration × List UInt8)
  | 1 :: profile :: compatibility :: level :: lengths :: count :: input => do
    if lengths &&& 0xFC ≠ 0xFC ∨ count &&& 0xE0 ≠ 0xE0 then none
    else
      let (sequenceSets, rest) ← takeSets (count &&& 0x1F).toNat input
      match rest with
      | pictureCount :: rest =>
        let (pictureSets, rest) ← takeSets pictureCount.toNat rest
        return (⟨profile, compatibility, level, (lengths &&& 3).toNat + 1, sequenceSets,
          pictureSets⟩, rest)
      | [] => none
  | _ => none

/-- A record with one SPS and one PPS, for lengths of four bytes. -/
def configuration (profile compatibility level : UInt8) (sps pps : List UInt8) : List UInt8 :=
  [1, profile, compatibility, level, 0xFF, 0xE1] ++ putBe16 (UInt32.ofNat sps.length) ++ sps ++
    [1] ++ putBe16 (UInt32.ofNat pps.length) ++ pps

/-- A set whose length fits is taken back. -/
theorem takeSet_append {set : List UInt8} (hset : set.length < 2 ^ 16) (rest : List UInt8) :
    takeSet (putBe16 (UInt32.ofNat set.length) ++ set ++ rest) = some (set, rest) := by
  have hword : (UInt32.ofNat set.length).toNat = set.length :=
    UInt32.toNat_ofNat_of_lt' (hset.trans (by decide))
  rw [putBe16, List.append_assoc, List.cons_append, List.cons_append, List.nil_append, takeSet,
    getBe16_putBe16 (by rwa [hword]), hword]
  exact takeExact_append rfl rest

/-- One set behind its length. -/
theorem takeSets_one {set : List UInt8} (hset : set.length < 2 ^ 16) (rest : List UInt8) :
    takeSets 1 (putBe16 (UInt32.ofNat set.length) ++ set ++ rest) = some ([set], rest) := by
  rw [takeSets, takeSet_append hset]
  rfl

/-- The record is parsed to what it was made of. -/
theorem parseConfiguration_configuration (profile compatibility level : UInt8)
    {sps pps : List UInt8} (hsps : sps.length < 2 ^ 16) (hpps : pps.length < 2 ^ 16) :
    parseConfiguration (configuration profile compatibility level sps pps) =
      some (⟨profile, compatibility, level, 4, [sps], [pps]⟩, []) := by
  have hpicture := takeSets_one hpps []
  have hsequence := takeSets_one hsps (1 :: (putBe16 (UInt32.ofNat pps.length) ++ pps ++ []))
  have hbytes : configuration profile compatibility level sps pps =
      1 :: profile :: compatibility :: level :: 0xFF :: 0xE1 ::
        (putBe16 (UInt32.ofNat sps.length) ++ sps ++
          1 :: (putBe16 (UInt32.ofNat pps.length) ++ pps ++ [])) := by
    simp [configuration]
  have hcount : ((0xE1 : UInt8) &&& 0x1F).toNat = 1 := by decide
  have hone : (1 : UInt8).toNat = 1 := rfl
  rw [hbytes, parseConfiguration, if_neg (by decide), hcount, hsequence, Option.bind_eq_bind,
    Option.bind_some]
  dsimp only
  rw [hone, hpicture]
  rfl

end Avcc
