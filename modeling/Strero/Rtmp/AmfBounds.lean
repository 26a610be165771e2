import Strero.Rtmp.AmfRoundTrip
import Strero.Rtmp.Command

/-!
# Decoders that stay inside their buffer

The decoders of AMF0 values move an offset over bytes that the peer has chosen. The offset grows
with every value, which bounds the nesting of objects as well, and it never passes the end of the
buffer.
-/

namespace Rtmp

open Slices

variable {α β : Type} {buffer : List UInt8} {offset least : ℕ} {enough : Prop}

/-! ### What a result says about the offset -/

/-- A result after which the offset is at least this, and still in the buffer. No failure is a
read outside, and where there is enough fuel none is for want of it. -/
def Bounded (buffer : List UInt8) (least : ℕ) (enough : Prop) :
    Except AmfFailure (α × ℕ) → Prop
  | .ok (_, next) => least ≤ next ∧ next ≤ buffer.length
  | .error failure => failure ≠ .outOfBounds ∧ (enough → failure ≠ .outOfFuel)

/-- A decoder that goes on from where another one has stopped. -/
theorem Bounded.bind {first : Except AmfFailure (α × ℕ)} {next : α × ℕ → Except AmfFailure (β × ℕ)}
    {middle : ℕ} (h : Bounded buffer middle enough first)
    (hnext : ∀ a n, middle ≤ n → n ≤ buffer.length → Bounded buffer least enough (next (a, n))) :
    Bounded buffer least enough (first >>= next) := by
  cases first with
  | error failure => exact h
  | ok result => exact hnext result.1 result.2 h.1 h.2

/-- The same result says less as well. -/
theorem Bounded.weaken {result : Except AmfFailure (α × ℕ)} {least' : ℕ} {enough' : Prop}
    (h : Bounded buffer least' enough' result) (hleast : least ≤ least')
    (henough : enough → enough') : Bounded buffer least enough result := by
  cases result with
  | error failure => exact ⟨h.1, fun he => h.2 (henough he)⟩
  | ok result => exact ⟨hleast.trans h.1, h.2⟩

/-- Malformed bytes are refused. -/
theorem bounded_malformed :
    Bounded buffer least enough (.error .malformed : Except AmfFailure (α × ℕ)) :=
  ⟨AmfFailure.noConfusion, fun _ => AmfFailure.noConfusion⟩

/-- A byte inside the buffer is read. -/
theorem exists_amfByte (h : offset < buffer.length) : ∃ b, amfByte buffer offset = .ok b := by
  rw [amfByte, List.getElem?_eq_getElem h]
  exact ⟨_, rfl⟩

/-- So are some bytes. -/
theorem exists_amfBytes {n : ℕ} (h : offset + n ≤ buffer.length) :
    ∃ bytes, amfBytes buffer offset n = .ok bytes := by
  rw [amfBytes, if_pos h]
  exact ⟨_, rfl⟩

/-! ### The decoders -/

/-- A number takes eight bytes. -/
theorem amfDecodeNumber_bounded :
    Bounded buffer (offset + 8) enough (amfDecodeNumber buffer offset) := by
  unfold amfDecodeNumber
  split_ifs with hroom
  · exact bounded_malformed
  · obtain ⟨bytes, hbytes⟩ := exists_amfBytes (n := 8) (Nat.le_of_not_lt hroom)
    rw [hbytes, ok_bind]
    exact ⟨Nat.le_refl _, Nat.le_of_not_lt hroom⟩

/-- A string takes the two bytes of its length and as many as that says. -/
theorem amfDecodeString_bounded (buffer : List UInt8) (offset : ℕ) (enough : Prop) :
    Bounded buffer (offset + 2) enough (amfDecodeString buffer offset) := by
  unfold amfDecodeString
  split_ifs with hroom
  · exact bounded_malformed
  · obtain ⟨b₀, hfirst⟩ := exists_amfByte (show offset < buffer.length by omega)
    obtain ⟨b₁, hsecond⟩ := exists_amfByte (show offset + 1 < buffer.length by omega)
    simp only [hfirst, hsecond, ok_bind]
    split_ifs with hlong
    · exact bounded_malformed
    · obtain ⟨data, hdata⟩ := exists_amfBytes (Nat.le_of_not_lt hlong)
      rw [hdata, ok_bind]
      exact ⟨Nat.le_add_right _ _, Nat.le_of_not_lt hlong⟩

/-- The test for the end of an object reads no more than there is. -/
theorem exists_amfObjectEndAt (buffer : List UInt8) (offset : ℕ) :
    ∃ ended, amfObjectEndAt buffer offset = .ok ended ∧
      (ended = true → offset + 3 ≤ buffer.length) := by
  unfold amfObjectEndAt
  split_ifs with hroom
  · obtain ⟨b₀, hfirst⟩ := exists_amfByte (show offset < buffer.length by omega)
    obtain ⟨b₁, hsecond⟩ := exists_amfByte (show offset + 1 < buffer.length by omega)
    obtain ⟨b₂, hthird⟩ := exists_amfByte (show offset + 2 < buffer.length by omega)
    rw [hfirst, hsecond, hthird]
    exact ⟨_, rfl, fun _ => hroom⟩
  · exact ⟨false, rfl, Bool.noConfusion⟩

mutual

/-- A value takes at least its marker. -/
theorem amfDecodeValue_bounded (buffer : List UInt8) (fuel offset : ℕ)
    (h : offset ≤ buffer.length) :
    Bounded buffer (offset + 1) (buffer.length < offset + fuel)
      (amfDecodeValue buffer fuel offset) := by
  cases fuel with
  | zero =>
    rw [amfDecodeValue]
    exact ⟨AmfFailure.noConfusion, fun henough => absurd henough (by omega)⟩
  | succ fuel =>
    rw [amfDecodeValue]
    split_ifs with hend
    · exact bounded_malformed
    · obtain ⟨type, htype⟩ := exists_amfByte (Nat.lt_of_not_le hend)
      rw [htype, ok_bind]
      dsimp only
      split
      · exact amfDecodeNumber_bounded.weaken (by omega) id
      · split_ifs with hlast
        · exact bounded_malformed
        · obtain ⟨b, hb⟩ := exists_amfByte (Nat.lt_of_not_le hlast)
          rw [hb, ok_bind]
          exact ⟨Nat.le_succ _, Nat.lt_of_not_le hlast⟩
      · exact (amfDecodeString_bounded _ _ _).bind fun data next hnext hle =>
          ⟨by omega, hle⟩
      · exact ⟨Nat.le_refl _, Nat.lt_of_not_le hend⟩
      · exact ⟨Nat.le_refl _, Nat.lt_of_not_le hend⟩
      · have hobject := amfDecodeObject_bounded buffer fuel (offset + 1) (Nat.lt_of_not_le hend)
        exact (hobject.weaken (Nat.le_refl _) (by omega)).bind fun properties next hnext hle =>
          ⟨hnext, hle⟩
      · exact bounded_malformed

/-- An object may be at its end already. -/
theorem amfDecodeObject_bounded (buffer : List UInt8) (fuel offset : ℕ)
    (h : offset ≤ buffer.length) :
    Bounded buffer offset (buffer.length < offset + fuel)
      (amfDecodeObject buffer fuel offset) := by
  cases fuel with
  | zero =>
    rw [amfDecodeObject]
    exact ⟨AmfFailure.noConfusion, fun henough => absurd henough (by omega)⟩
  | succ fuel =>
    rw [amfDecodeObject]
    split_ifs with hend
    · exact ⟨Nat.le_refl _, h⟩
    · obtain ⟨ended, hended, hroom⟩ := exists_amfObjectEndAt buffer offset
      rw [hended, ok_bind]
      split_ifs with htrue
      · exact ⟨Nat.le_add_right _ _, hroom htrue⟩
      -- A property: its name takes two bytes, its value one, and the rest of the object follows.
      · refine (amfDecodeString_bounded _ _ (buffer.length < offset + (fuel + 1))).bind
          fun name afterName hname hle => ?_
        have hvalue := amfDecodeValue_bounded buffer fuel afterName hle
        refine (hvalue.weaken (Nat.le_refl _) (by omega)).bind fun value afterValue hvalue hle => ?_
        have hrest := amfDecodeObject_bounded buffer fuel afterValue hle
        exact (hrest.weaken (Nat.le_refl _) (by omega)).bind fun properties next hnext hle =>
          ⟨by omega, hle⟩

end

/-! ### More fuel -/

/-- Where the first of two results is not for want of fuel, the second is the same. -/
def Settled (first second : Except AmfFailure α) : Prop :=
  first = .error .outOfFuel ∨ second = first

/-- What follows settled results. -/
theorem Settled.bind {first second : Except AmfFailure α} {next next' : α → Except AmfFailure β}
    (h : Settled first second) (hnext : ∀ a, Settled (next a) (next' a)) :
    Settled (first >>= next) (second >>= next') := by
  rcases h with rfl | rfl
  · exact .inl rfl
  · cases second with
    | error failure => exact .inr rfl
    | ok a => exact hnext a

mutual

/-- With more fuel a value is decoded to the same. -/
theorem amfDecodeValue_settled (buffer : List UInt8) (fuel offset : ℕ) :
    Settled (amfDecodeValue buffer fuel offset) (amfDecodeValue buffer (fuel + 1) offset) := by
  cases fuel with
  | zero => exact .inl rfl
  | succ fuel =>
    rw [amfDecodeValue, amfDecodeValue]
    split_ifs with hend
    · exact .inr rfl
    · refine Settled.bind (.inr rfl) fun type => ?_
      dsimp only
      split
      iterate 5 exact .inr rfl
      · exact (amfDecodeObject_settled buffer fuel (offset + 1)).bind fun _ => .inr rfl
      · exact .inr rfl

/-- So is an object. -/
theorem amfDecodeObject_settled (buffer : List UInt8) (fuel offset : ℕ) :
    Settled (amfDecodeObject buffer fuel offset) (amfDecodeObject buffer (fuel + 1) offset) := by
  cases fuel with
  | zero => exact .inl rfl
  | succ fuel =>
    rw [amfDecodeObject, amfDecodeObject]
    split_ifs with hend
    · exact .inr rfl
    · refine Settled.bind (.inr rfl) fun ended => ?_
      split_ifs with htrue
      · exact .inr rfl
      · refine Settled.bind (.inr rfl) fun name => ?_
        refine (amfDecodeValue_settled buffer fuel name.2).bind fun value => ?_
        exact (amfDecodeObject_settled buffer fuel value.2).bind fun _ => .inr rfl

end

/-- A result that stays with each step of fuel stays with any more fuel. -/
theorem eq_of_settled {decode : ℕ → Except AmfFailure α} {fuel fuel' : ℕ}
    (h : ∀ n, Settled (decode n) (decode (n + 1))) (hfuel : fuel ≤ fuel')
    (henough : decode fuel ≠ .error .outOfFuel) : decode fuel' = decode fuel := by
  induction fuel', hfuel using Nat.le_induction with
  | base => rfl
  | succ n _ ih =>
    rcases h n with hout | hsame
    · exact absurd (ih ▸ hout) henough
    · rw [hsame, ih]

/-! ### Every buffer and every offset -/

/-- A decoder that is called with the offset somewhere in the buffer: it reads nothing outside,
ends with one result however deep the nesting may be, and leaves the offset in the buffer. -/
structure StaysInside (buffer : List UInt8) (offset least : ℕ)
    (decode : ℕ → Except AmfFailure (α × ℕ)) : Prop where
  inside : ∀ fuel, decode fuel ≠ .error .outOfBounds
  ends : ∃ result, result ≠ .error .outOfFuel ∧
    ∀ fuel, buffer.length < offset + fuel → decode fuel = result
  moves : ∀ fuel value next, decode fuel = .ok (value, next) →
    least ≤ next ∧ next ≤ buffer.length

/-- A decoder with bounded results that are settled. -/
theorem StaysInside.of_bounded {decode : ℕ → Except AmfFailure (α × ℕ)}
    (h : ∀ fuel, Bounded buffer least (buffer.length < offset + fuel) (decode fuel))
    (hsettled : ∀ fuel, Settled (decode fuel) (decode (fuel + 1))) :
    StaysInside buffer offset least decode := by
  have henough (fuel : ℕ) (hfuel : buffer.length < offset + fuel) :
      decode fuel ≠ .error .outOfFuel := by
    intro hout
    have hbounded := h fuel
    rw [hout] at hbounded
    exact hbounded.2 hfuel rfl
  constructor
  · intro fuel hout
    have hbounded := h fuel
    rw [hout] at hbounded
    exact hbounded.1 rfl
  · refine ⟨decode (buffer.length + 1), henough _ (by omega), fun fuel hfuel => ?_⟩
    rcases Nat.le_total fuel (buffer.length + 1) with hle | hle
    · exact (eq_of_settled hsettled hle (henough fuel hfuel)).symm
    · exact eq_of_settled hsettled hle (henough _ (by omega))
  · intro fuel value next hok
    have hbounded := h fuel
    rwa [hok] at hbounded

/-- Decoding ends with a value or refuses the bytes. -/
def Ends (result : Except AmfFailure α) : Prop :=
  ∀ failure, result = .error failure → failure = .malformed

/-- A value ends the decoding. -/
theorem ends_ok (a : α) : Ends (.ok a : Except AmfFailure α) := fun _ h => nomatch h

/-- So do malformed bytes. -/
theorem ends_malformed : Ends (.error .malformed : Except AmfFailure α) :=
  fun _ h => (Except.error.inj h).symm

/-- What follows. -/
theorem Ends.bind {first : Except AmfFailure α} {next : α → Except AmfFailure β}
    (h : Ends first) (hnext : ∀ a, Ends (next a)) : Ends (first >>= next) := by
  cases first with
  | error failure =>
    obtain rfl := h failure rfl
    exact ends_malformed
  | ok a => exact hnext a

/-- What follows a decoder with enough fuel. -/
theorem Bounded.ends_bind {first : Except AmfFailure (α × ℕ)} {next : α × ℕ → Except AmfFailure β}
    (h : Bounded buffer least enough first) (henough : enough)
    (hnext : ∀ a n, least ≤ n → n ≤ buffer.length → Ends (next (a, n))) :
    Ends (first >>= next) := by
  cases first with
  | error failure =>
    cases failure with
    | malformed => exact ends_malformed
    | outOfBounds => exact absurd rfl h.1
    | outOfFuel => exact absurd rfl (h.2 henough)
  | ok result => exact hnext result.1 result.2 h.1 h.2

/-- Every argument takes a byte, so that the loop over them ends. -/
theorem decodeArguments_ends (buffer : List UInt8) (fuel offset : ℕ)
    (h : offset ≤ buffer.length) (hfuel : buffer.length < offset + fuel) :
    Ends (decodeArguments buffer fuel offset) := by
  induction fuel generalizing offset with
  | zero => omega
  | succ fuel ih =>
    unfold decodeArguments
    split_ifs with hend
    · exact ends_ok []
    · have hvalue := amfDecodeValue_bounded buffer (buffer.length + 1) offset h
      refine hvalue.ends_bind (by omega) fun argument next hnext hle => ?_
      exact (ih next hle (by omega)).bind fun arguments => ends_ok _

/-- So does the decoding of a command. -/
theorem rtmpCommandParse_ends (buffer : List UInt8) : Ends (rtmpCommandParse buffer) := by
  unfold rtmpCommandParse
  have hname := amfDecodeValue_bounded buffer (buffer.length + 1) 0 (Nat.zero_le _)
  refine hname.ends_bind (by omega) fun name afterName _ hafterName => ?_
  dsimp only
  split
  · have htransaction := amfDecodeValue_bounded buffer (buffer.length + 1) afterName hafterName
    refine htransaction.ends_bind (by omega) fun transaction afterTransaction _ hle => ?_
    dsimp only
    split
    · split_ifs
      · have hobject := amfDecodeValue_bounded buffer (buffer.length + 1) afterTransaction hle
        refine hobject.ends_bind (by omega) fun commandObject next _ hle => ?_
        exact (decodeArguments_ends buffer (buffer.length + 1) next hle (by omega)).bind
          fun arguments => ends_ok _
      · have hnone := decodeArguments_ends buffer (buffer.length + 1) afterTransaction hle
          (by omega)
        exact hnone.bind fun arguments => ends_ok _
    · exact ends_malformed
  · exact ends_malformed

/-- Wherever the decoders start in a buffer, they end inside it, behind what they have read, and
a command is decoded or refused without a read outside its payload. -/
theorem amfDecoders_stayInside (buffer : List UInt8) {offset : ℕ} (h : offset ≤ buffer.length) :
    StaysInside buffer offset (offset + 1) (amfDecodeValue buffer · offset) ∧
      StaysInside buffer offset (offset + 1) (fun _ => amfDecodeString buffer offset) ∧
      StaysInside buffer offset offset (amfDecodeObject buffer · offset) ∧
      Ends (rtmpCommandParse buffer) := by
  refine ⟨.of_bounded (fun fuel => amfDecodeValue_bounded buffer fuel offset h)
      (fun fuel => amfDecodeValue_settled buffer fuel offset),
    .of_bounded (fun fuel => (amfDecodeString_bounded _ _ _).weaken (by omega) id)
      (fun fuel => .inr rfl),
    .of_bounded (fun fuel => amfDecodeObject_bounded buffer fuel offset h)
      (fun fuel => amfDecodeObject_settled buffer fuel offset),
    rtmpCommandParse_ends buffer⟩

/-- Two objects in each other that the buffer ends in. -/
theorem amfDecoders_stayInside_nested :
    StaysInside [0x03, 0, 1, 0x61, 0x03, 0, 0] 0 1
        (amfDecodeValue [0x03, 0, 1, 0x61, 0x03, 0, 0] · 0) ∧
      StaysInside [0x03, 0, 1, 0x61, 0x03, 0, 0] 0 1
        (fun _ => amfDecodeString [0x03, 0, 1, 0x61, 0x03, 0, 0] 0) ∧
      StaysInside [0x03, 0, 1, 0x61, 0x03, 0, 0] 0 0
        (amfDecodeObject [0x03, 0, 1, 0x61, 0x03, 0, 0] · 0) ∧
      Ends (rtmpCommandParse [0x03, 0, 1, 0x61, 0x03, 0, 0]) :=
  amfDecoders_stayInside [0x03, 0, 1, 0x61, 0x03, 0, 0] (Nat.zero_le _)

end Rtmp
