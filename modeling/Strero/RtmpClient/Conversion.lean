import Mathlib.Data.List.Chain
import Strero.Lib.Avcc
import Strero.RtmpClient.VideoFrame

/-!
# The conversion of a frame

`rtmp_client_send_video_frame` makes a message of a frame, in which the units have their lengths
in front instead of start codes. It knows start codes of four bytes only. Here is what it makes
of a frame with both kinds, and how far its buffer is filled.
-/

namespace RtmpClient

open AnnexB Scan Wire
open FrameManager (Frame)

/-! ### Units behind start codes of four bytes -/

/-- No start code of four bytes begins in the first part of a stream. -/
def NoLongIn (front rest : List UInt8) : Prop :=
  ∀ n < front.length, ¬[0, 0, 0, 1] <+: (front ++ rest).drop n

theorem NoLongIn.tail {a : UInt8} {front rest : List UInt8} (h : NoLongIn (a :: front) rest) :
    NoLongIn front rest := fun n hn => h (n + 1) (Nat.succ_lt_succ hn)

/-- Two such parts make one. -/
theorem NoLongIn.append {front middle rest : List UInt8} (h : NoLongIn front (middle ++ rest))
    (hmiddle : NoLongIn middle rest) : NoLongIn (front ++ middle) rest := by
  intro n hn
  rw [List.append_assoc]
  rcases Nat.lt_or_ge n front.length with hlt | hge
  · exact h n hlt
  · obtain ⟨k, rfl⟩ := Nat.exists_eq_add_of_le hge
    rw [List.length_append] at hn
    rw [List.drop_length_add_append]
    exact hmiddle k (by omega)

/-- The conversion passes over such a part. -/
theorem annexBToAvcc_append {capacity : ℕ} {front rest message : List UInt8}
    (h : NoLongIn front rest) :
    annexBToAvcc capacity (front ++ rest) message = annexBToAvcc capacity rest message := by
  induction front with
  | nil => rfl
  | cons a front ih =>
    have hfirst : ¬[0, 0, 0, 1] <+: a :: (front ++ rest) := h 0 (Nat.succ_pos _)
    rw [List.cons_append, annexBToAvcc_cons_of_not hfirst, ih h.tail]

/-- So does the search for the end of a unit. -/
theorem nalLength_append {front rest : List UInt8} (h : NoLongIn front rest) :
    nalLength (front ++ rest) = front.length + nalLength rest := by
  induction front with
  | nil => rw [List.nil_append, List.length_nil, Nat.zero_add]
  | cons a front ih =>
    have hfirst : ¬[0, 0, 0, 1] <+: a :: (front ++ rest) := h 0 (Nat.succ_pos _)
    rw [List.cons_append, nalLength_cons_of_not hfirst, ih h.tail, List.length_cons]
    omega

/-- No unit of the stream ends in a zero. -/
def NoneEndsInZero (units : List CodedUnit) : Prop := ∀ u ∈ units, ¬u.nal.EndsInZero

instance (units : List CodedUnit) : Decidable (NoneEndsInZero units) :=
  inferInstanceAs (Decidable (∀ u ∈ units, _))

/-- No start code begins in a unit that does not end in a zero. -/
theorem NalUnit.noLongIn {nal : NalUnit} (h : ¬nal.EndsInZero) (units : List CodedUnit) :
    NoLongIn nal.bytes (assemble units) := fun _ hn =>
  (nal.emulationFree.noCodeAt (followsUnit_assemble units) hn fun hzero => absurd hzero h).1

/-- Nor in a short start code in front of it. -/
theorem noLongIn_short {u : CodedUnit} (hshort : u.code = .short) (h : ¬u.nal.EndsInZero)
    (units : List CodedUnit) : NoLongIn (u.code.bytes ++ u.nal.bytes) (assemble units) := by
  have hcode : u.code.bytes = [0, 0, 1] := by rw [hshort]; rfl
  rw [hcode]
  intro n hn
  match n, hn with
  | 0, _ => simp
  | 1, _ => simp
  | 2, _ => simp
  | n + 3, hn => exact NalUnit.noLongIn h units n (by simpa using hn)

/-- A unit is an SPS or a PPS. -/
def IsParameterSet (nal : NalUnit) : Prop := nal.header &&& 0x1F = 7 ∨ nal.header &&& 0x1F = 8

instance (nal : NalUnit) : Decidable (IsParameterSet nal) := inferInstanceAs (Decidable (_ ∨ _))

/-- The units that stand behind short codes in front. -/
def shortFront (units : List CodedUnit) : List CodedUnit := units.takeWhile (·.code = .short)

/-- What the message of a stream has for units: each unit behind a long start code, up to the
next long start code, unless it is a parameter set. -/
def convertedUnits : List CodedUnit → List (List UInt8)
  | [] => []
  | u :: units =>
    if u.code = .long ∧ ¬IsParameterSet u.nal then
      (u.nal.bytes ++ assemble (shortFront units)) :: convertedUnits units
    else convertedUnits units

/-- What it should have: each unit that is no parameter set. -/
def plainUnits (units : List CodedUnit) : List (List UInt8) :=
  (units.filter fun u => ¬IsParameterSet u.nal).map fun u => u.nal.bytes

/-- The end of a stream behind the units with short codes in front. -/
def longRest (units : List CodedUnit) : List CodedUnit := units.dropWhile (·.code = .short)

theorem assemble_eq_nil_iff {units : List CodedUnit} : assemble units = [] ↔ units = [] := by
  cases units with
  | nil => simp
  | cons u units => simp [u.nal.ne_nil]

theorem assemble_shortFront_append (units : List CodedUnit) :
    assemble (shortFront units) ++ assemble (longRest units) = assemble units := by
  rw [assemble, assemble, ← List.flatMap_append, shortFront, longRest,
    List.takeWhile_append_dropWhile]
  rfl

/-- What stands behind short codes in front is no start code of four bytes. -/
theorem noLongIn_shortFront {units : List CodedUnit} (h : NoneEndsInZero units) :
    NoLongIn (assemble (shortFront units)) (assemble (longRest units)) := by
  induction units with
  | nil => exact fun n hn => absurd hn (Nat.not_lt_zero n)
  | cons u units ih =>
    obtain ⟨hfirst, hrest⟩ := List.forall_mem_cons.mp h
    unfold shortFront longRest
    by_cases hshort : u.code = .short
    · rw [List.takeWhile_cons_of_pos (by simpa using hshort),
        List.dropWhile_cons_of_pos (by simpa using hshort), assemble_cons, ← List.append_assoc]
      refine NoLongIn.append ?_ (ih hrest)
      change NoLongIn _ (assemble (shortFront units) ++ assemble (longRest units))
      rw [assemble_shortFront_append]
      exact noLongIn_short hshort hfirst units
    · rw [List.takeWhile_cons_of_neg (by simpa using hshort)]
      exact fun n hn => absurd hn (Nat.not_lt_zero n)

/-- The next start code of four bytes ends a unit. -/
theorem nalLength_longRest (units : List CodedUnit) :
    nalLength (assemble (longRest units)) = 0 := by
  unfold longRest
  cases hrest : units.dropWhile (·.code = .short) with
  | nil => rfl
  | cons u rest =>
    have hlong : u.code = .long := by
      have hhead := List.head?_dropWhile_not (fun v : CodedUnit => decide (v.code = .short)) units
      rw [hrest] at hhead
      cases hcode : u.code with
      | short => simp [hcode] at hhead
      | long => rfl
    rw [assemble_cons, hlong]
    rfl

variable {units : List CodedUnit}

/-- A unit behind a long start code ends at the next one. -/
theorem nalLength_unit {u : CodedUnit} (hunit : ¬u.nal.EndsInZero) (h : NoneEndsInZero units) :
    nalLength (u.nal.bytes ++ assemble units) =
      (u.nal.bytes ++ assemble (shortFront units)).length := by
  rw [nalLength_append (NalUnit.noLongIn hunit units), ← assemble_shortFront_append,
    nalLength_append (noLongIn_shortFront h), nalLength_longRest, List.length_append]
  rfl

/-- A unit with what stands behind short codes, and the next long start code. -/
theorem unit_append (nal : NalUnit) (units : List CodedUnit) :
    nal.bytes ++ assemble units =
      (nal.bytes ++ assemble (shortFront units)) ++ assemble (longRest units) := by
  rw [List.append_assoc, assemble_shortFront_append]

/-- The unit is taken with what stands behind short codes. -/
theorem take_unit {u : CodedUnit} (hunit : ¬u.nal.EndsInZero) (h : NoneEndsInZero units) :
    (u.nal.bytes ++ assemble units).take (nalLength (u.nal.bytes ++ assemble units)) =
      u.nal.bytes ++ assemble (shortFront units) := by
  rw [nalLength_unit hunit h, unit_append _ units, List.take_left]

/-- The next long start code is left. -/
theorem drop_unit {u : CodedUnit} (hunit : ¬u.nal.EndsInZero) (h : NoneEndsInZero units) :
    (u.nal.bytes ++ assemble units).drop (nalLength (u.nal.bytes ++ assemble units)) =
      assemble (longRest units) := by
  rw [nalLength_unit hunit h, unit_append _ units, List.drop_left]

/-- A step of the conversion at a start code of four bytes. -/
theorem annexBToAvcc_long (capacity : ℕ) (message : List UInt8) {unit : List UInt8}
    (hne : unit ≠ []) :
    annexBToAvcc capacity ([0, 0, 0, 1] ++ unit) message =
      if unit.head hne &&& 0x1F = 7 ∨ unit.head hne &&& 0x1F = 8 then
        annexBToAvcc capacity (unit.drop (nalLength unit)) message
      else if message.length + 4 + nalLength unit > capacity then .error .overflow
      else annexBToAvcc capacity (unit.drop (nalLength unit))
        (message ++ putBe32 (UInt32.ofNat (nalLength unit)) ++ unit.take (nalLength unit)) := by
  obtain ⟨b, rest, rfl⟩ := List.exists_cons_of_ne_nil hne
  exact annexBToAvcc.eq_2 capacity message b rest

/-- The conversion of a stream, if there is room for what it takes of it. -/
theorem annexBToAvcc_assemble {capacity : ℕ} {message : List UInt8} (h : NoneEndsInZero units)
    (hroom : message.length + (assemble (longRest units)).length ≤ capacity) :
    annexBToAvcc capacity (assemble units) message =
      .ok (message ++ Avcc.assemble (convertedUnits units)) := by
  induction units generalizing message with
  | nil => simp [annexBToAvcc, convertedUnits]
  | cons u units ih =>
    obtain ⟨hfirst, hrest⟩ := List.forall_mem_cons.mp h
    rw [assemble_cons]
    cases hcode : u.code with
    | short =>
      have hsame : longRest (u :: units) = longRest units :=
        List.dropWhile_cons_of_pos (by simpa using hcode)
      rw [hsame] at hroom
      have hskip := noLongIn_short hcode hfirst units
      rw [hcode] at hskip
      rw [← List.append_assoc, annexBToAvcc_append hskip, ih hrest hroom, convertedUnits,
        if_neg (by simp [hcode])]
    | long =>
      have hsame : longRest (u :: units) = u :: units :=
        List.dropWhile_cons_of_neg (by simp [hcode])
      have hfour : u.code.bytes.length = 4 := by rw [hcode]; rfl
      have hlength := congrArg List.length (assemble_shortFront_append units)
      rw [hsame, assemble_cons] at hroom
      simp only [List.length_append] at hroom hlength
      have hne : u.nal.bytes ++ assemble units ≠ [] := by simp [u.nal.ne_nil]
      have hhead : (u.nal.bytes ++ assemble units).head hne = u.nal.header :=
        List.head_append_of_ne_nil _
      have hlater : ∀ m, annexBToAvcc capacity (assemble (longRest units)) m =
          annexBToAvcc capacity (assemble units) m := by
        intro m
        rw [← annexBToAvcc_append (noLongIn_shortFront hrest), assemble_shortFront_append]
      change annexBToAvcc capacity ([0, 0, 0, 1] ++ (u.nal.bytes ++ assemble units)) message = _
      rw [annexBToAvcc_long _ _ hne, hhead, take_unit hfirst hrest, drop_unit hfirst hrest,
        nalLength_unit hfirst hrest, hlater, hlater, convertedUnits]
      by_cases hparameters : u.nal.header &&& 0x1F = 7 ∨ u.nal.header &&& 0x1F = 8
      · rw [if_pos hparameters, if_neg (fun hboth => hboth.2 hparameters), ih hrest (by omega)]
      · rw [if_neg hparameters, if_neg, if_pos ⟨hcode, hparameters⟩, ih hrest]
        · simp [Avcc.prefixed]
        · simp only [List.length_append, putBe32_length]
          omega
        · simp only [List.length_append]
          omega

/-! ### Streams that are converted as they should be -/

/-- Behind a short code there are only parameter sets, and such a unit comes first or behind a
parameter set. -/
def Convertible (units : List CodedUnit) : Prop :=
  (∀ u ∈ units, u.code = .short → IsParameterSet u.nal) ∧
    units.IsChain fun u v => v.code = .short → IsParameterSet u.nal

instance (units : List CodedUnit) : Decidable (Convertible units) :=
  inferInstanceAs (Decidable (_ ∧ _))

/-- One unit more in front. -/
theorem convertible_cons_iff {u : CodedUnit} :
    Convertible (u :: units) ↔ (u.code = .short → IsParameterSet u.nal) ∧
      (shortFront units ≠ [] → IsParameterSet u.nal) ∧ Convertible units := by
  have hnext : (∀ v ∈ units.head?, v.code = .short → IsParameterSet u.nal) ↔
      (shortFront units ≠ [] → IsParameterSet u.nal) := by
    cases units with
    | nil => simp [shortFront]
    | cons v units =>
      cases hcode : v.code with
      | short => simp [shortFront, hcode]
      | long => simp [shortFront, hcode]
  rw [Convertible, List.forall_mem_cons, List.isChain_cons, hnext, Convertible]
  tauto

theorem plainUnits_cons (u : CodedUnit) (units : List CodedUnit) :
    plainUnits (u :: units) =
      if IsParameterSet u.nal then plainUnits units else u.nal.bytes :: plainUnits units := by
  unfold plainUnits
  rw [List.filter_cons]
  by_cases hparameters : IsParameterSet u.nal
  · rw [if_neg (by simpa using hparameters), if_pos hparameters]
  · rw [if_pos (by simpa using hparameters), if_neg hparameters, List.map_cons]

theorem length_convertedUnits_le (units : List CodedUnit) :
    (convertedUnits units).length ≤ (plainUnits units).length := by
  induction units with
  | nil => exact le_rfl
  | cons u units ih =>
    rw [convertedUnits, plainUnits_cons]
    by_cases hparameters : IsParameterSet u.nal
    · rw [if_neg (fun hboth => hboth.2 hparameters), if_pos hparameters]
      exact ih
    · rw [if_neg hparameters, List.length_cons]
      split
      · exact Nat.succ_le_succ ih
      · exact ih.trans (Nat.le_succ _)

/-- The message has the units that it should have exactly for such streams. -/
theorem convertedUnits_eq_iff (units : List CodedUnit) :
    convertedUnits units = plainUnits units ↔ Convertible units := by
  induction units with
  | nil => simp [convertedUnits, plainUnits, Convertible]
  | cons u units ih =>
    rw [convertible_cons_iff, ← ih]
    rw [plainUnits_cons, convertedUnits]
    by_cases hparameters : IsParameterSet u.nal
    · rw [if_neg (fun hboth => hboth.2 hparameters), if_pos hparameters]
      simp [hparameters]
    · rw [if_neg hparameters]
      cases hcode : u.code with
      | short =>
        -- The unit is missing, and no unit of the message makes up for it.
        rw [if_neg (by simp)]
        refine iff_of_false (fun hsame => ?_) (by simp [hparameters])
        have hlength := length_convertedUnits_le units
        rw [hsame, List.length_cons] at hlength
        omega
      | long =>
        rw [if_pos ⟨rfl, hparameters⟩, List.cons.injEq, List.append_right_eq_self]
        rw [assemble_eq_nil_iff]
        simp [hparameters]

/-! ### The message of a frame -/

variable {target : VideoTarget} {frame : Frame} {calls : VideoCalls}

/-- A frame that is sent goes to the conversion. -/
theorem rtmpClientSendVideoFrame_eq (hsize : 4 ≤ frame.data.length)
    (htakes : target.takesFrames calls)
    (hgoes : target.goesOn (isKeyframe frame.data) (avcSequenceHeaderFromFrame frame.data).isSome
      calls = true) :
    ∃ prepared : VideoTarget, rtmpClientSendVideoFrame target frame calls =
      prepared.sendMessage (isKeyframe frame.data) frame calls := by
  obtain ⟨hpublishing, hsocket, hallocated⟩ := htakes
  have hne : frame.data ≠ [] := by
    rintro hempty
    rw [hempty] at hsize
    exact absurd hsize (by decide)
  obtain ⟨found, hfound, hidr⟩ := scanTypes_of_le hsize
  obtain ⟨first, hfirst⟩ : ∃ first,
      (if found.idr then some 0 else checkedFirstType frame) = some first := by
    split
    · exact ⟨0, rfl⟩
    · exact Option.isSome_iff_exists.mp (checkedFirstType_isSome frame)
  unfold rtmpClientSendVideoFrame
  rw [if_neg hne, if_neg (by simp [hpublishing]), if_neg (not_lt.mpr hsocket),
    if_neg (by simp [hallocated]), hfound, Option.bind_some, hfirst, Option.bind_some,
    target.searchHeader_of_le hsize found.idr calls, Option.bind_some]
  dsimp only
  rw [target.goesOn_searched, hidr, if_pos hgoes]
  exact ⟨_, rfl⟩

/-- A stream has at least four bytes for each unit. -/
theorem length_assemble_ge (hne : units ≠ []) : 4 ≤ (assemble units).length := by
  obtain ⟨u, units, rfl⟩ := List.exists_cons_of_ne_nil hne
  have hpos := u.nal.length_pos
  have hcode : 3 ≤ u.code.bytes.length := by cases u.code <;> decide
  rw [assemble_cons, List.length_append, List.length_append]
  omega

/-- The message of a stream has its units behind the five bytes of the tag. -/
theorem rtmpClientSendVideoFrame_message (hne : units ≠ []) (hdata : frame.data = assemble units)
    (hend : NoneEndsInZero units) (htakes : target.takesFrames calls)
    (hgoes : target.goesOn (isKeyframe frame.data) (avcSequenceHeaderFromFrame frame.data).isSome
      calls = true) :
    ∃ after message result,
      rtmpClientSendVideoFrame target frame calls = some (after, some message, result) ∧
        message.drop 5 = Avcc.assemble (convertedUnits units) := by
  have hsize : 4 ≤ frame.data.length := hdata ▸ length_assemble_ge hne
  obtain ⟨prepared, hsend⟩ := rtmpClientSendVideoFrame_eq hsize htakes hgoes
  have hrest := congrArg List.length (assemble_shortFront_append units)
  rw [List.length_append] at hrest
  generalize htag : (if isKeyframe frame.data = true then 1 else 2 : UInt8) <<< 4 ||| 7 = tag
  have hroom : ([tag, 1, 0, 0, 0] : List UInt8).length + (assemble (longRest units)).length ≤
      (assemble units).length + 16 := by
    simp only [List.length_cons, List.length_nil]
    omega
  rw [hsend, VideoTarget.sendMessage, checkedConvert, scan_convertAt, List.drop_zero, htag, hdata,
    annexBToAvcc_assemble hend hroom]
  exact ⟨_, _, _, rfl, rfl⟩

/-- No unit of the message, or of what it should have, is longer than the stream. -/
theorem length_le_of_mem_converted {bytes : List UInt8}
    (h : bytes ∈ convertedUnits units ∨ bytes ∈ plainUnits units) :
    bytes.length ≤ (assemble units).length := by
  induction units with
  | nil => simp [convertedUnits, plainUnits] at h
  | cons u units ih =>
    have hrest := congrArg List.length (assemble_shortFront_append units)
    rw [assemble_cons]
    rw [convertedUnits, plainUnits_cons] at h
    simp only [List.length_append] at hrest ⊢
    have hlater : bytes ∈ convertedUnits units ∨ bytes ∈ plainUnits units ∨
        bytes = u.nal.bytes ++ assemble (shortFront units) ∨ bytes = u.nal.bytes := by
      rcases h with hmem | hmem
      · split at hmem
        · rcases List.mem_cons.mp hmem with rfl | hmem
          · exact .inr (.inr (.inl rfl))
          · exact .inl hmem
        · exact .inl hmem
      · split at hmem
        · exact .inr (.inl hmem)
        · rcases List.mem_cons.mp hmem with rfl | hmem
          · exact .inr (.inr (.inr rfl))
          · exact .inr (.inl hmem)
    rcases hlater with hmem | hmem | rfl | rfl
    · have := ih (.inl hmem)
      omega
    · have := ih (.inr hmem)
      omega
    · rw [List.length_append]
      omega
    · omega

/-- The message of a frame that is sent has each unit but the parameter sets, in order and with
its length in front, exactly if the stream is such that it can be converted. -/
theorem rtmpClientSendVideoFrame_units_iff (hne : units ≠ []) (hdata : frame.data = assemble units)
    (hend : NoneEndsInZero units) (htakes : target.takesFrames calls)
    (hgoes : target.goesOn (isKeyframe frame.data) (avcSequenceHeaderFromFrame frame.data).isSome
      calls = true) :
    (∃ after message result,
      rtmpClientSendVideoFrame target frame calls = some (after, some message, result) ∧
        message.drop 5 = Avcc.assemble (plainUnits units)) ↔ Convertible units := by
  obtain ⟨after, message, result, hsent, hbody⟩ :=
    rtmpClientSendVideoFrame_message hne hdata hend htakes hgoes
  have hfits : ∀ bytes, bytes ∈ convertedUnits units ∨ bytes ∈ plainUnits units →
      Avcc.Fits bytes := by
    intro bytes hmem
    have hlength := length_le_of_mem_converted hmem
    have hframe := frame.fits
    rw [hdata] at hframe
    unfold Avcc.Fits
    omega
  rw [← convertedUnits_eq_iff]
  constructor
  · rintro ⟨after', message', result', hsent', hbody'⟩
    rw [hsent, Option.some.injEq, Prod.mk.injEq, Prod.mk.injEq] at hsent'
    obtain rfl := Option.some.inj hsent'.2.1
    exact Avcc.assemble_inj (fun _ hmem => hfits _ (.inl hmem)) (fun _ hmem => hfits _ (.inr hmem))
      (hbody.symm.trans hbody')
  · intro hsame
    exact ⟨after, message, result, hsent, hsame ▸ hbody⟩

/-- A target that frames are sent to. -/
def publishingTarget : VideoTarget := ⟨true, 5, true, 0, 0⟩

/-- Calls that succeed. -/
def succeedingCalls : VideoCalls := ⟨true, true, true, 0, true⟩

/-- A key frame whose PPS stands behind a short code. -/
def shortPps : List CodedUnit :=
  [⟨.long, [0x67, 0x4D, 0, 0x1F], by decide, by decide, by decide⟩,
    ⟨.short, [0x68, 0xEE], by decide, by decide, by decide⟩,
    ⟨.long, [0x65, 0xB8], by decide, by decide, by decide⟩]

/-- Its frame. -/
def shortPpsFrame : Frame := ⟨assemble shortPps, by decide⟩

/-- The picture of the frame is sent alone. -/
theorem rtmpClientSendVideoFrame_units_shortPps :
    ∃ after message result,
      rtmpClientSendVideoFrame publishingTarget shortPpsFrame succeedingCalls =
        some (after, some message, result) ∧
      message.drop 5 = Avcc.assemble (plainUnits shortPps) := by
  have hend : NoneEndsInZero shortPps := by decide
  have hall : Convertible shortPps := by decide
  exact (rtmpClientSendVideoFrame_units_iff (by decide) rfl hend ⟨rfl, by decide, rfl⟩ rfl).mpr hall

/-- A picture in two slices, the second behind a short code. -/
def shortSlice : List CodedUnit :=
  [⟨.long, [0x41, 0xE0], by decide, by decide, by decide⟩,
    ⟨.short, [0x41, 0x70], by decide, by decide, by decide⟩]

/-- Its frame. -/
def shortSliceFrame : Frame := ⟨assemble shortSlice, by decide⟩

/-- The second slice is sent as part of the first. -/
theorem not_rtmpClientSendVideoFrame_units_shortSlice :
    ¬∃ after message result,
      rtmpClientSendVideoFrame publishingTarget shortSliceFrame succeedingCalls =
        some (after, some message, result) ∧
      message.drop 5 = Avcc.assemble (plainUnits shortSlice) := by
  rintro ⟨after, message, result, hsent, hbody⟩
  have hmessage : rtmpClientSendVideoFrame publishingTarget shortSliceFrame succeedingCalls =
      some (⟨true, 5, true, 0, 1⟩,
        some [0x27, 1, 0, 0, 0, 0, 0, 0, 7, 0x41, 0xE0, 0, 0, 1, 0x41, 0x70], 0) := by
    decide +kernel
  rw [hmessage, Option.some.injEq, Prod.mk.injEq, Prod.mk.injEq] at hsent
  obtain rfl := Option.some.inj hsent.2.1
  exact absurd hbody (by decide)

/-! ### How far the buffer is filled -/

/-- `src_pos`, and the bytes of the message up to `message_pos`. -/
structure Progress where
  srcPos : ℕ
  message : List UInt8
deriving DecidableEq

/-- A read that is checked. -/
def checked {α : Type} (read : Option α) : Except MessageError α :=
  read.elim (.error .outOfFrame) .ok

/-- The body of the loop. The type of a unit is read behind its start code, where the frame may
have ended: then it is that of the byte behind the frame. -/
def Progress.next (frame : Frame) (behind : UInt8) (p : Progress) :
    Except MessageError Progress := do
  if ← checked (readsWithin frame.data p.srcPos [0, 0, 0, 1]) then
    let start := p.srcPos + 4
    let stop ← checked (unitEnd frame start)
    let nalType := (← checked (frame.data ++ [behind])[start]?) &&& 0x1F
    let size := stop - start
    if nalType = 7 ∨ nalType = 8 then return { p with srcPos := stop }
    else if p.message.length + 4 + size > frame.data.length + 16 then throw .overflow
    else
      let unit ← checked (readPart frame.data start stop)
      return ⟨stop, p.message ++ putBe32 (UInt32.ofNat size) ++ unit⟩
  else return { p with srcPos := p.srcPos + 1 }

/-- A number of iterations, as long as the frame has not ended. -/
def Progress.iterations (frame : Frame) (behind : UInt8) (p : Progress) :
    ℕ → Except MessageError Progress
  | 0 => .ok p
  | n + 1 =>
    if p.srcPos < frame.data.length then do
      let next ← p.next frame behind
      next.iterations frame behind n
    else .ok p

/-- The loop begins behind the five bytes of the tag. -/
def Progress.start (frameType : UInt8) : Progress := ⟨0, [frameType, 1, 0, 0, 0]⟩

/-- What is written stays within five bytes of what is consumed. -/
structure Progress.Bounded (p : Progress) (frame : Frame) : Prop where
  consumed : p.srcPos ≤ frame.data.length
  written : p.message.length ≤ p.srcPos + 5

variable {behind : UInt8} {p : Progress}

/-- The body of the loop where no start code stands. -/
theorem Progress.next_skip (hlong : ¬[0, 0, 0, 1] <+: frame.data.drop p.srcPos) :
    p.next frame behind = .ok { p with srcPos := p.srcPos + 1 } := by
  unfold Progress.next
  rw [readsWithin_eq (List.cons_ne_nil _ _), decide_eq_false hlong]
  rfl

/-- A start code is part of the frame. -/
theorem add_four_le {offset : ℕ} (hlong : [0, 0, 0, 1] <+: frame.data.drop offset) :
    offset + 4 ≤ frame.data.length := by
  have hlength := hlong.length_le
  simp only [List.length_drop, List.length_cons, List.length_nil] at hlength
  omega

/-- The body of the loop at a start code. -/
theorem Progress.next_long (hlong : [0, 0, 0, 1] <+: frame.data.drop p.srcPos) :
    p.next frame behind =
      let unit := frame.data.drop (p.srcPos + 4)
      let nalType := unit.head?.getD behind &&& 0x1F
      let stop := p.srcPos + 4 + nalLength unit
      if nalType = 7 ∨ nalType = 8 then .ok { p with srcPos := stop }
      else if p.message.length + 4 + nalLength unit > frame.data.length + 16 then .error .overflow
      else .ok ⟨stop, p.message ++ putBe32 (UInt32.ofNat (nalLength unit)) ++
        unit.take (nalLength unit)⟩ := by
  have hfour := add_four_le hlong
  have htype : (frame.data ++ [behind])[p.srcPos + 4]? =
      some ((frame.data.drop (p.srcPos + 4)).head?.getD behind) := by
    rw [List.head?_drop]
    rcases Nat.lt_or_eq_of_le hfour with hinside | hend
    · rw [List.getElem?_append_left hinside, List.getElem?_eq_getElem hinside]
      rfl
    · rw [hend, List.getElem?_concat_length, List.getElem?_eq_none le_rfl]
      rfl
  unfold Progress.next
  rw [readsWithin_eq (List.cons_ne_nil _ _), decide_eq_true hlong]
  simp only [checked, Option.elim_some, bind, Except.bind, if_true]
  rw [unitEnd_eq hfour, htype]
  simp only [Option.elim_some, readPart_unit hfour, Nat.add_sub_cancel_left]
  rfl

/-- An iteration consumes some bytes of the frame and does not run out of the buffer. -/
theorem Progress.Bounded.next (h : p.Bounded frame) (behind : UInt8)
    (hlt : p.srcPos < frame.data.length) :
    ∃ p' : Progress, p.next frame behind = .ok p' ∧ p'.Bounded frame ∧ p.srcPos < p'.srcPos := by
  obtain ⟨hconsumed, hwritten⟩ := h
  by_cases hlong : [0, 0, 0, 1] <+: frame.data.drop p.srcPos
  · have hfour := add_four_le hlong
    have hunit := nalLength_le (frame.data.drop (p.srcPos + 4))
    rw [List.length_drop] at hunit
    rw [Progress.next_long hlong]
    dsimp only
    split_ifs with hparameters hfull
    · exact ⟨_, rfl, ⟨by dsimp only; omega, by dsimp only; omega⟩, by dsimp only; omega⟩
    · omega
    · refine ⟨_, rfl, ⟨by dsimp only; omega, ?_⟩, by dsimp only; omega⟩
      simp only [List.length_append, putBe32_length, List.length_take, List.length_drop]
      omega
  · rw [Progress.next_skip hlong]
    exact ⟨_, rfl, ⟨hlt, by dsimp only; omega⟩, Nat.lt_succ_self _⟩

/-- The loop keeps to the bound, and ends. -/
theorem Progress.Bounded.iterations (h : p.Bounded frame) (behind : UInt8) (n : ℕ) :
    ∃ p' : Progress, p.iterations frame behind n = .ok p' ∧ p'.Bounded frame ∧
      (frame.data.length ≤ p.srcPos + n → p'.srcPos = frame.data.length) := by
  induction n generalizing p with
  | zero =>
    refine ⟨p, rfl, h, fun hend => ?_⟩
    have := h.consumed
    omega
  | succ n ih =>
    unfold Progress.iterations
    by_cases hlt : p.srcPos < frame.data.length
    · obtain ⟨next, hnext, hbounded, hmore⟩ := h.next behind hlt
      obtain ⟨last, hlast, hkept, hends⟩ := ih hbounded
      rw [if_pos hlt, hnext]
      exact ⟨last, hlast, hkept, fun hend => hends (by omega)⟩
    · have := h.consumed
      rw [if_neg hlt]
      exact ⟨p, rfl, h, fun _ => by omega⟩

/-- The loop makes the message of the frame. -/
theorem Progress.iterations_eq (behind : UInt8) {n : ℕ} (hend : frame.data.length ≤ p.srcPos + n)
    {message : List UInt8}
    (hconvert : annexBToAvcc (frame.data.length + 16) (frame.data.drop p.srcPos) p.message =
      .ok message) :
    ∃ p' : Progress, p.iterations frame behind n = .ok p' ∧ p'.message = message := by
  induction n generalizing p with
  | zero =>
    have hdone : frame.data.length ≤ p.srcPos := hend
    rw [List.drop_of_length_le hdone, annexBToAvcc] at hconvert
    exact ⟨p, rfl, Except.ok.inj hconvert⟩
  | succ n ih =>
    unfold Progress.iterations
    by_cases hlt : p.srcPos < frame.data.length
    · rw [if_pos hlt]
      by_cases hlong : [0, 0, 0, 1] <+: frame.data.drop p.srcPos
      · rw [Progress.next_long hlong]
        rw [drop_eq_of_long hlong] at hconvert
        by_cases hne : frame.data.drop (p.srcPos + 4) = []
        · rw [hne, annexBToAvcc] at hconvert
          cases hconvert
        · have htype : (frame.data.drop (p.srcPos + 4)).head?.getD behind =
              (frame.data.drop (p.srcPos + 4)).head hne := by
            rw [List.head?_eq_some_head hne, Option.getD_some]
          have hstep := annexBToAvcc_long (frame.data.length + 16) p.message hne
          rw [List.drop_drop] at hstep
          replace hconvert := hstep.symm.trans hconvert
          dsimp only
          rw [htype]
          split_ifs at hconvert ⊢
          · exact ih (by dsimp only; omega) hconvert
          · exact ih (by dsimp only; omega) hconvert
      · rw [List.drop_eq_getElem_cons hlt] at hlong hconvert
        rw [annexBToAvcc_cons_of_not hlong] at hconvert
        rw [← List.drop_eq_getElem_cons hlt] at hlong
        rw [Progress.next_skip hlong]
        exact ih (by dsimp only; omega) hconvert
    · rw [List.drop_of_length_le (Nat.le_of_not_lt hlt), annexBToAvcc] at hconvert
      rw [if_neg hlt]
      exact ⟨p, rfl, Except.ok.inj hconvert⟩

/-- There is room for the message of any frame. -/
theorem annexBToAvcc_ne_overflow {capacity : ℕ} {data message : List UInt8}
    (hroom : message.length + data.length ≤ capacity) :
    annexBToAvcc capacity data message ≠ .error .overflow := by
  fun_induction annexBToAvcc capacity data message with
  | case1 =>
    intro hsame
    cases hsame
  | case2 message b rest unit size hparameters ih =>
    apply ih
    simp only [List.length_cons, List.length_drop, unit] at hroom ⊢
    omega
  | case3 message b rest unit size hother hfull =>
    have hunit : unit.length = rest.length + 1 := rfl
    have hle : size ≤ unit.length := nalLength_le unit
    simp only [List.length_cons] at hroom
    omega
  | case4 message b rest unit size hother hfits ih =>
    apply ih
    have hunit : unit.length = rest.length + 1 := rfl
    have hle : size ≤ unit.length := nalLength_le unit
    simp only [List.length_cons] at hroom
    simp only [List.length_append, List.length_take, List.length_drop, putBe32_length]
    omega
  | case5 message a rest hend hlong ih => exact ih (Nat.le_of_succ_le hroom)
  | case6 message =>
    intro hsame
    cases hsame

/-- In each iteration the bytes written are at most five more than the bytes consumed, so they
stay in the allocation and the branch for an overflow is not taken. The loop ends, with the
message of the frame if no type is read behind its end. -/
theorem Progress.iterations_bounded (frame : Frame) (behind frameType : UInt8) :
    (∀ n, ∃ p : Progress, (Progress.start frameType).iterations frame behind n = .ok p ∧
      p.message.length ≤ p.srcPos + 5 ∧ p.srcPos ≤ frame.data.length ∧
      p.message.length ≤ frame.data.length + 5 ∧
      p.message.length ≤ frame.data.length + 16) ∧
    ∃ p : Progress,
      (Progress.start frameType).iterations frame behind frame.data.length = .ok p ∧
      p.srcPos = frame.data.length ∧
      ∀ message, checkedConvert frame [frameType, 1, 0, 0, 0] = some message →
        message = some p.message := by
  have hstart : (Progress.start frameType).Bounded frame := ⟨Nat.zero_le _, le_rfl⟩
  refine ⟨fun n => ?_, ?_⟩
  · obtain ⟨p, hp, ⟨hconsumed, hwritten⟩, -⟩ := hstart.iterations behind n
    exact ⟨p, hp, hwritten, hconsumed, by omega, by omega⟩
  · obtain ⟨p, hp, -, hends⟩ := hstart.iterations behind frame.data.length
    refine ⟨p, hp, hends (Nat.le_add_left _ _), fun message hmessage => ?_⟩
    have hroom : ([frameType, 1, 0, 0, 0] : List UInt8).length + frame.data.length ≤
        frame.data.length + 16 := by
      simp only [List.length_cons, List.length_nil]
      omega
    rw [checkedConvert, scan_convertAt, List.drop_zero] at hmessage
    cases hconvert : annexBToAvcc (frame.data.length + 16) frame.data [frameType, 1, 0, 0, 0] with
    | ok converted =>
      rw [hconvert] at hmessage
      obtain ⟨p', hp', hsame⟩ := Progress.iterations_eq behind (p := Progress.start frameType)
        (Nat.le_add_left _ _) hconvert
      rw [hp, Except.ok.injEq] at hp'
      rw [← Option.some.inj hmessage, ← hsame, hp']
    | error e =>
      rw [hconvert] at hmessage
      cases e with
      | outOfFrame => cases hmessage
      | overflow => exact absurd hconvert (annexBToAvcc_ne_overflow hroom)

end RtmpClient
