import Strero.Lib.Allocation
import Strero.Rtmp.AmfRoundTrip
import Strero.Rtmp.Command

/-!
# The memory of a command

A decoded command points to the copy of its name, to the strings and property arrays of its
values and to the array of its arguments. The decoders give every buffer back that they got when
they fail in the middle, and `rtmp_command_free` those of a whole command. Any of the requests for
memory may be refused.
-/

namespace Rtmp

open Wire CString Allocation

/-! ### Values and their buffers -/

/-- The buffers that an `amf_value_t` points to: those of a string, or the array of an object,
with the name of each property and the buffers of its value. -/
inductive Blocks
  | none
  | string (data : ℕ)
  | object (array : Option ℕ) (properties : List (ℕ × Blocks))

mutual

/-- `amf_value_free`. -/
def amfValueFree (heap : Heap) : Blocks → Heap
  | .none => heap
  | .string data => heap.free (some data)
  | .object array properties =>
    match array with
    | none => heap
    | some array => (amfPropertiesFree heap properties).free (some array)

/-- The loop of `amf_object_free`, with `amf_property_free` for each property. -/
def amfPropertiesFree (heap : Heap) : List (ℕ × Blocks) → Heap
  | [] => heap
  | (name, value) :: properties =>
    amfPropertiesFree (amfValueFree (heap.free (some name)) value) properties

end

/-- `amf_object_free`. -/
def amfObjectFree (heap : Heap) (array : Option ℕ) (properties : List (ℕ × Blocks)) : Heap :=
  amfValueFree heap (.object array properties)

mutual

/-- The buffers that are held through a value. -/
def Blocks.held : Blocks → List ℕ
  | .none => []
  | .string data => [data]
  | .object array properties =>
    match array with
    | none => []
    | some array => array :: heldProperties properties

/-- The buffers that are held through the properties of an object. -/
def heldProperties : List (ℕ × Blocks) → List ℕ
  | [] => []
  | (name, value) :: properties => name :: (value.held ++ heldProperties properties)

end

/-! ### Decoding -/

section Decoding

variable (served : ℕ → Bool) (buffer : List UInt8)

/-- `amf_decode_string`: the copy is made after all checks. -/
def amfDecodeStringIn (heap : Heap) (offset : ℕ) :
    Except AmfFailure (List UInt8 × ℕ × ℕ) × Heap :=
  match amfDecodeString buffer offset with
  | .error failure => (.error failure, heap)
  | .ok (data, offset) =>
    match heap.malloc served with
    | (none, heap) => (.error .malformed, heap)
    | (some block, heap) => (.ok (data, block, offset), heap)

/-- The array of the properties before the next one is stored, with its capacity. -/
def expandProperties (heap : Heap) (array : Option ℕ) (count capacity : ℕ) :
    Option (Option ℕ × ℕ) × Heap :=
  if count ≥ capacity then
    match heap.realloc served array with
    | (none, heap) => (none, heap)
    | (some grown, heap) => (some (some grown, if capacity = 0 then 4 else capacity * 2), heap)
  else (some (array, capacity), heap)

mutual

/-- `amf_decode_value`, with the buffers of the value. -/
def amfDecodeValueIn : ℕ → Heap → ℕ → Except AmfFailure (AmfValue × Blocks × ℕ) × Heap
  | 0, heap, _ => (.error .outOfFuel, heap)
  | fuel + 1, heap, offset =>
    if offset ≥ buffer.length then (.error .malformed, heap)
    else
      match amfByte buffer offset with
      | .error failure => (.error failure, heap)
      | .ok type =>
        match type.toNat with
        | 0x02 =>
          match amfDecodeStringIn served buffer heap (offset + 1) with
          | (.error failure, heap) => (.error failure, heap)
          | (.ok (data, block, offset), heap) => (.ok (.string data, .string block, offset), heap)
        | 0x03 => amfDecodeObjectIn fuel heap (offset + 1) none [] [] 0
        | _ =>
          match amfDecodeValue buffer 1 offset with
          | .error failure => (.error failure, heap)
          | .ok (value, offset) => (.ok (value, .none, offset), heap)

/-- The loop of `amf_decode_object`, with the properties stored so far and their array. -/
def amfDecodeObjectIn : ℕ → Heap → ℕ → Option ℕ → List (List UInt8 × AmfValue) →
    List (ℕ × Blocks) → ℕ → Except AmfFailure (AmfValue × Blocks × ℕ) × Heap
  | 0, heap, _, array, _, blocks, _ =>
    (.error .outOfFuel, amfObjectFree heap array blocks)
  | fuel + 1, heap, offset, array, properties, blocks, capacity =>
    if offset ≥ buffer.length then (.ok (.object properties, .object array blocks, offset), heap)
    else
      match amfObjectEndAt buffer offset with
      | .error failure => (.error failure, amfObjectFree heap array blocks)
      | .ok true => (.ok (.object properties, .object array blocks, offset + 3), heap)
      | .ok false =>
        match expandProperties served heap array blocks.length capacity with
        | (none, heap) => (.error .malformed, amfObjectFree heap array blocks)
        | (some (array, capacity), heap) =>
          match amfDecodeStringIn served buffer heap offset with
          | (.error failure, heap) => (.error failure, amfObjectFree heap array blocks)
          | (.ok (name, block, offset), heap) =>
            match amfDecodeValueIn fuel heap offset with
            | (.error failure, heap) =>
              (.error failure, amfObjectFree (heap.free (some block)) array blocks)
            | (.ok (value, valueBlocks, offset), heap) =>
              amfDecodeObjectIn fuel heap offset array (properties ++ [(name, value)])
                (blocks ++ [(block, valueBlocks)]) capacity

end

end Decoding

/-! ### Commands -/

/-- The buffers that an `rtmp_command_t` points to: the copy of the name, which is `NULL` if it
could not be made, those of the command object, and the array of the arguments with theirs. -/
structure CommandBlocks where
  name : Option ℕ
  object : Blocks
  array : Option ℕ
  arguments : List Blocks

/-- `rtmp_command_free`. -/
def rtmpCommandFree (heap : Heap) (blocks : CommandBlocks) : Heap :=
  let heap := amfValueFree (heap.free blocks.name) blocks.object
  match blocks.array with
  | none => heap
  | some array => (blocks.arguments.foldl amfValueFree heap).free (some array)

/-- The buffers that are held through a command. -/
def CommandBlocks.held (blocks : CommandBlocks) : List ℕ :=
  blocks.name.toList ++ (blocks.object.held ++
    match blocks.array with
    | none => []
    | some array => array :: blocks.arguments.flatMap Blocks.held)

section Parsing

variable (served : ℕ → Bool) (buffer : List UInt8)

/-- The argument loop of `rtmp_command_parse`. -/
def parseArgumentsIn : ℕ → Heap → ℕ → CommandBlocks → List AmfValue →
    Except AmfFailure (List AmfValue × CommandBlocks) × Heap
  | 0, heap, _, blocks, _ => (.error .outOfFuel, rtmpCommandFree heap blocks)
  | fuel + 1, heap, offset, blocks, arguments =>
    if offset ≥ buffer.length then (.ok (arguments, blocks), heap)
    else
      match heap.realloc served blocks.array with
      | (none, heap) => (.error .malformed, rtmpCommandFree heap blocks)
      | (some array, heap) =>
        let blocks := { blocks with array := some array }
        match amfDecodeValueIn served buffer (buffer.length + 1) heap offset with
        | (.error failure, heap) => (.error failure, rtmpCommandFree heap blocks)
        | (.ok (argument, argumentBlocks, offset), heap) =>
          parseArgumentsIn fuel heap offset
            { blocks with arguments := blocks.arguments ++ [argumentBlocks] }
            (arguments ++ [argument])

/-- What follows the command object in `rtmp_command_parse`, or stands in its place. -/
def decodeCommandObjectIn (heap : Heap) (offset : ℕ) :
    Except AmfFailure (AmfValue × Blocks × ℕ) × Heap :=
  if offset < buffer.length then amfDecodeValueIn served buffer (buffer.length + 1) heap offset
  else (.ok (.number 0, .none, offset), heap)

/-- `rtmp_command_parse` after the copy of the name was made and the value of the name given
back. -/
def parseAfterNameIn (heap : Heap) (name : List UInt8) (commandName : Option ℕ) (offset : ℕ) :
    Except AmfFailure (Command × CommandBlocks) × Heap :=
  match amfDecodeValueIn served buffer (buffer.length + 1) heap offset with
  | (.error failure, heap) => (.error failure, heap.free commandName)
  | (.ok (transaction, blocks, offset), heap) =>
    match transaction with
    | .number transactionId =>
      match decodeCommandObjectIn served buffer heap offset with
      | (.error failure, heap) => (.error failure, heap.free commandName)
      | (.ok (object, objectBlocks, offset), heap) =>
        match parseArgumentsIn served buffer (buffer.length + 1) heap offset
            ⟨commandName, objectBlocks, none, []⟩ [] with
        | (.error failure, heap) => (.error failure, heap)
        | (.ok (arguments, blocks), heap) =>
          (.ok (⟨name, transactionId, object, arguments⟩, blocks), heap)
    | _ => (.error .malformed, (amfValueFree heap blocks).free commandName)

/-- `rtmp_command_parse`, with the buffers of the command. -/
def rtmpCommandParseIn (heap : Heap) : Except AmfFailure (Command × CommandBlocks) × Heap :=
  match amfDecodeValueIn served buffer (buffer.length + 1) heap 0 with
  | (.error failure, heap) => (.error failure, heap)
  | (.ok (name, blocks, offset), heap) =>
    match name with
    | .string data =>
      -- `strdup` of the name, whose result is not checked
      match heap.malloc served with
      | (commandName, heap) =>
        parseAfterNameIn served buffer (amfValueFree heap blocks) (cString data) commandName offset
    | _ => (.error .malformed, amfValueFree heap blocks)

end Parsing

/-! ### What is given back -/

mutual

theorem amfValueFree_balanced {heap : Heap} {held : List ℕ} (blocks : Blocks) :
    (amfValueFree heap blocks).ledger.Balanced held ↔
      heap.ledger.Balanced (blocks.held ++ held) := by
  cases blocks with
  | none => rfl
  | string data => exact Heap.free_balanced_iff
  | object array properties =>
    cases array with
    | none => rfl
    | some array =>
      have hmiddle : (heldProperties properties ++ array :: held).Perm
          (array :: (heldProperties properties ++ held)) := List.perm_middle
      exact Heap.free_balanced_iff.trans
        ((amfPropertiesFree_balanced properties).trans (balanced_congr hmiddle))

theorem amfPropertiesFree_balanced {heap : Heap} {held : List ℕ}
    (properties : List (ℕ × Blocks)) :
    (amfPropertiesFree heap properties).ledger.Balanced held ↔
      heap.ledger.Balanced (heldProperties properties ++ held) := by
  cases properties with
  | nil => rfl
  | cons property properties =>
    obtain ⟨name, value⟩ := property
    have hrest : (amfPropertiesFree (amfValueFree (heap.free (some name)) value)
        properties).ledger.Balanced held ↔
          heap.ledger.Balanced (name :: (value.held ++ (heldProperties properties ++ held))) :=
      (amfPropertiesFree_balanced properties).trans
        ((amfValueFree_balanced value).trans Heap.free_balanced_iff)
    rw [amfPropertiesFree, hrest, heldProperties, List.cons_append, List.append_assoc]

end

/-- An object without array has no properties stored, and is given back as one with an array. -/
theorem amfObjectFree_balanced {heap : Heap} {held : List ℕ} {array : Option ℕ}
    {blocks : List (ℕ × Blocks)} (hnone : array = none → blocks = []) :
    (amfObjectFree heap array blocks).ledger.Balanced held ↔
      heap.ledger.Balanced (array.toList ++ (heldProperties blocks ++ held)) := by
  refine (amfValueFree_balanced (.object array blocks)).trans ?_
  cases array with
  | none =>
    rw [hnone rfl]
    rfl
  | some array => rfl

theorem heldProperties_append (blocks blocks' : List (ℕ × Blocks)) :
    heldProperties (blocks ++ blocks') = heldProperties blocks ++ heldProperties blocks' := by
  induction blocks with
  | nil => rfl
  | cons property blocks ih =>
    rw [List.cons_append, heldProperties, heldProperties, ih]
    simp only [List.cons_append, List.append_assoc]

/-- A name and a value that were held by themselves are held through the object. -/
theorem stored_perm (value : Blocks) (array name : ℕ) (blocks : List (ℕ × Blocks))
    (held : List ℕ) :
    (value.held ++ (name :: array :: (heldProperties blocks ++ held))).Perm
      ((some array).toList ++ (heldProperties (blocks ++ [(name, value)]) ++ held)) := by
  rw [List.perm_iff_count, heldProperties_append]
  intro b
  simp only [Option.toList_some, heldProperties, List.append_nil, List.count_append,
    List.count_cons, List.count_nil]
  omega

/-- What a function owns through its result, besides what was held before, is all that is not
given back; where it fails, it owns nothing. -/
def Accounts {α : Type} (held : List ℕ) (owned : α → List ℕ) : Except AmfFailure α × Heap → Prop
  | (.ok result, heap) => heap.ledger.Balanced (owned result ++ held)
  | (.error _, heap) => heap.ledger.Balanced held

section Balance

variable {served : ℕ → Bool} {buffer : List UInt8} {heap heap' : Heap} {held : List ℕ}

theorem amfDecodeStringIn_accounts (h : heap.ledger.Balanced held) (offset : ℕ) :
    Accounts held (fun r => [r.2.1]) (amfDecodeStringIn served buffer heap offset) := by
  unfold amfDecodeStringIn
  cases amfDecodeString buffer offset with
  | error failure => exact h
  | ok read =>
    obtain ⟨data, offset⟩ := read
    dsimp only
    rcases hmalloc : heap.malloc served with ⟨_ | block, heap'⟩
    · exact Heap.malloc_balanced h hmalloc
    · exact Heap.malloc_balanced h hmalloc

/-- Before a property is stored there is an array, which has taken the place of the old one. -/
theorem expandProperties_balanced {array array' : Option ℕ} {count capacity capacity' : ℕ}
    (hcapacity : array = none → capacity = 0)
    (h : heap.ledger.Balanced (array.toList ++ held))
    (hexpand : expandProperties served heap array count capacity =
      (some (array', capacity'), heap')) :
    ∃ grown, array' = some grown ∧ heap'.ledger.Balanced (grown :: held) := by
  unfold expandProperties at hexpand
  by_cases hfull : count ≥ capacity
  · rw [if_pos hfull] at hexpand
    rcases hrealloc : heap.realloc served array with ⟨_ | grown, moved⟩
    · rw [hrealloc] at hexpand
      cases hexpand
    · rw [hrealloc] at hexpand
      cases hexpand
      exact ⟨grown, rfl, Heap.realloc_balanced h hrealloc⟩
  · rw [if_neg hfull] at hexpand
    cases hexpand
    cases array with
    | none => exact absurd (hcapacity rfl ▸ Nat.zero_le count) hfull
    | some array => exact ⟨array, rfl, h⟩

theorem expandProperties_refused {array : Option ℕ} {count capacity : ℕ}
    (h : heap.ledger.Balanced held)
    (hexpand : expandProperties served heap array count capacity = (none, heap')) :
    heap'.ledger.Balanced held := by
  unfold expandProperties at hexpand
  by_cases hfull : count ≥ capacity
  · rw [if_pos hfull] at hexpand
    rcases hrealloc : heap.realloc served array with ⟨_ | grown, moved⟩
    · rw [hrealloc] at hexpand
      cases hexpand
      exact Heap.realloc_refused h hrealloc
    · rw [hrealloc] at hexpand
      cases hexpand
  · rw [if_neg hfull] at hexpand
    cases hexpand

/-- Both decoders account for their buffers. The induction is on the fuel of both. -/
theorem amfDecodeIn_accounts (fuel : ℕ) :
    (∀ (heap : Heap) (offset : ℕ) (held : List ℕ), heap.ledger.Balanced held →
      Accounts held (fun r => r.2.1.held) (amfDecodeValueIn served buffer fuel heap offset)) ∧
    ∀ (heap : Heap) (offset : ℕ) (array : Option ℕ) (properties : List (List UInt8 × AmfValue))
      (blocks : List (ℕ × Blocks)) (capacity : ℕ) (held : List ℕ),
      (array = none → blocks = [] ∧ capacity = 0) →
      heap.ledger.Balanced (array.toList ++ (heldProperties blocks ++ held)) →
      Accounts held (fun r => r.2.1.held)
        (amfDecodeObjectIn served buffer fuel heap offset array properties blocks capacity) := by
  induction fuel with
  | zero =>
    refine ⟨fun heap offset held h => h, ?_⟩
    intro heap offset array properties blocks capacity held hnone h
    exact (amfObjectFree_balanced fun harray => (hnone harray).1).mpr h
  | succ fuel ih =>
    obtain ⟨ihValue, ihObject⟩ := ih
    constructor
    · intro heap offset held h
      rw [amfDecodeValueIn]
      split_ifs with hend
      · exact h
      · cases amfByte buffer offset with
        | error failure => exact h
        | ok type =>
          dsimp only
          split
          · have hstring : Accounts held (fun r => [r.2.1])
                (amfDecodeStringIn served buffer heap (offset + 1)) :=
              amfDecodeStringIn_accounts h (offset + 1)
            generalize amfDecodeStringIn served buffer heap (offset + 1) = result at hstring
            obtain ⟨_ | _, heap'⟩ := result
            · exact hstring
            · exact hstring
          · exact ihObject heap (offset + 1) none [] [] 0 held (fun _ => ⟨rfl, rfl⟩) h
          · cases amfDecodeValue buffer 1 offset with
            | error failure => exact h
            | ok value => exact h
    · intro heap offset array properties blocks capacity held hnone h
      have hblocks : array = none → blocks = [] := fun harray => (hnone harray).1
      have hcapacity : array = none → capacity = 0 := fun harray => (hnone harray).2
      have hstored : heap.ledger.Balanced ((Blocks.object array blocks).held ++ held) :=
        (amfValueFree_balanced _).mp ((amfObjectFree_balanced hblocks).mpr h)
      rw [amfDecodeObjectIn]
      split_ifs with hend
      · exact hstored
      · cases amfObjectEndAt buffer offset with
        | error failure => exact (amfObjectFree_balanced hblocks).mpr h
        | ok atEnd =>
          cases atEnd with
          | true => exact hstored
          | false =>
            dsimp only
            rcases hexpand : expandProperties served heap array blocks.length capacity with
              ⟨_ | ⟨array', capacity'⟩, heap'⟩
            · exact (amfObjectFree_balanced hblocks).mpr (expandProperties_refused h hexpand)
            · obtain ⟨grown, rfl, hgrown⟩ := expandProperties_balanced hcapacity h hexpand
              have hsome : ∀ next : List (ℕ × Blocks), some grown = none → next = [] :=
                fun _ hcontra => by cases hcontra
              dsimp only
              -- the name, then the value, each with what is stored so far still held
              have hname : Accounts (grown :: (heldProperties blocks ++ held)) (fun r => [r.2.1])
                  (amfDecodeStringIn served buffer heap' offset) :=
                amfDecodeStringIn_accounts hgrown offset
              generalize amfDecodeStringIn served buffer heap' offset = result at hname
              obtain ⟨_ | ⟨name, block, offset'⟩, heap'⟩ := result
              · exact (amfObjectFree_balanced (hsome blocks)).mpr hname
              · dsimp only
                have hvalue := ihValue heap' offset' _ hname
                generalize amfDecodeValueIn served buffer fuel heap' offset' = result at hvalue
                obtain ⟨_ | ⟨value, valueBlocks, offset''⟩, heap''⟩ := result
                · exact (amfObjectFree_balanced (hsome blocks)).mpr
                    (Heap.free_balanced_iff.mpr hvalue)
                · apply ihObject
                  · exact fun hcontra => by cases hcontra
                  · exact Ledger.Balanced.perm hvalue (stored_perm _ grown block blocks held)

/-- `amf_decode_value` accounts for its buffers. -/
theorem amfDecodeValueIn_accounts (fuel offset : ℕ) (h : heap.ledger.Balanced held) :
    Accounts held (fun r => r.2.1.held) (amfDecodeValueIn served buffer fuel heap offset) :=
  (amfDecodeIn_accounts fuel).1 heap offset held h

/-! ### Commands that are given back -/

theorem foldl_amfValueFree_balanced (arguments : List Blocks) :
    (arguments.foldl amfValueFree heap).ledger.Balanced held ↔
      heap.ledger.Balanced (arguments.flatMap Blocks.held ++ held) := by
  induction arguments generalizing heap with
  | nil => rfl
  | cons argument arguments ih =>
    rw [List.foldl_cons, ih, amfValueFree_balanced, List.flatMap_cons, List.append_assoc]

/-- `rtmp_command_free` gives back what is held through the command. -/
theorem rtmpCommandFree_balanced {blocks : CommandBlocks} :
    (rtmpCommandFree heap blocks).ledger.Balanced held ↔
      heap.ledger.Balanced (blocks.held ++ held) := by
  obtain ⟨name, object, array, arguments⟩ := blocks
  cases array with
  | none =>
    refine (amfValueFree_balanced object).trans (Heap.free_balanced_iff.trans ?_)
    simp only [CommandBlocks.held, List.append_nil, List.append_assoc]
  | some array =>
    have hmiddle : (arguments.flatMap Blocks.held ++ array :: held).Perm
        (array :: (arguments.flatMap Blocks.held ++ held)) := List.perm_middle
    refine Heap.free_balanced_iff.trans ((foldl_amfValueFree_balanced arguments).trans
      ((balanced_congr hmiddle).trans ((amfValueFree_balanced object).trans
        (Heap.free_balanced_iff.trans ?_))))
    simp only [CommandBlocks.held, List.append_assoc, List.cons_append]

/-- An argument that was held by itself is held through the command. -/
theorem argument_perm (argument : Blocks) (blocks : CommandBlocks) (array : ℕ) (held : List ℕ) :
    (argument.held ++ (CommandBlocks.held { blocks with array := some array } ++ held)).Perm
      (CommandBlocks.held
        { blocks with array := some array, arguments := blocks.arguments ++ [argument] } ++
          held) := by
  rw [List.perm_iff_count]
  intro b
  simp only [CommandBlocks.held, List.count_append, List.count_cons, List.flatMap_append,
    List.flatMap_singleton]
  omega

/-- The array of the arguments is held by itself before it is held through the command. -/
theorem array_perm {blocks : CommandBlocks} (hnone : blocks.array = none → blocks.arguments = [])
    (held : List ℕ) :
    (blocks.held ++ held).Perm (blocks.array.toList ++ (blocks.name.toList ++
      (blocks.object.held ++ (blocks.arguments.flatMap Blocks.held ++ held)))) := by
  rw [List.perm_iff_count]
  intro b
  obtain ⟨name, object, array, arguments⟩ := blocks
  cases array with
  | none =>
    obtain rfl : arguments = [] := hnone rfl
    simp [CommandBlocks.held]
  | some array =>
    simp only [CommandBlocks.held, Option.toList_some, List.count_append, List.count_cons,
      List.count_nil]
    omega

/-- The loop over the arguments keeps account of the command, and gives it back if it fails. -/
theorem parseArgumentsIn_accounts (fuel : ℕ) {offset : ℕ} {blocks : CommandBlocks}
    (hnone : blocks.array = none → blocks.arguments = []) (arguments : List AmfValue)
    (h : heap.ledger.Balanced (blocks.held ++ held)) :
    Accounts held (fun r => r.2.held)
      (parseArgumentsIn served buffer fuel heap offset blocks arguments) := by
  induction fuel generalizing heap offset blocks arguments with
  | zero => exact rtmpCommandFree_balanced.mpr h
  | succ fuel ih =>
    rw [parseArgumentsIn]
    split_ifs with hend
    · exact h
    · rcases hrealloc : heap.realloc served blocks.array with ⟨_ | array, heap'⟩
      · exact rtmpCommandFree_balanced.mpr (Heap.realloc_refused h hrealloc)
      · have hsome : some array = none → blocks.arguments = [] := fun hcontra => by cases hcontra
        have hgrown : (CommandBlocks.held { blocks with array := some array } ++ held).Perm
            (array :: (blocks.name.toList ++
              (blocks.object.held ++ (blocks.arguments.flatMap Blocks.held ++ held)))) :=
          array_perm hsome held
        have hmoved : heap'.ledger.Balanced
            (CommandBlocks.held { blocks with array := some array } ++ held) :=
          (Heap.realloc_balanced (h.perm (array_perm hnone held)) hrealloc).perm hgrown.symm
        dsimp only
        have hvalue : Accounts (CommandBlocks.held { blocks with array := some array } ++ held)
            (fun r => r.2.1.held)
            (amfDecodeValueIn served buffer (buffer.length + 1) heap' offset) :=
          amfDecodeValueIn_accounts _ offset hmoved
        generalize amfDecodeValueIn served buffer (buffer.length + 1) heap' offset = result
          at hvalue
        obtain ⟨_ | ⟨argument, argumentBlocks, offset'⟩, heap'⟩ := result
        · exact rtmpCommandFree_balanced.mpr hvalue
        · apply ih
          · exact fun hcontra => by cases hcontra
          · exact Ledger.Balanced.perm hvalue (argument_perm argumentBlocks blocks array held)

/-- Only an object comes out of the loop over the properties. -/
theorem amfDecodeObjectIn_object {fuel offset offset' capacity : ℕ} {array : Option ℕ}
    {properties : List (List UInt8 × AmfValue)} {blocks : List (ℕ × Blocks)} {value : AmfValue}
    {valueBlocks : Blocks}
    (h : (amfDecodeObjectIn served buffer fuel heap offset array properties blocks capacity).1 =
      .ok (value, valueBlocks, offset')) : ∃ properties, value = .object properties := by
  induction fuel generalizing heap offset array properties blocks capacity with
  | zero => cases h
  | succ fuel ih =>
    rw [amfDecodeObjectIn] at h
    split_ifs at h with hend
    · cases h
      exact ⟨properties, rfl⟩
    · cases hat : amfObjectEndAt buffer offset with
      | error failure =>
        rw [hat] at h
        cases h
      | ok atEnd =>
        rw [hat] at h
        cases atEnd with
        | true =>
          cases h
          exact ⟨properties, rfl⟩
        | false =>
          dsimp only at h
          generalize expandProperties served heap array blocks.length capacity = expanded at h
          obtain ⟨_ | ⟨array', capacity'⟩, heap'⟩ := expanded
          · cases h
          · dsimp only at h
            generalize amfDecodeStringIn served buffer heap' offset = name at h
            obtain ⟨_ | ⟨name, block, offset₁⟩, heap'⟩ := name
            · cases h
            · dsimp only at h
              generalize amfDecodeValueIn served buffer fuel heap' offset₁ = inner at h
              obtain ⟨_ | ⟨inner, innerBlocks, offset₂⟩, heap'⟩ := inner
              · cases h
              · exact ih h

/-- A number points to nothing. -/
theorem amfDecodeValueIn_number {fuel offset offset' : ℕ} {bits : UInt64} {blocks : Blocks}
    (h : (amfDecodeValueIn served buffer fuel heap offset).1 =
      .ok (.number bits, blocks, offset')) : blocks = .none := by
  cases fuel with
  | zero => cases h
  | succ fuel =>
    rw [amfDecodeValueIn] at h
    split_ifs at h with hend
    cases hbyte : amfByte buffer offset with
    | error failure =>
      rw [hbyte] at h
      cases h
    | ok type =>
      rw [hbyte] at h
      dsimp only at h
      split at h
      · generalize amfDecodeStringIn served buffer heap (offset + 1) = string at h
        obtain ⟨_ | string, heap'⟩ := string <;> cases h
      · obtain ⟨properties, hobject⟩ := amfDecodeObjectIn_object h
        cases hobject
      · cases hplain : amfDecodeValue buffer 1 offset with
        | error failure =>
          rw [hplain] at h
          cases h
        | ok plain =>
          rw [hplain] at h
          obtain ⟨-, hrest⟩ := Prod.mk.inj (Except.ok.inj h)
          exact (Prod.mk.inj hrest).1.symm

theorem decodeCommandObjectIn_accounts (h : heap.ledger.Balanced held) (offset : ℕ) :
    Accounts held (fun r => r.2.1.held) (decodeCommandObjectIn served buffer heap offset) := by
  unfold decodeCommandObjectIn
  split_ifs
  · exact amfDecodeValueIn_accounts _ offset h
  · exact h

theorem parseAfterNameIn_accounts (name : List UInt8) {commandName : Option ℕ} (offset : ℕ)
    (h : heap.ledger.Balanced (commandName.toList ++ held)) :
    Accounts held (fun r => r.2.held)
      (parseAfterNameIn served buffer heap name commandName offset) := by
  unfold parseAfterNameIn
  have htransaction : Accounts (commandName.toList ++ held) (fun r => r.2.1.held)
      (amfDecodeValueIn served buffer (buffer.length + 1) heap offset) :=
    amfDecodeValueIn_accounts _ offset h
  have hnumber : ∀ bits blocks offset',
      (amfDecodeValueIn served buffer (buffer.length + 1) heap offset).1 =
        .ok (.number bits, blocks, offset') → blocks = .none :=
    fun _ _ _ => amfDecodeValueIn_number
  generalize amfDecodeValueIn served buffer (buffer.length + 1) heap offset = result
    at htransaction hnumber
  obtain ⟨_ | ⟨transaction, blocks, offset⟩, heap⟩ := result
  · exact Heap.free_balanced_iff.mpr htransaction
  · have hother : ((amfValueFree heap blocks).free commandName).ledger.Balanced held :=
      Heap.free_balanced_iff.mpr ((amfValueFree_balanced blocks).mpr htransaction)
    cases transaction with
    | boolean | string | object | null | undefined => exact hother
    | number transactionId =>
      obtain rfl := hnumber transactionId blocks offset rfl
      have hheld : heap.ledger.Balanced (commandName.toList ++ held) := htransaction
      dsimp only
      have hobject : Accounts (commandName.toList ++ held) (fun r => r.2.1.held)
          (decodeCommandObjectIn served buffer heap offset) :=
        decodeCommandObjectIn_accounts hheld offset
      generalize decodeCommandObjectIn served buffer heap offset = result at hobject
      obtain ⟨_ | ⟨object, objectBlocks, offset⟩, heap⟩ := result
      · exact Heap.free_balanced_iff.mpr hobject
      · have hstart : heap.ledger.Balanced
            (CommandBlocks.held ⟨commandName, objectBlocks, none, []⟩ ++ held) := by
          refine Ledger.Balanced.perm hobject ?_
          simp only [CommandBlocks.held, List.append_nil]
          rw [← List.append_assoc]
          exact List.perm_append_comm.append_right held
        dsimp only
        have harguments : Accounts held (fun r => r.2.held)
            (parseArgumentsIn served buffer (buffer.length + 1) heap offset
              ⟨commandName, objectBlocks, none, []⟩ []) :=
          parseArgumentsIn_accounts _ (fun _ => rfl) [] hstart
        generalize parseArgumentsIn served buffer (buffer.length + 1) heap offset
          ⟨commandName, objectBlocks, none, []⟩ [] = result at harguments
        obtain ⟨_ | ⟨arguments, blocks⟩, heap⟩ := result
        · exact harguments
        · exact harguments

/-- A command that is parsed holds its buffers, and one that is refused none. -/
theorem rtmpCommandParseIn_accounts (h : heap.ledger.Balanced held) :
    Accounts held (fun r => r.2.held) (rtmpCommandParseIn served buffer heap) := by
  unfold rtmpCommandParseIn
  have hname : Accounts held (fun r => r.2.1.held)
      (amfDecodeValueIn served buffer (buffer.length + 1) heap 0) :=
    amfDecodeValueIn_accounts _ 0 h
  generalize amfDecodeValueIn served buffer (buffer.length + 1) heap 0 = result at hname
  obtain ⟨_ | ⟨name, blocks, offset⟩, heap⟩ := result
  · exact hname
  · have hother : (amfValueFree heap blocks).ledger.Balanced held :=
      (amfValueFree_balanced blocks).mpr hname
    cases name with
    | number | boolean | object | null | undefined => exact hother
    | string data =>
      dsimp only
      rcases hmalloc : heap.malloc served with ⟨commandName, heap'⟩
      apply parseAfterNameIn_accounts
      refine (amfValueFree_balanced blocks).mpr ((Heap.malloc_balanced hname hmalloc).perm ?_)
      dsimp only
      rw [← List.append_assoc, ← List.append_assoc]
      exact List.perm_append_comm.append_right held

end Balance

/-! ### The same commands -/

/-- A function with buffers has the result of the one without, unless a request was refused, and
then it may fail. -/
def Agrees {α β : Type} (served : ℕ → Bool) (erase : α → β) (result : Except AmfFailure α × Heap)
    (plain : Except AmfFailure β) : Prop :=
  result.1.map erase = plain ∨ (∃ n, served n = false) ∧ ∃ failure, result.1 = .error failure

section Agreement

variable {served : ℕ → Bool} {buffer : List UInt8}

/-- Both fail alike, or the one with buffers fails for want of one, or both succeed alike. -/
theorem Agrees.cases {α β : Type} {erase : α → β} {result : Except AmfFailure α × Heap}
    {plain : Except AmfFailure β} (h : Agrees served erase result plain) :
    (∃ failure heap, result = (.error failure, heap) ∧
      (plain = .error failure ∨ ∃ n, served n = false)) ∨
    ∃ a heap, result = (.ok a, heap) ∧ plain = .ok (erase a) := by
  obtain ⟨_ | a, heap⟩ := result
  · refine .inl ⟨_, heap, rfl, ?_⟩
    obtain hsame | ⟨hrefused, -⟩ := h
    · exact .inl hsame.symm
    · exact .inr hrefused
  · refine .inr ⟨a, heap, rfl, ?_⟩
    obtain hsame | ⟨-, failure, hfailed⟩ := h
    · exact hsame.symm
    · cases hfailed

/-- A failure that is passed on. -/
theorem agrees_error {α β : Type} {erase : α → β} {failure : AmfFailure} {heap : Heap}
    {plain : Except AmfFailure β} (h : plain = .error failure ∨ ∃ n, served n = false) :
    Agrees served erase (.error failure, heap) plain := by
  obtain rfl | hrefused := h
  · exact .inl rfl
  · exact .inr ⟨hrefused, _, rfl⟩

/-- What follows a step that may have failed. -/
theorem error_bind {α β : Type} {plain : Except AmfFailure α} {failure : AmfFailure}
    (h : plain = .error failure ∨ ∃ n, served n = false) (next : α → Except AmfFailure β) :
    (plain >>= next) = .error failure ∨ ∃ n, served n = false := by
  obtain rfl | hrefused := h
  · exact .inl rfl
  · exact .inr hrefused

theorem amfDecodeStringIn_agrees (served : ℕ → Bool) (buffer : List UInt8) (heap : Heap)
    (offset : ℕ) :
    Agrees served (fun r => (r.1, r.2.2)) (amfDecodeStringIn served buffer heap offset)
      (amfDecodeString buffer offset) := by
  unfold amfDecodeStringIn
  cases amfDecodeString buffer offset with
  | error failure => exact .inl rfl
  | ok read =>
    dsimp only
    rcases hmalloc : heap.malloc served with ⟨_ | block, heap'⟩
    · exact .inr ⟨Heap.exists_refused_of_malloc hmalloc, _, rfl⟩
    · exact .inl rfl

theorem exists_refused_of_expandProperties {heap heap' : Heap} {array : Option ℕ}
    {count capacity : ℕ}
    (h : expandProperties served heap array count capacity = (none, heap')) :
    ∃ n, served n = false := by
  unfold expandProperties at h
  by_cases hfull : count ≥ capacity
  · rw [if_pos hfull] at h
    rcases hrealloc : heap.realloc served array with ⟨_ | grown, moved⟩
    · exact Heap.exists_refused_of_realloc hrealloc
    · rw [hrealloc] at h
      cases h
  · rw [if_neg hfull] at h
    cases h

/-- The result of a step that may have failed, as a part of another one. -/
theorem map_error {α β : Type} {plain : Except AmfFailure α} {failure : AmfFailure}
    (h : plain = .error failure ∨ ∃ n, served n = false) {f : α → β} :
    plain.map f = .error failure ∨ ∃ n, served n = false := by
  obtain rfl | hrefused := h
  · exact .inl rfl
  · exact .inr hrefused

/-- Fuel is for objects only. -/
theorem amfDecodeValue_plain {fuel offset : ℕ} {type : UInt8}
    (htype : amfByte buffer offset = .ok type) (hobject : type.toNat ≠ 0x03) :
    amfDecodeValue buffer (fuel + 1) offset = amfDecodeValue buffer 1 offset := by
  rw [amfDecodeValue, amfDecodeValue]
  split_ifs
  · rfl
  · rw [htype, ok_bind, ok_bind]
    dsimp only
    generalize type.toNat = code at hobject ⊢
    split
    · rfl
    · rfl
    · rfl
    · rfl
    · rfl
    · exact absurd rfl hobject
    · rfl

/-- Both decoders decode as those without buffers, the loop over the properties from where it
stands. The induction is on the fuel of both. -/
theorem amfDecodeIn_agrees (fuel : ℕ) :
    (∀ (heap : Heap) (offset : ℕ), Agrees served (fun r => (r.1, r.2.2))
      (amfDecodeValueIn served buffer fuel heap offset) (amfDecodeValue buffer fuel offset)) ∧
    ∀ (heap : Heap) (offset : ℕ) (array : Option ℕ) (properties : List (List UInt8 × AmfValue))
      (blocks : List (ℕ × Blocks)) (capacity : ℕ), Agrees served (fun r => (r.1, r.2.2))
      (amfDecodeObjectIn served buffer fuel heap offset array properties blocks capacity)
      ((amfDecodeObject buffer fuel offset).map fun r =>
        (.object (properties ++ r.1), r.2)) := by
  induction fuel with
  | zero => exact ⟨fun _ _ => .inl rfl, fun _ _ _ _ _ _ => .inl rfl⟩
  | succ fuel ih =>
    obtain ⟨ihValue, ihObject⟩ := ih
    constructor
    · intro heap offset
      by_cases hend : offset ≥ buffer.length
      · rw [amfDecodeValue, amfDecodeValueIn, if_pos hend, if_pos hend]
        exact .inl rfl
      · cases hbyte : amfByte buffer offset with
        | error failure =>
          rw [amfDecodeValue, amfDecodeValueIn, if_neg hend, if_neg hend, hbyte]
          exact .inl rfl
        | ok type =>
          by_cases hobject : type.toNat = 0x03
          · rw [amfDecodeValue, amfDecodeValueIn, if_neg hend, if_neg hend, hbyte, ok_bind]
            dsimp only
            rw [hobject]
            have hagrees := ihObject heap (offset + 1) none [] [] 0
            cases hplain : amfDecodeObject buffer fuel (offset + 1) with
            | error failure =>
              rw [hplain] at hagrees
              exact hagrees
            | ok object =>
              rw [hplain] at hagrees
              exact hagrees
          · rw [amfDecodeValue_plain hbyte hobject, amfDecodeValueIn, if_neg hend, hbyte]
            dsimp only
            by_cases hstring : type.toNat = 0x02
            · rw [amfDecodeValue, if_neg hend, hbyte, ok_bind]
              dsimp only
              rw [hstring]
              obtain ⟨failure, heap', hresult, hplain⟩ | ⟨read, heap', hresult, hplain⟩ :=
                (amfDecodeStringIn_agrees served buffer heap (offset + 1)).cases
              · rw [hresult]
                exact agrees_error (error_bind hplain _)
              · rw [hresult, hplain]
                exact .inl rfl
            · split
              · exact absurd ‹_› hstring
              · exact absurd ‹_› hobject
              · cases amfDecodeValue buffer 1 offset with
                | error failure => exact .inl rfl
                | ok value => exact .inl rfl
    · intro heap offset array properties blocks capacity
      have hall : AmfValue.object properties = .object (properties ++ []) := by
        rw [List.append_nil]
      by_cases hend : offset ≥ buffer.length
      · rw [amfDecodeObject, amfDecodeObjectIn, if_pos hend, if_pos hend, hall]
        exact .inl rfl
      · rw [amfDecodeObject, amfDecodeObjectIn, if_neg hend, if_neg hend]
        cases hat : amfObjectEndAt buffer offset with
        | error failure => exact .inl rfl
        | ok atEnd =>
          cases atEnd with
          | true =>
            rw [hall]
            exact .inl rfl
          | false =>
            dsimp only
            rw [ok_bind, if_neg Bool.false_ne_true]
            rcases hexpand : expandProperties served heap array blocks.length capacity with
              ⟨_ | ⟨array', capacity'⟩, heap'⟩
            · exact .inr ⟨exists_refused_of_expandProperties hexpand, _, rfl⟩
            · dsimp only
              obtain ⟨failure, heap', hresult, hplain⟩ | ⟨name, heap', hresult, hplain⟩ :=
                (amfDecodeStringIn_agrees served buffer heap' offset).cases
              · rw [hresult]
                exact agrees_error (map_error (error_bind hplain _))
              · rw [hresult, hplain, ok_bind]
                dsimp only
                obtain ⟨failure, heap', hresult, hplain⟩ | ⟨value, heap', hresult, hplain⟩ :=
                  (ihValue heap' name.2.2).cases
                · rw [hresult]
                  exact agrees_error (map_error (error_bind hplain _))
                · rw [hresult, hplain, ok_bind]
                  dsimp only
                  have hrest := ihObject heap' value.2.2 array'
                    (properties ++ [(name.1, value.1)]) (blocks ++ [(name.2.1, value.2.1)])
                    capacity'
                  cases hplain : amfDecodeObject buffer fuel value.2.2 with
                  | error failure =>
                    rw [hplain] at hrest
                    exact hrest
                  | ok rest =>
                    rw [hplain, Except.map, List.append_assoc] at hrest
                    rw [ok_bind]
                    exact hrest

theorem parseArgumentsIn_agrees (fuel : ℕ) (heap : Heap) (offset : ℕ) (blocks : CommandBlocks)
    (arguments : List AmfValue) :
    Agrees served Prod.fst (parseArgumentsIn served buffer fuel heap offset blocks arguments)
      ((decodeArguments buffer fuel offset).map (arguments ++ ·)) := by
  induction fuel generalizing heap offset blocks arguments with
  | zero => exact .inl rfl
  | succ fuel ih =>
    rw [decodeArguments, parseArgumentsIn]
    by_cases hend : offset ≥ buffer.length
    · rw [if_pos hend, if_pos hend]
      exact .inl (congrArg Except.ok (List.append_nil arguments).symm)
    · rw [if_neg hend, if_neg hend]
      rcases hrealloc : heap.realloc served blocks.array with ⟨_ | array, heap'⟩
      · exact .inr ⟨Heap.exists_refused_of_realloc hrealloc, _, rfl⟩
      · dsimp only
        obtain ⟨failure, heap', hresult, hplain⟩ | ⟨argument, heap', hresult, hplain⟩ :=
          ((amfDecodeIn_agrees (buffer.length + 1)).1 heap' offset).cases
        · rw [hresult]
          exact agrees_error (map_error (error_bind hplain _))
        · rw [hresult, hplain, ok_bind]
          dsimp only
          have hrest := ih heap' argument.2.2 { blocks with
            array := some array, arguments := blocks.arguments ++ [argument.2.1] }
            (arguments ++ [argument.1])
          cases hplain : decodeArguments buffer fuel argument.2.2 with
          | error failure =>
            rw [hplain] at hrest
            exact hrest
          | ok rest =>
            rw [hplain, Except.map, List.append_assoc] at hrest
            rw [ok_bind]
            exact hrest

/-- The loop from its start. -/
theorem parseArgumentsIn_agrees_nil (heap : Heap) (offset : ℕ) (blocks : CommandBlocks) :
    Agrees served Prod.fst
      (parseArgumentsIn served buffer (buffer.length + 1) heap offset blocks [])
      (decodeArguments buffer (buffer.length + 1) offset) := by
  have h : Agrees served Prod.fst
      (parseArgumentsIn served buffer (buffer.length + 1) heap offset blocks [])
      ((decodeArguments buffer (buffer.length + 1) offset).map ([] ++ ·)) :=
    parseArgumentsIn_agrees (buffer.length + 1) heap offset blocks []
  cases hplain : decodeArguments buffer (buffer.length + 1) offset with
  | error failure => rwa [hplain] at h
  | ok arguments => rwa [hplain] at h

/-- The command object, where there is one. -/
def decodeCommandObject (buffer : List UInt8) (offset : ℕ) : Except AmfFailure (AmfValue × ℕ) :=
  if offset < buffer.length then amfDecodeValue buffer (buffer.length + 1) offset
  else .ok (.number 0, offset)

theorem decodeCommandObjectIn_agrees (heap : Heap) (offset : ℕ) :
    Agrees served (fun r => (r.1, r.2.2)) (decodeCommandObjectIn served buffer heap offset)
      (decodeCommandObject buffer offset) := by
  unfold decodeCommandObjectIn decodeCommandObject
  split_ifs
  · exact (amfDecodeIn_agrees (buffer.length + 1)).1 heap offset
  · exact .inl rfl

/-- What follows the name in `rtmp_command_parse`. -/
def parseAfterName (buffer : List UInt8) (name : List UInt8) (offset : ℕ) :
    Except AmfFailure Command := do
  let (transaction, offset) ← amfDecodeValue buffer (buffer.length + 1) offset
  match transaction with
  | .number transactionId =>
    let (commandObject, offset) ← decodeCommandObject buffer offset
    let arguments ← decodeArguments buffer (buffer.length + 1) offset
    return ⟨name, transactionId, commandObject, arguments⟩
  | _ => throw .malformed

theorem rtmpCommandParse_eq_parseAfterName (buffer : List UInt8) :
    rtmpCommandParse buffer = amfDecodeValue buffer (buffer.length + 1) 0 >>= fun r =>
      match r.1 with
      | .string data => parseAfterName buffer (cString data) r.2
      | _ => throw .malformed := by
  unfold rtmpCommandParse
  cases amfDecodeValue buffer (buffer.length + 1) 0 with
  | error failure => rfl
  | ok name =>
    obtain ⟨name, afterName⟩ := name
    rw [ok_bind, ok_bind]
    cases name with
    | number | boolean | object | null | undefined => rfl
    | string data =>
      dsimp only
      unfold parseAfterName
      cases amfDecodeValue buffer (buffer.length + 1) afterName with
      | error failure => rfl
      | ok transaction =>
        obtain ⟨transaction, afterTransaction⟩ := transaction
        rw [ok_bind, ok_bind]
        cases transaction with
        | boolean | string | object | null | undefined => rfl
        | number transactionId =>
          dsimp only [decodeCommandObject]
          split_ifs
          · rfl
          · rfl

theorem parseAfterNameIn_agrees (heap : Heap) (name : List UInt8) (commandName : Option ℕ)
    (offset : ℕ) :
    Agrees served Prod.fst (parseAfterNameIn served buffer heap name commandName offset)
      (parseAfterName buffer name offset) := by
  unfold parseAfterName parseAfterNameIn
  obtain ⟨failure, heap', hresult, hplain⟩ | ⟨⟨transaction, blocks, offset⟩, heap', hresult,
      hplain⟩ := ((amfDecodeIn_agrees (buffer.length + 1)).1 heap offset).cases
  · rw [hresult]
    exact agrees_error (error_bind hplain _)
  · rw [hresult, hplain, ok_bind]
    cases transaction with
    | boolean | string | object | null | undefined => exact .inl rfl
    | number transactionId =>
      dsimp only
      obtain ⟨failure, heap', hresult, hplain⟩ | ⟨object, heap', hresult, hplain⟩ :=
        (decodeCommandObjectIn_agrees heap' offset).cases
      · rw [hresult]
        exact agrees_error (error_bind hplain _)
      · rw [hresult, hplain, ok_bind]
        dsimp only
        obtain ⟨failure, heap', hresult, hplain⟩ | ⟨arguments, heap', hresult, hplain⟩ :=
          (parseArgumentsIn_agrees_nil heap' object.2.2 ⟨commandName, object.2.1, none, []⟩).cases
        · rw [hresult]
          exact agrees_error (error_bind hplain _)
        · rw [hresult, hplain, ok_bind]
          exact .inl rfl

/-- With its buffers or without them, the same command is parsed. -/
theorem rtmpCommandParseIn_agrees (heap : Heap) :
    Agrees served Prod.fst (rtmpCommandParseIn served buffer heap) (rtmpCommandParse buffer) := by
  rw [rtmpCommandParse_eq_parseAfterName]
  unfold rtmpCommandParseIn
  obtain ⟨failure, heap', hresult, hplain⟩ | ⟨⟨name, blocks, offset⟩, heap', hresult, hplain⟩ :=
    ((amfDecodeIn_agrees (buffer.length + 1)).1 heap 0).cases
  · rw [hresult]
    exact agrees_error (error_bind hplain _)
  · rw [hresult, hplain, ok_bind]
    cases name with
    | number | boolean | object | null | undefined => exact .inl rfl
    | string data => exact parseAfterNameIn_agrees _ _ _ _

end Agreement

/-! ### Every buffer once -/

/-- A command with an object of one property and a string. -/
def objectCommand : List UInt8 :=
  [0x02, 0, 1, 99] ++ [0x00, 0, 0, 0, 0, 0, 0, 0, 0] ++
    [0x03, 0, 1, 97, 0x02, 0, 1, 98, 0, 0, 0x09] ++ [0x02, 0, 1, 100]

end Rtmp
