import Strero.Lib.CString

/-!
# What the configuration code uses of json-c

The configuration files are read with json-c. Its functions are a parameter here: whatever
they return depends on the content of the file and on nothing else. A field of a
configuration is written when its key is there and keeps its value otherwise.
-/

open CString

/-- The functions of json-c. The null pointer is an object too, since it stands for a JSON null
inside of another object. -/
structure JsonC where
  /-- `json_object`. -/
  Object : Type
  /-- `json_object_from_file` by the content of the file. -/
  fromFile : List UInt8 → Option Object
  /-- `json_object_object_get_ex`. -/
  getEx : Object → List UInt8 → Option Object
  /-- `json_object_get_int`. -/
  getInt : Object → ℤ
  /-- `json_object_get_boolean`. -/
  getBoolean : Object → Bool
  /-- `json_object_get_string`. -/
  getString : Object → Option (List UInt8)
  /-- `json_object_array_length`. -/
  arrayLength : Object → ℕ
  /-- `json_object_array_get_idx`. -/
  getIdx : Object → ℕ → Object
  /-- The null pointer. -/
  isNull : Object → Bool

namespace JsonC

variable (J : JsonC)

/-- An object has a member of this name. -/
def Has (parent : J.Object) (key : List UInt8) : Prop := (J.getEx parent key).isSome = true

/-- An object has a member of this name that is not null. -/
def HasString (parent : J.Object) (key : List UInt8) : Prop :=
  ((J.getEx parent key).bind J.getString).isSome = true

instance Has.decidable (parent : J.Object) (key : List UInt8) : Decidable (J.Has parent key) :=
  inferInstanceAs (Decidable (_ = _))

instance HasString.decidable (parent : J.Object) (key : List UInt8) :
    Decidable (J.HasString parent key) :=
  inferInstanceAs (Decidable (_ = _))

/-- `parse_int_field`. -/
def intField (parent : J.Object) (key : List UInt8) (dest : ℤ) : ℤ :=
  ((J.getEx parent key).map J.getInt).getD dest

/-- `parse_bool_field`. -/
def boolField (parent : J.Object) (key : List UInt8) (dest : Bool) : Bool :=
  ((J.getEx parent key).map J.getBoolean).getD dest

/-- `parse_string_field`. -/
def stringField {size : ℕ} (hsize : 0 < size) (parent : J.Object) (key : List UInt8)
    (dest : FixedString size) : FixedString size :=
  (((J.getEx parent key).bind J.getString).map (FixedString.copy size hsize)).getD dest

/-- The section of the root object is parsed if it is there. -/
def sectionField {α : Type} (root : J.Object) (key : List UInt8) (parse : J.Object → α → α)
    (dest : α) : α :=
  (J.getEx root key).elim dest fun obj => parse obj dest

variable {J} {parent : J.Object} {key : List UInt8}

/-- A field that may be written is the same whatever was in it before exactly if it is written
or the same was in it. -/
theorem getD_eq_getD_iff {α : Type} {written : Option α} {a b : α} :
    written.getD a = written.getD b ↔ written.isSome = true ∨ a = b := by
  cases written <;> simp

@[simp] theorem intField_eq_iff {a b : ℤ} :
    J.intField parent key a = J.intField parent key b ↔ J.Has parent key ∨ a = b := by
  simp [intField, Has, getD_eq_getD_iff]

@[simp] theorem boolField_eq_iff {a b : Bool} :
    J.boolField parent key a = J.boolField parent key b ↔ J.Has parent key ∨ a = b := by
  simp [boolField, Has, getD_eq_getD_iff]

@[simp] theorem stringField_eq_iff {size : ℕ} {hsize : 0 < size} {a b : FixedString size} :
    J.stringField hsize parent key a = J.stringField hsize parent key b ↔
      J.HasString parent key ∨ a = b := by
  unfold stringField HasString
  rw [getD_eq_getD_iff, Option.isSome_map]

/-- What a field was before does not matter to a field that has been written by the same
object. -/
@[simp] theorem intField_intField (a : ℤ) :
    J.intField parent key (J.intField parent key a) = J.intField parent key a := by
  unfold intField
  cases J.getEx parent key <;> rfl

@[simp] theorem boolField_boolField (a : Bool) :
    J.boolField parent key (J.boolField parent key a) = J.boolField parent key a := by
  unfold boolField
  cases J.getEx parent key <;> rfl

@[simp] theorem stringField_stringField {size : ℕ} {hsize : 0 < size} (a : FixedString size) :
    J.stringField hsize parent key (J.stringField hsize parent key a) =
      J.stringField hsize parent key a := by
  unfold stringField
  cases (J.getEx parent key).bind J.getString <;> rfl

/-! ### Objects as the list of what is in them -/

/-- A number or a text in an object. -/
inductive Leaf
  | int (value : ℤ)
  | text (value : List UInt8)
deriving DecidableEq, Repr

/-- Objects given by the paths of keys to the numbers and texts in them. -/
def ofLeaves (fromFile : List UInt8 → Option (List (List (List UInt8) × Leaf))) : JsonC where
  Object := List (List (List UInt8) × Leaf)
  fromFile := fromFile
  getEx object key :=
    match object.filterMap fun entry =>
        if entry.1.head? = some key then some (entry.1.tail, entry.2) else none with
    | [] => none
    | members => some members
  getInt object :=
    match object with
    | [([], .int value)] => value
    | _ => 0
  getBoolean object :=
    match object with
    | [([], .int value)] => value ≠ 0
    | _ => false
  getString object :=
    match object with
    | [([], .text value)] => some value
    | _ => none
  arrayLength _ := 0
  getIdx object _ := object
  isNull _ := false

/-! ### What is written -/

/-- What `json_object_new_int`, `json_object_new_boolean` and `json_object_new_string` make. -/
inductive Scalar
  | int (value : ℤ)
  | boolean (value : Bool)
  | string (value : List UInt8)
deriving DecidableEq

/-- The functions that read a value give what it has been made of. -/
def Scalar.ReadAs (J : JsonC) (child : J.Object) : Scalar → Prop
  | .int value => J.getInt child = value
  | .boolean value => J.getBoolean child = value
  | .string value => J.getString child = some value

/-- The content of a file is read as an object with just these members: what
`json_object_to_file_ext` writes for them. -/
structure ReadsBack (J : JsonC) (contents : List UInt8) (members : List (List UInt8 × Scalar)) :
    Prop where
  root : ∃ root, J.fromFile contents = some root ∧
    (∀ m ∈ members, ∃ child, J.getEx root m.1 = some child ∧ m.2.ReadAs J child) ∧
    ∀ key, key ∉ members.map Prod.fst → J.getEx root key = none

/-- Objects given by their members, of which a file may have one. -/
def ofMembers (fromFile : List UInt8 → Option (List (List UInt8 × Scalar))) : JsonC where
  Object := Scalar ⊕ List (List UInt8 × Scalar)
  fromFile contents := (fromFile contents).map .inr
  getEx object key :=
    match object with
    | .inl _ => none
    | .inr members => (members.find? fun m => m.1 = key).map fun m => .inl m.2
  getInt object :=
    match object with
    | .inl (.int value) => value
    | .inl (.boolean value) => value.toNat
    | _ => 0
  getBoolean object :=
    match object with
    | .inl (.int value) => value ≠ 0
    | .inl (.boolean value) => value
    | _ => false
  getString object :=
    match object with
    | .inl (.string value) => some value
    | _ => none
  arrayLength _ := 0
  getIdx object _ := object
  isNull _ := false

/-- The members of an object are read back if they have different names. -/
theorem readsBack_ofMembers {fromFile : List UInt8 → Option (List (List UInt8 × Scalar))}
    {contents : List UInt8} {members : List (List UInt8 × Scalar)}
    (hfile : fromFile contents = some members) (hkeys : (members.map Prod.fst).Nodup) :
    (ofMembers fromFile).ReadsBack contents members := by
  have hfind : ∀ m ∈ members, members.find? (fun other => other.1 = m.1) = some m := by
    clear hfile
    induction members with
    | nil => exact fun m hm => absurd hm List.not_mem_nil
    | cons first members ih =>
      rw [List.map_cons, List.nodup_cons] at hkeys
      intro m hm
      rcases List.mem_cons.mp hm with rfl | hmem
      · exact List.find?_cons_of_pos (decide_eq_true rfl)
      · have hne : first.1 ≠ m.1 := fun h => hkeys.1 (h ▸ List.mem_map_of_mem hmem)
        rw [List.find?_cons_of_neg (by simpa using hne)]
        exact ih hkeys.2 m hmem
  refine ⟨.inr members, ?_, fun m hm => ⟨.inl m.2, ?_, ?_⟩, fun key hkey => ?_⟩
  · exact congrArg (Option.map Sum.inr) hfile
  · exact congrArg (Option.map fun m : List UInt8 × Scalar => Sum.inl m.2) (hfind m hm)
  · cases m.2 <;> rfl
  · have hnone : members.find? (fun m => m.1 = key) = none := by
      refine List.find?_eq_none.mpr fun m hm => ?_
      have hne : m.1 ≠ key := fun h => hkey (h ▸ List.mem_map_of_mem hm)
      simpa using hne
    exact congrArg (Option.map fun m : List UInt8 × Scalar => Sum.inl m.2) hnone

end JsonC
