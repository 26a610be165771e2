import Mathlib.Data.List.Basic
import Mathlib.Data.Nat.Notation

/-!
# AMF0 values in a text

A value is written as a marker and its content. The grammar is stated between a text and what is
left of it behind the value, so that one value after the other can be taken off the text. What is
left is determined by the text. Objects are closed by a marker of three bytes, and a text may end
in the middle of one: such a text is no value, and no value begins it.
-/

namespace Amf0

/-- A string or a name: its length in two bytes, most significant first, and as many bytes. -/
inductive Text : List UInt8 → List UInt8 → Prop
  | mk (high low : UInt8) (data rest : List UInt8)
    (h : data.length = high.toNat * 256 + low.toNat) : Text (high :: low :: (data ++ rest)) rest

/-- The bytes of a double. -/
inductive Double : List UInt8 → List UInt8 → Prop
  | mk (bytes rest : List UInt8) (h : bytes.length = 8) : Double (bytes ++ rest) rest

/-- What is looked for in a text. -/
inductive Part
  | value
  | properties
deriving DecidableEq

/-- A text begins with a value, or with properties up to the marker that closes their object. -/
inductive Closed : Part → List UInt8 → List UInt8 → Prop
  | number {input rest : List UInt8} (h : Double input rest) : Closed .value (0x00 :: input) rest
  | boolean (b : UInt8) (rest : List UInt8) : Closed .value (0x01 :: b :: rest) rest
  | string {input rest : List UInt8} (h : Text input rest) : Closed .value (0x02 :: input) rest
  | object {input rest : List UInt8} (h : Closed .properties input rest) :
    Closed .value (0x03 :: input) rest
  | null (rest : List UInt8) : Closed .value (0x05 :: rest) rest
  | undefined (rest : List UInt8) : Closed .value (0x06 :: rest) rest
  | ending (rest : List UInt8) : Closed .properties (0x00 :: 0x00 :: 0x09 :: rest) rest
  | property {input afterName afterValue rest : List UInt8} (hname : Text input afterName)
    (hvalue : Closed .value afterName afterValue)
    (hrest : Closed .properties afterValue rest) : Closed .properties input rest

/-- A text ends in an object whose last property is complete, but which is not closed. -/
inductive Unclosed : Part → List UInt8 → Prop
  | object {input : List UInt8} (h : Unclosed .properties input) : Unclosed .value (0x03 :: input)
  | ending : Unclosed .properties []
  | inner {input afterName : List UInt8} (hname : Text input afterName)
    (hvalue : Unclosed .value afterName) : Unclosed .properties input
  | property {input afterName afterValue : List UInt8} (hname : Text input afterName)
    (hvalue : Closed .value afterName afterValue)
    (hrest : Unclosed .properties afterValue) : Unclosed .properties input

/-- Nothing but values, one after the other. -/
inductive Values : List UInt8 → Prop
  | nil : Values []
  | cons {input rest : List UInt8} (hvalue : Closed .value input rest) (hrest : Values rest) :
    Values input

/-- Values, of which the last is an object that is not closed. -/
inductive UnclosedValues : List UInt8 → Prop
  | last {input : List UInt8} (h : Unclosed .value input) : UnclosedValues input
  | cons {input rest : List UInt8} (hvalue : Closed .value input rest)
    (hrest : UnclosedValues rest) : UnclosedValues input

variable {input rest rest' : List UInt8} {part : Part}

/-! ### What is left is determined -/

/-- Behind a string. -/
theorem Text.rest_eq (h : Text input rest) (h' : Text input rest') : rest = rest' := by
  obtain ⟨high, low, data, _, hlength⟩ := h
  generalize hinput : high :: low :: (data ++ rest) = input at h'
  obtain ⟨high', low', data', _, hlength'⟩ := h'
  injection hinput with hhigh hinput
  injection hinput with hlow hinput
  subst hhigh hlow
  exact (List.append_inj hinput (hlength.trans hlength'.symm)).2

/-- Behind a double. -/
theorem Double.rest_eq (h : Double input rest) (h' : Double input rest') : rest = rest' := by
  obtain ⟨bytes, _, hlength⟩ := h
  generalize hinput : bytes ++ rest = input at h'
  obtain ⟨bytes', _, hlength'⟩ := h'
  exact (List.append_inj hinput (hlength.trans hlength'.symm)).2

/-- The marker that closes an object is no property: no value begins with its last byte. -/
theorem not_property_ending {afterName : List UInt8}
    (hname : Text (0x00 :: 0x00 :: 0x09 :: rest) afterName) :
    (∀ rest', ¬Closed .value afterName rest') ∧ ¬Unclosed .value afterName := by
  obtain rfl : afterName = 0x09 :: rest := hname.rest_eq (.mk 0 0 [] (0x09 :: rest) rfl)
  constructor
  · intro rest' hvalue
    cases hvalue
  · intro hvalue
    cases hvalue

/-- Behind a value or the properties of an object. -/
theorem Closed.rest_eq (h : Closed part input rest) (h' : Closed part input rest') :
    rest = rest' := by
  induction h generalizing rest' with
  | number h => cases h' with | number h' => exact h.rest_eq h'
  | boolean b rest => cases h'; rfl
  | string h => cases h' with | string h' => exact h.rest_eq h'
  | object _ ih => cases h' with | object h' => exact ih h'
  | null rest => cases h'; rfl
  | undefined rest => cases h'; rfl
  | ending rest =>
    cases h' with
    | ending => rfl
    | property hname hvalue _ => exact absurd hvalue ((not_property_ending hname).1 _)
  | property hname hvalue _ ihvalue ihrest =>
    cases h' with
    | ending => exact absurd hvalue ((not_property_ending hname).1 _)
    | property hname' hvalue' hrest' =>
      obtain rfl := hname.rest_eq hname'
      obtain rfl := ihvalue hvalue'
      exact ihrest hrest'

/-- A text that ends in an object that is not closed does not begin with a value. -/
theorem Closed.not_unclosed (h : Closed part input rest) : ¬Unclosed part input := by
  intro hunclosed
  induction h with
  | number | boolean | string | null | undefined => cases hunclosed
  | object _ ih => cases hunclosed with | object hunclosed => exact ih hunclosed
  | ending rest =>
    cases hunclosed with
    | inner hname hvalue => exact (not_property_ending hname).2 hvalue
    | property hname hvalue _ => exact (not_property_ending hname).1 _ hvalue
  | property hname hvalue _ ihvalue ihrest =>
    cases hunclosed with
    | ending => cases hname
    | inner hname' hvalue' =>
      obtain rfl := hname.rest_eq hname'
      exact ihvalue hvalue'
    | property hname' hvalue' hrest' =>
      obtain rfl := hname.rest_eq hname'
      obtain rfl := hvalue.rest_eq hvalue'
      exact ihrest hrest'

/-- Complete values do not end in such an object. -/
theorem Values.not_unclosed (h : Values input) : ¬UnclosedValues input := by
  intro hunclosed
  induction h with
  | nil =>
    cases hunclosed with
    | last h => cases h
    | cons hvalue _ => cases hvalue
  | cons hvalue _ ih =>
    cases hunclosed with
    | last h => exact hvalue.not_unclosed h
    | cons hvalue' hrest' =>
      obtain rfl := hvalue.rest_eq hvalue'
      exact ih hrest'

end Amf0
