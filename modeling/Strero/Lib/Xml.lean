import Strero.Lib.CString

/-!
# The text of XML documents

A document as it is written: with its prefixes, the white space in and between its tags, the
quotes of its attributes, and the sections and instructions among its content. There are no
comments and no document type.
-/

namespace Xml

open CString

/-! ### Names -/

/-- White space. -/
def isSpace (b : UInt8) : Bool := b ∈ ascii " \t\n\r"

/-- A byte with which a name can begin: a letter or an underscore. -/
def isNameStart (b : UInt8) : Bool :=
  65 ≤ b && b ≤ 90 || 97 ≤ b && b ≤ 122 || b = '_'.toUInt8 || 128 ≤ b

/-- A byte of a name. -/
def isNameByte (b : UInt8) : Bool :=
  isNameStart b || 48 ≤ b && b ≤ 57 || b = '-'.toUInt8 || b = '.'.toUInt8

/-- Bytes that end a name are recognised one by one. -/
theorem isNameByte_of_mem {ends : List UInt8} (h : (ends.all fun b => !isNameByte b) = true) :
    ∀ b ∈ ends, isNameByte b = false := by
  intro b hb
  have hnot := List.all_eq_true.mp h b hb
  simpa using hnot

/-- The bytes are a name without a colon. -/
def isName : List UInt8 → Bool
  | [] => false
  | b :: rest => isNameStart b && rest.all isNameByte

/-- A name without a colon. -/
structure Name where
  bytes : List UInt8
  valid : isName bytes = true
deriving DecidableEq

/-- A name is not empty and holds nothing that ends a name. -/
theorem Name.cases (name : Name) :
    ∃ b rest, name.bytes = b :: rest ∧ ∀ c ∈ name.bytes, isNameByte c = true := by
  obtain ⟨bytes, hvalid⟩ := name
  cases bytes with
  | nil => cases hvalid
  | cons b rest =>
    obtain ⟨hstart, hrest⟩ := Bool.and_eq_true_iff.mp hvalid
    refine ⟨b, rest, rfl, fun c hc => ?_⟩
    rcases List.mem_cons.mp hc with rfl | hc
    · simp [isNameByte, hstart]
    · exact List.all_eq_true.mp hrest c hc

theorem Name.ne_nil (name : Name) : name.bytes ≠ [] := by
  obtain ⟨b, rest, hbytes, -⟩ := name.cases
  simp [hbytes]

theorem Name.notMem (name : Name) {b : UInt8} (h : isNameByte b = false) : b ∉ name.bytes := by
  intro hmem
  obtain ⟨-, -, -, hall⟩ := name.cases
  exact Bool.false_ne_true (h.symm.trans (hall b hmem))

/-- A name with its prefix, if it has one. -/
structure QName where
  ns : Option Name
  name : Name
deriving DecidableEq

def QName.render (qname : QName) : List UInt8 :=
  match qname.ns with
  | none => qname.name.bytes
  | some ns => ns.bytes ++ ':'.toUInt8 :: qname.name.bytes

/-! ### Tags -/

/-- An attribute with the white space in front of it and around its equals sign. -/
structure Attribute where
  space : List UInt8
  name : QName
  spaceBefore : List UInt8
  spaceAfter : List UInt8
  quote : UInt8
  value : List UInt8
deriving DecidableEq

def Attribute.valid (attr : Attribute) : Bool :=
  attr.space ≠ [] && attr.space.all isSpace && attr.spaceBefore.all isSpace &&
    attr.spaceAfter.all isSpace &&
    (attr.quote = '"'.toUInt8 || attr.quote = 39) &&
    attr.quote ∉ attr.value && '<'.toUInt8 ∉ attr.value

def Attribute.render (attr : Attribute) : List UInt8 :=
  attr.space ++ attr.name.render ++ attr.spaceBefore ++ '='.toUInt8 ::
    attr.spaceAfter ++ attr.quote :: attr.value ++ [attr.quote]

/-- An attribute begins with white space. -/
theorem Attribute.render_cases {attr : Attribute} (h : attr.valid = true) :
    ∃ b rest, attr.render = b :: rest ∧ isSpace b = true := by
  simp only [valid, Bool.and_eq_true, decide_eq_true_eq] at h
  obtain ⟨⟨⟨⟨⟨⟨hne, hspace⟩, -⟩, -⟩, -⟩, -⟩, -⟩ := h
  cases hfirst : attr.space with
  | nil => exact absurd hfirst hne
  | cons b rest =>
    have hb : isSpace b = true := List.all_eq_true.mp hspace b (by simp [hfirst])
    refine ⟨b, rest ++ attr.name.render ++ attr.spaceBefore ++ '='.toUInt8 ::
      attr.spaceAfter ++ attr.quote :: attr.value ++ [attr.quote], ?_, hb⟩
    rw [render, hfirst]
    rfl

/-- What stands in a start tag, with the white space at its end. -/
structure Tag where
  name : QName
  attributes : List Attribute
  space : List UInt8
deriving DecidableEq

def Tag.valid (tag : Tag) : Bool := tag.attributes.all Attribute.valid && tag.space.all isSpace

/-- What follows the name in a tag. -/
def Tag.layout (tag : Tag) : List UInt8 := tag.attributes.flatMap Attribute.render ++ tag.space

def Tag.render (tag : Tag) : List UInt8 := tag.name.render ++ tag.layout

/-- What follows the name begins with white space, if there is anything. -/
theorem Tag.layout_cases {tag : Tag} (h : tag.valid = true) :
    tag.layout = [] ∨ ∃ b rest, tag.layout = b :: rest ∧ isSpace b = true := by
  obtain ⟨hattributes, hspace⟩ := Bool.and_eq_true_iff.mp h
  unfold layout
  cases hlist : tag.attributes with
  | nil =>
    cases hends : tag.space with
    | nil => exact .inl rfl
    | cons b rest =>
      rw [hends, List.all_cons, Bool.and_eq_true_iff] at hspace
      exact .inr ⟨b, rest, rfl, hspace.1⟩
  | cons attr others =>
    rw [hlist, List.all_cons, Bool.and_eq_true_iff] at hattributes
    obtain ⟨b, rest, hrender, hb⟩ := Attribute.render_cases hattributes.1
    refine .inr ⟨b, rest ++ (others.flatMap Attribute.render ++ tag.space), ?_, hb⟩
    rw [List.flatMap_cons, hrender, List.append_assoc, List.cons_append]

/-! ### Content -/

/-- What an element holds: characters, character data sections, processing instructions, and
elements, which may be written as one tag. -/
inductive Content
  | text (data : List UInt8)
  | cdata (data : List UInt8)
  | instruction (data : List UInt8)
  | element (tag : Tag) (selfClosing : Bool) (children : List Content) (endSpace : List UInt8)

mutual

/-- What stands in the document. -/
def Content.render : Content → List UInt8
  | .text data => data
  | .cdata data => ascii "<![CDATA[" ++ data ++ ascii "]]>"
  | .instruction data => ascii "<?" ++ data ++ ascii "?>"
  | .element tag selfClosing children endSpace =>
    if selfClosing then ascii "<" ++ tag.render ++ ascii "/>"
    else ascii "<" ++ tag.render ++ ascii ">" ++ renderAll children ++
      ascii "</" ++ tag.name.render ++ endSpace ++ ascii ">"

def renderAll : List Content → List UInt8
  | [] => []
  | content :: contents => content.render ++ renderAll contents

end

mutual

/-- The content can stand in a well-formed document. -/
def Content.valid : Content → Bool
  | .text data => '<'.toUInt8 ∉ data
  | .cdata data => !contains data (ascii "]]>")
  | .instruction data => !contains data (ascii "?>")
  | .element tag selfClosing children endSpace =>
    tag.valid && endSpace.all isSpace &&
      if selfClosing then children.isEmpty else allValid children

def allValid : List Content → Bool
  | [] => true
  | content :: contents => content.valid && allValid contents

end

/-- The content is no element. -/
def Content.isData : Content → Bool
  | .element _ _ _ _ => false
  | _ => true

/-- The content may stand outside the outermost element. -/
def Content.isMisc : Content → Bool
  | .text data => data.all isSpace
  | .instruction _ => true
  | _ => false

theorem renderAll_append (contents contents' : List Content) :
    renderAll (contents ++ contents') = renderAll contents ++ renderAll contents' := by
  induction contents with
  | nil => rfl
  | cons content contents ih =>
    rw [List.cons_append, renderAll, renderAll, ih, List.append_assoc]

theorem allValid_append {contents contents' : List Content} :
    allValid (contents ++ contents') = true ↔
      allValid contents = true ∧ allValid contents' = true := by
  induction contents with
  | nil => simp [allValid]
  | cons content contents ih =>
    rw [List.cons_append, allValid, allValid, Bool.and_eq_true, Bool.and_eq_true, ih, and_assoc]

/-- An element begins with its tag, which is closed. -/
theorem exists_render_element (tag : Tag) (selfClosing : Bool) (children : List Content)
    (endSpace : List UInt8) :
    ∃ b rest, (b = '>'.toUInt8 ∨ b = '/'.toUInt8) ∧ '>'.toUInt8 ∈ b :: rest ∧
      (Content.element tag selfClosing children endSpace).render =
        '<'.toUInt8 :: (tag.render ++ b :: rest) := by
  rw [Content.render]
  cases selfClosing with
  | true =>
    rw [if_pos rfl, List.append_assoc]
    exact ⟨'/'.toUInt8, ['>'.toUInt8], .inr rfl, by simp, rfl⟩
  | false =>
    rw [if_neg Bool.false_ne_true]
    refine ⟨'>'.toUInt8, renderAll children ++ ascii "</" ++ tag.name.render ++ endSpace ++
      ascii ">", .inl rfl, List.mem_cons_self, ?_⟩
    simp only [List.append_assoc]
    rfl

/-- Characters hold no tag. -/
theorem notMem_renderAll_text {contents : List Content} (hvalid : allValid contents = true)
    (htext : ∀ content ∈ contents, ∃ data, content = .text data) :
    '<'.toUInt8 ∉ renderAll contents := by
  induction contents with
  | nil => exact List.not_mem_nil
  | cons content contents ih =>
    obtain ⟨hfirst, hrest⟩ := Bool.and_eq_true_iff.mp hvalid
    obtain ⟨data, rfl⟩ := htext content List.mem_cons_self
    have hdata : '<'.toUInt8 ∉ data := of_decide_eq_true hfirst
    intro hmem
    rcases List.mem_append.mp hmem with h | h
    · exact hdata h
    · exact ih hrest (fun c hc => htext c (List.mem_cons_of_mem _ hc)) h

end Xml
