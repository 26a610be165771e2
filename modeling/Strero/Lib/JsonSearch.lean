import Strero.Lib.JsonWriting

/-!
# Members that are searched for

A program without a parser looks for the name of a member, in quotes and with a colon behind it,
and takes what comes next for the value. In an object whose values are strings or have no quotes
it finds the member of that name, if there is one.
-/

namespace Json

open CString Scanf

/-! ### Searching -/

/-- Where a text does not stand, the search for it goes on behind any byte that it does not
have. -/
theorem strstr_behind {needle left right : List UInt8} {c : UInt8} (hne : needle ≠ [])
    (hc : c ∉ needle) (h : ¬needle <:+: left) :
    strstr (left ++ c :: right) needle = strstr right needle := by
  induction left with
  | nil =>
    have hstart : ¬needle <+: c :: right := by
      intro hstart
      cases needle with
      | nil => exact hne rfl
      | cons b body => exact hc ((List.cons_prefix_cons.mp hstart).1 ▸ List.mem_cons_self)
    rw [List.nil_append, strstr, if_neg hstart]
  | cons b left ih =>
    rw [List.infix_cons_iff, not_or] at h
    have hstart : ¬needle <+: b :: (left ++ c :: right) := by
      intro hstart
      have hcut : b :: left ++ [c] <+: b :: (left ++ c :: right) :=
        (List.prefix_append_right_inj (b :: left)).mpr (by simp)
      rcases List.prefix_or_prefix_of_prefix hstart hcut with hshort | hlong
      · rcases List.prefix_concat_iff.mp hshort with rfl | hleft
        · simp at hc
        · exact h.1 hleft
      · exact hc (hlong.subset (by simp))
    rw [List.cons_append, strstr, if_neg hstart]
    exact ih h.2

/-- What is searched for: the name in quotes and a colon. -/
def memberKey (key : List UInt8) : List UInt8 := stringText key ++ [colon]

/-- The name has no character of the grammar. -/
def Searchable (key : List UInt8) : Prop :=
  ∀ c ∈ key, c ≠ quote ∧ c ≠ colon ∧ c ≠ comma ∧ c ≠ openBrace ∧ c ≠ closeBrace

instance (key : List UInt8) : Decidable (Searchable key) :=
  List.decidableBAll
    (fun c => c ≠ quote ∧ c ≠ colon ∧ c ≠ comma ∧ c ≠ openBrace ∧ c ≠ closeBrace) key

/-- Quotes are around the text only. -/
inductive Quoteless : List UInt8 → Prop
  | bare {text} (h : quote ∉ text) : Quoteless text
  | string {s} (h : quote ∉ s) : Quoteless (stringText s)

/-- A member that is found under its name and under no other. -/
structure Field.Searchable (f : Field) : Prop where
  key : Json.Searchable f.key
  text : Quoteless f.text

variable {key rest : List UInt8} {f : Field} {fields : List Field}

theorem Searchable.quote_notMem (h : Searchable key) : quote ∉ key := fun hc => (h _ hc).1 rfl

theorem Searchable.colon_notMem (h : Searchable key) : colon ∉ key := fun hc => (h _ hc).2.1 rfl

theorem Searchable.comma_notMem (h : Searchable key) : comma ∉ memberKey key := by
  have hkey : comma ∉ key := fun hc => (h _ hc).2.2.1 rfl
  simp [memberKey, stringText, hkey, show comma ≠ quote by decide, show comma ≠ colon by decide]

theorem Searchable.openBrace_notMem (h : Searchable key) : openBrace ∉ memberKey key := by
  have hkey : openBrace ∉ key := fun hc => (h _ hc).2.2.2.1 rfl
  simp [memberKey, stringText, hkey, show openBrace ≠ quote by decide,
    show openBrace ≠ colon by decide]

theorem Searchable.closeBrace_notMem (h : Searchable key) : closeBrace ∉ memberKey key := by
  have hkey : closeBrace ∉ key := fun hc => (h _ hc).2.2.2.2 rfl
  simp [memberKey, stringText, hkey, show closeBrace ≠ quote by decide,
    show closeBrace ≠ colon by decide]

theorem memberKey_ne_nil : memberKey key ≠ [] := List.cons_ne_nil _ _

theorem written_eq (f : Field) : f.written = memberKey f.key ++ f.text := by
  simp [Field.written, memberKey]

/-- In the value of a member no name stands. -/
theorem ne_value (hkey : Searchable key) (hf : f.Searchable) (front back : List UInt8) :
    front ++ quote :: (key ++ quote :: colon :: back) ≠ colon :: f.text := by
  intro h
  obtain ⟨-, htext⟩ := hf
  have hcolon : ∀ text, List.count quote (colon :: text) = List.count quote text :=
    fun text => List.count_cons_of_ne (by decide)
  have hcount := congrArg (List.count quote) h
  rw [List.count_append, List.count_cons_self, List.count_append, List.count_cons_self, hcolon,
    hcolon] at hcount
  generalize f.text = text at h htext hcount
  cases htext with
  | bare hbare =>
    have hnone := List.count_eq_zero_of_not_mem hbare
    omega
  | @string s hs =>
    have hnone := List.count_eq_zero_of_not_mem hs
    rw [stringText, List.count_cons_self, List.count_append, hnone, List.count_singleton_self]
      at hcount
    have hfront : quote ∉ front := List.count_eq_zero.mp (by omega)
    cases front with
    | nil => exact absurd (List.cons.inj h).1 (by decide)
    | cons b front =>
      have hfirst : quote ∉ front := fun hmem => hfront (List.mem_cons_of_mem b hmem)
      obtain ⟨-, hbehind⟩ := append_cons_inj hfirst List.not_mem_nil (List.cons.inj h).2
      obtain ⟨-, hend⟩ := append_cons_inj hkey.quote_notMem hs hbehind
      cases hend

/-- The name that stands in a member is its own. -/
theorem eq_of_infix_written (hkey : Searchable key) (hf : f.Searchable)
    (h : memberKey key <:+: f.written) : key = f.key := by
  obtain ⟨front, back, heq⟩ := h
  have hwritten : front ++ quote :: (key ++ quote :: colon :: back) =
      quote :: (f.key ++ quote :: colon :: f.text) := by
    simpa [written_eq, memberKey, stringText] using heq
  cases front with
  | nil =>
    exact (append_cons_inj hkey.quote_notMem hf.key.quote_notMem (List.cons.inj hwritten).2).1
  | cons b front =>
    have hinner := (List.cons.inj hwritten).2
    by_cases hmem : quote ∈ front
    · obtain ⟨first, second, rfl, hfirst⟩ := List.eq_append_cons_of_mem hmem
      have hparts : first ++ quote :: (second ++ quote :: (key ++ quote :: colon :: back)) =
          f.key ++ quote :: colon :: f.text := by
        simpa using hinner
      obtain ⟨-, hvalue⟩ := append_cons_inj hfirst hf.key.quote_notMem hparts
      exact absurd hvalue (ne_value hkey hf second back)
    · obtain ⟨-, hvalue⟩ := append_cons_inj hmem hf.key.quote_notMem hinner
      cases key with
      | nil => exact absurd (List.cons.inj hvalue).1 (by decide)
      | cons c key =>
        exact absurd ((List.cons.inj hvalue).1 ▸ List.mem_cons_self) hkey.colon_notMem

/-- The search passes over the members of other names. -/
theorem strstr_members (known : List Field) {first : Field} {others more : List Field}
    (heq : first :: others = known ++ f :: more)
    (hsearchable : ∀ g ∈ known, g.Searchable) (hkey : Searchable f.key)
    (hnew : f.key ∉ known.map Field.key) :
    strstr (first.written ++ membersEnd others) (memberKey f.key) =
      some (f.written ++ membersEnd more) := by
  induction known generalizing first others with
  | nil =>
    obtain ⟨rfl, rfl⟩ := List.cons.inj heq
    refine strstr_of_begins ?_
    rw [written_eq, List.append_assoc]
    exact List.prefix_append _ _
  | cons g known ih =>
    obtain ⟨rfl, hothers⟩ := List.cons.inj heq
    rw [List.map_cons, List.mem_cons, not_or] at hnew
    have hother : ¬memberKey f.key <:+: first.written := fun hwritten =>
      hnew.1 (eq_of_infix_written hkey (hsearchable _ List.mem_cons_self) hwritten)
    cases others with
    | nil => simp at hothers
    | cons next others =>
      rw [membersEnd, strstr_behind memberKey_ne_nil hkey.comma_notMem hother]
      exact ih hothers (fun g hg => hsearchable g (List.mem_cons_of_mem _ hg)) hnew.2

/-- A member of an object is found under its name, with the rest of the object behind it. -/
theorem strstr_objectText (hsearchable : ∀ g ∈ fields, g.Searchable)
    (hkeys : (fields.map Field.key).Nodup) (hf : f ∈ fields) :
    ∃ more, strstr (objectText fields) (memberKey f.key) =
      some (memberKey f.key ++ (f.text ++ membersEnd more)) := by
  obtain ⟨known, more, rfl⟩ := List.append_of_mem hf
  have hkey := (hsearchable f hf).key
  have hnew : f.key ∉ known.map Field.key := by
    rw [List.map_append, List.map_cons, List.nodup_append] at hkeys
    exact fun hmem => hkeys.2.2 _ hmem _ List.mem_cons_self rfl
  refine ⟨more, ?_⟩
  obtain ⟨first, others, heq⟩ := List.exists_cons_of_ne_nil
    (List.append_ne_nil_of_right_ne_nil known (List.cons_ne_nil f more))
  rw [heq, objectText]
  have hopen : strstr ([] ++ openBrace :: (first.written ++ membersEnd others))
      (memberKey f.key) = strstr (first.written ++ membersEnd others) (memberKey f.key) :=
    strstr_behind memberKey_ne_nil hkey.openBrace_notMem (by simpa using memberKey_ne_nil)
  rw [List.nil_append] at hopen
  rw [hopen, strstr_members known heq.symm
    (fun g hg => hsearchable g (List.mem_append_left _ hg)) hkey hnew, written_eq,
    List.append_assoc]

/-- A name that no member has does not stand in the members. -/
theorem not_infix_members (first : Field) (hsearchable : ∀ g ∈ first :: fields, g.Searchable)
    (hkey : Searchable key) (hnew : key ∉ (first :: fields).map Field.key) :
    ¬memberKey key <:+: first.written ++ membersEnd fields := by
  induction fields generalizing first with
  | nil =>
    rw [membersEnd, infix_append_cons_iff hkey.closeBrace_notMem, List.infix_nil]
    rintro (hwritten | hnil)
    · exact hnew (eq_of_infix_written hkey (hsearchable first List.mem_cons_self) hwritten ▸
        List.mem_cons_self)
    · exact memberKey_ne_nil hnil
  | cons next fields ih =>
    rw [List.map_cons, List.mem_cons, not_or] at hnew
    rw [membersEnd, infix_append_cons_iff hkey.comma_notMem]
    rintro (hwritten | hbehind)
    · exact hnew.1 (eq_of_infix_written hkey (hsearchable first List.mem_cons_self) hwritten)
    · exact ih next (fun g hg => hsearchable g (List.mem_cons_of_mem first hg)) hnew.2 hbehind

/-- Under a name that no member has nothing is found. -/
theorem strstr_objectText_of_notMem (hsearchable : ∀ g ∈ fields, g.Searchable)
    (hkey : Searchable key) (hnew : key ∉ fields.map Field.key) :
    strstr (objectText fields) (memberKey key) = none := by
  rw [strstr_eq_none_iff]
  have hopen : ∀ text, memberKey key <:+: openBrace :: text ↔ memberKey key <:+: text := by
    intro text
    have hbehind : memberKey key <:+: [] ++ openBrace :: text ↔
        memberKey key <:+: [] ∨ memberKey key <:+: text :=
      infix_append_cons_iff hkey.openBrace_notMem
    simpa [memberKey_ne_nil] using hbehind
  cases fields with
  | nil =>
    rw [objectText, hopen]
    have hclose : memberKey key <:+: [] ++ closeBrace :: [] ↔
        memberKey key <:+: [] ∨ memberKey key <:+: [] :=
      infix_append_cons_iff hkey.closeBrace_notMem
    simpa [memberKey_ne_nil] using hclose
  | cons first fields =>
    rw [objectText, hopen]
    exact not_infix_members first hsearchable hkey hnew

/-! ### Simple members -/

/-- A member with a simple value and at most `n` characters: it is found under its name, it is
read as its value, and it has no control characters. -/
structure Field.Simple (n : ℕ) (f : Field) : Prop where
  searchable : f.Searchable
  sound : f.Sound
  printable : ∀ c ∈ f.written, 32 ≤ c
  short : f.written.length ≤ n

/-- A name without characters of the grammar and without those that need an escape. -/
structure Word (key : List UInt8) : Prop where
  searchable : Searchable key
  plain : Plain key

instance (key : List UInt8) : Decidable (Word key) :=
  decidable_of_iff (Searchable key ∧ Plain key) ⟨fun h => ⟨h.1, h.2⟩, fun h => ⟨h.1, h.2⟩⟩

variable {n : ℕ} {s : List UInt8}

theorem Plain.quote_notMem (h : Plain s) : quote ∉ s := fun hc => (isPlain_iff.mp (h _ hc)).1 rfl

theorem Plain.printable (h : Plain s) : ∀ c ∈ s, 32 ≤ c := fun c hc => (isPlain_iff.mp (h c hc)).2.2

theorem plain_boolText (b : Bool) : Plain (boolText b) := by
  cases b <;> decide +kernel

theorem length_boolText_le (b : Bool) : (boolText b).length ≤ 5 := by
  cases b <;> decide +kernel

theorem printable_stringText (h : Plain s) : ∀ c ∈ stringText s, 32 ≤ c := by
  intro c hc
  rw [stringText, List.mem_cons, List.mem_append, List.mem_singleton] at hc
  rcases hc with rfl | hin | rfl
  · decide
  · exact h.printable c hin
  · decide

theorem printable_written {f : Field} (hkey : Plain f.key) (htext : ∀ c ∈ f.text, 32 ≤ c) :
    ∀ c ∈ f.written, 32 ≤ c := by
  intro c hc
  rw [Field.written, List.mem_append, List.mem_cons] at hc
  rcases hc with hname | rfl | hin
  · exact printable_stringText hkey c hname
  · decide
  · exact htext c hin

theorem length_written (f : Field) : f.written.length = f.key.length + f.text.length + 3 := by
  simp only [Field.written, stringText, List.length_append, List.length_cons, List.length_nil]
  omega

theorem simple_ofInt {m : ℤ} (hkey : Word key) (hn : key.length + (printInt m).length + 3 ≤ n) :
    (Field.ofInt key m).Simple n where
  searchable := ⟨hkey.searchable, .bare (plain_printInt m).quote_notMem⟩
  sound := Field.sound_ofInt hkey.plain m
  printable := printable_written hkey.plain (plain_printInt m).printable
  short := (length_written _).trans_le hn

theorem simple_ofBool {b : Bool} (hkey : Word key) (hn : key.length + 8 ≤ n) :
    (Field.ofBool key b).Simple n where
  searchable := ⟨hkey.searchable, .bare (plain_boolText b).quote_notMem⟩
  sound := Field.sound_ofBool hkey.plain b
  printable := printable_written hkey.plain (plain_boolText b).printable
  short := by
    have htext : (Field.ofBool key b).text.length ≤ 5 := length_boolText_le b
    have hwritten := length_written (Field.ofBool key b)
    have hname : (Field.ofBool key b).key = key := rfl
    rw [hname] at hwritten
    omega

theorem simple_ofString (hkey : Word key) (h : Plain s) (hn : key.length + s.length + 5 ≤ n) :
    (Field.ofString key s).Simple n where
  searchable := ⟨hkey.searchable, .string h.quote_notMem⟩
  sound := Field.sound_ofString hkey.plain h
  printable := printable_written hkey.plain (printable_stringText h)
  short := by
    have htext : (Field.ofString key s).text.length = s.length + 2 := by
      simp [Field.ofString, stringText]
    have hwritten := length_written (Field.ofString key s)
    have hname : (Field.ofString key s).key = key := rfl
    rw [hname] at hwritten
    omega

theorem printable_membersEnd (h : ∀ f ∈ fields, f.Simple n) : ∀ c ∈ membersEnd fields, 32 ≤ c := by
  induction fields with
  | nil =>
    intro c hc
    obtain rfl := List.mem_singleton.mp hc
    decide
  | cons f fields ih =>
    obtain ⟨hf, hfields⟩ := List.forall_mem_cons.mp h
    intro c hc
    rw [membersEnd, List.mem_cons, List.mem_append] at hc
    rcases hc with rfl | hin | hbehind
    · decide
    · exact hf.printable c hin
    · exact ih hfields c hbehind

/-- An object of simple members has no control characters, so it is a string. -/
theorem cString_objectText (h : ∀ f ∈ fields, f.Simple n) :
    cString (objectText fields) = objectText fields := by
  refine cString_of_notMem fun hzero => ?_
  cases fields with
  | nil => exact absurd hzero (by decide)
  | cons f fields =>
    obtain ⟨hf, hfields⟩ := List.forall_mem_cons.mp h
    rw [objectText, List.mem_cons, List.mem_append] at hzero
    rcases hzero with hopen | hin | hbehind
    · exact absurd hopen (by decide)
    · exact absurd (hf.printable 0 hin) (by decide)
    · exact absurd (printable_membersEnd hfields 0 hbehind) (by decide)

theorem length_membersEnd_le (h : ∀ f ∈ fields, f.Simple n) :
    (membersEnd fields).length ≤ fields.length * (n + 1) + 1 := by
  induction fields with
  | nil => simp [membersEnd]
  | cons f fields ih =>
    obtain ⟨hf, hfields⟩ := List.forall_mem_cons.mp h
    have hshort := hf.short
    have hrest := ih hfields
    rw [membersEnd, List.length_cons, List.length_append, List.length_cons, Nat.add_mul]
    omega

/-- The size of an object of simple members. -/
theorem length_objectText_le (h : ∀ f ∈ fields, f.Simple n) :
    (objectText fields).length ≤ fields.length * (n + 1) + 2 := by
  cases fields with
  | nil => simp [objectText]
  | cons f fields =>
    obtain ⟨hf, hfields⟩ := List.forall_mem_cons.mp h
    have hshort := hf.short
    have hrest := length_membersEnd_le hfields
    rw [objectText, List.length_cons, List.length_append, List.length_cons, Nat.add_mul]
    omega

/-- Behind a member comes the next one or the end of the object. -/
theorem membersEnd_cons (fields : List Field) :
    ∃ c rest, membersEnd fields = c :: rest ∧ (c = comma ∨ c = closeBrace) := by
  cases fields with
  | nil => exact ⟨closeBrace, [], rfl, .inr rfl⟩
  | cons f fields => exact ⟨comma, _, rfl, .inl rfl⟩

end Json
