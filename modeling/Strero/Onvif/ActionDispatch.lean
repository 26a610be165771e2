import Strero.Lib.Xml
import Strero.Onvif

/-!
# Which handler an envelope gets

The name of an action is cut out of the first tag with a prefix behind the Body tag, and then
the names of the supported actions are looked for in it, one after the other. An envelope gets
the handler of its action where the text that is cut out leads to that handler.
-/

namespace Onvif

open CString AuthUtils Xml

/-! ### The supported actions -/

/-- The supported actions with their handlers, in the order in which they are looked for.
`GetProfile` counts as `GetProfiles`, and `GetOptions` is supported for the imaging service. -/
def supportedActions (request : List UInt8) : List (List UInt8 × Handler) :=
  [(ascii "GetDeviceInformation", .getDeviceInformation),
    (ascii "GetSnapshotUri", .getSnapshotUri),
    (ascii "GetCapabilities", .getCapabilities),
    (ascii "GetServices", .getServices),
    (ascii "GetSystemDateAndTime", .getSystemDateAndTime),
    (ascii "GetVideoSources", .getVideoSourcesAlt),
    (ascii "wsdlGetVideoSources", .getVideoSourcesAlt),
    (ascii "GetProfiles", .getProfiles),
    (ascii "GetStreamUri", .getStreamUri),
    (ascii "GetVideoEncoderConfiguration", .getVideoEncoderConfiguration),
    (ascii "GetProfile", .getProfiles),
    (ascii "GetServiceCapabilities", serviceCapabilitiesHandler request),
    (ascii "SystemReboot", .systemReboot)] ++
  (if contains request (ascii "/onvif/imaging_service") then
    [(ascii "GetOptions", .imagingGetOptions)] else []) ++
  [(ascii "Subscribe", .eventSubscribe), (ascii "Unsubscribe", .eventUnsubscribe)]

/-- The handler of the action with exactly this name. -/
def handlerOf (request action : List UInt8) : Option Handler :=
  ((supportedActions request).find? fun supported => supported.1 = action).map Prod.snd

/-- What an action is answered with: its handler, or else 501. -/
def exactReply : Option Handler → Reply
  | some handler => .handled handler
  | none => .response
    "HTTP/1.1 501 Not Implemented\r\nContent-Length: 0\r\nConnection: close\r\n\r\n"

theorem exactReply_inj {handler handler' : Option Handler} :
    exactReply handler = exactReply handler' ↔ handler = handler' := by
  refine ⟨fun h => ?_, congrArg exactReply⟩
  cases handler with
  | none =>
    cases handler' with
    | none => rfl
    | some h' => cases h
  | some h₀ =>
    cases handler' with
    | none => cases h
    | some h' => rw [Reply.handled.inj h]

/-- The first supported name that stands in the text is one with the handler of the action, or
none stands in it and the action is not supported. -/
def Leads (request text action : List UInt8) : Prop :=
  (∃ front name handler back, supportedActions request = front ++ (name, handler) :: back ∧
    name <:+: text ∧ (∀ supported ∈ front, ¬supported.1 <:+: text) ∧
      handlerOf request action = some handler) ∨
  (∀ supported ∈ supportedActions request, ¬supported.1 <:+: text) ∧
    handlerOf request action = none

theorem contains_iff {haystack needle : List UInt8} :
    contains haystack needle = true ↔ needle <:+: haystack := by
  unfold contains
  rw [Option.isSome_iff_ne_none, ne_eq, strstr_eq_none_iff, not_not]

theorem firstHandler_cons (test : Bool) (handler : Handler) (chain : List (Bool × Handler)) :
    firstHandler ((test, handler) :: chain) =
      if test then some handler else firstHandler chain := by
  cases test <;> rfl

/-- The chain is the search for the supported names in their order. -/
theorem actionHandler_eq (request text : List UInt8) :
    actionHandler request text =
      ((supportedActions request).find? fun supported => contains text supported.1).map
        Prod.snd := by
  have hfind : ∀ table : List (List UInt8 × Handler),
      (table.find? fun supported => contains text supported.1).map Prod.snd =
        firstHandler (table.map fun supported => (contains text supported.1, supported.2)) := by
    intro table
    unfold firstHandler
    rw [List.find?_map, Option.map_map]
    rfl
  have hor : ∀ (a b : Bool) (handler : Handler) (chain : List (Bool × Handler)),
      firstHandler ((a || b, handler) :: chain) =
        firstHandler ((a, handler) :: (b, handler) :: chain) := by
    intro a b handler chain
    cases a <;> cases b <;> rfl
  rw [hfind]
  unfold actionHandler earlierTests laterTests supportedActions
  cases contains request (ascii "/onvif/imaging_service") with
  | false =>
    simp only [List.cons_append, List.nil_append, List.map_cons, List.map_nil, firstHandler_cons,
      hor, Bool.and_false, Bool.false_eq_true, if_false]
  | true =>
    simp only [List.cons_append, List.nil_append, List.map_cons, List.map_nil, firstHandler_cons,
      hor, Bool.and_true, if_true]

theorem leads_iff {request text action : List UInt8} :
    Leads request text action ↔ actionHandler request text = handlerOf request action := by
  rw [actionHandler_eq]
  constructor
  · rintro (⟨front, name, handler, back, htable, hname, hfront, haction⟩ | ⟨hnone, haction⟩)
    · rw [haction, Option.map_eq_some_iff]
      refine ⟨(name, handler), List.find?_eq_some_iff_append.mpr ⟨contains_iff.mpr hname, front,
        back, htable, fun supported hmem => ?_⟩, rfl⟩
      rw [Bool.not_eq_true', ← Bool.not_eq_true, contains_iff]
      exact hfront supported hmem
    · rw [haction, Option.map_eq_none_iff, List.find?_eq_none]
      intro supported hmem
      rw [contains_iff]
      exact hnone supported hmem
  · intro hsame
    cases hfind : (supportedActions request).find? fun supported => contains text supported.1 with
    | none =>
      rw [hfind] at hsame
      refine .inr ⟨fun supported hmem => ?_, hsame.symm⟩
      rw [← contains_iff]
      exact List.find?_eq_none.mp hfind supported hmem
    | some found =>
      obtain ⟨name, handler⟩ := found
      rw [hfind] at hsame
      obtain ⟨hname, front, back, htable, hfront⟩ := List.find?_eq_some_iff_append.mp hfind
      refine .inl ⟨front, name, handler, back, htable, contains_iff.mp hname,
        fun supported hmem => ?_, hsame.symm⟩
      have hnot := hfront supported hmem
      rwa [Bool.not_eq_true', ← Bool.not_eq_true, contains_iff] at hnot

/-! ### The text that is looked at -/

/-- A tag that is taken for the action, by the text behind its `<`: it has a prefix other than
those of the envelope, and `rest` behind the colon. -/
def TakesTag (tag rest : List UInt8) : Prop :=
  ∃ ns, tag.dropWhile isBlank = ns ++ ':'.toUInt8 :: rest ∧
    (∀ b ∈ ns, b ∉ ascii ":> \t\n\r") ∧ ns ≠ ascii "SOAP-ENV" ∧ ns ≠ ascii "soap" ∧
      ∃ b ∈ rest, b ∈ ascii "> \t\n\r"

/-- The first tag that is taken. -/
def FirstTag (body rest : List UInt8) : Prop :=
  ∃ front tag, body = front ++ '<'.toUInt8 :: tag ∧ TakesTag tag rest ∧
    ∀ front' tag', front = front' ++ '<'.toUInt8 :: tag' →
      ¬∃ rest', TakesTag (tag' ++ '<'.toUInt8 :: tag) rest'

/-- Where the search begins: at the first Body tag of the one prefix, or else of the other. -/
def LooksIn (xml body : List UInt8) : Prop :=
  strstr xml (ascii "<SOAP-ENV:Body>") = some body ∨
    strstr xml (ascii "<SOAP-ENV:Body>") = none ∧ strstr xml (ascii "<soap:Body>") = some body

/-- What is cut out of the document: what stands behind the colon of the first tag that is
taken, up to the next blank, `>` or `/`. -/
def BodyName (xml name : List UInt8) : Prop :=
  ∃ body rest, LooksIn xml body ∧ FirstTag body rest ∧
    rest.takeWhile (· ∉ ascii "> /") = name ∧ name ≠ []

/-- What the header fields say: the quoted value of `SOAPAction`, or else the parameter of
`Content-Type`. -/
def HeaderName (request name : List UInt8) : Prop :=
  soapActionHeader request = some name ∨
    soapActionHeader request = none ∧ contentTypeAction request = some name

/-- The text in which the supported names are looked for. The header fields count where nothing
can be cut out of the document. -/
def LooksAt (request xml name : List UInt8) : Prop :=
  BodyName xml name ∨ (¬∃ other, BodyName xml other) ∧ HeaderName request name

/-- `strpbrk` finds the first byte that is accepted. -/
theorem strpbrk_cases (string accept : List UInt8) :
    (strpbrk string accept = none ∧ ∀ b ∈ string, b ∉ accept) ∨
      ∃ front b tail, string = front ++ b :: tail ∧ (∀ c ∈ front, c ∉ accept) ∧ b ∈ accept ∧
        strpbrk string accept = some (b :: tail) := by
  induction string with
  | nil => exact .inl ⟨rfl, fun b hb => absurd hb List.not_mem_nil⟩
  | cons c string ih =>
    by_cases hc : c ∈ accept
    · exact .inr ⟨[], c, string, rfl, fun d hd => absurd hd List.not_mem_nil, hc, if_pos hc⟩
    · have hskip : strpbrk (c :: string) accept = strpbrk string accept := if_neg hc
      rcases ih with ⟨hnone, hall⟩ | ⟨front, b, tail, rfl, hfront, hb, hfound⟩
      · exact .inl ⟨hskip.trans hnone, List.forall_mem_cons.mpr ⟨hc, hall⟩⟩
      · exact .inr ⟨c :: front, b, tail, rfl, List.forall_mem_cons.mpr ⟨hc, hfront⟩, hb,
          hskip.trans hfound⟩

/-- Of two different bytes in a text, one stands in front of the other. -/
theorem append_cons_cases {left right front back : List UInt8} {b c : UInt8} (hne : b ≠ c)
    (h : left ++ b :: right = front ++ c :: back) :
    (∃ between, front = left ++ b :: between ∧ right = between ++ c :: back) ∨
      ∃ between, left = front ++ c :: between ∧ back = between ++ b :: right := by
  rcases List.append_eq_append_iff.mp h with ⟨as, rfl, has⟩ | ⟨bs, rfl, hbs⟩
  · cases as with
    | nil => exact absurd (List.cons_eq_cons.mp has).1 hne
    | cons d as =>
      obtain ⟨rfl, rfl⟩ := List.cons_eq_cons.mp has
      exact .inl ⟨as, rfl, rfl⟩
  · cases bs with
    | nil => exact absurd (List.cons_eq_cons.mp hbs).1.symm hne
    | cons d bs =>
      obtain ⟨rfl, rfl⟩ := List.cons_eq_cons.mp hbs
      exact .inr ⟨bs, rfl, rfl⟩

/-- A name has a prefix if a colon comes before its end. -/
theorem isNamespaced_iff {name : List UInt8} :
    isNamespaced name = true ↔ ∃ ns rest, name = ns ++ ':'.toUInt8 :: rest ∧
      (∀ b ∈ ns, b ∉ ascii ":> \t\n\r") ∧ ∃ b ∈ rest, b ∈ ascii "> \t\n\r" := by
  have hne : ∀ {b}, b ∈ ascii "> \t\n\r" → ':'.toUInt8 ≠ b := by
    rintro b hb rfl
    exact absurd hb (by decide)
  have hsplit : ∀ b, b ∉ ascii ":> \t\n\r" ↔ b ≠ ':'.toUInt8 ∧ b ∉ ascii "> \t\n\r" := by
    intro b
    change b ∉ ':'.toUInt8 :: ascii "> \t\n\r" ↔ _
    rw [List.mem_cons, not_or]
  constructor
  · intro h
    unfold isNamespaced at h
    cases hchr : strchr name ':'.toUInt8 with
    | none => rw [hchr] at h; cases h
    | some colon =>
      obtain ⟨ns, rest, rfl, hns, rfl⟩ := exists_of_strchr hchr
      rcases strpbrk_cases (ns ++ ':'.toUInt8 :: rest) (ascii "> \t\n\r") with
        ⟨hnone, -⟩ | ⟨front, b, tail, hname, hfront, hb, hfound⟩
      · rw [hchr, hnone] at h
        cases h
      rw [hchr, hfound] at h
      have hlength : (b :: tail).length < (':'.toUInt8 :: rest).length := of_decide_eq_true h
      rcases append_cons_cases (hne hb) hname with ⟨between, rfl, rfl⟩ | ⟨between, -, rfl⟩
      · refine ⟨ns, _, rfl, fun c hc => (hsplit c).mpr ⟨?_, ?_⟩, b, by simp, hb⟩
        · rintro rfl
          exact hns hc
        · exact hfront c (List.mem_append_left _ hc)
      · simp only [List.length_cons, List.length_append] at hlength
        omega
  · rintro ⟨ns, rest, rfl, hns, b, hb, hstop⟩
    have hchr := strchr_append (fun hmem => ((hsplit _).mp (hns _ hmem)).1 rfl) rest
    unfold isNamespaced
    rcases strpbrk_cases (ns ++ ':'.toUInt8 :: rest) (ascii "> \t\n\r") with
      ⟨-, hall⟩ | ⟨front, c, tail, hname, -, hc, hfound⟩
    · exact absurd hstop (hall b (by simp [hb]))
    rw [hchr, hfound]
    refine decide_eq_true ?_
    rcases append_cons_cases (hne hc) hname with ⟨between, -, rfl⟩ | ⟨between, rfl, -⟩
    · simp only [List.length_cons, List.length_append]
      omega
    · exact absurd hc ((hsplit c).mp (hns c (by simp))).2

/-- The test of the search loop on a tag. -/
theorem takesTag_iff {tag : List UInt8} :
    (∃ rest, TakesTag tag rest) ↔
      ¬(ascii "SOAP-ENV:" <+: tag.dropWhile isBlank) ∧
        ¬(ascii "soap:" <+: tag.dropWhile isBlank) ∧
          isNamespaced (tag.dropWhile isBlank) = true := by
  rw [isNamespaced_iff]
  have hbegins : ∀ envelope ns rest : List UInt8, ':'.toUInt8 ∉ envelope → ':'.toUInt8 ∉ ns →
      (envelope ++ [':'.toUInt8] <+: ns ++ ':'.toUInt8 :: rest ↔ ns = envelope) := by
    intro envelope ns rest henvelope hns
    constructor
    · rintro ⟨back, hback⟩
      rw [List.append_assoc] at hback
      exact (append_cons_inj hns henvelope hback.symm).1
    · rintro rfl
      exact ⟨rest, by simp⟩
  have hcolon : ∀ ns : List UInt8, (∀ b ∈ ns, b ∉ ascii ":> \t\n\r") → ':'.toUInt8 ∉ ns :=
    fun ns hns hmem => hns _ hmem (by decide)
  constructor
  · rintro ⟨rest, ns, htag, hns, henv, hsoap, hstop⟩
    refine ⟨fun h => ?_, fun h => ?_, ns, rest, htag, hns, hstop⟩
    · rw [htag] at h
      exact henv ((hbegins (ascii "SOAP-ENV") ns rest (by decide) (hcolon ns hns)).mp h)
    · rw [htag] at h
      exact hsoap ((hbegins (ascii "soap") ns rest (by decide) (hcolon ns hns)).mp h)
  · rintro ⟨henv, hsoap, ns, rest, htag, hns, hstop⟩
    refine ⟨rest, ns, htag, hns, fun h => henv ?_, fun h => hsoap ?_, hstop⟩
    · rw [htag]
      exact (hbegins (ascii "SOAP-ENV") ns rest (by decide) (hcolon ns hns)).mpr h
    · rw [htag]
      exact (hbegins (ascii "soap") ns rest (by decide) (hcolon ns hns)).mpr h

/-- One round of the search: a tag that is not taken is passed over. -/
theorem findActionElement_cons (tag : List UInt8) :
    findActionElement ('<'.toUInt8 :: tag) =
      if (ascii "SOAP-ENV:").isPrefixOf (tag.dropWhile isBlank) ||
          (ascii "soap:").isPrefixOf (tag.dropWhile isBlank) then findActionElement tag
      else if isNamespaced (tag.dropWhile isBlank) then some (tag.dropWhile isBlank)
      else findActionElement tag := by
  rw [findActionElement, if_neg (not_not.mpr rfl)]

theorem findActionElement_of_takesTag {tag rest : List UInt8} (h : TakesTag tag rest) :
    findActionElement ('<'.toUInt8 :: tag) = some (tag.dropWhile isBlank) := by
  obtain ⟨henv, hsoap, hns⟩ := takesTag_iff.mp ⟨rest, h⟩
  rw [findActionElement_cons, if_neg, if_pos hns]
  simp [List.isPrefixOf_iff_prefix, henv, hsoap]

theorem findActionElement_of_not_takesTag {tag : List UInt8} (h : ¬∃ rest, TakesTag tag rest) :
    findActionElement ('<'.toUInt8 :: tag) = findActionElement tag := by
  rw [findActionElement_cons]
  by_cases henvelope : ((ascii "SOAP-ENV:").isPrefixOf (tag.dropWhile isBlank) ||
      (ascii "soap:").isPrefixOf (tag.dropWhile isBlank)) = true
  · rw [if_pos henvelope]
  · rw [if_neg henvelope]
    by_cases hns : isNamespaced (tag.dropWhile isBlank) = true
    · refine absurd (takesTag_iff.mpr ⟨?_, ?_, hns⟩) h
      · simp_all [List.isPrefixOf_iff_prefix]
      · simp_all [List.isPrefixOf_iff_prefix]
    · rw [if_neg hns]

/-- The search finds the first tag that is taken. -/
theorem findActionElement_eq_some {body element : List UInt8} :
    findActionElement body = some element ↔ ∃ front tag, body = front ++ '<'.toUInt8 :: tag ∧
      (∃ rest, TakesTag tag rest) ∧ tag.dropWhile isBlank = element ∧
        ∀ front' tag', front = front' ++ '<'.toUInt8 :: tag' →
          ¬∃ rest', TakesTag (tag' ++ '<'.toUInt8 :: tag) rest' := by
  induction body with
  | nil => simp [findActionElement]
  | cons b body ih =>
    by_cases hstart : b = '<'.toUInt8 ∧ ∃ rest, TakesTag body rest
    · obtain ⟨rfl, htakes⟩ := hstart
      rw [findActionElement_of_takesTag htakes.choose_spec, Option.some.injEq]
      constructor
      · intro helement
        refine ⟨[], body, rfl, htakes, helement, fun front' tag' hnil => ?_⟩
        simp at hnil
      · rintro ⟨front, tag, hbody, -, helement, hfirst⟩
        cases front with
        | nil => rwa [(List.cons_eq_cons.mp hbody).2]
        | cons c front =>
          obtain ⟨rfl, rfl⟩ := List.cons_eq_cons.mp hbody
          exact absurd htakes (hfirst [] front rfl)
    · -- No tag begins here, or one that is passed over.
      have hskip : findActionElement (b :: body) = findActionElement body := by
        by_cases hb : b = '<'.toUInt8
        · subst hb
          exact findActionElement_of_not_takesTag fun htakes => hstart ⟨rfl, htakes⟩
        · rw [findActionElement, if_pos hb]
      rw [hskip, ih]
      constructor
      · rintro ⟨front, tag, rfl, htag, helement, hfirst⟩
        refine ⟨b :: front, tag, rfl, htag, helement, fun front' tag' hfront => ?_⟩
        cases front' with
        | nil =>
          obtain ⟨hb, rfl⟩ := List.cons_eq_cons.mp hfront
          exact fun htakes => hstart ⟨hb, htakes⟩
        | cons c front' => exact hfirst front' tag' (List.cons_eq_cons.mp hfront).2
      · rintro ⟨front, tag, hbody, htag, helement, hfirst⟩
        cases front with
        | nil =>
          obtain ⟨hb, rfl⟩ := List.cons_eq_cons.mp hbody
          exact absurd ⟨hb, htag⟩ hstart
        | cons c front =>
          obtain ⟨rfl, rfl⟩ := List.cons_eq_cons.mp hbody
          refine ⟨front, tag, rfl, htag, helement, fun front' tag' hfront => ?_⟩
          exact hfirst (b :: front') tag' (by rw [hfront]; rfl)

theorem looksIn_iff {xml body : List UInt8} :
    ((strstr xml (ascii "<SOAP-ENV:Body>")).orElse fun _ => strstr xml (ascii "<soap:Body>")) =
      some body ↔ LooksIn xml body := by
  unfold LooksIn
  cases strstr xml (ascii "<SOAP-ENV:Body>") with
  | none => simp
  | some found => simp

/-- The name stands behind the first colon. -/
theorem TakesTag.strchr_eq {tag rest : List UInt8} (h : TakesTag tag rest) :
    strchr (tag.dropWhile isBlank) ':'.toUInt8 = some (':'.toUInt8 :: rest) := by
  obtain ⟨ns, htag, hns, -⟩ := h
  have hcolon : ':'.toUInt8 ∉ ns := by
    intro hmem
    have hnot := hns ':'.toUInt8 hmem
    exact hnot (by decide)
  rw [htag, strchr_append hcolon]

/-- What `extract_soap_action_from_body` returns. -/
theorem extractSoapActionFromBody_eq_some {request xml name : List UInt8}
    (hxml : strstr request (ascii "\r\n\r\n") = some (ascii "\r\n\r\n" ++ xml)) :
    extractSoapActionFromBody request = some name ↔ BodyName xml name := by
  have hdrop : (ascii "\r\n\r\n" ++ xml).drop 4 = xml := rfl
  have hname : ∀ rest : List UInt8, (if rest.takeWhile (· ∉ ascii "> /") = [] then none
      else some (rest.takeWhile (· ∉ ascii "> /"))) = some name ↔
        rest.takeWhile (· ∉ ascii "> /") = name ∧ name ≠ [] := by
    intro rest
    by_cases hempty : rest.takeWhile (· ∉ ascii "> /") = []
    · rw [if_pos hempty, hempty]
      exact ⟨fun h => absurd h.symm (Option.some_ne_none name), fun ⟨h, hne⟩ => absurd h.symm hne⟩
    · rw [if_neg hempty, Option.some.injEq]
      exact ⟨fun h => ⟨h, h ▸ hempty⟩, And.left⟩
  unfold extractSoapActionFromBody
  simp only [hxml, hdrop, Option.bind_eq_bind, Option.bind_some, Option.bind_eq_some_iff,
    looksIn_iff, findActionElement_eq_some]
  constructor
  · rintro ⟨body, hbody, element, ⟨front, tag, rfl, ⟨rest, htag⟩, rfl, hfirst⟩, colon, hcolon,
      haction⟩
    rw [htag.strchr_eq] at hcolon
    obtain rfl := Option.some.inj hcolon
    exact ⟨_, rest, hbody, ⟨front, tag, rfl, htag, hfirst⟩, (hname rest).mp haction⟩
  · rintro ⟨body, rest, hbody, ⟨front, tag, rfl, htag, hfirst⟩, haction⟩
    exact ⟨_, hbody, _, ⟨front, tag, rfl, ⟨rest, htag⟩, rfl, hfirst⟩, _, htag.strchr_eq,
      (hname rest).mpr haction⟩

/-- The action that a request is taken to ask for. -/
theorem requestedAction_eq_some {request xml name : List UInt8}
    (hxml : strstr request (ascii "\r\n\r\n") = some (ascii "\r\n\r\n" ++ xml)) :
    requestedAction request = some name ↔ LooksAt request xml name := by
  unfold requestedAction LooksAt
  cases hbody : extractSoapActionFromBody request with
  | some cut =>
    have hcut := (extractSoapActionFromBody_eq_some hxml).mp hbody
    rw [← extractSoapActionFromBody_eq_some hxml, hbody]
    simp [show ∃ other, BodyName xml other from ⟨cut, hcut⟩]
  | none =>
    have hnone : ¬∃ other, BodyName xml other := by
      rintro ⟨other, hother⟩
      rw [← extractSoapActionFromBody_eq_some hxml, hbody] at hother
      cases hother
    have hname : ¬BodyName xml name := fun h => hnone ⟨name, h⟩
    unfold soapAction HeaderName
    rw [hbody, or_iff_right hname, and_iff_right hnone]
    cases soapActionHeader request with
    | some header => simp
    | none => simp

/-! ### Envelopes -/

/-- A request with a SOAP envelope: its header lines, and the document. In the Body there is
`gap`, then the element of the action, then others. -/
structure SoapMessage where
  headers : List UInt8
  prolog : List Content
  envelope : Tag
  header : List Content
  body : Tag
  gap : List Content
  action : Tag
  selfClosing : Bool
  children : List Content
  actionEnd : List UInt8
  others : List Content
  bodyEnd : List UInt8
  trailer : List Content
  envelopeEnd : List UInt8
  epilog : List Content

namespace SoapMessage

/-- What the Body holds. -/
def bodyContent (m : SoapMessage) : List Content :=
  m.gap ++ .element m.action m.selfClosing m.children m.actionEnd :: m.others

/-- The document. -/
def document (m : SoapMessage) : List Content :=
  m.prolog ++ .element m.envelope false
    (m.header ++ .element m.body false m.bodyContent m.bodyEnd :: m.trailer) m.envelopeEnd ::
      m.epilog

def xml (m : SoapMessage) : List UInt8 := renderAll m.document

/-- The text of the request. -/
def text (m : SoapMessage) : List UInt8 := m.headers ++ ascii "\r\n\r\n" ++ m.xml

/-- The name of the action, without its prefix. -/
def actionName (m : SoapMessage) : List UInt8 := m.action.name.name.bytes

/-- The document is well-formed and is an envelope, its Body tag has one of the two prefixes, and
the first child element of the Body has a prefix. -/
structure WellFormed (m : SoapMessage) : Prop where
  posts : ascii "POST /onvif" <+: m.headers
  headers_end : strstr (m.headers ++ ascii "\r\n\r\n") (ascii "\r\n\r\n") =
    some (ascii "\r\n\r\n")
  valid : allValid m.document = true
  misc : ∀ content ∈ m.prolog ++ m.epilog, content.isMisc = true
  envelope_name : m.envelope.name.name.bytes = ascii "Envelope"
  body_name : m.body.name.name.bytes = ascii "Body"
  body_ns : m.body.name.ns.map Name.bytes = some (ascii "SOAP-ENV") ∨
    m.body.name.ns.map Name.bytes = some (ascii "soap")
  gap_data : ∀ content ∈ m.gap, content.isData = true
  action_ns : m.action.name.ns.isSome = true

/-- The search for the document finds it. -/
theorem WellFormed.strstr_text {m : SoapMessage} (hm : m.WellFormed) :
    strstr m.text (ascii "\r\n\r\n") = some (ascii "\r\n\r\n" ++ m.xml) :=
  strstr_append hm.headers_end m.xml

/-- What stands in a well-formed document is well-formed. -/
theorem WellFormed.body_valid {m : SoapMessage} (hm : m.WellFormed) :
    allValid m.gap = true ∧ m.action.valid = true := by
  have hvalid := hm.valid
  simp only [document, bodyContent, allValid_append, allValid, Content.valid, Bool.and_eq_true,
    Bool.false_eq_true, if_false] at hvalid
  exact ⟨hvalid.2.1.2.2.1.2.1, hvalid.2.1.2.2.1.2.2.1.1.1⟩

theorem WellFormed.contains_post {m : SoapMessage} (hm : m.WellFormed) :
    contains m.text (ascii "POST /onvif") = true := by
  refine contains_iff.mpr ((hm.posts.trans ?_).isInfix)
  unfold text
  rw [List.append_assoc]
  exact List.prefix_append _ _

end SoapMessage

/-- The request gets through to the dispatch: the module is enabled, and the request is exempt
from authentication or passes the check. -/
def Server.Admits (server : Server) (request : List UInt8) : Prop :=
  server.enabled = true ∧ ∃ client config, authGetClientInfo server.peer = some client ∧
    server.auth = some config ∧ (isGetSystemDateTime request = true ∨
      authCheckOnvifRequest server.tableAddress request config client = some .success)

theorem Server.Admits.handles {server : Server} {request : List UInt8}
    (h : server.Admits request) :
    onvifModuleHandleRequest server request = some (serveRequest request) := by
  obtain ⟨henabled, client, config, hclient, hconfig, hpasses⟩ := h
  cases hexempt : isGetSystemDateTime request with
  | true => exact onvifModuleHandleRequest_of_exempt henabled hclient hconfig hexempt
  | false =>
    have hcheck := hpasses.resolve_left (by rw [hexempt]; exact Bool.false_ne_true)
    unfold onvifModuleHandleRequest
    rw [henabled, hclient, hconfig, hexempt]
    simp only [Bool.not_true, Bool.false_eq_true, if_false, Bool.not_false, if_true, hcheck,
      Option.map_some]

/-- No action is a request for an image. -/
theorem handlerOf_ne_snapshotRequest (request action : List UInt8) (channel : ℤ) :
    handlerOf request action ≠ some (.snapshotRequest channel) := by
  have hservice : serviceCapabilitiesHandler request ≠ .snapshotRequest channel := by
    unfold serviceCapabilitiesHandler
    split_ifs <;> simp
  have hall : ∀ supported ∈ supportedActions request, supported.2 ≠ .snapshotRequest channel := by
    unfold supportedActions
    split_ifs <;> simp [hservice]
  intro h
  obtain ⟨supported, hfind, hhandler⟩ := Option.map_eq_some_iff.mp h
  exact hall supported (List.mem_of_find?_eq_some hfind) hhandler

/-- The reply to a request with a document. -/
theorem serveRequest_eq_exactReply_iff {request xml : List UInt8} {handler : Option Handler}
    (hpost : contains request (ascii "POST /onvif") = true)
    (hxml : strstr request (ascii "\r\n\r\n") = some (ascii "\r\n\r\n" ++ xml))
    (hhandler : ∀ channel, handler ≠ some (.snapshotRequest channel)) :
    serveRequest request = exactReply handler ↔
      ¬ascii "GET /onvif/snapshot" <:+: request ∧
        ∃ name, LooksAt request xml name ∧ actionHandler request name = handler := by
  unfold serveRequest
  rw [isPost_eq, hpost, ← contains_iff]
  by_cases hsnapshot : contains request (ascii "GET /onvif/snapshot") = true
  · rw [if_pos hsnapshot]
    refine iff_of_false (fun h => ?_) fun h => h.1 hsnapshot
    have hreply : exactReply (some (.snapshotRequest _)) = exactReply handler := h
    exact hhandler _ (exactReply_inj.mp hreply).symm
  · rw [if_neg hsnapshot, if_pos rfl, and_iff_right hsnapshot]
    simp only [← requestedAction_eq_some hxml]
    cases requestedAction request with
    | none =>
      refine iff_of_false (fun h => ?_) fun ⟨name, hname, _⟩ => Option.some_ne_none name hname.symm
      cases handler with
      | none => simp [exactReply] at h
      | some handler => cases h
    | some name =>
      dsimp only
      cases hchain : actionHandler request name with
      | none =>
        change exactReply none = exactReply handler ↔ _
        rw [exactReply_inj]
        simp [hchain]
      | some picked =>
        change exactReply (some picked) = exactReply handler ↔ _
        rw [exactReply_inj]
        simp [hchain]

/-- A well-formed envelope whose first child of the Body is an element with a prefix gets the
handler of the action with the name of that element, or 501 where that is none of the supported
ones, exactly if the text nowhere asks for an image, and the first supported name that stands in
the text that is looked at is one of the same handler. -/
theorem handles_exactly_iff {server : Server} {m : SoapMessage} (hm : m.WellFormed)
    (hserver : server.Admits m.text) :
    onvifModuleHandleRequest server m.text = some (exactReply (handlerOf m.text m.actionName)) ↔
      ¬ascii "GET /onvif/snapshot" <:+: m.text ∧
        ∃ name, LooksAt m.text m.xml name ∧ Leads m.text name m.actionName := by
  rw [hserver.handles, Option.some.injEq, serveRequest_eq_exactReply_iff hm.contains_post
    hm.strstr_text (handlerOf_ne_snapshotRequest m.text m.actionName)]
  simp only [leads_iff]

/-! ### Envelopes in plain layout -/

/-- No supported name stands in front of one that holds it, so each is found as itself. -/
theorem supported_found (request : List UInt8) : ∀ supported ∈ supportedActions request,
    ((supportedActions request).find? fun other => contains supported.1 other.1).map Prod.snd =
      some supported.2 ∧ handlerOf request supported.1 = some supported.2 := by
  unfold handlerOf supportedActions
  generalize serviceCapabilitiesHandler request = service
  cases contains request (ascii "/onvif/imaging_service") with
  | false =>
    simp only [Bool.false_eq_true, if_false, List.append_nil, List.cons_append, List.nil_append,
      List.forall_mem_cons, List.not_mem_nil, false_implies, implies_true, and_true]
    and_intros <;> rfl
  | true =>
    simp only [if_true, List.cons_append, List.nil_append, List.forall_mem_cons,
      List.not_mem_nil, false_implies, implies_true, and_true]
    and_intros <;> rfl

/-- The name of an action leads to its handler if it is supported, or holds no supported name. -/
theorem leads_self_iff {request action : List UInt8} :
    Leads request action action ↔ (handlerOf request action).isSome = true ∨
      ∀ supported ∈ supportedActions request, ¬supported.1 <:+: action := by
  constructor
  · rintro (⟨-, -, handler, -, -, -, -, haction⟩ | ⟨hnone, -⟩)
    · exact .inl (by rw [haction]; rfl)
    · exact .inr hnone
  · rintro (hsome | hnone)
    · obtain ⟨handler, hhandler⟩ := Option.isSome_iff_exists.mp hsome
      obtain ⟨supported, hfind, -⟩ := Option.map_eq_some_iff.mp hhandler
      have hsame := List.find?_some hfind
      obtain rfl : supported.1 = action := by simpa using hsame
      obtain ⟨hfound, hown⟩ := supported_found request supported (List.mem_of_find?_eq_some hfind)
      rw [leads_iff, actionHandler_eq, hfound, hown]
    · refine .inr ⟨hnone, ?_⟩
      rw [handlerOf, Option.map_eq_none_iff, List.find?_eq_none]
      intro supported hmem hsame
      exact hnone supported hmem (of_decide_eq_true hsame ▸ List.infix_rfl)

/-- The tags behind a Body tag are looked through from the first one on. -/
theorem firstTag_behind {envelope gap ns rest : List UInt8}
    (henvelope : envelope = ascii "SOAP-ENV" ∨ envelope = ascii "soap")
    (hgap : '<'.toUInt8 ∉ gap) (hname : ∀ b ∈ ns, isNameByte b = true) (hne : ns ≠ [])
    (hsoapEnv : ns ≠ ascii "SOAP-ENV") (hsoap : ns ≠ ascii "soap") (hclosed : '>'.toUInt8 ∈ rest) :
    FirstTag ('<'.toUInt8 :: (envelope ++ ascii ":Body>" ++ gap) ++
      '<'.toUInt8 :: (ns ++ ':'.toUInt8 :: rest)) rest := by
  have hends : ∀ b ∈ ascii ":> \t\n\r", isNameByte b = false :=
    isNameByte_of_mem (by decide)
  refine ⟨_, _, rfl, ⟨ns, ?_, ?_, hsoapEnv, hsoap, _, hclosed, by decide⟩, ?_⟩
  · cases ns with
    | nil => exact absurd rfl hne
    | cons b ns =>
      have hblank : isBlank b = false := by
        by_contra hb
        have hmem : b ∈ ascii " \t\n\r" := of_decide_eq_true (Bool.not_eq_false _ ▸ hb)
        have hfalse := hends b (List.mem_cons_of_mem _ (List.mem_cons_of_mem _ hmem))
        exact Bool.false_ne_true (hfalse.symm.trans (hname b List.mem_cons_self))
      rw [List.cons_append, List.dropWhile_cons_of_neg (by rw [hblank]; exact Bool.false_ne_true)]
  · intro b hb hmem
    exact Bool.false_ne_true ((hends b hmem).symm.trans (hname b hb))
  · -- The Body tag itself is passed over, and there is no other tag in front.
    intro front' tag' hfront
    cases front' with
    | nil =>
      obtain rfl : envelope ++ ascii ":Body>" ++ gap = tag' := (List.cons_eq_cons.mp hfront).2
      rintro ⟨rest', ns', htag, hns', hsoapEnv', hsoap', -⟩
      have hcolon : ':'.toUInt8 ∉ ns' := by
        intro hmem
        exact hns' _ hmem (by decide)
      have henvelopeColon : ':'.toUInt8 ∉ envelope := by
        rcases henvelope with rfl | rfl <;> decide
      have hsame : ns' = envelope := by
        rcases henvelope with rfl | rfl
        · exact (append_cons_inj hcolon henvelopeColon htag.symm).1
        · exact (append_cons_inj hcolon henvelopeColon htag.symm).1
      rcases henvelope with rfl | rfl
      · exact hsoapEnv' hsame
      · exact hsoap' hsame
    | cons c front' =>
      have hmem : '<'.toUInt8 ∈ envelope ++ ascii ":Body>" ++ gap := by
        rw [(List.cons_eq_cons.mp hfront).2]
        simp
      have hnot : '<'.toUInt8 ∉ envelope ++ ascii ":Body>" := by
        rcases henvelope with rfl | rfl <;> decide
      exact absurd hmem (List.not_mem_append hnot hgap)

namespace SoapMessage

/-- What stands in front of the Body. -/
def front (m : SoapMessage) : List UInt8 :=
  renderAll m.prolog ++ (ascii "<" ++ m.envelope.render ++ ascii ">" ++ renderAll m.header)

/-- The Body tag is written without white space and attributes and is the first one, there is no
section or instruction in front of the action, the action has a prefix of its own, and no tab or
line break ends its name. -/
structure Plain (m : SoapMessage) : Prop where
  body_layout : m.body.layout = []
  front_soapEnv : ¬ascii "<SOAP-ENV:Body>" <:+: m.front
  front_soap : m.body.name.ns.map Name.bytes = some (ascii "soap") →
    ¬ascii "<soap:Body>" <:+: m.front ∧ ¬ascii "<SOAP-ENV:Body>" <:+: m.xml
  gap_text : ∀ content ∈ m.gap, ∃ data, content = .text data
  action_soapEnv : m.action.name.ns.map Name.bytes ≠ some (ascii "SOAP-ENV")
  action_soap : m.action.name.ns.map Name.bytes ≠ some (ascii "soap")
  action_layout : ∀ b ∈ m.action.layout.head?, b ∉ ascii "\t\n\r"

/-- The document up to the end of the tag of the action. -/
theorem exists_xml_eq (m : SoapMessage) : ∃ b rest, (b = '>'.toUInt8 ∨ b = '/'.toUInt8) ∧
    '>'.toUInt8 ∈ b :: rest ∧
      m.xml = m.front ++ (ascii "<" ++ m.body.render ++ ascii ">" ++ renderAll m.gap ++
        '<'.toUInt8 :: (m.action.render ++ b :: rest)) := by
  obtain ⟨b, rest, hb, hclosed, haction⟩ :=
    exists_render_element m.action m.selfClosing m.children m.actionEnd
  refine ⟨b, rest ++ (renderAll m.others ++ (ascii "</" ++ m.body.name.render ++ m.bodyEnd ++
    ascii ">" ++ (renderAll m.trailer ++ (ascii "</" ++ m.envelope.name.render ++ m.envelopeEnd ++
      ascii ">" ++ renderAll m.epilog)))), hb, ?_, ?_⟩
  · rw [← List.cons_append]
    exact List.mem_append_left _ hclosed
  · have hbody : (Content.element m.body false m.bodyContent m.bodyEnd).render = ascii "<" ++
        m.body.render ++ ascii ">" ++ renderAll m.bodyContent ++ ascii "</" ++
          m.body.name.render ++ m.bodyEnd ++ ascii ">" := by
      rw [Content.render, if_neg Bool.false_ne_true]
    unfold xml document front
    rw [renderAll_append, renderAll, Content.render, if_neg Bool.false_ne_true, renderAll_append,
      renderAll, hbody, bodyContent, renderAll_append, renderAll, haction]
    simp only [List.append_assoc, List.cons_append]

/-- The Body tag of an envelope in plain layout. -/
theorem Plain.body_tag {m : SoapMessage} (hplain : m.Plain) (hm : m.WellFormed) :
    ∃ envelope : List UInt8, (envelope = ascii "SOAP-ENV" ∨ envelope = ascii "soap") ∧
      m.body.name.ns.map Name.bytes = some envelope ∧
        ascii "<" ++ m.body.render ++ ascii ">" =
          '<'.toUInt8 :: (envelope ++ ascii ":Body>") := by
  obtain ⟨name, hname⟩ : ∃ name, m.body.name.ns = some name := by
    refine Option.isSome_iff_exists.mp ?_
    rw [← Option.isSome_map (f := Name.bytes)]
    rcases hm.body_ns with h | h
    · rw [h]; rfl
    · rw [h]; rfl
  refine ⟨name.bytes, ?_, by rw [hname]; rfl, ?_⟩
  · have hns := hm.body_ns
    rw [hname] at hns
    exact hns.imp Option.some.inj Option.some.inj
  · rw [Tag.render, QName.render, hname, hplain.body_layout, hm.body_name]
    simp only [List.append_nil, List.append_assoc, List.cons_append]
    rfl

/-- The search begins at the Body tag. -/
theorem Plain.looksIn {m : SoapMessage} (hplain : m.Plain) (hm : m.WellFormed)
    {behind : List UInt8}
    (hxml : m.xml = m.front ++ (ascii "<" ++ m.body.render ++ ascii ">" ++ behind)) :
    LooksIn m.xml (ascii "<" ++ m.body.render ++ ascii ">" ++ behind) := by
  obtain ⟨envelope, henvelope, hns, htag⟩ := hplain.body_tag hm
  have hfound : ∀ needle : List UInt8, '<'.toUInt8 ∉ needle →
      ¬('<'.toUInt8 :: needle) <:+: m.front → envelope ++ ascii ":Body>" = needle →
        strstr m.xml ('<'.toUInt8 :: needle) =
          some (ascii "<" ++ m.body.render ++ ascii ">" ++ behind) := by
    rintro needle hneedle hfront rfl
    rw [hxml, htag]
    refine (strstr_append_cons _ hneedle (strstr_eq_none_iff.mpr hfront)).trans ?_
    exact strstr_of_begins ⟨behind, rfl⟩
  rcases henvelope with rfl | rfl
  · exact .inl (hfound (ascii "SOAP-ENV:Body>") (by decide) hplain.front_soapEnv rfl)
  · obtain ⟨hfront, hnone⟩ := hplain.front_soap hns
    exact .inr ⟨strstr_eq_none_iff.mpr hnone,
      hfound (ascii "soap:Body>") (by decide) hfront rfl⟩

/-- In plain layout the name of the action is what is cut out. -/
theorem Plain.bodyName {m : SoapMessage} (hplain : m.Plain) (hm : m.WellFormed)
    (hgap : '<'.toUInt8 ∉ renderAll m.gap) : BodyName m.xml m.actionName := by
  obtain ⟨b, rest, hb, hclosed, hxml⟩ := m.exists_xml_eq
  obtain ⟨ns, hns⟩ := Option.isSome_iff_exists.mp hm.action_ns
  have hsoapEnv := hplain.action_soapEnv
  have hsoap := hplain.action_soap
  rw [hns, Option.map_some, ne_eq, Option.some.injEq] at hsoapEnv hsoap
  have haction : m.action.render ++ b :: rest =
      ns.bytes ++ ':'.toUInt8 :: (m.actionName ++ (m.action.layout ++ b :: rest)) := by
    rw [Tag.render, QName.render, hns]
    simp only [List.append_assoc, List.cons_append]
    rfl
  rw [List.append_assoc _ (renderAll m.gap)] at hxml
  have hlooks := hplain.looksIn hm hxml
  obtain ⟨envelope, henvelope, -, htag⟩ := hplain.body_tag hm
  rw [haction, htag] at hlooks
  refine ⟨_, m.actionName ++ (m.action.layout ++ b :: rest), hlooks, ?_, ?_,
    m.action.name.name.ne_nil⟩
  · obtain ⟨-, -, -, hall⟩ := ns.cases
    have hends : '>'.toUInt8 ∈ m.actionName ++ (m.action.layout ++ b :: rest) :=
      List.mem_append_right _ (List.mem_append_right _ hclosed)
    have hfirst := firstTag_behind henvelope hgap hall ns.ne_nil hsoapEnv hsoap hends
    simpa only [List.cons_append, List.append_assoc] using hfirst
  · have hname : ∀ c ∈ m.actionName, decide (c ∉ ascii "> /") = true := by
      have hends : ∀ c ∈ ascii "> /", isNameByte c = false := isNameByte_of_mem (by decide)
      intro c hc
      exact decide_eq_true fun hmem => m.action.name.name.notMem (hends c hmem) hc
    obtain ⟨c, after, hafter, hc⟩ : ∃ c after, m.action.layout ++ b :: rest = c :: after ∧
        c ∈ ascii "> /" := by
      rcases Tag.layout_cases hm.body_valid.2 with hnil | ⟨c, spaces, hspaces, hc⟩
      · refine ⟨b, rest, by rw [hnil]; rfl, ?_⟩
        rcases hb with rfl | rfl <;> decide
      · have hbreak : c ∉ ascii "\t\n\r" := hplain.action_layout c (by rw [hspaces]; rfl)
        have hspace : c ∈ ' '.toUInt8 :: ascii "\t\n\r" := of_decide_eq_true hc
        obtain rfl : c = ' '.toUInt8 := (List.mem_cons.mp hspace).resolve_right hbreak
        exact ⟨_, _, by rw [hspaces]; rfl, by decide⟩
    rw [List.takeWhile_append_of_pos hname, hafter,
      List.takeWhile_cons_of_neg (by simp [hc]), List.append_nil]

/-- In plain layout an envelope gets the handler of its action, or 501, exactly if the text
nowhere asks for an image, and the name of the action is supported or holds no supported name. -/
theorem Plain.exact_iff {server : Server} {m : SoapMessage} (hplain : m.Plain)
    (hm : m.WellFormed) (hserver : server.Admits m.text) :
    onvifModuleHandleRequest server m.text = some (exactReply (handlerOf m.text m.actionName)) ↔
      ¬ascii "GET /onvif/snapshot" <:+: m.text ∧
        ((handlerOf m.text m.actionName).isSome = true ∨
          ∀ supported ∈ supportedActions m.text, ¬supported.1 <:+: m.actionName) := by
  have hgap := notMem_renderAll_text hm.body_valid.1 hplain.gap_text
  have hlooks : LooksAt m.text m.xml m.actionName := .inl (hplain.bodyName hm hgap)
  have haction := (requestedAction_eq_some hm.strstr_text).mpr hlooks
  rw [hserver.handles, Option.some.injEq, serveRequest_eq_exactReply_iff hm.contains_post
    hm.strstr_text (handlerOf_ne_snapshotRequest m.text m.actionName), ← leads_self_iff,
    leads_iff]
  refine and_congr_right fun _ => ⟨?_, fun hleads => ⟨m.actionName, hlooks, hleads⟩⟩
  rintro ⟨name, hname, hleads⟩
  obtain rfl : m.actionName = name :=
    Option.some.inj (haction.symm.trans ((requestedAction_eq_some hm.strstr_text).mpr hname))
  exact hleads

end SoapMessage

/-! ### An action that is not supported -/

theorem isName_soapEnv : isName (ascii "SOAP-ENV") = true := by decide

theorem isName_envelope : isName (ascii "Envelope") = true := by decide

theorem isName_body : isName (ascii "Body") = true := by decide

theorem isName_xmlns : isName (ascii "xmlns") = true := by decide

theorem isName_trt : isName (ascii "trt") = true := by decide

theorem isName_getProfile : isName (ascii "GetProfile") = true := by decide

theorem isName_options : isName (ascii "GetVideoEncoderConfigurationOptions") = true := by decide

/-- A server without authentication. -/
def openServer : Server where
  enabled := true
  peer := some 0xC0A80002
  auth := some { adminConfig "secret" with enabled := false }
  tableAddress := 0

theorem openServer_admits (request : List UInt8) : openServer.Admits request :=
  ⟨rfl, ⟨0xC0A80002, false⟩, _, rfl, rfl, .inr rfl⟩

/-- A request to the media service for an action without parameters. -/
def mediaMessage (action : Name) : SoapMessage where
  headers := ascii "POST /onvif/media_service HTTP/1.1"
  prolog := [.instruction (ascii "xml version=\"1.0\"")]
  envelope := ⟨⟨some ⟨ascii "SOAP-ENV", isName_soapEnv⟩, ⟨ascii "Envelope", isName_envelope⟩⟩,
    [⟨ascii " ", ⟨some ⟨ascii "xmlns", isName_xmlns⟩, ⟨ascii "SOAP-ENV", isName_soapEnv⟩⟩, [], [],
      '"'.toUInt8, ascii "http://www.w3.org/2003/05/soap-envelope"⟩], []⟩
  header := []
  body := ⟨⟨some ⟨ascii "SOAP-ENV", isName_soapEnv⟩, ⟨ascii "Body", isName_body⟩⟩, [], []⟩
  gap := [.text (ascii "\n  ")]
  action := ⟨⟨some ⟨ascii "trt", isName_trt⟩, action⟩,
    [⟨ascii " ", ⟨some ⟨ascii "xmlns", isName_xmlns⟩, ⟨ascii "trt", isName_trt⟩⟩, [], [],
      '"'.toUInt8, ascii "http://www.onvif.org/ver10/media/wsdl"⟩], []⟩
  selfClosing := true
  children := []
  actionEnd := []
  others := []
  bodyEnd := []
  trailer := []
  envelopeEnd := []
  epilog := [.text (ascii "\n")]

theorem mediaMessage_wellFormed (action : Name) : (mediaMessage action).WellFormed where
  posts := by
    change ascii "POST /onvif" <+: ascii "POST /onvif/media_service HTTP/1.1"
    decide
  headers_end := by
    change strstr (ascii "POST /onvif/media_service HTTP/1.1" ++ ascii "\r\n\r\n")
      (ascii "\r\n\r\n") = some (ascii "\r\n\r\n")
    decide
  valid := rfl
  misc := by
    intro content hmem
    rcases List.mem_append.mp hmem with h | h
    · rw [List.mem_singleton.mp h]
      rfl
    · rw [List.mem_singleton.mp h]
      rfl
  envelope_name := rfl
  body_name := rfl
  body_ns := .inl rfl
  gap_data := by
    intro content hmem
    rw [List.mem_singleton.mp hmem]
    rfl
  action_ns := rfl

theorem mediaMessage_plain (action : Name) : (mediaMessage action).Plain where
  body_layout := rfl
  front_soapEnv := by
    -- What stands in front does not depend on the action.
    change ¬ascii "<SOAP-ENV:Body>" <:+:
      (mediaMessage ⟨ascii "GetProfile", isName_getProfile⟩).front
    decide +kernel
  front_soap := by
    intro h
    have hsame : ascii "SOAP-ENV" = ascii "soap" := Option.some.inj h
    exact absurd hsame (by decide)
  gap_text := fun content hmem => ⟨_, List.mem_singleton.mp hmem⟩
  action_soapEnv := by
    change some (ascii "trt") ≠ some (ascii "SOAP-ENV")
    decide
  action_soap := by
    change some (ascii "trt") ≠ some (ascii "soap")
    decide
  action_layout := by
    rintro b hb
    obtain rfl : ' '.toUInt8 = b := Option.some.inj hb
    decide

/-- `GetProfile` gets the handler of `GetProfiles`. -/
theorem handles_exactly_iff_getProfile :
    onvifModuleHandleRequest openServer
      (mediaMessage ⟨ascii "GetProfile", isName_getProfile⟩).text =
        some (.handled .getProfiles) := by
  have hm := mediaMessage_wellFormed ⟨ascii "GetProfile", isName_getProfile⟩
  have hplain := mediaMessage_plain ⟨ascii "GetProfile", isName_getProfile⟩
  have hgap := notMem_renderAll_text hm.body_valid.1 hplain.gap_text
  exact (handles_exactly_iff hm (openServer_admits _)).mpr
    ⟨by decide +kernel, _, .inl (hplain.bodyName hm hgap), leads_self_iff.mpr (.inl rfl)⟩

/-- The options of an encoder are not supported, and the handler of its configuration runs. -/
theorem not_handles_exactly_options :
    ¬∀ (server : Server) (m : SoapMessage), m.WellFormed → server.Admits m.text →
      onvifModuleHandleRequest server m.text =
        some (exactReply (handlerOf m.text m.actionName)) := by
  intro h
  have hreply := h openServer
    (mediaMessage ⟨ascii "GetVideoEncoderConfigurationOptions", isName_options⟩)
    (mediaMessage_wellFormed _) (openServer_admits _)
  have hrun : onvifModuleHandleRequest openServer
      (mediaMessage ⟨ascii "GetVideoEncoderConfigurationOptions", isName_options⟩).text =
        some (.handled .getVideoEncoderConfiguration) := by decide +kernel
  have hnone : handlerOf
      (mediaMessage ⟨ascii "GetVideoEncoderConfigurationOptions", isName_options⟩).text
        (ascii "GetVideoEncoderConfigurationOptions") = none := by decide +kernel
  rw [hrun] at hreply
  have hsame := Option.some.inj hreply
  rw [show (mediaMessage ⟨ascii "GetVideoEncoderConfigurationOptions", isName_options⟩).actionName =
    ascii "GetVideoEncoderConfigurationOptions" from rfl, hnone] at hsame
  cases hsame

end Onvif
