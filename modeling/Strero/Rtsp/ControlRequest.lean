import Strero.Rtsp.Request

/-!
# Well-formed requests

A request as a client writes it: a request line, header fields, one of which numbers the
request, and a body. `parse_rtsp_request` finds the method and the number of such a request,
with anything after it, if the first `CSeq:` of the text is that of the header field.
-/

namespace Rtsp

open CString Scanf

/-- The end of a line. -/
def crlf : List UInt8 := ascii "\r\n"

/-- A visible character. -/
def isVisible (c : UInt8) : Bool := 33 ≤ c && c ≤ 126

/-- A character of a token. -/
def isTokenChar (c : UInt8) : Bool := isVisible c && c ∉ ascii "()<>@,;:\\\"/[]?=\x7b\x7d"

/-- The lower-case form of a letter. -/
def toLower (c : UInt8) : UInt8 := if 65 ≤ c && c ≤ 90 then c + 32 else c

/-- A request in its parts. The `CSeq` field may stand anywhere in the header, and its name
in upper or lower case. A request does not begin with the mark of interleaved data. -/
structure ControlRequest where
  name : List UInt8
  url : List UInt8
  leading : List (List UInt8)
  cseqName : List UInt8
  blanks : List UInt8
  digits : List UInt8
  trailing : List (List UInt8)
  body : List UInt8
  name_ne : name ≠ []
  name_token : ∀ c ∈ name, isTokenChar c = true
  name_head : name.head? ≠ some '$'.toUInt8
  url_ne : url ≠ []
  url_visible : ∀ c ∈ url, isVisible c = true
  lines : ∀ line ∈ leading ++ trailing, 0 ∉ line ∧ '\r'.toUInt8 ∉ line ∧ '\n'.toUInt8 ∉ line
  cseqName_eq : cseqName.map toLower = ascii "cseq"
  blanks_blank : ∀ c ∈ blanks, c = ' '.toUInt8 ∨ c = '\t'.toUInt8
  digits_ne : digits ≠ []
  digits_digit : ∀ c ∈ digits, isDigit c = true
  digits_lt : decimal digits < 2 ^ 31

/-- The number of the request. -/
def ControlRequest.cseq (request : ControlRequest) : ℤ := decimal request.digits

/-- The header from its `CSeq` field on. -/
def ControlRequest.fromCseq (request : ControlRequest) : List UInt8 :=
  request.cseqName ++ ascii ":" ++ request.blanks ++ request.digits ++ crlf ++
    request.trailing.flatMap (· ++ crlf) ++ crlf

/-- The request line and the header. -/
def ControlRequest.head (request : ControlRequest) : List UInt8 :=
  request.name ++ ' '.toUInt8 :: request.url ++ ascii " RTSP/1.0\r\n" ++
    request.leading.flatMap (· ++ crlf) ++ request.fromCseq

/-- The bytes of the request. -/
def ControlRequest.bytes (request : ControlRequest) : List UInt8 := request.head ++ request.body

/-- The first `CSeq:` in the request line and the header is the one that numbers the
request. -/
def ControlRequest.Plain (request : ControlRequest) : Prop :=
  strstr request.head (ascii "CSeq:") = some request.fromCseq

instance (request : ControlRequest) : Decidable request.Plain :=
  inferInstanceAs (Decidable (_ = _))

variable {request : ControlRequest}

theorem isSpace_eq_false_of_isVisible {c : UInt8} (h : isVisible c = true) : isSpace c = false := by
  simp only [isVisible, isSpace] at h ⊢
  grind

theorem isVisible_of_isTokenChar {c : UInt8} (h : isTokenChar c = true) : isVisible c = true :=
  (Bool.and_eq_true_iff.mp h).1

/-- There is no NUL before the body. -/
theorem ControlRequest.zero_notMem_head (request : ControlRequest) : 0 ∉ request.head := by
  have hvisible : ∀ c, isVisible c = true → c ≠ 0 := by
    rintro c hc rfl
    cases hc
  have hname : 0 ∉ request.name := fun h =>
    hvisible 0 (isVisible_of_isTokenChar (request.name_token 0 h)) rfl
  have hurl : 0 ∉ request.url := fun h => hvisible 0 (request.url_visible 0 h) rfl
  have hlines : ∀ lines ⊆ request.leading ++ request.trailing, 0 ∉ lines.flatMap (· ++ crlf) := by
    intro lines hlines h
    obtain ⟨line, hline, hmem⟩ := List.mem_flatMap.mp h
    rcases List.mem_append.mp hmem with hmem | hmem
    · exact (request.lines line (hlines hline)).1 hmem
    · exact absurd hmem (by decide)
  have hcseq : 0 ∉ request.cseqName := by
    intro h
    have hlower := List.mem_map_of_mem (f := toLower) h
    rw [request.cseqName_eq] at hlower
    exact absurd hlower (by decide)
  have hblanks : 0 ∉ request.blanks := by
    intro h
    rcases request.blanks_blank 0 h with h | h <;> exact absurd h (by decide)
  have hdigits : 0 ∉ request.digits := fun h => absurd (request.digits_digit 0 h) (by decide)
  have hleading := hlines request.leading (List.subset_append_left _ _)
  have htrailing := hlines request.trailing (List.subset_append_right _ _)
  have hcrlf : 0 ∉ crlf := by decide
  have hversion : 0 ∉ ascii " RTSP/1.0\r\n" := by decide
  have hcolon : 0 ∉ ascii ":" := by decide
  have hspace : (0 : UInt8) ≠ ' '.toUInt8 := by decide
  simp only [ControlRequest.head, ControlRequest.fromCseq, List.mem_append, List.mem_cons, not_or]
  exact ⟨⟨⟨⟨hname, hspace, hurl⟩, hversion⟩, hleading⟩,
    ⟨⟨⟨⟨⟨hcseq, hcolon⟩, hblanks⟩, hdigits⟩, hcrlf⟩, htrailing⟩, hcrlf⟩

/-- A name that is cut has more bytes than any method. -/
theorem methodOfName_take (name : List UInt8) :
    methodOfName (name.take 31) = methodOfName name := by
  by_cases hshort : name.length ≤ 31
  · rw [List.take_of_length_le hshort]
  · have hlong : ∀ {text : List UInt8}, 31 ≤ text.length → methodOfName text = .unknown := by
      intro text htext
      have hne : ∀ method : String, (ascii method).length < 31 → text ≠ ascii method := by
        rintro method hmethod rfl
        omega
      unfold methodOfName
      rw [if_neg (hne _ (by decide)), if_neg (hne _ (by decide)), if_neg (hne _ (by decide)),
        if_neg (hne _ (by decide)), if_neg (hne _ (by decide)), if_neg (hne _ (by decide))]
    rw [hlong (by rw [List.length_take]; omega), hlong (by omega)]

theorem mem_dropWhile {p : UInt8 → Bool} {c : UInt8} {text : List UInt8} (hmem : c ∈ text)
    (hc : p c = false) : c ∈ text.dropWhile p := by
  rw [← List.takeWhile_append_dropWhile (p := p) (l := text)] at hmem
  rcases List.mem_append.mp hmem with hmem | hmem
  · exact absurd (List.mem_takeWhile_imp hmem) (by simp [hc])
  · exact hmem

/-- The request line is found in front of anything. -/
theorem ControlRequest.requestLine_scan (request : ControlRequest) (rest : List UInt8) :
    ∃ url, requestLine.scan (request.head ++ rest) = some (request.name.take 31, url) := by
  obtain ⟨tail, htail⟩ : ∃ tail, request.head ++ rest =
      request.name ++ ' '.toUInt8 :: (request.url ++ tail) := by
    simp only [ControlRequest.head, List.append_assoc, List.cons_append]
    exact ⟨_, rfl⟩
  have hname : ∀ c ∈ request.name, isSpace c = false := fun c hc =>
    isSpace_eq_false_of_isVisible (isVisible_of_isTokenChar (request.name_token c hc))
  have hfirst := word_append (by decide : 0 < 31) request.name_ne hname
    (c := ' '.toUInt8) (by decide) (request.url ++ tail)
  -- The URL is behind the name, whether that has been cut or not.
  obtain ⟨c, hc⟩ := List.exists_mem_of_ne_nil _ request.url_ne
  have hvisible := isSpace_eq_false_of_isVisible (request.url_visible c hc)
  have hmem : c ∈ ((request.name ++ ' '.toUInt8 :: (request.url ++ tail)).drop
      (request.name.take 31).length).dropWhile isSpace := by
    have hlength : (request.name.take 31).length ≤ request.name.length := by
      rw [List.length_take]
      exact min_le_right _ _
    refine mem_dropWhile ?_ hvisible
    rw [List.drop_append_of_le_length hlength]
    simp [hc]
  obtain ⟨⟨url, left⟩, hsecond⟩ := Option.isSome_iff_exists.mp
    (word_isSome (by decide : 0 < 255) hmem hvisible)
  refine ⟨url, ?_⟩
  rw [htail, Scanner.scan]
  change Option.map Prod.fst ((word (some 31) _).bind fun r =>
    (space r.2).bind fun r' => (word (some 255) r'.2).bind fun r'' =>
      some ((r.1, r''.1), r''.2)) = _
  rw [hfirst, Option.bind_some, space, Option.bind_some, hsecond]
  rfl

/-- The number is found if the field is the first that is spelled so. -/
theorem ControlRequest.cseqHeader_scan (hplain : request.Plain) (rest : List UInt8) :
    (strstr (request.head ++ rest) (ascii "CSeq:")).bind cseqHeader.scan = some request.cseq := by
  have hstart := (strstr_eq_some hplain).1
  have hlength : request.cseqName.length = 4 := by
    rw [← List.length_map toLower, request.cseqName_eq]
    rfl
  have hname : request.cseqName = ascii "CSeq" := by
    have hfour := List.prefix_iff_eq_take.mp ((List.prefix_append (ascii "CSeq") (ascii ":")).trans
      hstart)
    have htake : request.fromCseq.take 4 = request.cseqName := by
      simp only [ControlRequest.fromCseq, List.append_assoc]
      rw [← hlength, List.take_left]
    exact htake.symm.trans hfour.symm
  obtain ⟨tail, htail⟩ : ∃ tail, request.fromCseq ++ rest =
      ascii "CSeq:" ++ (request.blanks ++ (request.digits ++ '\r'.toUInt8 :: tail)) := by
    simp only [ControlRequest.fromCseq, hname, List.append_assoc]
    exact ⟨_, rfl⟩
  have hblanks : (request.blanks ++ (request.digits ++ '\r'.toUInt8 :: tail)).dropWhile isSpace =
      request.digits ++ '\r'.toUInt8 :: tail := by
    rw [List.dropWhile_append_of_pos, dropWhile_isSpace_of_ne_nil request.digits_ne]
    · intro c hc
      exact isSpace_of_isDigit (request.digits_digit c hc)
    · intro c hc
      rcases request.blanks_blank c hc with rfl | rfl <;> decide
  have hint := int_append request.digits_ne request.digits_digit (c := '\r'.toUInt8) (by decide)
    tail
  rw [strstr_append hplain rest, Option.bind_some, htail, Scanner.scan]
  have hscan : ∀ text, cseqHeader text = (literal "CSeq:" text).bind fun r =>
      (space r.2).bind fun r' => int r'.2 := fun _ => rfl
  rw [hscan, literal, if_pos (List.prefix_append _ _), List.drop_left, Option.bind_some, space,
    hblanks, Option.bind_some, hint]
  rfl

/-- A request does not begin like a packet. -/
theorem ControlRequest.bytes_head (request : ControlRequest) (rest : List UInt8) :
    (request.bytes ++ rest).head? ≠ some '$'.toUInt8 := by
  obtain ⟨c, name, hname⟩ := List.exists_cons_of_ne_nil request.name_ne
  have hhead := request.name_head
  simpa [ControlRequest.bytes, ControlRequest.head, hname] using hhead

/-- The method and the number of a plain request are found, whatever follows it. -/
theorem ControlRequest.parseRtspRequest_eq (hplain : request.Plain) (rest : List UInt8) :
    ∃ parsed, parseRtspRequest (cString (request.bytes ++ rest)) = some parsed ∧
      parsed.text = cString (request.bytes ++ rest) ∧
      parsed.method = methodOfName request.name ∧ parsed.cseq = request.cseq := by
  rw [ControlRequest.bytes, List.append_assoc,
    cString_append_of_notMem request.zero_notMem_head]
  obtain ⟨url, hline⟩ := request.requestLine_scan (cString (request.body ++ rest))
  have hname : ¬ascii "RTSP/" <+: request.name.take 31 := by
    intro hbegins
    have hslash : '/'.toUInt8 ∈ request.name.take 31 := hbegins.mem (by decide)
    have htoken := request.name_token _ (List.mem_of_mem_take hslash)
    exact absurd htoken (by decide)
  have hcseq := request.cseqHeader_scan hplain (cString (request.body ++ rest))
  refine ⟨⟨request.head ++ cString (request.body ++ rest), methodOfName (request.name.take 31), url,
    request.cseq⟩, ?_, rfl, methodOfName_take request.name, rfl⟩
  unfold parseRtspRequest
  rw [hline, hcseq]
  exact if_neg hname

end Rtsp
