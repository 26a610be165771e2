import Strero.Lib.Decimal
import Strero.RtmpClient.Targets

/-!
# The URLs of the targets

`rtmp_client_parse_url` takes a URL apart at its separators and copies the parts into arrays
of 256 bytes. A URL has up to 511 bytes, and nothing is known of the text of its port.
-/

namespace RtmpClient.Targets

open CString Scanf

/-! ### URLs and their parts -/

/-- The scheme of a URL. -/
def scheme (useTls : Bool) : List UInt8 := if useTls then ascii "rtmps://" else ascii "rtmp://"

/-- A URL taken apart at its separators. The text of the port and the stream may be missing. -/
structure UrlParts where
  useTls : Bool
  host : List UInt8
  port : Option (List UInt8)
  app : List UInt8
  stream : Option (List UInt8)
  colon_notMem_host : ':'.toUInt8 ∉ host
  slash_notMem_host : '/'.toUInt8 ∉ host
  slash_notMem_port : ∀ text ∈ port, '/'.toUInt8 ∉ text
  slash_notMem_app : '/'.toUInt8 ∉ app

/-- A part with the separator in front of it. -/
def separated (separator : Char) (part : Option (List UInt8)) : List UInt8 :=
  part.elim [] (separator.toUInt8 :: ·)

/-- `host[:port]`. -/
def UrlParts.hostPort (parts : UrlParts) : List UInt8 := parts.host ++ separated ':' parts.port

/-- `app[/stream]`. -/
def UrlParts.path (parts : UrlParts) : List UInt8 := parts.app ++ separated '/' parts.stream

/-- `rtmp://host[:port]/app[/stream]`, or the same with `rtmps`. -/
def UrlParts.text (parts : UrlParts) : List UInt8 :=
  scheme parts.useTls ++ (parts.hostPort ++ '/'.toUInt8 :: parts.path)

/-- The port without one in the URL. -/
def defaultPort (useTls : Bool) : ℤ := if useTls then 443 else 1935

/-- What the function returns for the parts. -/
def UrlParts.address (parts : UrlParts) : Address where
  host := parts.host
  port := parts.port.elim (defaultPort parts.useTls) atoi
  app := parts.app
  stream := parts.stream.getD []
  useTls := parts.useTls

/-- Every part fits into its array. -/
def UrlParts.Fits (parts : UrlParts) : Prop :=
  parts.hostPort.length < 256 ∧ parts.app.length < 256 ∧ (parts.stream.getD []).length < 256

instance (parts : UrlParts) : Decidable parts.Fits := inferInstanceAs (Decidable (_ ∧ _))

/-! ### Taking a URL apart -/

theorem UrlParts.slash_notMem_hostPort (parts : UrlParts) : '/'.toUInt8 ∉ parts.hostPort := by
  unfold UrlParts.hostPort separated
  cases hport : parts.port with
  | none => simpa using parts.slash_notMem_host
  | some text =>
    rw [List.mem_append, Option.elim_some, List.mem_cons]
    rintro (hhost | hcolon | htext)
    · exact parts.slash_notMem_host hhost
    · exact absurd hcolon (by decide)
    · exact parts.slash_notMem_port text hport htext

/-- The scheme is found. -/
theorem splitScheme_scheme (useTls : Bool) (rest : List UInt8) :
    splitScheme (scheme useTls ++ rest) = some (rest, useTls) := by
  cases useTls with
  | false =>
    rw [splitScheme, scheme, if_neg Bool.false_ne_true, if_pos (List.prefix_append _ _)]
    rfl
  | true =>
    have hother : ¬ascii "rtmp://" <+: scheme true ++ rest := by
      intro h
      have hshort := List.prefix_of_prefix_length_le h (List.prefix_append _ _) (by decide)
      exact absurd hshort (by decide)
    rw [splitScheme, if_neg hother, scheme, if_pos rfl, if_pos (List.prefix_append _ _)]
    rfl

/-- Only the two schemes are accepted. -/
theorem splitScheme_eq_some {url rest : List UInt8} {useTls : Bool}
    (h : splitScheme url = some (rest, useTls)) : url = scheme useTls ++ rest := by
  unfold splitScheme at h
  split_ifs at h with hplain htls
  · obtain ⟨rfl, rfl⟩ := Prod.mk.inj (Option.some.inj h)
    obtain ⟨tail, rfl⟩ := hplain
    rfl
  · obtain ⟨rfl, rfl⟩ := Prod.mk.inj (Option.some.inj h)
    obtain ⟨tail, rfl⟩ := htls
    rfl

/-- A text without one of its bytes in front of the first such byte. -/
theorem exists_separated (separator : Char) (text : List UInt8) :
    ∃ front part, text = front ++ separated separator part ∧ separator.toUInt8 ∉ front := by
  by_cases hmem : separator.toUInt8 ∈ text
  · obtain ⟨front, rest, htext, hfront⟩ := List.eq_append_cons_of_mem hmem
    exact ⟨front, some rest, htext, hfront⟩
  · exact ⟨text, none, (List.append_nil text).symm, hmem⟩

/-- The separator is found if a part is there. -/
theorem strchr_separated {separator : Char} {front : List UInt8}
    (h : separator.toUInt8 ∉ front) (part : Option (List UInt8)) :
    strchr (front ++ separated separator part) separator.toUInt8 =
      part.map (separator.toUInt8 :: ·) := by
  cases part with
  | none => rw [separated, Option.elim_none, List.append_nil, strchr_eq_none h]; rfl
  | some part => exact strchr_append h part

/-- A URL is rejected or has its parts. -/
theorem rejected_or_parts (url : List UInt8) :
    rtmpClientParseUrl url = .rejected ∨ ∃ parts : UrlParts, url = parts.text := by
  unfold rtmpClientParseUrl
  cases hscheme : splitScheme url with
  | none => exact .inl rfl
  | some r =>
    obtain ⟨urlPart, useTls⟩ := r
    by_cases hslash : '/'.toUInt8 ∈ urlPart
    · refine .inr ?_
      obtain ⟨hostPort, path, rfl, hhostPort⟩ := List.eq_append_cons_of_mem hslash
      obtain ⟨host, port, rfl, hhost⟩ := exists_separated ':' hostPort
      obtain ⟨app, stream, rfl, happ⟩ := exists_separated '/' path
      rw [List.mem_append, not_or] at hhostPort
      refine ⟨⟨useTls, host, port, app, stream, hhost, hhostPort.1, ?_, happ⟩,
        splitScheme_eq_some hscheme⟩
      rintro text rfl hmem
      exact hhostPort.2 (List.mem_cons_of_mem _ hmem)
    · left
      dsimp only
      rw [strchr_eq_none hslash]

/-- The parts are found again, and written past an array unless they fit. -/
theorem rtmpClientParseUrl_text (parts : UrlParts) :
    rtmpClientParseUrl parts.text = if parts.Fits then .parsed parts.address else .overrun := by
  have hslash := strchr_append parts.slash_notMem_hostPort parts.path
  unfold rtmpClientParseUrl UrlParts.text
  rw [splitScheme_scheme]
  dsimp only
  rw [hslash]
  simp only [between_append, List.drop_one, List.tail_cons]
  have hpath : parts.path = parts.app ++ separated '/' parts.stream := rfl
  have hhost : parts.hostPort = parts.host ++ separated ':' parts.port := rfl
  rw [hpath, hhost, strchr_separated parts.slash_notMem_app,
    strchr_separated parts.colon_notMem_host]
  obtain ⟨useTls, host, port, app, stream⟩ := parts
  unfold UrlParts.Fits UrlParts.address UrlParts.hostPort
  cases port with
  | none => cases stream <;> simp [separated, defaultPort]
  | some port => cases stream <;> simp [separated]

/-! ### Reassembling -/

/-- The components make up the URL: a port that is missing is the default, and a stream that is
missing is empty. -/
def Address.Reassembles (address : Address) (url : List UInt8) : Prop :=
  ∃ port stream, url = scheme address.useTls ++ address.host ++ separated ':' port ++
      '/'.toUInt8 :: (address.app ++ separated '/' stream) ∧
    (port = none ∧ address.port = defaultPort address.useTls ∨
      port = some (printInt address.port)) ∧
    address.stream = stream.getD []

/-- A URL is rejected, or nothing is written past an array and the components are those of the
URL, with a host without separators and a proper port. -/
def ParsedUrl.Faithful (url : List UInt8) : ParsedUrl → Prop
  | .rejected => True
  | .overrun => False
  | .parsed address => address.Reassembles url ∧ ':'.toUInt8 ∉ address.host ∧
      '/'.toUInt8 ∉ address.host ∧ 1 ≤ address.port ∧ address.port ≤ 65535

/-- The text of the port is the numeral of a port. -/
def UrlParts.ProperPort (parts : UrlParts) : Prop :=
  ∀ text ∈ parts.port, ∃ n : ℕ, 1 ≤ n ∧ n ≤ 65535 ∧ text = digits n

/-- A numeral is read as its number. -/
theorem atoi_digits (n : ℕ) : atoi (digits n) = n := by
  have hends : EndsNumber [] := fun c hc => nomatch hc
  have hread := int_digits (digits_ne_nil n) (fun _ => isDigit_of_mem_digits) hends
  rw [List.append_nil] at hread
  rw [atoi, Scanner.scan, hread, decimal_digits]
  rfl

theorem slash_notMem_digits (n : ℕ) : '/'.toUInt8 ∉ digits n := fun h =>
  absurd (isDigit_of_mem_digits h) (by decide)

/-- The parts of a URL with a proper port are reassembled. -/
theorem UrlParts.reassembles (parts : UrlParts) (h : parts.ProperPort) :
    parts.address.Reassembles parts.text ∧ 1 ≤ parts.address.port ∧
      parts.address.port ≤ 65535 := by
  unfold Address.Reassembles UrlParts.text UrlParts.hostPort UrlParts.path UrlParts.address
  dsimp only
  cases hport : parts.port with
  | none =>
    refine ⟨⟨none, parts.stream, by simp, .inl ⟨rfl, rfl⟩, rfl⟩, ?_⟩
    rw [Option.elim_none, defaultPort]
    split_ifs <;> omega
  | some text =>
    obtain ⟨n, hlow, hhigh, rfl⟩ := h text hport
    rw [Option.elim_some, atoi_digits]
    refine ⟨⟨some (digits n), parts.stream, by simp, .inr ?_, rfl⟩, by omega, by omega⟩
    rw [printInt_natCast]

/-- And only those. -/
theorem UrlParts.properPort (parts : UrlParts) (h : parts.address.Reassembles parts.text)
    (hlow : 1 ≤ parts.address.port) (hhigh : parts.address.port ≤ 65535) :
    parts.ProperPort := by
  intro text htext
  obtain ⟨port, stream, hurl, hport, -⟩ := h
  obtain ⟨n, hn⟩ := Int.eq_ofNat_of_zero_le (show 0 ≤ parts.address.port by omega)
  refine ⟨n, by omega, by omega, ?_⟩
  rw [UrlParts.text, UrlParts.hostPort, htext] at hurl
  change scheme parts.useTls ++ (parts.host ++ _ ++ _) =
    scheme parts.useTls ++ parts.host ++ _ ++ _ at hurl
  simp only [List.append_assoc, List.append_cancel_left_eq] at hurl
  rcases hport with ⟨rfl, -⟩ | rfl
  · exact absurd (List.cons.inj hurl).1 (by decide)
  · rw [hn, printInt_natCast] at hurl
    have hrest : text ++ '/'.toUInt8 :: parts.path =
        digits n ++ '/'.toUInt8 :: (parts.address.app ++ separated '/' stream) :=
      (List.cons.inj hurl).2
    have hfound := strchr_append (parts.slash_notMem_port text htext) parts.path
    rw [hrest, strchr_append (slash_notMem_digits n)] at hfound
    rw [Option.some.inj hfound] at hrest
    exact List.append_cancel_right hrest

/-- What is done with a URL is faithful exactly if each of its parts fits, and the port, if there
is one, is the numeral of a port. -/
theorem rtmpClientParseUrl_faithful_iff (url : FixedString 512) :
    (rtmpClientParseUrl url.bytes).Faithful url.bytes ↔
      ∀ parts : UrlParts, url.bytes = parts.text → parts.Fits ∧ parts.ProperPort := by
  constructor
  · intro h parts hparts
    rw [hparts, rtmpClientParseUrl_text] at h
    split_ifs at h with hfits
    · obtain ⟨hreassembles, -, -, hlow, hhigh⟩ := h
      exact ⟨hfits, parts.properPort hreassembles hlow hhigh⟩
    · exact h.elim
  · intro h
    rcases rejected_or_parts url.bytes with hrejected | ⟨parts, hparts⟩
    · rw [hrejected]
      trivial
    · obtain ⟨hfits, hport⟩ := h parts hparts
      obtain ⟨hreassembles, hlow, hhigh⟩ := parts.reassembles hport
      rw [hparts, rtmpClientParseUrl_text, if_pos hfits]
      exact ⟨hreassembles, parts.colon_notMem_host, parts.slash_notMem_host, hlow, hhigh⟩

/-- A URL whose application has 256 bytes. -/
def longAppUrl : FixedString 512 :=
  ⟨ascii "rtmp://a/" ++ List.replicate 256 'b'.toUInt8, by decide +kernel, by decide +kernel⟩

/-- Its application is written past the array, and the port of another is 0. -/
theorem not_rtmpClientParseUrl_faithful :
    ¬(rtmpClientParseUrl longAppUrl.bytes).Faithful longAppUrl.bytes ∧
      ¬(rtmpClientParseUrl (ascii "rtmp://example.com:/live")).Faithful
        (ascii "rtmp://example.com:/live") := by
  have hover : rtmpClientParseUrl longAppUrl.bytes = .overrun := by decide +kernel
  have hzero : rtmpClientParseUrl (ascii "rtmp://example.com:/live") =
      .parsed ⟨ascii "example.com", 0, ascii "live", [], false⟩ := by decide +kernel
  rw [hover, hzero]
  exact ⟨id, fun h => absurd h.2.2.2.1 (by decide)⟩

end RtmpClient.Targets
