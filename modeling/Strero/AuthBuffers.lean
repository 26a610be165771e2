import Strero.AuthCredentials
import Strero.Lib.Slices

/-!
# The arrays behind the Authorization header

Three functions of fixed arrays are applied one after the other to what a client sends. Here every
store of theirs is checked against the size of its array, and `none` stands for one outside.
-/

namespace AuthUtils

open CString Slices

/-! ### The stores -/

/-- `strncpy(array, source, count); array[count] = '\0';`. Behind a shorter string the rest of the
`count` bytes is filled up with NULs. -/
def strncpyInto (size count : ℕ) (source : List UInt8) : Option (List UInt8) :=
  (appendWithin size ((source ++ List.replicate count 0).take count) []).bind
    (appendWithin size [0])

/-- The bytes that the loop of `auth_base64_decode` stores for a group. -/
def decodeGroupInto (size : ℕ) (tableAddress : UInt32) (a b c d : UInt8) (output : List UInt8) :
    Option (List UInt8) := do
  let triple := sextet tableAddress a <<< 18 + sextet tableAddress b <<< 12 +
    sextet tableAddress c <<< 6 + sextet tableAddress d
  let output ← appendWithin size [(triple >>> 16).toUInt8] output
  let output ← if c ≠ '='.toUInt8 then appendWithin size [(triple >>> 8).toUInt8] output
    else some output
  if d ≠ '='.toUInt8 then appendWithin size [triple.toUInt8] output else some output

/-- The loop of `auth_base64_decode`. -/
def decodeGroupsInto (size : ℕ) (tableAddress : UInt32) :
    List UInt8 → List UInt8 → Option (List UInt8)
  | a :: b :: c :: d :: rest, output =>
    (decodeGroupInto size tableAddress a b c d output).bind
      (decodeGroupsInto size tableAddress rest)
  | _, output => some output

/-- `auth_base64_decode` into an array of `size` bytes. -/
def authBase64DecodeInto (size : ℕ) (tableAddress : UInt32) (input : List UInt8) :
    Option (Option (List UInt8)) :=
  if input.length % 4 ≠ 0 then some none
  else (decodeGroupsInto size tableAddress input []).map some

/-- The parts of the decoded string around the first colon, in arrays of 64 bytes. -/
def splitCredentialsInto (decoded : List UInt8) : Option (Option (List UInt8 × List UInt8)) :=
  match strchr (cString decoded) ':'.toUInt8 with
  | none => some none
  | some colon => do
    let username ← strncpyInto 64 63 (between (cString decoded) colon)
    let password ← strncpyInto 64 63 (colon.drop 1)
    some (some (username, password))

/-- `auth_parse_basic_header`, with the arrays for the username and the password. -/
def authParseBasicHeaderInto (tableAddress : UInt32) (authHeader : List UInt8) :
    Option (Option (List UInt8 × List UInt8)) :=
  if !(ascii "Basic ").isPrefixOf authHeader then some none
  else do
    match ← authBase64DecodeInto 128 tableAddress (authHeader.drop 6) with
    | none => some none
    | some decoded => (appendWithin 128 [0] decoded).bind splitCredentialsInto

/-- `extract_auth_header`, with the copy that is cut to the array. -/
def extractAuthHeaderInto (request : List UInt8) : Option (Option (List UInt8)) :=
  match (strstr request (ascii "Authorization:")).orElse fun _ =>
      strstr request (ascii "authorization:") with
  | none => some none
  | some line =>
    let value := (line.drop 14).dropWhile (· = ' '.toUInt8)
    match (strstr value (ascii "\r\n")).orElse fun _ => strstr value (ascii "\n") with
    | none => some (some value)
    | some stop =>
      let length := (between value stop).length
      let length := if 256 ≤ length then 255 else length
      (strncpyInto 256 length value).map fun array => some (array.take length)

/-- The header of a request, as far as its credentials. -/
def parseRequestInto (tableAddress : UInt32) (request : List UInt8) :
    Option (Option (List UInt8 × List UInt8)) := do
  match ← extractAuthHeaderInto request with
  | none => some none
  | some header => authParseBasicHeaderInto tableAddress header

/-- Nothing is stored outside an array. -/
def StaysInside (tableAddress : UInt32) (request : List UInt8) : Prop :=
  (parseRequestInto tableAddress request).isSome = true

instance (tableAddress : UInt32) (request : List UInt8) :
    Decidable (StaysInside tableAddress request) :=
  inferInstanceAs (Decidable (_ = true))

/-! ### What the stores come to -/

/-- A copy with room for its terminator. -/
theorem strncpyInto_eq {size count : ℕ} (h : count < size) (source : List UInt8) :
    strncpyInto size count source =
      some ((source ++ List.replicate count 0).take count ++ [0]) := by
  have hlength : ((source ++ List.replicate count 0).take count).length = count := by
    rw [List.length_take, List.length_append, List.length_replicate]
    omega
  rw [strncpyInto, appendWithin_bind, appendWithin_eq_some]
  refine ⟨?_, rfl⟩
  rw [List.length_append, hlength, List.length_nil, List.length_singleton]
  omega

/-- The string in the array is what `strncpy` leaves there. -/
theorem cString_strncpyInto {source : List UInt8} (hzero : 0 ∉ source) (count : ℕ) :
    cString ((source ++ List.replicate count 0).take count ++ [0]) =
      strncpy (count + 1) source := by
  have hfront : 0 ∉ source.take count := fun hmem => hzero (List.mem_of_mem_take hmem)
  rw [List.take_append, List.append_assoc, cString_append_of_notMem hfront, strncpy,
    cString_of_notMem hzero, Nat.add_sub_cancel]
  have hzeros : cString ((List.replicate count 0).take (count - source.length) ++ [0]) = [] := by
    rw [List.take_replicate]
    cases min (count - source.length) count <;> rfl
  rw [hzeros, List.append_nil]

/-- The bytes of a group are stored if there is room for them. -/
theorem decodeGroupInto_eq (size : ℕ) (tableAddress : UInt32) (a b c d : UInt8)
    (output : List UInt8) :
    decodeGroupInto size tableAddress a b c d output =
      appendWithin size (decodeGroup tableAddress a b c d) output := by
  unfold decodeGroupInto decodeGroup
  dsimp only
  rw [List.append_assoc, ← appendWithin_bind]
  by_cases hc : c ≠ '='.toUInt8 <;> by_cases hd : d ≠ '='.toUInt8
  · simp only [if_pos hc, if_pos hd, ← appendWithin_bind, Option.bind_eq_bind]
  · simp only [if_pos hc, if_neg hd, List.append_nil, Option.bind_eq_bind, Option.bind_fun_some]
  · simp only [if_neg hc, if_pos hd, List.nil_append, Option.bind_eq_bind, Option.bind_some]
  · simp only [if_neg hc, if_neg hd, Option.bind_eq_bind, Option.bind_fun_some, appendWithin_bind,
      List.append_nil]

/-- So are the bytes of all groups. -/
theorem decodeGroupsInto_eq {size : ℕ} (tableAddress : UInt32) (input : List UInt8)
    {output : List UInt8} (h : output.length ≤ size) :
    decodeGroupsInto size tableAddress input output =
      appendWithin size (decodeGroups tableAddress input) output := by
  fun_induction decodeGroups tableAddress input generalizing output with
  | case1 a b c d rest ih =>
    rw [decodeGroupsInto, decodeGroupInto_eq, ← appendWithin_bind]
    cases hgroup : appendWithin size (decodeGroup tableAddress a b c d) output with
    | none => rfl
    | some next =>
      obtain ⟨hfits, rfl⟩ := appendWithin_eq_some.mp hgroup
      exact ih (by rwa [List.length_append])
  | case2 input hshort =>
    have hend : decodeGroupsInto size tableAddress input output = some output := by
      unfold decodeGroupsInto
      split
      · exact absurd rfl (hshort _ _ _ _ _)
      · rfl
    rw [hend, eq_comm, appendWithin_eq_some, List.append_nil]
    exact ⟨h, rfl⟩

/-- The two copies of 63 bytes fit, whatever is decoded. -/
theorem splitCredentialsInto_eq (decoded : List UInt8) :
    (splitCredentialsInto (decoded ++ [0])).map
        (Option.map fun arrays => (cString arrays.1, cString arrays.2)) =
      some ((strchr (cString decoded) ':'.toUInt8).map fun colon =>
        (strncpy 64 (between (cString decoded) colon), strncpy 64 (colon.drop 1))) := by
  have hzero := zero_notMem_cString decoded
  rw [splitCredentialsInto, cString_append_zero]
  cases hfound : strchr (cString decoded) ':'.toUInt8 with
  | none => rfl
  | some colon =>
    obtain ⟨username, password, hsplit, -, rfl⟩ := exists_of_strchr hfound
    rw [hsplit, List.mem_append, List.mem_cons, not_or, not_or] at hzero
    dsimp only
    rw [hsplit, between_append, strncpyInto_eq (by decide), strncpyInto_eq (by decide)]
    simp only [List.drop_succ_cons, List.drop_zero, Option.bind_eq_bind, Option.bind_some,
      Option.map_some, cString_strncpyInto hzero.1, cString_strncpyInto hzero.2.2, between_append]

/-- The checked functions store outside the array of decoded bytes exactly where the unchecked
one says so, and otherwise have the same strings in their arrays. -/
theorem authParseBasicHeaderInto_eq (tableAddress : UInt32) (header : List UInt8) :
    (authParseBasicHeaderInto tableAddress header).map
        (Option.map fun arrays => (cString arrays.1, cString arrays.2)) =
      match authParseBasicHeader tableAddress header with
      | .overflow => none
      | .failed => some none
      | .credentials username password => some (some (username.bytes, password.bytes)) := by
  by_cases hbasic : ∀ text, header = ascii "Basic " ++ text → text.length % 4 ≠ 0
  · rw [authParseBasicHeader_failed hbasic]
    unfold authParseBasicHeaderInto
    split_ifs with hstart
    · rfl
    · rw [Bool.not_eq_true', Bool.not_eq_false, List.isPrefixOf_iff_prefix] at hstart
      obtain ⟨text, rfl⟩ := hstart
      have hdrop : (ascii "Basic " ++ text).drop 6 = text := rfl
      rw [hdrop, authBase64DecodeInto, if_pos (hbasic text rfl)]
      rfl
  · push Not at hbasic
    obtain ⟨text, rfl, hlength⟩ := hbasic
    have hstart : (ascii "Basic ").isPrefixOf (ascii "Basic " ++ text) = true :=
      List.isPrefixOf_iff_prefix.mpr (List.prefix_append _ _)
    have hdrop : (ascii "Basic " ++ text).drop 6 = text := rfl
    rw [authParseBasicHeader_basic hlength, authParseBasicHeaderInto, hstart, hdrop,
      authBase64DecodeInto, if_neg (not_not.mpr hlength),
      decodeGroupsInto_eq tableAddress text (Nat.zero_le 128)]
    have hchecked : (do
        match ← (appendWithin 128 (decodeGroups tableAddress text) []).map some with
        | none => some none
        | some decoded => (appendWithin 128 [0] decoded).bind splitCredentialsInto) =
          (appendWithin 128 (decodeGroups tableAddress text ++ [0]) []).bind
            splitCredentialsInto := by
      rw [← appendWithin_bind, Option.bind_assoc]
      cases appendWithin 128 (decodeGroups tableAddress text) [] <;> rfl
    rw [Bool.not_true, if_neg Bool.false_ne_true, hchecked]
    have hroom : (decodeGroups tableAddress text ++ [0]).length =
        (decodeGroups tableAddress text).length + 1 := List.length_append
    unfold appendWithin
    rw [hroom, List.length_nil, List.nil_append]
    split_ifs with hfits hlong
    · omega
    · rw [Option.bind_some, splitCredentialsInto_eq]
      cases strchr (cString (decodeGroups tableAddress text)) ':'.toUInt8 <;> rfl
    · rfl
    · omega

/-- The copy of the header is cut to its array. -/
theorem extractAuthHeaderInto_eq (request : List UInt8) :
    extractAuthHeaderInto request = some (extractAuthHeader request) := by
  unfold extractAuthHeaderInto extractAuthHeader
  cases (strstr request (ascii "Authorization:")).orElse fun _ =>
      strstr request (ascii "authorization:") with
  | none => rfl
  | some line =>
    dsimp only [Option.bind_eq_bind, Option.bind_some]
    generalize (line.drop 14).dropWhile (· = ' '.toUInt8) = value
    cases (strstr value (ascii "\r\n")).orElse fun _ => strstr value (ascii "\n") with
    | none => rfl
    | some stop =>
      dsimp only
      have hcut : (if 256 ≤ (between value stop).length then 255 else (between value stop).length)
          = min (between value stop).length 255 := by
        split_ifs <;> omega
      have hlength : (between value stop).length = value.length - stop.length := by
        rw [between, List.length_take]
        omega
      rw [hcut, strncpyInto_eq (by omega), Option.map_some, hlength, between, List.take_take,
        List.take_append_of_le_length (by rw [List.length_take, List.length_append]; omega),
        List.take_take, Nat.min_self, List.take_append_of_le_length (by omega), Nat.min_comm]

/-! ### How much is decoded -/

/-- The padding characters at the third and fourth places of the groups, for which no byte is
stored. -/
def paddings : List UInt8 → ℕ
  | _ :: _ :: c :: d :: rest =>
    (if c = '='.toUInt8 then 1 else 0) + (if d = '='.toUInt8 then 1 else 0) + paddings rest
  | _ => 0

/-- Every group gives three bytes but for its padding. -/
theorem length_decodeGroups (tableAddress : UInt32) (text : List UInt8) :
    (decodeGroups tableAddress text).length + paddings text = 3 * (text.length / 4) := by
  fun_induction paddings text with
  | case1 a b c d rest ih =>
    have hgroup : (decodeGroup tableAddress a b c d).length +
        ((if c = '='.toUInt8 then 1 else 0) + (if d = '='.toUInt8 then 1 else 0)) = 3 := by
      unfold decodeGroup
      by_cases hc : c = '='.toUInt8 <;> by_cases hd : d = '='.toUInt8 <;> simp [hc, hd]
    have hlength : (a :: b :: c :: d :: rest).length / 4 = rest.length / 4 + 1 := by
      simp only [List.length_cons]
      omega
    rw [decodeGroups, List.length_append, hlength]
    omega
  | case2 text hshort =>
    rcases text with _ | ⟨a, _ | ⟨b, _ | ⟨c, _ | ⟨d, rest⟩⟩⟩⟩
    case cons.cons.cons.cons => exact absurd rfl (hshort a b c d rest)
    all_goals simp [decodeGroups]

/-! ### The header of a request -/

/-- The line of the header, in the spelling that is looked for first if there is one. -/
def HeaderLine (request line : List UInt8) : Prop :=
  strstr request (ascii "Authorization:") = some line ∨
    strstr request (ascii "Authorization:") = none ∧
      strstr request (ascii "authorization:") = some line

/-- The value at the beginning of a text: up to the first line end of the one kind, else of the
other, and cut to 255 bytes, or all of the text. -/
inductive LineValue : List UInt8 → List UInt8 → Prop
  | crlf (value rest : List UInt8) (h : ¬ascii "\r\n" <:+: value) :
    LineValue (value ++ ascii "\r\n" ++ rest) (value.take 255)
  | newline (value rest : List UInt8) (h : ¬ascii "\r\n" <:+: value ++ ascii "\n" ++ rest)
      (hvalue : '\n'.toUInt8 ∉ value) :
    LineValue (value ++ ascii "\n" ++ rest) (value.take 255)
  | whole (text : List UInt8) (h : '\n'.toUInt8 ∉ text) : LineValue text text

/-- The value of the header is what is behind its name and the blanks. -/
def HeaderValue (request value : List UInt8) : Prop :=
  ∃ line, HeaderLine request line ∧ LineValue ((line.drop 14).dropWhile (· = ' '.toUInt8)) value

/-- Every text begins with one value. -/
theorem lineValue_iff {text value : List UInt8} : LineValue text value ↔
    (match (strstr text (ascii "\r\n")).orElse fun _ => strstr text (ascii "\n") with
      | none => text
      | some stop => (between text stop).take 255) = value := by
  constructor
  · intro h
    cases h with
    | crlf value rest h =>
      have hstop : strstr (value ++ ascii "\r\n" ++ rest) (ascii "\r\n") =
          some (ascii "\r\n" ++ rest) := by
        rw [List.append_assoc]
        exact (strstr_append_cons _ (by decide) (strstr_eq_none_iff.mpr h)).trans
          (strstr_of_begins (List.prefix_append _ _))
      rw [hstop, List.append_assoc]
      dsimp only [Option.orElse_some]
      rw [between_append]
    | newline value rest h hvalue =>
      have hnone : strstr value (ascii "\n") = none :=
        strstr_eq_none_iff.mpr fun hoccurs => hvalue (hoccurs.subset List.mem_cons_self)
      have hstop : strstr (value ++ ascii "\n" ++ rest) (ascii "\n") =
          some (ascii "\n" ++ rest) := by
        rw [List.append_assoc]
        exact (strstr_append_cons _ (by decide) hnone).trans
          (strstr_of_begins (List.prefix_append _ _))
      rw [strstr_eq_none_iff.mpr h, hstop, List.append_assoc]
      dsimp only [Option.orElse_none]
      rw [between_append]
    | whole _ h =>
      have hcrlf : strstr text (ascii "\r\n") = none :=
        strstr_eq_none_iff.mpr fun hoccurs =>
          h (hoccurs.subset (List.mem_cons_of_mem _ List.mem_cons_self))
      have hnewline : strstr text (ascii "\n") = none :=
        strstr_eq_none_iff.mpr fun hoccurs => h (hoccurs.subset List.mem_cons_self)
      rw [hcrlf, hnewline]
      rfl
  · rintro rfl
    cases hcrlf : strstr text (ascii "\r\n") with
    | some stop =>
      obtain ⟨value, rest, rfl, rfl, hfirst⟩ := exists_of_strstr (by decide) hcrlf
      dsimp only [Option.orElse_some]
      rw [List.append_assoc, between_append, ← List.append_assoc]
      exact .crlf value rest hfirst
    | none =>
      dsimp only [Option.orElse_none]
      cases hnewline : strstr text (ascii "\n") with
      | some stop =>
        obtain ⟨value, rest, rfl, rfl, hfirst⟩ := exists_of_strstr (by decide) hnewline
        dsimp only
        rw [List.append_assoc, between_append, ← List.append_assoc]
        refine .newline value rest (strstr_eq_none_iff.mp hcrlf) fun hmem => hfirst ?_
        obtain ⟨left, right, rfl⟩ := List.append_of_mem hmem
        exact ⟨left, right, by rw [List.append_assoc]; rfl⟩
      | none =>
        refine .whole text fun hmem => strstr_eq_none_iff.mp hnewline ?_
        obtain ⟨left, right, rfl⟩ := List.append_of_mem hmem
        exact ⟨left, right, by rw [List.append_assoc]; rfl⟩

/-- The code takes this value. -/
theorem extractAuthHeader_eq_some_iff {request value : List UInt8} :
    extractAuthHeader request = some value ↔ HeaderValue request value := by
  have hlines (line : List UInt8) : (strstr request (ascii "Authorization:")).orElse (fun _ =>
      strstr request (ascii "authorization:")) = some line ↔ HeaderLine request line := by
    unfold HeaderLine
    cases strstr request (ascii "Authorization:") <;> simp
  unfold HeaderValue extractAuthHeader
  rw [Option.bind_eq_bind, Option.bind_eq_some_iff]
  refine exists_congr fun line => and_congr (hlines line) ?_
  rw [lineValue_iff]
  dsimp only
  generalize (line.drop 14).dropWhile (· = ' '.toUInt8) = text
  cases (strstr text (ascii "\r\n")).orElse fun _ => strstr text (ascii "\n") <;>
    exact Option.some_inj

/-! ### Which requests keep to the arrays -/

/-- The base64 of the request is not too long for the array of decoded bytes: what its groups
give, three bytes each but for the padding, leaves room for the terminator. -/
def RequestFits (request : List UInt8) : Prop :=
  ∀ text, HeaderValue request (ascii "Basic " ++ text) → text.length % 4 = 0 →
    3 * (text.length / 4) < 128 + paddings text

/-- Only too many decoded bytes are stored outside. -/
theorem authParseBasicHeader_eq_overflow {tableAddress : UInt32} {header : List UInt8} :
    authParseBasicHeader tableAddress header = .overflow ↔
      ∃ text, header = ascii "Basic " ++ text ∧ text.length % 4 = 0 ∧
        128 + paddings text ≤ 3 * (text.length / 4) := by
  constructor
  · intro h
    obtain ⟨text, rfl, hlength, hroom⟩ := exists_of_overflow h
    have hcount := length_decodeGroups tableAddress text
    exact ⟨text, rfl, hlength, by omega⟩
  · rintro ⟨text, rfl, hlength, hroom⟩
    have hcount := length_decodeGroups tableAddress text
    rw [authParseBasicHeader_basic hlength, if_pos (by omega)]

/-- A request is handled within the arrays exactly if its base64 is short enough. -/
theorem staysInside_iff (tableAddress : UInt32) (request : List UInt8) :
    StaysInside tableAddress request ↔ RequestFits request := by
  have hparsed (header : List UInt8) :
      (authParseBasicHeaderInto tableAddress header).isSome = true ↔
        authParseBasicHeader tableAddress header ≠ .overflow := by
    rw [← Option.isSome_map, authParseBasicHeaderInto_eq]
    cases authParseBasicHeader tableAddress header <;> simp
  have hinside : StaysInside tableAddress request ↔ ∀ header,
      HeaderValue request header → authParseBasicHeader tableAddress header ≠ .overflow := by
    unfold StaysInside parseRequestInto
    rw [extractAuthHeaderInto_eq, Option.bind_eq_bind, Option.bind_some]
    simp only [← extractAuthHeader_eq_some_iff]
    cases extractAuthHeader request with
    | none => simp
    | some header => simp [hparsed]
  rw [hinside]
  constructor
  · intro h text hvalue hlength
    by_contra hroom
    exact h _ hvalue (authParseBasicHeader_eq_overflow.mpr ⟨text, rfl, hlength, by omega⟩)
  · intro h header hvalue hoverflow
    obtain ⟨text, rfl, hlength, hroom⟩ := authParseBasicHeader_eq_overflow.mp hoverflow
    have hfits := h text hvalue hlength
    omega

/-- Without padding 176 characters are too many. -/
theorem not_staysInside_long :
    ¬∀ (tableAddress : UInt32) (request : List UInt8), request.length ≤ 8191 →
      StaysInside tableAddress request := by
  intro h
  have hinside := h 0 (ascii "GET / HTTP/1.1\r\nAuthorization: Basic " ++
    List.replicate 176 'A'.toUInt8 ++ ascii "\r\n\r\n") (by decide +kernel)
  exact absurd hinside (by decide +kernel)

end AuthUtils
