import Strero.Rtsp.ServerThread

/-!
# URLs of streams

DESCRIBE shows the stream that a URL names, with a control attribute, and SETUP is sent to the
URL joined with that attribute. Both look for a stream name in their URL, and SETUP cuts it at
the first text that looks like a track. This file says when the two agree.
-/

namespace Rtsp

open CString Scanf

/-! ### Paths -/

/-- The path behind a host. -/
def pathBehindHost (text : List UInt8) : Option (List UInt8) :=
  match text.takeWhile (· ≠ '/'.toUInt8), text.dropWhile (· ≠ '/'.toUInt8) with
  | _ :: _, _ :: c :: path => some (c :: path)
  | _, _ => none

/-- The path behind a slash at the start. -/
def pathBehindSlash : List UInt8 → Option (List UInt8)
  | b :: c :: path => if b = '/'.toUInt8 then some (c :: path) else none
  | _ => none

/-- The path of a URL, if it has one that is not empty. -/
def urlPath (url : List UInt8) : Option (List UInt8) :=
  if ascii "rtsp://" <+: url then pathBehindHost (url.drop 7)
  else if ascii "rtsps://" <+: url then pathBehindHost (url.drop 8)
  else pathBehindSlash url

/-- What stands in front of the slash before a path: nothing, or a scheme and a host. -/
def IsBase (base : List UInt8) : Prop :=
  base = [] ∨ ∃ host, host ≠ [] ∧ '/'.toUInt8 ∉ host ∧
    (base = ascii "rtsp://" ++ host ∨ base = ascii "rtsps://" ++ host)

/-- The text from the first byte of a kind on begins with that byte. -/
theorem eq_of_dropWhile_ne {text rest : List UInt8} {b c : UInt8}
    (h : text.dropWhile (· ≠ c) = b :: rest) : b = c := by
  have hne : text.dropWhile (· ≠ c) ≠ [] := by
    rw [h]
    exact List.cons_ne_nil _ _
  have hhead := List.head_dropWhile_not (· ≠ c) hne
  simp only [h, List.head_cons] at hhead
  simpa using hhead

theorem pathBehindHost_eq_some {text path : List UInt8} :
    pathBehindHost text = some path ↔ path ≠ [] ∧
      ∃ host, host ≠ [] ∧ '/'.toUInt8 ∉ host ∧ text = host ++ '/'.toUInt8 :: path := by
  unfold pathBehindHost
  constructor
  · intro h
    split at h
    case h_1 first host slash c rest htake hdrop =>
      obtain rfl := Option.some.inj h
      refine ⟨by simp, first :: host, by simp, fun hmem => ?_, ?_⟩
      · rw [← htake] at hmem
        simpa using List.mem_takeWhile_imp hmem
      · rw [← eq_of_dropWhile_ne hdrop, ← hdrop, ← htake]
        exact List.takeWhile_append_dropWhile.symm
    case h_2 => cases h
  · rintro ⟨hne, host, hhost, hslash, rfl⟩
    obtain ⟨first, host, rfl⟩ := List.exists_cons_of_ne_nil hhost
    obtain ⟨c, path, rfl⟩ := List.exists_cons_of_ne_nil hne
    have hrun : ∀ b ∈ first :: host, decide (b ≠ '/'.toUInt8) = true := fun b hb =>
      decide_eq_true fun heq => hslash (heq ▸ hb)
    rw [List.takeWhile_append_of_pos hrun, List.dropWhile_append_of_pos hrun]
    simp

/-- The path behind a scheme and a host. -/
theorem pathBehindHost_drop_eq_some {scheme url path : List UInt8} (h : scheme <+: url) :
    pathBehindHost (url.drop scheme.length) = some path ↔ path ≠ [] ∧
      ∃ host, host ≠ [] ∧ '/'.toUInt8 ∉ host ∧ url = scheme ++ host ++ '/'.toUInt8 :: path := by
  obtain ⟨text, rfl⟩ := h
  rw [List.drop_left, pathBehindHost_eq_some]
  simp only [List.append_assoc, List.append_cancel_left_eq]

/-- The path behind a slash at the start. -/
theorem pathBehindSlash_eq_some {url path : List UInt8} :
    pathBehindSlash url = some path ↔ path ≠ [] ∧ url = '/'.toUInt8 :: path := by
  unfold pathBehindSlash
  constructor
  · intro h
    split at h
    case h_1 =>
      split at h
      case isTrue hslash =>
        obtain rfl := Option.some.inj h
        exact ⟨by simp, by rw [hslash]⟩
      case isFalse => cases h
    case h_2 => cases h
  · rintro ⟨hne, rfl⟩
    obtain ⟨c, path, rfl⟩ := List.exists_cons_of_ne_nil hne
    simp

/-- No URL has both schemes. -/
theorem not_rtsp_of_rtsps {url : List UInt8} (h : ascii "rtsps://" <+: url) :
    ¬ascii "rtsp://" <+: url := by
  intro hother
  have hshort := List.prefix_of_prefix_length_le hother h (by decide)
  exact absurd hshort (by decide)

/-- A path stands behind a base and a slash. -/
theorem urlPath_eq_some {url path : List UInt8} :
    urlPath url = some path ↔
      path ≠ [] ∧ ∃ base, IsBase base ∧ url = base ++ '/'.toUInt8 :: path := by
  unfold urlPath
  constructor
  · intro h
    split at h
    case isTrue hscheme =>
      obtain ⟨hne, host, hhost, hslash, htext⟩ := (pathBehindHost_drop_eq_some hscheme).mp h
      exact ⟨hne, _, .inr ⟨host, hhost, hslash, .inl rfl⟩, htext⟩
    case isFalse =>
      split at h
      case isTrue hscheme =>
        obtain ⟨hne, host, hhost, hslash, htext⟩ := (pathBehindHost_drop_eq_some hscheme).mp h
        exact ⟨hne, _, .inr ⟨host, hhost, hslash, .inr rfl⟩, htext⟩
      case isFalse =>
        obtain ⟨hne, hurl⟩ := pathBehindSlash_eq_some.mp h
        exact ⟨hne, [], .inl rfl, hurl⟩
  · rintro ⟨hne, base, rfl | ⟨host, hhost, hslash, rfl | rfl⟩, rfl⟩
    · have hrtsp : ¬ascii "rtsp://" <+: '/'.toUInt8 :: path := fun h =>
        absurd (List.cons_prefix_cons.mp h).1 (by decide)
      have hrtsps : ¬ascii "rtsps://" <+: '/'.toUInt8 :: path := fun h =>
        absurd (List.cons_prefix_cons.mp h).1 (by decide)
      rw [List.nil_append, if_neg hrtsp, if_neg hrtsps]
      exact pathBehindSlash_eq_some.mpr ⟨hne, rfl⟩
    · have hscheme : ascii "rtsp://" <+: ascii "rtsp://" ++ host ++ '/'.toUInt8 :: path := by
        simp
      rw [if_pos hscheme]
      exact (pathBehindHost_drop_eq_some hscheme).mpr ⟨hne, host, hhost, hslash, rfl⟩
    · have hscheme : ascii "rtsps://" <+: ascii "rtsps://" ++ host ++ '/'.toUInt8 :: path := by
        simp
      rw [if_neg (not_rtsp_of_rtsps hscheme), if_pos hscheme]
      exact (pathBehindHost_drop_eq_some hscheme).mpr ⟨hne, host, hhost, hslash, rfl⟩

/-- More text behind a path belongs to the path. -/
theorem urlPath_append {url path : List UInt8} (h : urlPath url = some path)
    (rest : List UInt8) : urlPath (url ++ rest) = some (path ++ rest) := by
  obtain ⟨hne, base, hbase, rfl⟩ := urlPath_eq_some.mp h
  exact urlPath_eq_some.mpr ⟨by simp [hne], base, hbase, by simp⟩

/-! ### The stream name in a URL -/

/-- The format with a scheme finds the path behind the host. -/
theorem pathAfterHost_scan (scheme : String) {url : List UInt8}
    (hspace : ∀ c ∈ url, isSpace c = false) :
    (pathAfterHost scheme).scan url =
      if ascii scheme <+: url then pathBehindHost (url.drop (ascii scheme).length) else none := by
  have hsteps : (pathAfterHost scheme).scan url = Option.map Prod.fst
      ((literal scheme url).bind fun r => (set none (· ≠ '/'.toUInt8) r.2).bind fun r' =>
        (literal "/" r'.2).bind fun r'' => word none r''.2) := rfl
  rw [hsteps, literal]
  split
  case isFalse => rfl
  case isTrue =>
    rw [Option.bind_some]
    generalize htext : url.drop (ascii scheme).length = text
    have hrest : ∀ c ∈ text, isSpace c = false := fun c hc =>
      hspace c (List.mem_of_mem_drop (htext ▸ hc))
    unfold pathBehindHost
    rw [set_none_eq]
    cases htake : text.takeWhile (· ≠ '/'.toUInt8) with
    | nil => rfl
    | cons first host =>
      rw [if_neg (List.cons_ne_nil _ _), Option.bind_some]
      cases htail : text.dropWhile (· ≠ '/'.toUInt8) with
      | nil => rfl
      | cons slash path =>
        have hliteral : literal "/" (slash :: path) = some ((), path) := by
          rw [eq_of_dropWhile_ne htail]
          exact if_pos (List.prefix_append _ _)
        rw [hliteral, Option.bind_some]
        cases path with
        | nil => rfl
        | cons c path =>
          rw [word_eq (List.cons_ne_nil _ _)]
          · rfl
          · intro b hb
            refine hrest b ((List.dropWhile_suffix (· ≠ '/'.toUInt8)).subset ?_)
            rw [htail]
            exact List.mem_cons_of_mem _ hb

/-- The format without a host finds the path behind a slash. -/
theorem pathAlone_scan {url : List UInt8} (hspace : ∀ c ∈ url, isSpace c = false) :
    pathAlone.scan url = pathBehindSlash url := by
  have hsteps : pathAlone.scan url =
      Option.map Prod.fst ((literal "/" url).bind fun r => word none r.2) := rfl
  rw [hsteps]
  cases url with
  | nil => rfl
  | cons b rest =>
    by_cases hslash : b = '/'.toUInt8
    · subst hslash
      have hliteral : literal "/" ('/'.toUInt8 :: rest) = some ((), rest) :=
        if_pos (List.prefix_append _ _)
      rw [hliteral, Option.bind_some]
      cases rest with
      | nil => rfl
      | cons c path =>
        rw [word_eq (List.cons_ne_nil _ _) fun d hd => hspace d (List.mem_cons_of_mem _ hd)]
        rfl
    · have hliteral : literal "/" (b :: rest) = none :=
        if_neg fun h => hslash (List.cons_prefix_cons.mp h).1.symm
      rw [hliteral]
      cases rest with
      | nil => rfl
      | cons c path => exact (if_neg hslash).symm

/-- The name that a URL gives is its path, or that of the first stream. -/
theorem extractStreamNameFromUrl_eq (config : Config) {url : List UInt8}
    (hspace : ∀ c ∈ url, isSpace c = false) :
    extractStreamNameFromUrl config url = (urlPath url).or
      (config.streams.head?.map fun stream => stream.streamName.bytes) := by
  unfold extractStreamNameFromUrl
  rw [pathAfterHost_scan "rtsp://" hspace, pathAfterHost_scan "rtsps://" hspace,
    pathAlone_scan hspace]
  unfold urlPath
  by_cases hrtsp : ascii "rtsp://" <+: url
  · have hother := fun hrtsps => not_rtsp_of_rtsps hrtsps hrtsp
    obtain ⟨rest, rfl⟩ := hrtsp
    have hslash : pathBehindSlash (ascii "rtsp://" ++ rest) = none := rfl
    rw [if_pos (List.prefix_append _ _), if_neg hother, if_pos (List.prefix_append _ _), hslash]
    exact Option.orElse_eq_or
  · rw [if_neg hrtsp, if_neg hrtsp, Option.orElse_none]
    by_cases hrtsps : ascii "rtsps://" <+: url
    · obtain ⟨rest, rfl⟩ := hrtsps
      have hslash : pathBehindSlash (ascii "rtsps://" ++ rest) = none := rfl
      rw [if_pos (List.prefix_append _ _), if_pos (List.prefix_append _ _), hslash]
      exact Option.orElse_eq_or
    · rw [if_neg hrtsps, if_neg hrtsps, Option.orElse_none]
      exact Option.orElse_eq_or

/-! ### Cutting a track off -/

/-- The texts that SETUP takes for a track, in the order in which it looks for them. -/
def trackTexts : List String :=
  ["/G711_audiobackchannel", "/G726_audiobackchannel", "/audio", "/track1", "/track2", "/trackID="]

/-- None of the texts is found in the name. -/
def FreeOf (texts : List String) (name : List UInt8) : Prop :=
  ∀ text ∈ texts, strstr name (ascii text) = none

instance FreeOf.decidable (texts : List String) (name : List UInt8) :
    Decidable (FreeOf texts name) :=
  inferInstanceAs (Decidable (∀ text ∈ texts, _))

/-- The name that is left is what stands before the text found first. -/
theorem splitTrack_streamName (name : List UInt8) :
    (splitTrack name).streamName =
      match trackTexts.findSome? fun text => strstr name (ascii text) with
      | some stop => between name stop
      | none => name := by
  unfold splitTrack trackTexts trackSuffixes
  simp only [List.findSome?_cons, List.findSome?_nil]
  cases strstr name (ascii "/G711_audiobackchannel") with
  | some stop => rfl
  | none =>
    cases strstr name (ascii "/G726_audiobackchannel") with
    | some stop => rfl
    | none =>
      cases strstr name (ascii "/audio") with
      | some stop => rfl
      | none =>
        cases strstr name (ascii "/track1") with
        | some stop => rfl
        | none =>
          cases strstr name (ascii "/track2") with
          | some stop => rfl
          | none => cases strstr name (ascii "/trackID=") <;> rfl

/-- A name with nothing like a track is left as it is. -/
theorem splitTrack_of_free {name : List UInt8} (h : FreeOf trackTexts name) :
    splitTrack name = ⟨name, 0, false⟩ := by
  unfold FreeOf trackTexts at h
  simp only [List.forall_mem_cons] at h
  obtain ⟨h711, h726, haudio, htrack1, htrack2, htrackId, -⟩ := h
  unfold splitTrack trackSuffixes
  simp [h711, h726, haudio, htrack1, htrack2, htrackId]

/-- A track that is joined to a name is cut off, if nothing like it or the texts before it is
found in the name. -/
theorem splitTrack_joined {name : List UInt8} (h : FreeOf (trackTexts.take 4) name) :
    splitTrack (name ++ ascii "/track1") = ⟨name, 1, false⟩ := by
  unfold FreeOf trackTexts at h
  simp only [List.take_succ_cons, List.take_zero, List.forall_mem_cons] at h
  obtain ⟨h711, h726, haudio, htrack1, -⟩ := h
  have hcut : ∀ body : List UInt8, '/'.toUInt8 ∉ body → strstr name ('/'.toUInt8 :: body) = none →
      strstr (name ++ ascii "/track1") ('/'.toUInt8 :: body) =
        strstr (ascii "/track1") ('/'.toUInt8 :: body) :=
    strstr_append_cons
  have h711' : strstr (name ++ ascii "/track1") (ascii "/G711_audiobackchannel") = none :=
    (hcut (ascii "G711_audiobackchannel") (by decide) h711).trans rfl
  have h726' : strstr (name ++ ascii "/track1") (ascii "/G726_audiobackchannel") = none :=
    (hcut (ascii "G726_audiobackchannel") (by decide) h726).trans rfl
  have haudio' : strstr (name ++ ascii "/track1") (ascii "/audio") = none :=
    (hcut (ascii "audio") (by decide) haudio).trans rfl
  have htrack1' : strstr (name ++ ascii "/track1") (ascii "/track1") = some (ascii "/track1") :=
    (hcut (ascii "track1") (by decide) htrack1).trans rfl
  unfold splitTrack trackSuffixes
  simp [h711', h726', haudio', htrack1']

/-- A name with more text behind it is left over exactly if there is no more text and nothing
like a track in the name, or the cut is made between the two. -/
theorem splitTrack_append_iff (name rest : List UInt8) :
    (splitTrack (name ++ rest)).streamName = name ↔
      rest = [] ∧ FreeOf trackTexts name ∨
        trackTexts.findSome? (fun text => strstr (name ++ rest) (ascii text)) = some rest := by
  rw [splitTrack_streamName]
  cases hfind : trackTexts.findSome? fun text => strstr (name ++ rest) (ascii text) with
  | none =>
    have hfree : FreeOf trackTexts (name ++ rest) := List.findSome?_eq_none_iff.mp hfind
    constructor
    · intro hsame
      obtain rfl : rest = [] := List.append_right_eq_self.mp hsame
      exact .inl ⟨rfl, by simpa using hfree⟩
    · rintro (⟨rfl, -⟩ | hsome)
      · exact List.append_nil name
      · cases hsome
  | some stop =>
    obtain ⟨text, htext, hfound⟩ := List.exists_of_findSome?_eq_some hfind
    obtain ⟨front, hfront⟩ := (strstr_eq_some hfound).2
    have hbetween : between (name ++ rest) stop = front := by rw [← hfront, between_append]
    dsimp only
    rw [hbetween, Option.some.injEq]
    constructor
    · rintro rfl
      exact .inr (List.append_cancel_left hfront)
    · rintro (⟨rfl, hfree⟩ | rfl)
      · rw [List.append_nil] at hfound
        simp [hfree text htext] at hfound
      · exact List.append_cancel_right hfront

/-- The only text that the joined track, or a part of it, begins with is itself. -/
theorem eq_track1_of_prefix {text : String} (htext : text ∈ trackTexts) {rest : List UInt8}
    (hrest : rest <+: ascii "/track1" ∨ rest <+: ascii "track1") (h : ascii text <+: rest) :
    text = "/track1" ∧ rest = ascii "/track1" := by
  rcases hrest with hrest | hrest
  · have hwhole := h.trans hrest
    have hsame : text = "/track1" := by
      clear h
      revert text
      decide
    subst hsame
    exact ⟨rfl, hrest.eq_of_length_le h.length_le⟩
  · have hnone : ∀ other ∈ trackTexts, ¬ascii other <+: ascii "track1" := by decide
    exact absurd (h.trans hrest) (hnone text htext)

/-- The joined track is cut off exactly if nothing like it, or like the texts before it, is
found in the name. -/
theorem splitTrack_joined_iff (name : List UInt8) :
    (splitTrack (name ++ ascii "/track1")).streamName = name ↔
      FreeOf (trackTexts.take 4) name := by
  refine ⟨fun hsame => ?_, fun hfree => by rw [splitTrack_joined hfree]⟩
  rcases (splitTrack_append_iff name _).mp hsame with ⟨hnil, -⟩ | hfind
  · exact absurd hnil (by decide)
  -- What is found in the name is found in the longer text.
  have hnone : ∀ text, strstr (name ++ ascii "/track1") (ascii text) = none →
      strstr name (ascii text) = none := by
    intro text hlong
    rw [strstr_eq_none_iff] at hlong ⊢
    exact fun hfound => hlong (hfound.trans (List.prefix_append _ _).isInfix)
  rw [← List.take_append_drop 3 trackTexts, List.findSome?_append, Option.or_eq_some_iff] at hfind
  rcases hfind with hfirst | ⟨hfirst, hlater⟩
  · obtain ⟨text, htext, hfound⟩ := List.exists_of_findSome?_eq_some hfirst
    have hother : ∀ other ∈ trackTexts.take 3, ¬ascii other <+: ascii "/track1" := by decide
    exact absurd (strstr_eq_some hfound).1 (hother text htext)
  · obtain ⟨text, htext, hfound⟩ := List.exists_of_findSome?_eq_some hlater
    obtain ⟨rfl, -⟩ := eq_track1_of_prefix (List.mem_of_mem_drop htext) (.inl List.prefix_rfl)
      (strstr_eq_some hfound).1
    have htrack : strstr name (ascii "/track1") = none := by
      by_contra hin
      obtain ⟨stop, hstop⟩ := Option.ne_none_iff_exists'.mp hin
      rw [strstr_append hstop, Option.some.injEq] at hfound
      obtain rfl : stop = [] := List.append_left_eq_self.mp hfound
      exact absurd (strstr_eq_some hstop).1 (by decide)
    intro other hother
    rw [show trackTexts.take 4 = trackTexts.take 3 ++ ["/track1"] from rfl] at hother
    rcases List.mem_append.mp hother with hbefore | hlast
    · exact hnone other (List.findSome?_eq_none_iff.mp hfirst other hbefore)
    · rw [List.mem_singleton.mp hlast]
      exact htrack

/-- A part of the joined track is not cut off. -/
theorem splitTrack_append_ne (name : List UInt8) {rest : List UInt8} (hne : rest ≠ [])
    (hrest : rest <+: ascii "/track1" ∧ rest ≠ ascii "/track1" ∨ rest <+: ascii "track1") :
    (splitTrack (name ++ rest)).streamName ≠ name := by
  intro hsame
  rcases (splitTrack_append_iff name rest).mp hsame with ⟨hnil, -⟩ | hfind
  · exact hne hnil
  obtain ⟨text, htext, hfound⟩ := List.exists_of_findSome?_eq_some hfind
  obtain ⟨-, hwhole⟩ := eq_track1_of_prefix htext (hrest.imp_left And.left)
    (strstr_eq_some hfound).1
  rcases hrest with ⟨-, hpart⟩ | hpart
  · exact hpart hwhole
  · rw [hwhole] at hpart
    exact absurd hpart (by decide)

/-! ### The URL of a request -/

/-- A URL as a request line holds it. -/
structure Url where
  bytes : List UInt8
  ne_nil : bytes ≠ []
  noSpace : ∀ c ∈ bytes, isSpace c = false
deriving DecidableEq

/-- What `parse_rtsp_request` stores of a URL. -/
def Url.field (u : Url) : List UInt8 := u.bytes.take 255

/-- A URL that has text behind it. -/
def Url.append (u : Url) (rest : List UInt8) (hrest : ∀ c ∈ rest, isSpace c = false) : Url where
  bytes := u.bytes ++ rest
  ne_nil := by simp [u.ne_nil]
  noSpace c hc := (List.mem_append.mp hc).elim (u.noSpace c) (hrest c)

/-- The control attribute of the video, with the slash that is missing before it. -/
def Url.control (u : Url) : List UInt8 :=
  if u.bytes.getLast? = some '/'.toUInt8 then ascii "track1" else ascii "/track1"

theorem Url.control_noSpace (u : Url) : ∀ c ∈ u.control, isSpace c = false := by
  unfold control
  split <;> decide +kernel

/-- The URL joined with the control attribute of the video. -/
def Url.joined (u : Url) : Url := u.append u.control u.control_noSpace

/-- The part of the control attribute that fits behind the URL. -/
def Url.fittingControl (u : Url) : List UInt8 := u.control.take (255 - u.bytes.length)

theorem Url.field_noSpace (u : Url) : ∀ c ∈ u.field, isSpace c = false :=
  fun c hc => u.noSpace c (List.mem_of_mem_take hc)

/-- The joined URL is stored as the URL itself with what fits behind it. -/
theorem Url.joined_field (u : Url) : u.joined.field = u.field ++ u.fittingControl :=
  List.take_append

/-- The URL of a request is stored as far as it fits. -/
theorem requestLine_scan {name : List UInt8} (hne : name ≠ [])
    (hname : ∀ c ∈ name, isSpace c = false) (hshort : name.length ≤ 31) (u : Url)
    {blank : UInt8} (hafter : isSpace blank) (rest : List UInt8) :
    requestLine.scan (name ++ ' '.toUInt8 :: (u.bytes ++ blank :: rest)) =
      some (name, u.field) := by
  have hfirst := word_append (by decide : 0 < 31) hne hname (c := ' '.toUInt8) (by decide)
    (u.bytes ++ blank :: rest)
  rw [List.take_of_length_le hshort, List.drop_left] at hfirst
  have hblank : (' '.toUInt8 :: (u.bytes ++ blank :: rest)).dropWhile isSpace =
      u.bytes ++ blank :: rest := by
    rw [List.dropWhile_cons_of_pos (by decide),
      dropWhile_isSpace_of_ne_nil u.ne_nil u.noSpace]
  have hsecond := word_append (by decide : 0 < 255) u.ne_nil u.noSpace hafter rest
  rw [Scanner.scan]
  change Option.map Prod.fst ((word (some 31) _).bind fun r =>
    (space r.2).bind fun r' => (word (some 255) r'.2).bind fun r'' =>
      some ((r.1, r''.1), r''.2)) = _
  rw [hfirst, Option.bind_some, space, Option.bind_some, hblank, hsecond]
  rfl

/-! ### DESCRIBE and SETUP -/

/-- The stream that DESCRIBE shows. -/
def describedStream (config : Config) (url : List UInt8) : Option StreamConfig :=
  (extractStreamNameFromUrl config url).bind config.findStream

/-- The stream that is found has the name that is looked for. -/
theorem Config.streamName_of_findStream {config : Config} {name : List UInt8} {s : StreamConfig}
    (h : config.findStream name = some s) : s.streamName.bytes = name := by
  have hsame := List.find?_some h
  simpa using (of_decide_eq_true hsame).symm

/-- The stream that DESCRIBE shows is the one with the name in the path, or the first one. -/
theorem describedStream_eq (config : Config) {url : List UInt8}
    (hspace : ∀ c ∈ url, isSpace c = false) :
    describedStream config url =
      match urlPath url with
      | some path => config.findStream path
      | none => config.streams.head? := by
  unfold describedStream
  rw [extractStreamNameFromUrl_eq config hspace]
  cases urlPath url with
  | some path => rfl
  | none =>
    unfold Config.findStream
    cases config.streams with
    | nil => rfl
    | cons first others => simp

/-- DESCRIBE is answered with the description of the stream, or with 404. -/
theorem Client.handleDescribeRequest_eq (client : Client) (config : Config)
    (exchange : Exchange) (url : List UInt8) :
    let client' :=
      { client with supportsBackchannel := contains client.requestBuffer backchannelHeader }
    client.handleDescribeRequest config exchange url =
      match (describedStream config url).bind fun stream =>
        generateSdp config stream.streamName.bytes client' exchange.sdpTime with
      | none => client'.sendRtspResponse exchange 404 "Not Found" [] none
      | some sdp => client'.sendRtspResponse exchange 200 "OK" [] (some sdp) := by
  intro client'
  unfold handleDescribeRequest describedStream
  cases hname : extractStreamNameFromUrl config url with
  | none => rfl
  | some name =>
    cases hstream : config.findStream name with
    | none => simp [hstream, client']
    | some stream =>
      have hsame := Config.streamName_of_findStream hstream
      simp [hstream, hsame, generateSdp, client']

/-- The video of a described stream has the control attribute `track1`. -/
theorem generateSdp_control {config : Config} {streamName : List UInt8} {client : Client}
    {time : Int32} {sdp : List UInt8} (h : generateSdp config streamName client time = some sdp) :
    ascii "a=control:track1\r\n" <:+: sdp := by
  unfold generateSdp at h
  obtain ⟨stream, -, hsdp⟩ := Option.bind_eq_some_iff.mp h
  rw [← Option.some.inj hsdp]
  -- Ten texts stand behind the attribute.
  iterate 10 refine List.IsInfix.trans ?_ (List.prefix_append _ _).isInfix
  exact (List.suffix_append _ _).isInfix

/-- DESCRIBE is answered with 200 and the description of the stream. -/
def Client.Describes (client : Client) (config : Config) (exchange : Exchange)
    (url : List UInt8) (s : StreamConfig) : Prop :=
  let client' :=
    { client with supportsBackchannel := contains client.requestBuffer backchannelHeader }
  ∃ sdp, generateSdp config s.streamName.bytes client' exchange.sdpTime = some sdp ∧
    ascii "a=control:track1\r\n" <:+: sdp ∧
    client.handleDescribeRequest config exchange url =
      client'.sendRtspResponse exchange 200 "OK" [] (some sdp)

/-- SETUP of the URL takes the stream for the client's video. -/
def Client.Selects (client : Client) (config : Config) (url : List UInt8) (s : StreamConfig) :
    Prop :=
  ∃ trackId, client.setupTarget config url = .ok (s, trackId) ∧
    (client.selectStream s trackId).videoChannel = s.channel

/-- SETUP selects a stream exactly if that has the name that is left. -/
theorem Client.selects_iff (client : Client) {config : Config} {url name : List UInt8}
    (hname : extractStreamNameFromUrl config url = some name) {s : StreamConfig}
    (hs : config.findStream s.streamName.bytes = some s)
    (hvideo : (splitTrack name).streamName = s.streamName.bytes →
      (splitTrack name).isBackchannel = false ∧
        ((splitTrack name).trackId = 1 ∨ (splitTrack name).trackId = 0)) :
    client.Selects config url s ↔ (splitTrack name).streamName = s.streamName.bytes := by
  unfold Selects setupTarget
  rw [hname]
  dsimp only
  constructor
  · rintro ⟨trackId, htarget, -⟩
    cases hfound : config.findStream (splitTrack name).streamName with
    | none => simp [hfound] at htarget
    | some found =>
      rw [hfound] at htarget
      dsimp only at htarget
      split at htarget
      case isTrue => cases htarget
      case isFalse =>
        obtain rfl : found = s := by simpa using congrArg Prod.fst (Except.ok.inj htarget)
        exact (Config.streamName_of_findStream hfound).symm
  · intro hleft
    obtain ⟨hback, htrack⟩ := hvideo hleft
    rw [hleft, hs, hback]
    refine ⟨_, rfl, ?_⟩
    unfold selectStream
    rw [if_pos htrack]

/-! ### URLs without a path -/

/-- The URL is a base, with or without a slash at its end. -/
def Url.IsBare (u : Url) : Prop :=
  ∃ base, IsBase base ∧ (u.field = base ∨ u.field = base ++ ['/'.toUInt8])

/-- What SETUP finds behind the slash of a bare URL. -/
def Url.bareTrack (u : Url) : List UInt8 :=
  (ascii "track1").take
    (if u.bytes.getLast? = some '/'.toUInt8 then 255 - u.bytes.length else 254 - u.bytes.length)

/-- The part of the control attribute that fits is the text behind a slash, or the text alone
where the URL ends in a slash. -/
theorem Url.fittingControl_eq (u : Url) : u.fittingControl =
    if u.bytes.getLast? = some '/'.toUInt8 then u.bareTrack
    else if u.bytes.length < 255 then '/'.toUInt8 :: u.bareTrack else [] := by
  unfold fittingControl control bareTrack
  split
  case isTrue => rfl
  case isFalse =>
    split
    case isTrue hlt =>
      rw [show 255 - u.bytes.length = (254 - u.bytes.length) + 1 by omega]
      rfl
    case isFalse hge => rw [show 255 - u.bytes.length = 0 by omega, List.take_zero]

theorem Url.slash_notMem_bareTrack (u : Url) : '/'.toUInt8 ∉ u.bareTrack :=
  fun h => absurd (List.mem_of_mem_take h) (by decide)

theorem Url.field_of_lt {u : Url} (h : u.bytes.length < 255) : u.field = u.bytes :=
  List.take_of_length_le (by omega)

/-- A URL without a path gets one from text behind it if it ends in the slash before it, or if
the text brings the slash. -/
theorem urlPath_append_of_none {url : List UInt8} (h : urlPath url = none)
    {rest path : List UInt8} : urlPath (url ++ rest) = some path ↔
      path ≠ [] ∧ ∃ base, IsBase base ∧ (url = base ++ ['/'.toUInt8] ∧ rest = path ∨
        ∃ more, url ++ more = base ∧ rest = more ++ '/'.toUInt8 :: path) := by
  rw [urlPath_eq_some]
  refine and_congr_right fun hne => exists_congr fun base => and_congr_right fun hbase => ?_
  constructor
  · intro hurl
    rcases List.append_eq_append_iff.mp hurl with ⟨more, hmore, hrest⟩ | ⟨more, hmore, hrest⟩
    · exact .inr ⟨more, hmore.symm, hrest⟩
    · cases more with
      | nil => exact .inr ⟨[], by simpa using hmore, hrest.symm⟩
      | cons slash own =>
        obtain ⟨rfl, hpath⟩ := List.cons.inj hrest
        cases own with
        | nil => exact .inl ⟨hmore, hpath.symm⟩
        | cons c own =>
          have hown : urlPath url = some (c :: own) :=
            urlPath_eq_some.mpr ⟨List.cons_ne_nil _ _, base, hbase, hmore⟩
          simp [h] at hown
  · rintro (⟨rfl, rfl⟩ | ⟨more, rfl, rfl⟩) <;> simp

/-- A base does not end in a slash. -/
theorem IsBase.getLast?_ne {base : List UInt8} (h : IsBase base) :
    base.getLast? ≠ some '/'.toUInt8 := by
  rcases h with rfl | ⟨host, hhost, hslash, rfl | rfl⟩
  · simp
  all_goals
    have hlast : host.getLast? = some (host.getLast hhost) := List.getLast?_eq_some_getLast hhost
    rw [List.getLast?_append, hlast, Option.some_or]
    exact fun hsame => hslash (Option.some.inj hsame ▸ List.getLast_mem hhost)

/-- A URL without a path gets one from the control attribute if it is bare. -/
theorem Url.urlPath_joined_of_none {u : Url} (h : urlPath u.field = none) {path : List UInt8} :
    urlPath u.joined.field = some path ↔ u.IsBare ∧ u.bareTrack ≠ [] ∧ path = u.bareTrack := by
  have hclean := u.slash_notMem_bareTrack
  have hroom : u.bareTrack ≠ [] → u.bytes.length < 255 := by
    unfold bareTrack
    intro hne
    by_contra hlong
    simp [show 255 - u.bytes.length = 0 by omega, show 254 - u.bytes.length = 0 by omega] at hne
  rw [u.joined_field, urlPath_append_of_none h, u.fittingControl_eq]
  by_cases hlast : u.bytes.getLast? = some '/'.toUInt8
  · rw [if_pos hlast]
    constructor
    · rintro ⟨hne, base, hbase, ⟨hfield, rfl⟩ | ⟨more, -, hrest⟩⟩
      · exact ⟨⟨base, hbase, .inr hfield⟩, hne, rfl⟩
      · simp [hrest] at hclean
    · rintro ⟨⟨base, hbase, hfield⟩, hne, rfl⟩
      refine ⟨hne, base, hbase, .inl ⟨hfield.resolve_left fun hsame => ?_, rfl⟩⟩
      rw [Url.field_of_lt (hroom hne)] at hsame
      exact hbase.getLast?_ne (hsame ▸ hlast)
  · rw [if_neg hlast]
    constructor
    · rintro ⟨hne, base, hbase, ⟨hfield, hrest⟩ | ⟨more, hmore, hrest⟩⟩
      · split at hrest
        case isTrue hlt =>
          rw [Url.field_of_lt hlt] at hfield
          simp [hfield] at hlast
        case isFalse => exact absurd hrest.symm hne
      · split at hrest
        case isTrue hlt =>
          cases more with
          | nil =>
            obtain rfl : u.bareTrack = path := by simpa using hrest
            exact ⟨⟨base, hbase, .inl (by simpa using hmore)⟩, hne, rfl⟩
          | cons c more =>
            have hsame := (List.cons.inj hrest).2
            simp [hsame] at hclean
        case isFalse => simp at hrest
    · rintro ⟨⟨base, hbase, hfield⟩, hne, rfl⟩
      rw [if_pos (hroom hne)]
      refine ⟨hne, base, hbase, .inr ⟨[], ?_, rfl⟩⟩
      rw [List.append_nil]
      refine hfield.resolve_right fun hsame => hlast ?_
      rw [Url.field_of_lt (hroom hne)] at hsame
      simp [hsame]

/-! ### Agreement -/

/-- SETUP finds the stream that DESCRIBE shows. Where the URL has a path, the control attribute
must be stored whole behind it, and not find its like there, or not at all. Where it has none,
the first stream has the name that SETUP reads, or SETUP reads none either and finds nothing
like a track in that name. -/
def SetupAgrees (config : Config) (u : Url) : Prop :=
  match urlPath u.field with
  | some path =>
    u.bytes.length ≤ 248 ∧ u.bytes.getLast? ≠ some '/'.toUInt8 ∧ FreeOf (trackTexts.take 4) path ∨
      255 ≤ u.bytes.length ∧ FreeOf trackTexts path
  | none => ∀ first, config.streams.head? = some first →
      (u.IsBare ∧ u.bareTrack ≠ [] → first.streamName.bytes = u.bareTrack) ∧
      (¬(u.IsBare ∧ u.bareTrack ≠ []) → FreeOf trackTexts first.streamName.bytes)

/-- A name is left whole exactly if it has nothing like a track. -/
theorem splitTrack_self_iff (name : List UInt8) :
    (splitTrack name).streamName = name ↔ FreeOf trackTexts name := by
  refine ⟨fun hsame => ?_, fun hfree => by rw [splitTrack_of_free hfree]⟩
  rw [← List.append_nil name] at hsame
  rcases (splitTrack_append_iff name []).mp (by simpa using hsame) with ⟨-, hfree⟩ | hfind
  · exact hfree
  · obtain ⟨text, htext, hfound⟩ := List.exists_of_findSome?_eq_some hfind
    have hnil : ∀ other ∈ trackTexts, ¬ascii other <+: [] := by decide
    exact absurd (strstr_eq_some hfound).1 (hnil text htext)

/-- What fits of the control attribute is cut off a path exactly if it is whole and nothing
before it is taken for a track, or if there is nothing to cut. -/
theorem splitTrack_fittingControl_iff (u : Url) (path : List UInt8) :
    (splitTrack (path ++ u.fittingControl)).streamName = path ↔
      u.bytes.length ≤ 248 ∧ u.bytes.getLast? ≠ some '/'.toUInt8 ∧
          FreeOf (trackTexts.take 4) path ∨
        255 ≤ u.bytes.length ∧ FreeOf trackTexts path := by
  by_cases hlong : 255 ≤ u.bytes.length
  · have hnone : u.fittingControl = [] := by
      rw [Url.fittingControl, show 255 - u.bytes.length = 0 by omega, List.take_zero]
    rw [hnone, List.append_nil, splitTrack_self_iff]
    simp [hlong, show ¬u.bytes.length ≤ 248 by omega]
  by_cases hwhole : u.bytes.length ≤ 248 ∧ u.bytes.getLast? ≠ some '/'.toUInt8
  · have hcontrol : u.fittingControl = ascii "/track1" := by
      rw [Url.fittingControl, Url.control, if_neg hwhole.2]
      exact List.take_of_length_le (show 7 ≤ 255 - u.bytes.length by omega)
    rw [hcontrol, splitTrack_joined_iff]
    simp [hlong, hwhole.1, hwhole.2]
  · have hpart : (splitTrack (path ++ u.fittingControl)).streamName ≠ path := by
      apply splitTrack_append_ne
      · have hcontrol : u.control ≠ [] := by
          unfold Url.control
          split <;> decide
        intro hnil
        rcases List.take_eq_nil_iff.mp hnil with hroom | hempty
        · omega
        · exact hcontrol hempty
      · by_cases hlast : u.bytes.getLast? = some '/'.toUInt8
        · right
          rw [Url.fittingControl, Url.control, if_pos hlast]
          exact List.take_prefix _ _
        · left
          rw [Url.fittingControl, Url.control, if_neg hlast]
          refine ⟨List.take_prefix _ _, fun hsame => hwhole ⟨?_, hlast⟩⟩
          have hlength := congrArg List.length hsame
          have hseven : (ascii "/track1").length = 7 := rfl
          rw [List.length_take, hseven] at hlength
          omega
    refine iff_of_false hpart ?_
    rintro (⟨hshort, hlast, -⟩ | ⟨hlong', -⟩)
    · exact hwhole ⟨hshort, hlast⟩
    · exact hlong hlong'

/-- Where a part of the control attribute is cut off, or nothing is, SETUP is for the video. -/
theorem splitTrack_video {path rest : List UInt8}
    (hrest : rest <+: ascii "/track1" ∨ rest <+: ascii "track1")
    (h : (splitTrack (path ++ rest)).streamName = path) :
    (splitTrack (path ++ rest)).isBackchannel = false ∧
      ((splitTrack (path ++ rest)).trackId = 1 ∨ (splitTrack (path ++ rest)).trackId = 0) := by
  rcases (splitTrack_append_iff path rest).mp h with ⟨rfl, hfree⟩ | hfind
  · rw [List.append_nil, splitTrack_of_free hfree]
    exact ⟨rfl, .inr rfl⟩
  · obtain ⟨text, htext, hfound⟩ := List.exists_of_findSome?_eq_some hfind
    obtain ⟨-, rfl⟩ := eq_track1_of_prefix htext hrest (strstr_eq_some hfound).1
    rw [splitTrack_joined ((splitTrack_joined_iff path).mp h)]
    exact ⟨rfl, .inl rfl⟩

theorem Url.fittingControl_prefix (u : Url) :
    u.fittingControl <+: ascii "/track1" ∨ u.fittingControl <+: ascii "track1" := by
  unfold fittingControl control
  split
  · exact .inr (List.take_prefix _ _)
  · exact .inl (List.take_prefix _ _)

/-- A text without a slash has nothing like a track. -/
theorem freeOf_of_noSlash {name : List UInt8} (h : '/'.toUInt8 ∉ name) :
    FreeOf trackTexts name := by
  have hslash : ∀ text ∈ trackTexts, '/'.toUInt8 ∈ ascii text := by decide
  intro text htext
  rw [strstr_eq_none_iff]
  exact fun hfound => h (hfound.subset (hslash text htext))

/-- After DESCRIBE has shown a stream, SETUP of the URL joined with the control attribute selects
it exactly if the two agree. -/
theorem Client.selects_described_iff (client : Client) {config : Config} {u : Url}
    {s : StreamConfig} (h : describedStream config u.field = some s) :
    client.Selects config u.joined.field s ↔ SetupAgrees config u := by
  obtain ⟨described, hdescribed, hfind⟩ := Option.bind_eq_some_iff.mp h
  obtain rfl := Config.streamName_of_findStream hfind
  rw [extractStreamNameFromUrl_eq config u.field_noSpace] at hdescribed
  have hsetup := extractStreamNameFromUrl_eq config u.joined.field_noSpace
  unfold SetupAgrees
  cases hpath : urlPath u.field with
  | some path =>
    obtain rfl : path = s.streamName.bytes := by simpa [hpath] using hdescribed
    rw [u.joined_field, urlPath_append hpath, Option.some_or, ← u.joined_field] at hsetup
    rw [client.selects_iff hsetup hfind (splitTrack_video u.fittingControl_prefix)]
    exact splitTrack_fittingControl_iff u _
  | none =>
    rw [hpath, Option.none_or, Option.map_eq_some_iff] at hdescribed
    obtain ⟨first, hfirst, hsame⟩ := hdescribed
    obtain ⟨others, hstreams⟩ := List.head?_eq_some_iff.mp hfirst
    have hs : s = first := by
      rw [Config.findStream, hstreams, List.find?_cons_of_pos (by simp [hsame])] at hfind
      exact (Option.some.inj hfind).symm
    subst hs
    by_cases hbare : u.IsBare ∧ u.bareTrack ≠ []
    · have hjoined := (Url.urlPath_joined_of_none hpath).mpr ⟨hbare.1, hbare.2, rfl⟩
      have hsplit := splitTrack_of_free (freeOf_of_noSlash u.slash_notMem_bareTrack)
      rw [hjoined, Option.some_or] at hsetup
      rw [client.selects_iff hsetup hfind fun _ => by simp [hsplit], hsplit]
      simp [hfirst, hbare, eq_comm]
    · have hjoined : urlPath u.joined.field = none := by
        by_contra hsome
        obtain ⟨path, hsome⟩ := Option.ne_none_iff_exists'.mp hsome
        have hboth := (Url.urlPath_joined_of_none hpath).mp hsome
        exact hbare ⟨hboth.1, hboth.2.1⟩
      rw [hjoined, Option.none_or, hfirst, Option.map_some] at hsetup
      rw [client.selects_iff hsetup hfind fun hself => by
        simp [splitTrack_of_free ((splitTrack_self_iff _).mp hself)], splitTrack_self_iff]
      simp only [hfirst, Option.some.injEq, forall_eq', hbare, not_false_eq_true, true_imp_iff,
        false_imp_iff, true_and]

/-- A stream that is described is shown with its control attribute. -/
theorem Client.describes_of_described (client : Client) {config : Config} {url : List UInt8}
    {s : StreamConfig} (h : describedStream config url = some s) (exchange : Exchange) :
    client.Describes config exchange url s := by
  obtain ⟨described, -, hfind⟩ := Option.bind_eq_some_iff.mp h
  obtain rfl := Config.streamName_of_findStream hfind
  have hanswer := client.handleDescribeRequest_eq config exchange url
  dsimp only at hanswer
  rw [h, Option.bind_some] at hanswer
  unfold Describes
  dsimp only
  cases hsdp : generateSdp config s.streamName.bytes
      { client with supportsBackchannel := contains client.requestBuffer backchannelHeader }
      exchange.sdpTime with
  | none => simp [generateSdp, hfind] at hsdp
  | some sdp =>
    rw [hsdp] at hanswer
    exact ⟨sdp, rfl, generateSdp_control hsdp, hanswer⟩

/-- DESCRIBE shows a stream, and SETUP of the URL joined with the control attribute selects the
same one exactly if the two agree. -/
theorem Client.setup_described_iff (describer client : Client) {config : Config} {u : Url}
    {s : StreamConfig} (h : describedStream config u.field = some s) :
    (∀ exchange, describer.Describes config exchange u.field s) ∧
      (client.Selects config u.joined.field s ↔ SetupAgrees config u) :=
  ⟨describer.describes_of_described h, client.selects_described_iff h⟩

/-- The address and the name of a stream. -/
theorem namedText_ne : ascii "rtsp://192.168.1.10/ch0" ≠ [] := by decide

/-- The URL of a stream by its name. -/
def namedUrl : Url := ⟨ascii "rtsp://192.168.1.10/ch0", namedText_ne, by decide +kernel⟩

/-- The URL of the server. -/
def serverUrl : Url := ⟨ascii "rtsp://192.168.1.10/", by decide, by decide +kernel⟩

/-- SETUP selects the stream behind the URL with its name. -/
theorem Client.setup_described_named :
    Client.initial.Selects openConfig namedUrl.joined.field (openConfig.streams.head (by decide)) ∧
      SetupAgrees openConfig namedUrl := by
  have hagrees : SetupAgrees openConfig namedUrl := by
    have hpath : urlPath namedUrl.field = some (ascii "ch0") := by decide +kernel
    unfold SetupAgrees
    rw [hpath]
    exact .inl (by decide +kernel)
  exact ⟨((Client.setup_described_iff Client.initial Client.initial (by decide +kernel)).2).mpr
    hagrees, hagrees⟩

/-- DESCRIBE shows the first stream for the URL of the server, and SETUP looks for a stream of
the name `track1`. -/
theorem Client.not_setup_described :
    let first := openConfig.streams.head (by decide)
    (∀ exchange, Client.initial.Describes openConfig exchange serverUrl.field first) ∧
      Client.initial.setupTarget openConfig serverUrl.joined.field = .error (404, "Not Found") ∧
      ¬Client.initial.Selects openConfig serverUrl.joined.field first := by
  have htarget : Client.initial.setupTarget openConfig serverUrl.joined.field =
      .error (404, "Not Found") := by
    decide +kernel
  refine ⟨Client.initial.describes_of_described (by decide +kernel), htarget, ?_⟩
  rintro ⟨trackId, hselected, -⟩
  rw [htarget] at hselected
  cases hselected

end Rtsp
