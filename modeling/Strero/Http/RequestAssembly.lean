import Strero.Http.Server
import Strero.Lib.Decimal

/-!
# The parts of a request

The server reads a request with a first call of `recv`, and goes on only if it finds in what it
has got both an announced length and the end of the header. The request is read as a whole if
everything arrives in the first part, or if the header does and its number is the length of the
body.
-/

namespace Http

open CString Scanf

/-- The line that ends a header. -/
def headerEnd : List UInt8 := ascii "\r\n\r\n"

/-- The text that the length of a body is looked for by. -/
def lengthText : List UInt8 := ascii "Content-Length: "

/-- A request and the results of `recv` in which it arrives. The first empty line ends its
header, and one of the lines announces the length of the body if there is one. -/
structure Arrival where
  header : List UInt8
  body : List UInt8
  chunks : List (List UInt8)
  text : 0 ∉ header
  ends : strstr header headerEnd = some headerEnd
  announces : (∃ front value back,
      header = front ++ ascii "\r\n" ++ lengthText ++ value ++ ascii "\r\n" ++ back ∧
        atoi value = body.length) ∨
    ¬lengthText <:+: header ∧ body = []
  fits : (header ++ body).length ≤ requestRoom
  arrives : chunks.flatten = header ++ body
  progress : ∀ chunk ∈ chunks, chunk ≠ []

/-- The whole request is read, and nothing that comes after it. -/
def Arrival.Assembles (arrival : Arrival) : Prop :=
  ∀ more, readRequest (arrival.chunks ++ more) = arrival.header ++ arrival.body

/-- The number that is found for the length of the body. -/
def announcedLength (received : List UInt8) : Option ℤ :=
  (strstr (cString received) lengthText).map fun line => atoi (line.drop 16)

/-- There is one part only, or the first one has the whole header and announces more than arrives
before the last one. No more is announced than there is, or the buffer is full. -/
def Arrival.Complete (arrival : Arrival) : Prop :=
  ∃ first rest, arrival.chunks = first :: rest ∧
    (rest = [] ∨ arrival.header <+: first ∧ ∃ announced ∈ announcedLength first,
      ((first ++ rest.dropLast.flatten).length : ℤ) - arrival.header.length < announced) ∧
    ∀ announced ∈ announcedLength first,
      announced ≤ arrival.body.length ∨ (arrival.header ++ arrival.body).length = requestRoom

/-- The rest of a body is read if and only if more is announced than arrives before the last part,
and no more than there is or fits. -/
theorem readBody_whole_iff {contentLength : ℤ} {headersLen : ℕ} {request : List UInt8}
    {rest : List (List UInt8)} (hprogress : ∀ chunk ∈ rest, chunk ≠ [])
    (hfits : (request ++ rest.flatten).length ≤ requestRoom) :
    (∀ more, readBody contentLength headersLen request (rest ++ more) = request ++ rest.flatten) ↔
      (rest = [] ∨
        ((request ++ rest.dropLast.flatten).length : ℤ) - headersLen < contentLength) ∧
      (contentLength ≤ ((request ++ rest.flatten).length : ℤ) - headersLen ∨
        (request ++ rest.flatten).length = requestRoom) := by
  induction rest generalizing request with
  | nil =>
    rw [List.flatten_nil, List.append_nil] at hfits ⊢
    constructor
    · intro hall
      refine ⟨.inl rfl, ?_⟩
      by_contra hmore
      obtain ⟨hannounced, hroom⟩ := not_or.mp hmore
      have hone : ([0] : List UInt8).take (requestRoom - request.length) = [0] :=
        List.take_of_length_le (by rw [List.length_singleton]; omega)
      have hread := hall [[0]]
      rw [List.nil_append, readBody, if_pos ⟨by omega, by omega⟩] at hread
      dsimp only at hread
      rw [hone, if_neg (List.cons_ne_nil _ _), readBody] at hread
      exact absurd (congrArg List.length hread) (by simp)
    · rintro ⟨-, hstops⟩ more
      cases more with
      | nil => rfl
      | cons chunk more =>
        rw [List.nil_append, readBody, if_neg (by omega)]
  | cons chunk rest ih =>
    have hchunk : 0 < chunk.length := List.length_pos_iff.mpr (hprogress chunk List.mem_cons_self)
    rw [List.flatten_cons, ← List.append_assoc] at hfits ⊢
    have hlength := hfits
    rw [List.length_append, List.length_append] at hlength
    have ih := @ih (request ++ chunk)
      (fun other hother => hprogress other (List.mem_cons_of_mem _ hother)) hfits
    by_cases hgoes : (request.length : ℤ) - headersLen < contentLength
    · have hstep (more : List (List UInt8)) :
          readBody contentLength headersLen request (chunk :: rest ++ more) =
            readBody contentLength headersLen (request ++ chunk) (rest ++ more) := by
        rw [List.cons_append, readBody, if_pos ⟨hgoes, by omega⟩]
        dsimp only
        rw [List.take_of_length_le (by omega),
          if_neg (hprogress chunk List.mem_cons_self)]
      rw [forall_congr' fun more => by rw [hstep more], ih]
      refine and_congr_left fun _ => ?_
      cases rest with
      | nil => exact iff_of_true (.inl rfl) (.inr (by simpa using hgoes))
      | cons next rest =>
        rw [List.dropLast_cons_of_ne_nil (List.cons_ne_nil next rest), List.flatten_cons,
          ← List.append_assoc, or_iff_right (List.cons_ne_nil next rest),
          or_iff_right (List.cons_ne_nil chunk _)]
    · refine iff_of_false (fun hall => ?_) ?_
      · have hread := hall []
        rw [List.append_nil, readBody, if_neg fun h => hgoes h.1] at hread
        have hsame := congrArg List.length hread
        rw [List.length_append, List.length_append] at hsame
        omega
      · rintro ⟨hnone | hlast, -⟩
        · cases hnone
        · rw [List.length_append] at hlast
          omega

variable {header first : List UInt8} {rest : List (List UInt8)}

/-- The end of a header is part of it. -/
theorem length_headerEnd_le (hends : strstr header headerEnd = some headerEnd) :
    4 ≤ header.length := (strstr_eq_some hends).2.length_le

/-- A part that has the whole header tells how much is to be read. -/
theorem readRequest_of_header (htext : 0 ∉ header)
    (hends : strstr header headerEnd = some headerEnd) (hheader : header <+: first)
    (hfits : first.length ≤ requestRoom) :
    readRequest (first :: rest) =
      (announcedLength first).elim first fun announced =>
        readBody announced header.length first rest := by
  obtain ⟨tail, rfl⟩ := hheader
  have hlength := length_headerEnd_le hends
  have hne : header ++ tail ≠ [] := by
    rw [← List.length_pos_iff, List.length_append]
    omega
  have hfound : strstr (cString (header ++ tail)) headerEnd = some (headerEnd ++ cString tail) := by
    rw [cString_append_of_notMem htext]
    exact strstr_append hends (cString tail)
  have hlen : (cString (header ++ tail)).length - (headerEnd ++ cString tail).length + 4 =
      header.length := by
    have hend : headerEnd.length = 4 := by decide
    rw [cString_append_of_notMem htext, List.length_append, List.length_append, hend]
    omega
  unfold headerEnd at hfound hlen
  unfold readRequest announcedLength lengthText
  dsimp only
  rw [List.take_of_length_le hfits, if_neg hne, hfound]
  cases strstr (cString (header ++ tail)) (ascii "Content-Length: ") with
  | none => rfl
  | some line =>
    dsimp only
    rw [hlen]
    rfl

/-- Without all of the header the first part is all that is read. -/
theorem readRequest_of_cut (htext : 0 ∉ header)
    (hends : strstr header headerEnd = some headerEnd) (hcut : first <+: header)
    (hne : first ≠ header) (hfits : first.length ≤ requestRoom) :
    readRequest (first :: rest) = first := by
  have hnone : strstr (cString first) headerEnd = none := by
    rw [cString_of_notMem fun hzero => htext (hcut.subset hzero), strstr_eq_none_iff]
    intro hoccurs
    obtain ⟨tail, rfl⟩ := hcut
    obtain ⟨found, hfound⟩ := Option.ne_none_iff_exists'.mp
      (fun hnone => strstr_eq_none_iff.mp hnone hoccurs)
    -- The end of the header would come earlier.
    have hearlier := strstr_append hfound tail
    rw [hends, Option.some_inj] at hearlier
    have hbegins := (strstr_eq_some hfound).1.length_le
    have hlength := congrArg List.length hearlier
    rw [List.length_append] at hlength
    have htail : tail = [] := List.eq_nil_of_length_eq_zero (by omega)
    exact hne (by rw [htail, List.append_nil])
  unfold headerEnd at hnone
  unfold readRequest
  dsimp only
  rw [List.take_of_length_le hfits, hnone]
  split
  · exact (by assumption : first = []).symm
  · cases strstr (cString first) (ascii "Content-Length: ") <;> rfl

/-- Parts with bytes are no more than the first one if they have no more bytes. -/
theorem flatten_eq_nil_iff (hprogress : ∀ chunk ∈ rest, chunk ≠ []) :
    rest.flatten = [] ↔ rest = [] := by
  rw [List.flatten_eq_nil_iff]
  constructor
  · intro hempty
    exact List.eq_nil_iff_forall_not_mem.mpr fun chunk hchunk =>
      hprogress chunk hchunk (hempty chunk hchunk)
  · rintro rfl chunk hchunk
    cases hchunk

namespace Arrival

variable {arrival : Arrival}

/-- Something arrives, since there is a header. -/
theorem exists_cons (arrival : Arrival) : ∃ first rest, arrival.chunks = first :: rest := by
  cases hchunks : arrival.chunks with
  | nil =>
    have hlength := congrArg List.length arrival.arrives
    have hsome := length_headerEnd_le arrival.ends
    rw [hchunks, List.flatten_nil, List.length_append, List.length_nil] at hlength
    omega
  | cons first rest => exact ⟨first, rest, rfl⟩

theorem complete_cons_iff (hchunks : arrival.chunks = first :: rest) : arrival.Complete ↔
    (rest = [] ∨ arrival.header <+: first ∧ ∃ announced ∈ announcedLength first,
      ((first ++ rest.dropLast.flatten).length : ℤ) - arrival.header.length < announced) ∧
    ∀ announced ∈ announcedLength first,
      announced ≤ arrival.body.length ∨
        (arrival.header ++ arrival.body).length = requestRoom := by
  constructor
  · rintro ⟨first', rest', hsame, h⟩
    obtain ⟨rfl, rfl⟩ := List.cons.inj (hchunks.symm.trans hsame)
    exact h
  · exact fun h => ⟨first, rest, hchunks, h⟩

/-- What arrives is the first part and the others, which have bytes and fit in the buffer. -/
theorem parts (hchunks : arrival.chunks = first :: rest) :
    first ++ rest.flatten = arrival.header ++ arrival.body ∧ (∀ chunk ∈ rest, chunk ≠ []) ∧
      (first ++ rest.flatten).length ≤ requestRoom := by
  have harrives := arrival.arrives
  rw [hchunks, List.flatten_cons] at harrives
  refine ⟨harrives, fun chunk hchunk => arrival.progress chunk ?_, ?_⟩
  · rw [hchunks]
    exact List.mem_cons_of_mem _ hchunk
  · rw [harrives]
    exact arrival.fits

/-- The first part is all only if there is no other. -/
theorem first_eq_iff (hchunks : arrival.chunks = first :: rest) :
    first = arrival.header ++ arrival.body ↔ rest = [] := by
  obtain ⟨harrives, hrest, -⟩ := parts hchunks
  rw [← harrives, List.self_eq_append_right, flatten_eq_nil_iff hrest]

/-- Once the header is there, it depends on the number that is found. -/
theorem assembles_iff_of_header (hchunks : arrival.chunks = first :: rest)
    (hheader : arrival.header <+: first) : arrival.Assembles ↔ arrival.Complete := by
  obtain ⟨harrives, hrest, hfits⟩ := parts hchunks
  have hfirst : first.length ≤ requestRoom := by
    rw [List.length_append] at hfits
    omega
  have hread (more : List (List UInt8)) : readRequest (arrival.chunks ++ more) =
      (announcedLength first).elim first fun announced =>
        readBody announced arrival.header.length first (rest ++ more) := by
    rw [hchunks]
    exact readRequest_of_header arrival.text arrival.ends hheader hfirst
  rw [complete_cons_iff hchunks]
  unfold Assembles
  simp only [hread]
  cases announcedLength first with
  | none =>
    simp only [Option.elim_none, forall_const, first_eq_iff hchunks]
    simp
  | some announced =>
    have hbody : ((first ++ rest.flatten).length : ℤ) - arrival.header.length =
        arrival.body.length := by
      rw [harrives, List.length_append]
      omega
    simp only [Option.elim_some, Option.mem_def, Option.some.injEq, exists_eq_left',
      forall_eq', hheader, true_and]
    rw [← harrives, ← hbody]
    exact readBody_whole_iff hrest hfits

/-- A first part without all of the header is all that is read, and it is not all. -/
theorem not_assembles_of_not_header (hchunks : arrival.chunks = first :: rest)
    (hheader : ¬arrival.header <+: first) : ¬arrival.Assembles ∧ ¬arrival.Complete := by
  obtain ⟨harrives, hrest, hfits⟩ := parts hchunks
  have hcut : first <+: arrival.header := by
    have hparts : first <+: arrival.header ++ arrival.body := harrives ▸ List.prefix_append _ _
    exact (List.prefix_or_prefix_of_prefix hparts (List.prefix_append _ _)).resolve_right hheader
  have hmore : rest ≠ [] := by
    intro hnone
    rw [← first_eq_iff hchunks] at hnone
    exact hheader (hnone ▸ List.prefix_append _ _)
  constructor
  · intro hall
    have hread := hall []
    rw [hchunks, List.cons_append, readRequest_of_cut arrival.text arrival.ends hcut
      (fun heq => hheader (heq ▸ List.prefix_rfl)) (by rw [List.length_append] at hfits; omega),
      first_eq_iff hchunks] at hread
    exact hmore hread
  · rw [complete_cons_iff hchunks]
    rintro ⟨hnone | ⟨hall, -⟩, -⟩
    · exact hmore hnone
    · exact hheader hall

end Arrival

/-- A request is read as a whole if and only if its parts are complete. -/
theorem Arrival.assembles_iff (arrival : Arrival) : arrival.Assembles ↔ arrival.Complete := by
  obtain ⟨first, rest, hchunks⟩ := arrival.exists_cons
  by_cases hheader : arrival.header <+: first
  · exact assembles_iff_of_header hchunks hheader
  · obtain ⟨hnot, hincomplete⟩ := not_assembles_of_not_header hchunks hheader
    exact iff_of_false hnot hincomplete

/-- The number in a line is found in each part that has the whole header, if no other text comes
first that looks like it. -/
theorem announcedLength_of_header {back : List UInt8} {n : ℕ} (htext : 0 ∉ header)
    (hline : strstr header lengthText = some (lengthText ++ digits n ++ ascii "\r\n" ++ back))
    (hheader : header <+: first) : announcedLength first = some (n : ℤ) := by
  obtain ⟨tail, rfl⟩ := hheader
  have hnumber : EndsNumber (ascii "\r\n" ++ (back ++ cString tail)) := by
    intro c hc
    obtain rfl := Option.some.inj hc
    decide
  have hskip : ∀ rest : List UInt8, (lengthText ++ rest).drop 16 = rest := fun rest =>
    List.drop_left' (by decide)
  rw [announcedLength, cString_append_of_notMem htext, strstr_append hline, Option.map_some,
    List.append_assoc, List.append_assoc, List.append_assoc, hskip, atoi, Scanner.scan,
    int_digits (digits_ne_nil n) (fun _ => isDigit_of_mem_digits) hnumber, decimal_digits]
  rfl

/-- Where the line is the first such text, it is enough that the header arrives in one part. -/
theorem Arrival.complete_iff (arrival : Arrival) {back : List UInt8}
    (hline : strstr arrival.header lengthText =
      some (lengthText ++ digits arrival.body.length ++ ascii "\r\n" ++ back)) :
    arrival.Complete ↔ ∃ first rest, arrival.chunks = first :: rest ∧
      (rest = [] ∨ arrival.header <+: first) := by
  constructor
  · rintro ⟨first, rest, hchunks, hlast, -⟩
    exact ⟨first, rest, hchunks, hlast.imp_right And.left⟩
  · rintro ⟨first, rest, hchunks, hall⟩
    have harrives := arrival.arrives
    rw [hchunks, List.flatten_cons] at harrives
    have hheader : arrival.header <+: first := by
      rcases hall with rfl | hheader
      · rw [List.flatten_nil, List.append_nil] at harrives
        exact harrives ▸ List.prefix_append _ _
      · exact hheader
    have hannounced := announcedLength_of_header arrival.text hline hheader
    refine ⟨first, rest, hchunks, or_iff_not_imp_left.mpr fun hmore =>
      ⟨hheader, _, hannounced, ?_⟩, fun found hmem => .inl ?_⟩
    · have hlast := arrival.progress (rest.getLast hmore)
        (hchunks ▸ List.mem_cons_of_mem _ (List.getLast_mem hmore))
      have hlength := congrArg List.length harrives
      rw [← List.dropLast_append_getLast hmore, List.flatten_append, List.flatten_singleton,
        List.length_append, List.length_append, List.length_append] at hlength
      have hpos := List.length_pos_iff.mpr hlast
      rw [List.length_append]
      omega
    · rw [hannounced] at hmem
      exact Int.le_of_eq (Option.some.inj hmem).symm

/-- A request whose header is cut. -/
def cutArrival : Arrival where
  header := ascii "POST / HTTP/1.1\r\nContent-Length: 2\r\n\r\n"
  body := ascii "ok"
  chunks := [ascii "POST / HTTP/1.1\r\nContent-Le", ascii "ngth: 2\r\n\r\nok"]
  text := by decide
  ends := by decide
  announces := .inl ⟨ascii "POST / HTTP/1.1", ascii "2", ascii "\r\n", by decide, by decide⟩
  fits := by decide
  arrives := by decide
  progress := by decide

/-- Of a request whose header is cut only the first part is read. -/
theorem Arrival.not_assembles_cut : ¬∀ arrival : Arrival, arrival.Assembles := fun h =>
  absurd (h cutArrival []) (by decide +kernel)

end Http
