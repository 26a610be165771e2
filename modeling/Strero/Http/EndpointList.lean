import Strero.Http.Router
import Strero.Lib.Snprintf

/-!
# The list of endpoints

`http_router_generate_endpoint_list` prints the paths of the routes into a buffer, quoted and with
commas between them. It stops when less than 20 bytes are left, but does not check what it has
printed.
-/

namespace Http

open CString Snprintf

variable {H : Type}

/-- A path in quotes. -/
def quotedPath (route : Route H) : List UInt8 := '"'.toUInt8 :: (route.path ++ ['"'.toUInt8])

/-- `buffer_size - 20`, as a `size_t` of 32 bits. -/
def reservedSize (size : ℕ) : ℕ := if 20 ≤ size then size - 20 else 4294967296 - (20 - size)

/-- One turn of the loop: the comma, but for the first route, and the path. -/
def printEndpoint (size i : ℕ) (route : Route H) (printed : Printed UInt8) :
    Option (Printed UInt8) :=
  (if i > 0 then printed.print size [','.toUInt8] else some printed).bind fun printed =>
    printed.print size (quotedPath route)

/-- The loop over the routes, from an index on. -/
def endpointLoop (size : ℕ) : ℕ → List (Route H) → Printed UInt8 → Option (Printed UInt8)
  | _, [], printed => some printed
  | i, route :: routes, printed =>
    if printed.offset ≥ reservedSize size then some printed
    else (printEndpoint size i route printed).bind (endpointLoop size (i + 1) routes)

/-- `http_router_generate_endpoint_list`: the string in the buffer afterwards, which is the one
before where nothing is printed, and what is returned. -/
def httpRouterGenerateEndpointList (routes : List (Route H)) (before : List UInt8) (size : ℕ) :
    Option (List UInt8 × ℤ) :=
  if size = 0 then some (before, -1)
  else (endpointLoop size 0 routes ⟨[], 0⟩).map fun printed =>
    (if printed.offset = 0 then before else printed.text, printed.offset)

/-- The list of the paths of routes. -/
def endpointList (routes : List (Route H)) : List UInt8 :=
  List.intercalate [','.toUInt8] (routes.map quotedPath)

/-- What is in the buffer afterwards is the list of the first routes, up to some route, with room
for its terminator, and its length is returned. -/
def ListsEndpoints (routes : List (Route H)) (before : List UInt8) (size : ℕ) : Prop :=
  ∃ n, httpRouterGenerateEndpointList routes before size =
      some (endpointList (routes.take n), ((endpointList (routes.take n)).length : ℤ)) ∧
    (endpointList (routes.take n)).length < size

/-- Wherever the loop goes on, the next path fits into the buffer, and if there is nothing to
print then the buffer is empty. -/
structure EndpointsFit (routes : List (Route H)) (before : List UInt8) (size : ℕ) : Prop where
  fits : ∀ n < routes.length, (endpointList (routes.take n)).length < reservedSize size →
    (endpointList (routes.take (n + 1))).length < size
  empty : routes = [] ∨ size = 20 → before = []

section Loop

variable {done routes : List (Route H)} {route : Route H} {printed : Printed UInt8} {size : ℕ}

/-- One more path in the list. -/
theorem endpointList_concat (done : List (Route H)) (route : Route H) :
    endpointList (done ++ [route]) =
      endpointList done ++ (if done.length > 0 then [','.toUInt8] else []) ++ quotedPath route := by
  unfold endpointList
  induction done with
  | nil => simp
  | cons first done ih =>
    rw [List.cons_append, List.map_cons, List.intercalate_cons_of_ne_nil (by simp), ih]
    cases done with
    | nil => simp
    | cons second rest => simp [List.intercalate_cons_cons]

/-- A list is at least as long as that of the first routes in it. -/
theorem length_endpointList_le (front back : List (Route H)) :
    (endpointList front).length ≤ (endpointList (front ++ back)).length := by
  induction back generalizing front with
  | nil => rw [List.append_nil]
  | cons route back ih =>
    have hnext := ih (front ++ [route])
    rw [List.append_assoc, List.singleton_append, endpointList_concat, List.length_append,
      List.length_append] at hnext
    omega

/-- A turn adds one path to the list. -/
theorem printEndpoint_eq_some {next : Printed UInt8}
    (h : printEndpoint size done.length route printed = some next)
    (hoffset : printed.offset = (endpointList done).length)
    (htext : printed.offset < size → printed.text = endpointList done) :
    next.offset = (endpointList (done ++ [route])).length ∧
      (next.offset < size → next.text = endpointList (done ++ [route])) := by
  rw [endpointList_concat]
  obtain ⟨comma, hcomma, hpath⟩ := Option.bind_eq_some_iff.mp h
  obtain ⟨hnext, hnextText⟩ := Printed.print_eq_some hpath
  have hfirst : comma.offset =
      printed.offset + (if done.length > 0 then [','.toUInt8] else []).length ∧
      (comma.offset < size → comma.text =
        printed.text ++ (if done.length > 0 then [','.toUInt8] else [])) := by
    split_ifs at hcomma ⊢
    · exact Printed.print_eq_some hcomma
    · obtain rfl := Option.some.inj hcomma
      exact ⟨rfl, fun _ => (List.append_nil _).symm⟩
  obtain ⟨hcommaOffset, hcommaText⟩ := hfirst
  refine ⟨?_, fun hroom => ?_⟩
  · rw [hnext, hcommaOffset, hoffset, List.length_append, List.length_append]
  · rw [hnextText hroom, hcommaText (by omega), htext (by omega)]

/-- With room for the list with the path a turn prints it. -/
theorem exists_printEndpoint (hoffset : printed.offset = (endpointList done).length)
    (hroom : (endpointList (done ++ [route])).length < size) :
    ∃ next, printEndpoint size done.length route printed = some next ∧
      next.offset = (endpointList (done ++ [route])).length := by
  rw [endpointList_concat, List.length_append, List.length_append, ← hoffset] at hroom ⊢
  unfold printEndpoint
  by_cases hfirst : done.length > 0
  · rw [if_pos hfirst] at hroom ⊢
    rw [if_pos hfirst]
    have hcomma : ∃ comma, printed.print size [','.toUInt8] = some comma ∧
        comma.offset = printed.offset + 1 := Printed.exists_print (by
      rw [List.length_singleton] at hroom ⊢
      omega)
    obtain ⟨comma, hcomma, hlength⟩ := hcomma
    have hpath : ∃ next, comma.print size (quotedPath route) = some next ∧
        next.offset = comma.offset + (quotedPath route).length := Printed.exists_print (by
      rw [List.length_singleton] at hroom
      omega)
    obtain ⟨next, hnext, hnextLength⟩ := hpath
    exact ⟨next, by rw [hcomma, Option.bind_some, hnext], by
      rw [hnextLength, hlength, List.length_singleton]⟩
  · rw [if_neg hfirst] at hroom ⊢
    rw [if_neg hfirst]
    exact Printed.exists_print (by simpa using hroom)

/-- What the loop counts is the length of the list of the first routes, up to one for which
there is no room reserved, and as long as they fit it has printed them. -/
theorem endpointLoop_eq_some (done : List (Route H)) {last : Printed UInt8}
    (h : endpointLoop size done.length routes printed = some last)
    (hoffset : printed.offset = (endpointList done).length)
    (htext : printed.offset < size → printed.text = endpointList done) :
    ∃ front back, routes = front ++ back ∧
      last.offset = (endpointList (done ++ front)).length ∧
      (last.offset < size → last.text = endpointList (done ++ front)) ∧
      (front = [] ∨ printed.offset < reservedSize size) ∧
      (back = [] ∨ reservedSize size ≤ last.offset) := by
  induction routes generalizing done printed with
  | nil =>
    obtain rfl := Option.some.inj h
    exact ⟨[], [], rfl, by rwa [List.append_nil], by rwa [List.append_nil], .inl rfl, .inl rfl⟩
  | cons route routes ih =>
    by_cases hmore : printed.offset < reservedSize size
    · rw [endpointLoop, if_neg (by omega)] at h
      obtain ⟨next, hnext, hrest⟩ := Option.bind_eq_some_iff.mp h
      obtain ⟨hnextOffset, hnextText⟩ := printEndpoint_eq_some hnext hoffset htext
      rw [show done.length + 1 = (done ++ [route]).length by simp] at hrest
      obtain ⟨front, back, rfl, hlast, hlastText, -, hstop⟩ :=
        ih (done ++ [route]) hrest hnextOffset hnextText
      rw [List.append_assoc, List.singleton_append] at hlast hlastText
      exact ⟨route :: front, back, rfl, hlast, hlastText, .inr hmore, hstop⟩
    · rw [endpointLoop, if_pos (by omega)] at h
      obtain rfl := Option.some.inj h
      exact ⟨[], route :: routes, rfl, by rwa [List.append_nil], by rwa [List.append_nil],
        .inl rfl, .inr (by omega)⟩

/-- With room for each path that the loop goes on to it does not print outside. -/
theorem exists_endpointLoop (done : List (Route H))
    (hoffset : printed.offset = (endpointList done).length)
    (hroom : printed.offset < size)
    (hfits : ∀ front route back, routes = front ++ route :: back →
      (endpointList (done ++ front)).length < reservedSize size →
        (endpointList (done ++ front ++ [route])).length < size) :
    ∃ last, endpointLoop size done.length routes printed = some last ∧ last.offset < size := by
  induction routes generalizing done printed with
  | nil => exact ⟨printed, rfl, hroom⟩
  | cons route routes ih =>
    by_cases hmore : printed.offset < reservedSize size
    · have hnext : (endpointList (done ++ [route])).length < size := by
        simpa using hfits [] route routes rfl (by simpa using hoffset ▸ hmore)
      obtain ⟨next, hprint, hlength⟩ := exists_printEndpoint hoffset hnext
      rw [endpointLoop, if_neg (by omega), hprint, Option.bind_some,
        show done.length + 1 = (done ++ [route]).length by simp]
      refine ih (done ++ [route]) hlength (by omega) fun front other back hsplit hgoes => ?_
      have hother := hfits (route :: front) other back (by rw [hsplit, List.cons_append])
      rw [← List.singleton_append, ← List.append_assoc] at hother
      exact hother hgoes
    · rw [endpointLoop, if_pos (by omega)]
      exact ⟨printed, rfl, hroom⟩

/-- Only the list of no routes is empty. -/
theorem length_endpointList_eq_zero : (endpointList routes).length = 0 ↔ routes = [] := by
  cases routes with
  | nil => exact iff_of_true rfl rfl
  | cons route routes =>
    have hlength := length_endpointList_le [route] routes
    have hpath : 0 < (endpointList [route]).length := by
      simp [endpointList, quotedPath]
    refine iff_of_false (fun hnone => ?_) (List.cons_ne_nil route routes)
    rw [List.singleton_append, hnone] at hlength
    omega

end Loop

section Lists

variable {routes : List (Route H)} {before : List UInt8} {size : ℕ}

/-- The list of more routes is longer. -/
theorem length_endpointList_take_le (routes : List (Route H)) {m n : ℕ} (h : m ≤ n) :
    (endpointList (routes.take m)).length ≤ (endpointList (routes.take n)).length := by
  have hsplit : routes.take n = routes.take m ++ (routes.drop m).take (n - m) := by
    rw [← List.take_add, Nat.add_sub_cancel' h]
  rw [hsplit]
  exact length_endpointList_le _ _

/-- The length of the list of the first routes is returned, and it is in the buffer if it fits
there and is not that of no routes. -/
theorem httpRouterGenerateEndpointList_eq_some {result : List UInt8 × ℤ} (hsize : 0 < size)
    (h : httpRouterGenerateEndpointList routes before size = some result) :
    ∃ n ≤ routes.length, result.2 = (endpointList (routes.take n)).length ∧
      (result.2 < size → result.1 = if n = 0 then before else endpointList (routes.take n)) ∧
      (n = 0 ∨ 0 < reservedSize size) ∧
      (n = routes.length ∨ reservedSize size ≤ (endpointList (routes.take n)).length) := by
  rw [httpRouterGenerateEndpointList, if_neg (by omega)] at h
  obtain ⟨last, hlast, rfl⟩ := Option.map_eq_some_iff.mp h
  obtain ⟨front, back, rfl, hoffset, htext, hstart, hstop⟩ :=
    endpointLoop_eq_some [] hlast rfl fun _ => rfl
  rw [List.nil_append] at hoffset htext
  refine ⟨front.length, by simp, ?_, fun hroom => ?_, ?_, ?_⟩
  · rw [List.take_left, hoffset]
  · have hnone : last.offset = 0 ↔ front.length = 0 := by
      rw [hoffset, length_endpointList_eq_zero, List.length_eq_zero_iff]
    dsimp only at hroom ⊢
    rw [List.take_left, htext (by exact_mod_cast hroom), if_congr hnone rfl rfl]
  · exact hstart.imp_left fun hnil => by rw [hnil, List.length_nil]
  · rw [List.take_left, ← hoffset]
    exact hstop.imp_left fun hnil => by rw [hnil, List.append_nil]

/-- With room for every path the list is generated, and fits into the buffer. -/
theorem exists_httpRouterGenerateEndpointList (before : List UInt8) (hsize : 0 < size)
    (hfits : ∀ n < routes.length, (endpointList (routes.take n)).length < reservedSize size →
      (endpointList (routes.take (n + 1))).length < size) :
    ∃ result, httpRouterGenerateEndpointList routes before size = some result ∧
      result.2 < size := by
  obtain ⟨last, hlast, hroom⟩ : ∃ last, endpointLoop size 0 routes ⟨[], 0⟩ = some last ∧
      last.offset < size := exists_endpointLoop [] rfl hsize fun front route back
        hsplit hgoes => by
    have hnext := hfits front.length (by rw [hsplit]; simp)
    rw [hsplit, List.take_left, List.take_length_add_append, List.take_one, List.head?_cons]
      at hnext
    exact hnext hgoes
  rw [httpRouterGenerateEndpointList, if_neg (by omega), hlast]
  refine ⟨_, rfl, ?_⟩
  dsimp only
  exact_mod_cast hroom

/-- A reserve of 20 bytes leaves no room in a buffer of just that size. -/
theorem reservedSize_eq_zero (hsize : 0 < size) : reservedSize size = 0 ↔ size = 20 := by
  unfold reservedSize
  split_ifs <;> omega

/-- Complete paths are listed only where each path that the loop goes on to fits. -/
theorem ListsEndpoints.fit (hsize : 1 ≤ size) (h : ListsEndpoints routes before size) :
    EndpointsFit routes before size := by
  obtain ⟨listed, hlists, hlength⟩ := h
  obtain ⟨n, hn, hreturned, htext, hstart, hstop⟩ :=
    httpRouterGenerateEndpointList_eq_some hsize hlists
  dsimp only at hreturned htext
  refine ⟨fun m hm hgoes => ?_, fun hnothing => ?_⟩
  · rcases Nat.lt_or_ge m n with hprinted | hbehind
    · have hle := length_endpointList_take_le routes (m := m + 1) hprinted
      omega
    · have hle := length_endpointList_take_le routes hbehind
      omega
  · have hnone : n = 0 := by
      rcases hnothing with rfl | hsize
      · exact Nat.le_zero.mp hn
      · exact hstart.resolve_right fun hpos => by
          rw [(reservedSize_eq_zero (by omega)).mpr hsize] at hpos
          omega
    subst hnone
    rw [if_pos rfl] at htext
    rw [← htext (by omega)]
    refine List.eq_nil_of_length_eq_zero ?_
    rw [List.take_zero, length_endpointList_eq_zero.mpr rfl] at hreturned
    exact_mod_cast hreturned

/-- Where each path fits that the loop goes on to, complete paths are listed. -/
theorem EndpointsFit.lists (hsize : 1 ≤ size) (h : EndpointsFit routes before size) :
    ListsEndpoints routes before size := by
  obtain ⟨result, hresult, hroom⟩ := exists_httpRouterGenerateEndpointList before hsize h.fits
  obtain ⟨n, hn, hreturned, htext, hstart, hstop⟩ :=
    httpRouterGenerateEndpointList_eq_some hsize hresult
  have hcontent : result.1 = endpointList (routes.take n) := by
    rw [htext hroom]
    split_ifs with hnone
    · subst hnone
      rw [List.take_zero] at hstop ⊢
      refine h.empty (hstop.imp (fun hlength => ?_) fun hzero => ?_)
      · exact List.eq_nil_of_length_eq_zero hlength.symm
      · exact (reservedSize_eq_zero hsize).mp (Nat.le_zero.mp hzero)
    · rfl
  refine ⟨n, ?_, by omega⟩
  rw [hresult, ← hcontent, Option.some_inj]
  exact Prod.ext rfl (hreturned.trans (by rw [hcontent]))

/-- If the list of all paths fits, then so does each that the loop goes on to. -/
theorem EndpointsFit.of_all (h : (endpointList routes).length < size) :
    EndpointsFit routes [] size := by
  refine ⟨fun n _ _ => ?_, fun _ => rfl⟩
  have hle := length_endpointList_le (routes.take (n + 1)) (routes.drop (n + 1))
  rw [List.take_append_drop] at hle
  omega

end Lists

/-- The list of endpoints is complete paths, and its length is returned, if and only if wherever
the loop goes on the next path fits. -/
theorem listsEndpoints_iff (routes : List (Route H)) (before : List UInt8) (size : ℕ)
    (hsize : 1 ≤ size) : ListsEndpoints routes before size ↔ EndpointsFit routes before size := by
  constructor
  · intro h
    exact h.fit hsize
  · intro h
    exact h.lists hsize

/-- The paths of two snapshots fit into a buffer of 40 bytes. -/
theorem listsEndpoints_snapshots :
    ListsEndpoints [getRoute "/snap0.jpg" (.snapJpg 0), getRoute "/snap1.jpg" (.snapJpg 1)] []
      40 := by
  refine (listsEndpoints_iff _ _ _ (by decide)).mpr ⟨fun n hn _ => ?_, fun _ => rfl⟩
  have hcases : n = 0 ∨ n = 1 := by
    rw [List.length_cons, List.length_singleton] at hn
    omega
  rcases hcases with rfl | rfl <;> decide

/-- The path of a service is longer than the reserve. In a buffer of 22 bytes it is cut, and its
whole length is returned. -/
theorem not_listsEndpoints_service :
    ¬∀ (routes : List (Route Handler)) (before : List UInt8) (size : ℕ), 1 ≤ size →
      ListsEndpoints routes before size := by
  intro h
  obtain ⟨n, hlists, hlength⟩ := h [onvifRoute "/onvif/device_service" .get] [] 22 (by decide)
  have hcut : (httpRouterGenerateEndpointList [onvifRoute "/onvif/device_service" .get] []
      22).map Prod.snd = some 23 := by decide +kernel
  rw [hlists, Option.map_some, Option.some_inj] at hcut
  dsimp only at hcut
  omega

end Http
