import Strero.Http.Router
import Strero.Lib.Runs

/-!
# The table of routes as a map

The calls that register routes make a map from methods and paths to handlers: a request runs the
handler that was registered last for its method and path.
-/

namespace Http

open CString

variable {H : Type}

/-! ### Calls -/

/-- The name of a method in a request. -/
def Method.name : Method → List UInt8
  | .get => ascii "GET"
  | .post => ascii "POST"
  | .put => ascii "PUT"
  | .delete => ascii "DELETE"

/-- The method of a value of `http_method_t`. From `HTTP_METHOD_COUNT` on there is none. -/
def Method.ofNat? : ℕ → Option Method
  | 0 => some .get
  | 1 => some .post
  | 2 => some .put
  | 3 => some .delete
  | _ => none

/-- The arguments of `http_router_register_route`, of which all but the method may be `NULL`. -/
structure RouteArgs (H : Type) where
  path : Option (List UInt8)
  method : ℕ
  handler : Option H
  moduleName : Option (List UInt8)

/-- The route that the arguments describe. -/
def RouteArgs.route (args : RouteArgs H) : Option (Route H) := do
  let path ← args.path
  let handler ← args.handler
  let _ ← args.moduleName
  let method ← Method.ofNat? args.method
  return ⟨path, method, handler⟩

/-- The table, and the routes that were registered successfully so far, the last one first. -/
structure Registrar (H : Type) where
  router : Router H
  registered : List (Route H)

/-- Before any call. -/
def Registrar.start (initialized : Bool) : Registrar H where
  router := { httpRouterInit with initialized := initialized }
  registered := []

/-- `http_router_register_route`, with its return value. -/
def Registrar.registerRoute (s : Registrar H) (args : RouteArgs H) : Registrar H × ℤ :=
  if !s.router.initialized then (s, -1)
  else match args.path, args.handler, args.moduleName with
    | some path, some handler, some _ =>
      if s.router.routes.length ≥ maxRoutes then (s, -1)
      else match Method.ofNat? args.method with
        | none => (s, -1)
        | some method =>
          match s.router.httpRouterRegisterRoute ⟨path, method, handler⟩ with
          | some router => (⟨router, ⟨path, method, handler⟩ :: s.registered⟩, 0)
          | none => (s, -1)
    | _, _, _ => (s, -1)

/-- The loop of `http_router_register_routes`, which ends with the first route that fails. -/
def Registrar.registerAll (s : Registrar H) : List (RouteArgs H) → Registrar H × ℤ
  | [] => (s, 0)
  | args :: routeList =>
    let (s, ret) := s.registerRoute args
    if ret < 0 then (s, ret) else s.registerAll routeList

/-- `http_router_register_routes`, with `NULL` for no list. -/
def Registrar.registerRoutes (s : Registrar H) (routeList : Option (List (RouteArgs H))) :
    Registrar H × ℤ :=
  match routeList with
  | none => (s, -1)
  | some routeList => s.registerAll routeList

/-- A call of one of the two functions. -/
inductive RegisterCall (H : Type)
  | route (args : RouteArgs H)
  | routes (routeList : Option (List (RouteArgs H)))

/-- What a call leaves behind. -/
def Registrar.call (s : Registrar H) : RegisterCall H → Registrar H
  | .route args => (s.registerRoute args).1
  | .routes routeList => (s.registerRoutes routeList).1

/-- The route that was registered last for a method and a path. -/
def Registrar.last (s : Registrar H) (key : Method × List UInt8) : Option (Route H) :=
  s.registered.find? fun route => route.key = key

/-! ### The map -/

section Map

variable {router router' : Router H} {added : Route H} {s s' : Registrar H}
  {key : Method × List UInt8}

/-- The handler that the table has for a method and a path. -/
def Router.handlerFor (router : Router H) (key : Method × List UInt8) : Option H :=
  (router.routes.find? fun route => route.key = key).map Route.handler

/-- What a registration makes of the table. -/
theorem Router.routes_of_register (h : router.httpRouterRegisterRoute added = some router') :
    router'.initialized = router.initialized ∧
      (added.key ∉ router.routes.map Route.key ∧ router'.routes = router.routes ++ [added] ∨
        added.key ∈ router.routes.map Route.key ∧
          router'.routes = router.routes.map (overrideHandler added)) := by
  unfold Router.httpRouterRegisterRoute at h
  split_ifs at h with hready hroom hnew
  · obtain rfl := Option.some.inj h
    exact ⟨rfl, .inr ⟨hnew, rfl⟩⟩
  · obtain rfl := Option.some.inj h
    exact ⟨rfl, .inl ⟨hnew, rfl⟩⟩

/-- After a registration its own key has the new handler, and the others what they had. -/
theorem Router.handlerFor_of_register (h : router.httpRouterRegisterRoute added = some router')
    (key : Method × List UInt8) :
    router'.handlerFor key =
      if added.key = key then some added.handler else router.handlerFor key := by
  obtain ⟨-, ⟨hnew, hroutes⟩ | ⟨hknown, hroutes⟩⟩ := Router.routes_of_register h
  · rw [Router.handlerFor, hroutes, List.find?_append]
    split_ifs with hkey
    · have hnone : (router.routes.find? fun route => route.key = key) = none := by
        rw [List.find?_eq_none]
        intro route hmem hsame
        refine hnew ?_
        rw [hkey, ← of_decide_eq_true hsame]
        exact List.mem_map_of_mem hmem
      rw [hnone]
      simp [hkey]
    · simp [hkey, Router.handlerFor]
  · have hkeys : (fun route : Route H => decide (route.key = key)) ∘ overrideHandler added =
        fun route => decide (route.key = key) := by
      funext route
      rw [Function.comp_apply, overrideHandler_key]
    rw [Router.handlerFor, hroutes, List.find?_map, hkeys]
    cases hfound : router.routes.find? fun route => route.key = key with
    | none =>
      have hkey : added.key ≠ key := by
        rintro rfl
        obtain ⟨route, hmem, hsame⟩ := List.mem_map.mp hknown
        have hnot := List.find?_eq_none.mp hfound route hmem
        simp [hsame] at hnot
      rw [if_neg hkey, Router.handlerFor, hfound]
      rfl
    | some route =>
      have hroute : route.key = key := by simpa using List.find?_some hfound
      rw [Router.handlerFor, hfound, Option.map_some, Option.map_some, Option.map_some,
        overrideHandler, hroute]
      by_cases hkey : added.key = key
      · rw [if_pos hkey, if_pos hkey.symm]
      · rw [if_neg hkey, if_neg (Ne.symm hkey)]

/-- The table is the map of the last registrations, of which there are none before it is
initialized. -/
structure Registrar.Maps (s : Registrar H) : Prop where
  handlers : ∀ key, s.router.handlerFor key = (s.last key).map Route.handler
  idle : s.router.initialized = false → s.registered = []

/-- Before any call both are empty. -/
theorem Registrar.maps_start (initialized : Bool) :
    (Registrar.start initialized : Registrar H).Maps := ⟨fun _ => rfl, fun _ => rfl⟩

/-- A call for one route registers it, or changes nothing. -/
theorem Registrar.registerRoute_cases (s : Registrar H) (args : RouteArgs H) :
    s.registerRoute args = (s, -1) ∨
      ∃ added router, args.route = some added ∧
        s.router.httpRouterRegisterRoute added = some router ∧
        s.registerRoute args = (⟨router, added :: s.registered⟩, 0) := by
  unfold Registrar.registerRoute
  by_cases hready : s.router.initialized = true
  · rw [if_neg (by simp [hready])]
    match hargs : args with
    | ⟨none, _, _, _⟩ | ⟨some _, _, none, _⟩ | ⟨some _, _, some _, none⟩ => exact .inl rfl
    | ⟨some path, method, some handler, some moduleName⟩ =>
      dsimp only
      split_ifs with hfull
      · exact .inl rfl
      · cases hmethod : Method.ofNat? method with
        | none => exact .inl rfl
        | some m =>
          dsimp only
          cases hregister : s.router.httpRouterRegisterRoute ⟨path, m, handler⟩ with
          | none => exact .inl rfl
          | some router =>
            exact .inr ⟨_, router, by simp [RouteArgs.route, hmethod], hregister, rfl⟩
  · exact .inl (if_pos (by simpa using hready))

/-- What does not register anything leaves the table as it was. -/
theorem Registrar.registerRoute_failed {args : RouteArgs H} (h : (s.registerRoute args).2 < 0) :
    (s.registerRoute args).1 = s := by
  rcases s.registerRoute_cases args with hsame | ⟨added, router, -, -, hnext⟩
  · rw [hsame]
  · rw [hnext] at h
    exact absurd h (Int.lt_irrefl 0)

/-- A registration keeps the map. -/
theorem Registrar.Maps.registerRoute (h : s.Maps) (args : RouteArgs H) :
    (s.registerRoute args).1.Maps := by
  rcases s.registerRoute_cases args with hsame | ⟨added, router, -, hregister, hnext⟩
  · rwa [hsame]
  · rw [hnext]
    have hready : router.initialized = true := by
      rw [(Router.routes_of_register hregister).1]
      by_contra hidle
      rw [Router.httpRouterRegisterRoute, if_pos (by simpa using hidle)] at hregister
      cases hregister
    refine ⟨fun key => ?_, fun hidle => Bool.noConfusion (hready.symm.trans hidle)⟩
    rw [Router.handlerFor_of_register hregister, h.handlers key, Registrar.last, Registrar.last,
      List.find?_cons]
    by_cases hkey : added.key = key
    · simp [hkey]
    · simp [hkey]

/-- So does a list of them, up to the first one that fails. -/
theorem Registrar.Maps.registerAll (h : s.Maps) (routeList : List (RouteArgs H)) :
    (s.registerAll routeList).1.Maps := by
  induction routeList generalizing s with
  | nil => exact h
  | cons args routeList ih =>
    rw [Registrar.registerAll]
    have hnext := h.registerRoute args
    cases hregister : s.registerRoute args with
    | mk next ret =>
      rw [hregister] at hnext
      dsimp only
      split_ifs
      · exact hnext
      · exact ih hnext

/-- And each call. -/
theorem Registrar.Maps.call (h : s.Maps) (c : RegisterCall H) : (s.call c).Maps := by
  match c with
  | .route args => exact h.registerRoute args
  | .routes none => exact h
  | .routes (some routeList) => exact h.registerAll routeList

end Map

/-! ### Requests -/

/-- A request: the method, the target, and what follows. -/
def requestFor (method target rest : List UInt8) : List UInt8 :=
  method ++ ' '.toUInt8 :: (target ++ ' '.toUInt8 :: rest)

section Requests

variable {method target path rest : List UInt8}

/-- The method of a request is the one with its name. -/
theorem extractMethod_requestFor (hmethod : ' '.toUInt8 ∉ method) (m : Method) :
    extractMethod (requestFor method target rest) = some m ↔ m.name = method := by
  have hbegins (m : Method) :
      m.name ++ [' '.toUInt8] <+: requestFor method target rest ↔ m.name = method := by
    have hname : ' '.toUInt8 ∉ m.name := by cases m <;> decide
    constructor
    · rintro ⟨more, hmore⟩
      rw [List.append_assoc] at hmore
      exact (append_cons_inj hname hmethod hmore).1
    · rintro rfl
      exact ⟨target ++ ' '.toUInt8 :: rest, List.append_assoc _ _ _⟩
  have hget := hbegins .get
  have hpost := hbegins .post
  have hput := hbegins .put
  have hdelete := hbegins .delete
  change ascii "GET " <+: _ ↔ _ at hget
  change ascii "POST " <+: _ ↔ _ at hpost
  change ascii "PUT " <+: _ ↔ _ at hput
  change ascii "DELETE " <+: _ ↔ _ at hdelete
  simp only [extractMethod, hget, hpost, hput, hdelete]
  constructor
  · intro h
    split_ifs at h with hg hp hu hd
    · exact Option.some.inj h ▸ hg
    · exact Option.some.inj h ▸ hp
    · exact Option.some.inj h ▸ hu
    · exact Option.some.inj h ▸ hd
  · rintro rfl
    cases m <;> decide

/-- The path of a request is its target up to the query. -/
theorem extractPath_requestFor {size : ℕ} (hmethod : ' '.toUInt8 ∉ method)
    (htarget : ' '.toUInt8 ∉ target) :
    extractPath size (requestFor method target rest) =
      if size ≤ target.length then none else some (target.takeWhile (· ≠ '?'.toUInt8)) := by
  simp only [extractPath, requestFor, strchr_append hmethod, strchr_append htarget,
    Option.bind_eq_bind, Option.bind_some, List.drop_succ_cons, List.drop_zero, between_append]

/-- A request is dispatched by both. -/
theorem requestKey_eq_some_iff {request : List UInt8} {m : Method} :
    requestKey request = some (m, path) ↔
      extractMethod request = some m ∧ extractPath 256 request = some path := by
  unfold requestKey
  cases extractMethod request <;> cases extractPath 256 request <;> simp

/-- A route has this method, and this path up to the query. -/
def Route.Answers (route : Route H) (method target : List UInt8) : Prop :=
  route.method.name = method ∧ route.path = target.takeWhile (· ≠ '?'.toUInt8)

/-- What a request is dispatched to. -/
theorem Router.httpRouterDispatch_requestFor {router : Router H} (hmethod : ' '.toUInt8 ∉ method)
    (htarget : ' '.toUInt8 ∉ target) {route : Route H} :
    router.httpRouterDispatch (requestFor method target rest) = some route ↔
      target.length < 256 ∧ router.initialized = true ∧ route ∈ router.routes ∧
        route.Answers method target := by
  rw [Router.httpRouterDispatch_eq_some_iff, Route.key, requestKey_eq_some_iff,
    extractMethod_requestFor hmethod, extractPath_requestFor hmethod htarget, Route.Answers]
  split_ifs with hlong
  · simp [Nat.not_lt.mpr hlong]
  · simp only [Option.some_inj, Nat.lt_of_not_le hlong, true_and, eq_comm]

end Requests

/-- The table has at most one route for each method and path; a request runs the handler that was
registered last for its method and path, and none if there is none; and a call for one route that
fails changes nothing. -/
structure Registrar.IsMap (s : Registrar H) : Prop where
  distinct : (s.router.routes.map Route.key).Nodup
  dispatches : ∀ (m : Method) (path rest : List UInt8), path.length < 256 →
    ' '.toUInt8 ∉ path → '?'.toUInt8 ∉ path →
      (s.router.httpRouterDispatch (requestFor m.name path rest)).map Route.handler =
        (s.last (m, path)).map Route.handler
  failed : ∀ args, (s.registerRoute args).2 < 0 → (s.registerRoute args).1.router = s.router

/-- In an initialized table a request without a query is dispatched to the route with its
method and path. -/
theorem Router.httpRouterDispatch_path {router : Router H} (hready : router.initialized = true)
    {m : Method} {path rest : List UInt8} (hlength : path.length < 256)
    (hspace : ' '.toUInt8 ∉ path) (hquery : '?'.toUInt8 ∉ path) :
    (router.httpRouterDispatch (requestFor m.name path rest)).map Route.handler =
      router.handlerFor (m, path) := by
  have hname : ' '.toUInt8 ∉ m.name := by cases m <;> decide
  have hpath : path.takeWhile (· ≠ '?'.toUInt8) = path := by
    rw [List.takeWhile_eq_self_iff]
    intro b hb
    have hne : b ≠ '?'.toUInt8 := fun heq => hquery (heq ▸ hb)
    simpa using hne
  have hkey : requestKey (requestFor m.name path rest) = some (m, path) := by
    rw [requestKey_eq_some_iff, extractMethod_requestFor hname,
      extractPath_requestFor hname hspace, if_neg (Nat.not_le.mpr hlength), hpath]
    exact ⟨rfl, rfl⟩
  rw [Router.httpRouterDispatch, if_neg (by simp [hready]), hkey]
  rfl

section Queries

variable {router : Router H} {method path query rest : List UInt8}

/-- A route is registered for the method and the path, or for what is in front of a query in
it. -/
def Router.Serves (router : Router H) (method path : List UInt8) : Prop :=
  router.initialized = true ∧ ∃ route ∈ router.routes, route.Answers method path

/-- What is behind the target does not matter. -/
theorem Router.httpRouterDispatch_rest (hmethod : ' '.toUInt8 ∉ method)
    (hpath : ' '.toUInt8 ∉ path) (rest rest' : List UInt8) :
    router.httpRouterDispatch (requestFor method path rest) =
      router.httpRouterDispatch (requestFor method path rest') := by
  refine Option.ext fun route => ?_
  rw [httpRouterDispatch_requestFor hmethod hpath, httpRouterDispatch_requestFor hmethod hpath]

/-- A route for the path answers it with a query as well. -/
theorem Route.answers_query {route : Route H} :
    route.Answers method (path ++ '?'.toUInt8 :: query) ↔ route.Answers method path := by
  have hcut : (path ++ '?'.toUInt8 :: query).takeWhile (· ≠ '?'.toUInt8) =
      path.takeWhile (· ≠ '?'.toUInt8) := by
    induction path with
    | nil => rfl
    | cons b path ih =>
      rw [List.cons_append, List.takeWhile_cons, List.takeWhile_cons, ih]
  rw [Route.Answers, Route.Answers, hcut]

/-- A request with a query behind the path is dispatched like the one without it exactly if they
fit into the 256 bytes of the path, or nothing is there for the path, or the path has a space and
is cut there in both. -/
theorem Router.httpRouterDispatch_query_iff (router : Router H)
    (method path query rest : List UInt8) (hmethod : ' '.toUInt8 ∉ method)
    (hquery : ' '.toUInt8 ∉ query) (hlength : path.length < 256) :
    router.httpRouterDispatch (requestFor method (path ++ '?'.toUInt8 :: query) rest) =
        router.httpRouterDispatch (requestFor method path rest) ↔
      (path ++ '?'.toUInt8 :: query).length < 256 ∨ ¬router.Serves method path ∨
        ' '.toUInt8 ∈ path := by
  by_cases hspace : ' '.toUInt8 ∈ path
  · refine iff_of_true ?_ (.inr (.inr hspace))
    obtain ⟨front, tail, rfl, hfront⟩ := List.eq_append_cons_of_mem hspace
    have hcut (behind : List UInt8) : requestFor method (front ++ ' '.toUInt8 :: behind) rest =
        requestFor method front (behind ++ ' '.toUInt8 :: rest) := by
      rw [requestFor, requestFor, List.append_assoc, List.cons_append]
    rw [List.append_assoc, List.cons_append, hcut, hcut]
    exact httpRouterDispatch_rest hmethod hfront _ _
  · have htarget : ' '.toUInt8 ∉ path ++ '?'.toUInt8 :: query := by
      rw [List.mem_append, List.mem_cons]
      rintro (hmem | hmark | hmem)
      · exact hspace hmem
      · exact absurd hmark (by decide)
      · exact hquery hmem
    constructor
    · intro hsame
      refine or_iff_not_imp_left.mpr fun hlong => .inl ?_
      rintro ⟨hready, route, hmem, hanswers⟩
      have hfound : router.httpRouterDispatch (requestFor method path rest) = some route :=
        (httpRouterDispatch_requestFor hmethod hspace).mpr ⟨hlength, hready, hmem, hanswers⟩
      rw [← hsame, httpRouterDispatch_requestFor hmethod htarget] at hfound
      exact hlong hfound.1
    · intro h
      refine Option.ext fun route => ?_
      rw [httpRouterDispatch_requestFor hmethod htarget,
        httpRouterDispatch_requestFor hmethod hspace, Route.answers_query]
      refine and_congr_left fun ⟨hready, hmem, hanswers⟩ => ?_
      rcases h with hshort | hnone | hmem
      · exact iff_of_true hshort hlength
      · exact absurd ⟨hready, route, hmem, hanswers⟩ hnone
      · exact absurd hmem hspace

end Queries

/-- The router with the routes of the camera. -/
def cameraRouter : Router Handler :=
  (httpRouterInit.httpRouterRegisterRoutes (coreRoutes ++ onvifRoutes)).getD httpRouterInit

/-- A short query does no harm. -/
theorem Router.httpRouterDispatch_query_short :
    cameraRouter.httpRouterDispatch
        (requestFor (ascii "GET") (ascii "/config.json" ++ '?'.toUInt8 :: ascii "now") []) =
      cameraRouter.httpRouterDispatch (requestFor (ascii "GET") (ascii "/config.json") []) :=
  (Router.httpRouterDispatch_query_iff cameraRouter (ascii "GET") (ascii "/config.json")
    (ascii "now") [] (by decide) (by decide) (by decide)).mpr (.inl (by decide))

/-- A query of 250 bytes makes the request one for an unknown path. -/
theorem Router.not_httpRouterDispatch_query_long :
    ¬∀ (router : Router Handler) (m : Method) (path query rest : List UInt8),
      (∃ route ∈ router.routes, route.path = path) → path.length < 256 → ' '.toUInt8 ∉ query →
      (requestFor m.name (path ++ '?'.toUInt8 :: query) rest).length ≤ 8191 →
      router.httpRouterDispatch (requestFor m.name (path ++ '?'.toUInt8 :: query) rest) =
        router.httpRouterDispatch (requestFor m.name path rest) := by
  intro h
  have hsame := h cameraRouter .get (ascii "/config.json") (List.replicate 250 'a'.toUInt8) []
    (by decide +kernel) (by decide) (by decide +kernel) (by decide +kernel)
  exact absurd hsame (by decide +kernel)

end Http
