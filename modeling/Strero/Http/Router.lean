import Mathlib.Data.List.Nodup
import Strero.Lib.CString

/-!
# The HTTP router

Modules register routes, each with a path, a method and a handler. A request is
dispatched by the method and the path of its first line. What the routes hold for
the documentation of the interface is left out.
-/

namespace Http

open CString

variable {H : Type}

/-- `http_method_t`. -/
inductive Method
  | get | post | put | delete
deriving DecidableEq, Repr

/-- `http_route_t`, with handlers of any type. -/
structure Route (H : Type) where
  path : List UInt8
  method : Method
  handler : H
deriving DecidableEq

/-- What a route is found by. -/
def Route.key (route : Route H) : Method × List UInt8 := (route.method, route.path)

/-- `MAX_ROUTES`. -/
def maxRoutes : ℕ := 128

/-- The table of routes. No two routes have the same method and path. -/
structure Router (H : Type) where
  initialized : Bool
  routes : List (Route H)
  fits : routes.length ≤ maxRoutes
  distinct : (routes.map Route.key).Nodup

/-- `http_router_init`. -/
def httpRouterInit : Router H := ⟨true, [], Nat.zero_le _, List.nodup_nil⟩

/-- The handler of the route for a method and a path is replaced. -/
def overrideHandler (added : Route H) (route : Route H) : Route H :=
  if route.key = added.key then { route with handler := added.handler } else route

theorem overrideHandler_key (added route : Route H) :
    (overrideHandler added route).key = route.key := by
  unfold overrideHandler
  split <;> rfl

/-- `http_router_register_route`. -/
def Router.httpRouterRegisterRoute (router : Router H) (added : Route H) : Option (Router H) :=
  if !router.initialized then none
  else if hroom : router.routes.length < maxRoutes then
    if hnew : added.key ∉ router.routes.map Route.key then
      some {
        initialized := router.initialized
        routes := router.routes ++ [added]
        fits := by
          rw [List.length_append, List.length_singleton]
          exact hroom
        distinct := by
          rw [List.map_append, List.map_singleton, List.nodup_append_comm]
          exact List.nodup_cons.mpr ⟨hnew, router.distinct⟩ }
    else
      some {
        initialized := router.initialized
        routes := router.routes.map (overrideHandler added)
        fits := by
          rw [List.length_map]
          exact router.fits
        distinct := by
          have hkeys : Route.key ∘ overrideHandler added = Route.key :=
            funext (overrideHandler_key added)
          rw [List.map_map, hkeys]
          exact router.distinct }
  else none

/-- `http_router_register_routes`. -/
def Router.httpRouterRegisterRoutes (router : Router H) (routeList : List (Route H)) :
    Option (Router H) :=
  routeList.foldlM Router.httpRouterRegisterRoute router

/-- `extract_method`. -/
def extractMethod (request : List UInt8) : Option Method :=
  if ascii "GET " <+: request then some .get
  else if ascii "POST " <+: request then some .post
  else if ascii "PUT " <+: request then some .put
  else if ascii "DELETE " <+: request then some .delete
  else none

/-- `extract_path`: what stands between the first two spaces, up to the query. -/
def extractPath (bufferSize : ℕ) (request : List UInt8) : Option (List UInt8) := do
  let space ← strchr request ' '.toUInt8
  let start := space.drop 1
  let stop ← strchr start ' '.toUInt8
  let target := between start stop
  if bufferSize ≤ target.length then none else some (target.takeWhile (· ≠ '?'.toUInt8))

/-- The method and the path that a request is dispatched by. -/
def requestKey (request : List UInt8) : Option (Method × List UInt8) := do
  let method ← extractMethod request
  let path ← extractPath 256 request
  return (method, path)

/-- `http_router_dispatch`: the route whose handler is called, if it returns zero. -/
def Router.httpRouterDispatch (router : Router H) (request : List UInt8) : Option (Route H) :=
  if !router.initialized then none
  else (requestKey request).bind fun key => router.routes.find? fun route => route.key = key

/-- A request goes to a registered route with its method and path, and there is no other
such route. -/
theorem Router.httpRouterDispatch_eq_some_iff {router : Router H} {request : List UInt8}
    {route : Route H} :
    router.httpRouterDispatch request = some route ↔
      router.initialized = true ∧ route ∈ router.routes ∧ requestKey request = some route.key := by
  unfold Router.httpRouterDispatch
  cases hinitialized : router.initialized with
  | false => simp
  | true =>
    rw [Bool.not_true, if_neg Bool.false_ne_true, Option.bind_eq_some_iff]
    constructor
    · rintro ⟨key, hkey, hfind⟩
      have hroute := List.find?_some hfind
      refine ⟨rfl, List.mem_of_find?_eq_some hfind, ?_⟩
      rw [hkey, of_decide_eq_true hroute]
    · rintro ⟨-, hmem, hkey⟩
      refine ⟨route.key, hkey, ?_⟩
      obtain ⟨found, hfound⟩ := Option.isSome_iff_exists.mp
        (List.find?_isSome (p := fun other => decide (other.key = route.key)).mpr
          ⟨route, hmem, decide_eq_true rfl⟩)
      have hsame : found.key = route.key := by simpa using List.find?_some hfound
      obtain rfl := List.inj_on_of_nodup_map router.distinct
        (List.mem_of_find?_eq_some hfound) hmem hsame
      exact hfound

/-! ### The routes of the camera -/

/-- The handlers of the core routes, for a channel where there are several of a kind, and
that of the ONVIF service. -/
inductive Handler
  | apiOverview | statusJson | configJson | infoJson | healthJson | testJpg
  | snapJpg (channel : Fin 4)
  | streamMjpeg (channel : Fin 4)
  | streamH264 (channel : Fin 4)
  | onvifRequest
deriving DecidableEq

/-- A route for GET requests. -/
def getRoute (path : String) (handler : Handler) : Route Handler := ⟨ascii path, .get, handler⟩

/-- `core_routes`. -/
def coreRoutes : List (Route Handler) :=
  [getRoute "/" .apiOverview,
    getRoute "/status.json" .statusJson, getRoute "/config.json" .configJson,
    getRoute "/info.json" .infoJson, getRoute "/health.json" .healthJson,
    getRoute "/snap0.jpg" (.snapJpg 0), getRoute "/snap1.jpg" (.snapJpg 1),
    getRoute "/snap2.jpg" (.snapJpg 2), getRoute "/snap3.jpg" (.snapJpg 3),
    getRoute "/test.jpg" .testJpg,
    getRoute "/stream0.mjpeg" (.streamMjpeg 0), getRoute "/stream1.mjpeg" (.streamMjpeg 1),
    getRoute "/stream2.mjpeg" (.streamMjpeg 2), getRoute "/stream3.mjpeg" (.streamMjpeg 3),
    getRoute "/stream0.h264" (.streamH264 0), getRoute "/stream1.h264" (.streamH264 1),
    getRoute "/stream2.h264" (.streamH264 2), getRoute "/stream3.h264" (.streamH264 3),
    getRoute "/stream0.mp4" (.streamH264 0), getRoute "/stream1.mp4" (.streamH264 1),
    getRoute "/stream2.mp4" (.streamH264 2), getRoute "/stream3.mp4" (.streamH264 3)]

/-- A route of the ONVIF service. -/
def onvifRoute (path : String) (method : Method) : Route Handler :=
  ⟨ascii path, method, .onvifRequest⟩

/-- `onvif_routes`. -/
def onvifRoutes : List (Route Handler) :=
  [onvifRoute "/onvif/device_service" .get, onvifRoute "/onvif/device_service" .post,
    onvifRoute "/onvif/media_service" .get, onvifRoute "/onvif/media_service" .post,
    onvifRoute "/onvif/event_service" .get, onvifRoute "/onvif/event_service" .post,
    onvifRoute "/onvif/imaging_service" .get, onvifRoute "/onvif/imaging_service" .post,
    onvifRoute "/onvif/ptz_service" .get, onvifRoute "/onvif/ptz_service" .post,
    onvifRoute "/onvif/snapshot" .get]

end Http
