import Strero.Lib.Inventory
import Strero.Motion.Events

/-!
# The resources of the motion detector

The detector of the SDK is set up in six steps, and a failed step undoes those before it. What
the SDK answers comes from outside. The calls that create and destroy objects of the SDK are
proper in every run in which the frame source is bound and the channel started once they are
reached: the two undo lists after that destroy a binding that does not exist.
-/

namespace Motion

open Inventory Runs

/-! ### The calls to the SDK -/

/-- An `IMPRect` with the sensitivity in it. -/
structure Roi where
  sense : Int32
  p0x : Int32
  p0y : Int32
  p1x : Int32
  p1y : Int32
deriving DecidableEq

/-- What is set of an `IMP_IVS_MoveParam`. `roiRectCnt` is the number of the regions. -/
structure MoveParam where
  width : Int32
  height : Int32
  skipFrameCnt : Int32
  rois : List Roi
deriving DecidableEq

/-- `ivs_group_id` and `ivs_channel_id`. -/
def ivsGroupId : ℕ := 0

def ivsChannelId : ℕ := 0

/-- A call to the SDK, with the answer where the module looks at it. -/
inductive Call
  | createGroup (id : ℕ) (ok : Bool)
  | destroyGroup (id : ℕ)
  | createMoveInterface (param : MoveParam) (pointer : Option ℕ)
  | destroyMoveInterface (pointer : ℕ)
  | createChn (id : ℕ) (pointer : ℕ) (ok : Bool)
  | destroyChn (id : ℕ)
  | registerChn (group id : ℕ) (ok : Bool)
  | unRegisterChn (id : ℕ)
  | bind (stream : Int32) (group : ℕ) (ok : Bool)
  | unBind (stream : Int32) (group : ℕ)
  | startRecvPic (id : ℕ) (ok : Bool)
  | stopRecvPic (id : ℕ)

/-- What the SDK answers in the course of one setup, and whether the thread can be created. -/
structure Answers where
  createGroup : Bool
  createMoveInterface : Option ℕ
  createChn : Bool
  registerChn : Bool
  bind : Bool
  startRecvPic : Bool
  pthreadCreate : Bool
deriving DecidableEq

/-! ### The module -/

/-- `motion_module_state_t`, without the thread. -/
structure State where
  initialized : Bool
  running : Bool
  config : Config
  ivsInterface : Option ℕ
  detection : Detection

/-- The state after `memset` to zero. -/
def State.zeroed : State := ⟨false, false, .zeroed, none, .reset⟩

/-- The region of a zone. -/
def Zone.roi (sensitivity : Int32) (z : Zone) : Roi where
  sense := sensitivity
  p0x := z.x
  p0y := z.y
  p1x := z.x + z.width
  p1y := z.y + z.height

/-- The parameters of the detector: the first zones that are included, as many as there is room
for. -/
def Config.moveParam (maxRoiCnt : ℕ) (c : Config) : MoveParam where
  width := c.frameWidth
  height := c.frameHeight
  skipFrameCnt := c.skipFrameCount
  rois := ((c.inUse.filter fun zone => zone.type.bytes = includeType).take maxRoiCnt).map
    (Zone.roi c.sensitivity)

/-- `motion_cleanup_ivs`. -/
def motionCleanupIvs (s : State) : List Call × State :=
  ([.stopRecvPic ivsChannelId, .unBind s.config.monitorStream ivsGroupId,
      .unRegisterChn ivsChannelId, .destroyChn ivsChannelId] ++
    (s.ivsInterface.map Call.destroyMoveInterface).toList ++ [.destroyGroup ivsGroupId],
    { s with ivsInterface := none })

/-- `motion_setup_ivs`, with whether it returns zero. -/
def motionSetupIvs (maxRoiCnt : ℕ) (s : State) (a : Answers) : Bool × List Call × State :=
  let param := s.config.moveParam maxRoiCnt
  let stream := s.config.monitorStream
  if !a.createGroup then (false, [.createGroup ivsGroupId false], s)
  else
    let made := [.createGroup ivsGroupId true, .createMoveInterface param a.createMoveInterface]
    let s := { s with ivsInterface := a.createMoveInterface }
    match a.createMoveInterface with
    | none => (false, made ++ [.destroyGroup ivsGroupId], s)
    | some pointer =>
      let made := made ++ [.createChn ivsChannelId pointer a.createChn]
      let undo := [.destroyMoveInterface pointer, .destroyGroup ivsGroupId]
      if !a.createChn then (false, made ++ undo, s)
      else
        let made := made ++ [.registerChn ivsGroupId ivsChannelId a.registerChn]
        if !a.registerChn then (false, made ++ .destroyChn ivsChannelId :: undo, s)
        else
          let made := made ++ [.bind stream ivsGroupId a.bind]
          let cleanup := motionCleanupIvs s
          if !a.bind then (false, made ++ cleanup.1, cleanup.2)
          else
            let made := made ++ [.startRecvPic ivsChannelId a.startRecvPic]
            if !a.startRecvPic then
              (false, made ++ .unBind stream ivsGroupId :: cleanup.1, cleanup.2)
            else (true, made, s)

/-- `motion_module_start`, with its return value. -/
def motionModuleStart (maxRoiCnt : ℕ) (s : State) (a : Answers) : ℤ × List Call × State :=
  if !s.initialized then (-1, [], s)
  else if s.running then (0, [], s)
  else if !s.config.enabled then (0, [], s)
  else
    let setup := motionSetupIvs maxRoiCnt s a
    if !setup.1 then (-1, setup.2)
    else if !a.pthreadCreate then
      let cleanup := motionCleanupIvs setup.2.2
      (-1, setup.2.1 ++ cleanup.1, cleanup.2)
    else (0, setup.2.1, { setup.2.2 with running := true })

/-- `motion_module_stop`. The thread is joined. -/
def motionModuleStop (s : State) : List Call × State :=
  if !s.running then ([], s)
  else
    let cleanup := motionCleanupIvs s
    (cleanup.1, { cleanup.2 with running := false })

/-- `motion_module_cleanup`. -/
def motionModuleCleanup (s : State) : List Call × State :=
  let stopped := if s.running then motionModuleStop s else ([], s)
  if !stopped.2.initialized then stopped else (stopped.1, .zeroed)

/-- What `motion_module_init` meets: the two files of the zones, the channels, and whether the
mutex can be initialised. -/
structure Surroundings where
  files : List (Option (List UInt8))
  chn : Fin fsChnNum → Channel
  mutexInit : Bool

variable (J : Tokener)

/-- The configuration that `motion_module_init` makes of the one it is given. -/
def Config.prepared (c : Config) (surroundings : Surroundings) : Config :=
  let loaded := loadRoiConfig J surroundings.files c
  loaded.withDimensions (motionGetChannelDimensions surroundings.chn loaded.monitorStream)

/-- `motion_module_init`, with its return value. -/
def motionModuleInit (s : State) (config : Option Config) (surroundings : Surroundings) :
    ℤ × State :=
  if s.initialized then (0, s)
  else
    match config with
    | none => (-1, s)
    | some c =>
      let s := { s with config := c.prepared J surroundings }
      if !surroundings.mutexInit then (-1, s)
      else (0, { s with initialized := true, detection := .reset })

/-! ### Runs -/

/-- The objects of the SDK: groups, channels, move interfaces by their pointers, and bindings of
a frame source to a group. -/
inductive Object
  | group (id : ℕ)
  | chn (id : ℕ)
  | moveInterface (pointer : ℕ)
  | binding (stream : Int32) (group : ℕ)
deriving DecidableEq

/-- The kinds of objects. -/
inductive Kind
  | group | chn | moveInterface | binding
deriving DecidableEq

def Object.kind : Object → Kind
  | .group _ => .group
  | .chn _ => .chn
  | .moveInterface _ => .moveInterface
  | .binding _ _ => .binding

/-- What a call does to an object, if it succeeds. -/
def Call.actions : Call → List (Action Object)
  | .createGroup id true => [.create (.group id)]
  | .destroyGroup id => [.destroy (.group id)]
  | .createMoveInterface _ (some pointer) => [.create (.moveInterface pointer)]
  | .destroyMoveInterface pointer => [.destroy (.moveInterface pointer)]
  | .createChn id _ true => [.create (.chn id)]
  | .destroyChn id => [.destroy (.chn id)]
  | .bind stream group true => [.create (.binding stream group)]
  | .unBind stream group => [.destroy (.binding stream group)]
  | _ => []

/-- The calls of the module's interface, each with what it meets. -/
inductive Operation
  | init (config : Option Config) (surroundings : Surroundings)
  | start (a : Answers)
  | stop
  | cleanup

/-- The module and the objects of the SDK that exist. -/
structure System where
  state : State
  live : List Object

/-- Before the first call. -/
def System.first : System := ⟨.zeroed, []⟩

/-- The calls to the SDK in the course of an operation, and the state after it. -/
def State.perform (maxRoiCnt : ℕ) (s : State) : Operation → List Call × State
  | .init config surroundings => ([], (motionModuleInit J s config surroundings).2)
  | .start a => (motionModuleStart maxRoiCnt s a).2
  | .stop => motionModuleStop s
  | .cleanup => motionModuleCleanup s

/-- What the calls of an operation do to objects. -/
def State.actions (maxRoiCnt : ℕ) (s : State) (op : Operation) : List (Action Object) :=
  (s.perform J maxRoiCnt op).1.flatMap Call.actions

/-- One operation. -/
def System.step (maxRoiCnt : ℕ) (sys : System) (op : Operation) : System :=
  ⟨(sys.state.perform J maxRoiCnt op).2,
    (sys.state.actions J maxRoiCnt op).foldl Inventory.step sys.live⟩

/-- No object is created while there is one of its kind, and only objects that exist are
destroyed. -/
def System.Orderly (maxRoiCnt : ℕ) (sys : System) (op : Operation) : Prop :=
  AllProper Object.kind sys.live (sys.state.actions J maxRoiCnt op)

/-- The setup gets as far as the binding. -/
def Answers.reachBind (a : Answers) : Bool :=
  a.createGroup && a.createMoveInterface.isSome && a.createChn && a.registerChn

/-- A start that gets as far as the binding meets no failure there or at the start of the
channel. -/
def System.Binds (sys : System) : Operation → Prop
  | .start a => sys.state.initialized = true → sys.state.running = false →
    sys.state.config.enabled = true → a.reachBind = true → a.bind = true ∧ a.startRecvPic = true
  | _ => True

/-- What a setup acquires. -/
def acquired (stream : Int32) (pointer : ℕ) : List Object :=
  [.group ivsGroupId, .moveInterface pointer, .chn ivsChannelId, .binding stream ivsGroupId]

/-- Nothing exists while the module is not running, and all that a setup acquires while it is. -/
structure System.Accounted (sys : System) : Prop where
  idle : sys.state.running = false → sys.live = []
  busy : sys.state.running = true → sys.state.initialized = true ∧
    ∃ pointer, sys.state.ivsInterface = some pointer ∧
      sys.live = (acquired sys.state.config.monitorStream pointer).reverse

theorem first_accounted : System.first.Accounted where
  idle _ := rfl
  busy := by simp [System.first, State.zeroed]

variable {maxRoiCnt : ℕ} {s : State} {a : Answers} {stream : Int32} {pointer : ℕ}

/-- The objects of a setup are of different kinds, however far it gets. -/
theorem acquired_take_kinds (stream : Int32) (pointer n : ℕ) :
    ((((acquired stream pointer).take n).reverse ++ []).map Object.kind).Nodup := by
  have hkinds : ((acquired stream pointer).map Object.kind).Nodup := by
    dsimp only [acquired, List.map, Object.kind]
    decide
  rw [List.append_nil, List.map_reverse, List.nodup_reverse]
  exact hkinds.sublist ((List.take_sublist n _).map _)

theorem acquired_kinds : (((acquired stream pointer).reverse ++ []).map Object.kind).Nodup :=
  acquired_take_kinds stream pointer 4

/-- The cleanup gives back the binding and what was acquired before it. -/
theorem cleanup_actions (h : s.ivsInterface = some pointer) :
    (motionCleanupIvs s).1.flatMap Call.actions =
      (acquired s.config.monitorStream pointer).reverse.map .destroy := by
  unfold motionCleanupIvs
  rw [h]
  rfl

/-- A setup that does not get as far as the binding undoes what it has acquired. -/
theorem setup_early (maxRoiCnt : ℕ) (s : State) (h : a.reachBind = false) :
    (motionSetupIvs maxRoiCnt s a).1 = false ∧
      (∃ n pointer, (motionSetupIvs maxRoiCnt s a).2.1.flatMap Call.actions =
        undone ((acquired s.config.monitorStream pointer).take n)) ∧
      (motionSetupIvs maxRoiCnt s a).2.2.running = s.running := by
  obtain ⟨group, interface, chn, registered, bound, started, thread⟩ := a
  unfold Answers.reachBind at h
  unfold motionSetupIvs
  cases group with
  | false => exact ⟨rfl, ⟨0, 0, rfl⟩, rfl⟩
  | true =>
    cases interface with
    | none => exact ⟨rfl, ⟨1, 0, rfl⟩, rfl⟩
    | some pointer =>
      cases chn with
      | false => exact ⟨rfl, ⟨2, pointer, rfl⟩, rfl⟩
      | true =>
        cases registered with
        | false => exact ⟨rfl, ⟨3, pointer, rfl⟩, rfl⟩
        | true => simp at h

/-- A setup that fails at the binding destroys a binding that does not exist. -/
theorem setup_bind_fails (maxRoiCnt : ℕ) (s : State) (h : a.reachBind = true)
    (hbind : a.bind = false) :
    (motionSetupIvs maxRoiCnt s a).1 = false ∧
      (∃ pointer, (motionSetupIvs maxRoiCnt s a).2.1.flatMap Call.actions =
        ((acquired s.config.monitorStream pointer).take 3).map .create ++
          (acquired s.config.monitorStream pointer).reverse.map .destroy) ∧
      (motionSetupIvs maxRoiCnt s a).2.2.running = s.running := by
  obtain ⟨group, interface, chn, registered, bound, started, thread⟩ := a
  obtain rfl : bound = false := hbind
  simp only [Answers.reachBind, Bool.and_eq_true, Option.isSome_iff_exists] at h
  obtain ⟨⟨⟨rfl, pointer, rfl⟩, rfl⟩, rfl⟩ := h
  exact ⟨rfl, ⟨pointer, rfl⟩, rfl⟩

/-- A setup that fails at the start of the channel destroys the binding twice. -/
theorem setup_start_fails (maxRoiCnt : ℕ) (s : State) (h : a.reachBind = true)
    (hbind : a.bind = true) (hstart : a.startRecvPic = false) :
    (motionSetupIvs maxRoiCnt s a).1 = false ∧
      (∃ pointer, (motionSetupIvs maxRoiCnt s a).2.1.flatMap Call.actions =
        (acquired s.config.monitorStream pointer).map .create ++
          .destroy (.binding s.config.monitorStream ivsGroupId) ::
            (acquired s.config.monitorStream pointer).reverse.map .destroy) ∧
      (motionSetupIvs maxRoiCnt s a).2.2.running = s.running := by
  obtain ⟨group, interface, chn, registered, bound, started, thread⟩ := a
  obtain rfl : bound = true := hbind
  obtain rfl : started = false := hstart
  simp only [Answers.reachBind, Bool.and_eq_true, Option.isSome_iff_exists] at h
  obtain ⟨⟨⟨rfl, pointer, rfl⟩, rfl⟩, rfl⟩ := h
  exact ⟨rfl, ⟨pointer, rfl⟩, rfl⟩

/-- A setup that succeeds has acquired everything. -/
theorem setup_succeeds (maxRoiCnt : ℕ) (s : State) (h : a.reachBind = true)
    (hbind : a.bind = true) (hstart : a.startRecvPic = true) :
    (motionSetupIvs maxRoiCnt s a).1 = true ∧
      ∃ pointer, (motionSetupIvs maxRoiCnt s a).2.1.flatMap Call.actions =
          (acquired s.config.monitorStream pointer).map .create ∧
        (motionSetupIvs maxRoiCnt s a).2.2 = { s with ivsInterface := some pointer } := by
  obtain ⟨group, interface, chn, registered, bound, started, thread⟩ := a
  obtain rfl : bound = true := hbind
  obtain rfl : started = true := hstart
  simp only [Answers.reachBind, Bool.and_eq_true, Option.isSome_iff_exists] at h
  obtain ⟨⟨⟨rfl, pointer, rfl⟩, rfl⟩, rfl⟩ := h
  exact ⟨rfl, pointer, rfl, rfl⟩

/-! ### What a start does -/

/-- The binding does not exist after the first three steps. -/
theorem binding_notMem :
    Object.binding stream ivsGroupId ∉ ((acquired stream pointer).take 3).reverse := by
  simp [acquired]

/-- The objects from the newest on, with the binding before the others. -/
theorem acquired_reverse : (acquired stream pointer).reverse =
    .binding stream ivsGroupId :: ((acquired stream pointer).take 3).reverse := rfl

/-- A destruction of a binding that is not there changes nothing, and is not proper. -/
theorem destroy_missing (stream : Int32) (pointer : ℕ) (rest : List (Action Object)) :
    let live := ((acquired stream pointer).take 3).reverse
    (Action.destroy (Object.binding stream ivsGroupId) :: rest).foldl Inventory.step live =
        rest.foldl Inventory.step live ∧
      ¬AllProper Object.kind live (Action.destroy (.binding stream ivsGroupId) :: rest) := by
  refine ⟨?_, fun hproper => binding_notMem hproper.1⟩
  rw [List.foldl_cons, step_destroy_of_notMem binding_notMem]

theorem foldl_bind_fails :
    (((acquired stream pointer).take 3).map Action.create ++
        (acquired stream pointer).reverse.map Action.destroy).foldl Inventory.step [] = [] ∧
      ¬AllProper Object.kind [] (((acquired stream pointer).take 3).map .create ++
        (acquired stream pointer).reverse.map Action.destroy) := by
  rw [acquired_reverse, List.map_cons]
  obtain ⟨hlive, hproper⟩ := destroy_missing stream pointer
    (((acquired stream pointer).take 3).reverse.map Action.destroy)
  constructor
  · rw [List.foldl_append, foldl_create, List.append_nil, hlive]
    simpa using foldl_destroy ((acquired stream pointer).take 3).reverse []
  · intro hall
    have htail := (guarded_append.mp hall).2
    rw [foldl_create, List.append_nil] at htail
    exact hproper htail

theorem foldl_start_fails :
    ((acquired stream pointer).map Action.create ++ Action.destroy (.binding stream ivsGroupId) ::
        (acquired stream pointer).reverse.map Action.destroy).foldl Inventory.step [] = [] ∧
      ¬AllProper Object.kind [] ((acquired stream pointer).map .create ++
        Action.destroy (.binding stream ivsGroupId) ::
          (acquired stream pointer).reverse.map .destroy) := by
  obtain ⟨hlive, hproper⟩ := destroy_missing stream pointer
    (((acquired stream pointer).take 3).reverse.map .destroy)
  have hfirst : Inventory.step (acquired stream pointer).reverse
      (.destroy (.binding stream ivsGroupId)) = ((acquired stream pointer).take 3).reverse := by
    rw [acquired_reverse, Inventory.step, List.erase_cons_head]
  constructor
  · rw [List.foldl_append, foldl_create, List.append_nil, List.foldl_cons, hfirst,
      acquired_reverse, List.map_cons, hlive]
    simpa using foldl_destroy ((acquired stream pointer).take 3).reverse []
  · intro hall
    have htail := (guarded_append.mp hall).2
    rw [foldl_create, List.append_nil] at htail
    have hsecond := htail.2
    rw [hfirst, acquired_reverse, List.map_cons] at hsecond
    exact hproper hsecond

/-- A start is taken up. -/
def State.Ready (s : State) : Prop :=
  s.initialized = true ∧ s.running = false ∧ s.config.enabled = true

theorem start_refused (h : ¬s.Ready) : (motionModuleStart maxRoiCnt s a).2 = ([], s) := by
  unfold motionModuleStart
  cases hinit : s.initialized with
  | false => rfl
  | true =>
    cases hrunning : s.running with
    | true => rfl
    | false =>
      cases henabled : s.config.enabled with
      | false => rfl
      | true => exact absurd ⟨hinit, hrunning, henabled⟩ h

theorem start_fails (h : s.Ready) (hsetup : (motionSetupIvs maxRoiCnt s a).1 = false) :
    (motionModuleStart maxRoiCnt s a).2 = (motionSetupIvs maxRoiCnt s a).2 := by
  obtain ⟨hinit, hrunning, henabled⟩ := h
  unfold motionModuleStart
  simp [hinit, hrunning, henabled, hsetup]

theorem start_undone (h : s.Ready) (hsetup : (motionSetupIvs maxRoiCnt s a).1 = true)
    (hthread : a.pthreadCreate = false) :
    (motionModuleStart maxRoiCnt s a).2 =
      ((motionSetupIvs maxRoiCnt s a).2.1 ++
        (motionCleanupIvs (motionSetupIvs maxRoiCnt s a).2.2).1,
        (motionCleanupIvs (motionSetupIvs maxRoiCnt s a).2.2).2) := by
  obtain ⟨hinit, hrunning, henabled⟩ := h
  unfold motionModuleStart
  simp [hinit, hrunning, henabled, hsetup, hthread]

theorem start_succeeds (h : s.Ready) (hsetup : (motionSetupIvs maxRoiCnt s a).1 = true)
    (hthread : a.pthreadCreate = true) :
    (motionModuleStart maxRoiCnt s a).2 =
      ((motionSetupIvs maxRoiCnt s a).2.1,
        { (motionSetupIvs maxRoiCnt s a).2.2 with running := true }) := by
  obtain ⟨hinit, hrunning, henabled⟩ := h
  unfold motionModuleStart
  simp [hinit, hrunning, henabled, hsetup, hthread]

variable {J : Tokener} {sys : System}

/-- A start that leaves the module idle leaves nothing. -/
theorem accounted_idle {calls : List Call} {next : State}
    (hperform : (sys.state.perform J maxRoiCnt (.start a)) = (calls, next))
    (hrunning : next.running = false)
    (hlive : (calls.flatMap Call.actions).foldl Inventory.step sys.live = []) :
    (sys.step J maxRoiCnt (.start a)).Accounted := by
  unfold System.step State.actions
  rw [hperform]
  exact ⟨fun _ => hlive, fun hrun => absurd (hrunning.symm.trans hrun) (by decide)⟩

/-- A setup that fails leaves nothing if its calls do. -/
theorem start_failed_iff (h : sys.Accounted) (hready : sys.state.Ready) {P : Prop}
    (hsetup : (motionSetupIvs maxRoiCnt sys.state a).1 = false)
    (hsame : (motionSetupIvs maxRoiCnt sys.state a).2.2.running = sys.state.running)
    (hempty : ((motionSetupIvs maxRoiCnt sys.state a).2.1.flatMap Call.actions).foldl
      Inventory.step [] = [])
    (hproper : AllProper Object.kind []
      ((motionSetupIvs maxRoiCnt sys.state a).2.1.flatMap Call.actions) ↔ P) :
    (sys.step J maxRoiCnt (.start a)).Accounted ∧ (sys.Orderly J maxRoiCnt (.start a) ↔ P) := by
  have hlive := h.idle hready.2.1
  have hperform : sys.state.perform J maxRoiCnt (.start a) =
    (motionSetupIvs maxRoiCnt sys.state a).2 := start_fails hready hsetup
  refine ⟨accounted_idle hperform (hsame.trans hready.2.1) ?_, ?_⟩
  · rw [hlive]
    exact hempty
  · unfold System.Orderly State.actions
    rw [hperform, hlive]
    exact hproper

/-- A setup that succeeds leaves everything it acquires, or nothing without a thread. -/
theorem start_set_up (h : sys.Accounted) (hready : sys.state.Ready) (hreach : a.reachBind = true)
    (hbind : a.bind = true) (hstart : a.startRecvPic = true) :
    (sys.step J maxRoiCnt (.start a)).Accounted ∧ sys.Orderly J maxRoiCnt (.start a) := by
  have hlive := h.idle hready.2.1
  obtain ⟨hsetup, pointer, hactions, hstate⟩ :=
    setup_succeeds maxRoiCnt sys.state hreach hbind hstart
  unfold System.Orderly State.actions
  rw [hlive]
  cases hthread : a.pthreadCreate with
  | false =>
    have hperform : sys.state.perform J maxRoiCnt (.start a) = _ :=
      start_undone hready hsetup hthread
    have hall : ((motionSetupIvs maxRoiCnt sys.state a).2.1 ++
        (motionCleanupIvs (motionSetupIvs maxRoiCnt sys.state a).2.2).1).flatMap
          Call.actions = undone (acquired sys.state.config.monitorStream pointer) := by
      rw [List.flatMap_append, hactions, hstate,
        cleanup_actions (s := { sys.state with ivsInterface := some pointer }) rfl]
      rfl
    refine ⟨accounted_idle hperform ?_ ?_, ?_⟩
    · rw [hstate]
      exact hready.2.1
    · rw [hlive, hall, foldl_undone]
    · rw [hperform, hall]
      exact allProper_undone acquired_kinds
  | true =>
    have hperform : sys.state.perform J maxRoiCnt (.start a) = _ :=
      start_succeeds hready hsetup hthread
    rw [hperform, hactions]
    refine ⟨?_, allProper_create acquired_kinds⟩
    unfold System.step State.actions
    rw [hperform, hactions, hstate, hlive, foldl_create, List.append_nil]
    exact ⟨by simp, fun _ => ⟨hready.1, pointer, rfl, rfl⟩⟩

/-- A start that is taken up, by the step of the setup that fails. -/
theorem start_ready (h : sys.Accounted) (hready : sys.state.Ready) (a : Answers) :
    (sys.step J maxRoiCnt (.start a)).Accounted ∧ (sys.Orderly J maxRoiCnt (.start a) ↔
      (a.reachBind = true → a.bind = true ∧ a.startRecvPic = true)) := by
  cases hreach : a.reachBind with
  | false =>
    obtain ⟨hsetup, ⟨n, pointer, hactions⟩, hsame⟩ := setup_early maxRoiCnt sys.state hreach
    refine start_failed_iff h hready hsetup hsame ?_ ?_
    · rw [hactions, foldl_undone]
    · rw [hactions]
      exact iff_of_true (allProper_undone (acquired_take_kinds _ _ n)) (by simp)
  | true =>
    cases hbind : a.bind with
    | false =>
      obtain ⟨hsetup, ⟨pointer, hactions⟩, hsame⟩ :=
        setup_bind_fails maxRoiCnt sys.state hreach hbind
      refine start_failed_iff h hready hsetup hsame ?_ ?_
      · rw [hactions]
        exact foldl_bind_fails.1
      · rw [hactions]
        exact iff_of_false foldl_bind_fails.2 (by simp)
    | true =>
      cases hstart : a.startRecvPic with
      | false =>
        obtain ⟨hsetup, ⟨pointer, hactions⟩, hsame⟩ :=
          setup_start_fails maxRoiCnt sys.state hreach hbind hstart
        refine start_failed_iff h hready hsetup hsame ?_ ?_
        · rw [hactions]
          exact foldl_start_fails.1
        · rw [hactions]
          exact iff_of_false foldl_start_fails.2 (by simp)
      | true =>
        obtain ⟨haccounted, horderly⟩ := start_set_up h hready hreach hbind hstart
        exact ⟨haccounted, iff_of_true horderly (by simp)⟩

/-- After a start nothing exists, or all that a setup acquires. Its calls are proper unless it
fails at the binding or after it. -/
theorem System.Accounted.start (h : sys.Accounted) (a : Answers) :
    (sys.step J maxRoiCnt (.start a)).Accounted ∧
      (sys.Orderly J maxRoiCnt (.start a) ↔ sys.Binds (.start a)) := by
  by_cases hready : sys.state.Ready
  · have hbinds : sys.Binds (.start a) ↔
        (a.reachBind = true → a.bind = true ∧ a.startRecvPic = true) :=
      ⟨fun hall => hall hready.1 hready.2.1 hready.2.2, fun hall _ _ _ => hall⟩
    rw [hbinds]
    exact start_ready h hready a
  · have hperform : sys.state.perform J maxRoiCnt (.start a) = ([], sys.state) :=
      start_refused hready
    constructor
    · unfold System.step State.actions
      rw [hperform]
      exact h
    · unfold System.Orderly State.actions
      rw [hperform]
      refine iff_of_true trivial fun hinit hrunning henabled => ?_
      exact absurd ⟨hinit, hrunning, henabled⟩ hready

/-! ### Whole runs -/

/-- The initialisation makes no call to the SDK and does nothing while the module is running. -/
theorem System.Accounted.init (h : sys.Accounted) (config : Option Config)
    (surroundings : Surroundings) :
    (sys.step J maxRoiCnt (.init config surroundings)).Accounted := by
  have hlive : (sys.step J maxRoiCnt (.init config surroundings)).live = sys.live := rfl
  have hstate : (sys.step J maxRoiCnt (.init config surroundings)).state =
    (motionModuleInit J sys.state config surroundings).2 := rfl
  cases hinit : sys.state.initialized with
  | true =>
    have hsame : (motionModuleInit J sys.state config surroundings).2 = sys.state := by
      unfold motionModuleInit
      rw [if_pos hinit]
    constructor
    · rw [hstate, hsame, hlive]
      exact h.idle
    · rw [hstate, hsame, hlive]
      exact h.busy
  | false =>
    have hrunning : sys.state.running = false := by
      cases hrun : sys.state.running with
      | false => rfl
      | true => exact absurd ((h.busy hrun).1.symm.trans hinit) (by decide)
    have hsame : (motionModuleInit J sys.state config surroundings).2.running = false := by
      unfold motionModuleInit
      rw [if_neg (by simp [hinit])]
      cases config with
      | none => exact hrunning
      | some c =>
        dsimp only
        by_cases hmutex : surroundings.mutexInit = false
        · rw [if_pos (by simp [hmutex])]
          exact hrunning
        · rw [if_neg (by simpa using hmutex)]
          exact hrunning
    constructor
    · rw [hlive]
      exact fun _ => h.idle hrunning
    · rw [hstate, hsame]
      simp

/-- Everything that exists while the module is running is given back when it is stopped. -/
theorem stop_gives_back (h : sys.Accounted) (hrunning : sys.state.running = true) :
    ((motionModuleStop sys.state).1.flatMap Call.actions).foldl Inventory.step sys.live = [] ∧
      AllProper Object.kind sys.live ((motionModuleStop sys.state).1.flatMap Call.actions) ∧
      (motionModuleStop sys.state).2.running = false := by
  obtain ⟨hinit, pointer, hpointer, hlive⟩ := h.busy hrunning
  have hcalls : (motionModuleStop sys.state).1 = (motionCleanupIvs sys.state).1 := by
    unfold motionModuleStop
    rw [if_neg (by simp [hrunning])]
  rw [hcalls, cleanup_actions hpointer, hlive]
  refine ⟨?_, ?_, ?_⟩
  · simpa using foldl_destroy (acquired sys.state.config.monitorStream pointer).reverse []
  · simpa using allProper_destroy (acquired sys.state.config.monitorStream pointer).reverse []
  · unfold motionModuleStop
    rw [if_neg (by simp [hrunning])]

/-- A call that gives everything back if the module is running, and does nothing otherwise. -/
theorem System.Accounted.shutdown (h : sys.Accounted) {op : Operation}
    (hidle : sys.state.running = false → (sys.state.perform J maxRoiCnt op).1 = [] ∧
      (sys.state.perform J maxRoiCnt op).2.running = false)
    (hbusy : sys.state.running = true →
      (sys.state.perform J maxRoiCnt op).1 = (motionModuleStop sys.state).1 ∧
        (sys.state.perform J maxRoiCnt op).2.running = false) :
    (sys.step J maxRoiCnt op).Accounted ∧ sys.Orderly J maxRoiCnt op := by
  unfold System.step System.Orderly State.actions
  cases hrunning : sys.state.running with
  | false =>
    obtain ⟨hcalls, hstays⟩ := hidle hrunning
    rw [hcalls]
    exact ⟨⟨fun _ => h.idle hrunning, by simp [hstays]⟩, trivial⟩
  | true =>
    obtain ⟨hcalls, hstops⟩ := hbusy hrunning
    obtain ⟨hempty, hproper, -⟩ := stop_gives_back h hrunning
    rw [hcalls]
    exact ⟨⟨fun _ => hempty, by simp [hstops]⟩, hproper⟩

theorem System.Accounted.stop (h : sys.Accounted) :
    (sys.step J maxRoiCnt .stop).Accounted ∧ sys.Orderly J maxRoiCnt .stop := by
  refine h.shutdown (fun hrunning => ?_) fun hrunning => ⟨rfl, (stop_gives_back h hrunning).2.2⟩
  have hnothing : motionModuleStop sys.state = ([], sys.state) := by
    unfold motionModuleStop
    rw [if_pos (by simp [hrunning])]
  have hperform : sys.state.perform J maxRoiCnt .stop = ([], sys.state) := hnothing
  rw [hperform]
  exact ⟨rfl, hrunning⟩

/-- The cleanup stops the module first. -/
theorem cleanup_eq (s : State) :
    (motionModuleCleanup s).1 = (motionModuleStop s).1 ∧
      (motionModuleCleanup s).2.running =
        (s.initialized.not && (motionModuleStop s).2.running) := by
  have hstopped : (if s.running then motionModuleStop s else ([], s)) = motionModuleStop s := by
    cases hrunning : s.running with
    | true => rfl
    | false =>
      unfold motionModuleStop
      simp [hrunning]
  have hinit : (motionModuleStop s).2.initialized = s.initialized := by
    unfold motionModuleStop motionCleanupIvs
    cases s.running <;> rfl
  unfold motionModuleCleanup
  rw [hstopped]
  dsimp only
  rw [hinit]
  cases s.initialized with
  | true => exact ⟨rfl, rfl⟩
  | false => exact ⟨rfl, rfl⟩

theorem System.Accounted.cleanup (h : sys.Accounted) :
    (sys.step J maxRoiCnt .cleanup).Accounted ∧ sys.Orderly J maxRoiCnt .cleanup := by
  obtain ⟨hcalls, hafter⟩ := cleanup_eq sys.state
  refine h.shutdown (fun hrunning => ?_) fun hrunning => ⟨hcalls, ?_⟩
  · have hnothing : motionModuleStop sys.state = ([], sys.state) := by
      unfold motionModuleStop
      rw [if_pos (by simp [hrunning])]
    rw [hnothing] at hcalls hafter
    refine ⟨hcalls, hafter.trans ?_⟩
    rw [hrunning, Bool.and_false]
  · refine hafter.trans ?_
    rw [(stop_gives_back h hrunning).2.2, Bool.and_false]

/-- Each operation keeps the accounts, and its calls are proper unless it is a start that fails
at the binding or after it. -/
theorem System.Accounted.step (h : sys.Accounted) (op : Operation) :
    (sys.step J maxRoiCnt op).Accounted ∧ (sys.Orderly J maxRoiCnt op ↔ sys.Binds op) := by
  cases op with
  | init config surroundings =>
    exact ⟨h.init config surroundings, iff_of_true trivial trivial⟩
  | start a => exact h.start a
  | stop => exact ⟨h.stop.1, iff_of_true h.stop.2 trivial⟩
  | cleanup => exact ⟨h.cleanup.1, iff_of_true h.cleanup.2 trivial⟩

/-- The accounts are kept in every run. -/
theorem run_accounted (ops : List Operation) :
    (ops.foldl (System.step J maxRoiCnt) .first).Accounted := by
  have hguard : Guarded (System.step J maxRoiCnt) (fun _ _ => True) System.first ops := by
    generalize System.first = sys
    induction ops generalizing sys with
    | nil => trivial
    | cons op ops ih => exact ⟨trivial, ih _⟩
  exact Runs.invariant (fun sys op (h : sys.Accounted) _ => (h.step op).1) hguard first_accounted

/-- In every run nothing exists while the module is not running. The calls of a run are proper
exactly if each start that gets as far as the binding meets no failure there or after it. -/
theorem motion_resources_iff (J : Tokener) (maxRoiCnt : ℕ) (ops : List Operation) :
    (Guarded (System.step J maxRoiCnt) (System.Orderly J maxRoiCnt) .first ops ∧
      ∀ n, ((ops.take n).foldl (System.step J maxRoiCnt) .first).state.running = false →
        ((ops.take n).foldl (System.step J maxRoiCnt) .first).live = []) ↔
      Guarded (System.step J maxRoiCnt) System.Binds .first ops := by
  have hguards : Guarded (System.step J maxRoiCnt) (System.Orderly J maxRoiCnt) .first ops ↔
      Guarded (System.step J maxRoiCnt) System.Binds .first ops :=
    guarded_congr System.Accounted (fun sys op hsys => (hsys.step op).2)
      (fun sys op hsys _ => (hsys.step op).1) first_accounted
  rw [← hguards]
  exact ⟨And.left, fun h => ⟨h, fun n => (run_accounted (ops.take n)).idle⟩⟩

/-- No file of zones can be parsed. -/
def noFiles : Tokener where
  toJsonC := .ofLeaves fun _ => none
  isArray _ := false
  tokenerParse _ := none

/-- The detector is enabled and monitors a channel of 640 x 360, and the frame source cannot be
bound to the group. -/
def unboundRun : List Operation :=
  [.init (some { Config.defaults with enabled := true })
      ⟨[none, none], fun _ => ⟨true, false, 0, 0, 640, 360⟩, true⟩,
    .start ⟨true, some 4096, true, true, false, true, true⟩]

/-- If the frame source cannot be bound, the binding is destroyed all the same. -/
theorem not_unboundRun_orderly :
    ¬(Guarded (System.step noFiles 4) (System.Orderly noFiles 4) .first unboundRun ∧
      ∀ n, ((unboundRun.take n).foldl (System.step noFiles 4) .first).state.running = false →
        ((unboundRun.take n).foldl (System.step noFiles 4) .first).live = []) := by
  rintro ⟨⟨-, hstart, -⟩, -⟩
  have haccounted : (System.first.step noFiles 4
      (.init (some { Config.defaults with enabled := true })
        ⟨[none, none], fun _ => ⟨true, false, 0, 0, 640, 360⟩, true⟩)).Accounted :=
    (first_accounted.step _).1
  exact absurd ((haccounted.start _).2.mp hstart rfl rfl rfl rfl).1 (by decide)

end Motion
