import Mathlib.Data.Int.Notation
import Mathlib.Data.List.Nodup
import Strero.Lib.Runs

/-!
# The module system

Modules are registered, and then initialised, started, stopped and cleaned up all at once.
The registry is modelled as the code keeps it. Next to it stands what each module has been
through, as far as its callbacks tell.
-/

namespace ModuleSystem

/-- `MAX_MODULES`. -/
def maxModules : ℕ := 16

/-- `module_state_t`. -/
inductive State
  | unregistered | registered | initialized | running | error
deriving DecidableEq, Repr

/-- `module_info_t`, with the callbacks that are not null. -/
structure ModuleInfo where
  name : List UInt8
  init : Bool
  start : Bool
  stop : Bool
  cleanup : Bool
deriving DecidableEq

/-- A registered module and its `state`. -/
structure Entry where
  module : ModuleInfo
  state : State
deriving DecidableEq

/-- The name that an entry is known by. -/
def Entry.name (entry : Entry) : List UInt8 := entry.module.name

/-- `g_modules` up to `g_module_count`, and `g_system_initialized`. -/
structure Registry where
  modules : List Entry
  systemInitialized : Bool
  count_le : modules.length ≤ maxModules
  names_nodup : (modules.map Entry.name).Nodup
  uninitialized : systemInitialized = false → modules = []

/-- The registry before the first call. -/
def Registry.empty : Registry := ⟨[], false, Nat.zero_le _, List.nodup_nil, fun _ => rfl⟩

/-- `module_system_init`. -/
def Registry.systemInit (r : Registry) : Registry :=
  if r.systemInitialized then r else ⟨[], true, Nat.zero_le _, List.nodup_nil, fun _ => rfl⟩

/-- `module_register` once the system is initialised. -/
def Registry.add (r : Registry) (module : ModuleInfo) : Registry × ℤ :=
  if hcount : r.modules.length < maxModules then
    if hnew : module.name ∈ r.modules.map Entry.name then (r, -1)
    else
      (⟨r.modules ++ [⟨module, .registered⟩], true, by simpa using Nat.succ_le_of_lt hcount, by
        have hlast : (r.modules ++ [(⟨module, .registered⟩ : Entry)]).map Entry.name =
            (r.modules.map Entry.name).concat module.name := by simp [Entry.name]
        rw [hlast]
        exact r.names_nodup.concat hnew, by simp⟩, 0)
  else (r, -1)

/-- `module_register`. -/
def Registry.register (r : Registry) : Option ModuleInfo → Registry × ℤ
  | none => (r, -1)
  | some module => r.systemInit.add module

/-- The initialisation loses no module. -/
@[simp] theorem Registry.systemInit_modules (r : Registry) : r.systemInit.modules = r.modules := by
  unfold systemInit
  split
  · rfl
  · rename_i h
    exact (r.uninitialized (by simpa using h)).symm

theorem Registry.add_cases (r : Registry) (info : ModuleInfo) :
    (r.add info).1.modules = r.modules ∨
      info.name ∉ r.modules.map Entry.name ∧
        (r.add info).1.modules = r.modules ++ [⟨info, .registered⟩] := by
  unfold add
  by_cases hcount : r.modules.length < maxModules
  · rw [dif_pos hcount]
    by_cases hold : info.name ∈ r.modules.map Entry.name
    · rw [dif_pos hold]
      exact .inl rfl
    · rw [dif_neg hold]
      exact .inr ⟨hold, rfl⟩
  · rw [dif_neg hcount]
    exact .inl rfl

/-- A registration changes nothing or appends a module with a new name. -/
theorem Registry.register_cases (r : Registry) (module : Option ModuleInfo) :
    (r.register module).1.modules = r.modules ∨
      ∃ info, info.name ∉ r.modules.map Entry.name ∧
        (r.register module).1.modules = r.modules ++ [⟨info, .registered⟩] := by
  cases module with
  | none => exact .inl rfl
  | some info =>
    have hcases := r.systemInit.add_cases info
    rw [systemInit_modules] at hcases
    exact hcases.imp_right fun happend => ⟨info, happend⟩

/-- A call of a callback. A module that has no start or stop function is started or stopped
without one, and one that has no cleanup function is dropped without one. -/
inductive Event
  | init (name : List UInt8) (succeeded : Bool)
  | start (name : List UInt8) (called succeeded : Bool)
  | stop (name : List UInt8) (called : Bool)
  | cleanup (name : List UInt8) (called : Bool)
deriving DecidableEq, Repr

/-- The module of an event. -/
def Event.name : Event → List UInt8
  | .init name _ | .start name _ _ | .stop name _ | .cleanup name _ => name

/-- The event counts as an error. -/
def Event.failed : Event → Bool
  | .init _ succeeded | .start _ _ succeeded => !succeeded
  | .stop _ _ | .cleanup _ _ => false

/-- The body of the loop of `module_init_all`, by the value that the callback returns. -/
def Entry.init (ret : ModuleInfo → ℤ) (entry : Entry) : Option Event × State :=
  if entry.state ≠ .registered then (none, entry.state)
  else if !entry.module.init then (none, entry.state)
  else if ret entry.module = 0 then (some (.init entry.name true), .initialized)
  else (some (.init entry.name false), .error)

/-- The body of the loop of `module_start_all`. -/
def Entry.start (ret : ModuleInfo → ℤ) (entry : Entry) : Option Event × State :=
  if entry.state ≠ .initialized then (none, entry.state)
  else if !entry.module.start then (some (.start entry.name false true), .running)
  else if ret entry.module = 0 then (some (.start entry.name true true), .running)
  else (some (.start entry.name true false), .error)

/-- The body of the loop of `module_stop_all`. -/
def Entry.stop (entry : Entry) : Option Event × State :=
  if entry.state ≠ .running then (none, entry.state)
  else (some (.stop entry.name entry.module.stop), .initialized)

/-- The body of the loop of `module_cleanup_all`. -/
def Entry.cleanup (entry : Entry) : Option Event × State :=
  (some (.cleanup entry.name entry.module.cleanup), .unregistered)

/-- The registry after each module has been given the state that a loop leaves it in. -/
def Registry.visited (r : Registry) (visit : Entry → Option Event × State) : Registry :=
  { r with
    modules := r.modules.map fun entry => ⟨entry.module, (visit entry).2⟩
    count_le := by simpa using r.count_le
    names_nodup := by
      have hnames : (r.modules.map fun entry => (⟨entry.module, (visit entry).2⟩ : Entry)).map
          Entry.name = r.modules.map Entry.name := by simp [Entry.name]
      rw [hnames]
      exact r.names_nodup
    uninitialized := fun h => by simp [r.uninitialized h] }

/-- `error_count == 0 ? 0 : -1`. -/
def returnValue (events : List Event) : ℤ := if events.any Event.failed then -1 else 0

/-- The calls of the interface. The values that the callbacks return in the course of a call
come from outside. -/
inductive Operation
  | register (module : Option ModuleInfo)
  | initAll (ret : ModuleInfo → ℤ)
  | startAll (ret : ModuleInfo → ℤ)
  | stopAll
  | cleanupAll

/-- The callbacks of an operation, in their order. Modules are stopped and cleaned up from
the last one to the first. -/
def Registry.events (r : Registry) : Operation → List Event
  | .register _ => []
  | .initAll ret => r.modules.filterMap fun entry => (entry.init ret).1
  | .startAll ret => r.modules.filterMap fun entry => (entry.start ret).1
  | .stopAll => r.modules.reverse.filterMap fun entry => entry.stop.1
  | .cleanupAll => r.modules.reverse.filterMap fun entry => entry.cleanup.1

/-- The registry after an operation, and the value that is returned. -/
def Registry.perform (r : Registry) : Operation → Registry × ℤ
  | .register module => r.register module
  | .initAll ret => (r.visited (Entry.init ret), returnValue (r.events (.initAll ret)))
  | .startAll ret => (r.visited (Entry.start ret), returnValue (r.events (.startAll ret)))
  | .stopAll => (r.visited Entry.stop, 0)
  | .cleanupAll => (.empty, 0)

/-! ### Lifecycles -/

/-- What a module has been through since it was last cleaned up. -/
structure Life where
  initialized : Bool
  running : Bool
deriving DecidableEq, Repr

/-- Nothing has been called yet. -/
def Life.fresh : Life := ⟨false, false⟩

/-- What a callback makes of the life of its module. -/
def Event.after (event : Event) (life : Life) : Life :=
  match event with
  | .init _ succeeded => ⟨succeeded, false⟩
  | .start _ _ succeeded => { life with running := succeeded }
  | .stop _ _ => { life with running := false }
  | .cleanup _ _ => .fresh

/-- The order of the callbacks: a module is initialised once, started while it is initialised
and not running, stopped while it is running, and cleaned up when it was initialised and is
not running. -/
def Event.InOrder (event : Event) (life : Life) : Prop :=
  match event with
  | .init _ _ => life = .fresh
  | .start _ _ _ => life.initialized = true ∧ life.running = false
  | .stop _ _ => life.running = true
  | .cleanup _ called => called = true → life.initialized = true ∧ life.running = false

instance Event.InOrder.decidable (life : Life) : (event : Event) → Decidable (event.InOrder life)
  | .init _ _ => inferInstanceAs (Decidable (_ = _))
  | .start _ _ _ => inferInstanceAs (Decidable (_ ∧ _))
  | .stop _ _ => inferInstanceAs (Decidable (_ = _))
  | .cleanup _ _ => inferInstanceAs (Decidable (_ → _))

/-- The registry and the lives of all modules that there are. -/
structure Monitored where
  registry : Registry
  lives : List UInt8 → Life

/-- The lives after an event. -/
def livesStep : (List UInt8 → Life) → Event → List UInt8 → Life :=
  Runs.keyedStep Event.name Event.after

/-- One call of the interface. -/
def Monitored.step (s : Monitored) (operation : Operation) : Monitored :=
  ⟨(s.registry.perform operation).1, (s.registry.events operation).foldl livesStep s.lives⟩

/-- The program has started. -/
def Monitored.start : Monitored := ⟨.empty, fun _ => .fresh⟩

/-- The modules are visited from the last one registered to the first. -/
def Monitored.InReverse (s : Monitored) : Operation → Prop
  | .stopAll => ((s.registry.events .stopAll).map Event.name).Sublist
      (s.registry.modules.map Entry.name).reverse
  | .cleanupAll => ((s.registry.events .cleanupAll).map Event.name).Sublist
      (s.registry.modules.map Entry.name).reverse
  | _ => True

/-- The protocol: callbacks in their order, modules in theirs, distinct names and no more
modules than the registry has room for. -/
structure Monitored.Orderly (s : Monitored) (operation : Operation) : Prop where
  callbacks : Runs.Guarded livesStep (fun lives event => event.InOrder (lives event.name))
    s.lives (s.registry.events operation)
  reverse : s.InReverse operation
  distinct : ((s.step operation).registry.modules.map Entry.name).Nodup
  count : (s.step operation).registry.modules.length ≤ maxModules

/-- Before all modules are cleaned up, each that has a cleanup function was initialised
successfully and has been stopped if it was started. -/
def Monitored.Admissible (s : Monitored) : Operation → Prop
  | .cleanupAll => ∀ entry ∈ s.registry.modules, entry.module.cleanup = true →
      (s.lives entry.name).initialized = true ∧ entry.state ≠ .running
  | _ => True

/-! ### States and lives -/

/-- What the state of a registered module says about its life. -/
def State.Describes (state : State) (life : Life) : Prop :=
  match state with
  | .unregistered => False
  | .registered => life = .fresh
  | .initialized => life = ⟨true, false⟩
  | .running => life = ⟨true, true⟩
  | .error => life.running = false

/-- The states describe the lives, and a module that is not registered has none. -/
structure Monitored.Tracked (s : Monitored) : Prop where
  states : ∀ entry ∈ s.registry.modules, entry.state.Describes (s.lives entry.name)
  others : ∀ name ∉ s.registry.modules.map Entry.name, s.lives name = .fresh

/-- A running module is one that the state says is running. -/
theorem State.Describes.running_iff {state : State} {life : Life} (h : state.Describes life) :
    life.running = true ↔ state = .running := by
  cases state with
  | unregistered => exact h.elim
  | registered | initialized | running => subst h; decide
  | error => simp [show life.running = false from h]

/-- What a visit is to a life: its event is in order, and the new state describes what the
event leaves. -/
structure Visits (visit : Entry → Option Event × State) (entry : Entry) (life : Life) : Prop where
  inOrder : ∀ event, (visit entry).1 = some event → event.InOrder life
  describes : (visit entry).2.Describes ((visit entry).1.elim id Event.after life)

/-- A visit that does nothing. -/
theorem Visits.skip {visit : Entry → Option Event × State} {entry : Entry} {life : Life}
    (h : entry.state.Describes life) (hvisit : visit entry = (none, entry.state)) :
    Visits visit entry life := by
  constructor
  · simp [hvisit]
  · rw [hvisit]
    exact h

/-- A visit with an event. -/
theorem Visits.of_event {visit : Entry → Option Event × State} {entry : Entry} {life : Life}
    {event : Event} {state : State} (hvisit : visit entry = (some event, state))
    (horder : event.InOrder life) (hstate : state.Describes (event.after life)) :
    Visits visit entry life := by
  constructor
  · intro other hother
    rw [hvisit] at hother
    obtain rfl := Option.some.inj hother
    exact horder
  · rw [hvisit]
    exact hstate

theorem Entry.init_visits (ret : ModuleInfo → ℤ) {entry : Entry} {life : Life}
    (h : entry.state.Describes life) : Visits (Entry.init ret) entry life := by
  by_cases hstate : entry.state = .registered
  · have hfresh : life = .fresh := by rwa [hstate] at h
    cases hinit : entry.module.init with
    | false => exact .skip h (by simp [Entry.init, hinit])
    | true =>
      by_cases hret : ret entry.module = 0
      · have hvisit : Entry.init ret entry = (some (.init entry.name true), .initialized) := by
          simp [Entry.init, hstate, hinit, hret]
        exact .of_event hvisit hfresh rfl
      · have hvisit : Entry.init ret entry = (some (.init entry.name false), .error) := by
          simp [Entry.init, hstate, hinit, hret]
        exact .of_event hvisit hfresh rfl
  · exact .skip h (by simp [Entry.init, hstate])

theorem Entry.start_visits (ret : ModuleInfo → ℤ) {entry : Entry} {life : Life}
    (h : entry.state.Describes life) : Visits (Entry.start ret) entry life := by
  by_cases hstate : entry.state = .initialized
  · obtain rfl : life = ⟨true, false⟩ := by rwa [hstate] at h
    cases hstart : entry.module.start with
    | false =>
      have hvisit : Entry.start ret entry = (some (.start entry.name false true), .running) := by
        simp [Entry.start, hstate, hstart]
      exact .of_event hvisit ⟨rfl, rfl⟩ rfl
    | true =>
      by_cases hret : ret entry.module = 0
      · have hvisit : Entry.start ret entry = (some (.start entry.name true true), .running) := by
          simp [Entry.start, hstate, hstart, hret]
        exact .of_event hvisit ⟨rfl, rfl⟩ rfl
      · have hvisit : Entry.start ret entry = (some (.start entry.name true false), .error) := by
          simp [Entry.start, hstate, hstart, hret]
        exact .of_event hvisit ⟨rfl, rfl⟩ rfl
  · exact .skip h (by simp [Entry.start, hstate])

theorem Entry.stop_visits {entry : Entry} {life : Life} (h : entry.state.Describes life) :
    Visits Entry.stop entry life := by
  by_cases hstate : entry.state = .running
  · obtain rfl : life = ⟨true, true⟩ := by rwa [hstate] at h
    have hvisit : entry.stop = (some (.stop entry.name entry.module.stop), .initialized) := by
      simp [Entry.stop, hstate]
    exact .of_event hvisit rfl rfl
  · exact .skip h (by simp [Entry.stop, hstate])

/-! ### Sweeps over the registry -/

/-- The events of a sweep, in the order of the visits. -/
def sweepEvents (visit : Entry → Option Event × State) (entries : List Entry) : List Event :=
  entries.filterMap fun entry => (visit entry).1

/-- A visit calls the module that it visits. -/
def OwnEvents (visit : Entry → Option Event × State) : Prop :=
  ∀ entry event, (visit entry).1 = some event → event.name = entry.name

variable {visit : Entry → Option Event × State} {entries : List Entry} {s : Monitored}

/-- A sweep has at most one event for each module, in the order in which they are visited. -/
theorem OwnEvents.names_sublist (hown : OwnEvents visit) (entries : List Entry) :
    ((sweepEvents visit entries).map Event.name).Sublist (entries.map Entry.name) := by
  induction entries with
  | nil => exact List.Sublist.slnil
  | cons entry entries ih =>
    unfold sweepEvents at ih ⊢
    cases hevent : (visit entry).1 with
    | none =>
      simp only [List.filterMap_cons, hevent, List.map_cons]
      exact ih.cons _
    | some event =>
      simp only [List.filterMap_cons, hevent, List.map_cons, hown entry event hevent]
      exact ih.cons_cons _

/-- The names of a sweep over the registry are distinct. -/
theorem OwnEvents.names_nodup (hown : OwnEvents visit) (hperm : entries.Perm s.registry.modules) :
    ((sweepEvents visit entries).map Event.name).Nodup := by
  have hnodup : (entries.map Entry.name).Nodup :=
    (hperm.map Entry.name).nodup_iff.mpr s.registry.names_nodup
  exact hnodup.sublist (hown.names_sublist entries)

/-- A module whose visit has an event goes through that one; the others are left alone. -/
theorem OwnEvents.foldl_eq (hown : OwnEvents visit) (hperm : entries.Perm s.registry.modules)
    {entry : Entry} (hentry : entry ∈ s.registry.modules) :
    (sweepEvents visit entries).foldl livesStep s.lives entry.name =
      (visit entry).1.elim id Event.after (s.lives entry.name) := by
  have hmem : entry ∈ entries := hperm.mem_iff.mpr hentry
  cases hevent : (visit entry).1 with
  | some event =>
    have hin : event ∈ sweepEvents visit entries := List.mem_filterMap.mpr ⟨entry, hmem, hevent⟩
    have hlife := Runs.foldl_keyedStep_of_mem Event.after s.lives
      (hown.names_nodup hperm) hin
    rw [hown entry event hevent] at hlife
    exact hlife
  | none =>
    refine Runs.foldl_keyedStep_of_notMem fun hin => ?_
    obtain ⟨event, heventIn, hsame⟩ := List.mem_map.mp hin
    obtain ⟨other, hother, hvisit⟩ := List.mem_filterMap.mp heventIn
    have hnames : other.name = entry.name := (hown other event hvisit).symm.trans hsame
    have heq : other = entry := List.inj_on_of_nodup_map s.registry.names_nodup
      (hperm.mem_iff.mp hother) hentry hnames
    rw [heq, hevent] at hvisit
    cases hvisit

/-- A sweep does nothing to a module that is not registered. -/
theorem OwnEvents.foldl_other (hown : OwnEvents visit) (hperm : entries.Perm s.registry.modules)
    {name : List UInt8} (hname : name ∉ s.registry.modules.map Entry.name) :
    (sweepEvents visit entries).foldl livesStep s.lives name = s.lives name := by
  refine Runs.foldl_keyedStep_of_notMem fun hin => hname ?_
  have hsub := (hown.names_sublist entries).subset hin
  exact (hperm.map Entry.name).mem_iff.mp hsub

/-- The events of a sweep are in order exactly if the event of each visit is. -/
theorem OwnEvents.guarded_iff (hown : OwnEvents visit)
    (hperm : entries.Perm s.registry.modules) :
    Runs.Guarded livesStep (fun lives event => event.InOrder (lives event.name)) s.lives
        (sweepEvents visit entries) ↔
      ∀ entry ∈ s.registry.modules, ∀ event, (visit entry).1 = some event →
        event.InOrder (s.lives entry.name) := by
  refine (Runs.guarded_keyedStep Event.InOrder (hown.names_nodup hperm)).trans ?_
  constructor
  · intro h entry hentry event hevent
    have hmem := hperm.mem_iff.mpr hentry
    have horder := h event (List.mem_filterMap.mpr ⟨entry, hmem, hevent⟩)
    rwa [hown entry event hevent] at horder
  · intro h event hevent
    obtain ⟨entry, hmem, hvisit⟩ := List.mem_filterMap.mp hevent
    rw [hown entry event hvisit]
    exact h entry (hperm.mem_iff.mp hmem) event hvisit

/-- Sweeps whose visits are in order keep the states and the lives together. -/
theorem Monitored.Tracked.visited (h : s.Tracked)
    (hvisits : ∀ {entry : Entry} {life : Life}, entry.state.Describes life →
      Visits visit entry life) (hown : OwnEvents visit)
    (hperm : entries.Perm s.registry.modules) :
    Runs.Guarded livesStep (fun lives event => event.InOrder (lives event.name)) s.lives
        (sweepEvents visit entries) ∧
      Monitored.Tracked ⟨s.registry.visited visit,
        (sweepEvents visit entries).foldl livesStep s.lives⟩ := by
  have hvisit : ∀ entry ∈ s.registry.modules, Visits visit entry (s.lives entry.name) :=
    fun entry hentry => hvisits (h.states entry hentry)
  have hnames : (s.registry.visited visit).modules.map Entry.name =
      s.registry.modules.map Entry.name := by simp [Registry.visited, Entry.name]
  refine ⟨(hown.guarded_iff hperm).mpr fun entry hentry event hevent => ?_, fun entry hentry => ?_,
    fun name hname => ?_⟩
  · exact (hvisit entry hentry).inOrder event hevent
  · obtain ⟨old, hold, rfl⟩ := List.mem_map.mp hentry
    have hlife := hown.foldl_eq hperm hold
    dsimp only [Entry.name] at hlife ⊢
    rw [hlife]
    exact (hvisit old hold).describes
  · rw [hnames] at hname
    exact (hown.foldl_other hperm hname).trans (h.others name hname)

theorem Entry.init_own (ret : ModuleInfo → ℤ) : OwnEvents (Entry.init ret) := by
  intro entry event hevent
  unfold Entry.init at hevent
  split_ifs at hevent <;> cases hevent <;> rfl

theorem Entry.start_own (ret : ModuleInfo → ℤ) : OwnEvents (Entry.start ret) := by
  intro entry event hevent
  unfold Entry.start at hevent
  split_ifs at hevent <;> cases hevent <;> rfl

theorem Entry.stop_own : OwnEvents Entry.stop := by
  intro entry event hevent
  unfold Entry.stop at hevent
  split_ifs at hevent
  cases hevent
  rfl

theorem Entry.cleanup_own : OwnEvents Entry.cleanup := by
  intro entry event hevent
  cases hevent
  rfl

/-! ### Operations -/

/-- A registration calls nothing; the new module has not been through anything. -/
theorem Monitored.Tracked.register (h : s.Tracked) (module : Option ModuleInfo) :
    (s.step (.register module)).Tracked := by
  rcases s.registry.register_cases module with hsame | ⟨info, hnew, happend⟩
  · constructor
    · intro entry hentry
      exact h.states entry (hsame ▸ hentry)
    · intro name hname
      exact h.others name (hsame ▸ hname)
  · constructor
    · intro entry hentry
      rcases List.mem_append.mp (happend ▸ hentry) with hold | hlast
      · exact h.states entry hold
      · obtain rfl := List.mem_singleton.mp hlast
        exact h.others info.name hnew
    · intro name hname
      refine h.others name fun hold => hname ?_
      have hnames : ((s.step (.register module)).registry.modules.map Entry.name) =
          s.registry.modules.map Entry.name ++ [info.name] := by
        exact (congrArg (List.map Entry.name) happend).trans (List.map_append ..)
      rw [hnames]
      exact List.mem_append_left _ hold

/-- After the cleanup no module is registered, and none has a life. -/
theorem Monitored.Tracked.cleanupAll (h : s.Tracked) : (s.step .cleanupAll).Tracked := by
  have hperm := s.registry.modules.reverse_perm
  constructor
  · intro entry hentry
    cases hentry
  · intro name _
    by_cases hname : name ∈ s.registry.modules.map Entry.name
    · obtain ⟨entry, hentry, rfl⟩ := List.mem_map.mp hname
      exact Entry.cleanup_own.foldl_eq hperm hentry
    · exact (Entry.cleanup_own.foldl_other hperm hname).trans (h.others name hname)

/-- The callbacks of a cleanup are in order exactly if the cleanup is admissible. -/
theorem Monitored.Tracked.cleanup_guarded_iff (h : s.Tracked) :
    Runs.Guarded livesStep (fun lives event => event.InOrder (lives event.name)) s.lives
        (s.registry.events .cleanupAll) ↔ s.Admissible .cleanupAll := by
  refine (Entry.cleanup_own.guarded_iff s.registry.modules.reverse_perm).trans ?_
  refine forall₂_congr fun entry hentry => ?_
  have hrunning := (h.states entry hentry).running_iff
  constructor
  · intro horder hcleanup
    obtain ⟨hinit, hstopped⟩ := horder _ rfl hcleanup
    exact ⟨hinit, fun hstate => by simp [hrunning.mpr hstate] at hstopped⟩
  · intro hadmissible event hevent
    obtain rfl := Option.some.inj hevent
    intro hcalled
    obtain ⟨hinit, hstate⟩ := hadmissible hcalled
    exact ⟨hinit, by simpa using mt hrunning.mp hstate⟩

/-- Each operation keeps the states and the lives together. -/
theorem Monitored.Tracked.step (h : s.Tracked) (operation : Operation) :
    (s.step operation).Tracked := by
  cases operation with
  | register module => exact h.register module
  | initAll ret => exact (h.visited (Entry.init_visits ret) (Entry.init_own ret) (.refl _)).2
  | startAll ret => exact (h.visited (Entry.start_visits ret) (Entry.start_own ret) (.refl _)).2
  | stopAll => exact (h.visited Entry.stop_visits Entry.stop_own (List.reverse_perm _)).2
  | cleanupAll => exact h.cleanupAll

/-- The callbacks of an operation are in order exactly if it is admissible. -/
theorem Monitored.Tracked.guarded_iff (h : s.Tracked) (operation : Operation) :
    Runs.Guarded livesStep (fun lives event => event.InOrder (lives event.name)) s.lives
        (s.registry.events operation) ↔ s.Admissible operation := by
  cases operation with
  | cleanupAll => exact h.cleanup_guarded_iff
  | register module => exact iff_of_true trivial trivial
  | initAll ret =>
    exact iff_of_true (h.visited (Entry.init_visits ret) (Entry.init_own ret) (.refl _)).1 trivial
  | startAll ret =>
    exact iff_of_true (h.visited (Entry.start_visits ret) (Entry.start_own ret) (.refl _)).1
      trivial
  | stopAll =>
    exact iff_of_true (h.visited Entry.stop_visits Entry.stop_own (List.reverse_perm _)).1 trivial

/-- Modules are always stopped and cleaned up from the last one to the first. -/
theorem Monitored.inReverse (s : Monitored) (operation : Operation) : s.InReverse operation := by
  cases operation with
  | register module => trivial
  | initAll ret => trivial
  | startAll ret => trivial
  | stopAll =>
    have hsub := Entry.stop_own.names_sublist s.registry.modules.reverse
    rwa [List.map_reverse] at hsub
  | cleanupAll =>
    have hsub := Entry.cleanup_own.names_sublist s.registry.modules.reverse
    rwa [List.map_reverse] at hsub

/-- The protocol is kept in a run exactly if each cleanup of the run is admissible. -/
theorem run_orderly_iff (operations : List Operation) :
    Runs.Guarded Monitored.step Monitored.Orderly .start operations ↔
      Runs.Guarded Monitored.step Monitored.Admissible .start operations := by
  have hstart : Monitored.start.Tracked := ⟨by simp [Monitored.start, Registry.empty],
    fun _ _ => rfl⟩
  constructor
  · intro horderly
    refine Runs.Guarded.imp Monitored.Tracked ?_ horderly hstart
    intro s operation htracked h
    exact ⟨(htracked.guarded_iff operation).mp h.callbacks, htracked.step operation⟩
  · intro hadmissible
    refine Runs.Guarded.imp Monitored.Tracked ?_ hadmissible hstart
    intro s operation htracked h
    refine ⟨⟨(htracked.guarded_iff operation).mpr h, s.inReverse operation, ?_, ?_⟩,
      htracked.step operation⟩
    · exact (s.step operation).registry.names_nodup
    · exact (s.step operation).registry.count_le

instance Monitored.InReverse.decidable (s : Monitored) :
    (operation : Operation) → Decidable (s.InReverse operation)
  | .stopAll | .cleanupAll => inferInstanceAs (Decidable (List.Sublist _ _))
  | .register _ | .initAll _ | .startAll _ => inferInstanceAs (Decidable True)

instance Monitored.Orderly.decidable (s : Monitored) (operation : Operation) :
    Decidable (s.Orderly operation) :=
  decidable_of_iff
    (Runs.Guarded livesStep (fun lives event => event.InOrder (lives event.name)) s.lives
        (s.registry.events operation) ∧ s.InReverse operation ∧
      ((s.step operation).registry.modules.map Entry.name).Nodup ∧
      (s.step operation).registry.modules.length ≤ maxModules)
    ⟨fun h => ⟨h.1, h.2.1, h.2.2.1, h.2.2.2⟩, fun h => ⟨h.1, h.2, h.3, h.4⟩⟩

/-- A module with all callbacks. -/
def rtspModule : ModuleInfo := ⟨[114], true, true, true, true⟩

/-- The modules are initialised and started, and cleaned up without being stopped. -/
theorem not_orderly :
    ¬ Runs.Guarded Monitored.step Monitored.Orderly .start
      [.register (some rtspModule), .initAll fun _ => 0, .startAll fun _ => 0, .cleanupAll] := by
  decide +kernel

end ModuleSystem
