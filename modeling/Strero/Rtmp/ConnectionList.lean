import Mathlib.Data.Int.Notation
import Mathlib.Data.List.Nodup
import Strero.Lib.Runs

/-!
# The list of connections

The accept thread links each connection into a list, the thread of the connection takes it
out and frees it, and whoever destroys the server walks over the list. A mutex guards the
list and its counter. Each step of a thread is one that another thread may come in before.
-/

namespace Rtmp.ConnectionList

/-- The address of a connection. Addresses are not used again. -/
abbrev Connection := ℕ

/-- The threads. -/
inductive Thread
  | accept
  | connection (c : Connection)
  | destroy
deriving DecidableEq, Repr

/-- The next step of `rtmp_connection_cleanup`. -/
inductive Cleanup
  /-- `thread_running = false` and the socket. -/
  | entering
  /-- `if (g_rtmp_server)`. -/
  | checking
  | locking
  | searching
  /-- `current_connections--`. -/
  | unlinked
  | unlocking
  | freeing
deriving DecidableEq, Repr

/-- How far a connection has come. -/
inductive Phase
  | unborn
  /-- The accept thread is about to lock the mutex. -/
  | created
  | adding
  /-- `current_connections++`. -/
  | linked
  | counted
  /-- `pthread_create`. -/
  | spawning
  /-- `rtmp_connection_handle`. -/
  | handling
  | cleaning (byAccept : Bool) (next : Cleanup)
  | gone
deriving DecidableEq, Repr

/-- The next step of the accept thread. While it is busy with a connection, the phase of the
connection says which one. -/
inductive Accept
  /-- `while (server->running)`, and `accept`. -/
  | head
  /-- The check of the limit. -/
  | accepted
  | busy (c : Connection)
  | finished
deriving DecidableEq, Repr

/-- The next step of `rtmp_server_destroy`. -/
inductive Destroy
  | idle
  | joining
  | locking
  | walking (cursor : Option Connection)
  /-- `rtmp_connection_cleanup` is about to lock the mutex, which is held already. -/
  | cleaning
  | clearing
  | unlocking
  | freeing
  | done
deriving DecidableEq, Repr

/-- A connection, and how often it has been unlinked and freed. -/
structure Conn where
  phase : Phase
  unlinks : ℕ
  frees : ℕ
deriving DecidableEq, Repr

/-- `rtmp_server_t` with its connections, and what its threads have done wrong. -/
structure State where
  /-- `g_rtmp_server` is not null. -/
  server : Bool
  running : Bool
  maxConnections : ℤ
  currentConnections : ℤ
  /-- The list from `connections` on. -/
  list : List Connection
  mutex : Option Thread
  accept : Accept
  destroy : Destroy
  conn : Connection → Conn
  /-- The next address. -/
  next : Connection
  /-- A connection has been used after it was freed. -/
  misused : Bool
  /-- A thread has locked the mutex while it held it. -/
  relocked : Bool

/-- The server has been created. -/
def State.start (maxConnections : ℤ) : State where
  server := true
  running := true
  maxConnections := maxConnections
  currentConnections := 0
  list := []
  mutex := none
  accept := .head
  destroy := .idle
  conn _ := ⟨.unborn, 0, 0⟩
  next := 0
  misused := false
  relocked := false

/-- What a thread meets outside: whether a client connects, whether memory is allocated,
whether a thread is created, and whether the connection is over. -/
structure Outcome where
  client : Bool
  allocated : Bool
  spawned : Bool
  ended : Bool

/-- The connection goes on to a phase. -/
def State.to (s : State) (c : Connection) (phase : Phase) : State :=
  { s with conn := Function.update s.conn c { s.conn c with phase := phase } }

/-- The objects are used. -/
def State.uses (s : State) (cs : List Connection) : State :=
  { s with misused := s.misused || cs.any fun c => (s.conn c).frees ≠ 0 }

/-- `pthread_mutex_lock`: the thread waits while the mutex is held, and for ever if it is held
by itself. -/
def State.lock (s : State) (t : Thread) (after : State → State) : State :=
  if s.mutex = none then after { s with mutex := some t }
  else if s.mutex = some t then { s with relocked := true }
  else s

/-- The thread that is in `rtmp_connection_cleanup`. -/
def cleaner (byAccept : Bool) (c : Connection) : Thread :=
  if byAccept then .accept else .connection c

/-- The next step of `rtmp_connection_cleanup`. -/
def State.cleanup (s : State) (byAccept : Bool) (c : Connection) : Cleanup → State
  | .entering => (s.uses [c]).to c (.cleaning byAccept .checking)
  | .checking =>
    if s.server then s.to c (.cleaning byAccept .locking)
    else s.to c (.cleaning byAccept .freeing)
  | .locking => s.lock (cleaner byAccept c) fun s => s.to c (.cleaning byAccept .searching)
  | .searching =>
    let s := s.uses (s.list.takeWhile (· ≠ c))
    if c ∈ s.list then
      let s := s.uses [c]
      { s with
        list := s.list.erase c
        conn := Function.update s.conn c
          { s.conn c with
            phase := .cleaning byAccept .unlinked
            unlinks := (s.conn c).unlinks + 1 } }
    else s.to c (.cleaning byAccept .unlocking)
  | .unlinked =>
    { s.to c (.cleaning byAccept .unlocking) with
      currentConnections := s.currentConnections - 1 }
  | .unlocking => { s.to c (.cleaning byAccept .freeing) with mutex := none }
  | .freeing =>
    let s := s.uses [c]
    { s with
      conn := Function.update s.conn c ⟨.gone, (s.conn c).unlinks, (s.conn c).frees + 1⟩
      accept := if byAccept then .head else s.accept }

/-- The next step of the accept thread with a connection. `pthread_create` stores the thread
in the connection before the thread runs. -/
def State.acceptConnection (s : State) (outcome : Outcome) (c : Connection) : State :=
  match (s.conn c).phase with
  | .created => s.lock .accept fun s => s.to c .adding
  | .adding =>
    let s := s.uses [c]
    { s.to c .linked with list := c :: s.list }
  | .linked => { s.to c .counted with currentConnections := s.currentConnections + 1 }
  | .counted => { s.to c .spawning with mutex := none }
  | .spawning =>
    if outcome.spawned then { (s.uses [c]).to c .handling with accept := .head }
    else s.to c (.cleaning true .entering)
  | .cleaning true next => s.cleanup true c next
  | _ => s

/-- The next step of `rtmp_accept_thread`. -/
def State.acceptThread (s : State) (outcome : Outcome) : State :=
  match s.accept with
  | .head =>
    if !s.running then { s with accept := .finished }
    else if outcome.client then { s with accept := .accepted }
    else s
  | .accepted =>
    if s.currentConnections ≥ s.maxConnections then { s with accept := .head }
    else if outcome.allocated then
      { s.to s.next .created with accept := .busy s.next, next := s.next + 1 }
    else { s with accept := .head }
  | .busy c => s.acceptConnection outcome c
  | .finished => s

/-- The next step of `rtmp_connection_thread`. -/
def State.connectionThread (s : State) (outcome : Outcome) (c : Connection) : State :=
  match (s.conn c).phase with
  | .handling =>
    let s := s.uses [c]
    if outcome.ended then s.to c (.cleaning false .entering) else s
  | .cleaning false next => s.cleanup false c next
  | _ => s

/-- The next step of `rtmp_server_destroy`. -/
def State.destroyServer (s : State) : State :=
  match s.destroy with
  | .idle => { s with running := false, destroy := .joining }
  | .joining => if s.accept = .finished then { s with destroy := .locking } else s
  | .locking => s.lock .destroy fun s => { s with destroy := .walking s.list.head? }
  | .walking none => { s with destroy := .clearing }
  | .walking (some c) => { s.uses [c] with destroy := .cleaning }
  | .cleaning => s.lock .destroy id
  | .clearing => { s with list := [], destroy := .unlocking }
  | .unlocking => { s with mutex := none, destroy := .freeing }
  | .freeing => { s with server := false, destroy := .done }
  | .done => s

/-- Whose turn it is. -/
inductive Turn
  | accept (outcome : Outcome)
  | connection (outcome : Outcome) (c : Connection)
  | destroy

/-- One step of one thread. -/
def State.step (s : State) : Turn → State
  | .accept outcome => s.acceptThread outcome
  | .connection outcome c => s.connectionThread outcome c
  | .destroy => s.destroyServer

/-! ### What the list guarantees -/

/-- The guarantees of the list: the counter is right and within the limit, a connection is
unlinked and freed once and not used afterwards, and nobody waits for itself. -/
structure State.Sound (s : State) : Prop where
  counted : s.mutex = none → s.currentConnections = s.list.length
  bounded : s.currentConnections ≤ s.maxConnections
  once : ∀ c, (s.conn c).unlinks ≤ 1 ∧ (s.conn c).frees ≤ 1 ∧
    ((s.conn c).phase = .gone → (s.conn c).unlinks = 1 ∧ (s.conn c).frees = 1)
  unused : s.misused = false
  patient : s.relocked = false

/-- When `rtmp_server_destroy` gets the mutex, no connection is left in the list. -/
def State.Admissible (s : State) : Turn → Prop
  | .destroy => s.destroy = .locking → s.mutex = none → s.list = []
  | _ => True

instance State.Admissible.decidable (s : State) : (turn : Turn) → Decidable (s.Admissible turn)
  | .destroy => inferInstanceAs (Decidable (_ → _ → _))
  | .accept _ | .connection _ _ => inferInstanceAs (Decidable True)

/-! ### The phases of a connection -/

/-- The connection is in the list. -/
def Phase.listed : Phase → Bool
  | .linked | .counted | .spawning | .handling => true
  | .cleaning _ next =>
    match next with
    | .entering | .checking | .locking | .searching => true
    | .unlinked | .unlocking | .freeing => false
  | .unborn | .created | .adding | .gone => false

/-- The thread in charge holds the mutex. -/
def Phase.critical : Phase → Bool
  | .adding | .linked | .counted => true
  | .cleaning _ next =>
    match next with
    | .searching | .unlinked | .unlocking => true
    | .entering | .checking | .locking | .freeing => false
  | .unborn | .created | .spawning | .handling | .gone => false

/-- The accept thread is busy with the connection. -/
def Phase.byAccept : Phase → Bool
  | .created | .adding | .linked | .counted | .spawning => true
  | .cleaning byAccept _ => byAccept
  | .unborn | .handling | .gone => false

/-- The thread in charge of a connection. -/
def Phase.thread (c : Connection) (phase : Phase) : Thread := cleaner phase.byAccept c

/-- The connection has passed the check of the limit and is not counted. -/
def Phase.admitted : Phase → Bool
  | .created | .adding | .linked => true
  | .unborn | .counted | .spawning | .handling | .cleaning _ _ | .gone => false

/-- By how much the list is longer than the counter says. -/
def Phase.drift : Phase → ℤ
  | .linked => 1
  | .cleaning _ .unlinked => -1
  | _ => 0

def Phase.unlinks : Phase → ℕ
  | .cleaning _ next =>
    match next with
    | .entering | .checking | .locking | .searching => 0
    | .unlinked | .unlocking | .freeing => 1
  | .gone => 1
  | .unborn | .created | .adding | .linked | .counted | .spawning | .handling => 0

def Phase.frees : Phase → ℕ
  | .gone => 1
  | _ => 0

/-- The mutex is held by the thread that destroys the server. -/
def Destroy.critical : Destroy → Bool
  | .walking _ | .cleaning | .clearing | .unlocking => true
  | .idle | .joining | .locking | .freeing | .done => false

/-- The accept thread has been joined. -/
def Destroy.joined : Destroy → Bool
  | .idle | .joining => false
  | _ => true

/-- The mutex has been locked. -/
def Destroy.entered : Destroy → Bool
  | .idle | .joining | .locking => false
  | _ => true

/-- There was a connection in the list then. -/
def Destroy.stray : Destroy → Bool
  | .walking (some _) | .cleaning => true
  | _ => false

theorem Destroy.joined_of_entered {destroy : Destroy} (h : destroy.entered = true) :
    destroy.joined = true := by
  cases destroy with
  | idle | joining | locking => simp [entered] at h
  | walking _ | cleaning | clearing | unlocking | freeing | done => rfl

/-- The threads of connections are not the one that destroys the server. -/
theorem Phase.thread_ne_destroy (phase : Phase) (c : Connection) : phase.thread c ≠ .destroy := by
  unfold thread cleaner
  split <;> simp

/-- What the phase of a connection says about everything else. -/
structure State.Fits (s : State) (c : Connection) (k : Conn) : Prop where
  listed : c ∈ s.list ↔ k.phase.listed = true
  unlinks : k.unlinks = k.phase.unlinks
  frees : k.frees = k.phase.frees
  fresh : s.next ≤ c → k.phase = .unborn
  accepting : k.phase.byAccept = true → s.accept = .busy c
  admitted : k.phase.admitted = true → s.currentConnections < s.maxConnections
  holds : k.phase.critical = true → s.mutex = some (k.phase.thread c)
  counts : k.phase.critical = true → (s.list.length : ℤ) = s.currentConnections + k.phase.drift

/-- The invariant of the threads. -/
structure State.Inv (s : State) : Prop where
  conn : ∀ c, s.Fits c (s.conn c)
  nodup : s.list.Nodup
  bounded : s.currentConnections ≤ s.maxConnections
  counted : s.mutex = none → s.currentConnections = s.list.length
  holder : ∀ t, s.mutex = some t → t = .destroy ∧ s.destroy.critical = true ∨
    ∃ c, (s.conn c).phase.critical = true ∧ t = (s.conn c).phase.thread c
  holds : s.destroy.critical = true →
    s.mutex = some .destroy ∧ s.currentConnections = s.list.length
  joined : s.destroy.joined = true → s.accept = .finished
  empty : s.destroy.entered = true → s.list = []
  closed : s.server = false → s.destroy.entered = true
  straight : s.destroy.stray = false
  unused : s.misused = false
  patient : s.relocked = false

namespace State.Inv

variable {s : State} {c d : Connection}

/-- The accept thread is busy with one connection at most. -/
theorem accept_unique (h : s.Inv) (hc : (s.conn c).phase.byAccept = true)
    (hd : (s.conn d).phase.byAccept = true) : d = c := by
  have hsame := ((h.conn d).accepting hd).symm.trans ((h.conn c).accepting hc)
  simpa using hsame

/-- A thread acts for one connection. -/
theorem eq_of_thread_eq (h : s.Inv)
    (hthreads : (s.conn d).phase.thread d = (s.conn c).phase.thread c) : d = c := by
  unfold Phase.thread cleaner at hthreads
  cases hcAccept : (s.conn c).phase.byAccept <;> cases hdAccept : (s.conn d).phase.byAccept
  · simpa [hcAccept, hdAccept] using hthreads
  · simp [hcAccept, hdAccept] at hthreads
  · simp [hcAccept, hdAccept] at hthreads
  · exact h.accept_unique hcAccept hdAccept

/-- At most one connection is in a phase that holds the mutex. -/
theorem critical_unique (h : s.Inv) (hc : (s.conn c).phase.critical = true)
    (hd : (s.conn d).phase.critical = true) : d = c :=
  h.eq_of_thread_eq (Option.some.inj (((h.conn d).holds hd).symm.trans ((h.conn c).holds hc)))

/-- While a connection holds the mutex, the thread that destroys the server does not. -/
theorem not_destroying (h : s.Inv) (hc : (s.conn c).phase.critical = true) :
    s.destroy.critical = false := by
  by_contra hdestroy
  have hthreads := (h.holds (by simpa using hdestroy)).1.symm.trans ((h.conn c).holds hc)
  exact Phase.thread_ne_destroy _ _ (Option.some.inj hthreads).symm

/-- Objects that are not freed may be used. -/
theorem uses_eq (h : s.Inv) {cs : List Connection} (hcs : ∀ c ∈ cs, (s.conn c).phase ≠ .gone) :
    s.uses cs = s := by
  have hnone : (cs.any fun c => decide ((s.conn c).frees ≠ 0)) = false := by
    rw [List.any_eq_false]
    intro c hc
    have hfrees := (h.conn c).frees
    have hphase := hcs c hc
    cases hp : (s.conn c).phase <;> simp_all [Phase.frees]
  unfold State.uses
  rw [hnone, Bool.or_false]

end State.Inv

/-- A connection goes on, with what its thread does to the list on the way. -/
def State.moved (s : State) (c : Connection) (phase : Phase) (list : List Connection) (count : ℤ)
    (mutex : Option Thread) (accept : Accept) : State :=
  { s with
    conn := Function.update s.conn c ⟨phase, phase.unlinks, phase.frees⟩
    list := list
    currentConnections := count
    mutex := mutex
    accept := accept }

/-- What a thread may do to the list on behalf of a connection. -/
structure State.Allows (s : State) (c : Connection) (phase : Phase) (list : List Connection)
    (count : ℤ) (mutex : Option Thread) (accept : Accept) : Prop where
  born : c < s.next
  listed : c ∈ list ↔ phase.listed = true
  others : ∀ d ≠ c, d ∈ list ↔ d ∈ s.list
  nodup : list.Nodup
  links : c ∈ list → c ∈ s.list ∨ (s.conn c).phase.byAccept = true
  accepting : phase.byAccept = true → accept = .busy c
  turns : accept = s.accept ∨ s.accept ≠ .finished ∧ ∀ d, s.accept = .busy d → d = c
  admitted : phase.admitted = true → count < s.maxConnections
  counts : count ≤ s.currentConnections ∨ (s.conn c).phase.byAccept = true
  bounded : count ≤ s.maxConnections
  holds : phase.critical = true →
    mutex = some (phase.thread c) ∧ (list.length : ℤ) = count + phase.drift
  leaves : phase.critical = false →
    mutex = none ∧ count = list.length ∨
      (s.conn c).phase.critical = false ∧
        mutex = s.mutex ∧ list = s.list ∧ count = s.currentConnections
  waits : (s.conn c).phase.critical = true ∨ s.mutex = none ∨
    mutex = s.mutex ∧ list = s.list ∧ count = s.currentConnections

/-- While another connection is in its critical section, the list stays as it is. -/
theorem State.Inv.kept {s : State} (h : s.Inv) {c : Connection} {phase : Phase}
    {list : List Connection} {count : ℤ} {mutex : Option Thread} {accept : Accept}
    (ha : s.Allows c phase list count mutex accept) {d : Connection} (hd : d ≠ c)
    (hcritical : (s.conn d).phase.critical = true) :
    mutex = s.mutex ∧ list = s.list ∧ count = s.currentConnections := by
  rcases ha.waits with hc | hnone | hsame
  · exact absurd (h.critical_unique hc hcritical) hd
  · exact absurd ((h.conn d).holds hcritical) (by simp [hnone])
  · exact hsame

/-- So it does while `rtmp_server_destroy` is in its own one. -/
theorem State.Inv.kept_of_destroying {s : State} (h : s.Inv) {c : Connection} {phase : Phase}
    {list : List Connection} {count : ℤ} {mutex : Option Thread} {accept : Accept}
    (ha : s.Allows c phase list count mutex accept) (hcritical : s.destroy.critical = true) :
    mutex = s.mutex ∧ list = s.list ∧ count = s.currentConnections := by
  rcases ha.waits with hc | hnone | hsame
  · simp [h.not_destroying hc] at hcritical
  · exact absurd (h.holds hcritical).1 (by simp [hnone])
  · exact hsame

/-- What the others' phases say goes on to hold when a connection moves. -/
theorem State.Inv.fits_other {s : State} (h : s.Inv) {c : Connection} {phase : Phase}
    {list : List Connection} {count : ℤ} {mutex : Option Thread} {accept : Accept}
    (ha : s.Allows c phase list count mutex accept) {d : Connection} (hd : d ≠ c) :
    (s.moved c phase list count mutex accept).Fits d (s.conn d) := by
  have hfits := h.conn d
  refine ⟨(ha.others d hd).trans hfits.listed, hfits.unlinks, hfits.frees, hfits.fresh,
    fun haccept => ?_, fun hadmitted => ?_, fun hcritical => ?_, fun hcritical => ?_⟩
  · rcases ha.turns with hsame | ⟨-, hbusy⟩
    · exact hsame.trans (hfits.accepting haccept)
    · exact absurd (hbusy d (hfits.accepting haccept)) hd
  · have hlt := hfits.admitted hadmitted
    rcases ha.counts with hle | hc
    · exact Int.lt_of_le_of_lt hle hlt
    · have haccept : (s.conn d).phase.byAccept = true := by
        cases hp : (s.conn d).phase <;> simp_all [Phase.admitted, Phase.byAccept]
      exact absurd (h.accept_unique hc haccept) hd
  · exact (h.kept ha hd hcritical).1.trans (hfits.holds hcritical)
  · obtain ⟨-, hlist, hcount⟩ := h.kept ha hd hcritical
    subst hlist hcount
    exact hfits.counts hcritical

/-- The invariant goes on with the connection. -/
theorem State.Inv.moved {s : State} (h : s.Inv) {c : Connection} {phase : Phase}
    {list : List Connection} {count : ℤ} {mutex : Option Thread} {accept : Accept}
    (ha : s.Allows c phase list count mutex accept) :
    (s.moved c phase list count mutex accept).Inv := by
  have hthis : (s.moved c phase list count mutex accept).conn c =
      ⟨phase, phase.unlinks, phase.frees⟩ := Function.update_self ..
  have hother : ∀ d ≠ c, (s.moved c phase list count mutex accept).conn d = s.conn d :=
    fun d hd => Function.update_of_ne hd _ _
  constructor
  · intro d
    by_cases hd : d = c
    · subst hd
      rw [hthis]
      refine ⟨ha.listed, rfl, rfl, fun hnext => ?_, ha.accepting, ha.admitted,
        fun hcritical => (ha.holds hcritical).1, fun hcritical => (ha.holds hcritical).2⟩
      exact absurd ha.born (by simpa [State.moved] using hnext)
    · rw [hother d hd]
      exact h.fits_other ha hd
  · exact ha.nodup
  · exact ha.bounded
  · intro hnone
    cases hcritical : phase.critical with
    | true => exact absurd (ha.holds hcritical).1 (by simp [show mutex = none from hnone])
    | false =>
      rcases ha.leaves hcritical with ⟨-, hcount⟩ | ⟨-, hmutex, hlist, hcount⟩
      · exact hcount
      · subst hmutex hlist hcount
        exact h.counted hnone
  · intro t ht
    cases hcritical : phase.critical with
    | true =>
      refine .inr ⟨c, by rw [hthis]; exact hcritical, ?_⟩
      rw [hthis]
      exact Option.some.inj (ht.symm.trans (ha.holds hcritical).1)
    | false =>
      rcases ha.leaves hcritical with ⟨hnone, -⟩ | ⟨hc, hmutex, -⟩
      · exact absurd ht (by simp [State.moved, hnone])
      · rcases h.holder t (hmutex.symm.trans ht) with hdestroying | ⟨d, hd, hthread⟩
        · exact .inl hdestroying
        · have hne : d ≠ c := by
            rintro rfl
            simp [hc] at hd
          exact .inr ⟨d, by rwa [hother d hne], by rwa [hother d hne]⟩
  · intro hcritical
    obtain ⟨hmutex, hlist, hcount⟩ := h.kept_of_destroying ha hcritical
    subst hmutex hlist hcount
    exact h.holds hcritical
  · intro hjoined
    rcases ha.turns with hsame | ⟨hrunning, -⟩
    · exact hsame.trans (h.joined hjoined)
    · exact absurd (h.joined hjoined) hrunning
  · intro hentered
    have hempty : s.list = [] := h.empty hentered
    refine List.eq_nil_iff_forall_not_mem.mpr fun d hd => ?_
    by_cases hdc : d = c
    · subst hdc
      rcases ha.links hd with hmem | hc
      · simp [hempty] at hmem
      · have hjoined := h.joined (Destroy.joined_of_entered hentered)
        simp [(h.conn d).accepting hc] at hjoined
    · have hmem := (ha.others d hdc).mp hd
      simp [hempty] at hmem
  · exact h.closed
  · exact h.straight
  · exact h.unused
  · exact h.patient

/-! ### The steps of the threads -/

namespace State.Inv

variable {s : State} {c : Connection}

/-- A connection with a phase has an address. -/
theorem born (h : s.Inv) (hphase : (s.conn c).phase ≠ .unborn) : c < s.next :=
  Nat.lt_of_not_le fun hnext => hphase ((h.conn c).fresh hnext)

/-- The accept thread may turn to something else when it is done with its connection. -/
theorem turns (h : s.Inv) (hc : (s.conn c).phase.byAccept = true) :
    s.accept ≠ .finished ∧ ∀ d, s.accept = .busy d → d = c := by
  rw [(h.conn c).accepting hc]
  exact ⟨by simp, fun d hd => (Accept.busy.inj hd).symm⟩

/-- A step to a phase at which the connection has been unlinked and freed as often. -/
theorem to_eq (h : s.Inv) {phase : Phase} (hunlinks : phase.unlinks = (s.conn c).phase.unlinks)
    (hfrees : phase.frees = (s.conn c).phase.frees) :
    s.to c phase = s.moved c phase s.list s.currentConnections s.mutex s.accept := by
  unfold State.to State.moved
  dsimp only
  rw [(h.conn c).unlinks, (h.conn c).frees, hunlinks, hfrees]

/-- A step outside of the mutex. -/
theorem quiet (h : s.Inv) {phase : Phase} {accept : Accept} (hborn : c < s.next)
    (hsame : phase.listed = (s.conn c).phase.listed ∧ phase.unlinks = (s.conn c).phase.unlinks ∧
      phase.frees = (s.conn c).phase.frees)
    (hfree : (s.conn c).phase.critical = false ∧ phase.critical = false)
    (hadmitted : phase.admitted = true → s.currentConnections < s.maxConnections)
    (haccept : phase.byAccept = true → accept = .busy c)
    (hturns : accept = s.accept ∨ s.accept ≠ .finished ∧ ∀ d, s.accept = .busy d → d = c) :
    ({ s.to c phase with accept := accept } : State).Inv := by
  rw [h.to_eq hsame.2.1 hsame.2.2]
  have hallows : s.Allows c phase s.list s.currentConnections s.mutex accept := by
    refine ⟨hborn, ?_, fun d _ => Iff.rfl, h.nodup, .inl, haccept, hturns, hadmitted,
      .inl (Int.le_refl _), h.bounded, ?_, ?_, ?_⟩
    · rw [hsame.1]
      exact (h.conn c).listed
    · simp [hfree.2]
    · exact fun _ => .inr ⟨hfree.1, rfl, rfl, rfl⟩
    · exact .inr (.inr ⟨rfl, rfl, rfl⟩)
  exact h.moved hallows

/-- A thread does not hold the mutex while its connection is not in a phase that does. -/
theorem not_held (h : s.Inv) (hcritical : (s.conn c).phase.critical = false) :
    s.mutex ≠ some ((s.conn c).phase.thread c) := by
  intro hmutex
  rcases h.holder _ hmutex with ⟨hthread, -⟩ | ⟨d, hd, hthread⟩
  · exact Phase.thread_ne_destroy _ _ hthread
  · obtain rfl := h.eq_of_thread_eq hthread.symm
    simp [hcritical] at hd

/-- The mutex is taken, or waited for. -/
theorem acquire (h : s.Inv) (phase : Phase) (hborn : c < s.next)
    (hsame : phase.listed = (s.conn c).phase.listed ∧ phase.unlinks = (s.conn c).phase.unlinks ∧
      phase.frees = (s.conn c).phase.frees ∧ phase.byAccept = (s.conn c).phase.byAccept ∧
      phase.admitted = (s.conn c).phase.admitted)
    (hfree : (s.conn c).phase.critical = false)
    (hcritical : phase.critical = true ∧ phase.drift = 0) :
    (s.lock (cleaner phase.byAccept c) fun s => s.to c phase).Inv := by
  obtain ⟨hlisted, hunlinks, hfrees, haccept, hadmitted⟩ := hsame
  have hother := h.not_held hfree
  unfold Phase.thread at hother
  rw [← haccept] at hother
  unfold State.lock
  rw [if_neg hother]
  split
  case isFalse => exact h
  case isTrue hmutex =>
    have heq : State.to { s with mutex := some (phase.thread c) } c phase =
        s.moved c phase s.list s.currentConnections (some (phase.thread c)) s.accept := by
      unfold State.to State.moved
      dsimp only
      rw [(h.conn c).unlinks, (h.conn c).frees, hunlinks, hfrees]
    have hallows : s.Allows c phase s.list s.currentConnections (some (phase.thread c))
        s.accept := by
      refine ⟨hborn, ?_, fun d _ => Iff.rfl, h.nodup, .inl, ?_, .inl rfl, ?_,
        .inl (Int.le_refl _), h.bounded, ?_, ?_, .inr (.inl hmutex)⟩
      · rw [hlisted]
        exact (h.conn c).listed
      · rw [haccept]
        exact (h.conn c).accepting
      · rw [hadmitted]
        exact (h.conn c).admitted
      · rw [hcritical.2, Int.add_zero]
        exact fun _ => ⟨rfl, (h.counted hmutex).symm⟩
      · simp [hcritical.1]
    exact (congrArg State.Inv heq).mpr (h.moved hallows)

/-- The mutex is given back. -/
theorem release (h : s.Inv) {phase : Phase} (hborn : c < s.next)
    (hsame : phase.listed = (s.conn c).phase.listed ∧ phase.unlinks = (s.conn c).phase.unlinks ∧
      phase.frees = (s.conn c).phase.frees ∧ phase.byAccept = (s.conn c).phase.byAccept)
    (hcritical : (s.conn c).phase.critical = true ∧ (s.conn c).phase.drift = 0)
    (hleaves : phase.critical = false ∧ phase.admitted = false) :
    ({ s.to c phase with mutex := none } : State).Inv := by
  obtain ⟨hlisted, hunlinks, hfrees, haccept⟩ := hsame
  have hcount := (h.conn c).counts hcritical.1
  rw [hcritical.2, Int.add_zero] at hcount
  rw [h.to_eq hunlinks hfrees]
  have hallows : s.Allows c phase s.list s.currentConnections none s.accept := by
    refine ⟨hborn, ?_, fun d _ => Iff.rfl, h.nodup, .inl, ?_, .inl rfl, ?_,
      .inl (Int.le_refl _), h.bounded, ?_, ?_, .inl hcritical.1⟩
    · rw [hlisted]
      exact (h.conn c).listed
    · rw [haccept]
      exact (h.conn c).accepting
    · simp [hleaves.2]
    · simp [hleaves.1]
    · exact fun _ => .inl ⟨rfl, hcount.symm⟩
  exact h.moved hallows

/-- The connection is put in front of the list. -/
theorem link (h : s.Inv) (hphase : (s.conn c).phase = .adding) :
    ({ s.to c .linked with list := c :: s.list } : State).Inv := by
  have hfits := h.conn c
  rw [h.to_eq (by rw [hphase]; rfl) (by rw [hphase]; rfl)]
  have hfresh : c ∉ s.list := by
    rw [hfits.listed, hphase]
    simp [Phase.listed]
  have hcount := hfits.counts (by rw [hphase]; rfl)
  rw [hphase, show Phase.drift .adding = 0 from rfl] at hcount
  have hallows : s.Allows c .linked (c :: s.list) s.currentConnections s.mutex s.accept := by
    refine ⟨h.born (by simp [hphase]), by simp [Phase.listed], fun d hd => by simp [hd],
      List.nodup_cons.mpr ⟨hfresh, h.nodup⟩, fun _ => .inr (by rw [hphase]; rfl), fun _ => ?_,
      .inl rfl, fun _ => ?_, .inl (Int.le_refl _), h.bounded, fun _ => ⟨?_, ?_⟩,
      by simp [Phase.critical],
      .inl (by rw [hphase]; rfl)⟩
    · exact hfits.accepting (by rw [hphase]; rfl)
    · exact hfits.admitted (by rw [hphase]; rfl)
    · rw [hfits.holds (by rw [hphase]; rfl), hphase]
      rfl
    · rw [List.length_cons, show Phase.drift .linked = 1 from rfl]
      omega
  exact h.moved hallows

/-- The connection is counted. -/
theorem count (h : s.Inv) (hphase : (s.conn c).phase = .linked) :
    ({ s.to c .counted with currentConnections := s.currentConnections + 1 } : State).Inv := by
  have hfits := h.conn c
  rw [h.to_eq (by rw [hphase]; rfl) (by rw [hphase]; rfl)]
  have hcount := hfits.counts (by rw [hphase]; rfl)
  rw [hphase, show Phase.drift .linked = 1 from rfl] at hcount
  have hroom := hfits.admitted (by rw [hphase]; rfl)
  have hallows : s.Allows c .counted s.list (s.currentConnections + 1) s.mutex s.accept := by
    refine ⟨h.born (by simp [hphase]), ?_, fun d _ => Iff.rfl, h.nodup, .inl, fun _ => ?_,
      .inl rfl, by simp [Phase.admitted], .inr (by rw [hphase]; rfl), by omega,
      fun _ => ⟨?_, ?_⟩, by simp [Phase.critical], .inl (by rw [hphase]; rfl)⟩
    · rw [hfits.listed, hphase]
      rfl
    · exact hfits.accepting (by rw [hphase]; rfl)
    · rw [hfits.holds (by rw [hphase]; rfl), hphase]
      rfl
    · rw [hcount, show Phase.drift .counted = 0 from rfl]
      omega
  exact h.moved hallows

/-- The connection is found in the list and taken out. -/
theorem unlink (h : s.Inv) {byAccept : Bool}
    (hphase : (s.conn c).phase = .cleaning byAccept .searching) :
    (s.cleanup byAccept c .searching).Inv := by
  have hfits := h.conn c
  have hmem : c ∈ s.list := by
    rw [hfits.listed, hphase]
    rfl
  have hlive : ∀ d ∈ s.list, (s.conn d).phase ≠ .gone := by
    intro d hd hgone
    have hlisted := (h.conn d).listed.mp hd
    simp [hgone, Phase.listed] at hlisted
  have hcount := hfits.counts (by rw [hphase]; rfl)
  rw [hphase, show Phase.drift (.cleaning byAccept .searching) = 0 from rfl] at hcount
  have hlength : (s.list.erase c).length + 1 = s.list.length := by
    rw [List.length_erase_of_mem hmem]
    have hpos := List.length_pos_of_mem hmem
    omega
  have hunlinks := hfits.unlinks
  have hfrees := hfits.frees
  rw [hphase] at hunlinks hfrees
  have heq : s.cleanup byAccept c .searching =
      s.moved c (.cleaning byAccept .unlinked) (s.list.erase c) s.currentConnections s.mutex
        s.accept := by
    have hwalk : s.uses (s.list.takeWhile (· ≠ c)) = s :=
      h.uses_eq fun d hd => hlive d (List.takeWhile_subset _ hd)
    have hnode : s.uses [c] = s := h.uses_eq (by simpa using hlive c hmem)
    unfold State.cleanup
    dsimp only
    rw [hwalk, if_pos hmem, hnode, hunlinks, hfrees]
    rfl
  have hallows : s.Allows c (.cleaning byAccept .unlinked) (s.list.erase c)
      s.currentConnections s.mutex s.accept := by
    refine ⟨h.born (by simp [hphase]), ?_, fun d hd => List.mem_erase_of_ne hd, h.nodup.erase c,
      fun hc => .inl (List.mem_of_mem_erase hc), fun haccept => ?_, .inl rfl,
      by simp [Phase.admitted], .inl (Int.le_refl _), h.bounded, fun _ => ⟨?_, ?_⟩,
      by simp [Phase.critical], .inl (by rw [hphase]; rfl)⟩
    · simp [Phase.listed, h.nodup.mem_erase_iff]
    · exact hfits.accepting (by rw [hphase]; exact haccept)
    · rw [hfits.holds (by rw [hphase]; rfl), hphase]
      rfl
    · rw [show Phase.drift (.cleaning byAccept .unlinked) = -1 from rfl]
      omega
  rw [heq]
  exact h.moved hallows

/-- The connection is not counted any more. -/
theorem uncount (h : s.Inv) {byAccept : Bool}
    (hphase : (s.conn c).phase = .cleaning byAccept .unlinked) :
    (s.cleanup byAccept c .unlinked).Inv := by
  have hfits := h.conn c
  unfold State.cleanup
  dsimp only
  rw [h.to_eq (by rw [hphase]; rfl) (by rw [hphase]; rfl)]
  have hcount := hfits.counts (by rw [hphase]; rfl)
  rw [hphase, show Phase.drift (.cleaning byAccept .unlinked) = -1 from rfl] at hcount
  have hbounded := h.bounded
  have hallows : s.Allows c (.cleaning byAccept .unlocking) s.list (s.currentConnections - 1)
      s.mutex s.accept := by
    refine ⟨h.born (by simp [hphase]), ?_, fun d _ => Iff.rfl, h.nodup, .inl, fun haccept => ?_,
      .inl rfl, by simp [Phase.admitted], .inl (by omega), by omega, fun _ => ⟨?_, ?_⟩,
      by simp [Phase.critical], .inl (by rw [hphase]; rfl)⟩
    · rw [hfits.listed, hphase]
      rfl
    · exact hfits.accepting (by rw [hphase]; exact haccept)
    · rw [hfits.holds (by rw [hphase]; rfl), hphase]
      rfl
    · rw [hcount, show Phase.drift (.cleaning byAccept .unlocking) = 0 from rfl]
      omega
  exact h.moved hallows

/-- The connection is freed. -/
theorem free (h : s.Inv) {byAccept : Bool}
    (hphase : (s.conn c).phase = .cleaning byAccept .freeing) :
    (s.cleanup byAccept c .freeing).Inv := by
  have hfits := h.conn c
  have hunlinks := hfits.unlinks
  have hfrees := hfits.frees
  rw [hphase] at hunlinks hfrees
  have hnode : s.uses [c] = s := h.uses_eq (by simp [hphase])
  have heq : s.cleanup byAccept c .freeing =
      s.moved c .gone s.list s.currentConnections s.mutex
        (if byAccept then .head else s.accept) := by
    unfold State.cleanup
    dsimp only
    rw [hnode, hunlinks, hfrees]
    rfl
  have hallows : s.Allows c .gone s.list s.currentConnections s.mutex
      (if byAccept then .head else s.accept) := by
    refine ⟨h.born (by simp [hphase]), ?_, fun d _ => Iff.rfl, h.nodup, .inl,
      by simp [Phase.byAccept], ?_, by simp [Phase.admitted], .inl (Int.le_refl _), h.bounded,
      by simp [Phase.critical], fun _ => .inr ⟨by rw [hphase]; rfl, rfl, rfl, rfl⟩,
      .inr (.inr ⟨rfl, rfl, rfl⟩)⟩
    · rw [hfits.listed, hphase]
      rfl
    · cases byAccept with
      | false => exact .inl rfl
      | true => exact .inr (h.turns (by rw [hphase]; rfl))
  rw [heq]
  exact h.moved hallows

/-- A step of the cleanup. -/
theorem cleanup (h : s.Inv) {byAccept : Bool} {next : Cleanup}
    (hphase : (s.conn c).phase = .cleaning byAccept next) : (s.cleanup byAccept c next).Inv := by
  have hborn := h.born (c := c) (by simp [hphase])
  have hbusy : byAccept = true → s.accept = .busy c := fun haccept =>
    (h.conn c).accepting (by rw [hphase]; exact haccept)
  cases next with
  | entering =>
    have hnode : s.uses [c] = s := h.uses_eq (by simp [hphase])
    unfold State.cleanup
    dsimp only
    rw [hnode]
    exact h.quiet hborn (by rw [hphase]; exact ⟨rfl, rfl, rfl⟩) (by rw [hphase]; exact ⟨rfl, rfl⟩)
      (by simp [Phase.admitted]) hbusy (.inl rfl)
  | checking =>
    unfold State.cleanup
    dsimp only
    cases hserver : s.server with
    | true =>
      exact h.quiet hborn (by rw [hphase]; exact ⟨rfl, rfl, rfl⟩)
        (by rw [hphase]; exact ⟨rfl, rfl⟩) (by simp [Phase.admitted]) hbusy (.inl rfl)
    | false =>
      have hlisted : c ∈ s.list := by
        rw [(h.conn c).listed, hphase]
        rfl
      simp [h.empty (h.closed hserver)] at hlisted
  | locking =>
    exact h.acquire (.cleaning byAccept .searching) hborn
      (by rw [hphase]; exact ⟨rfl, rfl, rfl, rfl, rfl⟩) (by rw [hphase]; rfl) ⟨rfl, rfl⟩
  | searching => exact h.unlink hphase
  | unlinked => exact h.uncount hphase
  | unlocking =>
    exact h.release hborn (by rw [hphase]; exact ⟨rfl, rfl, rfl, rfl⟩)
      (by rw [hphase]; exact ⟨rfl, rfl⟩) ⟨rfl, rfl⟩
  | freeing => exact h.free hphase

/-- A step of the accept thread with its connection. -/
theorem acceptConnection (h : s.Inv) (outcome : Outcome) (haccept : s.accept = .busy c) :
    (s.acceptConnection outcome c).Inv := by
  unfold State.acceptConnection
  split
  case h_1 hphase =>
    exact h.acquire .adding (h.born (by simp [hphase]))
      (by rw [hphase]; exact ⟨rfl, rfl, rfl, rfl, rfl⟩) (by rw [hphase]; rfl) ⟨rfl, rfl⟩
  case h_2 hphase =>
    dsimp only
    rw [h.uses_eq (by simp [hphase])]
    exact h.link hphase
  case h_3 hphase => exact h.count hphase
  case h_4 hphase =>
    exact h.release (h.born (by simp [hphase])) (by rw [hphase]; exact ⟨rfl, rfl, rfl, rfl⟩)
      (by rw [hphase]; exact ⟨rfl, rfl⟩) ⟨rfl, rfl⟩
  case h_5 hphase =>
    have hborn := h.born (c := c) (by simp [hphase])
    rw [h.uses_eq (by simp [hphase])]
    split
    · exact h.quiet hborn (by rw [hphase]; exact ⟨rfl, rfl, rfl⟩)
        (by rw [hphase]; exact ⟨rfl, rfl⟩) (by simp [Phase.admitted]) (by simp [Phase.byAccept])
        (.inr (h.turns (by rw [hphase]; rfl)))
    · exact h.quiet hborn (by rw [hphase]; exact ⟨rfl, rfl, rfl⟩)
        (by rw [hphase]; exact ⟨rfl, rfl⟩) (by simp [Phase.admitted]) (fun _ => haccept) (.inl rfl)
  case h_6 hphase => exact h.cleanup hphase
  case h_7 => exact h

/-- The accept thread turns to something else while it has no connection. -/
theorem turned (h : s.Inv) {accept : Accept} (hidle : ∀ c, s.accept ≠ .busy c)
    (hlast : s.accept = .finished → accept = .finished) :
    ({ s with accept := accept } : State).Inv :=
  { h with
    conn := fun c => { h.conn c with
      accepting := fun hc => absurd ((h.conn c).accepting hc) (hidle c) }
    joined := fun hjoined => hlast (h.joined hjoined) }

/-- An address is given out. -/
theorem allocated (h : s.Inv) : ({ s with next := s.next + 1 } : State).Inv :=
  { h with
    conn := fun c => { h.conn c with
      fresh := fun hnext => (h.conn c).fresh (Nat.le_of_succ_le hnext) } }

/-- A step of the accept thread. -/
theorem acceptThread (h : s.Inv) (outcome : Outcome) : (s.acceptThread outcome).Inv := by
  unfold State.acceptThread
  cases haccept : s.accept with
  | head =>
    dsimp only
    split
    · exact h.turned (by simp [haccept]) (by simp [haccept])
    · split
      · exact h.turned (by simp [haccept]) (by simp [haccept])
      · exact h
  | accepted =>
    dsimp only
    split
    case isTrue => exact h.turned (by simp [haccept]) (by simp [haccept])
    case isFalse hroom =>
      split
      · have hunborn : (s.conn s.next).phase = .unborn := (h.conn s.next).fresh (Nat.le_refl _)
        exact h.allocated.quiet (Nat.lt_succ_self _)
          (by dsimp only; rw [hunborn]; exact ⟨rfl, rfl, rfl⟩)
          (by dsimp only; rw [hunborn]; exact ⟨rfl, rfl⟩)
          (fun _ => by dsimp only; omega) (fun _ => rfl)
          (.inr ⟨by simp [haccept], by simp [haccept]⟩)
      · exact h.turned (by simp [haccept]) (by simp [haccept])
  | busy c => exact h.acceptConnection outcome haccept
  | finished => exact h

/-- A step of the thread of a connection. -/
theorem connectionThread (h : s.Inv) (outcome : Outcome) (c : Connection) :
    (s.connectionThread outcome c).Inv := by
  unfold State.connectionThread
  split
  case h_1 hphase =>
    dsimp only
    rw [h.uses_eq (by simp [hphase])]
    split
    · exact h.quiet (h.born (by simp [hphase])) (by rw [hphase]; exact ⟨rfl, rfl, rfl⟩)
        (by rw [hphase]; exact ⟨rfl, rfl⟩) (by simp [Phase.admitted]) (by simp [Phase.byAccept])
        (.inl rfl)
    · exact h
  case h_2 hphase => exact h.cleanup hphase
  case h_3 => exact h

/-- The thread that destroys the server goes on. -/
theorem destroying (h : s.Inv) (server running : Bool) (destroy : Destroy) (mutex : Option Thread)
    (hjoined : destroy.joined = true → s.accept = .finished)
    (hempty : destroy.entered = true → s.list = [])
    (hclosed : server = false → destroy.entered = true)
    (hstraight : destroy.stray = false)
    (hholds : destroy.critical = true →
      mutex = some .destroy ∧ (s.mutex = none ∨ s.destroy.critical = true))
    (hleaves : destroy.critical = false →
      mutex = if s.destroy.critical then none else s.mutex) :
    ({ s with server := server, running := running, destroy := destroy, mutex := mutex } :
      State).Inv := by
  have hkept : ∀ c, (s.conn c).phase.critical = true → mutex = s.mutex := by
    intro c hc
    have hother := h.not_destroying hc
    cases hcritical : destroy.critical with
    | true =>
      rcases (hholds hcritical).2 with hnone | hbusy
      · exact absurd ((h.conn c).holds hc) (by simp [hnone])
      · simp [hother] at hbusy
    | false => simpa [hother] using hleaves hcritical
  have hright : s.mutex = none ∨ s.destroy.critical = true →
      s.currentConnections = s.list.length := by
    rintro (hnone | hbusy)
    · exact h.counted hnone
    · exact (h.holds hbusy).2
  refine { h with
    conn := fun c => { h.conn c with holds := fun hc => (hkept c hc).trans ((h.conn c).holds hc) }
    counted := ?counted, holder := ?holder, holds := ?holds, joined := hjoined, empty := hempty
    closed := hclosed, straight := hstraight }
  case counted =>
    intro hnone
    cases hcritical : destroy.critical with
    | true => exact absurd (hholds hcritical).1 (by simp [show mutex = none from hnone])
    | false =>
      have hmutex := (hleaves hcritical).symm.trans hnone
      cases hbusy : s.destroy.critical with
      | true => exact hright (.inr hbusy)
      | false =>
        rw [hbusy, if_neg Bool.false_ne_true] at hmutex
        exact h.counted hmutex
  case holder =>
    intro t ht
    cases hcritical : destroy.critical with
    | true => exact .inl ⟨Option.some.inj (ht.symm.trans (hholds hcritical).1), rfl⟩
    | false =>
      have hmutex := (hleaves hcritical).symm.trans ht
      cases hbusy : s.destroy.critical with
      | true => simp [hbusy] at hmutex
      | false =>
        rw [hbusy, if_neg Bool.false_ne_true] at hmutex
        rcases h.holder t hmutex with ⟨-, hother⟩ | hconn
        · simp [hbusy] at hother
        · exact .inr hconn
  case holds => exact fun hcritical => ⟨(hholds hcritical).1, hright (hholds hcritical).2⟩

/-- A step of the thread that destroys the server. -/
theorem destroyServer (h : s.Inv) (hadmissible : s.Admissible .destroy) :
    s.destroyServer.Inv := by
  have hopen : s.destroy.entered = false → s.server = true := by
    intro hentered
    by_contra hserver
    have hclosed := h.closed (by simpa using hserver)
    simp [hentered] at hclosed
  unfold State.destroyServer
  cases hdestroy : s.destroy with
  | idle =>
    have hserver := hopen (by rw [hdestroy]; rfl)
    exact h.destroying s.server false .joining s.mutex (by simp [Destroy.joined])
      (by simp [Destroy.entered])
      (by simp [hserver]) rfl (by simp [Destroy.critical])
      (by simp [Destroy.critical, hdestroy])
  | joining =>
    have hserver := hopen (by rw [hdestroy]; rfl)
    dsimp only
    split
    case isTrue haccept =>
      exact h.destroying s.server s.running .locking s.mutex (fun _ => haccept)
        (by simp [Destroy.entered])
        (by simp [hserver]) rfl (by simp [Destroy.critical])
        (by simp [Destroy.critical, hdestroy])
    case isFalse => exact h
  | locking =>
    have haccept := h.joined (by rw [hdestroy]; rfl)
    dsimp only
    unfold State.lock
    split
    case isTrue hmutex =>
      have hempty := hadmissible hdestroy hmutex
      have hnext := h.destroying s.server s.running (.walking none) (some .destroy)
        (fun _ => haccept) (fun _ => hempty)
        (fun _ => rfl) rfl (fun _ => ⟨rfl, .inl hmutex⟩) (by simp [Destroy.critical])
      simpa [hempty] using hnext
    case isFalse =>
      split
      case isTrue hmutex =>
        rcases h.holder _ hmutex with ⟨-, hcritical⟩ | ⟨c, -, hthread⟩
        · simp [hdestroy, Destroy.critical] at hcritical
        · exact absurd hthread.symm (Phase.thread_ne_destroy _ _)
      case isFalse => exact h
  | walking cursor =>
    have hstraight := h.straight
    have haccept := h.joined (by rw [hdestroy]; rfl)
    have hempty := h.empty (by rw [hdestroy]; rfl)
    have hmutex := (h.holds (by rw [hdestroy]; rfl)).1
    cases cursor with
    | some c => simp [hdestroy, Destroy.stray] at hstraight
    | none =>
      exact h.destroying s.server s.running .clearing s.mutex (fun _ => haccept) (fun _ => hempty)
        (fun _ => rfl) rfl (fun _ => ⟨hmutex, .inr (by rw [hdestroy]; rfl)⟩)
        (by simp [Destroy.critical])
  | cleaning =>
    have hstraight := h.straight
    simp [hdestroy, Destroy.stray] at hstraight
  | clearing =>
    have haccept := h.joined (by rw [hdestroy]; rfl)
    have hempty := h.empty (by rw [hdestroy]; rfl)
    have hmutex := (h.holds (by rw [hdestroy]; rfl)).1
    have hnext := h.destroying s.server s.running .unlocking s.mutex (fun _ => haccept)
      (fun _ => hempty) (fun _ => rfl) rfl
      (fun _ => ⟨hmutex, .inr (by rw [hdestroy]; rfl)⟩) (by simp [Destroy.critical])
    simpa [hempty] using hnext
  | unlocking =>
    have haccept := h.joined (by rw [hdestroy]; rfl)
    have hempty := h.empty (by rw [hdestroy]; rfl)
    exact h.destroying s.server s.running .freeing none (fun _ => haccept) (fun _ => hempty)
      (fun _ => rfl)
      rfl (by simp [Destroy.critical]) (fun _ => by rw [hdestroy]; rfl)
  | freeing =>
    have haccept := h.joined (by rw [hdestroy]; rfl)
    have hempty := h.empty (by rw [hdestroy]; rfl)
    exact h.destroying false s.running .done s.mutex (fun _ => haccept) (fun _ => hempty)
      (fun _ => rfl) rfl
      (by simp [Destroy.critical]) (fun _ => by rw [hdestroy]; rfl)
  | done => exact h

/-- One step of one thread keeps the invariant. -/
theorem step (h : s.Inv) (turn : Turn) (hadmissible : s.Admissible turn) :
    (s.step turn).Inv := by
  cases turn with
  | accept outcome => exact h.acceptThread outcome
  | connection outcome c => exact h.connectionThread outcome c
  | destroy => exact h.destroyServer hadmissible

/-- The invariant holds when the server has been created. -/
theorem start {maxConnections : ℤ} (hmax : 0 ≤ maxConnections) :
    (State.start maxConnections).Inv where
  conn c := by
    refine ⟨?_, rfl, rfl, fun _ => rfl, ?_, ?_, ?_, ?_⟩
    all_goals simp [State.start, Phase.listed, Phase.byAccept, Phase.admitted, Phase.critical]
  nodup := List.nodup_nil
  bounded := hmax
  counted _ := rfl
  holder t ht := by simp [State.start] at ht
  holds hcritical := by simp [State.start, Destroy.critical] at hcritical
  joined hjoined := by simp [State.start, Destroy.joined] at hjoined
  empty _ := rfl
  closed hserver := by simp [State.start] at hserver
  straight := rfl
  unused := rfl
  patient := rfl

/-- The invariant gives the guarantees. -/
theorem sound (h : s.Inv) : s.Sound where
  counted := h.counted
  bounded := h.bounded
  once c := by
    rw [(h.conn c).unlinks, (h.conn c).frees]
    refine ⟨?_, ?_, fun hgone => by rw [hgone]; exact ⟨rfl, rfl⟩⟩
    · unfold Phase.unlinks
      split
      · split <;> omega
      all_goals omega
    · unfold Phase.frees
      split <;> omega
  unused := h.unused
  patient := h.patient

end State.Inv

/-- `rtmp_server_module_config_validate` accepts the limit. -/
def validMaxConnections (maxConnections : ℤ) : Bool :=
  !(maxConnections < 1 || maxConnections > 100)

/-- A client connects, memory is there, the thread is created, and the client leaves at once. -/
def Outcome.quick : Outcome := ⟨true, true, true, true⟩

/-- A client connects, its connection is added, handled and cleaned up, and the server is
destroyed. -/
def quietRun : List Turn :=
  List.replicate 7 (.accept .quick) ++ List.replicate 8 (.connection .quick 0) ++ [.destroy] ++
    [.accept .quick] ++ List.replicate 6 .destroy

/-- With a connection in the list, `rtmp_server_destroy` waits for itself. -/
theorem State.relocked_of_destroy {s : State} {c : Connection} {cs : List Connection}
    (hdestroy : s.destroy = .locking) (hmutex : s.mutex = none) (hlist : s.list = c :: cs) :
    (s.destroyServer.destroyServer.destroyServer).relocked = true := by
  have hlocked : s.destroyServer =
      { s with mutex := some .destroy, destroy := .walking (some c) } := by
    unfold State.destroyServer State.lock
    rw [hdestroy, if_pos hmutex]
    simp [hlist]
  rw [hlocked]
  simp [State.destroyServer, State.lock, State.uses]

end Rtmp.ConnectionList
