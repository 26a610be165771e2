import Strero.Lib.Runs
import Strero.Lib.Scanf

/-!
# The targets of the RTMP client

The manager thread gives every enabled target a connection, and each connection has a thread
of its own that connects, publishes and connects again. A connection stays in the list when
its thread has returned, and the manager starts no other thread for it. The functions the
thread calls (sockets, handshake, commands) succeed or fail from outside.
-/

namespace RtmpClient.Targets

open CString Scanf

/-! ### URLs -/

/-- The components of a URL. -/
structure Address where
  host : List UInt8
  port : ℤ
  app : List UInt8
  stream : List UInt8
  useTls : Bool
deriving DecidableEq

/-- What `rtmp_client_parse_url` does. -/
inductive ParsedUrl
  | rejected
  /-- A component is written past the end of its array. -/
  | overrun
  | parsed (address : Address)
deriving DecidableEq

/-- The part of a URL behind its scheme, and whether that is RTMPS. -/
def splitScheme (url : List UInt8) : Option (List UInt8 × Bool) :=
  if ascii "rtmp://" <+: url then some (url.drop 7, false)
  else if ascii "rtmps://" <+: url then some (url.drop 8, true)
  else none

/-- `rtmp_client_parse_url`. -/
def rtmpClientParseUrl (url : List UInt8) : ParsedUrl :=
  match splitScheme url with
  | none => .rejected
  | some (urlPart, useTls) =>
    match strchr urlPart '/'.toUInt8 with
    | none => .rejected
    | some slash =>
      let hostPort := between urlPart slash
      let path := slash.drop 1
      let app := match strchr path '/'.toUInt8 with
        | some streamSlash => between path streamSlash
        | none => path
      let stream := match strchr path '/'.toUInt8 with
        | some streamSlash => streamSlash.drop 1
        | none => []
      if hostPort.length < 256 ∧ app.length < 256 ∧ stream.length < 256 then
        match strchr hostPort ':'.toUInt8 with
        | some colon => .parsed ⟨between hostPort colon, atoi (colon.drop 1), app, stream, useTls⟩
        | none => .parsed ⟨hostPort, if useTls then 443 else 1935, app, stream, useTls⟩
      else .overrun

/-! ### Connections -/

/-- `rtmp_stream_target_t`. -/
structure StreamTarget where
  name : FixedString 64
  enabled : Bool
  url : FixedString 512
  streamKey : FixedString 256
deriving DecidableEq

/-- `rtmp_client_state_t`. -/
inductive ClientState
  | disconnected | connecting | handshakeDone | connected | streamCreated | publishing | error
deriving DecidableEq, Repr

/-- Where the thread of a connection stands. -/
inductive Thread
  /-- There is none. -/
  | unborn
  /-- `rtmp_client_parse_url`. -/
  | parsing
  /-- `while (conn->thread_running)`. -/
  | head
  | socket | resolve | connect | tlsSetup | tlsHandshake | handshake | connectCommand
  | createStream | publish | chunkSize | aacConfig
  /-- The loop that watches the socket. -/
  | watching
  /-- The connection is closed and its thread waits before the next attempt. -/
  | closing
  | returned
  /-- The thread has written past an array, and nothing is known of it. -/
  | lost
deriving DecidableEq, Repr

/-- `rtmp_client_connection_t`, and how often its thread has called `socket`. -/
structure Connection where
  name : FixedString 64
  url : FixedString 512
  streamKey : FixedString 256
  address : Address
  socketOpen : Bool
  state : ClientState
  threadRunning : Bool
  thread : Thread
  attempts : ℕ
deriving DecidableEq

/-- `rtmp_client_connection_create`. -/
def Connection.create (target : StreamTarget) : Connection where
  name := .copy 64 size64_pos target.name.bytes
  url := .copy 512 size512_pos target.url.bytes
  streamKey := .copy 256 size256_pos target.streamKey.bytes
  address := ⟨[], 0, [], [], false⟩
  socketOpen := false
  state := .disconnected
  threadRunning := false
  thread := .unborn
  attempts := 0

/-- `rtmp_client_connection_start`. -/
def Connection.start (k : Connection) (spawned : Bool) : Connection :=
  if k.threadRunning then k
  else if spawned then { k with threadRunning := true, thread := .parsing }
  else { k with threadRunning := false }

/-- The socket is closed, and the thread sleeps and starts over. -/
def Connection.startOver (k : Connection) : Connection :=
  { k with socketOpen := false, thread := .head }

/-- The thread goes on if the function it has called succeeds. -/
def Connection.goOn (k : Connection) (ok : Bool) (state : ClientState) (thread : Thread) :
    Connection :=
  if ok then { k with state := state, thread := thread } else k.startOver

/-- The next step of `rtmp_client_connection_thread`. The function it calls succeeds or not,
and while it watches the socket, there is no error or one. -/
def Connection.step (tlsCompiled : Bool) (k : Connection) (ok : Bool) : Connection :=
  match k.thread with
  | .unborn | .returned | .lost => k
  | .parsing =>
    match rtmpClientParseUrl k.url.bytes with
    | .rejected => { k with thread := .returned }
    | .overrun => { k with thread := .lost }
    | .parsed address => { k with address := address, thread := .head }
  | .head =>
    if k.threadRunning then { k with state := .connecting, thread := .socket }
    else { k with thread := .returned }
  | .socket =>
    { k with
      socketOpen := ok, attempts := k.attempts + 1, thread := if ok then .resolve else .head }
  | .resolve => k.goOn ok k.state .connect
  | .connect =>
    if k.address.useTls then k.goOn (ok && tlsCompiled) k.state .tlsSetup
    else k.goOn ok k.state .handshake
  | .tlsSetup => k.goOn ok k.state .tlsHandshake
  | .tlsHandshake => k.goOn ok k.state .handshake
  | .handshake => k.goOn ok .handshakeDone .connectCommand
  | .connectCommand => k.goOn ok .connected .createStream
  | .createStream => k.goOn ok .streamCreated .publish
  | .publish => k.goOn ok .publishing .chunkSize
  | .chunkSize =>
    if ok then { k with thread := .aacConfig } else { k with state := .error, thread := .returned }
  | .aacConfig =>
    if ok then { k with thread := .watching } else { k with state := .error, thread := .returned }
  | .watching =>
    if k.threadRunning && k.state = .publishing && ok then k else { k with thread := .closing }
  | .closing => { k with socketOpen := false, state := .disconnected, thread := .head }

/-! ### The client -/

/-- Where the manager thread stands. -/
inductive Manager
  /-- `while (client->running)`. -/
  | head
  /-- The loop over the targets, with the mutex held. -/
  | visiting (i : ℕ)
  | finished
deriving DecidableEq, Repr

/-- Where `rtmp_client_destroy` stands. -/
inductive Destroy
  | idle
  | joining
  | stopping (rest : List ℕ)
  /-- `pthread_join` of a connection's thread. -/
  | waiting (c : ℕ) (rest : List ℕ)
  | done
deriving DecidableEq, Repr

/-- `rtmp_client_t`. Connections are numbered as they are created. -/
structure State where
  targets : List StreamTarget
  tlsCompiled : Bool
  running : Bool
  /-- The list from `connections` on. -/
  connections : List ℕ
  conn : ℕ → Connection
  next : ℕ
  manager : Manager
  destroy : Destroy

/-- `rtmp_client_create`. -/
def State.create (targets : List StreamTarget) (tlsCompiled : Bool) : State where
  targets := targets
  tlsCompiled := tlsCompiled
  running := true
  connections := []
  conn _ := .create ⟨.copy 64 size64_pos [], false, .copy 512 size512_pos [],
    .copy 256 size256_pos []⟩
  next := 0
  manager := .head
  destroy := .idle

/-- A target has a connection of its name. -/
def State.has (s : State) (target : StreamTarget) : Bool :=
  s.connections.any fun c => (s.conn c).name = target.name

/-- One target in the loop of `rtmp_client_manager_thread`. -/
def State.visit (s : State) (target : StreamTarget) (allocated spawned : Bool) : State :=
  if target.enabled && !s.has target && allocated then
    { s with
      connections := s.next :: s.connections
      conn := Function.update s.conn s.next ((Connection.create target).start spawned)
      next := s.next + 1 }
  else s

/-- The next step of `rtmp_client_manager_thread`. -/
def State.manage (s : State) (allocated spawned : Bool) : State :=
  match s.manager with
  | .head => { s with manager := if s.running then .visiting 0 else .finished }
  | .visiting i =>
    match s.targets[i]? with
    | none => { s with manager := .head }
    | some target => { s.visit target allocated spawned with manager := .visiting (i + 1) }
  | .finished => s

/-- `rtmp_client_connection_stop`, up to `pthread_join`. -/
def Connection.stop (k : Connection) : Connection :=
  { k with threadRunning := false, socketOpen := false }

/-- The next step of `rtmp_client_destroy`. -/
def State.destroyClient (s : State) : State :=
  match s.destroy with
  | .idle => { s with running := false, destroy := .joining }
  | .joining =>
    if s.manager = .finished then { s with destroy := .stopping s.connections } else s
  | .stopping [] => { s with connections := [], destroy := .done }
  | .stopping (c :: rest) =>
    if (s.conn c).threadRunning then
      { s with conn := Function.update s.conn c (s.conn c).stop, destroy := .waiting c rest }
    else { s with destroy := .stopping rest }
  | .waiting c rest =>
    if (s.conn c).thread = .returned then { s with destroy := .stopping rest } else s
  | .done => s

/-- What happens next: a step of the manager thread, of the thread of a connection or of
`rtmp_client_destroy`, or a failed send marks a connection for reconnection. -/
inductive Turn
  | manager (allocated spawned : Bool)
  | connection (c : ℕ) (ok : Bool)
  | marked (c : ℕ)
  | destroy
deriving DecidableEq, Repr

/-- One step. -/
def State.step (s : State) : Turn → State
  | .manager allocated spawned => s.manage allocated spawned
  | .connection c ok =>
    { s with conn := Function.update s.conn c ((s.conn c).step s.tlsCompiled ok) }
  | .marked c =>
    { s with conn := Function.update s.conn c { s.conn c with state := .disconnected } }
  | .destroy => s.destroyClient

/-! ### To keep trying -/

/-- The thread has not returned. -/
def Thread.alive : Thread → Bool
  | .unborn | .returned | .lost => false
  | _ => true

/-- The next step of the thread is not the one that ends it: the URL can be parsed, and Set
Chunk Size and the audio configuration are sent. -/
def Connection.Continues (k : Connection) (ok : Bool) : Prop :=
  match k.thread with
  | .parsing => ∃ address, rtmpClientParseUrl k.url.bytes = .parsed address
  | .chunkSize | .aacConfig => ok = true
  | _ => True

/-- The thread lives, and whatever its calls give it opens a socket again or stays with the
one it watches. -/
structure Connection.Tries (tlsCompiled : Bool) (k : Connection) : Prop where
  alive : k.thread.alive = true
  again : ∀ calls : ℕ → Bool,
    let later := Runs.orbit (Connection.step tlsCompiled) k calls
    (∀ n, (later n).Continues (calls n)) →
      (∃ n, k.attempts < (later n).attempts) ∨ ∃ n, ∀ m, n ≤ m → (later m).thread = .watching

/-- A connection for the target has been started. -/
def State.Started (s : State) (target : StreamTarget) : Prop :=
  ∃ c ∈ s.connections, (s.conn c).name = target.name ∧
    (s.conn c).threadRunning = true ∧ (s.conn c).thread = .parsing

/-- Every enabled target is tried: by the threads of its connections that are marked running,
and by the manager while it has no connection. -/
def State.KeepsTrying (s : State) : Prop :=
  ∀ target ∈ s.targets, target.enabled = true →
    (∀ c ∈ s.connections, (s.conn c).name = target.name → (s.conn c).threadRunning = true →
      (s.conn c).Tries s.tlsCompiled) ∧
    (s.has target = false →
      ∃ n, ((List.replicate n (.manager true true)).foldl State.step s).Started target)

/-- While the client runs, no thread of a connection that is marked running takes a step that
ends it. -/
def State.Admissible (s : State) : Turn → Prop
  | .connection c ok =>
    s.running = true → (s.conn c).threadRunning = true → (s.conn c).Continues ok
  | _ => True

/-! ### The thread of a connection -/

namespace Connection

variable {tlsCompiled ok : Bool} {k : Connection}

@[simp] theorem goOn_name (k : Connection) (ok : Bool) (state : ClientState) (thread : Thread) :
    (k.goOn ok state thread).name = k.name := by
  cases ok <;> rfl

@[simp] theorem goOn_threadRunning (k : Connection) (ok : Bool) (state : ClientState)
    (thread : Thread) : (k.goOn ok state thread).threadRunning = k.threadRunning := by
  cases ok <;> rfl

@[simp] theorem goOn_attempts (k : Connection) (ok : Bool) (state : ClientState)
    (thread : Thread) : (k.goOn ok state thread).attempts = k.attempts := by
  cases ok <;> rfl

@[simp] theorem goOn_thread (k : Connection) (ok : Bool) (state : ClientState)
    (thread : Thread) : (k.goOn ok state thread).thread = if ok then thread else .head := by
  cases ok <;> rfl

/-- The thread leaves the name and the flag alone. -/
theorem step_kept (tlsCompiled : Bool) (k : Connection) (ok : Bool) :
    (k.step tlsCompiled ok).name = k.name ∧
      (k.step tlsCompiled ok).threadRunning = k.threadRunning := by
  unfold step
  split
  case h_4 => split <;> exact ⟨rfl, rfl⟩
  case h_5 => split <;> exact ⟨rfl, rfl⟩
  case h_8 => split <;> simp
  case h_15 => split <;> exact ⟨rfl, rfl⟩
  case h_16 => split <;> exact ⟨rfl, rfl⟩
  case h_17 => split <;> exact ⟨rfl, rfl⟩
  all_goals simp

/-- A connection without a thread does not get one by itself. -/
theorem step_of_unborn (tlsCompiled ok : Bool) (h : k.thread = .unborn) :
    k.step tlsCompiled ok = k := by
  unfold step
  rw [h]

/-- A thread is not undone. -/
theorem unborn_of_step (h : (k.step tlsCompiled ok).thread = .unborn) : k.thread = .unborn := by
  by_contra hborn
  unfold step at h
  cases hthread : k.thread with
  | unborn => exact hborn hthread
  | parsing => cases hurl : rtmpClientParseUrl k.url.bytes <;> simp [hthread, hurl] at h
  | connect => cases ok <;> cases tlsCompiled <;> simp [hthread] at h <;> split at h <;> simp at h
  | watching =>
    rw [hthread] at h
    dsimp only at h
    split at h <;> simp [hthread] at h
  | head =>
    rw [hthread] at h
    dsimp only at h
    split at h <;> simp at h
  | returned | lost | closing => simp [hthread] at h
  | socket | resolve | tlsSetup | tlsHandshake | handshake | connectCommand | createStream
    | publish | chunkSize | aacConfig => cases ok <;> simp [hthread] at h

/-- The step of a connection that is marked running ends its thread exactly if it is one of
those that may. -/
theorem step_alive_iff (tlsCompiled ok : Bool) (hrunning : k.threadRunning = true)
    (halive : k.thread.alive = true) :
    (k.step tlsCompiled ok).thread.alive = true ↔ k.Continues ok := by
  unfold Continues step
  cases hthread : k.thread with
  | unborn | returned | lost => simp [hthread, Thread.alive] at halive
  | parsing => cases hurl : rtmpClientParseUrl k.url.bytes <;> simp [Thread.alive]
  | head => simp [hrunning, Thread.alive]
  | connect => cases k.address.useTls <;> cases ok <;> cases tlsCompiled <;> simp [Thread.alive]
  | watching =>
    dsimp only
    split <;> simp [hthread, Thread.alive]
  | socket | resolve | tlsSetup | tlsHandshake | handshake | connectCommand | createStream
    | publish | chunkSize | aacConfig => cases ok <;> simp [Thread.alive]
  | closing => simp [Thread.alive]

end Connection

/-- How many steps the thread takes at most before it opens a socket, while it has none to
watch. -/
def Thread.rank : Thread → ℕ
  | .unborn | .returned | .lost => 0
  | .socket => 1
  | .head => 2
  | .closing | .parsing => 3
  | .watching => 4
  | .aacConfig => 5
  | .chunkSize => 6
  | .publish => 7
  | .createStream => 8
  | .connectCommand => 9
  | .handshake => 10
  | .tlsHandshake => 11
  | .tlsSetup => 12
  | .connect => 13
  | .resolve => 14

theorem Thread.rank_pos {thread : Thread} (h : thread.alive = true) : 0 < thread.rank := by
  cases thread <;> simp_all [alive, rank]

namespace Connection

variable {tlsCompiled ok : Bool} {k : Connection}

/-- Sockets are counted only. -/
theorem attempts_le_step (tlsCompiled : Bool) (k : Connection) (ok : Bool) :
    k.attempts ≤ (k.step tlsCompiled ok).attempts := by
  unfold step
  split
  case h_4 => split <;> exact Nat.le_refl _
  case h_5 => split <;> exact Nat.le_refl _
  case h_6 => exact Nat.le_succ _
  case h_8 => split <;> simp
  case h_15 => split <;> exact Nat.le_refl _
  case h_16 => split <;> exact Nat.le_refl _
  case h_17 => split <;> exact Nat.le_refl _
  all_goals simp

/-- A step of a living thread opens a socket, stays with the one it watches, or brings the
next socket nearer. -/
theorem step_rank (tlsCompiled ok : Bool) (hrunning : k.threadRunning = true)
    (halive : k.thread.alive = true) (hcontinues : k.Continues ok) :
    k.attempts < (k.step tlsCompiled ok).attempts ∨
      k.thread = .watching ∧ (k.step tlsCompiled ok).thread = .watching ∨
      (k.step tlsCompiled ok).thread.rank < k.thread.rank := by
  unfold Continues at hcontinues
  unfold step
  cases hthread : k.thread with
  | unborn | returned | lost => simp [hthread, Thread.alive] at halive
  | parsing =>
    obtain ⟨address, hurl⟩ : ∃ address, rtmpClientParseUrl k.url.bytes = .parsed address := by
      simpa [hthread] using hcontinues
    simp [hurl, Thread.rank]
  | head => simp [hrunning, Thread.rank]
  | socket => exact .inl (Nat.lt_succ_self _)
  | connect =>
    cases k.address.useTls <;> cases ok <;> cases tlsCompiled <;> simp [Thread.rank]
  | watching =>
    dsimp only
    split <;> simp [hthread, Thread.rank]
  | chunkSize | aacConfig =>
    obtain rfl : ok = true := by simpa [hthread] using hcontinues
    simp [Thread.rank]
  | resolve | tlsSetup | tlsHandshake | handshake | connectCommand | createStream | publish =>
    cases ok <;> simp [Thread.rank]
  | closing => simp [Thread.rank]

/-- A living thread that is marked running goes on living. -/
theorem orbit_alive (tlsCompiled : Bool) (hrunning : k.threadRunning = true)
    (halive : k.thread.alive = true) {calls : ℕ → Bool}
    (hcontinues : ∀ n, (Runs.orbit (step tlsCompiled) k calls n).Continues (calls n)) (n : ℕ) :
    (Runs.orbit (step tlsCompiled) k calls n).threadRunning = true ∧
      (Runs.orbit (step tlsCompiled) k calls n).thread.alive = true := by
  induction n with
  | zero => exact ⟨hrunning, halive⟩
  | succ n ih =>
    rw [Runs.orbit_succ, (step_kept _ _ _).2]
    exact ⟨ih.1, (step_alive_iff tlsCompiled (calls n) ih.1 ih.2).mpr (hcontinues n)⟩

/-- A living thread that is marked running tries. -/
theorem tries (tlsCompiled : Bool) (hrunning : k.threadRunning = true)
    (halive : k.thread.alive = true) : k.Tries tlsCompiled := by
  refine ⟨halive, ?_⟩
  intro calls later hcontinues
  have hlater := orbit_alive tlsCompiled hrunning halive hcontinues
  -- The rank is that of the thread until it has opened a socket.
  let rank (x : Connection) : ℕ := if k.attempts < x.attempts then 0 else x.thread.rank
  refine Runs.reaches_or_waits rank (fun x => k.attempts < x.attempts)
    (fun x => x.thread = .watching) (fun n => ?_)
  by_cases hgoal : k.attempts < (later n).attempts
  · exact .inl hgoal
  have hbefore : rank (later n) = (later n).thread.rank := if_neg hgoal
  have hpos : 0 < (later n).thread.rank := Thread.rank_pos (hlater n).2
  have hafter : rank (later (n + 1)) ≤ (later (n + 1)).thread.rank := by
    unfold rank
    split <;> omega
  rcases step_rank tlsCompiled (calls n) (hlater n).1 (hlater n).2 (hcontinues n) with
    hopened | ⟨hwatching, hstays⟩ | hnearer
  · have hnext : rank (later (n + 1)) = 0 := if_pos (by
      have hmono : k.attempts ≤ (later n).attempts := by
        clear hgoal hbefore hpos hafter hopened
        induction n with
        | zero => exact Nat.le_refl _
        | succ n ih => exact Nat.le_trans ih (attempts_le_step tlsCompiled _ _)
      exact Nat.lt_of_le_of_lt hmono hopened)
    exact .inr (.inr (by omega))
  · refine .inr (.inl ⟨hwatching, ?_⟩)
    have hsame : (later (n + 1)).thread.rank = (later n).thread.rank := by
      rw [hwatching]
      exact congrArg Thread.rank hstays
    omega
  · exact .inr (.inr (by rw [hbefore]; exact Nat.lt_of_le_of_lt hafter hnearer))

end Connection

/-! ### The list of connections -/

/-- What the list, the manager and the threads have in common. -/
structure State.Fits (s : State) : Prop where
  named : ∀ c ∈ s.connections, ∃ target ∈ s.targets,
    target.enabled = true ∧ (s.conn c).name = target.name
  known : ∀ c ∈ s.connections, c < s.next
  listed : s.running = true → ∀ c, c < s.next → c ∈ s.connections
  fresh : ∀ c, s.next ≤ c → (s.conn c).thread = .unborn
  unmarked : ∀ c, (s.conn c).thread = .unborn → (s.conn c).threadRunning = false
  managed : s.running = true → s.manager ≠ .finished
  whole : s.running = true → s.destroy = .idle

/-- No thread of a connection that is marked running has ended. -/
def State.Lives (s : State) : Prop :=
  ∀ c, (s.conn c).threadRunning = true → (s.conn c).thread.alive = true

namespace State

variable {s : State}

theorem has_eq_false {target : StreamTarget} :
    s.has target = false ↔ ∀ c ∈ s.connections, (s.conn c).name ≠ target.name := by
  simp [has]

theorem create_fits (targets : List StreamTarget) (tlsCompiled : Bool) :
    (create targets tlsCompiled).Fits := by
  refine ⟨?_, ?_, ?_, fun _ _ => rfl, fun _ _ => rfl, ?_, fun _ => rfl⟩ <;> simp [create]

/-- A change of a connection that keeps its name, does not create a thread, and leaves the
flag of a connection without a thread alone. -/
theorem Fits.update (h : s.Fits) {c : ℕ} {k : Connection} {destroy : Destroy}
    (hname : k.name = (s.conn c).name)
    (hthread : (s.conn c).thread = .unborn → k.thread = .unborn)
    (hflag : k.thread = .unborn → k.threadRunning = false)
    (hdestroy : s.running = true → destroy = .idle) :
    ({ s with conn := Function.update s.conn c k, destroy := destroy } : State).Fits where
  named d hd := by
    obtain ⟨target, htarget, henabled, hsame⟩ := h.named d hd
    refine ⟨target, htarget, henabled, ?_⟩
    by_cases hdc : d = c
    · subst hdc
      simpa [hname] using hsame
    · simpa [Function.update_of_ne hdc] using hsame
  known := h.known
  listed := h.listed
  fresh d hd := by
    by_cases hdc : d = c
    · subst hdc
      simpa using hthread (h.fresh d hd)
    · simpa [Function.update_of_ne hdc] using h.fresh d hd
  unmarked d hd := by
    by_cases hdc : d = c
    · subst hdc
      simpa using hflag (by simpa using hd)
    · simpa [Function.update_of_ne hdc] using
        h.unmarked d (by simpa [Function.update_of_ne hdc] using hd)
  managed := h.managed
  whole := hdestroy

/-- A connection that is started is marked running exactly if it has a thread. -/
theorem start_create (target : StreamTarget) (spawned : Bool) :
    (Connection.create target).start spawned =
      { Connection.create target with
        threadRunning := spawned, thread := if spawned then .parsing else .unborn } := by
  cases spawned <;> rfl

/-- A visit changes nothing, or adds a connection for the target. -/
theorem visit_cases (s : State) (target : StreamTarget) (allocated spawned : Bool) :
    s.visit target allocated spawned = s ∨
      target.enabled = true ∧ s.has target = false ∧ s.visit target allocated spawned =
        { s with
          connections := s.next :: s.connections
          conn := Function.update s.conn s.next ((Connection.create target).start spawned)
          next := s.next + 1 } := by
  unfold visit
  split
  case isTrue h =>
    simp only [Bool.and_eq_true, Bool.not_eq_true'] at h
    exact .inr ⟨h.1.1, h.1.2, rfl⟩
  case isFalse => exact .inl rfl

/-- A visit keeps what the list has in common with the rest. -/
theorem Fits.visit (h : s.Fits) {target : StreamTarget} (htarget : target ∈ s.targets)
    (allocated spawned : Bool) :
    (s.visit target allocated spawned).Fits := by
  rcases s.visit_cases target allocated spawned with hsame | ⟨henabled, -, hadded⟩
  · exact hsame.symm ▸ h
  rw [hadded, start_create]
  constructor
  · intro c hc
    rcases List.mem_cons.mp hc with rfl | hold
    · exact ⟨target, htarget, henabled, by simp [Connection.create, FixedString.copy_bytes]⟩
    · obtain ⟨old, hmem, hen, hname⟩ := h.named c hold
      have hne : c ≠ s.next := Nat.ne_of_lt (h.known c hold)
      exact ⟨old, hmem, hen, by simpa [Function.update_of_ne hne] using hname⟩
  · intro c hc
    rcases List.mem_cons.mp hc with rfl | hold
    · exact Nat.lt_succ_self _
    · exact Nat.lt_succ_of_lt (h.known c hold)
  · intro hrunning c hc
    rcases Nat.lt_succ_iff_lt_or_eq.mp hc with hlt | rfl
    · exact List.mem_cons_of_mem _ (h.listed hrunning c hlt)
    · exact List.mem_cons_self
  · intro c hc
    have hne : c ≠ s.next := Nat.ne_of_gt hc
    simpa [Function.update_of_ne hne] using h.fresh c (Nat.le_of_succ_le hc)
  · intro c hc
    by_cases hnew : c = s.next
    · subst hnew
      cases spawned <;> simp_all
    · simpa [Function.update_of_ne hnew] using
        h.unmarked c (by simpa [Function.update_of_ne hnew] using hc)
  · exact h.managed
  · exact h.whole

/-- The manager goes on to another place. -/
theorem Fits.turn (h : s.Fits) {manager : Manager}
    (hmanaged : s.running = true → manager ≠ .finished) :
    ({ s with manager := manager } : State).Fits :=
  { h with managed := hmanaged }

theorem visit_running (s : State) (target : StreamTarget) (allocated spawned : Bool) :
    (s.visit target allocated spawned).running = s.running := by
  rcases s.visit_cases target allocated spawned with hsame | ⟨-, -, hadded⟩
  · rw [hsame]
  · rw [hadded]

/-- A step of the manager keeps what the list has in common with the rest. -/
theorem Fits.manage (h : s.Fits) (allocated spawned : Bool) :
    (s.manage allocated spawned).Fits := by
  unfold State.manage
  cases hmanager : s.manager with
  | head =>
    refine h.turn fun hrunning => ?_
    simp [hrunning]
  | visiting i =>
    dsimp only
    split
    case h_1 => exact h.turn (by simp)
    case h_2 target htarget =>
      exact (h.visit (List.mem_of_getElem? htarget) allocated spawned).turn (by simp)
  | finished => exact h

/-- A step of `rtmp_client_destroy` keeps it. -/
theorem Fits.destroyClient (h : s.Fits) : s.destroyClient.Fits := by
  have hstopped : s.destroy ≠ .idle → s.running = false := fun hbusy => by
    simpa using fun hrunning => hbusy (h.whole hrunning)
  unfold State.destroyClient
  cases hdestroy : s.destroy with
  | idle => exact { h with listed := by simp, managed := by simp, whole := by simp }
  | joining =>
    have hover := hstopped (by simp [hdestroy])
    dsimp only
    split
    · exact { h with whole := by simp [hover] }
    · exact h
  | stopping rest =>
    have hover := hstopped (by simp [hdestroy])
    cases rest with
    | nil =>
      exact { h with
        named := by simp
        known := by simp
        listed := by simp [hover]
        whole := by simp [hover] }
    | cons c rest =>
      dsimp only
      split
      · exact h.update rfl id (fun _ => rfl) (by simp [hover])
      · exact { h with whole := by simp [hover] }
  | waiting c rest =>
    have hover := hstopped (by simp [hdestroy])
    dsimp only
    split
    · exact { h with whole := by simp [hover] }
    · exact h
  | done => exact h

/-- Every step keeps what the list has in common with the rest. -/
theorem Fits.step (h : s.Fits) (turn : Turn) : (s.step turn).Fits := by
  cases turn with
  | manager allocated spawned => exact h.manage allocated spawned
  | connection c ok =>
    obtain ⟨hname, hflag⟩ := Connection.step_kept s.tlsCompiled (s.conn c) ok
    refine h.update hname ?_ ?_ h.whole
    · intro hunborn
      rw [Connection.step_of_unborn _ _ hunborn]
      exact hunborn
    · intro hunborn
      rw [hflag]
      exact h.unmarked c (Connection.unborn_of_step hunborn)
  | marked c => exact h.update rfl id (h.unmarked c) h.whole
  | destroy => exact h.destroyClient

/-- `rtmp_client_destroy` begins with the end of the run. -/
theorem running_of_destroyClient (s : State) (h : s.destroyClient.running = true) :
    s.running = true ∧ s.destroy ≠ .idle := by
  unfold destroyClient at h
  cases hdestroy : s.destroy with
  | idle => simp [hdestroy] at h
  | done => exact ⟨by simpa [hdestroy] using h, by simp⟩
  | joining | waiting _ _ =>
    rw [hdestroy] at h
    dsimp only at h
    split at h <;> exact ⟨h, by simp⟩
  | stopping rest =>
    rw [hdestroy] at h
    cases rest with
    | nil => exact ⟨h, by simp⟩
    | cons c rest =>
      dsimp only at h
      split at h <;> exact ⟨h, by simp⟩

/-- The thread of a connection that a visit adds lives. -/
theorem Lives.visit (h : s.Lives) (target : StreamTarget) (allocated spawned : Bool) :
    (s.visit target allocated spawned).Lives := by
  intro c hflag
  rcases s.visit_cases target allocated spawned with hsame | ⟨-, -, hadded⟩
  · rw [hsame] at hflag ⊢
    exact h c hflag
  · rw [hadded, start_create] at hflag ⊢
    by_cases hnew : c = s.next
    · subst hnew
      cases spawned <;> simp_all [Thread.alive]
    · simp only [Function.update_of_ne hnew] at hflag ⊢
      exact h c hflag

/-- While the client runs, a step leaves all threads living exactly if it is none that ends
one. -/
theorem Fits.lives_step_iff (h : s.Fits) (hlives : s.running = true → s.Lives) (turn : Turn) :
    ((s.step turn).running = true → (s.step turn).Lives) ↔ s.Admissible turn := by
  cases turn with
  | manager allocated spawned =>
    refine ⟨fun _ => trivial, fun _ => ?_⟩
    unfold State.step State.manage
    cases hmanager : s.manager with
    | head => exact hlives
    | visiting i =>
      dsimp only
      split
      case h_1 => exact hlives
      case h_2 target htarget =>
        dsimp only
        rw [visit_running]
        exact fun hrunning => (hlives hrunning).visit target allocated spawned
    | finished => exact hlives
  | connection c ok =>
    refine forall_congr' fun hrunning => ?_
    have hkept := (Connection.step_kept s.tlsCompiled (s.conn c) ok).2
    constructor
    · intro hafter hflag
      refine (Connection.step_alive_iff s.tlsCompiled ok hflag (hlives hrunning c hflag)).mp ?_
      have hthis := hafter c
      simp only [State.step, Function.update_self] at hthis
      exact hthis (hkept.trans hflag)
    · intro hcontinues d hflag
      by_cases hdc : d = c
      · subst hdc
        simp only [State.step, Function.update_self] at hflag ⊢
        rw [hkept] at hflag
        exact (Connection.step_alive_iff s.tlsCompiled ok hflag (hlives hrunning d hflag)).mpr
          (hcontinues hflag)
      · simp only [State.step, Function.update_of_ne hdc] at hflag ⊢
        exact hlives hrunning d hflag
  | marked c =>
    refine ⟨fun _ => trivial, fun _ hrunning d => ?_⟩
    by_cases hdc : d = c
    · subst hdc
      simpa [State.step] using hlives hrunning d
    · simpa [State.step, Function.update_of_ne hdc] using hlives hrunning d
  | destroy =>
    refine ⟨fun _ => trivial, fun _ hrunning => ?_⟩
    obtain ⟨hbefore, hbusy⟩ := s.running_of_destroyClient hrunning
    exact absurd (h.whole hbefore) hbusy

/-! ### The rounds of the manager -/

/-- How many steps the manager takes before it visits a target. -/
def distance (s : State) (i : ℕ) : ℕ :=
  match s.manager with
  | .head => i + 1
  | .visiting j => if j ≤ i then i - j else s.targets.length - j + i + 3
  | .finished => 0

/-- A visit with memory and threads either starts a connection for the target or is one of a
target of another name, or a disabled one. -/
theorem Fits.visit_started (h : s.Fits) {target other : StreamTarget}
    (hnone : s.has target = false) :
    (s.visit other true true).Started target ∨
      (s.visit other true true).has target = false ∧ (target.enabled = true → other ≠ target) := by
  rcases s.visit_cases other true true with hsame | ⟨-, -, hadded⟩
  · refine .inr ⟨by rw [hsame]; exact hnone, ?_⟩
    rintro henabled rfl
    have hnext : (s.visit other true true).next = s.next := congrArg State.next hsame
    unfold State.visit at hnext
    rw [henabled, hnone] at hnext
    simp at hnext
  · rw [hadded, start_create]
    by_cases hname : other.name = target.name
    · refine .inl ⟨s.next, List.mem_cons_self, ?_⟩
      simp [Connection.create, FixedString.copy_bytes, hname]
    · refine .inr ⟨?_, fun _ hsame => hname (congrArg StreamTarget.name hsame)⟩
      rw [has_eq_false] at hnone ⊢
      intro c hc
      rcases List.mem_cons.mp hc with rfl | hold
      · simpa [Connection.create, FixedString.copy_bytes] using hname
      · have hne : c ≠ s.next := Nat.ne_of_lt (h.known c hold)
        simpa [Function.update_of_ne hne] using hnone c hold

/-- A step of the manager starts a connection for the target, or brings its visit nearer. -/
theorem Fits.manage_nearer (h : s.Fits) (hrunning : s.running = true) {i : ℕ}
    {target : StreamTarget} (hi : s.targets[i]? = some target) (henabled : target.enabled = true)
    (hnone : s.has target = false) :
    (s.manage true true).Started target ∨
      (s.manage true true).has target = false ∧ (s.manage true true).running = true ∧
        (s.manage true true).targets = s.targets ∧
        (s.manage true true).distance i < s.distance i := by
  have hlength : i < s.targets.length := (List.getElem?_eq_some_iff.mp hi).1
  unfold State.manage
  cases hmanager : s.manager with
  | finished => exact absurd hmanager (h.managed hrunning)
  | head =>
    refine .inr ⟨hnone, hrunning, rfl, ?_⟩
    simp [distance, hmanager, hrunning]
  | visiting j =>
    dsimp only
    split
    case h_1 hend =>
      have hpast : s.targets.length ≤ j := List.getElem?_eq_none_iff.mp hend
      refine .inr ⟨hnone, hrunning, rfl, ?_⟩
      simp only [distance, hmanager]
      rw [if_neg (by omega)]
      omega
    case h_2 other hother =>
      rcases h.visit_started hnone with hstarted | ⟨hstill, hdifferent⟩
      · exact .inl hstarted
      have hne : j ≠ i := by
        rintro rfl
        exact hdifferent henabled (Option.some.inj (hother.symm.trans hi))
      have hlt : j < s.targets.length := (List.getElem?_eq_some_iff.mp hother).1
      have htargets : (s.visit other true true).targets = s.targets := by
        rcases s.visit_cases other true true with hsame | ⟨-, -, hadded⟩
        · rw [hsame]
        · rw [hadded]
      refine .inr ⟨hstill, (s.visit_running other true true).trans hrunning, htargets, ?_⟩
      simp only [distance, hmanager, htargets]
      split <;> split <;> omega

/-- While the client runs, the manager starts a connection for every enabled target that has
none. -/
theorem Fits.exists_started (h : s.Fits) (hrunning : s.running = true) {i : ℕ}
    {target : StreamTarget} (hi : s.targets[i]? = some target) (henabled : target.enabled = true)
    (hnone : s.has target = false) :
    ∃ n, ((List.replicate n (.manager true true)).foldl State.step s).Started target := by
  induction hd : s.distance i using Nat.strongRecOn generalizing s with
  | ind d ih =>
    subst hd
    rcases h.manage_nearer hrunning hi henabled hnone with
      hstarted | ⟨hstill, hruns, htargets, hnearer⟩
    · exact ⟨1, hstarted⟩
    · obtain ⟨n, hn⟩ := ih _ hnearer (h.step (.manager true true)) hruns (htargets ▸ hi) hstill rfl
      exact ⟨n + 1, hn⟩

/-- While the client runs, its targets are tried exactly if its threads live. -/
theorem Fits.keepsTrying_iff (h : s.Fits) (hrunning : s.running = true) :
    s.KeepsTrying ↔ s.Lives := by
  constructor
  · intro htries c hflag
    have hborn : ¬(s.conn c).thread = .unborn := fun hunborn => by
      simp [h.unmarked c hunborn] at hflag
    have hknown : c < s.next := Nat.lt_of_not_le fun hfresh => hborn (h.fresh c hfresh)
    have hlisted := h.listed hrunning c hknown
    obtain ⟨target, htarget, henabled, hname⟩ := h.named c hlisted
    exact ((htries target htarget henabled).1 c hlisted hname hflag).alive
  · intro hlives target htarget henabled
    refine ⟨fun c _ _ hflag => Connection.tries s.tlsCompiled hflag (hlives c hflag), ?_⟩
    obtain ⟨i, hi⟩ := List.getElem?_of_mem htarget
    exact h.exists_started hrunning hi henabled

end State

/-- In every state of a run in which the client is running the targets are tried, exactly if no
thread of a connection that is marked running is ended by its URL or by a send that fails
after it has begun to publish. -/
theorem run_keepsTrying_iff (targets : List StreamTarget) (tlsCompiled : Bool)
    (turns : List Turn) :
    (∀ n, let s := (turns.take n).foldl State.step (State.create targets tlsCompiled)
      s.running = true → s.KeepsTrying) ↔
      Runs.Guarded State.step State.Admissible (State.create targets tlsCompiled) turns := by
  have hfits := State.create_fits targets tlsCompiled
  have hlives : (State.create targets tlsCompiled).Lives := fun c hflag => by
    simp [State.create, Connection.create] at hflag
  have hguarded := Runs.forall_take_iff_guarded State.Fits (fun s => s.running = true → s.Lives)
    (fun _ turn h => h.step turn) (fun _ turn h hP => h.lives_step_iff hP turn) turns hfits
    fun _ => hlives
  refine Iff.trans (forall_congr' fun n => forall_congr' fun hrunning => ?_) hguarded
  have hreached : ((turns.take n).foldl State.step (State.create targets tlsCompiled)).Fits := by
    refine List.foldlRecOn (motive := State.Fits) _ _ hfits ?_
    exact fun s h turn _ => h.step turn
  exact hreached.keepsTrying_iff hrunning

/-- An enabled target. -/
def liveTarget : StreamTarget where
  name := .copy 64 size64_pos (ascii "t")
  enabled := true
  url := .copy 512 size512_pos (ascii "rtmp://h/live")
  streamKey := .copy 256 size256_pos (ascii "k")

/-- The manager starts the connection, everything succeeds up to the publish command, and Set
Chunk Size cannot be sent. -/
def lostChunkSize : List Turn :=
  [.manager true true, .manager true true] ++ List.replicate 9 (.connection 0 true) ++
    [.connection 0 false]

/-- The thread has returned, and its connection is still marked running. -/
theorem not_run_keepsTrying :
    ¬ ∀ (targets : List StreamTarget) (tlsCompiled : Bool) (turns : List Turn),
      (turns.foldl State.step (State.create targets tlsCompiled)).running = true →
        (turns.foldl State.step (State.create targets tlsCompiled)).KeepsTrying := by
  intro hall
  have htries := hall [liveTarget] false lostChunkSize (by decide +kernel) liveTarget
    List.mem_cons_self rfl
  have halive := (htries.1 0 (by decide +kernel) (by decide +kernel) (by decide +kernel)).alive
  revert halive
  decide +kernel

end RtmpClient.Targets
