import Strero.Lib.Runs
import Strero.Rtmp.ConnectionThread

/-!
# Connections share the table of last headers

Each connection has its own thread, but the table of last headers is one static
array. Here the threads of a server take turns in any order, and each run is
compared with the run of every connection on its own. The two agree as long as
no chunk takes fields from a header that another connection stored.
-/

namespace Rtmp

variable {Peer : Type*} [DecidableEq Peer]

/-- The connection threads of a server and the table they share. -/
structure Server (Peer : Type*) where
  lastHeaders : LastHeaders
  threads : Peer → Thread

/-- One thread takes a turn of its loop. -/
def Server.step (s : Server Peer) (p : Peer) : Server Peer where
  lastHeaders := ((s.threads p).step s.lastHeaders).1
  threads := Function.update s.threads p ((s.threads p).step s.lastHeaders).2

/-- The header fields at the head of a thread's input, if its next turn reads
them. -/
def Thread.nextHeader (t : Thread) : Option ChunkHeader :=
  if t.finished = true ∨ t.conn.threadRunning = false then none
  else
    match rtmpReadChunkHeader .zero t.input with
    | .ok fields _ => some fields
    | _ => none

/-! ### What a turn takes from the table and leaves in it -/

/-- A turn stores the header it read, completed from the table. -/
theorem Thread.step_lastHeaders (t : Thread) (lastHeaders : LastHeaders) :
    (t.step lastHeaders).1 =
      match t.nextHeader with
      | some fields => storeHeader lastHeaders (inheritHeader lastHeaders fields)
      | none => lastHeaders := by
  unfold Thread.step Thread.nextHeader
  cases hfinished : t.finished with
  | true => simp
  | false =>
    cases hrunning : t.conn.threadRunning with
    | false => simp
    | true =>
      unfold rtmpChunkRead
      dsimp only [Message.zero]
      cases hread : rtmpReadChunkHeader .zero t.input with
      | closed => simp
      | failed => simp
      | ok fields rest =>
        simp only [Bool.false_eq_true, reduceCtorEq, or_self, if_false]
        cases Wire.takeExact (chunkDataSize t.conn (inheritHeader lastHeaders fields) 0).toNat
            rest with
        | none => rfl
        | some p => dsimp only; split_ifs <;> rfl

/-- Apart from the fields its next chunk inherits, a turn does not depend on
the table. -/
theorem Thread.step_congr {t : Thread} {table table' : LastHeaders}
    (h : ∀ fields, t.nextHeader = some fields →
      inheritHeader table fields = inheritHeader table' fields) :
    (t.step table).2 = (t.step table').2 := by
  unfold Thread.nextHeader at h
  unfold Thread.step
  cases hfinished : t.finished with
  | true => simp
  | false =>
    cases hrunning : t.conn.threadRunning with
    | false => simp
    | true =>
      unfold rtmpChunkRead
      dsimp only [Message.zero]
      cases hread : rtmpReadChunkHeader .zero t.input with
      | closed => simp
      | failed => simp
      | ok fields rest =>
        have hsame := h fields (by simp [hfinished, hrunning, hread])
        simp only [Bool.false_eq_true, reduceCtorEq, if_false, hsame]
        cases Wire.takeExact (chunkDataSize t.conn (inheritHeader table' fields) 0).toNat rest with
        | none => rfl
        | some p => dsimp only; split_ifs <;> rfl

/-- The inherited fields come from one entry of the table, and a chunk of type
0 inherits none. -/
theorem inheritHeader_congr {table table' : LastHeaders} {fields : ChunkHeader}
    (h : fields.fmt ≠ .type0 → ∀ hid : fields.chunkStreamId.toNat < 64,
      table ⟨fields.chunkStreamId.toNat, hid⟩ = table' ⟨fields.chunkStreamId.toNat, hid⟩) :
    inheritHeader table fields = inheritHeader table' fields := by
  unfold inheritHeader
  split_ifs with hid
  · cases hfmt : fields.fmt with
    | type0 => rfl
    | type1 => simp only [h (by simp [hfmt]) hid]
    | type2 => simp only [h (by simp [hfmt]) hid]
    | type3 => simp only [h (by simp [hfmt]) hid]
  · rfl

/-! ### Runs with the owner of every entry -/

/-- A server together with the connection that last stored each entry of the
table since the run began. -/
structure Tracked (Peer : Type*) where
  server : Server Peer
  owner : Fin 64 → Option Peer

/-- The owners after a turn of `p`. -/
def Tracked.nextOwner (s : Tracked Peer) (p : Peer) : Fin 64 → Option Peer :=
  match (s.server.threads p).nextHeader with
  | some fields =>
    if h : fields.chunkStreamId.toNat < 64 then
      Function.update s.owner ⟨fields.chunkStreamId.toNat, h⟩ (some p)
    else s.owner
  | none => s.owner

def Tracked.step (s : Tracked Peer) (p : Peer) : Tracked Peer :=
  ⟨s.server.step p, s.nextOwner p⟩

/-- The chunk that `p` reads next takes no field from an entry that another
connection stored. -/
def Tracked.ReadsOwn (s : Tracked Peer) (p : Peer) : Prop :=
  ∀ fields, (s.server.threads p).nextHeader = some fields → fields.fmt ≠ .type0 →
    ∀ hid : fields.chunkStreamId.toNat < 64,
      s.owner ⟨fields.chunkStreamId.toNat, hid⟩ = none ∨
        s.owner ⟨fields.chunkStreamId.toNat, hid⟩ = some p

/-- The owners do not influence the server. -/
theorem Tracked.foldl_server (s : Tracked Peer) (schedule : List Peer) :
    (schedule.foldl Tracked.step s).server = schedule.foldl Server.step s.server := by
  induction schedule generalizing s with
  | nil => rfl
  | cons p schedule ih => exact ih (s.step p)

/-! ### Every connection on its own -/

/-- Every connection with a table of its own; a turn of `p` moves only `p`. -/
def aloneStep (alone : Peer → LastHeaders × Thread) (p : Peer) : Peer → LastHeaders × Thread :=
  Function.update alone p ((alone p).2.step (alone p).1)

/-- In a schedule each connection takes as many turns as it occurs. -/
theorem foldl_aloneStep (alone : Peer → LastHeaders × Thread) (schedule : List Peer) (p : Peer) :
    schedule.foldl aloneStep alone p = (alone p).2.run (schedule.count p) (alone p).1 := by
  induction schedule generalizing alone with
  | nil => rfl
  | cons q schedule ih =>
    rw [List.foldl_cons, ih]
    by_cases hq : q = p
    · subst q
      rw [List.count_cons_self, Thread.run_succ]
      simp [aloneStep]
    · rw [List.count_cons_of_ne hq]
      simp [aloneStep, Function.update_of_ne (Ne.symm hq)]

/-- A connection's thread is the same in both runs, and so are the entries that
it stored itself or that nobody stored. -/
def SameAsAlone (s : Tracked Peer) (alone : Peer → LastHeaders × Thread) : Prop :=
  ∀ p, s.server.threads p = (alone p).2 ∧
    ∀ id, s.owner id = none ∨ s.owner id = some p → s.server.lastHeaders id = (alone p).1 id

omit [DecidableEq Peer] in
/-- The owners after a turn in which a header is read. -/
theorem Tracked.nextOwner_apply {s : Tracked Peer} {p : Peer} {fields : ChunkHeader}
    (hnext : (s.server.threads p).nextHeader = some fields) (id : Fin 64) :
    s.nextOwner p id = if fields.chunkStreamId.toNat = id then some p else s.owner id := by
  unfold Tracked.nextOwner
  rw [hnext]
  dsimp only
  split_ifs with hlow heq heq
  · obtain rfl : id = ⟨fields.chunkStreamId.toNat, hlow⟩ := Fin.ext heq.symm
    rw [Function.update_self]
  · rw [Function.update_of_ne fun hid => heq (Fin.ext_iff.mp hid).symm]
  · exact absurd (heq ▸ id.isLt) hlow
  · rfl

omit [DecidableEq Peer] in
/-- The owners after a turn in which no header is read. -/
theorem Tracked.nextOwner_of_none {s : Tracked Peer} {p : Peer}
    (hnext : (s.server.threads p).nextHeader = none) : s.nextOwner p = s.owner := by
  unfold Tracked.nextOwner
  rw [hnext]

/-- The step of the simulation. Entries stored by `p` leave the scope of every
other connection. -/
theorem SameAsAlone.step {s : Tracked Peer} {alone : Peer → LastHeaders × Thread} {p : Peer}
    (h : SameAsAlone s alone) (hown : s.ReadsOwn p) :
    SameAsAlone (s.step p) (aloneStep alone p) := by
  obtain ⟨hthread, htable⟩ := h p
  have hinherit : ∀ fields, (s.server.threads p).nextHeader = some fields →
      inheritHeader s.server.lastHeaders fields = inheritHeader (alone p).1 fields := by
    intro fields hnext
    exact inheritHeader_congr fun hfmt hid => htable _ (hown fields hnext hfmt hid)
  have hstep := Thread.step_congr hinherit
  intro q
  by_cases hq : q = p
  · subst q
    refine ⟨?_, fun id hid => ?_⟩
    · simp only [Tracked.step, Server.step, aloneStep, Function.update_self]
      rw [hstep, hthread]
    · have hlast := (s.server.threads p).step_lastHeaders s.server.lastHeaders
      have hlast' := (s.server.threads p).step_lastHeaders (alone p).1
      simp only [Tracked.step, Server.step, aloneStep, Function.update_self] at hid ⊢
      rw [← hthread, hlast, hlast']
      cases hnext : (s.server.threads p).nextHeader with
      | none =>
        rw [Tracked.nextOwner_of_none hnext] at hid
        exact htable id hid
      | some fields =>
        rw [Tracked.nextOwner_apply hnext] at hid
        dsimp only
        rw [hinherit fields hnext, storeHeader_apply, storeHeader_apply,
          inheritHeader_chunkStreamId]
        split_ifs at hid ⊢
        · rfl
        · exact htable id hid
  · obtain ⟨hthread', htable'⟩ := h q
    refine ⟨?_, fun id hid => ?_⟩
    · simp only [Tracked.step, Server.step, aloneStep, Function.update_of_ne hq]
      exact hthread'
    · have hlast := (s.server.threads p).step_lastHeaders s.server.lastHeaders
      simp only [Tracked.step, Server.step, aloneStep, Function.update_of_ne hq] at hid ⊢
      rw [hlast]
      cases hnext : (s.server.threads p).nextHeader with
      | none =>
        rw [Tracked.nextOwner_of_none hnext] at hid
        exact htable' id hid
      | some fields =>
        rw [Tracked.nextOwner_apply hnext] at hid
        dsimp only
        rw [storeHeader_apply, inheritHeader_chunkStreamId]
        split_ifs at hid ⊢
        · rcases hid with hid | hid
          · cases hid
          · exact absurd (Option.some.inj hid).symm hq
        · exact htable' id hid

/-- The tracked server at the start of a run. -/
def Server.track (s : Server Peer) : Tracked Peer := ⟨s, fun _ => none⟩

/-- In a run in which no chunk takes fields from another connection's header,
every thread ends in the state it reaches on its own. -/
theorem threads_eq_alone {s : Server Peer} {schedule : List Peer}
    (hown : Runs.Guarded Tracked.step Tracked.ReadsOwn s.track schedule) (p : Peer) :
    (schedule.foldl Server.step s).threads p =
      ((s.threads p).run (schedule.count p) s.lastHeaders).2 := by
  have hinit : SameAsAlone s.track fun q => (s.lastHeaders, s.threads q) :=
    fun q => ⟨rfl, fun id _ => rfl⟩
  have hstep : ∀ (t : Tracked Peer) alone q, SameAsAlone t alone → t.ReadsOwn q →
      SameAsAlone (t.step q) (aloneStep alone q) := fun _ _ _ h hgood => h.step hgood
  have hsim := Runs.simulation hstep hown hinit
  have hp := (hsim p).1
  rwa [Tracked.foldl_server, foldl_aloneStep] at hp

/-- In such a run the messages decoded on each connection are those decoded
with the other connections absent. -/
theorem delivered_eq_alone {s : Server Peer} {schedule : List Peer}
    (hown : Runs.Guarded Tracked.step Tracked.ReadsOwn s.track schedule) (p : Peer) :
    ((schedule.foldl Server.step s).threads p).delivered =
      ((s.threads p).run (schedule.count p) s.lastHeaders).2.delivered := by
  rw [threads_eq_alone hown p]

/-- A server whose connections have just finished their handshakes. -/
def Server.start (inputs : Peer → List UInt8) : Server Peer :=
  ⟨.zero, fun p => Thread.start .accepted (inputs p)⟩

/-- A one-byte video message on the given chunk stream, followed by a second
one whose header is a bare type 3. -/
def videoThenType3 (csId : UInt8) : List UInt8 :=
  [csId, 0, 0, 0, 0, 0, 1, 9, 1, 0, 0, 0, 0x17, 0xC0 ||| csId, 0x27]

/-- Two publishers on different chunk streams do not meet in the table. -/
theorem delivered_eq_alone_apart :
    (([0, 1, 0, 1].foldl Server.step
        (Server.start fun p : Fin 2 => videoThenType3 (if p = 0 then 4 else 5))).threads
          0).delivered
      = ((Thread.start .accepted (videoThenType3 4)).run 2 .zero).2.delivered := by
  have hown : Runs.Guarded Tracked.step Tracked.ReadsOwn
      (Server.start fun p : Fin 2 => videoThenType3 (if p = 0 then 4 else 5)).track
      [0, 1, 0, 1] := by
    refine ⟨?_, ?_, ?_, ?_, trivial⟩
    · intro fields hnext hfmt
      have hfields : some fields = some ⟨.type0, 4, 0, 1, 9, 1⟩ := hnext.symm.trans (by decide)
      obtain rfl := Option.some.inj hfields
      exact absurd rfl hfmt
    · intro fields hnext hfmt
      have hfields : some fields = some ⟨.type0, 5, 0, 1, 9, 1⟩ := hnext.symm.trans (by decide)
      obtain rfl := Option.some.inj hfields
      exact absurd rfl hfmt
    · intro fields hnext _ _
      have hfields : some fields = some ⟨.type3, 4, 0, 0, 0, 0⟩ := hnext.symm.trans (by decide)
      obtain rfl := Option.some.inj hfields
      exact .inr (by decide +revert)
    · intro fields hnext _ _
      have hfields : some fields = some ⟨.type3, 5, 0, 0, 0, 0⟩ := hnext.symm.trans (by decide)
      obtain rfl := Option.some.inj hfields
      exact .inr (by decide +revert)
  exact delivered_eq_alone hown 0

/-- An audio message of two bytes on chunk stream 4. -/
def audioOnFour : List UInt8 := [4, 0, 0, 0, 0, 0, 2, 8, 1, 0, 0, 0, 0xAF, 0x01]

/-- On one chunk stream id the type-3 chunk of a publisher takes the length and
type of the other publisher's last message, and its own message is lost. -/
theorem connections_interfere :
    ¬ ∀ (inputs : Fin 2 → List UInt8) (schedule : List (Fin 2)) (p : Fin 2),
      ((schedule.foldl Server.step (Server.start inputs)).threads p).delivered =
        ((Thread.start .accepted (inputs p)).run (schedule.count p) .zero).2.delivered := by
  intro h
  have hsame := h (fun p => if p = 0 then videoThenType3 4 else audioOnFour) [0, 1, 0] 0
  revert hsame
  decide

end Rtmp
