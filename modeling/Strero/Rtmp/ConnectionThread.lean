import Mathlib.Logic.Function.Iterate
import Strero.Rtmp.Command

/-!
# The connection loop

After the handshake `rtmp_connection_handle` reads chunks until the peer is
gone or a command stops it. One turn of the loop is a step on the thread's
state and on the table of last headers. Every turn that does not leave the
loop consumes input, so the loop ends by itself.
-/

namespace Rtmp

open Wire

/-- The loop of `rtmp_connection_handle`: its local variables, the bytes the
peer still sends, the messages already given to `rtmp_message_parse`, the
replies already given to `rtmp_chunk_write`, and whether the loop was left. -/
structure Thread where
  conn : Connection
  input : List UInt8
  partialMsg : Message
  hasPartialMessage : Bool
  delivered : List Message
  replies : List Message
  finished : Bool
deriving DecidableEq, Repr

/-- The loop as it is entered after the handshake. -/
def Thread.start (conn : Connection) (input : List UInt8) : Thread where
  conn
  input
  partialMsg := .zero
  hasPartialMessage := false
  delivered := []
  replies := []
  finished := false

/-- One turn of the loop. The server itself keeps running. -/
def Thread.step (lastHeaders : LastHeaders) (t : Thread) : LastHeaders × Thread :=
  if t.finished then (lastHeaders, t)
  else if t.conn.threadRunning = false then (lastHeaders, { t with finished := true })
  else
    let msg := if t.hasPartialMessage then t.partialMsg else Message.zero
    match rtmpChunkRead lastHeaders t.conn msg t.input with
    | (.closed, lastHeaders, input) => (lastHeaders, { t with input, finished := true })
    | (.failed, lastHeaders, input) => (lastHeaders, { t with input, finished := true })
    | (.incomplete msg, lastHeaders, input) =>
      (lastHeaders, { t with input, partialMsg := msg, hasPartialMessage := true })
    | (.complete msg, lastHeaders, input) =>
      let (conn, reply) := rtmpMessageParse t.conn msg
      (lastHeaders,
        { t with
          conn, input, hasPartialMessage := false
          delivered := t.delivered ++ [msg]
          replies := t.replies ++ reply.toList })

/-- `n` turns of the loop on its own. -/
def Thread.run (n : ℕ) (lastHeaders : LastHeaders) (t : Thread) : LastHeaders × Thread :=
  (fun p : LastHeaders × Thread => p.2.step p.1)^[n] (lastHeaders, t)

@[simp] theorem Thread.run_zero (lastHeaders : LastHeaders) (t : Thread) :
    t.run 0 lastHeaders = (lastHeaders, t) := rfl

theorem Thread.run_succ (n : ℕ) (lastHeaders : LastHeaders) (t : Thread) :
    t.run (n + 1) lastHeaders = (t.step lastHeaders).2.run n (t.step lastHeaders).1 := rfl

/-! ### What one read can do -/

/-- The message after one successful read: nothing of an earlier chunk is in it. -/
def readMessage (header : ChunkHeader) (data : List UInt8) (size : UInt32) : Message :=
  ⟨header, some data, size⟩

/-- One read, when a header and all the data it asks for are there. -/
theorem rtmpChunkRead_of_header {lastHeaders : LastHeaders} {conn : Connection}
    {input data rest : List UInt8} {fields header : ChunkHeader} {size : UInt32}
    (hread : rtmpReadChunkHeader .zero input = .ok fields (data ++ rest))
    (hheader : header = inheritHeader lastHeaders fields)
    (hsize : size = chunkDataSize conn header 0) (hlength : data.length = size.toNat)
    (msg : Message) :
    rtmpChunkRead lastHeaders conn msg input =
      (if size ≥ header.messageLength then .complete (readMessage header data size)
        else .incomplete (readMessage header data size),
       storeHeader lastHeaders header, rest) := by
  have hzero : Message.zero.bytesRead = 0 := rfl
  have hempty : Message.zero.payload.getD [] = [] := rfl
  have hread' : rtmpReadChunkHeader Message.zero.header input = .ok fields (data ++ rest) := hread
  unfold rtmpChunkRead
  dsimp only
  rw [hread']
  dsimp only
  rw [← hheader, hzero, ← hsize, takeExact_append hlength]
  simp only [hempty, UInt32.zero_add, List.nil_append, readMessage]
  split_ifs <;> rfl

/-- Either the input ends in the chunk, or a header and its data are read and
the message holds just those. -/
theorem rtmpChunkRead_cases (lastHeaders : LastHeaders) (conn : Connection) (msg : Message)
    (input : List UInt8) :
    (∃ table, rtmpChunkRead lastHeaders conn msg input = (.closed, table, []) ∨
      rtmpChunkRead lastHeaders conn msg input = (.failed, table, [])) ∨
    ∃ fields header size data rest,
      rtmpReadChunkHeader .zero input = .ok fields (data ++ rest) ∧
      header = inheritHeader lastHeaders fields ∧
      size = chunkDataSize conn header 0 ∧ data.length = size.toNat := by
  unfold rtmpChunkRead
  dsimp only
  cases hread : rtmpReadChunkHeader Message.zero.header input with
  | closed => exact .inl ⟨lastHeaders, .inl rfl⟩
  | failed => exact .inl ⟨lastHeaders, .inr rfl⟩
  | ok fields left =>
    dsimp only
    cases htake : takeExact (chunkDataSize conn (inheritHeader lastHeaders fields)
        Message.zero.bytesRead).toNat left with
    | none => exact .inl ⟨storeHeader lastHeaders (inheritHeader lastHeaders fields), .inr rfl⟩
    | some p =>
      obtain ⟨data, rest⟩ := p
      obtain ⟨hlength, rfl⟩ := takeExact_eq_some.mp htake
      exact .inr ⟨fields, _, _, data, rest, hread, rfl, rfl, hlength⟩

/-- A chunk never brings more data than the connection's chunk size. -/
theorem chunkDataSize_le (conn : Connection) (header : ChunkHeader) (bytesRead : UInt32) :
    (chunkDataSize conn header bytesRead).toNat ≤ conn.chunkSizeIn.toNat := by
  unfold chunkDataSize
  dsimp only
  split_ifs with h
  · rfl
  · have := mt UInt32.lt_iff_toNat_lt.mpr h
    omega

/-! ### What one turn can do -/

theorem Thread.step_of_finished {t : Thread} (h : t.finished = true) (lastHeaders : LastHeaders) :
    t.step lastHeaders = (lastHeaders, t) := by
  simp [Thread.step, h]

/-- The thread after a turn that read one chunk. -/
def Thread.afterRead (t : Thread) (msg : Message) (rest : List UInt8) : Thread :=
  if msg.bytesRead ≥ msg.header.messageLength then
    { t with
      conn := (rtmpMessageParse t.conn msg).1
      input := rest
      hasPartialMessage := false
      delivered := t.delivered ++ [msg]
      replies := t.replies ++ (rtmpMessageParse t.conn msg).2.toList }
  else { t with input := rest, partialMsg := msg, hasPartialMessage := true }

@[simp] theorem Thread.afterRead_input (t : Thread) (msg : Message) (rest : List UInt8) :
    (t.afterRead msg rest).input = rest := by
  unfold Thread.afterRead
  split_ifs <;> rfl

@[simp] theorem Thread.afterRead_finished (t : Thread) (msg : Message) (rest : List UInt8) :
    (t.afterRead msg rest).finished = t.finished := by
  unfold Thread.afterRead
  split_ifs <;> rfl

/-- One turn, when a header and all the data it asks for are there. -/
theorem Thread.step_of_header {t : Thread} {lastHeaders : LastHeaders} {data rest : List UInt8}
    {fields header : ChunkHeader} {size : UInt32} (hfinished : t.finished = false)
    (hrunning : t.conn.threadRunning = true)
    (hread : rtmpReadChunkHeader .zero t.input = .ok fields (data ++ rest))
    (hheader : header = inheritHeader lastHeaders fields)
    (hsize : size = chunkDataSize t.conn header 0) (hlength : data.length = size.toNat) :
    t.step lastHeaders =
      (storeHeader lastHeaders header, t.afterRead (readMessage header data size) rest) := by
  unfold Thread.step
  dsimp only
  rw [if_neg (by simp [hfinished]), if_neg (by simp [hrunning]),
    rtmpChunkRead_of_header hread hheader hsize hlength]
  by_cases hdone : size ≥ header.messageLength
  · rw [if_pos hdone]
    exact congrArg (Prod.mk _) (if_pos hdone).symm
  · rw [if_neg hdone]
    exact congrArg (Prod.mk _) (if_neg hdone).symm

/-- A turn leaves the loop or reads one chunk. -/
theorem Thread.step_cases {t : Thread} (h : t.finished = false) (lastHeaders : LastHeaders) :
    ((t.step lastHeaders).2.finished = true ∧ (t.step lastHeaders).2.conn = t.conn ∧
      (t.step lastHeaders).2.delivered = t.delivered) ∨
    t.conn.threadRunning = true ∧
    ∃ fields header size data rest,
      rtmpReadChunkHeader .zero t.input = .ok fields (data ++ rest) ∧
      header = inheritHeader lastHeaders fields ∧
      size = chunkDataSize t.conn header 0 ∧ data.length = size.toNat ∧
      t.step lastHeaders =
        (storeHeader lastHeaders header, t.afterRead (readMessage header data size) rest) := by
  cases hrunning : t.conn.threadRunning with
  | false => exact .inl (by simp [Thread.step, h, hrunning])
  | true =>
    have hcases := rtmpChunkRead_cases lastHeaders t.conn
      (if t.hasPartialMessage then t.partialMsg else Message.zero) t.input
    rcases hcases with ⟨table, hclosed | hfailed⟩ |
        ⟨fields, header, size, data, rest, hread, hheader, hsize, hlength⟩
    · exact .inl (by simp [Thread.step, h, hrunning, hclosed])
    · exact .inl (by simp [Thread.step, h, hrunning, hfailed])
    · exact .inr ⟨rfl, fields, header, size, data, rest, hread, hheader, hsize, hlength,
        t.step_of_header h hrunning hread hheader hsize hlength⟩

/-- A turn that stays in the loop consumes input. -/
theorem Thread.step_progress {t : Thread} (h : t.finished = false) (lastHeaders : LastHeaders) :
    (t.step lastHeaders).2.finished = true ∨
      (t.step lastHeaders).2.input.length < t.input.length := by
  rcases t.step_cases h lastHeaders with ⟨hfinished, -⟩ |
      ⟨-, fields, header, size, data, rest, hread, -, -, -, hstep⟩
  · exact .inl hfinished
  · have hless := rtmpReadChunkHeader_length hread
    rw [List.length_append] at hless
    rw [hstep, Thread.afterRead_input]
    right
    omega

/-! ### The loop ends -/

theorem Thread.run_of_finished {t : Thread} (h : t.finished = true) (n : ℕ)
    (lastHeaders : LastHeaders) : t.run n lastHeaders = (lastHeaders, t) := by
  induction n with
  | zero => rfl
  | succ n ih => rw [Thread.run_succ, t.step_of_finished h lastHeaders, ih]

/-- After one turn more than there are bytes of input the loop was left, so the
number of turns beyond that does not matter. -/
theorem Thread.run_finished {n : ℕ} {t : Thread} (hn : t.input.length < n)
    (lastHeaders : LastHeaders) : (t.run n lastHeaders).2.finished = true := by
  induction n generalizing t lastHeaders with
  | zero => omega
  | succ n ih =>
    cases h : t.finished with
    | true => rw [t.run_of_finished h]; exact h
    | false =>
      rw [Thread.run_succ]
      rcases t.step_progress h lastHeaders with hfinished | hless
      · rw [Thread.run_of_finished hfinished]
        exact hfinished
      · exact ih (by omega) _

/-- `rtmp_connection_handle` after the handshake, on all that the peer sends. -/
def rtmpConnectionHandle (lastHeaders : LastHeaders) (conn : Connection) (input : List UInt8) :
    Thread :=
  ((Thread.start conn input).run (input.length + 1) lastHeaders).2

/-- The loop terminates on every input. -/
theorem rtmpConnectionHandle_finished (lastHeaders : LastHeaders) (conn : Connection)
    (input : List UInt8) : (rtmpConnectionHandle lastHeaders conn input).finished = true :=
  Thread.run_finished (t := Thread.start conn input) (Nat.lt_succ_self _) lastHeaders

end Rtmp
