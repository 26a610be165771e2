import Strero.Lib.Allocation
import Strero.Lib.Runs
import Strero.Rtmp.ConnectionThread

/-!
# The buffers for payloads

`rtmp_chunk_read` allocates a buffer for the payload of a message, and the loop of
`rtmp_connection_handle` frees it, at once or when a message that is still incomplete is complete.
Here the loop is followed with these buffers: which there are, and who holds one.
-/

namespace Rtmp

open Wire Allocation

/-! ### The loop with its buffers -/

/-- What the loop meets in a turn: the table of last headers, which other connections change as
well, whether the server is running, and whether `malloc` returns a buffer. -/
structure Turn where
  lastHeaders : LastHeaders
  serverRunning : Bool
  mallocSucceeds : Bool

/-- `rtmp_message_t` with the buffer that its payload points to, or `NULL`. -/
structure BufferedMessage where
  msg : Message
  buffer : Option ℕ
deriving DecidableEq

/-- The message that `memset` leaves. -/
def BufferedMessage.zero : BufferedMessage := ⟨.zero, none⟩

/-- The return values of `rtmp_chunk_read`. -/
inductive ReadCode
  | closed | failed | complete | incomplete
deriving DecidableEq

/-- What `rtmp_chunk_read` returns and leaves behind: the message of the caller, the input that is
left, and the buffers. -/
structure BufferedRead where
  code : ReadCode
  msg : BufferedMessage
  input : List UInt8
  ledger : Ledger
deriving DecidableEq

/-- `rtmp_chunk_read`. The message of the caller is cleared before anything is read. -/
def rtmpChunkReadBuffered (turn : Turn) (conn : Connection) (_msg : BufferedMessage)
    (input : List UInt8) (ledger : Ledger) : BufferedRead :=
  let msg := BufferedMessage.zero
  match rtmpReadChunkHeader msg.msg.header input with
  | .closed => ⟨.closed, msg, [], ledger⟩
  | .failed => ⟨.failed, msg, [], ledger⟩
  | .ok header rest =>
    let header := inheritHeader turn.lastHeaders header
    let size := chunkDataSize conn header msg.msg.bytesRead
    if msg.buffer = none ∧ turn.mallocSucceeds = false then ⟨.failed, msg, rest, ledger⟩
    else
      let (buffer, ledger) :=
        match msg.buffer with
        | some buffer => (buffer, ledger)
        | none => (ledger.allocated, ledger.alloc)
      match takeExact size.toNat rest with
      | none => ⟨.failed, msg, [], ledger.free (some buffer)⟩
      | some (data, rest) =>
        let read : Message :=
          ⟨header, some (msg.msg.payload.getD [] ++ data), msg.msg.bytesRead + size⟩
        if read.bytesRead ≥ header.messageLength then ⟨.complete, ⟨read, some buffer⟩, rest, ledger⟩
        else ⟨.incomplete, ⟨read, some buffer⟩, rest, ledger⟩

/-- The loop of `rtmp_connection_handle` with the buffers of its messages. -/
structure BufferedThread where
  thread : Thread
  partialBuffer : Option ℕ
  ledger : Ledger
deriving DecidableEq

/-- The loop as it is entered after the handshake. -/
def BufferedThread.start (input : List UInt8) : BufferedThread where
  thread := .start { Connection.accepted with state := .handshakeDone } input
  partialBuffer := none
  ledger := .empty

/-- What follows the loop: a message that is still incomplete is freed. -/
def BufferedThread.leave (s : BufferedThread) : BufferedThread :=
  { s with
    thread := { s.thread with finished := true }
    ledger := if s.thread.hasPartialMessage then s.ledger.free s.partialBuffer else s.ledger }

/-- The message that is given to `rtmp_chunk_read`. -/
def BufferedThread.current (s : BufferedThread) : BufferedMessage :=
  if s.thread.hasPartialMessage then ⟨s.thread.partialMsg, s.partialBuffer⟩ else .zero

/-- The condition of the loop. -/
def BufferedThread.continues (s : BufferedThread) (turn : Turn) : Bool :=
  !s.thread.finished && s.thread.conn.threadRunning && turn.serverRunning

/-- One turn of the loop. -/
def BufferedThread.step (s : BufferedThread) (turn : Turn) : BufferedThread :=
  if s.thread.finished then s
  else if !s.continues turn then s.leave
  else
    let read := rtmpChunkReadBuffered turn s.thread.conn s.current s.thread.input s.ledger
    match read.code with
    | .closed | .failed =>
      { s with
        thread := { s.thread with input := read.input }
        ledger := read.ledger.free read.msg.buffer }.leave
    | .incomplete =>
      { thread :=
          { s.thread with
            input := read.input, partialMsg := read.msg.msg, hasPartialMessage := true }
        partialBuffer := read.msg.buffer
        ledger := read.ledger }
    | .complete =>
      let (conn, reply) := rtmpMessageParse s.thread.conn read.msg.msg
      { s with
        thread :=
          { s.thread with
            conn, input := read.input, hasPartialMessage := false
            delivered := s.thread.delivered ++ [read.msg.msg]
            replies := s.thread.replies ++ reply.toList }
        ledger := read.ledger.free read.msg.buffer }

/-! ### What one read can do -/

/-- The input begins with a whole chunk: a header, completed from the table, and its data. -/
def BeginsWithChunk (lastHeaders : LastHeaders) (conn : Connection) (input : List UInt8)
    (header : ChunkHeader) (data rest : List UInt8) : Prop :=
  ∃ fields, rtmpReadChunkHeader .zero input = .ok fields (data ++ rest) ∧
    header = inheritHeader lastHeaders fields ∧
    data.length = (chunkDataSize conn header 0).toNat

section Read

variable {turn : Turn} {conn : Connection} {input data rest data' rest' : List UInt8}
  {header header' : ChunkHeader} {lastHeaders : LastHeaders}

/-- There is only one such chunk. -/
theorem BeginsWithChunk.unique (h : BeginsWithChunk lastHeaders conn input header data rest)
    (h' : BeginsWithChunk lastHeaders conn input header' data' rest') :
    header = header' ∧ data = data' := by
  obtain ⟨fields, hread, rfl, hlength⟩ := h
  obtain ⟨fields', hread', rfl, hlength'⟩ := h'
  rw [hread] at hread'
  injection hread' with hfields hinput
  subst hfields
  exact ⟨rfl, (List.append_inj hinput (hlength.trans hlength'.symm)).1⟩

/-- A whole chunk is read into a new buffer. -/
theorem rtmpChunkReadBuffered_of_chunk (hmalloc : turn.mallocSucceeds = true)
    (h : BeginsWithChunk turn.lastHeaders conn input header data rest) (msg : BufferedMessage)
    (ledger : Ledger) :
    rtmpChunkReadBuffered turn conn msg input ledger =
      ⟨if chunkDataSize conn header 0 ≥ header.messageLength then .complete else .incomplete,
        ⟨readMessage header data (chunkDataSize conn header 0), some ledger.allocated⟩, rest,
        ledger.alloc⟩ := by
  obtain ⟨fields, hread, rfl, hlength⟩ := h
  have hread' : rtmpReadChunkHeader BufferedMessage.zero.msg.header input =
    .ok fields (data ++ rest) := hread
  have hsize : BufferedMessage.zero.msg.bytesRead = 0 := rfl
  unfold rtmpChunkReadBuffered
  dsimp only
  rw [hread']
  dsimp only
  rw [if_neg (by simp [hmalloc]), hsize, takeExact_append hlength]
  simp only [UInt32.zero_add]
  split_ifs <;> rfl

/-- Otherwise the read fails, and a buffer that was allocated for it is freed. -/
theorem rtmpChunkReadBuffered_of_not_chunk
    (h : turn.mallocSucceeds = true →
      ¬∃ header data rest, BeginsWithChunk turn.lastHeaders conn input header data rest)
    (msg : BufferedMessage) (ledger : Ledger) :
    ∃ read, rtmpChunkReadBuffered turn conn msg input ledger = read ∧
      (read.code = .closed ∨ read.code = .failed) ∧ read.msg = .zero ∧
      ∀ held, read.ledger.Balanced held ↔ ledger.Balanced held := by
  refine ⟨_, rfl, ?_⟩
  unfold rtmpChunkReadBuffered
  dsimp only
  cases hread : rtmpReadChunkHeader BufferedMessage.zero.msg.header input with
  | closed => exact ⟨.inl rfl, rfl, fun _ => Iff.rfl⟩
  | failed => exact ⟨.inr rfl, rfl, fun _ => Iff.rfl⟩
  | ok fields left =>
    dsimp only
    cases hmalloc : turn.mallocSucceeds with
    | false =>
      rw [if_pos ⟨rfl, rfl⟩]
      exact ⟨.inr rfl, rfl, fun _ => Iff.rfl⟩
    | true =>
      rw [if_neg (by simp)]
      cases htake : takeExact (chunkDataSize conn (inheritHeader turn.lastHeaders fields)
          BufferedMessage.zero.msg.bytesRead).toNat left with
      | none => exact ⟨.inr rfl, rfl, fun _ => balanced_alloc_free_iff⟩
      | some p =>
        obtain ⟨data, rest⟩ := p
        obtain ⟨hlength, rfl⟩ := takeExact_eq_some.mp htake
        exact absurd ⟨_, data, rest, fields, hread, rfl, hlength⟩ (h hmalloc)

/-- The return value with the message, as the reader without buffers has it. -/
def BufferedRead.result (read : BufferedRead) : ChunkResult :=
  match read.code with
  | .closed => .closed
  | .failed => .failed
  | .complete => .complete read.msg.msg
  | .incomplete => .incomplete read.msg.msg

/-- With memory for the buffer the two readers agree. -/
theorem rtmpChunkReadBuffered_result (hmalloc : turn.mallocSucceeds = true) (conn : Connection)
    (msg : BufferedMessage) (msg' : Message) (input : List UInt8) (ledger : Ledger) :
    ∃ table, rtmpChunkRead turn.lastHeaders conn msg' input =
      ((rtmpChunkReadBuffered turn conn msg input ledger).result, table,
        (rtmpChunkReadBuffered turn conn msg input ledger).input) := by
  unfold rtmpChunkReadBuffered rtmpChunkRead
  have hzero : BufferedMessage.zero.msg = Message.zero := rfl
  dsimp only
  rw [hzero]
  cases rtmpReadChunkHeader Message.zero.header input with
  | closed => exact ⟨_, rfl⟩
  | failed => exact ⟨_, rfl⟩
  | ok fields left =>
    dsimp only
    rw [if_neg (by simp [hmalloc])]
    cases takeExact (chunkDataSize conn (inheritHeader turn.lastHeaders fields)
        Message.zero.bytesRead).toNat left with
    | none => exact ⟨_, rfl⟩
    | some p =>
      dsimp only
      split_ifs <;> exact ⟨_, rfl⟩

end Read

/-! ### What one turn can do -/

section Turn

variable {s : BufferedThread} {turn : Turn} {header : ChunkHeader} {data rest : List UInt8}

/-- The buffers that the loop still has to free: that of a message that is incomplete. -/
def BufferedThread.held (s : BufferedThread) : List ℕ :=
  if s.thread.finished = false ∧ s.thread.hasPartialMessage = true then s.partialBuffer.toList
  else []

/-- In the loop that is its buffer, if it has one. -/
theorem BufferedThread.held_of_running (hfinished : s.thread.finished = false) :
    s.held = if s.thread.hasPartialMessage = true then s.partialBuffer.toList else [] := by
  simp [BufferedThread.held, hfinished]

/-- A turn reads this chunk. -/
def BufferedThread.Reads (s : BufferedThread) (turn : Turn) (header : ChunkHeader)
    (data rest : List UInt8) : Prop :=
  s.continues turn = true ∧ turn.mallocSucceeds = true ∧
    BeginsWithChunk turn.lastHeaders s.thread.conn s.thread.input header data rest

/-- The thread after a turn that has read a chunk. The buffer of the chunk is kept if the message
is incomplete, and whatever was kept before is not looked at. -/
def BufferedThread.afterRead (s : BufferedThread) (msg : Message) (rest : List UInt8) :
    BufferedThread :=
  if msg.bytesRead ≥ msg.header.messageLength then
    { s with
      thread := s.thread.afterRead msg rest
      ledger := s.ledger.alloc.free (some s.ledger.allocated) }
  else
    { thread := s.thread.afterRead msg rest
      partialBuffer := some s.ledger.allocated
      ledger := s.ledger.alloc }

/-- A chunk is read in the loop only. -/
theorem BufferedThread.Reads.running (h : s.Reads turn header data rest) :
    s.thread.finished = false := by
  by_contra hdone
  have hcontinues := h.1
  simp [BufferedThread.continues, hdone] at hcontinues

/-- A turn that reads a chunk. -/
theorem BufferedThread.step_of_reads (h : s.Reads turn header data rest) :
    s.step turn =
      s.afterRead (readMessage header data (chunkDataSize s.thread.conn header 0)) rest := by
  have hfinished := h.running
  obtain ⟨hcontinues, hmalloc, hchunk⟩ := h
  have hread := rtmpChunkReadBuffered_of_chunk hmalloc hchunk s.current s.ledger
  unfold BufferedThread.step
  dsimp only
  rw [if_neg (by simp [hfinished]), if_neg (by simp [hcontinues]), hread]
  by_cases hdone : chunkDataSize s.thread.conn header 0 ≥ header.messageLength
  · rw [if_pos hdone]
    refine Eq.trans ?_ (if_pos hdone).symm
    exact congrArg (BufferedThread.mk · s.partialBuffer _) (if_pos hdone).symm
  · rw [if_neg hdone]
    refine Eq.trans ?_ (if_neg hdone).symm
    exact congrArg (BufferedThread.mk · _ _) (if_neg hdone).symm

/-- A turn that reads none leaves the loop, with the buffer of an incomplete message freed. -/
theorem BufferedThread.step_of_not_reads (hfinished : s.thread.finished = false)
    (h : ¬∃ header data rest, s.Reads turn header data rest) :
    ∃ input ledger, s.step turn =
        { s with thread := { s.thread with input := input, finished := true }, ledger := ledger } ∧
      (ledger.Balanced [] ↔ s.ledger.Balanced s.held) := by
  have hheld := held_of_running hfinished
  have hleave (ledger : Ledger) : (if s.thread.hasPartialMessage then ledger.free s.partialBuffer
      else ledger).Balanced [] ↔ ledger.Balanced s.held := by
    rw [hheld]
    split_ifs
    · cases s.partialBuffer with
      | none => exact Iff.rfl
      | some buffer => exact balanced_free_iff
    · exact Iff.rfl
  unfold BufferedThread.step
  rw [if_neg (by simp [hfinished])]
  cases hcontinues : s.continues turn with
  | false => exact ⟨_, _, rfl, hleave s.ledger⟩
  | true =>
    have hno : turn.mallocSucceeds = true → ¬∃ header data rest,
        BeginsWithChunk turn.lastHeaders s.thread.conn s.thread.input header data rest := by
      rintro hmalloc ⟨header, data, rest, hchunk⟩
      exact h ⟨header, data, rest, hcontinues, hmalloc, hchunk⟩
    obtain ⟨read, hread, hcode, hmsg, hledger⟩ :=
      rtmpChunkReadBuffered_of_not_chunk hno s.current s.ledger
    dsimp only
    rw [if_neg (by simp), hread]
    rcases hcode with hcode | hcode
    · rw [hcode]
      refine ⟨_, _, rfl, ?_⟩
      rw [← hledger, ← hleave, hmsg]
      rfl
    · rw [hcode]
      refine ⟨_, _, rfl, ?_⟩
      rw [← hledger, ← hleave, hmsg]
      rfl

/-- Without its buffers a turn is one of the thread, where the server runs and there is memory. -/
theorem BufferedThread.step_thread (s : BufferedThread) (hserver : turn.serverRunning = true)
    (hmalloc : turn.mallocSucceeds = true) :
    (s.step turn).thread = (s.thread.step turn.lastHeaders).2 := by
  have hread := rtmpChunkReadBuffered_result hmalloc s.thread.conn s.current
    (if s.thread.hasPartialMessage then s.thread.partialMsg else Message.zero) s.thread.input
    s.ledger
  unfold BufferedThread.step Thread.step
  by_cases hfinished : s.thread.finished = true
  · rw [if_pos hfinished, if_pos hfinished]
  · rw [if_neg hfinished, if_neg hfinished]
    by_cases hrunning : s.thread.conn.threadRunning = false
    · rw [if_pos hrunning, if_pos (by simp [BufferedThread.continues, hrunning])]
      rfl
    · have hcontinues : s.continues turn = true := by
        simpa [BufferedThread.continues, hserver] using And.intro hfinished hrunning
      rw [if_neg hrunning, if_neg (by simp [hcontinues])]
      dsimp only
      generalize rtmpChunkReadBuffered turn s.thread.conn s.current s.thread.input s.ledger = read
        at hread ⊢
      obtain ⟨table, hsame⟩ := hread
      rw [hsame]
      obtain ⟨code, msg, input, ledger⟩ := read
      cases code <;> rfl

end Turn

/-! ### What the loop keeps -/

/-- A chunk size from 1 to 2^31 - 1. -/
def ValidChunkSize (size : UInt32) : Prop := 1 ≤ size.toNat ∧ size.toNat < 0x80000000

/-- Chunks have such a size at first. -/
theorem validChunkSize_default : ValidChunkSize defaultChunkSize := ⟨by decide, by decide⟩

/-- At the head of the loop the chunk size is valid, and of the buffers that were allocated each
was freed once, except that of a message that is incomplete. -/
structure BufferedThread.Sound (s : BufferedThread) : Prop where
  chunkSize : ValidChunkSize s.thread.conn.chunkSizeIn
  buffers : s.ledger.Balanced s.held

/-- A read that asks for another chunk has added something to the message that it was given. -/
def BufferedThread.Progresses (s : BufferedThread) (turn : Turn) : Prop :=
  let read := rtmpChunkReadBuffered turn s.thread.conn s.current s.thread.input s.ledger
  s.continues turn = true → read.code = .incomplete → ∃ added, added ≠ [] ∧
    read.msg.msg.payload.getD [] = s.current.msg.payload.getD [] ++ added

/-- If the chunk is a whole Set Chunk Size message, the size in its first four bytes is valid. -/
def SetsValidSize (header : ChunkHeader) (data : List UInt8) : Prop :=
  header.messageTypeId = 1 → data.length = header.messageLength.toNat →
    ∀ b₀ b₁ b₂ b₃ tail, data = b₀ :: b₁ :: b₂ :: b₃ :: tail → ValidChunkSize (getBe32 b₀ b₁ b₂ b₃)

/-- The next chunk of the peer, if the turn reads one, comes when no message is incomplete, and
sets no other chunk size than a valid one. -/
def BufferedThread.Accepts (s : BufferedThread) (turn : Turn) : Prop :=
  ∀ header data rest, s.Reads turn header data rest →
    s.thread.hasPartialMessage = false ∧ SetsValidSize header data

section Invariant

variable {s : BufferedThread} {turn : Turn} {header : ChunkHeader} {data rest : List UInt8}
  {conn : Connection}

/-- A whole message leaves a valid chunk size exactly if it does not set another one. -/
theorem validChunkSize_parse_iff (hconn : ValidChunkSize conn.chunkSizeIn) (size : UInt32)
    (hlength : data.length = header.messageLength.toNat) :
    ValidChunkSize (rtmpMessageParse conn (readMessage header data size)).1.chunkSizeIn ↔
      SetsValidSize header data := by
  by_cases htype : header.messageTypeId = 1
  · have hparse : (rtmpMessageParse conn (readMessage header data size)).1.chunkSizeIn =
        (controlWord (readMessage header data size)).getD conn.chunkSizeIn := by
      have hnumber : (readMessage header data size).header.messageTypeId.toNat = 1 :=
        congrArg UInt8.toNat htype
      unfold rtmpMessageParse
      rw [hnumber]
      cases controlWord (readMessage header data size) <;> rfl
    rw [hparse]
    by_cases hfour : header.messageLength ≥ 4
    · have hroom : 4 ≤ data.length := by
        rw [hlength]
        exact UInt32.le_iff_toNat_le.mp hfour
      match data, hroom with
      | b₀ :: b₁ :: b₂ :: b₃ :: tail, _ =>
        have hword : controlWord (readMessage header (b₀ :: b₁ :: b₂ :: b₃ :: tail) size) =
            some (getBe32 b₀ b₁ b₂ b₃) := if_pos hfour
        rw [hword, Option.getD_some]
        refine ⟨fun hvalid _ _ c₀ c₁ c₂ c₃ tail' hdata => ?_,
          fun h => h htype hlength _ _ _ _ _ rfl⟩
        simp only [List.cons.injEq] at hdata
        obtain ⟨rfl, rfl, rfl, rfl, -⟩ := hdata
        exact hvalid
    -- A shorter message sets nothing.
    · have hword : controlWord (readMessage header data size) = none := if_neg hfour
      rw [hword, Option.getD_none]
      refine ⟨fun _ _ _ b₀ b₁ b₂ b₃ tail hdata => absurd ?_ hfour, fun _ => hconn⟩
      rw [ge_iff_le, UInt32.le_iff_toNat_le, ← hlength, hdata]
      simp
  · rw [rtmpMessageParse_chunkSizeIn htype]
    exact ⟨fun _ h => absurd h htype, fun _ => hconn⟩

/-- A message that is incomplete has a buffer. -/
def BufferedThread.HoldsPartial (s : BufferedThread) : Prop :=
  s.thread.hasPartialMessage = true → s.partialBuffer.isSome = true

/-- A chunk is not longer than its message, so that a message is complete with all of its
bytes. -/
theorem chunkDataSize_ge_iff :
    chunkDataSize conn header 0 ≥ header.messageLength ↔
      (chunkDataSize conn header 0).toNat = header.messageLength.toNat := by
  have hge : chunkDataSize conn header 0 ≥ header.messageLength ↔
      header.messageLength.toNat ≤ (chunkDataSize conn header 0).toNat := UInt32.le_iff_toNat_le
  have hle : (chunkDataSize conn header 0).toNat ≤ header.messageLength.toNat := by
    unfold chunkDataSize
    rw [UInt32.sub_zero]
    dsimp only
    split_ifs with hlong
    · exact Nat.le_of_lt (UInt32.lt_iff_toNat_lt.mp hlong)
    · exact Nat.le_refl _
  rw [hge]
  omega

/-- A chunk that is shorter than its message has the size that chunks have. -/
theorem chunkDataSize_of_not_ge (h : ¬chunkDataSize conn header 0 ≥ header.messageLength) :
    chunkDataSize conn header 0 = conn.chunkSizeIn := by
  unfold chunkDataSize at h ⊢
  rw [UInt32.sub_zero] at h ⊢
  dsimp only at h ⊢
  split_ifs at h ⊢
  · rfl
  · exact absurd (UInt32.le_refl _) h

/-- In the loop no buffer is held exactly if no message is incomplete. -/
theorem BufferedThread.balanced_nil_iff (hsound : s.Sound) (hkeeps : s.HoldsPartial)
    (hfinished : s.thread.finished = false) :
    s.ledger.Balanced [] ↔ s.thread.hasPartialMessage = false := by
  have hheld := held_of_running hfinished
  have hbuffers := hsound.buffers
  cases hmessage : s.thread.hasPartialMessage with
  | false =>
    rw [hheld, hmessage, if_neg Bool.false_ne_true] at hbuffers
    exact ⟨fun _ => rfl, fun _ => hbuffers⟩
  | true =>
    obtain ⟨buffer, hbuffer⟩ := Option.isSome_iff_exists.mp (hkeeps hmessage)
    rw [hheld, hmessage, if_pos rfl, hbuffer] at hbuffers
    exact ⟨fun hnil => absurd (hbuffers.held_length hnil) (by simp), fun h => by cases h⟩

/-- Soundness with the buffers that are held. -/
theorem BufferedThread.sound_iff {held : List ℕ} (hheld : s.held = held) :
    s.Sound ↔ s.ledger.Balanced held ∧ ValidChunkSize s.thread.conn.chunkSizeIn := by
  subst hheld
  exact ⟨fun h => ⟨h.buffers, h.chunkSize⟩, fun h => ⟨h.2, h.1⟩⟩

/-- A chunk that is read leaves the loop sound exactly if it may come. -/
theorem BufferedThread.sound_afterRead_iff (hsound : s.Sound) (hkeeps : s.HoldsPartial)
    (hreads : s.Reads turn header data rest) :
    (s.afterRead (readMessage header data (chunkDataSize s.thread.conn header 0)) rest).Sound ↔
      s.thread.hasPartialMessage = false ∧ SetsValidSize header data := by
  have hfinished := hreads.running
  obtain ⟨-, -, fields, -, -, hlength⟩ := hreads
  rw [← balanced_nil_iff hsound hkeeps hfinished]
  by_cases hdone : chunkDataSize s.thread.conn header 0 ≥ header.messageLength
  · have hthread : s.thread.afterRead
        (readMessage header data (chunkDataSize s.thread.conn header 0)) rest = _ := if_pos hdone
    have hstep : s.afterRead (readMessage header data (chunkDataSize s.thread.conn header 0)) rest =
        _ := if_pos hdone
    rw [hthread] at hstep
    rw [hstep]
    have hsize := validChunkSize_parse_iff hsound.chunkSize (chunkDataSize s.thread.conn header 0)
      (hlength.trans (chunkDataSize_ge_iff.mp hdone))
    refine (BufferedThread.sound_iff (if_neg (by simp))).trans ?_
    exact and_congr balanced_alloc_free_iff hsize
  · have hthread : s.thread.afterRead
        (readMessage header data (chunkDataSize s.thread.conn header 0)) rest = _ := if_neg hdone
    have hstep : s.afterRead (readMessage header data (chunkDataSize s.thread.conn header 0)) rest =
        _ := if_neg hdone
    rw [hthread] at hstep
    rw [hstep]
    have hvalid : SetsValidSize header data := fun _ hwhole =>
      absurd (chunkDataSize_ge_iff.mpr (hlength.symm.trans hwhole)) hdone
    refine (BufferedThread.sound_iff (if_pos ⟨hfinished, rfl⟩)).trans ?_
    exact and_congr balanced_alloc_iff ⟨fun _ => hvalid, fun _ => hsound.chunkSize⟩

/-- A turn of a loop that was left changes nothing. -/
theorem BufferedThread.step_of_finished (hfinished : s.thread.finished = true) (turn : Turn) :
    s.step turn = s := if_pos hfinished

/-- Whenever a message is incomplete, it has a buffer. -/
theorem BufferedThread.holdsPartial_step (h : s.HoldsPartial) (turn : Turn) :
    (s.step turn).HoldsPartial := by
  cases hfinished : s.thread.finished with
  | true => rwa [step_of_finished hfinished]
  | false =>
    by_cases hchunk : ∃ header data rest, s.Reads turn header data rest
    · obtain ⟨header, data, rest, hreads⟩ := hchunk
      rw [step_of_reads hreads]
      unfold BufferedThread.afterRead Thread.afterRead
      split_ifs
      · intro hmessage
        cases hmessage
      · exact fun _ => rfl
    · obtain ⟨input, ledger, hstep, -⟩ := step_of_not_reads hfinished hchunk
      rw [hstep]
      exact h

/-- A turn keeps the loop sound exactly if the chunk may come that it reads. -/
theorem BufferedThread.sound_step_iff (hsound : s.Sound) (hkeeps : s.HoldsPartial)
    (turn : Turn) : (s.step turn).Sound ↔ s.Accepts turn := by
  cases hfinished : s.thread.finished with
  | true =>
    rw [step_of_finished hfinished]
    refine ⟨fun _ header data rest hreads => ?_, fun _ => hsound⟩
    exact absurd hreads.running (by simp [hfinished])
  | false =>
    by_cases hchunk : ∃ header data rest, s.Reads turn header data rest
    · obtain ⟨header, data, rest, hreads⟩ := hchunk
      rw [step_of_reads hreads, sound_afterRead_iff hsound hkeeps hreads]
      constructor
      · intro h header' data' rest' hreads'
        obtain ⟨rfl, rfl⟩ := hreads.2.2.unique hreads'.2.2
        exact h
      · exact fun h => h header data rest hreads
    · obtain ⟨input, ledger, hstep, hbuffers⟩ := step_of_not_reads hfinished hchunk
      rw [hstep]
      refine ⟨fun _ header data rest hreads => absurd ⟨header, data, rest, hreads⟩ hchunk,
        fun _ => (sound_iff (if_neg (by simp))).mpr ⟨hbuffers.mpr hsound.buffers, ?_⟩⟩
      exact hsound.chunkSize

/-- With a valid chunk size, and no message that is incomplete, a read makes progress. -/
theorem BufferedThread.progresses (hsound : s.Sound) (haccepts : s.Accepts turn) :
    s.Progresses turn := by
  intro hcontinues hcode
  by_cases hchunk : turn.mallocSucceeds = true ∧ ∃ header data rest,
      BeginsWithChunk turn.lastHeaders s.thread.conn s.thread.input header data rest
  · obtain ⟨hmalloc, header, data, rest, hbegins⟩ := hchunk
    obtain ⟨hmessage, -⟩ := haccepts header data rest ⟨hcontinues, hmalloc, hbegins⟩
    have hcurrent : s.current = .zero := by
      rw [BufferedThread.current, hmessage, if_neg Bool.false_ne_true]
    rw [rtmpChunkReadBuffered_of_chunk hmalloc hbegins] at hcode ⊢
    refine ⟨data, ?_, by rw [hcurrent]; rfl⟩
    dsimp only at hcode
    split_ifs at hcode with hdone
    -- The message is longer than a chunk, which is of the chunk size then.
    have hsize := chunkDataSize_of_not_ge hdone
    have hvalid := hsound.chunkSize.1
    obtain ⟨fields, -, -, hlength⟩ := hbegins
    rintro rfl
    rw [hsize, List.length_nil] at hlength
    omega
  · obtain ⟨read, hread, hfailed, -⟩ := rtmpChunkReadBuffered_of_not_chunk
      (fun hmalloc hbegins => hchunk ⟨hmalloc, hbegins⟩) s.current s.ledger
    rw [hread] at hcode
    rcases hfailed with hfailed | hfailed
    · rw [hfailed] at hcode
      cases hcode
    · rw [hfailed] at hcode
      cases hcode

end Invariant

/-! ### Whole runs -/

/-- The loop stays sound in exactly the runs in which each chunk may come. -/
theorem sound_take_iff (input : List UInt8) (turns : List Turn) :
    (∀ n, ((turns.take n).foldl BufferedThread.step (.start input)).Sound) ↔
      Runs.Guarded BufferedThread.step BufferedThread.Accepts (.start input) turns := by
  have hstart : (BufferedThread.start input).Sound := ⟨validChunkSize_default, balanced_empty⟩
  have hkeeps : (BufferedThread.start input).HoldsPartial := fun h => by cases h
  exact Runs.forall_take_iff_guarded BufferedThread.HoldsPartial BufferedThread.Sound
    (fun _ turn h => BufferedThread.holdsPartial_step h turn)
    (fun _ turn h hsound => BufferedThread.sound_step_iff hsound h turn) turns hkeeps hstart

/-- A turn leaves the loop or consumes input. -/
theorem BufferedThread.step_progress {s : BufferedThread} (hfinished : s.thread.finished = false)
    (turn : Turn) : (s.step turn).thread.finished = true ∨
      (s.step turn).thread.input.length < s.thread.input.length := by
  by_cases hchunk : ∃ header data rest, s.Reads turn header data rest
  · obtain ⟨header, data, rest, hreads⟩ := hchunk
    obtain ⟨fields, hread, -, -⟩ := hreads.2.2
    have hless := rtmpReadChunkHeader_length hread
    rw [List.length_append] at hless
    have hinput : (s.afterRead
        (readMessage header data (chunkDataSize s.thread.conn header 0)) rest).thread.input =
          rest := by
      unfold BufferedThread.afterRead
      split_ifs <;> exact Thread.afterRead_input _ _ _
    rw [step_of_reads hreads, hinput]
    right
    omega
  · obtain ⟨input, ledger, hstep, -⟩ := step_of_not_reads hfinished hchunk
    rw [hstep]
    exact .inl rfl

/-- With a turn for every byte that the peer sends, and one more, the loop is left. -/
theorem BufferedThread.foldl_finished {s : BufferedThread} {turns : List Turn}
    (h : s.thread.finished = true ∨ s.thread.input.length < turns.length) :
    (turns.foldl BufferedThread.step s).thread.finished = true := by
  induction turns generalizing s with
  | nil => exact h.resolve_right (Nat.not_lt_zero _)
  | cons turn turns ih =>
    refine ih ?_
    cases hfinished : s.thread.finished with
    | true =>
      rw [step_of_finished hfinished]
      exact .inl hfinished
    | false =>
      have hlength : s.thread.input.length < turns.length + 1 :=
        h.resolve_left (by simp [hfinished])
      rcases step_progress hfinished turn with hdone | hless
      · exact .inl hdone
      · exact .inr (by omega)

/-- Then each buffer has been freed once. -/
theorem freed_once {input : List UInt8} {turns : List Turn} (h : input.length < turns.length)
    (haccepts : Runs.Guarded BufferedThread.step BufferedThread.Accepts (.start input) turns) :
    (turns.foldl BufferedThread.step (.start input)).ledger.freed.Perm
      (List.range (turns.foldl BufferedThread.step (.start input)).ledger.allocated) := by
  have hfinished : (turns.foldl BufferedThread.step (.start input)).thread.finished = true :=
    BufferedThread.foldl_finished (.inr h)
  have hbuffers := ((sound_take_iff input turns).mpr haccepts turns.length).buffers
  rw [List.take_length, BufferedThread.held, if_neg (by simp [hfinished])] at hbuffers
  exact hbuffers

/-- At every head of the loop the chunk size is valid, each buffer was freed once except that of
the message that is incomplete, and the read makes progress, in exactly those runs in which no
message comes in more than one chunk and none sets an invalid chunk size. -/
theorem sound_iff_accepts (input : List UInt8) (turns : List Turn) :
    (∀ n, ((turns.take n).foldl BufferedThread.step (.start input)).Sound ∧
      ∀ turn, turns[n]? = some turn →
        ((turns.take n).foldl BufferedThread.step (.start input)).Progresses turn) ↔
      Runs.Guarded BufferedThread.step BufferedThread.Accepts (.start input) turns := by
  constructor
  · exact fun h => (sound_take_iff input turns).mp fun n => (h n).1
  · intro h n
    have hn := (sound_take_iff input turns).mpr h n
    exact ⟨hn, fun turn hturn => BufferedThread.progresses hn (h.getElem? hturn)⟩

/-- A turn of a server with memory, in which no connection has left headers. -/
def Turn.quiet : Turn := ⟨.zero, true, true⟩

/-- The bytes of a message in chunks of one byte: the chunk size is set to 1, and a message of
three bytes follows. -/
def oneByteChunks : List UInt8 :=
  [0x02, 0, 0, 0, 0, 0, 4, 1, 0, 0, 0, 0, 0, 0, 0, 1] ++
    [0x03, 0, 0, 0, 0, 0, 3, 8, 0, 0, 0, 0, 0xAA, 0xC3, 0xBB, 0xC3, 0xCC]

/-- With the second chunk of the message the buffer of the first one is lost. -/
theorem not_sound_oneByteChunks :
    ¬∀ (input : List UInt8) (turns : List Turn) (n : ℕ),
      ((turns.take n).foldl BufferedThread.step (.start input)).Sound ∧
        ∀ turn, turns[n]? = some turn →
          ((turns.take n).foldl BufferedThread.step (.start input)).Progresses turn := by
  intro h
  have hbuffers := (h oneByteChunks (List.replicate 3 .quiet) 3).1.buffers
  exact absurd hbuffers (by decide +kernel)

end Rtmp
