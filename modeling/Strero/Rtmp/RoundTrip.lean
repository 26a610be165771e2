import Strero.Lib.Interleaving
import Strero.Rtmp.ConnectionThread

/-!
# What the loop recovers of written messages

`rtmp_chunk_write` splits messages into chunks, and the chunks of several
messages may arrive interleaved. The reader clears its message at the start of
every chunk, so a message of more than one chunk is never assembled. The main
theorem says exactly when the messages delivered are the messages written.
-/

namespace Rtmp

open Wire Interleaving

/-! ### The messages and their chunks -/

/-- A message that may be written on a chunk stream with a one-byte id and
that does not change the chunk stream protocol itself. -/
structure OutgoingMessage where
  header : ChunkHeader
  payload : List UInt8
  id_low : 2 ≤ header.chunkStreamId.toNat
  id_high : header.chunkStreamId.toNat ≤ 63
  length_eq : header.messageLength.toNat = payload.length
  payload_ne_nil : payload ≠ []
  payload_lt : payload.length < 2 ^ 24
  ne_setChunkSize : header.messageTypeId ≠ 1
  ne_abort : header.messageTypeId ≠ 2

/-- The message handed to `rtmp_chunk_write`. -/
def OutgoingMessage.message (m : OutgoingMessage) : Message := ⟨m.header, some m.payload, 0⟩

/-- What a receiver should learn from a message: its header fields, without
the format of the chunk that carried them, and its payload. -/
structure Content where
  chunkStreamId : UInt32
  timestamp : UInt32
  messageLength : UInt32
  messageTypeId : UInt8
  messageStreamId : UInt32
  payload : List UInt8
deriving DecidableEq, Repr

/-- The content of a message as it reaches `rtmp_message_parse`. -/
def Message.content (msg : Message) : Content where
  chunkStreamId := msg.header.chunkStreamId
  timestamp := msg.header.timestamp
  messageLength := msg.header.messageLength
  messageTypeId := msg.header.messageTypeId
  messageStreamId := msg.header.messageStreamId
  payload := msg.payload.getD []

/-- A chunk on the wire, with the message it belongs to and whether it is the
last one of that message. -/
structure EmittedChunk where
  msg : OutgoingMessage
  last : Bool
  bytes : List UInt8

/-- The chunks of one message in their order. -/
def tagChunks (m : OutgoingMessage) : List (List UInt8) → List EmittedChunk
  | [] => []
  | bytes :: chunks => ⟨m, chunks.isEmpty, bytes⟩ :: tagChunks m chunks

/-- The chunks that `rtmp_chunk_write` emits for a message. -/
def emittedChunks (writer : Connection) (m : OutgoingMessage) : List EmittedChunk :=
  tagChunks m ((rtmpChunkWrite writer m.message).getD [])

/-- The bytes of a sequence of chunks. -/
def wire (order : List EmittedChunk) : List UInt8 := order.flatMap (·.bytes)

/-- The messages of a sequence of chunks in the order of their last chunks. -/
def completions (order : List EmittedChunk) : List OutgoingMessage :=
  (order.filter (·.last)).map (·.msg)

/-! ### Splitting -/

/-- The loop is over when every byte is written. -/
theorem chunkWriteLoop_done {chunkSize bytesWritten : UInt32} {header : ChunkHeader}
    (h : ¬ bytesWritten < header.messageLength) (payload : List UInt8) (fuel : ℕ) :
    chunkWriteLoop chunkSize header payload fuel bytesWritten = some [] := by
  cases fuel <;> simp [chunkWriteLoop, h]

/-- With chunks of at least one byte the writer's loop ends, and it emits
something while bytes are left. -/
theorem chunkWriteLoop_total {chunkSize : UInt32} (hsize : 1 ≤ chunkSize.toNat)
    (header : ChunkHeader) (payload : List UInt8) {fuel : ℕ} (bytesWritten : UInt32)
    (hfuel : header.messageLength.toNat - bytesWritten.toNat ≤ fuel) :
    ∃ chunks, chunkWriteLoop chunkSize header payload fuel bytesWritten = some chunks ∧
      (bytesWritten < header.messageLength → chunks ≠ []) := by
  induction fuel generalizing bytesWritten with
  | zero =>
    have hdone : ¬ bytesWritten < header.messageLength := by
      rw [UInt32.lt_iff_toNat_lt]
      omega
    exact ⟨[], chunkWriteLoop_done hdone payload 0, fun h => absurd h hdone⟩
  | succ fuel ih =>
    by_cases hmore : bytesWritten < header.messageLength
    · have hlt := UInt32.lt_iff_toNat_lt.mp hmore
      have hbound := header.messageLength.toNat_lt
      have hremaining : (header.messageLength - bytesWritten).toNat =
          header.messageLength.toNat - bytesWritten.toNat :=
        UInt32.toNat_sub_of_le _ _ (UInt32.le_of_lt hmore)
      set size := if header.messageLength - bytesWritten > chunkSize then chunkSize
        else header.messageLength - bytesWritten with hdef
      have hpos : 1 ≤ size.toNat ∧
          size.toNat ≤ header.messageLength.toNat - bytesWritten.toNat := by
        rw [hdef]
        split_ifs with h
        · have := UInt32.lt_iff_toNat_lt.mp h
          omega
        · omega
      have hnext : (bytesWritten + size).toNat = bytesWritten.toNat + size.toNat := by
        rw [UInt32.toNat_add]
        omega
      obtain ⟨chunks, hchunks, -⟩ := ih (bytesWritten + size) (by omega)
      rw [chunkWriteLoop, if_pos hmore]
      dsimp only
      rw [← hdef, hchunks]
      exact ⟨_, rfl, fun _ => by simp⟩
    · exact ⟨[], chunkWriteLoop_done hmore payload _, fun h => absurd h hmore⟩

/-- `rtmp_chunk_write` emits at least one chunk for every message. -/
theorem rtmpChunkWrite_total {writer : Connection} (hsize : 1 ≤ writer.chunkSizeOut.toNat)
    (m : OutgoingMessage) :
    ∃ chunks, rtmpChunkWrite writer m.message = some chunks ∧ chunks ≠ [] := by
  have hlength := m.length_eq
  have hpos := List.length_pos_of_ne_nil m.payload_ne_nil
  have hne : ¬ m.header.messageLength = 0 := by
    intro h
    rw [h] at hlength
    exact absurd hlength (by simp; omega)
  obtain ⟨chunks, hchunks, hnonempty⟩ :=
    chunkWriteLoop_total hsize m.header m.payload 0 (Nat.sub_le _ _)
  refine ⟨chunks, ?_, hnonempty ?_⟩
  · simpa [rtmpChunkWrite, OutgoingMessage.message, hne] using hchunks
  · rw [UInt32.lt_iff_toNat_lt]
    simp only [UInt32.reduceToNat]
    omega

/-- A message that fits into one chunk is sent as one chunk of type 0. -/
theorem rtmpChunkWrite_of_le {writer : Connection} (m : OutgoingMessage)
    (hfit : m.payload.length ≤ writer.chunkSizeOut.toNat) :
    rtmpChunkWrite writer m.message =
      some [rtmpWriteChunkHeader m.header .type0 ++ m.payload] := by
  have hlength := m.length_eq
  have hpos := List.length_pos_of_ne_nil m.payload_ne_nil
  have hne : ¬ m.header.messageLength = 0 := by
    intro h
    rw [h] at hlength
    exact absurd hlength (by simp; omega)
  have hmore : (0 : UInt32) < m.header.messageLength := by
    rw [UInt32.lt_iff_toNat_lt]
    simp only [UInt32.reduceToNat]
    omega
  have hsize : ¬ m.header.messageLength > writer.chunkSizeOut := by
    rw [gt_iff_lt, UInt32.lt_iff_toNat_lt]
    omega
  obtain ⟨fuel, hfuel⟩ : ∃ fuel, m.header.messageLength.toNat = fuel + 1 :=
    ⟨m.header.messageLength.toNat - 1, by omega⟩
  have hend : chunkWriteLoop writer.chunkSizeOut m.header m.payload fuel
      (0 + m.header.messageLength) = some [] := by
    rw [UInt32.zero_add]
    exact chunkWriteLoop_done (UInt32.lt_irrefl _) _ _
  have hdata : (m.payload.drop (0 : UInt32).toNat).take (m.header.messageLength).toNat =
      m.payload := by
    rw [hlength]
    simp
  simp only [rtmpChunkWrite, OutgoingMessage.message, if_neg hne, hfuel]
  rw [chunkWriteLoop, if_pos hmore]
  dsimp only
  rw [UInt32.sub_zero, if_neg hsize, if_pos rfl, hend, hdata]
  rfl

/-! ### Reading whole messages -/

/-- The message as the reader builds it from a single chunk of type 0. -/
def OutgoingMessage.received (m : OutgoingMessage) : Message :=
  readMessage { m.header with fmt := .type0 } m.payload m.header.messageLength

theorem OutgoingMessage.received_content (m : OutgoingMessage) :
    m.received.content = m.message.content := rfl

theorem OutgoingMessage.received_closes (m : OutgoingMessage) :
    m.received.closes = m.message.closes := rfl

/-- A turn of the loop at the single chunk of a message delivers that message,
whatever the table of last headers holds. -/
theorem Thread.step_whole {t : Thread} (hfinished : t.finished = false)
    (hrunning : t.conn.threadRunning = true) {m : OutgoingMessage}
    (hfit : m.payload.length ≤ t.conn.chunkSizeIn.toNat) {rest : List UInt8}
    (hinput : t.input = rtmpWriteChunkHeader m.header .type0 ++ m.payload ++ rest)
    (lastHeaders : LastHeaders) :
    (t.step lastHeaders).2 =
      { t with
        conn := (rtmpMessageParse t.conn m.received).1
        input := rest
        hasPartialMessage := false
        delivered := t.delivered ++ [m.received]
        replies := t.replies ++ (rtmpMessageParse t.conn m.received).2.toList } := by
  have hlow := m.id_low
  have hhigh := m.id_high
  have hlength := m.length_eq
  have hlt := m.payload_lt
  have hread : rtmpReadChunkHeader .zero t.input =
      .ok { m.header with fmt := .type0 } (m.payload ++ rest) := by
    rw [hinput, List.append_assoc]
    exact rtmpReadChunkHeader_write .zero hlow (by omega) (by omega) .type0 _
  have hinherit : inheritHeader lastHeaders { m.header with fmt := .type0 } =
      { m.header with fmt := .type0 } := by
    unfold inheritHeader
    split_ifs <;> rfl
  have hwhole : chunkDataSize t.conn { m.header with fmt := .type0 } 0 =
      m.header.messageLength := by
    have hsize : ¬ m.header.messageLength > t.conn.chunkSizeIn := by
      rw [gt_iff_lt, UInt32.lt_iff_toNat_lt]
      omega
    simp [chunkDataSize, hsize]
  have hstep := t.step_of_header hfinished hrunning hread hinherit.symm hwhole.symm hlength.symm
  rw [hstep]
  exact if_pos (UInt32.le_refl _)

/-! ### When every message fits into a chunk -/

/-- The messages up to the first one that stops the loop. -/
def upToClose : List OutgoingMessage → List OutgoingMessage
  | [] => []
  | m :: ms => if m.message.closes then [m] else m :: upToClose ms

/-- Nothing is cut off exactly when only the last message may stop the loop. -/
theorem upToClose_eq_self_iff (ms : List OutgoingMessage) :
    upToClose ms = ms ↔ ∀ m ∈ ms.dropLast, m.message.closes = false := by
  induction ms with
  | nil => simp [upToClose]
  | cons m ms ih =>
    cases ms with
    | nil => simp [upToClose]
    | cons m' ms =>
      rw [upToClose, List.dropLast_cons_cons, List.forall_mem_cons, ← ih]
      cases m.message.closes <;> simp

/-- What `upToClose` keeps is never longer than the sequence. -/
theorem upToClose_eq_of_length_eq {ms : List OutgoingMessage}
    (h : (upToClose ms).length = ms.length) : upToClose ms = ms := by
  induction ms with
  | nil => rfl
  | cons m ms ih =>
    rw [upToClose] at h ⊢
    split_ifs at h ⊢ with hclose
    · have hnil : ms = [] := by simpa using h.symm
      rw [hnil]
    · rw [ih (by simpa using h)]

/-- A stopped thread delivers nothing more. -/
theorem Thread.run_of_stopped {t : Thread} (hstopped : t.conn.threadRunning = false) (n : ℕ)
    (lastHeaders : LastHeaders) : (t.run n lastHeaders).2.delivered = t.delivered := by
  cases n with
  | zero => rfl
  | succ n =>
    cases hfinished : t.finished with
    | true => rw [t.run_of_finished hfinished]
    | false =>
      rcases t.step_cases hfinished lastHeaders with ⟨hend, -, hsame⟩ | ⟨hrunning, -⟩
      · rw [Thread.run_succ, Thread.run_of_finished hend, hsame]
      · rw [hstopped] at hrunning
        cases hrunning

/-- Messages of one chunk each are delivered in order, up to the first that
stops the loop. The induction is on the messages, and the thread state that it
carries keeps the reader's chunk size. -/
theorem Thread.run_whole {chunkSize : UInt32} (ms : List OutgoingMessage)
    (hfit : ∀ m ∈ ms, m.payload.length ≤ chunkSize.toNat) {t : Thread} {n : ℕ}
    (hfinished : t.finished = false) (hrunning : t.conn.threadRunning = true)
    (hsize : t.conn.chunkSizeIn = chunkSize)
    (hinput : t.input = ms.flatMap fun m => rtmpWriteChunkHeader m.header .type0 ++ m.payload)
    (hn : t.input.length < n) (lastHeaders : LastHeaders) :
    (t.run n lastHeaders).2.delivered = t.delivered ++ (upToClose ms).map (·.received) := by
  induction ms generalizing t n lastHeaders with
  | nil =>
    obtain ⟨n, rfl⟩ : ∃ k, n = k + 1 := ⟨n - 1, by omega⟩
    have hempty : t.input = [] := hinput
    rcases t.step_cases hfinished lastHeaders with ⟨hend, -, hsame⟩ |
        ⟨-, fields, header, size, data, rest, hread, -⟩
    · rw [Thread.run_succ, Thread.run_of_finished hend, hsame]
      simp [upToClose]
    · rw [hempty] at hread
      cases hread
  | cons m ms ih =>
    obtain ⟨n, rfl⟩ : ∃ k, n = k + 1 := ⟨n - 1, by omega⟩
    have hm := hfit m List.mem_cons_self
    rw [List.flatMap_cons] at hinput
    have hstep := t.step_whole hfinished hrunning (hsize ▸ hm) hinput lastHeaders
    have hopen : (t.step lastHeaders).2.finished = false := by rw [hstep]; exact hfinished
    have hprogress := t.step_progress hfinished lastHeaders
    rw [hopen] at hprogress
    have hless : (t.step lastHeaders).2.input.length < n := by
      rcases hprogress with h | h
      · cases h
      · omega
    have hthread : (t.step lastHeaders).2.conn.threadRunning = !m.message.closes := by
      rw [hstep]
      have h := rtmpMessageParse_threadRunning t.conn m.received
      rwa [hrunning, Bool.true_and, m.received_closes] at h
    have hdelivered : (t.step lastHeaders).2.delivered = t.delivered ++ [m.received] := by
      rw [hstep]
    rw [Thread.run_succ]
    cases hclose : m.message.closes with
    | true =>
      rw [Thread.run_of_stopped (by rw [hthread, hclose]; rfl), hdelivered]
      simp [upToClose, hclose]
    | false =>
      have hkeep : (t.step lastHeaders).2.conn.chunkSizeIn = chunkSize := by
        rw [hstep]
        exact (rtmpMessageParse_chunkSizeIn m.ne_setChunkSize t.conn).trans hsize
      rw [ih (fun m' hm' => hfit m' (List.mem_cons_of_mem m hm')) hopen
        (by rw [hthread, hclose]; rfl) hkeep (by rw [hstep]) hless, hdelivered]
      simp [upToClose, hclose]

/-! ### Delivered messages are never longer than a chunk -/

/-- While no Set Chunk Size message was delivered, the reader's chunk size
stands and bounds every payload delivered so far. -/
def Thread.ChunkBounded (chunkSize : UInt32) (t : Thread) : Prop :=
  (∀ msg ∈ t.delivered, msg.header.messageTypeId ≠ 1) →
    t.conn.chunkSizeIn = chunkSize ∧
      ∀ msg ∈ t.delivered, msg.content.payload.length ≤ chunkSize.toNat

theorem Thread.ChunkBounded.step {chunkSize : UInt32} {t : Thread} (h : t.ChunkBounded chunkSize)
    (lastHeaders : LastHeaders) : (t.step lastHeaders).2.ChunkBounded chunkSize := by
  cases hfinished : t.finished with
  | true => rwa [t.step_of_finished hfinished]
  | false =>
    rcases t.step_cases hfinished lastHeaders with ⟨-, hconn, hdelivered⟩ |
        ⟨-, fields, header, size, data, rest, -, -, hsize, hdata, hstep⟩
    · intro hall
      rw [hdelivered] at hall ⊢
      rw [hconn]
      exact h hall
    · rw [hstep]
      dsimp only
      unfold Thread.afterRead
      split_ifs with hdone
      · intro hall
        have hold := h fun msg hmsg => hall msg (List.mem_append_left _ hmsg)
        have htype := hall (readMessage header data size) (by simp)
        refine ⟨?_, fun msg hmsg => ?_⟩
        · exact (rtmpMessageParse_chunkSizeIn htype t.conn).trans hold.1
        · rcases List.mem_append.mp hmsg with hmsg | hmsg
          · exact hold.2 msg hmsg
          · obtain rfl := List.mem_singleton.mp hmsg
            have hle := chunkDataSize_le t.conn header 0
            rw [← hsize, hold.1, ← hdata] at hle
            exact hle
      · exact h

theorem Thread.ChunkBounded.run {chunkSize : UInt32} {t : Thread} (h : t.ChunkBounded chunkSize)
    (n : ℕ) (lastHeaders : LastHeaders) : (t.run n lastHeaders).2.ChunkBounded chunkSize := by
  induction n generalizing t lastHeaders with
  | zero => exact h
  | succ n ih => exact ih (h.step lastHeaders) _

/-! ### Interleavings of the chunks -/

theorem tagChunks_msg {m : OutgoingMessage} {chunks : List (List UInt8)} {c : EmittedChunk}
    (h : c ∈ tagChunks m chunks) : c.msg = m := by
  induction chunks with
  | nil => cases h
  | cons bytes chunks ih =>
    rcases List.mem_cons.mp h with rfl | h
    · rfl
    · exact ih h

/-- One of the chunks of a message is its last. -/
theorem exists_last_mem_tagChunks {m : OutgoingMessage} {chunks : List (List UInt8)}
    (h : chunks ≠ []) : ∃ c ∈ tagChunks m chunks, c.last = true := by
  induction chunks with
  | nil => exact absurd rfl h
  | cons bytes chunks ih =>
    cases chunks with
    | nil => exact ⟨_, List.mem_singleton_self _, rfl⟩
    | cons bytes' chunks =>
      obtain ⟨c, hc, hlast⟩ := ih (by simp)
      exact ⟨c, List.mem_cons_of_mem _ hc, hlast⟩

/-- The messages completed by a merge are the messages that were sent. -/
theorem mem_completions_iff {writer : Connection} (hsize : 1 ≤ writer.chunkSizeOut.toNat)
    {msgs : List OutgoingMessage} {order : List EmittedChunk}
    (hmerge : Interleaves (msgs.map (emittedChunks writer)) order) {m : OutgoingMessage} :
    m ∈ completions order ↔ m ∈ msgs := by
  constructor
  · intro hm
    obtain ⟨c, hc, rfl⟩ := List.mem_map.mp hm
    obtain ⟨l, hl, hcl⟩ := hmerge.mem_iff.mp (List.mem_of_mem_filter hc)
    obtain ⟨m, hm, rfl⟩ := List.mem_map.mp hl
    rwa [tagChunks_msg hcl]
  · intro hm
    obtain ⟨chunks, hchunks, hne⟩ := rtmpChunkWrite_total hsize m
    obtain ⟨c, hc, hlast⟩ := exists_last_mem_tagChunks (m := m) hne
    have hemitted : c ∈ emittedChunks writer m := by rwa [emittedChunks, hchunks]
    have horder : c ∈ order :=
      hmerge.mem_iff.mpr ⟨_, List.mem_map_of_mem hm, hemitted⟩
    exact List.mem_map.mpr ⟨c, List.mem_filter.mpr ⟨horder, hlast⟩, tagChunks_msg hc⟩

/-- When every message fits into a chunk, every chunk of a merge is a whole
message. -/
theorem wire_eq_of_fit {writer : Connection} {msgs : List OutgoingMessage}
    (hfit : ∀ m ∈ msgs, m.payload.length ≤ writer.chunkSizeOut.toNat)
    {order : List EmittedChunk}
    (hmerge : Interleaves (msgs.map (emittedChunks writer)) order) :
    wire order = (completions order).flatMap fun m =>
      rtmpWriteChunkHeader m.header .type0 ++ m.payload := by
  have hwhole : ∀ c ∈ order, c.last = true ∧
      c.bytes = rtmpWriteChunkHeader c.msg.header .type0 ++ c.msg.payload := by
    intro c hc
    obtain ⟨l, hl, hcl⟩ := hmerge.mem_iff.mp hc
    obtain ⟨m, hm, rfl⟩ := List.mem_map.mp hl
    rw [emittedChunks, rtmpChunkWrite_of_le m (hfit m hm)] at hcl
    obtain rfl := List.mem_singleton.mp hcl
    exact ⟨rfl, rfl⟩
  clear hmerge
  induction order with
  | nil => rfl
  | cons c order ih =>
    have hc := hwhole c List.mem_cons_self
    have hrest := ih fun c' hc' => hwhole c' (List.mem_cons_of_mem c hc')
    unfold wire completions at hrest ⊢
    rw [List.flatMap_cons, hrest, hc.2, List.filter_cons_of_pos hc.1, List.map_cons,
      List.flatMap_cons]

/-! ### The exact condition -/

/-- The loop delivers exactly the messages written, in the order of their last
chunks, if and only if every message fits into one chunk and none but the last
stops the loop. The chunk stream ids need not even differ. -/
theorem delivered_eq_completions_iff {chunkSize : UInt32} (hpos : 1 ≤ chunkSize.toNat)
    {writer reader : Connection} (hout : writer.chunkSizeOut = chunkSize)
    (hin : reader.chunkSizeIn = chunkSize) (hrunning : reader.threadRunning = true)
    (lastHeaders : LastHeaders) {msgs : List OutgoingMessage} {order : List EmittedChunk}
    (hmerge : Interleaves (msgs.map (emittedChunks writer)) order) :
    (rtmpConnectionHandle lastHeaders reader (wire order)).delivered.map Message.content =
        (completions order).map (·.message.content) ↔
      (∀ m ∈ msgs, m.payload.length ≤ chunkSize.toNat) ∧
        ∀ m ∈ (completions order).dropLast, m.message.closes = false := by
  have hmem {m : OutgoingMessage} : m ∈ completions order ↔ m ∈ msgs :=
    mem_completions_iff (by rwa [hout]) hmerge
  have hforward (hfit : ∀ m ∈ msgs, m.payload.length ≤ chunkSize.toNat) :
      (rtmpConnectionHandle lastHeaders reader (wire order)).delivered.map Message.content =
        (upToClose (completions order)).map (·.message.content) := by
    have hrun := Thread.run_whole (t := Thread.start reader (wire order))
      (n := (wire order).length + 1) (completions order)
      (fun m hm => hfit m (hmem.mp hm)) rfl hrunning hin
      (wire_eq_of_fit (by rwa [hout]) hmerge) (Nat.lt_succ_self _) lastHeaders
    rw [rtmpConnectionHandle, hrun]
    simp [Thread.start, OutgoingMessage.received_content]
  constructor
  · intro hsame
    have hfit : ∀ m ∈ msgs, m.payload.length ≤ chunkSize.toNat := by
      have hbounded : (rtmpConnectionHandle lastHeaders reader (wire order)).ChunkBounded
          chunkSize := by
        refine Thread.ChunkBounded.run (t := Thread.start reader (wire order)) ?_ _ lastHeaders
        intro _
        exact ⟨hin, fun msg hmsg => by cases hmsg⟩
      have hcontent : ∀ msg ∈ (rtmpConnectionHandle lastHeaders reader (wire order)).delivered,
          ∃ m ∈ completions order, m.message.content = msg.content := by
        intro msg hmsg
        have himage := List.mem_map_of_mem (f := Message.content) hmsg
        rw [hsame] at himage
        exact List.mem_map.mp himage
      have hall := hbounded fun msg hmsg => by
        obtain ⟨m, -, hm⟩ := hcontent msg hmsg
        have htype : m.header.messageTypeId = msg.header.messageTypeId :=
          congrArg Content.messageTypeId hm
        rw [← htype]
        exact m.ne_setChunkSize
      intro m hm
      have himage := List.mem_map_of_mem (f := fun m : OutgoingMessage => m.message.content)
        (hmem.mpr hm)
      rw [← hsame] at himage
      obtain ⟨msg, hmsg, hcontent⟩ := List.mem_map.mp himage
      have hlength := hall.2 msg hmsg
      rw [hcontent] at hlength
      exact hlength
    refine ⟨hfit, ?_⟩
    have hcut := (hforward hfit).symm.trans hsame
    rw [← upToClose_eq_self_iff]
    exact upToClose_eq_of_length_eq (by simpa using congrArg List.length hcut)
  · rintro ⟨hfit, hclose⟩
    rw [hforward hfit, (upToClose_eq_self_iff _).mpr hclose]

/-- A connection whose two chunk sizes are both `chunkSize`. -/
def Connection.withChunkSize (chunkSize : UInt32) : Connection :=
  { Connection.accepted with chunkSizeIn := chunkSize, chunkSizeOut := chunkSize }

/-- A video message of two bytes on chunk stream 4. -/
def twoByteMessage : OutgoingMessage where
  header := { ChunkHeader.zero with chunkStreamId := 4, messageLength := 2, messageTypeId := 9 }
  payload := [0x17, 0x01]
  id_low := by decide
  id_high := by decide
  length_eq := rfl
  payload_ne_nil := by decide
  payload_lt := by decide
  ne_setChunkSize := by decide
  ne_abort := by decide

/-- In chunks of two bytes the message arrives. -/
theorem delivered_eq_completions_twoByteMessage :
    (rtmpConnectionHandle .zero (.withChunkSize 2)
        (wire (emittedChunks (.withChunkSize 2) twoByteMessage))).delivered.map Message.content =
      [twoByteMessage.message.content] := by
  have hmerge : Interleaves ([twoByteMessage].map (emittedChunks (.withChunkSize 2)))
      (emittedChunks (.withChunkSize 2) twoByteMessage) := by
    simpa using interleaves_flatten ([twoByteMessage].map (emittedChunks (.withChunkSize 2)))
  have hpos : 1 ≤ (2 : UInt32).toNat := by decide
  have hout : (Connection.withChunkSize 2).chunkSizeOut = 2 := rfl
  have hin : (Connection.withChunkSize 2).chunkSizeIn = 2 := rfl
  have hiff := delivered_eq_completions_iff hpos hout hin rfl .zero hmerge
  refine hiff.mpr ⟨fun m hm => ?_, fun m hm => ?_⟩
  · obtain rfl := List.mem_singleton.mp hm
    decide
  · cases hm

/-- In chunks of one byte the message is lost: the type-3 chunk that should
complete it starts over. -/
theorem twoByteMessage_lost :
    ¬ ∀ (chunkSize : UInt32), 1 ≤ chunkSize.toNat → ∀ (writer reader : Connection),
      writer.chunkSizeOut = chunkSize → reader.chunkSizeIn = chunkSize →
      reader.threadRunning = true → ∀ (lastHeaders : LastHeaders) (msgs : List OutgoingMessage)
        (order : List EmittedChunk), (msgs.map (·.header.chunkStreamId)).Nodup →
        Interleaves (msgs.map (emittedChunks writer)) order →
        (rtmpConnectionHandle lastHeaders reader (wire order)).delivered.map Message.content =
          (completions order).map (·.message.content) := by
  intro h
  have hmerge : Interleaves ([twoByteMessage].map (emittedChunks (.withChunkSize 1)))
      (emittedChunks (.withChunkSize 1) twoByteMessage) := by
    simpa using interleaves_flatten ([twoByteMessage].map (emittedChunks (.withChunkSize 1)))
  have hsame := h 1 (by decide) (.withChunkSize 1) (.withChunkSize 1) rfl rfl rfl .zero
    [twoByteMessage] _ (by decide) hmerge
  revert hsame
  decide

end Rtmp
