import Strero.Lib.Runs
import Strero.Lib.UnitStream
import Strero.RtmpClient.Session

/-!
# The connection of the RTMP client as two threads write to it

The connection's own thread and the thread that delivers frames send on one socket without
a lock. A message goes out in chunks, a chunk in up to three buffers, and a buffer in as many
sends as it takes. A step is one send with its result, or a change of the connection.
-/

namespace RtmpClient

open Wire Rtmp Rtmp.ChunkStream

/-! ### The chunks of a message -/

/-- A chunk as the client writes it: the first one of a message, or a later one. -/
structure WrittenChunk where
  message : ClientMessage
  isFirst : Bool
  data : List UInt8
deriving DecidableEq

/-- The chunk stream of a chunk. -/
def WrittenChunk.id (c : WrittenChunk) : UInt8 := c.message.chunkStreamId

/-- The buffers that are written for a chunk. -/
def WrittenChunk.parts (c : WrittenChunk) : List (List UInt8) :=
  if c.isFirst then [[ChunkType.type0.code <<< 6 ||| c.id], c.message.header, c.data]
  else [[ChunkType.type3.code <<< 6 ||| c.id], c.data]

/-- The bytes of a chunk. -/
def WrittenChunk.encode (c : WrittenChunk) : List UInt8 := c.parts.flatten

/-- The loop of `rtmp_client_send_chunked_message`, chunk by chunk. -/
def messageChunks (chunkSize : ℕ) (m : ClientMessage) : ℕ → Bool → List UInt8 → List WrittenChunk
  | _, _, [] => []
  | 0, _, _ :: _ => []
  | fuel + 1, isFirst, b :: bytes =>
    let data := b :: bytes
    let size := if data.length > chunkSize then chunkSize else data.length
    ⟨m, isFirst, data.take size⟩ :: messageChunks chunkSize m fuel false (data.drop size)

/-- A message whose length fits into the header, and the chunk size with which it is sent. -/
structure SentMessage where
  message : ClientMessage
  chunkSize : ℕ
  chunkSize_pos : 0 < chunkSize
  id_low : 2 ≤ message.chunkStreamId
  id_high : message.chunkStreamId ≤ 63
  data_ne_nil : message.data ≠ []
  data_lt : message.data.length < 2 ^ 24

/-- The chunks of a message. -/
def SentMessage.chunks (m : SentMessage) : List WrittenChunk :=
  messageChunks m.chunkSize m.message m.message.data.length true m.message.data

/-! ### A message on its way -/

/-- The threads that write to the connection. -/
inductive WireThread
  | own | frame
deriving DecidableEq

/-- Where a thread is in a message: its current chunk, what is left of the buffers of it, and
the chunks after it. -/
structure Sending where
  current : WrittenChunk
  parts : List (List UInt8)
  later : List WrittenChunk
deriving DecidableEq

/-- The first of several chunks. -/
def Sending.start : List WrittenChunk → Option Sending
  | [] => none
  | chunk :: chunks => some ⟨chunk, chunk.parts, chunks⟩

/-- Nothing of the current chunk has been sent. -/
def Sending.isFresh (s : Sending) : Bool := s.parts == s.current.parts

/-- The buffer of the next send. -/
def Sending.part (s : Sending) : List UInt8 := s.parts.headD []

/-- What is left of the current chunk. -/
def Sending.rest (s : Sending) : List UInt8 := s.parts.flatten

/-- After `n` bytes of the buffer: the rest of it, the next one, or the next chunk. -/
def Sending.advance (s : Sending) (n : ℕ) : Option Sending :=
  match s.parts with
  | [] => none
  | part :: parts =>
    if n < part.length then some { s with parts := part.drop n :: parts }
    else if parts = [] then Sending.start s.later
    else some { s with parts := parts }

/-! ### The connection -/

/-- A connection object with its two threads. Kept of the current connection are the bytes that
were sent, those that are missing of the chunk begun last, the chunks that were begun, and the
chunks that are missing of the message begun last on each chunk stream. -/
structure SharedWire where
  config : ClientConfig
  isOpen : Bool
  isPublishing : Bool
  chunkSizeOut : UInt32
  own : Option Sending
  frame : Option Sending
  received : List UInt8
  owed : List UInt8
  begun : List WrittenChunk
  unfinished : UInt8 → List WrittenChunk

/-- `rtmp_client_connection_create`. -/
def SharedWire.created (config : ClientConfig) : SharedWire where
  config
  isOpen := false
  isPublishing := false
  chunkSizeOut := defaultChunkSize
  own := none
  frame := none
  received := []
  owed := []
  begun := []
  unfinished := fun _ => []

/-- What a thread is sending. -/
def SharedWire.sending (w : SharedWire) : WireThread → Option Sending
  | .own => w.own
  | .frame => w.frame

@[inherit_doc SharedWire.sending]
def SharedWire.setSending (w : SharedWire) (s : Option Sending) : WireThread → SharedWire
  | .own => { w with own := s }
  | .frame => { w with frame := s }

/-- The own thread sends on an open connection, and frames are sent once the state says so. -/
def SharedWire.maySend (w : SharedWire) : WireThread → Bool
  | .own => w.isOpen && w.own.isNone
  | .frame => w.isOpen && w.isPublishing && w.frame.isNone

/-- A call of `rtmp_client_send_chunked_message` begins. -/
def SharedWire.beginMessage (w : SharedWire) (thread : WireThread) (m : ClientMessage) :
    SharedWire :=
  if w.maySend thread then
    if m.data = [] ∨ m.chunkStreamId < 2 ∨ m.chunkStreamId > 63 then w
    else
      w.setSending (Sending.start
        (messageChunks w.chunkSizeOut.toNat m m.data.length true m.data)) thread
  else w

/-- A call of `rtmp_client_write_chunk` for a command begins: one chunk, whatever its length. -/
def SharedWire.beginCommand (w : SharedWire) (isPublish : Bool) (streamId : UInt32)
    (payload : List UInt8) : SharedWire :=
  if w.maySend .own ∧ payload ≠ [] then
    let m : ClientMessage := if isPublish then ⟨8, 20, 0, streamId, payload⟩
      else ⟨3, 20, 0, 0, payload⟩
    w.setSending (Sending.start [⟨m, true, payload⟩]) .own
  else w

/-- The first bytes of a chunk are sent. -/
def SharedWire.beginChunk (w : SharedWire) (s : Sending) : SharedWire :=
  if s.isFresh then
    { w with
      begun := w.begun ++ [s.current]
      unfinished := Function.update w.unfinished s.current.id s.later }
  else w

/-- One `send` of a thread. Unless it takes anything the message is given up. -/
def SharedWire.send (w : SharedWire) (thread : WireThread) (result : ℤ) : SharedWire :=
  match w.sending thread with
  | none => w
  | some s =>
    if w.isOpen = false ∨ result ≤ 0 then w.setSending none thread
    else
      let n := min result.toNat s.part.length
      { w.beginChunk s with
        received := w.received ++ s.part.take n
        owed := s.rest.drop n }.setSending (s.advance n) thread

/-! ### The steps -/

/-- A step. The own thread connects, sends its commands, sets the state (before it sends the
chunk size), adopts the chunk size, and closes the connection. Both threads send messages.
Either may set the state back after an error. -/
inductive WireEvent
  | connect
  | command (isPublish : Bool) (streamId : UInt32) (payload : List UInt8)
  | publish
  | adoptChunkSize
  | leave
  | close
  | message (thread : WireThread) (m : ClientMessage)
  | send (thread : WireThread) (result : ℤ)

/-- A step. One that its thread cannot take changes nothing. -/
def SharedWire.step (w : SharedWire) : WireEvent → SharedWire
  | .connect =>
    if w.isOpen = false ∧ w.own = none then
      { w with isOpen := true, received := [], owed := [], begun := [], unfinished := fun _ => [] }
    else w
  | .command isPublish streamId payload => w.beginCommand isPublish streamId payload
  | .publish => if w.maySend .own then { w with isPublishing := true } else w
  | .adoptChunkSize =>
    if w.maySend .own then { w with chunkSizeOut := w.config.chunkSize } else w
  | .leave => { w with isPublishing := false }
  | .close => { w with isOpen := false, isPublishing := false }
  | .message thread m => w.beginMessage thread m
  | .send thread result => w.send thread result

/-! ### A thread that sends alone -/

/-- The bytes of the chunks are those that the loop sends. -/
theorem flatMap_encode_messageChunks {chunkSize : ℕ} {m : ClientMessage} {fuel : ℕ}
    {isFirst : Bool} {data bytes : List UInt8}
    (h : sendChunks chunkSize m.chunkStreamId m.header fuel isFirst data = some bytes) :
    (messageChunks chunkSize m fuel isFirst data).flatMap WrittenChunk.encode = bytes := by
  induction fuel generalizing isFirst data bytes with
  | zero =>
    cases data with
    | nil => exact Option.some.inj h
    | cons b rest => cases h
  | succ fuel ih =>
    cases data with
    | nil => exact Option.some.inj h
    | cons b rest =>
      rw [sendChunks] at h
      obtain ⟨later, hlater, rfl⟩ := Option.map_eq_some_iff.mp h
      rw [messageChunks, List.flatMap_cons, ih hlater]
      cases isFirst <;> simp [WrittenChunk.encode, WrittenChunk.parts, WrittenChunk.id]

/-- The bytes of a command are those of `rtmp_client_write_chunk`. -/
theorem encode_command {m : ClientMessage} (htime : m.timestamp = 0) :
    WrittenChunk.encode ⟨m, true, m.data⟩ =
      rtmpClientWriteChunk m.chunkStreamId m.messageType m.streamId m.data := by
  simp [WrittenChunk.encode, WrittenChunk.parts, WrittenChunk.id, ClientMessage.header,
    rtmpClientWriteChunk, htime]

/-- The bytes that a thread has not yet sent of its message. -/
def Sending.remaining : Option Sending → List UInt8
  | none => []
  | some s => s.rest ++ s.later.flatMap WrittenChunk.encode

/-- All bytes of the chunks remain when the first of them begins. -/
theorem Sending.remaining_start (chunks : List WrittenChunk) :
    Sending.remaining (Sending.start chunks) = chunks.flatMap WrittenChunk.encode := by
  cases chunks <;> rfl

/-- Something is left of every chunk that a thread is at. -/
theorem Sending.start_parts (chunks : List WrittenChunk) :
    ∀ s ∈ Sending.start chunks, s.parts ≠ [] := by
  cases chunks with
  | nil => rintro s ⟨⟩
  | cons c cs =>
    rintro s ⟨⟩
    change c.parts ≠ []
    unfold WrittenChunk.parts
    split_ifs <;> exact List.cons_ne_nil _ _

@[inherit_doc Sending.start_parts]
theorem Sending.advance_parts {s : Sending} {n : ℕ} (h : s.parts ≠ []) :
    ∀ s' ∈ s.advance n, s'.parts ≠ [] := by
  obtain ⟨part, parts, hparts⟩ := List.exists_cons_of_ne_nil h
  unfold Sending.advance
  rw [hparts]
  dsimp only
  split_ifs with hpart hlast
  · rintro s' ⟨⟩
    exact List.cons_ne_nil _ _
  · exact Sending.start_parts s.later
  · rintro s' ⟨⟩
    exact hlast

/-- What a send takes no longer remains. -/
theorem Sending.take_append_remaining {s : Sending} (h : s.parts ≠ []) (n : ℕ) :
    s.part.take (min n s.part.length) ++ Sending.remaining (s.advance (min n s.part.length)) =
      Sending.remaining (some s) := by
  obtain ⟨part, parts, hparts⟩ := List.exists_cons_of_ne_nil h
  unfold Sending.advance Sending.part
  rw [hparts]
  dsimp only
  split_ifs with hpart hlast
  · simp [Sending.remaining, Sending.rest, hparts, ← List.append_assoc]
  · have hall : min n part.length = part.length := by omega
    rw [Sending.remaining_start]
    simp [Sending.remaining, Sending.rest, hparts, hlast, hall]
  · have hall : min n part.length = part.length := by omega
    simp [Sending.remaining, Sending.rest, hparts, hall]

/-- What one thread sends the other one does not touch. -/
theorem SharedWire.sending_setSending (w : SharedWire) (next : Option Sending)
    (thread other : WireThread) :
    (w.setSending next thread).sending other =
      if other = thread then next else w.sending other := by
  cases thread <;> cases other <;> rfl

/-- A send that takes bytes on an open connection. -/
theorem SharedWire.send_of_pos {w : SharedWire} (hopen : w.isOpen = true) {thread : WireThread}
    {s : Sending} (hsending : w.sending thread = some s) {result : ℤ} (hpos : 0 < result) :
    (w.send thread result).received =
        w.received ++ s.part.take (min result.toNat s.part.length) ∧
      (w.send thread result).sending thread = s.advance (min result.toNat s.part.length) ∧
      (w.send thread result).isOpen = true := by
  have hbegun : (w.beginChunk s).isOpen = w.isOpen := by
    unfold SharedWire.beginChunk
    split_ifs <;> rfl
  have hcase : ¬(w.isOpen = false ∨ result ≤ 0) := by
    rw [hopen]
    simpa using hpos
  unfold SharedWire.send
  rw [hsending]
  dsimp only
  rw [if_neg hcase]
  cases thread <;> exact ⟨rfl, rfl, hbegun.trans hopen⟩

/-- While a thread sends alone and its sends take bytes, what was sent and what remains stay
together the same. -/
theorem SharedWire.sends_received {w : SharedWire} (hopen : w.isOpen = true)
    {thread : WireThread} (hparts : ∀ s ∈ w.sending thread, s.parts ≠ []) {results : List ℤ}
    (hpos : ∀ result ∈ results, 0 < result) :
    ((results.map (WireEvent.send thread)).foldl SharedWire.step w).received ++ Sending.remaining
        (((results.map (WireEvent.send thread)).foldl SharedWire.step w).sending thread) =
      w.received ++ Sending.remaining (w.sending thread) := by
  induction results generalizing w with
  | nil => rfl
  | cons result results ih =>
    rw [List.forall_mem_cons] at hpos
    cases hsending : w.sending thread with
    | none =>
      have hsend : w.send thread result = w := by
        unfold SharedWire.send
        rw [hsending]
      rw [List.map_cons, List.foldl_cons, SharedWire.step, hsend, ih hopen hparts hpos.2, hsending]
    | some s =>
      have hs := hparts s hsending
      obtain ⟨hreceived, hnext, hstill⟩ := SharedWire.send_of_pos hopen hsending hpos.1
      rw [List.map_cons, List.foldl_cons, SharedWire.step,
        ih hstill (hnext ▸ Sending.advance_parts hs) hpos.2, hreceived, hnext, List.append_assoc,
        Sending.take_append_remaining hs]

/-- Chunks that a thread sends alone, to their end. -/
theorem SharedWire.sends_chunks {w : SharedWire} {thread : WireThread}
    (hmay : w.maySend thread = true) (chunks : List WrittenChunk) {results : List ℤ}
    (hpos : ∀ result ∈ results, 0 < result)
    (hdone : ((results.map (WireEvent.send thread)).foldl SharedWire.step
      (w.setSending (Sending.start chunks) thread)).sending thread = none) :
    ((results.map (WireEvent.send thread)).foldl SharedWire.step
      (w.setSending (Sending.start chunks) thread)).received =
        w.received ++ chunks.flatMap WrittenChunk.encode := by
  have hopen : w.isOpen = true := by
    cases thread <;> simp_all [SharedWire.maySend]
  have hframe : (w.setSending (Sending.start chunks) thread).received = w.received ∧
      (w.setSending (Sending.start chunks) thread).isOpen = w.isOpen := by
    cases thread <;> exact ⟨rfl, rfl⟩
  have hstart := w.sending_setSending (Sending.start chunks) thread thread
  rw [if_pos rfl] at hstart
  have hsends := SharedWire.sends_received (hframe.2.trans hopen)
    (hstart ▸ Sending.start_parts chunks) hpos
  rwa [hdone, hstart, Sending.remaining_start, hframe.1, Sending.remaining,
    List.append_nil] at hsends

/-- A message that a thread sends alone puts the bytes of `rtmp_client_send_chunked_message` on
the connection. -/
theorem SharedWire.message_received {w : SharedWire} {thread : WireThread}
    (hmay : w.maySend thread = true) {m : ClientMessage} {bytes : List UInt8}
    (hbytes : rtmpClientSendChunkedMessage w.chunkSizeOut m.streamId m.chunkStreamId m.messageType
      m.timestamp m.data = some bytes) {results : List ℤ} (hpos : ∀ result ∈ results, 0 < result)
    (hdone : ((results.map (WireEvent.send thread)).foldl SharedWire.step
      (w.beginMessage thread m)).sending thread = none) :
    ((results.map (WireEvent.send thread)).foldl SharedWire.step
      (w.beginMessage thread m)).received = w.received ++ bytes := by
  unfold rtmpClientSendChunkedMessage at hbytes
  split_ifs at hbytes with hne hid
  unfold SharedWire.beginMessage at hdone ⊢
  rw [if_pos hmay, if_neg (not_or.mpr ⟨hne, hid⟩)] at hdone ⊢
  rw [SharedWire.sends_chunks hmay _ hpos hdone, flatMap_encode_messageChunks hbytes]

/-- A command that the own thread sends alone puts the bytes of `rtmp_client_write_chunk` on
the connection. -/
theorem SharedWire.command_received {w : SharedWire} (hmay : w.maySend .own = true)
    (isPublish : Bool) (streamId : UInt32) {payload : List UInt8} (hne : payload ≠ [])
    {results : List ℤ} (hpos : ∀ result ∈ results, 0 < result)
    (hdone : ((results.map (WireEvent.send .own)).foldl SharedWire.step
      (w.beginCommand isPublish streamId payload)).sending .own = none) :
    ((results.map (WireEvent.send .own)).foldl SharedWire.step
      (w.beginCommand isPublish streamId payload)).received = w.received ++
        if isPublish then rtmpClientWriteChunk 8 20 streamId payload
        else rtmpClientWriteChunk 3 20 0 payload := by
  unfold SharedWire.beginCommand at hdone ⊢
  rw [if_pos ⟨hmay, hne⟩] at hdone ⊢
  rw [SharedWire.sends_chunks hmay _ hpos hdone, List.flatMap_singleton]
  cases isPublish
  · exact congrArg _ (encode_command (m := ⟨3, 20, 0, 0, payload⟩) rfl)
  · exact congrArg _ (encode_command (m := ⟨8, 20, 0, streamId, payload⟩) rfl)

end RtmpClient
