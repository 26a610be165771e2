import Strero.RtmpClient.SharedWire

/-!
# Whole chunks on a shared connection

As long as no thread sends while a chunk of the other one is incomplete, and nothing follows
a send that has failed in the middle of a chunk or a message, the bytes of a connection are
whole chunks, and on each chunk stream the chunks of a message follow each other.
-/

namespace RtmpClient

open Wire Rtmp Rtmp.ChunkStream UnitStream

/-! ### Intact connections -/

/-- The bytes that were sent are the beginning of a sequence of whole chunks, all of them
complete if nothing is missing of the chunk begun last, and on each chunk stream the chunks
are the beginning of a sequence of whole messages. -/
def SharedWire.Intact (w : SharedWire) : Prop :=
  ∃ chunks : List WrittenChunk, w.received <+: chunks.flatMap WrittenChunk.encode ∧
    (w.owed = [] → w.received = chunks.flatMap WrittenChunk.encode) ∧
    ∀ id, ∃ messages : List SentMessage,
      chunks.filter (·.id = id) <+: messages.flatMap SentMessage.chunks

/-- The connection is as the thread expects it. A chunk is begun when the one before it is
complete: the first chunk of a message when no message is missing chunks on its chunk stream,
a later one when it is the next of the message that was begun there. The rest of a chunk is
sent while it is what is missing. -/
def SharedWire.Ready (w : SharedWire) (s : Sending) : Prop :=
  if s.isFresh then
    w.owed = [] ∧ w.unfinished s.current.id = if s.current.isFirst then [] else s.current :: s.later
  else w.owed = s.rest

/-- A send that takes bytes on an open connection finds it as its thread expects it, and a
message is shorter than the lengths that fit into the header. -/
def SharedWire.Orderly (w : SharedWire) : WireEvent → Prop
  | .send thread result => w.isOpen = true → 0 < result → ∀ s ∈ w.sending thread, w.Ready s
  | .message _ m => m.data.length < 2 ^ 24
  | .command _ _ payload => payload.length < 2 ^ 24
  | _ => True

instance SharedWire.decidableReady (w : SharedWire) (s : Sending) : Decidable (w.Ready s) := by
  unfold SharedWire.Ready
  infer_instance

instance SharedWire.decidableOrderly (w : SharedWire) (e : WireEvent) :
    Decidable (w.Orderly e) := by
  cases e <;> unfold SharedWire.Orderly <;> infer_instance

/-! ### Chunks -/

section Chunks

variable {chunkSize : ℕ} {m : ClientMessage} {fuel : ℕ} {isFirst : Bool} {data : List UInt8}

/-- The chunks after the first are later ones. -/
theorem isFirst_of_mem_messageChunks {c : WrittenChunk}
    (h : c ∈ messageChunks chunkSize m fuel false data) : c.isFirst = false := by
  induction fuel generalizing data with
  | zero => cases data <;> cases h
  | succ fuel ih =>
    cases data with
    | nil => cases h
    | cons b bytes =>
      rcases List.mem_cons.mp h with rfl | hlater
      · rfl
      · exact ih hlater

/-- A message that is sent in one chunk. -/
theorem messageChunks_of_le (hne : data ≠ []) (hle : data.length ≤ chunkSize)
    (hfuel : data.length ≤ fuel) :
    messageChunks chunkSize m fuel isFirst data = [⟨m, isFirst, data⟩] := by
  obtain ⟨b, bytes, rfl⟩ := List.exists_cons_of_ne_nil hne
  obtain ⟨fuel, rfl⟩ : ∃ n, fuel = n + 1 := ⟨fuel - 1, by
    rw [List.length_cons] at hfuel
    omega⟩
  rw [messageChunks, if_neg (by omega), List.take_length, List.drop_length]
  cases fuel <;> rfl

end Chunks

/-! ### The invariant -/

/-- A thread that is at the first chunk of a message has all of its chunks before it, and all
that come later are later ones. -/
structure Sending.Valid (s : Sending) : Prop where
  first : s.current.isFirst = true → ∃ m : SentMessage, m.chunks = s.current :: s.later
  later : ∀ c ∈ s.later, c.isFirst = false

/-- The invariant of connections whose sends are orderly. -/
structure SharedWire.Owing (w : SharedWire) : Prop where
  bytes : Owes WrittenChunk.encode w.begun w.received w.owed
  chunks : ∀ id, ∃ messages,
    Owes SentMessage.chunks messages (w.begun.filter (·.id = id)) (w.unfinished id)
  sending : ∀ thread, ∀ s ∈ w.sending thread, s.Valid
  chunkSize : 0 < w.chunkSizeOut.toNat

theorem SharedWire.Owing.intact {w : SharedWire} (h : w.Owing) : w.Intact := by
  refine ⟨w.begun, h.bytes.beginning, fun howed => (howed ▸ h.bytes).whole, fun id => ?_⟩
  obtain ⟨messages, hmessages⟩ := h.chunks id
  exact ⟨messages, hmessages.beginning⟩

/-- A new connection object. -/
theorem SharedWire.created_owing (config : ClientConfig) : (SharedWire.created config).Owing where
  bytes := owes_nil
  chunks := fun _ => ⟨[], owes_nil⟩
  sending := by
    rintro (_ | _) s hs <;> cases hs
  chunkSize := show 0 < defaultChunkSize.toNat by decide

section Steps

variable {w : SharedWire} {s : Sending}

/-- The first chunk of a message and those after it. -/
theorem SentMessage.chunks_eq_cons (m : SentMessage) : ∃ data chunks,
    m.chunks = ⟨m.message, true, data⟩ :: chunks ∧ ∀ c ∈ chunks, c.isFirst = false := by
  obtain ⟨b, bytes, hdata⟩ := List.exists_cons_of_ne_nil m.data_ne_nil
  unfold SentMessage.chunks
  rw [hdata, List.length_cons, messageChunks]
  exact ⟨_, _, rfl, fun c hc => isFirst_of_mem_messageChunks hc⟩

/-- The chunks of a message that a thread begins. -/
theorem Sending.start_valid (m : SentMessage) : ∀ s ∈ Sending.start m.chunks, s.Valid := by
  intro s hs
  obtain ⟨data, chunks, hchunks, hlater⟩ := m.chunks_eq_cons
  rw [hchunks] at hs
  obtain rfl := Option.mem_some_iff.mp hs
  exact ⟨fun _ => ⟨m, hchunks⟩, hlater⟩

/-- The chunk of a command is the only one of a message that is sent with chunks as large. -/
theorem Sending.start_command_valid {m : ClientMessage} (hlow : 2 ≤ m.chunkStreamId)
    (hhigh : m.chunkStreamId ≤ 63) (hne : m.data ≠ []) (hlength : m.data.length < 2 ^ 24) :
    ∀ s ∈ Sending.start [⟨m, true, m.data⟩], s.Valid := by
  have hvalid := Sending.start_valid
    ⟨m, m.data.length, List.length_pos_iff.mpr hne, hlow, hhigh, hne, hlength⟩
  rwa [SentMessage.chunks, messageChunks_of_le hne le_rfl le_rfl] at hvalid

/-- A thread that goes on stays at a valid place. -/
theorem Sending.Valid.advance (h : s.Valid) (n : ℕ) : ∀ s' ∈ s.advance n, s'.Valid := by
  intro s' hs'
  unfold Sending.advance at hs'
  split at hs'
  · cases hs'
  · split_ifs at hs'
    · obtain rfl := Option.mem_some_iff.mp hs'
      exact ⟨h.first, h.later⟩
    · have hlater := h.later
      cases hcase : s.later with
      | nil =>
        rw [hcase] at hs'
        cases hs'
      | cons c cs =>
        rw [hcase] at hs' hlater
        obtain rfl := Option.mem_some_iff.mp hs'
        refine ⟨fun hfirst => ?_, fun d hd => hlater d (List.mem_cons_of_mem c hd)⟩
        exact absurd (hfirst.symm.trans (hlater c List.mem_cons_self)) (by decide)
    · obtain rfl := Option.mem_some_iff.mp hs'
      exact ⟨h.first, h.later⟩

/-- A send takes its bytes from what is left of the chunk. -/
theorem Sending.part_take (s : Sending) (n : ℕ) :
    s.part.take (min n s.part.length) = s.rest.take (min n s.part.length) := by
  unfold Sending.part Sending.rest
  cases s.parts with
  | nil => simp
  | cons part parts =>
    rw [List.headD_cons, List.flatten_cons, List.take_append_of_le_length (by omega)]

/-- Threads that are where they were. -/
theorem SharedWire.Owing.sending_of_eq (h : w.Owing) {w' : SharedWire} (hown : w'.own = w.own)
    (hframe : w'.frame = w.frame) (thread : WireThread) : ∀ s ∈ w'.sending thread, s.Valid := by
  have hsending : w'.sending thread = w.sending thread := by
    cases thread with
    | own => exact hown
    | frame => exact hframe
  exact hsending ▸ h.sending thread

/-- Another place of a thread. -/
theorem SharedWire.Owing.setSending (h : w.Owing) {next : Option Sending}
    (hnext : ∀ s ∈ next, s.Valid) (thread : WireThread) : (w.setSending next thread).Owing := by
  have hsending : ∀ other, ∀ s ∈ (w.setSending next thread).sending other, s.Valid := by
    intro other s hs
    rw [w.sending_setSending] at hs
    split_ifs at hs
    · exact hnext s hs
    · exact h.sending other s hs
  cases thread <;> exact ⟨h.bytes, h.chunks, hsending, h.chunkSize⟩

/-- Chunks of other streams do not appear on a stream. -/
theorem filter_begun_ne {id : UInt8} {c : WrittenChunk} (hid : id ≠ c.id)
    (begun : List WrittenChunk) :
    (begun ++ [c]).filter (·.id = id) = begun.filter (·.id = id) := by
  rw [List.filter_append, List.filter_singleton, decide_eq_false (Ne.symm hid), cond_false,
    List.append_nil]

/-- The chunk is the last one of its stream. -/
theorem filter_begun_self (begun : List WrittenChunk) (c : WrittenChunk) :
    (begun ++ [c]).filter (·.id = c.id) = begun.filter (·.id = c.id) ++ [c] := by
  rw [List.filter_append, List.filter_singleton, decide_eq_true rfl, cond_true]

/-- The chunk streams after a chunk is begun where it belongs. -/
theorem SharedWire.Owing.begun_chunks (h : w.Owing) (hs : s.Valid)
    (hready : w.unfinished s.current.id =
      if s.current.isFirst then [] else s.current :: s.later) (id : UInt8) :
    ∃ messages, Owes SentMessage.chunks messages ((w.begun ++ [s.current]).filter (·.id = id))
      (Function.update w.unfinished s.current.id s.later id) := by
  obtain ⟨messages, hmessages⟩ := h.chunks id
  by_cases hid : id = s.current.id
  · subst hid
    rw [filter_begun_self, Function.update_self]
    rw [hready] at hmessages
    split_ifs at hmessages with hfirst
    · obtain ⟨m, hm⟩ := hs.first hfirst
      have hbegin := hmessages.begin m 1
      rw [hm] at hbegin
      exact ⟨messages ++ [m], hbegin⟩
    · exact ⟨messages, hmessages.resume 1⟩
  · rw [filter_begun_ne hid, Function.update_of_ne hid]
    exact ⟨messages, hmessages⟩

/-- The chunk streams after a send. -/
theorem SharedWire.Owing.beginChunk_chunks (h : w.Owing) (hs : s.Valid) (hready : w.Ready s)
    (id : UInt8) :
    ∃ messages, Owes SentMessage.chunks messages ((w.beginChunk s).begun.filter (·.id = id))
      ((w.beginChunk s).unfinished id) := by
  unfold SharedWire.beginChunk
  unfold SharedWire.Ready at hready
  by_cases hfresh : s.isFresh = true
  · rw [if_pos hfresh] at hready ⊢
    exact h.begun_chunks hs hready.2 id
  · rw [if_neg hfresh]
    exact h.chunks id

/-- What is missing of the last chunk when the connection is as expected. -/
theorem SharedWire.Ready.owed (h : w.Ready s) :
    w.owed = if s.isFresh then [] else s.rest := by
  unfold SharedWire.Ready at h
  split_ifs at h ⊢
  · exact h.1
  · exact h.1
  · exact h

/-- The bytes after a send. -/
theorem SharedWire.Owing.beginChunk_bytes (h : w.Owing) (hready : w.Ready s) (n : ℕ) :
    Owes WrittenChunk.encode (w.beginChunk s).begun (w.received ++ s.rest.take n)
      (s.rest.drop n) := by
  have hbytes := h.bytes
  rw [hready.owed] at hbytes
  unfold SharedWire.beginChunk
  split_ifs at hbytes ⊢ with hfresh
  · have hparts : s.parts = s.current.parts := by simpa [Sending.isFresh] using hfresh
    have hbegin := hbytes.begin s.current n
    rwa [WrittenChunk.encode, ← hparts] at hbegin
  · exact hbytes.resume n

/-- A chunk that is begun leaves the threads and the chunk size. -/
theorem SharedWire.beginChunk_frame (w : SharedWire) (s : Sending) :
    (w.beginChunk s).own = w.own ∧ (w.beginChunk s).frame = w.frame ∧
      (w.beginChunk s).chunkSizeOut = w.chunkSizeOut := by
  unfold SharedWire.beginChunk
  split_ifs <;> exact ⟨rfl, rfl, rfl⟩

/-- A send that takes bytes of an orderly connection. -/
theorem SharedWire.Owing.send (h : w.Owing) (thread : WireThread) (result : ℤ)
    (horderly : w.Orderly (.send thread result)) : (w.send thread result).Owing := by
  unfold SharedWire.send
  cases hsending : w.sending thread with
  | none => exact h
  | some s =>
    dsimp only
    split_ifs with hcase
    · apply h.setSending
      rintro _ ⟨⟩
    · push Not at hcase
      have hopen : w.isOpen = true := by simpa using hcase.1
      have hready := horderly hopen hcase.2 s hsending
      have hvalid := h.sending thread s hsending
      rw [s.part_take]
      obtain ⟨hown, hframe, hsize⟩ := w.beginChunk_frame s
      have hafter : SharedWire.Owing { w.beginChunk s with
          received := w.received ++ s.rest.take (min result.toNat s.part.length)
          owed := s.rest.drop (min result.toNat s.part.length) } := by
        constructor
        · exact h.beginChunk_bytes hready _
        · exact h.beginChunk_chunks hvalid hready
        · exact h.sending_of_eq hown hframe
        · exact hsize.symm ▸ h.chunkSize
      exact hafter.setSending (hvalid.advance _) thread

/-- A message that begins. -/
theorem SharedWire.Owing.beginMessage (h : w.Owing) (thread : WireThread) {m : ClientMessage}
    (hlength : m.data.length < 2 ^ 24) : (w.beginMessage thread m).Owing := by
  unfold SharedWire.beginMessage
  split_ifs with hmay hrefused
  · exact h
  · push Not at hrefused
    obtain ⟨hne, hlow, hhigh⟩ := hrefused
    rw [UInt8.not_lt] at hlow hhigh
    apply h.setSending
    exact Sending.start_valid ⟨m, w.chunkSizeOut.toNat, h.chunkSize, hlow, hhigh, hne, hlength⟩
  · exact h

/-- A command that begins. -/
theorem SharedWire.Owing.beginCommand (h : w.Owing) (isPublish : Bool) (streamId : UInt32)
    {payload : List UInt8} (hlength : payload.length < 2 ^ 24) :
    (w.beginCommand isPublish streamId payload).Owing := by
  unfold SharedWire.beginCommand
  split
  · rename_i hmay
    apply h.setSending
    cases isPublish
    · exact Sending.start_command_valid (m := ⟨3, 20, 0, 0, payload⟩)
        (show (2 : UInt8) ≤ 3 by decide) (show (3 : UInt8) ≤ 63 by decide) hmay.2 hlength
    · exact Sending.start_command_valid (m := ⟨8, 20, 0, streamId, payload⟩)
        (show (2 : UInt8) ≤ 8 by decide) (show (8 : UInt8) ≤ 63 by decide) hmay.2 hlength
  · exact h

/-- Every orderly step keeps the invariant. -/
theorem SharedWire.Owing.step (h : w.Owing) (e : WireEvent) (horderly : w.Orderly e) :
    (w.step e).Owing := by
  cases e with
  | connect =>
    unfold SharedWire.step
    dsimp only
    split_ifs
    · exact ⟨owes_nil, fun _ => ⟨[], owes_nil⟩, h.sending_of_eq rfl rfl, h.chunkSize⟩
    · exact h
  | command isPublish streamId payload => exact h.beginCommand isPublish streamId horderly
  | publish =>
    unfold SharedWire.step
    dsimp only
    split_ifs
    · exact ⟨h.bytes, h.chunks, h.sending_of_eq rfl rfl, h.chunkSize⟩
    · exact h
  | adoptChunkSize =>
    unfold SharedWire.step
    dsimp only
    split_ifs
    · exact ⟨h.bytes, h.chunks, h.sending_of_eq rfl rfl,
        lt_of_lt_of_le (by decide) w.config.chunkSize_low⟩
    · exact h
  | leave | close => exact ⟨h.bytes, h.chunks, h.sending_of_eq rfl rfl, h.chunkSize⟩
  | message thread m => exact h.beginMessage thread horderly
  | send thread result => exact h.send thread result horderly

end Steps

/-- The first chunk on an intact connection is that of a message. -/
theorem SharedWire.Intact.received_first {w : SharedWire} (h : w.Intact) (hne : w.received ≠ []) :
    ∃ (m : SentMessage) (rest : List UInt8),
      w.received <+: (ChunkType.type0.code <<< 6 ||| m.message.chunkStreamId) ::
        (m.message.header ++ rest) := by
  obtain ⟨chunks, hreceived, -, hstreams⟩ := h
  cases chunks with
  | nil => exact absurd (List.prefix_nil.mp hreceived) hne
  | cons c chunks =>
    obtain ⟨messages, hmessages⟩ := hstreams c.id
    rw [List.filter_cons, if_pos (decide_eq_true rfl)] at hmessages
    cases messages with
    | nil => exact absurd (List.prefix_nil.mp hmessages) (List.cons_ne_nil _ _)
    | cons m messages =>
      obtain ⟨data, later, hchunks, -⟩ := m.chunks_eq_cons
      rw [List.flatMap_cons, hchunks, List.cons_append, List.cons_prefix_cons] at hmessages
      obtain ⟨rfl, -⟩ := hmessages
      rw [List.flatMap_cons] at hreceived
      exact ⟨m, data ++ chunks.flatMap WrittenChunk.encode, by
        simpa [WrittenChunk.encode, WrittenChunk.parts, WrittenChunk.id] using hreceived⟩

/-- The length of the first message is not zero. -/
theorem SharedWire.Intact.received_ne {w : SharedWire} (h : w.Intact)
    (basic t₂ t₁ t₀ : UInt8) (bytes : List UInt8) :
    w.received ≠ basic :: t₂ :: t₁ :: t₀ :: 0 :: 0 :: 0 :: bytes := by
  intro hreceived
  obtain ⟨m, rest, hfirst⟩ := h.received_first (by rw [hreceived]; exact List.cons_ne_nil _ _)
  have hpos := List.length_pos_iff.mpr m.data_ne_nil
  have hlength : (UInt32.ofNat m.message.data.length).toNat = m.message.data.length := by
    have hlt := m.data_lt
    rw [UInt32.toNat_ofNat']
    omega
  have hfield := getBe24_putBe24 (hlength.symm ▸ m.data_lt)
  rw [hreceived, ClientMessage.header, messageHeader] at hfirst
  simp only [putBe24, List.cons_append, List.nil_append, List.cons_prefix_cons] at hfirst
  obtain ⟨-, -, -, -, hhigh, hmid, hlow, -⟩ := hfirst
  rw [← hhigh, ← hmid, ← hlow] at hfield
  rw [← hfield] at hlength
  exact hpos.ne hlength

/-- A configuration with the smallest chunk size. -/
def smallChunks : ClientConfig := ⟨128, by decide, by decide⟩

/-- A connection on which the commands come first, then Set Chunk Size, and then a video
message in two chunks with the audio configuration between them. -/
def orderlyMessages : List WireEvent :=
  [.connect, .command false 0 [2, 0, 1], .send .own 1, .send .own 11, .send .own 2, .send .own 1,
    .command true 1 [2, 0, 2], .send .own 1, .send .own 11, .send .own 3, .publish,
    .message .own ⟨2, 1, 0, 1, putBe32 128⟩, .send .own 1, .send .own 11, .send .own 4,
    .adoptChunkSize, .message .frame ⟨6, 9, 40, 1, List.replicate 130 0⟩, .send .frame 1,
    .send .frame 11, .send .frame 128, .message .own ⟨4, 8, 0, 1, [0xAF, 0x00, 0x12, 0x10]⟩,
    .send .own 1, .send .own 11, .send .own 4, .send .frame 1, .send .frame 2]

/-- Frames are let through while Set Chunk Size is being sent: a video message begins between
the basic header and the message header. -/
def overlappingMessages : List WireEvent :=
  [.connect, .publish, .message .own ⟨2, 1, 0, 1, putBe32 128⟩, .send .own 1,
    .message .frame ⟨6, 9, 0, 1, [0x17, 0]⟩, .send .frame 1, .send .own 11]

end RtmpClient
