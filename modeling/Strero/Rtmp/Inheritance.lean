import Strero.Lib.Runs
import Strero.Rtmp.ChunkStream
import Strero.Rtmp.ConnectionThread

/-!
# Chunk header inheritance

The headers that successive calls of `rtmp_chunk_read` attribute to the chunks
of one connection are compared with the headers the protocol attributes to
them. The reader adds a timestamp delta to zero instead of the previous
timestamp, inherits nothing on ids from 64 on, never reads the extended
timestamp of a type 3 chunk, and expects the data of a whole message in every
chunk. The main theorem assumes of each chunk only that none of this shows.
-/

namespace Rtmp

open ChunkStream Wire

/-- A chunk on the wire, and the reader's chunk size when it is read. -/
structure SentChunk where
  fields : Fields
  data : List UInt8
  chunkSizeIn : UInt32

/-- What the protocol remembers of every chunk stream. -/
abbrev StreamStates := UInt32 → Option StreamState

/-- The protocol's states after a chunk. -/
def advanceStreams (states : StreamStates) (f : Fields) : StreamStates :=
  Function.update states f.csId (advance (states f.csId) f)

/-- The headers that the protocol attributes to a sequence of chunks. -/
def protocolHeaders : StreamStates → List SentChunk → List Header
  | _, [] => []
  | states, c :: chunks =>
    ((advance (states c.fields.csId) c.fields).map (·.header)).toList ++
      protocolHeaders (advanceStreams states c.fields) chunks

/-- The bytes of a sequence of chunks. -/
def encodeChunks : StreamStates → List SentChunk → List UInt8
  | _, [] => []
  | states, c :: chunks =>
    encodeHeader (states c.fields.csId) c.fields ++ c.data ++
      encodeChunks (advanceStreams states c.fields) chunks

/-- The header of the protocol in the server's structure. -/
def ChunkHeader.toHeader (h : ChunkHeader) : Header :=
  ⟨h.timestamp, h.messageLength, h.messageTypeId, h.messageStreamId⟩

/-- The headers that successive calls of `rtmp_chunk_read` attribute to the
chunks on their input, one call for each chunk size. -/
def attributedHeaders (conn : Connection) : LastHeaders → List UInt32 → List UInt8 → List Header
  | _, [], _ => []
  | lastHeaders, chunkSizeIn :: sizes, input =>
    match rtmpChunkRead lastHeaders { conn with chunkSizeIn } .zero input with
    | (.complete msg, lastHeaders, rest) =>
      msg.header.toHeader :: attributedHeaders conn lastHeaders sizes rest
    | (.incomplete msg, lastHeaders, rest) =>
      msg.header.toHeader :: attributedHeaders conn lastHeaders sizes rest
    | _ => []

/-! ### One chunk -/

/-- The fields that a chunk takes over from the previous header of its chunk
stream, with the others blanked. -/
def inheritedPart (fmt : ChunkType) (h : Header) : Header :=
  match fmt with
  | .type0 => ⟨0, 0, 0, 0⟩
  | .type1 => ⟨0, 0, 0, h.streamId⟩
  | .type2 => ⟨0, h.length, h.typeId, h.streamId⟩
  | .type3 => h

/-- The inheritance that the reader performs is the protocol's for this chunk:
a delta is added to a previous timestamp of zero, and on the ids outside the
table there is nothing but zeros to inherit. -/
def InheritsWell (prev : Header) (f : Fields) : Prop :=
  (f.fmt = .type1 ∨ f.fmt = .type2 → prev.timestamp = 0) ∧
    (64 ≤ f.csId.toNat → inheritedPart f.fmt prev = ⟨0, 0, 0, 0⟩)

/-- The table holds the protocol's headers for the ids it covers. -/
def TableAgrees (lastHeaders : LastHeaders) (states : StreamStates) : Prop :=
  ∀ id (hid : id.toNat < 64) s, states id = some s →
    (lastHeaders ⟨id.toNat, hid⟩).toHeader = s.header

/-- The header that the reader attributes to a chunk. -/
def attributedHeader (lastHeaders : LastHeaders) (f : Fields) : ChunkHeader :=
  inheritHeader lastHeaders (ChunkHeader.zero.absorb f.fmt f.chunkHeader)

theorem attributedHeader_chunkStreamId (lastHeaders : LastHeaders) (f : Fields) :
    (attributedHeader lastHeaders f).chunkStreamId = f.csId := by
  rw [attributedHeader, inheritHeader_chunkStreamId]
  cases hfmt : f.fmt <;> rfl

/-- The header of a chunk whose inherited fields come from `last` and whose
timestamp is taken as it stands. -/
def mergedHeader (last : Header) (f : Fields) : Header :=
  match f.fmt with
  | .type0 => ⟨f.time, f.length, f.typeId, f.streamId⟩
  | .type1 => ⟨f.time, f.length, f.typeId, last.streamId⟩
  | .type2 => ⟨f.time, last.length, last.typeId, last.streamId⟩
  | .type3 => last

/-- Below 64 the reader merges with the table. -/
theorem attributedHeader_low (lastHeaders : LastHeaders) {f : Fields}
    (hid : f.csId.toNat < 64) :
    (attributedHeader lastHeaders f).toHeader =
      mergedHeader (lastHeaders ⟨f.csId.toNat, hid⟩).toHeader f := by
  cases hfmt : f.fmt <;>
    simp [attributedHeader, inheritHeader, ChunkHeader.absorb, Fields.chunkHeader, hfmt, hid,
      mergedHeader, ChunkHeader.toHeader, ChunkHeader.zero]

/-- From 64 on it merges with zeros. -/
theorem attributedHeader_high (lastHeaders : LastHeaders) {f : Fields}
    (hid : ¬ f.csId.toNat < 64) :
    (attributedHeader lastHeaders f).toHeader = mergedHeader ⟨0, 0, 0, 0⟩ f := by
  cases hfmt : f.fmt <;>
    simp [attributedHeader, inheritHeader, ChunkHeader.absorb, Fields.chunkHeader, hfmt, hid,
      mergedHeader, ChunkHeader.toHeader, ChunkHeader.zero]

/-- With an agreeing table the reader attributes the protocol's header to a
chunk exactly when its inheritance is the protocol's. -/
theorem attributedHeader_eq_iff {lastHeaders : LastHeaders} {states : StreamStates}
    (hagree : TableAgrees lastHeaders states) {f : Fields} {s : StreamState}
    (hnext : advance (states f.csId) f = some s) :
    (attributedHeader lastHeaders f).toHeader = s.header ↔
      ∀ prev, states f.csId = some prev → InheritsWell prev.header f := by
  have hmerged : ∃ last, (attributedHeader lastHeaders f).toHeader = mergedHeader last f ∧
      ∀ prev, states f.csId = some prev →
        (f.csId.toNat < 64 → last = prev.header) ∧ (64 ≤ f.csId.toNat → last = ⟨0, 0, 0, 0⟩) := by
    by_cases hid : f.csId.toNat < 64
    · exact ⟨_, attributedHeader_low lastHeaders hid, fun prev hprev =>
        ⟨fun _ => hagree f.csId hid prev hprev, fun h => by omega⟩⟩
    · exact ⟨_, attributedHeader_high lastHeaders hid, fun prev _ =>
        ⟨fun h => absurd h hid, fun _ => rfl⟩⟩
  obtain ⟨last, hattributed, hlast⟩ := hmerged
  rw [hattributed]
  cases hprev : states f.csId with
  | none =>
    rw [hprev] at hnext
    cases hfmt : f.fmt <;> simp [advance, hfmt] at hnext
    simp [← hnext, mergedHeader, hfmt]
  | some prev =>
    obtain ⟨hlow, hhigh⟩ := hlast prev hprev
    rw [hprev] at hnext
    by_cases hid : f.csId.toNat < 64
    · rw [hlow hid]
      have hnot : ¬ 64 ≤ f.csId.toNat := by omega
      cases hfmt : f.fmt <;> simp [advance, hfmt] at hnext <;>
        simp [← hnext, mergedHeader, hfmt, InheritsWell, hnot]
    · rw [hhigh (by omega)]
      have hge : 64 ≤ f.csId.toNat := by omega
      cases hfmt : f.fmt <;> simp [advance, hfmt] at hnext <;>
        simp [← hnext, mergedHeader, hfmt, InheritsWell, hge, inheritedPart, Header.ext_iff,
          @eq_comm UInt32 0, @eq_comm UInt8 0]

/-- Storing the attributed header keeps the table in agreement. -/
theorem TableAgrees.store {lastHeaders : LastHeaders} {states : StreamStates}
    (hagree : TableAgrees lastHeaders states) {f : Fields} {s : StreamState}
    (hnext : advance (states f.csId) f = some s)
    (hheader : (attributedHeader lastHeaders f).toHeader = s.header) :
    TableAgrees (storeHeader lastHeaders (attributedHeader lastHeaders f))
      (advanceStreams states f) := by
  intro id hid s' hs'
  rw [storeHeader_apply, attributedHeader_chunkStreamId]
  by_cases heq : id = f.csId
  · subst id
    rw [advanceStreams, Function.update_self, hnext] at hs'
    obtain rfl := Option.some.inj hs'
    rw [if_pos rfl, hheader]
  · rw [advanceStreams, Function.update_of_ne heq] at hs'
    rw [if_neg fun hsame => heq (UInt32.toNat_inj.mp hsame).symm]
    exact hagree id hid s' hs'

/-! ### Sequences of chunks -/

/-- The chunk is one the protocol allows here. -/
def Allowed (states : StreamStates) (c : SentChunk) : Prop :=
  c.fields.WellFormed ∧ (advance (states c.fields.csId) c.fields).isSome = true

/-- After the part of the header that the reader understands there are as many
bytes as it takes for data: the smaller of the message length and its chunk
size. -/
def ReadsWhole (states : StreamStates) (c : SentChunk) : Prop :=
  ∀ s, advance (states c.fields.csId) c.fields = some s →
    (unreadHeader (states c.fields.csId) c.fields ++ c.data).length =
      min s.header.length.toNat c.chunkSizeIn.toNat

/-- Neither the reader's inheritance nor its reading of the data differs from
the protocol at this chunk. -/
def ReadsWell (states : StreamStates) (c : SentChunk) : Prop :=
  (∀ prev, states c.fields.csId = some prev → InheritsWell prev.header c.fields) ∧
    ReadsWhole states c

/-- The step of the protocol's states over sent chunks. -/
def streamStep (states : StreamStates) (c : SentChunk) : StreamStates :=
  advanceStreams states c.fields

/-- The reader's data size is the smaller of the two sizes. -/
theorem chunkDataSize_toNat (conn : Connection) (header : ChunkHeader) :
    (chunkDataSize conn header 0).toNat =
      min header.messageLength.toNat conn.chunkSizeIn.toNat := by
  unfold chunkDataSize
  simp only [UInt32.sub_zero]
  split_ifs with h
  · have := UInt32.lt_iff_toNat_lt.mp h
    omega
  · have := mt UInt32.lt_iff_toNat_lt.mpr h
    omega

/-- One call on an allowed chunk that reads well attributes the protocol's
header, stores it, and leaves the following chunks on the input. -/
theorem rtmpChunkRead_encode {lastHeaders : LastHeaders} {states : StreamStates}
    (hagree : TableAgrees lastHeaders states) {c : SentChunk} (hallowed : Allowed states c)
    (hwell : ReadsWell states c) (conn : Connection) (rest : List UInt8) :
    ∃ s msg, advance (states c.fields.csId) c.fields = some s ∧ msg.header.toHeader = s.header ∧
      TableAgrees (storeHeader lastHeaders msg.header) (streamStep states c) ∧
      rtmpChunkRead lastHeaders { conn with chunkSizeIn := c.chunkSizeIn } .zero
          (encodeHeader (states c.fields.csId) c.fields ++ c.data ++ rest) =
        (if msg.bytesRead ≥ msg.header.messageLength then .complete msg else .incomplete msg,
         storeHeader lastHeaders msg.header, rest) := by
  obtain ⟨hwf, hsome⟩ := hallowed
  obtain ⟨s, hnext⟩ := Option.isSome_iff_exists.mp hsome
  have hheader := (attributedHeader_eq_iff hagree hnext).mpr hwell.1
  have hread := rtmpReadChunkHeader_encode .zero (states c.fields.csId) hwf (c.data ++ rest)
  rw [← List.append_assoc, ← List.append_assoc] at hread
  have hlength : (attributedHeader lastHeaders c.fields).messageLength = s.header.length :=
    congrArg Header.length hheader
  have hdata : (unreadHeader (states c.fields.csId) c.fields ++ c.data).length =
      (chunkDataSize { conn with chunkSizeIn := c.chunkSizeIn }
        (attributedHeader lastHeaders c.fields) 0).toNat := by
    rw [hwell.2 s hnext, chunkDataSize_toNat, hlength]
  exact ⟨s, readMessage (attributedHeader lastHeaders c.fields) _ _, hnext, hheader,
    hagree.store hnext hheader, rtmpChunkRead_of_header hread rfl rfl hdata .zero⟩

/-- Over any sequence of allowed chunks that all read well, the headers the
reader attributes are those of the protocol. The induction carries the
agreement of the table. -/
theorem attributedHeaders_encodeChunks {chunks : List SentChunk} {lastHeaders : LastHeaders}
    {states : StreamStates} (hagree : TableAgrees lastHeaders states)
    (hallowed : Runs.Guarded streamStep Allowed states chunks)
    (hwell : Runs.Guarded streamStep ReadsWell states chunks) (conn : Connection) :
    attributedHeaders conn lastHeaders (chunks.map (·.chunkSizeIn)) (encodeChunks states chunks) =
      protocolHeaders states chunks := by
  induction chunks generalizing lastHeaders states with
  | nil => rfl
  | cons c chunks ih =>
    obtain ⟨s, msg, hnext, hheader, hagree', hread⟩ :=
      rtmpChunkRead_encode hagree hallowed.1 hwell.1 conn
        (encodeChunks (advanceStreams states c.fields) chunks)
    have hrest := ih hagree' hallowed.2 hwell.2
    rw [List.map_cons, encodeChunks, attributedHeaders, hread, protocolHeaders, hnext]
    by_cases hdone : msg.bytesRead ≥ msg.header.messageLength
    · simp only [if_pos hdone, hheader, Option.map_some, Option.toList_some,
        List.singleton_append]
      exact congrArg _ hrest
    · simp only [if_neg hdone, hheader, Option.map_some, Option.toList_some,
        List.singleton_append]
      exact congrArg _ hrest

/-- The chunk streams of a connection before its first chunk. -/
def noStreams : StreamStates := fun _ => none

/-- On a new connection every sequence of allowed chunks that all read well is
attributed the headers of the protocol, whatever the table held before. -/
theorem attributedHeaders_eq_protocolHeaders {chunks : List SentChunk}
    (hallowed : Runs.Guarded streamStep Allowed noStreams chunks)
    (hwell : Runs.Guarded streamStep ReadsWell noStreams chunks) (conn : Connection)
    (lastHeaders : LastHeaders) :
    attributedHeaders conn lastHeaders (chunks.map (·.chunkSizeIn))
        (encodeChunks noStreams chunks) = protocolHeaders noStreams chunks :=
  attributedHeaders_encodeChunks (fun _ _ _ h => by cases h) hallowed hwell conn

/-- A one-byte video message with a full header, followed by one that gives a
timestamp delta. -/
def videoAndDelta (timestamp delta : UInt32) : List SentChunk :=
  [⟨⟨.type0, 4, timestamp, 1, 9, 1, false⟩, [0x17], 128⟩,
   ⟨⟨.type1, 4, delta, 1, 9, 0, false⟩, [0x27], 128⟩]

private theorem videoAndDelta_allowed (timestamp delta : UInt32) :
    Runs.Guarded streamStep Allowed noStreams (videoAndDelta timestamp delta) :=
  ⟨⟨⟨by simp, by simp, by simp⟩, rfl⟩, ⟨⟨by simp, by simp, by simp⟩, by
    simp [streamStep, advanceStreams, advance]⟩, trivial⟩

private theorem videoAndDelta_readsWhole (timestamp delta : UInt32) :
    Runs.Guarded streamStep ReadsWhole noStreams (videoAndDelta timestamp delta) := by
  refine ⟨fun s hs => ?_, fun s hs => ?_, trivial⟩
  · obtain rfl := Option.some.inj hs
    simp [unreadHeader]
  · simp only [streamStep, advanceStreams, advance, Function.update_self, Option.map_some,
      Option.some.injEq] at hs
    subst hs
    simp [unreadHeader]

/-- From timestamp 0 the delta is added correctly. -/
theorem attributedHeaders_videoAndDelta :
    attributedHeaders .accepted .zero ((videoAndDelta 0 40).map (·.chunkSizeIn))
        (encodeChunks noStreams (videoAndDelta 0 40)) =
      protocolHeaders noStreams (videoAndDelta 0 40) := by
  have hwhole := videoAndDelta_readsWhole 0 40
  refine attributedHeaders_eq_protocolHeaders (videoAndDelta_allowed 0 40)
    ⟨⟨fun prev hprev => ?_, hwhole.1⟩, ⟨fun prev hprev => ?_, hwhole.2.1⟩, trivial⟩ .accepted .zero
  · cases hprev
  · simp only [streamStep, advanceStreams, advance, Function.update_self,
      Option.some.injEq] at hprev
    subst hprev
    exact ⟨fun _ => rfl, fun h => absurd h (by decide)⟩

/-- From timestamp 1000 the second message is attributed the delta alone. -/
theorem timestamp_delta_misread :
    ¬ ∀ (conn : Connection) (lastHeaders : LastHeaders) (chunks : List SentChunk),
      Runs.Guarded streamStep Allowed noStreams chunks →
      Runs.Guarded streamStep ReadsWhole noStreams chunks →
      attributedHeaders conn lastHeaders (chunks.map (·.chunkSizeIn))
          (encodeChunks noStreams chunks) = protocolHeaders noStreams chunks := by
  intro h
  have hsame := h .accepted .zero (videoAndDelta 1000 40) (videoAndDelta_allowed 1000 40)
    (videoAndDelta_readsWhole 1000 40)
  revert hsame
  decide

end Rtmp
