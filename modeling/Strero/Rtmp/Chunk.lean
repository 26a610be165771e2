import Mathlib.Logic.Function.Basic
import Strero.Rtmp.ChunkHeader

/-!
# Reading and writing chunks

`rtmp_chunk_read` reads one chunk into a message and `rtmp_chunk_write` splits
a message into chunks. The table of last headers is a static array of the
reader, so it is passed in and out next to the connection and is shared by all
connections of the server.
-/

namespace Rtmp

open Wire

/-- `rtmp_state_t`. -/
inductive ConnectionState
  | uninitialized | versionSent | ackSent | handshakeDone | connected
deriving DecidableEq, Repr

/-- The fields of `rtmp_connection_t` that the message path reads or writes.
The two names are C strings. -/
structure Connection where
  state : ConnectionState
  chunkSizeIn : UInt32
  chunkSizeOut : UInt32
  windowAckSize : UInt32
  appName : List UInt8
  streamKey : List UInt8
  publishing : Bool
  threadRunning : Bool
deriving DecidableEq, Repr

/-- `RTMP_DEFAULT_CHUNK_SIZE`. -/
def defaultChunkSize : UInt32 := 65536

/-- The connection that `rtmp_accept_thread` initializes. -/
def Connection.accepted : Connection where
  state := .uninitialized
  chunkSizeIn := defaultChunkSize
  chunkSizeOut := defaultChunkSize
  windowAckSize := 2500000
  appName := []
  streamKey := []
  publishing := false
  threadRunning := true

/-- `rtmp_message_t`. The payload is the part of the buffer filled so far, and
`none` is the null pointer. -/
structure Message where
  header : ChunkHeader
  payload : Option (List UInt8)
  bytesRead : UInt32
deriving DecidableEq, Repr

/-- The message that `memset` leaves. -/
def Message.zero : Message := ⟨.zero, none, 0⟩

/-- `last_headers[64]`. -/
abbrev LastHeaders := Fin 64 → ChunkHeader

/-- A static array starts out zeroed. -/
def LastHeaders.zero : LastHeaders := fun _ => .zero

/-! ### Reading -/

/-- The fields that a chunk of type 1, 2 or 3 takes from the table, for the
ids that the table covers. -/
def inheritHeader (lastHeaders : LastHeaders) (header : ChunkHeader) : ChunkHeader :=
  if h : header.chunkStreamId.toNat < 64 then
    let last := lastHeaders ⟨header.chunkStreamId.toNat, h⟩
    match header.fmt with
    | .type0 => header
    | .type1 => { header with messageStreamId := last.messageStreamId }
    | .type2 =>
      { header with
        messageLength := last.messageLength
        messageTypeId := last.messageTypeId
        messageStreamId := last.messageStreamId }
    | .type3 =>
      { header with
        timestamp := last.timestamp
        messageLength := last.messageLength
        messageTypeId := last.messageTypeId
        messageStreamId := last.messageStreamId }
  else header

/-- Inheriting does not change the chunk stream id. -/
theorem inheritHeader_chunkStreamId (table : LastHeaders) (fields : ChunkHeader) :
    (inheritHeader table fields).chunkStreamId = fields.chunkStreamId := by
  unfold inheritHeader
  split_ifs
  · cases fields.fmt <;> rfl
  · rfl

/-- The store into the table. -/
def storeHeader (lastHeaders : LastHeaders) (header : ChunkHeader) : LastHeaders :=
  if h : header.chunkStreamId.toNat < 64 then
    Function.update lastHeaders ⟨header.chunkStreamId.toNat, h⟩ header
  else lastHeaders

/-- The table after a header is stored. -/
theorem storeHeader_apply (lastHeaders : LastHeaders) (header : ChunkHeader) (id : Fin 64) :
    storeHeader lastHeaders header id =
      if header.chunkStreamId.toNat = id then header else lastHeaders id := by
  unfold storeHeader
  split_ifs with hlow heq heq
  · obtain rfl : id = ⟨header.chunkStreamId.toNat, hlow⟩ := Fin.ext heq.symm
    rw [Function.update_self]
  · rw [Function.update_of_ne fun hid => heq (Fin.ext_iff.mp hid).symm]
  · exact absurd (heq ▸ id.isLt) hlow
  · rfl

/-- The results of `rtmp_chunk_read`: 0, -1, 1 and 2. -/
inductive ChunkResult
  | closed
  | failed
  | complete (msg : Message)
  | incomplete (msg : Message)
deriving DecidableEq, Repr

/-- The number of data bytes that the reader expects after a header. -/
def chunkDataSize (conn : Connection) (header : ChunkHeader) (bytesRead : UInt32) : UInt32 :=
  let size := header.messageLength - bytesRead
  if size > conn.chunkSizeIn then conn.chunkSizeIn else size

/-- `rtmp_chunk_read`, with the table before and after and the input left over.
Allocations succeed. The message of the caller is cleared before anything is
read. -/
def rtmpChunkRead (lastHeaders : LastHeaders) (conn : Connection) (_msg : Message)
    (input : List UInt8) : ChunkResult × LastHeaders × List UInt8 :=
  let msg := Message.zero
  match rtmpReadChunkHeader msg.header input with
  | .closed => (.closed, lastHeaders, [])
  | .failed => (.failed, lastHeaders, [])
  | .ok header rest =>
    let header := inheritHeader lastHeaders header
    let lastHeaders := storeHeader lastHeaders header
    let size := chunkDataSize conn header msg.bytesRead
    match takeExact size.toNat rest with
    | none => (.failed, lastHeaders, [])
    | some (data, rest) =>
      let msg := { msg with
        header
        payload := some (msg.payload.getD [] ++ data)
        bytesRead := msg.bytesRead + size }
      if msg.bytesRead ≥ header.messageLength then (.complete msg, lastHeaders, rest)
      else (.incomplete msg, lastHeaders, rest)

/-! ### Writing -/

/-- The loop of `rtmp_chunk_write`, one list of bytes for each chunk: the first
chunk is of type 0 and the others of type 3. There is no result when the fuel
runs out before the message does. -/
def chunkWriteLoop (chunkSizeOut : UInt32) (header : ChunkHeader) (payload : List UInt8) :
    ℕ → UInt32 → Option (List (List UInt8))
  | fuel, bytesWritten =>
    if bytesWritten < header.messageLength then
      match fuel with
      | 0 => none
      | fuel + 1 =>
        let remaining := header.messageLength - bytesWritten
        let size := if remaining > chunkSizeOut then chunkSizeOut else remaining
        let fmt := if bytesWritten = 0 then ChunkType.type0 else .type3
        let data := (payload.drop bytesWritten.toNat).take size.toNat
        (chunkWriteLoop chunkSizeOut header payload fuel (bytesWritten + size)).map
          ((rtmpWriteChunkHeader header fmt ++ data) :: ·)
    else some []

/-- The chunks that `rtmp_chunk_write` sends when every send succeeds. It
refuses a message without payload. -/
def rtmpChunkWrite (conn : Connection) (msg : Message) : Option (List (List UInt8)) :=
  match msg.payload with
  | none => none
  | some payload =>
    if msg.header.messageLength = 0 then none
    else chunkWriteLoop conn.chunkSizeOut msg.header payload msg.header.messageLength.toNat 0

end Rtmp
