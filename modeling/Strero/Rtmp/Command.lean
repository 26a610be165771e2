import Strero.Rtmp.Amf
import Strero.Rtmp.Chunk

/-!
# Commands and complete messages

`rtmp_message_parse` takes a complete message. Protocol control messages change
the connection, and a command is decoded by `rtmp_command_parse` and carried
out by `rtmp_command_handle`, which may send a reply.
-/

namespace Rtmp

open Wire CString

/-! ### Parsing -/

/-- `rtmp_command_t`. The command name is a copy made by `strdup`. -/
structure Command where
  commandName : List UInt8
  transactionId : UInt64
  commandObject : AmfValue
  arguments : List AmfValue

/-- The argument loop of `rtmp_command_parse`. -/
def decodeArguments (buffer : List UInt8) : ℕ → ℕ → Except AmfFailure (List AmfValue)
  | 0, _ => .error .outOfFuel
  | fuel + 1, offset => do
    if offset ≥ buffer.length then return []
    let (argument, offset) ← amfDecodeValue buffer (buffer.length + 1) offset
    let arguments ← decodeArguments buffer fuel offset
    return argument :: arguments

/-- `rtmp_command_parse`. A missing command object stays cleared, which reads
as the number zero. -/
def rtmpCommandParse (buffer : List UInt8) : Except AmfFailure Command := do
  let (name, offset) ← amfDecodeValue buffer (buffer.length + 1) 0
  match name with
  | .string data =>
    let (transaction, offset) ← amfDecodeValue buffer (buffer.length + 1) offset
    match transaction with
    | .number transactionId =>
      let (commandObject, offset) ←
        if offset < buffer.length then amfDecodeValue buffer (buffer.length + 1) offset
        else pure (.number 0, offset)
      let arguments ← decodeArguments buffer (buffer.length + 1) offset
      return ⟨cString data, transactionId, commandObject, arguments⟩
    | _ => throw .malformed
  | _ => throw .malformed

/-! ### Replies -/

/-- The message that a reply is sent in, on chunk stream 3. -/
def responseMessage (messageStreamId : UInt32) (payload : List UInt8) : Message where
  header :=
    { fmt := .type0, chunkStreamId := 3, timestamp := 0,
      messageLength := UInt32.ofNat payload.length, messageTypeId := 20, messageStreamId }
  payload := some payload
  bytesRead := 0

/-- `rtmp_send_connect_result`. -/
def connectResult (transactionId : UInt64) (success : Bool) : Message :=
  responseMessage 0 <|
    amfEncodeString (if success then ascii "_result" else ascii "_error") ++
      amfEncodeNumber transactionId ++ amfEncodeObjectStart ++ amfEncodeObjectEnd ++ amfEncodeNull

/-- `rtmp_send_create_stream_result`. -/
def createStreamResult (transactionId streamId : UInt64) : Message :=
  responseMessage 0 <|
    amfEncodeString (ascii "_result") ++ amfEncodeNumber transactionId ++ amfEncodeNull ++
      amfEncodeNumber streamId

/-- `rtmp_send_publish_status`, and `rtmp_send_play_status`, which calls it.
The status code and the description reach the log only. -/
def publishStatus : Message :=
  responseMessage 1 <|
    amfEncodeString (ascii "onStatus") ++ amfEncodeNumber 0 ++ amfEncodeNull ++
      amfEncodeObjectStart ++ amfEncodeObjectEnd

/-! ### Handling -/

/-- The double 1.0. -/
def doubleOne : UInt64 := 0x3FF0000000000000

/-- The first property named `app` with a string value, as the loop over the
command object finds it. -/
def findApp : AmfValue → Option (List UInt8)
  | .object properties =>
    properties.findSome? fun (name, value) =>
      if cString name = ascii "app" then
        match value with
        | .string data => some data
        | _ => none
      else none
  | _ => none

/-- The stream name in the first argument, if it is a string. -/
def Command.streamName (command : Command) : Option (List UInt8) :=
  match command.arguments with
  | .string data :: _ => some data
  | _ => none

/-- `rtmp_command_handle`: the connection after the command and the message
handed to `rtmp_chunk_write`, if any. -/
def rtmpCommandHandle (conn : Connection) (command : Command) : Connection × Option Message :=
  if command.commandName = ascii "connect" then
    let conn :=
      match findApp command.commandObject with
      | some data => { conn with appName := strncpy 256 data }
      | none => conn
    ({ conn with state := .connected }, some (connectResult command.transactionId true))
  else if command.commandName = ascii "createStream" then
    (conn, some (createStreamResult command.transactionId doubleOne))
  else if command.commandName = ascii "publish" then
    match command.streamName with
    | some data =>
      ({ conn with streamKey := strncpy 256 data, publishing := true }, some publishStatus)
    | none => (conn, some publishStatus)
  else if command.commandName = ascii "play" then
    match command.streamName with
    | some data => ({ conn with streamKey := strncpy 256 data }, some publishStatus)
    | none => (conn, some publishStatus)
  else if command.commandName = ascii "deleteStream" then
    ({ conn with publishing := false, streamKey := [] }, none)
  else if command.commandName = ascii "close" then
    ({ conn with threadRunning := false }, none)
  else (conn, none)

/-- The big-endian word in the first four bytes of a control message. -/
def controlWord (msg : Message) : Option UInt32 :=
  if msg.header.messageLength ≥ 4 then
    match msg.payload with
    | some (b0 :: b1 :: b2 :: b3 :: _) => some (getBe32 b0 b1 b2 b3)
    | _ => none
  else none

/-- `rtmp_message_parse`, by message type. -/
def rtmpMessageParse (conn : Connection) (msg : Message) : Connection × Option Message :=
  match msg.header.messageTypeId.toNat with
  | 1 =>
    match controlWord msg with
    | some chunkSize => ({ conn with chunkSizeIn := chunkSize }, none)
    | none => (conn, none)
  | 5 =>
    match controlWord msg with
    | some windowSize => ({ conn with windowAckSize := windowSize }, none)
    | none => (conn, none)
  | 20 =>
    match rtmpCommandParse (msg.payload.getD []) with
    | .ok command => rtmpCommandHandle conn command
    | .error _ => (conn, none)
  | _ => (conn, none)

/-! ### What a message can change -/

/-- The payload is an AMF0 command named `close`. -/
def isCloseCommand (payload : List UInt8) : Bool :=
  match rtmpCommandParse payload with
  | .ok command => command.commandName = ascii "close"
  | .error _ => false

/-- The message ends the connection's loop. -/
def Message.closes (msg : Message) : Bool :=
  msg.header.messageTypeId = 20 && isCloseCommand (msg.payload.getD [])

theorem rtmpCommandHandle_chunkSizeIn (conn : Connection) (command : Command) :
    (rtmpCommandHandle conn command).1.chunkSizeIn = conn.chunkSizeIn := by
  unfold rtmpCommandHandle
  split_ifs
  · cases findApp command.commandObject <;> rfl
  · rfl
  · cases command.streamName <;> rfl
  · cases command.streamName <;> rfl
  all_goals rfl

/-- Only `close` stops the thread. -/
theorem rtmpCommandHandle_threadRunning (conn : Connection) (command : Command) :
    (rtmpCommandHandle conn command).1.threadRunning =
      (conn.threadRunning && command.commandName ≠ ascii "close") := by
  unfold rtmpCommandHandle
  split_ifs with hconnect hcreate hpublish hplay hdelete hclose
  · have hne : command.commandName ≠ ascii "close" := by rw [hconnect]; decide
    cases findApp command.commandObject <;> simp [hne]
  · have hne : command.commandName ≠ ascii "close" := by rw [hcreate]; decide
    simp [hne]
  · have hne : command.commandName ≠ ascii "close" := by rw [hpublish]; decide
    cases command.streamName <;> simp [hne]
  · have hne : command.commandName ≠ ascii "close" := by rw [hplay]; decide
    cases command.streamName <;> simp [hne]
  · have hne : command.commandName ≠ ascii "close" := by rw [hdelete]; decide
    simp [hne]
  · simp [hclose]
  · simp [hclose]

/-- Only Set Chunk Size changes the reader's chunk size. -/
theorem rtmpMessageParse_chunkSizeIn {msg : Message} (h : msg.header.messageTypeId ≠ 1)
    (conn : Connection) : (rtmpMessageParse conn msg).1.chunkSizeIn = conn.chunkSizeIn := by
  have hne : msg.header.messageTypeId.toNat ≠ 1 := fun heq => h (UInt8.toNat_inj.mp heq)
  unfold rtmpMessageParse
  split
  · exact absurd ‹_› hne
  · cases controlWord msg <;> rfl
  · cases rtmpCommandParse (msg.payload.getD []) with
    | ok command => exact rtmpCommandHandle_chunkSizeIn conn command
    | error e => rfl
  · rfl

/-- Only a close command stops the thread. -/
theorem rtmpMessageParse_threadRunning (conn : Connection) (msg : Message) :
    (rtmpMessageParse conn msg).1.threadRunning = (conn.threadRunning && !msg.closes) := by
  unfold rtmpMessageParse Message.closes isCloseCommand
  have htype : msg.header.messageTypeId = 20 ↔ msg.header.messageTypeId.toNat = 20 :=
    ⟨fun h => by rw [h]; rfl, fun h => UInt8.toNat_inj.mp h⟩
  split
  · rename_i h
    cases controlWord msg <;> simp [htype, h]
  · rename_i h
    cases controlWord msg <;> simp [htype, h]
  · rename_i h
    cases rtmpCommandParse (msg.payload.getD []) with
    | ok command => simp [htype, h, rtmpCommandHandle_threadRunning]
    | error e => simp
  · rename_i h
    have hne : ¬ msg.header.messageTypeId.toNat = 20 := h
    simp [htype, hne]

end Rtmp
