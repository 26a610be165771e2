import Strero.Lib.Runs
import Strero.Rtmp.Command

/-!
# Who may publish

A publisher connects, names its stream and publishes. The configuration can ask for a certain
stream key. `rtmp_command_handle` carries out each command by itself, so what holds of a
publishing connection depends on the order of the commands.
-/

namespace Rtmp.PublishGate

open CString

/-- What `rtmp_server_config_t` says about publishers. -/
structure PublishConfig where
  authRequired : Bool
  streamKey : FixedString 256

/-- The command that a message holds. -/
def messageCommand (msg : Message) : Option Command :=
  if msg.header.messageTypeId.toNat = 20 then (rtmpCommandParse (msg.payload.getD [])).toOption
  else none

/-- The name that a command of this kind gives. -/
def named (kind : String) (command : Command) : Option (List UInt8) :=
  if command.commandName = ascii kind then command.streamName else none

/-- A connection, whether a connect command has been handled on it, and the name in the last
publish command that has been accepted. -/
structure Session where
  conn : Connection
  connected : Bool
  published : Option (List UInt8)

/-- The handshake is over. -/
def Session.start : Session where
  conn := { Connection.accepted with state := .handshakeDone }
  connected := false
  published := none

/-- `rtmp_connection_handle` passes a message on while the thread is to run. -/
def Session.step (s : Session) (msg : Message) : Session :=
  if s.conn.threadRunning then
    { conn := (rtmpMessageParse s.conn msg).1
      connected := s.connected ||
        (messageCommand msg).any fun command => command.commandName = ascii "connect"
      published := ((messageCommand msg).bind (named "publish")).or s.published }
  else s

/-- A publishing connection has connected, has given the configured key if one is required, and
keeps the name it has given. -/
def Session.Gated (config : PublishConfig) (s : Session) : Prop :=
  s.conn.publishing = true → s.connected = true ∧ ∃ name, s.published = some name ∧
    (config.authRequired = true → name = config.streamKey.bytes) ∧ s.conn.streamKey = name

/-- A name is published after connecting, fits the array and is the configured key if one is
required. No other name is played while one is published. -/
structure Session.Permits (config : PublishConfig) (s : Session) (command : Command) : Prop where
  publish : ∀ name, named "publish" command = some name → s.conn.state = .connected ∧
    (config.authRequired = true → name = config.streamKey.bytes) ∧ name.length < 256 ∧ 0 ∉ name
  play : ∀ name, named "play" command = some name → s.conn.publishing = true →
    strncpy 256 name = s.conn.streamKey

/-- While the thread is to run, only commands that are permitted come. -/
def Session.Admissible (config : PublishConfig) (s : Session) (msg : Message) : Prop :=
  s.conn.threadRunning = true → ∀ command, messageCommand msg = some command →
    s.Permits config command

/-! ### The commands -/

/-- Messages without a command leave the stream and the state alone. -/
theorem rtmpMessageParse_of_none {msg : Message} (h : messageCommand msg = none)
    (conn : Connection) :
    (rtmpMessageParse conn msg).1.state = conn.state ∧
      (rtmpMessageParse conn msg).1.publishing = conn.publishing ∧
      (rtmpMessageParse conn msg).1.streamKey = conn.streamKey := by
  unfold rtmpMessageParse
  split
  · cases controlWord msg <;> exact ⟨rfl, rfl, rfl⟩
  · cases controlWord msg <;> exact ⟨rfl, rfl, rfl⟩
  case h_3 htype =>
    unfold messageCommand at h
    rw [if_pos htype] at h
    cases hparse : rtmpCommandParse (msg.payload.getD []) with
    | ok command => simp [hparse, Except.toOption] at h
    | error e => exact ⟨rfl, rfl, rfl⟩
  · exact ⟨rfl, rfl, rfl⟩

/-- A message with a command is handled as the command. -/
theorem rtmpMessageParse_of_some {msg : Message} {command : Command}
    (h : messageCommand msg = some command) (conn : Connection) :
    rtmpMessageParse conn msg = rtmpCommandHandle conn command := by
  unfold messageCommand at h
  split at h
  case isTrue htype =>
    unfold rtmpMessageParse
    rw [htype]
    cases hparse : rtmpCommandParse (msg.payload.getD []) with
    | ok parsed =>
      rw [hparse] at h
      exact congrArg (rtmpCommandHandle conn) (Option.some.inj h)
    | error e => simp [hparse, Except.toOption] at h
  case isFalse => cases h

theorem named_of_eq {kind : String} {command : Command} (h : command.commandName = ascii kind) :
    named kind command = command.streamName := if_pos h

theorem named_of_ne {kind : String} {command : Command} (h : command.commandName ≠ ascii kind) :
    named kind command = none := if_neg h

/-- What a command does to the state and the stream. -/
theorem rtmpCommandHandle_stream (conn : Connection) (command : Command) :
    (rtmpCommandHandle conn command).1.state =
        (if command.commandName = ascii "connect" then .connected else conn.state) ∧
      (rtmpCommandHandle conn command).1.publishing =
        (if command.commandName = ascii "deleteStream" then false
          else conn.publishing || (named "publish" command).isSome) ∧
      (rtmpCommandHandle conn command).1.streamKey =
        (if command.commandName = ascii "deleteStream" then []
          else match (named "publish" command).or (named "play" command) with
            | some name => strncpy 256 name
            | none => conn.streamKey) := by
  unfold rtmpCommandHandle
  by_cases hconnect : command.commandName = ascii "connect"
  · obtain ⟨hpublish, hplay, hdelete⟩ : command.commandName ≠ ascii "publish" ∧
        command.commandName ≠ ascii "play" ∧ command.commandName ≠ ascii "deleteStream" := by
      rw [hconnect]
      decide
    rw [if_pos hconnect, if_pos hconnect, named_of_ne hpublish, named_of_ne hplay,
      if_neg hdelete, if_neg hdelete]
    cases findApp command.commandObject <;> simp
  rw [if_neg hconnect, if_neg hconnect]
  by_cases hcreate : command.commandName = ascii "createStream"
  · obtain ⟨hpublish, hplay, hdelete⟩ : command.commandName ≠ ascii "publish" ∧
        command.commandName ≠ ascii "play" ∧ command.commandName ≠ ascii "deleteStream" := by
      rw [hcreate]
      decide
    rw [if_pos hcreate, named_of_ne hpublish, named_of_ne hplay, if_neg hdelete, if_neg hdelete]
    simp
  rw [if_neg hcreate]
  by_cases hpublish : command.commandName = ascii "publish"
  · obtain ⟨hplay, hdelete⟩ : command.commandName ≠ ascii "play" ∧
        command.commandName ≠ ascii "deleteStream" := by
      rw [hpublish]
      decide
    rw [if_pos hpublish, named_of_eq hpublish, named_of_ne hplay, if_neg hdelete, if_neg hdelete]
    cases command.streamName <;> simp
  rw [if_neg hpublish, named_of_ne hpublish]
  by_cases hplay : command.commandName = ascii "play"
  · have hdelete : command.commandName ≠ ascii "deleteStream" := by
      rw [hplay]
      decide
    rw [if_pos hplay, named_of_eq hplay, if_neg hdelete, if_neg hdelete]
    cases command.streamName <;> simp
  rw [if_neg hplay, named_of_ne hplay]
  by_cases hdelete : command.commandName = ascii "deleteStream"
  · rw [if_pos hdelete, if_pos hdelete, if_pos hdelete]
    exact ⟨rfl, rfl, rfl⟩
  · rw [if_neg hdelete, if_neg hdelete, if_neg hdelete]
    split <;> simp

/-! ### The runs -/

namespace Session

variable {config : PublishConfig} {s : Session}

/-- The state says whether a connect command has been handled. -/
def Tracked (s : Session) : Prop := s.connected = true ↔ s.conn.state = .connected

/-- Every step keeps track of the connect commands. -/
theorem Tracked.step (h : s.Tracked) (msg : Message) : (s.step msg).Tracked := by
  unfold Session.step
  split
  case isFalse => exact h
  unfold Tracked
  dsimp only
  cases hcommand : messageCommand msg with
  | none =>
    rw [(rtmpMessageParse_of_none hcommand s.conn).1]
    simpa [Tracked] using h
  | some command =>
    rw [rtmpMessageParse_of_some hcommand, (rtmpCommandHandle_stream s.conn command).1]
    split
    case isTrue hconnect => simp [hconnect]
    case isFalse hother => simpa [Tracked, hother] using h

/-- The session after a command. -/
theorem step_of_command (hrunning : s.conn.threadRunning = true) {msg : Message}
    {command : Command} (hcommand : messageCommand msg = some command) :
    s.step msg =
      { conn := (rtmpCommandHandle s.conn command).1
        connected := s.connected || command.commandName = ascii "connect"
        published := (named "publish" command).or s.published } := by
  unfold Session.step
  rw [if_pos hrunning, rtmpMessageParse_of_some hcommand, hcommand]
  rfl

/-- A name may be published exactly if it is gated afterwards. -/
theorem Tracked.publish_iff (htracked : s.Tracked) {msg : Message} {command : Command}
    (hcommand : messageCommand msg = some command) (hrunning : s.conn.threadRunning = true)
    {name : List UInt8} (hname : named "publish" command = some name) :
    (s.step msg).Gated config ↔ s.conn.state = .connected ∧
      (config.authRequired = true → name = config.streamKey.bytes) ∧ name.length < 256 ∧
        0 ∉ name := by
  have hkind : command.commandName = ascii "publish" := by
    by_contra hother
    simp [named_of_ne hother] at hname
  obtain ⟨hconnect, hdelete⟩ : command.commandName ≠ ascii "connect" ∧
      command.commandName ≠ ascii "deleteStream" := by
    rw [hkind]
    decide
  obtain ⟨-, hpublishing, hkey⟩ := rtmpCommandHandle_stream s.conn command
  rw [if_neg hdelete, hname] at hpublishing hkey
  rw [step_of_command hrunning hcommand]
  unfold Gated
  dsimp only
  rw [hpublishing, hkey, hname, ← strncpy_eq_self_iff (by decide) name,
    ← show s.connected = true ↔ s.conn.state = .connected from htracked]
  simp only [Option.isSome_some, Bool.or_true, Option.some_or, hconnect, decide_false,
    Bool.or_false, forall_const]
  refine and_congr_right fun _ => ⟨?_, fun ⟨hauth, hsame⟩ => ⟨name, rfl, hauth, hsame⟩⟩
  rintro ⟨other, hother, hauth, hsame⟩
  obtain rfl := Option.some.inj hother
  exact ⟨hauth, hsame⟩

/-- A name may be played while one is published exactly if it is the same. -/
theorem Gated.play_iff (hgated : s.Gated config) {msg : Message} {command : Command}
    (hcommand : messageCommand msg = some command) (hrunning : s.conn.threadRunning = true)
    {name : List UInt8} (hname : named "play" command = some name) :
    (s.step msg).Gated config ↔
      (s.conn.publishing = true → strncpy 256 name = s.conn.streamKey) := by
  have hkind : command.commandName = ascii "play" := by
    by_contra hother
    simp [named_of_ne hother] at hname
  obtain ⟨hconnect, hpublish, hdelete⟩ : command.commandName ≠ ascii "connect" ∧
      command.commandName ≠ ascii "publish" ∧ command.commandName ≠ ascii "deleteStream" := by
    rw [hkind]
    decide
  obtain ⟨-, hpublishing, hkey⟩ := rtmpCommandHandle_stream s.conn command
  rw [if_neg hdelete, named_of_ne hpublish] at hpublishing hkey
  rw [hname] at hkey
  rw [step_of_command hrunning hcommand]
  unfold Gated
  dsimp only
  rw [hpublishing, hkey, named_of_ne hpublish]
  simp only [Option.isSome_none, Bool.or_false, Option.none_or, hconnect, decide_false]
  refine forall_congr' fun hpublishes => ?_
  obtain ⟨hconnected, published, hpublished, hauth, hsame⟩ := hgated hpublishes
  rw [hsame]
  constructor
  · rintro ⟨-, other, hother, -, hplayed⟩
    obtain rfl := Option.some.inj (hpublished.symm.trans hother)
    exact hplayed
  · exact fun hplayed => ⟨hconnected, published, hpublished, hauth, hplayed⟩

/-- Other commands keep the session gated. -/
theorem Gated.other (hgated : s.Gated config) {msg : Message} {command : Command}
    (hcommand : messageCommand msg = some command) (hrunning : s.conn.threadRunning = true)
    (hpublish : named "publish" command = none) (hplay : named "play" command = none) :
    (s.step msg).Gated config := by
  obtain ⟨-, hpublishing, hkey⟩ := rtmpCommandHandle_stream s.conn command
  rw [hpublish] at hpublishing hkey
  rw [hplay] at hkey
  rw [step_of_command hrunning hcommand]
  intro hafter
  dsimp only at hafter ⊢
  by_cases hdelete : command.commandName = ascii "deleteStream"
  · simp [hpublishing, hdelete] at hafter
  rw [if_neg hdelete] at hpublishing hkey
  rw [hpublishing, Option.isSome_none, Bool.or_false] at hafter
  obtain ⟨hconnected, name, hname, hauth, hsame⟩ := hgated hafter
  exact ⟨by simp [hconnected], name, by simpa [hpublish] using hname, hauth, hkey.trans hsame⟩

/-- A command takes a gated session to a gated one exactly if it is permitted. -/
theorem Gated.command_iff (hgated : s.Gated config) (htracked : s.Tracked) {msg : Message}
    {command : Command} (hcommand : messageCommand msg = some command)
    (hrunning : s.conn.threadRunning = true) :
    (s.step msg).Gated config ↔ s.Permits config command := by
  cases hpublish : named "publish" command with
  | some name =>
    rw [htracked.publish_iff hcommand hrunning hpublish]
    have hplay : named "play" command = none := by
      refine named_of_ne fun hkind => ?_
      have hother : command.commandName ≠ ascii "publish" := by
        rw [hkind]
        decide
      simp [named_of_ne hother] at hpublish
    constructor
    · intro hright
      refine ⟨fun other hother => ?_, fun other hother => by simp [hplay] at hother⟩
      obtain rfl := Option.some.inj (hpublish.symm.trans hother)
      exact hright
    · exact fun hpermits => hpermits.publish name hpublish
  | none =>
    cases hplay : named "play" command with
    | some name =>
      rw [hgated.play_iff hcommand hrunning hplay]
      constructor
      · intro hright
        refine ⟨fun other hother => by simp [hpublish] at hother, fun other hother => ?_⟩
        obtain rfl := Option.some.inj (hplay.symm.trans hother)
        exact hright
      · exact fun hpermits => hpermits.play name hplay
    | none =>
      refine ⟨fun _ => ⟨?_, ?_⟩, fun _ => hgated.other hcommand hrunning hpublish hplay⟩
      · exact fun name hname => by simp [hpublish] at hname
      · exact fun name hname => by simp [hplay] at hname

/-- A step takes a gated session to a gated one exactly if it is admissible. -/
theorem Gated.step_iff (hgated : s.Gated config) (htracked : s.Tracked) (msg : Message) :
    (s.step msg).Gated config ↔ s.Admissible config msg := by
  by_cases hrunning : s.conn.threadRunning = true
  · cases hcommand : messageCommand msg with
    | none =>
      obtain ⟨-, hpublishing, hkey⟩ := rtmpMessageParse_of_none hcommand s.conn
      have hafter : (s.step msg).Gated config := by
        unfold Session.step Session.Gated
        rw [if_pos hrunning]
        dsimp only
        rw [hpublishing, hkey, hcommand]
        simpa [Gated] using hgated
      exact ⟨fun _ _ command hsome => by simp [hcommand] at hsome, fun _ => hafter⟩
    | some command =>
      rw [hgated.command_iff htracked hcommand hrunning]
      constructor
      · intro hpermits _ other hother
        obtain rfl := Option.some.inj (hcommand.symm.trans hother)
        exact hpermits
      · exact fun hadmissible => hadmissible hrunning command hcommand
  · have hsame : s.step msg = s := if_neg hrunning
    rw [hsame]
    exact ⟨fun _ hruns => absurd hruns hrunning, fun _ => hgated⟩

/-- A session is gated in every state exactly if each command that is handled is permitted. -/
theorem run_gated_iff (config : PublishConfig) (messages : List Message) :
    (∀ n, ((messages.take n).foldl Session.step Session.start).Gated config) ↔
      Runs.Guarded Session.step (Session.Admissible config) Session.start messages := by
  have htracked : Session.start.Tracked := by simp [Tracked, start]
  have hgated : Session.start.Gated config := by simp [Gated, start, Connection.accepted]
  exact Runs.forall_take_iff_guarded Tracked (Gated config) (fun _ msg h => h.step msg)
    (fun _ msg htracked h => h.step_iff htracked msg) messages htracked hgated

end Session

/-- A publish command, and no connect command before it. -/
def strayPublish : Message where
  header := { ChunkHeader.zero with messageTypeId := 20 }
  payload := some (amfEncodeString (ascii "publish") ++ amfEncodeNumber 0 ++ amfEncodeNull ++
    amfEncodeString (ascii "x"))
  bytesRead := 0

/-- It is accepted. -/
theorem Session.not_run_gated :
    ¬ ∀ (config : PublishConfig) (messages : List Message),
      (messages.foldl Session.step Session.start).Gated config := by
  intro hall
  have hgated := hall ⟨true, .copy 256 size256_pos (ascii "k")⟩ [strayPublish]
    (by decide +kernel)
  exact absurd hgated.1 (by decide +kernel)

end Rtmp.PublishGate
