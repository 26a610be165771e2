import Strero.Config.Settings
import Strero.Rtsp.StreamUrls

/-!
# The RTSP server of a configuration

The module hands its own settings over to the server and adds the first two streams of the
main configuration that are enabled, each under its endpoint and with its index as channel.
-/

namespace Rtsp

open CString AuthUtils ConfigFile

/-- `rtsp_module_config_t`, within the bounds that `rtsp_module_config_validate` checks for the
clients. -/
structure ModuleConfig where
  enabled : Bool
  port : ℤ
  auth : AuthConfig
  maxClients : ℤ
  maxClients_pos : 0 < maxClients
  maxClients_le : maxClients ≤ 100
  sessionTimeout : ℕ
  sessionTimeout_pos : 0 < sessionTimeout
  sessionTimeout_lt : sessionTimeout < 2 ^ 31
  tlsEnabled : Bool

/-- What the calls of `setup_rtsp_server` give: whether there is memory for the information
about a stream, for the server and for the entry of a stream in it, the codec of a channel's
encoder if that can be asked for it, and whether the server starts. -/
structure SetupCalls where
  streamCreate : ℕ → Bool
  serverCreate : Bool
  encoder : ℕ → Option Codec
  addStream : ℕ → Bool
  start : Bool

/-- The entry for a stream. -/
def videoStream (calls : SetupCalls) (channel : ℕ) (stream : Stream) : StreamConfig where
  channel := channel
  codec := (calls.encoder channel).getD .h264
  width := .ofInt stream.width
  height := .ofInt stream.height
  fps := 30
  streamName := .copy 64 size64_pos stream.rtspEndpoint.bytes
  streamInfo := .copy 128 size128_pos stream.rtspInfo.bytes

/-- A stream that is enabled and for which there is memory. -/
def served (calls : SetupCalls) (channel : ℕ) (stream : Stream) : Bool :=
  stream.enabled && calls.addStream channel

/-- The entries for streams with the given first index. -/
def videoStreamsFrom (calls : SetupCalls) (first : ℕ) (streams : List Stream) :
    List StreamConfig :=
  (streams.zipIdx first).filterMap fun (stream, channel) =>
    if served calls channel stream then some (videoStream calls channel stream) else none

/-- The entries of the server. -/
def videoStreams (calls : SetupCalls) (streams : List Stream) : List StreamConfig :=
  videoStreamsFrom calls 0 (streams.take maxVideoStreams.toNat)

/-- `setup_rtsp_server`: the configuration and the streams of the server that runs, if there is
one. The array of streams is missing if it is empty. -/
def setupRtspServer (settings : ModuleConfig) (streams : List Stream) (serverIp : FixedString 64)
    (tableAddress : UInt32) (calls : SetupCalls) : Option Config :=
  if !settings.enabled then none
  else if streams = [] then none
  else if (streams.take maxVideoStreams.toNat).zipIdx.any fun (stream, channel) =>
      stream.enabled && !calls.streamCreate channel then none
  else if !calls.serverCreate then none
  else if !calls.start then none
  else some {
    port := settings.port
    auth := settings.auth
    maxClients := settings.maxClients
    maxClients_pos := settings.maxClients_pos
    maxClients_le := settings.maxClients_le
    sessionTimeout := settings.sessionTimeout
    sessionTimeout_pos := settings.sessionTimeout_pos
    sessionTimeout_lt := settings.sessionTimeout_lt
    tlsEnabled := settings.tlsEnabled
    streams := videoStreams calls streams
    serverIp := serverIp
    tableAddress := tableAddress }

/-- The port on which the server listens, as `htons` takes it. -/
def Config.listenPort (config : Config) : ℤ := config.port % 2 ^ 16

/-- A server that runs has the port, the streams and the address of the configuration. -/
theorem setupRtspServer_some {settings : ModuleConfig} {streams : List Stream}
    {serverIp : FixedString 64} {tableAddress : UInt32} {calls : SetupCalls} {server : Config}
    (h : setupRtspServer settings streams serverIp tableAddress calls = some server) :
    server.port = settings.port ∧ server.streams = videoStreams calls streams ∧
      server.serverIp = serverIp := by
  unfold setupRtspServer at h
  split_ifs at h
  obtain rfl := Option.some.inj h
  exact ⟨rfl, rfl, rfl⟩

/-! ### Which stream is found -/

/-- The entry of a stream has its endpoint for its name. -/
@[simp] theorem videoStream_streamName (calls : SetupCalls) (channel : ℕ) (stream : Stream) :
    (videoStream calls channel stream).streamName = stream.rtspEndpoint :=
  FixedString.copy_bytes (by decide) _

theorem videoStreamsFrom_cons (calls : SetupCalls) (first : ℕ) (stream : Stream)
    (streams : List Stream) :
    videoStreamsFrom calls first (stream :: streams) =
      if served calls first stream then
        videoStream calls first stream :: videoStreamsFrom calls (first + 1) streams
      else videoStreamsFrom calls (first + 1) streams := by
  unfold videoStreamsFrom
  rw [List.zipIdx_cons, List.filterMap_cons]
  split <;> split <;> simp_all

/-- The search tries the entry of the first stream, if that is served, and goes on. -/
theorem find?_videoStreamsFrom_cons (calls : SetupCalls) (p : StreamConfig → Bool) (first : ℕ)
    (stream : Stream) (streams : List Stream) :
    (videoStreamsFrom calls first (stream :: streams)).find? p =
      if served calls first stream && p (videoStream calls first stream) then
        some (videoStream calls first stream)
      else (videoStreamsFrom calls (first + 1) streams).find? p := by
  rw [videoStreamsFrom_cons]
  cases hserved : served calls first stream with
  | false => simp
  | true =>
    cases hp : p (videoStream calls first stream) with
    | false => simp [hp]
    | true => simp [hp]

/-- No entry has a channel before the first index. -/
theorem le_channel_of_mem (calls : SetupCalls) (first : ℕ) (streams : List Stream)
    {entry : StreamConfig} (h : entry ∈ videoStreamsFrom calls first streams) :
    (first : ℤ) ≤ entry.channel := by
  unfold videoStreamsFrom at h
  obtain ⟨⟨stream, channel⟩, hmem, hentry⟩ := List.mem_filterMap.mp h
  dsimp only at hentry
  split at hentry
  case isTrue =>
    obtain rfl := Option.some.inj hentry
    have hfirst := (List.mem_zipIdx hmem).1
    exact Int.ofNat_le.mpr hfirst
  case isFalse => cases hentry

/-- The first entry with a property has a given channel exactly if the stream of that channel is
served and has the property, and none before it is and has. -/
theorem exists_find?_videoStreamsFrom (calls : SetupCalls) (p : StreamConfig → Bool)
    (streams : List Stream) (first index : ℕ) :
    (∃ found, (videoStreamsFrom calls first streams).find? p = some found ∧
        found.channel = (first + index : ℕ)) ↔
      ∃ stream, streams[index]? = some stream ∧ served calls (first + index) stream ∧
        p (videoStream calls (first + index) stream) ∧
        ∀ earlier < index, ∀ other, streams[earlier]? = some other →
          served calls (first + earlier) other →
          p (videoStream calls (first + earlier) other) = false := by
  induction streams generalizing first index with
  | nil => simp [videoStreamsFrom]
  | cons stream streams ih =>
    rw [find?_videoStreamsFrom_cons]
    cases index with
    | zero =>
      split
      case isTrue hhit => simpa [videoStream] using hhit
      case isFalse hmiss =>
        constructor
        · rintro ⟨found, hfound, hchannel⟩
          have hlater := le_channel_of_mem calls (first + 1) streams
            (List.mem_of_find?_eq_some hfound)
          omega
        · rintro ⟨own, hown, hserved, hp, -⟩
          obtain rfl : stream = own := by simpa using hown
          rw [Nat.add_zero] at hserved hp
          simp [hserved, hp] at hmiss
    | succ index =>
      split
      case isTrue hhit =>
        rw [Bool.and_eq_true] at hhit
        constructor
        · rintro ⟨found, hfound, hchannel⟩
          obtain rfl := Option.some.inj hfound
          have hfirst : (videoStream calls first stream).channel = first := rfl
          omega
        · rintro ⟨own, -, -, -, hearlier⟩
          have hmiss := hearlier 0 (Nat.succ_pos index) stream rfl hhit.1
          rw [Nat.add_zero, hhit.2] at hmiss
          cases hmiss
      case isFalse hmiss =>
        have hnext : ∀ later, first + 1 + later = first + (later + 1) := fun later => by omega
        rw [← hnext index, ih (first + 1) index]
        refine exists_congr fun own => and_congr_right fun _ => and_congr_right fun _ =>
          and_congr_right fun _ => ⟨fun hearlier earlier hlt other hother hserved => ?_,
            fun hearlier earlier hlt other hother hserved => ?_⟩
        · cases earlier with
          | zero =>
            obtain rfl : stream = other := by simpa using hother
            rw [Nat.add_zero] at hserved ⊢
            simpa [hserved] using hmiss
          | succ earlier =>
            rw [← hnext] at hserved ⊢
            exact hearlier earlier (by omega) other (by simpa using hother) hserved
        · rw [hnext] at hserved ⊢
          exact hearlier (earlier + 1) (by omega) other (by simpa using hother) hserved

/-- The stream has the name in a path, if there is one, and no stream that is served before it
has. -/
def FoundFirst (calls : SetupCalls) (streams : List Stream) (path : Option (List UInt8))
    (channel : ℕ) (stream : Stream) : Prop :=
  (∀ name ∈ path, stream.rtspEndpoint.bytes = name) ∧
    ∀ earlier < channel, ∀ other, streams[earlier]? = some other →
      served calls earlier other = true → ∃ name ∈ path, other.rtspEndpoint.bytes ≠ name

/-- DESCRIBE shows the stream of a channel exactly if that is served and found first. -/
theorem exists_describedStream_iff {server : Config} {streams : List Stream}
    {calls : SetupCalls} (hstreams : server.streams = videoStreams calls streams)
    {url : List UInt8} (hspace : ∀ c ∈ url, Scanf.isSpace c = false) {channel : ℕ}
    (hchannel : channel < maxVideoStreams.toNat) :
    (∃ found, describedStream server url = some found ∧ found.channel = channel) ↔
      ∃ stream, streams[channel]? = some stream ∧ served calls channel stream = true ∧
        FoundFirst calls streams (urlPath url) channel stream := by
  have hindex : ∀ index ≤ channel,
      (streams.take maxVideoStreams.toNat)[index]? = streams[index]? := fun index hle =>
    List.getElem?_take_of_lt (by omega)
  have hfind : ∀ p : StreamConfig → Bool,
      (∃ found, (videoStreams calls streams).find? p = some found ∧ found.channel = channel) ↔
        ∃ stream, streams[channel]? = some stream ∧ served calls channel stream = true ∧
          p (videoStream calls channel stream) = true ∧
          ∀ earlier < channel, ∀ other, streams[earlier]? = some other →
            served calls earlier other = true → p (videoStream calls earlier other) = false := by
    intro p
    have hall :=
      exists_find?_videoStreamsFrom calls p (streams.take maxVideoStreams.toNat) 0 channel
    simp only [Nat.zero_add] at hall
    rw [videoStreams, hall, hindex channel le_rfl]
    refine exists_congr fun stream => and_congr_right fun _ => and_congr_right fun _ =>
      and_congr_right fun _ => forall_congr' fun earlier => forall_congr' fun hlt => ?_
    rw [hindex earlier hlt.le]
  rw [describedStream_eq server hspace]
  unfold FoundFirst
  cases urlPath url with
  | some path =>
    dsimp only
    rw [Config.findStream, hstreams, hfind]
    simp only [decide_eq_true_eq, decide_eq_false_iff_not, videoStream_streamName,
      Option.mem_def, Option.some.injEq, ne_eq, @eq_comm _ path, forall_eq, exists_eq_left]
  | none =>
    dsimp only
    have hhead : server.streams.head? = (videoStreams calls streams).find? fun _ => true := by
      rw [hstreams]
      cases videoStreams calls streams <;> rfl
    rw [hhead, hfind]
    simp

end Rtsp
