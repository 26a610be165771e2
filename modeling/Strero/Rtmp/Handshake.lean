import Strero.Lib.Dialogue
import Strero.Rtmp.Chunk

/-!
# The handshake

`rtmp_client_handshake_process` and `rtmp_handshake_process` are the two ends of
one dialogue: a version byte and 1536 bytes each way, and each end's block sent
back by the other. Both write and read whole blocks in loops around the calls of
the socket. Whatever the calls move, however small the socket buffers are and
however the two threads are scheduled, both ends finish with each other's data;
and an end that finishes while calls of the other one fail has the same data.
-/

namespace Rtmp

open Wire Dialogue Dialogue.Link

/-- `RTMP_VERSION`. -/
def rtmpVersion : UInt8 := 3

/-- `RTMP_HANDSHAKE_SIZE`. -/
def handshakeSize : ℕ := 1536

/-- `rtmp_read_bytes` and `rtmp_client_read_bytes`, with what follows when all the bytes
came and what is left when a call of `recv` fails or finds the connection closed. -/
abbrev rtmpReadBytes {ε ρ : Type*} (length : ℕ) (failed : List UInt8 → ε)
    (next : List UInt8 → Script UInt8 ε ρ) : Script UInt8 ε ρ :=
  .read length failed next

/-- `rtmp_write_bytes` and `rtmp_client_write_bytes`. -/
abbrev rtmpWriteBytes {ε ρ : Type*} (buffer : List UInt8) (failed : ε) (next : Script UInt8 ε ρ) :
    Script UInt8 ε ρ :=
  .write buffer failed next

/-- The block of C1 and of S1: the time, a version of zeros and the results of `rand`. -/
def handshakeData (time : UInt32) (rand : ℕ → UInt32) : List UInt8 :=
  putBe32 time ++ [0, 0, 0, 0] ++ (List.range (handshakeSize - 8)).map fun i => lowByte (rand i)

@[simp] theorem handshakeData_length (time : UInt32) (rand : ℕ → UInt32) :
    (handshakeData time rand).length = handshakeSize := by
  simp [handshakeData, handshakeSize]

/-- A buffer after a read that stopped early. -/
def overwrite (buffer got : List UInt8) : List UInt8 := got ++ buffer.drop got.length

/-! ### The two ends -/

/-- The fields of `rtmp_connection_t` that the server's handshake writes. -/
structure ServerHandshake where
  state : ConnectionState
  c0S0Version : UInt8
  c1S1Data : List UInt8
  c2S2Data : List UInt8
deriving DecidableEq, Repr

/-- `rtmp_handshake_process`, with the connection as the result or, where the function
returns -1, as the error. The echo in C2 is not compared with S1. -/
def rtmpHandshakeProcess (time : UInt32) (rand : ℕ → UInt32) (conn : ServerHandshake) :
    Script UInt8 ServerHandshake ServerHandshake :=
  rtmpReadBytes 1 (fun _ => conn) fun c0 =>
  if c0 ≠ [rtmpVersion] then .stop conn
  else
    let conn := { conn with c0S0Version := c0.headD 0, state := .versionSent }
    rtmpWriteBytes [rtmpVersion] conn <|
    rtmpReadBytes handshakeSize
      (fun got => { conn with c1S1Data := overwrite conn.c1S1Data got }) fun c1 =>
    let conn := { conn with c1S1Data := c1 }
    rtmpWriteBytes (handshakeData time rand) conn <|
    rtmpWriteBytes conn.c1S1Data conn <|
    let conn := { conn with state := .ackSent }
    rtmpReadBytes handshakeSize
      (fun got => { conn with c2S2Data := overwrite conn.c2S2Data got }) fun c2 =>
    .done { conn with c2S2Data := c2, state := .handshakeDone }

/-- The values of `rtmp_client_state_t` up to the end of the handshake. -/
inductive ClientHandshakeState
  | disconnected | connecting | c0Sent | c1Sent | c2Sent | handshakeDone
deriving DecidableEq, Repr

/-- The fields of `rtmp_client_connection_t` that the client's handshake writes. -/
structure ClientHandshake where
  state : ClientHandshakeState
  bytesReceived : UInt32
  c1S1Data : List UInt8
  c2S2Data : List UInt8
deriving DecidableEq, Repr

/-- `rtmp_client_connection_read_bytes` without TLS: what was read is counted. Before the
state `CONNECTED` no acknowledgement is sent. -/
def rtmpClientConnectionReadBytes {ε ρ : Type*} (conn : ClientHandshake) (length : ℕ)
    (failed : List UInt8 → ε) (next : ClientHandshake → List UInt8 → Script UInt8 ε ρ) :
    Script UInt8 ε ρ :=
  rtmpReadBytes length failed fun buffer =>
    next { conn with bytesReceived := conn.bytesReceived + UInt32.ofNat buffer.length } buffer

/-- `rtmp_client_handshake_process`, with the connection as the result or, where the
function returns -1, as the error. -/
def rtmpClientHandshakeProcess (time : UInt32) (rand : ℕ → UInt32) (conn : ClientHandshake) :
    Script UInt8 ClientHandshake ClientHandshake :=
  rtmpWriteBytes [rtmpVersion] conn <|
  let conn := { conn with state := .c0Sent }
  rtmpWriteBytes (handshakeData time rand) conn <|
  let conn := { conn with c1S1Data := handshakeData time rand, state := .c1Sent }
  rtmpClientConnectionReadBytes conn 1 (fun _ => conn) fun conn s0 =>
  if s0 ≠ [rtmpVersion] then .stop conn
  else
    rtmpClientConnectionReadBytes conn handshakeSize (fun _ => conn) fun conn s1 =>
    rtmpClientConnectionReadBytes conn handshakeSize
      (fun got => { conn with c2S2Data := overwrite conn.c2S2Data got }) fun conn s2 =>
    let conn := { conn with c2S2Data := s2 }
    rtmpWriteBytes s1 conn <|
    .done { conn with state := .handshakeDone }

/-! ### Both ends together -/

section Handshake

variable (time time' : UInt32) (rand rand' : ℕ → UInt32) (client : ClientHandshake)
  (server : ServerHandshake)

/-- The connection when the two functions are entered. -/
def handshakeStart : Link UInt8 ClientHandshake ClientHandshake ServerHandshake ServerHandshake :=
  ⟨rtmpClientHandshakeProcess time rand client, rtmpHandshakeProcess time' rand' server, [], []⟩

/-- The client that has its own block back. -/
def clientDone : ClientHandshake where
  state := .handshakeDone
  bytesReceived := client.bytesReceived + 3073
  c1S1Data := handshakeData time rand
  c2S2Data := handshakeData time rand

/-- The server that has the client's block and its own one back. -/
def serverDone : ServerHandshake where
  state := .handshakeDone
  c0S0Version := rtmpVersion
  c1S1Data := handshakeData time rand
  c2S2Data := handshakeData time' rand'

/-- Both functions have returned 0 and nothing is left in the pipes. -/
def handshakeEnd : Link UInt8 ClientHandshake ClientHandshake ServerHandshake ServerHandshake :=
  ⟨.done (clientDone time rand client), .done (serverDone time time' rand rand'), [], []⟩

/-- One schedule with both ends done: each block passes before the next one is written,
but for the version byte of the server, which waits for the client to have sent its block. -/
theorem handshake_schedule {capacity : ℕ} (hcapacity : 1 ≤ capacity) :
    Steps capacity (handshakeStart time time' rand rand' client server)
      (handshakeEnd time time' rand rand' client) := by
  have hnone : ([] : List UInt8).length ≤ capacity := Nat.zero_le _
  have hone : [rtmpVersion].length ≤ capacity := hcapacity
  have hversion : [rtmpVersion].length = 1 := rfl
  have hlength := handshakeData_length time rand
  have hlength' := handshakeData_length time' rand'
  -- C0, and S0 into the pipe
  refine (steps_transfer hcapacity hnone rfl).trans ?_
  rw [if_neg (not_not.mpr rfl)]
  refine (Steps.swap (steps_send hone)).trans ?_
  -- C1 past the waiting S0, then S0
  refine (steps_transfer hcapacity hone hlength).trans ?_
  dsimp only [rtmpClientConnectionReadBytes]
  refine (steps_recv hnone hversion).trans ?_
  rw [if_neg (not_not.mpr rfl)]
  -- S1 and S2
  refine (Steps.swap (steps_transfer hcapacity hnone hlength')).trans ?_
  refine (Steps.swap (steps_transfer hcapacity hnone hlength)).trans ?_
  -- C2
  refine (steps_transfer hcapacity hnone hlength').trans ?_
  have hcount : client.bytesReceived + UInt32.ofNat 1 + UInt32.ofNat handshakeSize +
      UInt32.ofNat handshakeSize = client.bytesReceived + 3073 := by
    rw [UInt32.add_assoc, UInt32.add_assoc]
    rfl
  have hend : handshakeEnd time time' rand rand' client =
      ⟨.done ⟨.handshakeDone, client.bytesReceived + UInt32.ofNat [rtmpVersion].length +
          UInt32.ofNat (handshakeData time' rand').length +
          UInt32.ofNat (handshakeData time rand).length,
        handshakeData time rand, handshakeData time rand⟩,
      .done (serverDone time time' rand rand'), [], []⟩ := by
    rw [hlength, hlength', hversion, hcount]
    rfl
  rw [hend]
  exact .refl

/-- Both ends of the handshake, over any pipes, calls and schedules. Without a failure
every schedule is finite and can be continued to the end where each has the other's block and
nothing is left in the pipes; and whatever fails, an end that returns 0 has just these
blocks. -/
theorem handshake_agrees {capacity : ℕ} (hcapacity : 1 ≤ capacity) :
    (∀ run : ℕ → Link UInt8 ClientHandshake ClientHandshake ServerHandshake ServerHandshake,
      ∃ n, ¬Step capacity (run n) (run (n + 1))) ∧
    (∀ s, Steps capacity (handshakeStart time time' rand rand' client server) s →
      Steps capacity s (handshakeEnd time time' rand rand' client)) ∧
    ∀ s, Run capacity (handshakeStart time time' rand rand' client server) s →
      (∀ c, s.near = .done c → c = clientDone time rand client) ∧
      ∀ c, s.far = .done c → c = serverDone time time' rand rand' := by
  have hend := handshake_schedule time time' rand rand' client server hcapacity
  refine ⟨exists_not_step capacity, fun s hs => hend.to_end rfl rfl hs, fun s hs => ⟨?_, ?_⟩⟩
  · exact fun c hc => hs.near_result hend rfl rfl hc
  · exact fun c hc => hs.far_result hend rfl rfl hc

end Handshake

/-- Pipes of one byte, and a client that still holds the blocks of an earlier try. -/
theorem handshake_agrees_one_byte : 1 ≤ 1 ∧ ∀ s,
    Run 1 (handshakeStart 1700000000 5 (fun i => 7 * i.toUInt32) (fun _ => 0)
      ⟨.connecting, 0xFFFFFFFF, [1], [2]⟩ ⟨.uninitialized, 0, [], []⟩) s →
      (∀ c, s.near = .done c →
        c = clientDone 1700000000 (fun i => 7 * i.toUInt32) ⟨.connecting, 0xFFFFFFFF, [1], [2]⟩) ∧
      ∀ c, s.far = .done c →
        c = serverDone 1700000000 5 (fun i => 7 * i.toUInt32) (fun _ => 0) :=
  ⟨le_rfl, (handshake_agrees 1700000000 5 (fun i => 7 * i.toUInt32) (fun _ => 0)
    ⟨.connecting, 0xFFFFFFFF, [1], [2]⟩ ⟨.uninitialized, 0, [], []⟩ (le_refl 1)).2.2⟩

end Rtmp
