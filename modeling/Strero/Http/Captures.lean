import Mathlib.Data.Fintype.Basic
import Strero.Lib.CString
import Strero.Lib.Programs
import Strero.Lib.Runs
import Strero.StreamParams

/-!
# Captures of one channel

A capture starts the JPEG encoder of its channel, takes one image and stops the encoder again.
Snapshot requests and the threads of MJPEG streams capture at the same time, and nothing keeps
one from stopping the encoder under another. Here each of them is a program of calls, and the
encoder is whatever the calls of the HAL make of it.
-/

namespace Http.Capturing

open Programs
open FrameManager (fsChnNum)

/-- `hal_payload_t`. -/
inductive HalPayload
  | h264 | h265 | jpeg
deriving DecidableEq

/-- What a capture, and what serves its image, asks of its surroundings: the channel table, the
HAL, the allocator and the connection of the client. -/
inductive CaptureCall (Stream : Type)
  | chnEnable (channel : ℤ)
  | halCaps
  | encGetAttr (ch : ℤ)
  | encSetJpegQp (ch qp : ℤ)
  | encStart (ch : ℤ)
  | encStop (ch : ℤ)
  | streamPoll (ch : ℤ) (timeoutMs : ℕ)
  | streamGet (ch : ℤ) (block : ℤ)
  | streamPackCount (stream : Stream)
  | streamPackLength (stream : Stream) (index : ℕ)
  | streamCopyPack (stream : Stream) (index : ℕ)
  | streamRelease (ch : ℤ) (stream : Stream)
  | malloc (size : ℕ)
  | pthreadCreate
  | httpServerRunning
  | sendError (statusCode : ℕ) (message : String)
  | sendBinary (contentType : String) (data : List UInt8)
  | sendMjpegStreamHeader
  | sendMjpegFrameHeader (size : ℕ)
  | send (data : List UInt8)

variable {Stream : Type}

/-- What the calls return. `hal_caps` may be a null pointer, and of the capabilities and the
attributes there is what the capture looks at. A stream is there if `hal_stream_get` succeeds. -/
@[reducible] def CaptureAnswer : CaptureCall Stream → Type
  | .chnEnable _ => Bool
  | .halCaps => Option Bool
  | .encGetAttr _ => Option HalPayload
  | .encSetJpegQp _ _ => ℤ
  | .encStart _ => ℤ
  | .encStop _ => ℤ
  | .streamPoll _ _ => ℤ
  | .streamGet _ _ => Option Stream
  | .streamPackCount _ => ℤ
  | .streamPackLength _ _ => UInt32
  | .streamCopyPack _ _ => List UInt8
  | .streamRelease _ _ => ℤ
  | .malloc _ => Bool
  | .pthreadCreate => ℤ
  | .httpServerRunning => Bool
  | .sendError _ _ => ℤ
  | .sendBinary _ _ => ℤ
  | .sendMjpegStreamHeader => ℤ
  | .sendMjpegFrameHeader _ => ℤ
  | .send _ => ℤ

/-- A program of such calls. -/
abbrev CaptureProgram (Stream α : Type) : Type :=
  Program (CaptureCall Stream) CaptureAnswer α

/-! ### The capture -/

/-- `jpeg_channel`. -/
def jpegChannel (channel : ℤ) : ℤ := fsChnNum + channel

/-- The quality is set if the platform can set it and the channel is one of JPEG images. -/
def tuneJpegQp (jpegCh : ℤ) : CaptureProgram Stream Unit :=
  .call .halCaps fun caps =>
  .call (.encGetAttr jpegCh) fun payload =>
  if caps = some true ∧ payload = some .jpeg then
    .call (.encSetJpegQp jpegCh 25) fun _ => .done ()
  else .done ()

/-- The first loop over the packs of a stream: `total_size`. -/
def sumPackLengths (stream : Stream) : ℕ → ℕ → UInt32 → CaptureProgram Stream UInt32
  | 0, _, totalSize => .done totalSize
  | left + 1, i, totalSize =>
    .call (.streamPackLength stream i) fun length =>
    sumPackLengths stream left (i + 1) (totalSize + length)

/-- The second loop: the packs, one behind the other. -/
def copyPacks (stream : Stream) : ℕ → ℕ → List UInt8 → CaptureProgram Stream (List UInt8)
  | 0, _, jpegData => .done jpegData
  | left + 1, i, jpegData =>
    .call (.streamCopyPack stream i) fun copied =>
    copyPacks stream left (i + 1) (jpegData ++ copied)

/-- The stream is given back, the encoder stopped, and the capture ends. -/
def releaseAndStop (jpegCh : ℤ) (stream : Stream) (result : Option (List UInt8)) :
    CaptureProgram Stream (Option (List UInt8)) :=
  .call (.streamRelease jpegCh stream) fun _ =>
  .call (.encStop jpegCh) fun _ => .done result

/-- What is done with a stream: its packs are counted, copied and given back. -/
def readStream (jpegCh : ℤ) (stream : Stream) : CaptureProgram Stream (Option (List UInt8)) :=
  .call (.streamPackCount stream) fun packCount =>
  (sumPackLengths stream packCount.toNat 0 0).bind fun totalSize =>
  if totalSize = 0 then releaseAndStop jpegCh stream none
  else
    .call (.malloc totalSize.toNat) fun allocated =>
    if allocated then
      (copyPacks stream packCount.toNat 0 []).bind fun jpegData =>
      releaseAndStop jpegCh stream (some jpegData)
    else releaseAndStop jpegCh stream none

/-- From `hal_enc_start` to the end. A capture whose encoder does not start has nothing to stop. -/
def startAndRead (jpegCh : ℤ) : CaptureProgram Stream (Option (List UInt8)) :=
  .call (.encStart jpegCh) fun started =>
  if started < 0 then .done none
  else
    .call (.streamPoll jpegCh 200) fun polled =>
    if polled < 0 then .call (.encStop jpegCh) fun _ => .done none
    else
      .call (.streamGet jpegCh 1) fun got =>
      match got with
      | none => .call (.encStop jpegCh) fun _ => .done none
      | some stream => readStream jpegCh stream

/-- `capture_snapshot`: the image, or nothing where it returns -1. -/
def captureSnapshot (channel : ℤ) : CaptureProgram Stream (Option (List UInt8)) :=
  if channel < 0 ∨ fsChnNum ≤ channel then .done none
  else
    .call (.chnEnable channel) fun enabled =>
    if enabled then
      (tuneJpegQp (jpegChannel channel)).bind fun _ => startAndRead (jpegChannel channel)
    else .done none

/-! ### What captures -/

/-- `handle_snapshot_request`. -/
def handleSnapshotRequest (channel : ℤ) : CaptureProgram Stream Unit :=
  (captureSnapshot channel).bind fun captured =>
  match captured with
  | none => .call (.sendError 500 "Failed to capture snapshot") fun _ => .done ()
  | some jpegData => .call (.sendBinary "image/jpeg" jpegData) fun _ => .done ()

/-- An image of an MJPEG stream is sent. The result tells whether the stream goes on. -/
def sendMjpegFrame (jpegData : List UInt8) : CaptureProgram Stream Bool :=
  .call (.sendMjpegFrameHeader jpegData.length) fun sent =>
  if sent < 0 then .done false
  else
    .call (.send jpegData) fun sent =>
    if sent < 0 then .done false
    else
      .call (.send (CString.ascii "\r\n")) fun sent =>
      .done (decide (0 ≤ sent))

/-- The loop of `mjpeg_stream_thread`. -/
def mjpegStreamLoop (channel : ℤ) (frameCount consecutiveErrors : ℕ) :
    CaptureProgram Stream Unit :=
  .call .httpServerRunning fun running =>
  if _h : running ∧ frameCount < 3000 ∧ consecutiveErrors < 5 then
    (captureSnapshot channel).bind fun captured =>
    match captured with
    | none => mjpegStreamLoop channel frameCount (consecutiveErrors + 1)
    | some jpegData =>
      (sendMjpegFrame jpegData).bind fun goesOn =>
      if goesOn then mjpegStreamLoop channel (frameCount + 1) 0 else .done ()
  else .done ()
termination_by (3000 - frameCount, 5 - consecutiveErrors)
decreasing_by
  · exact Prod.Lex.right _ (by omega)
  · exact Prod.Lex.left _ _ (by omega)

/-- `mjpeg_stream_thread`. -/
def mjpegStreamThread (channel : ℤ) : CaptureProgram Stream Unit :=
  .call .sendMjpegStreamHeader fun sent =>
  if sent < 0 then .done () else mjpegStreamLoop channel 0 0

/-- `handle_mjpeg_stream`, and behind it the thread that it creates. -/
def handleMjpegStream (channel : ℤ) : CaptureProgram Stream Unit :=
  if channel < 0 ∨ fsChnNum ≤ channel then
    .call (.sendError 404 "Channel not enabled") fun _ => .done ()
  else
    .call (.chnEnable channel) fun enabled =>
    if enabled then
      -- `mjpeg_thread_data_t` is two integers of four bytes.
      .call (.malloc 8) fun allocated =>
      if allocated then
        .call .pthreadCreate fun created =>
        if created = 0 then mjpegStreamThread channel
        else .call (.sendError 500 "Thread creation error") fun _ => .done ()
      else .call (.sendError 500 "Memory allocation error") fun _ => .done ()
    else .call (.sendError 404 "Channel not enabled") fun _ => .done ()

/-- What a client asks for. -/
inductive Viewing
  | snapshot (channel : ℤ)
  | mjpeg (channel : ℤ)
deriving DecidableEq

/-- The channel that is looked at. -/
def Viewing.channel : Viewing → ℤ
  | .snapshot channel => channel
  | .mjpeg channel => channel

/-- What is done for the client. -/
def Viewing.program : Viewing → CaptureProgram Stream Unit
  | .snapshot channel => handleSnapshotRequest channel
  | .mjpeg channel => handleMjpegStream channel

/-! ### What a capture may do -/

/-- The calls that poll or read an encoder. -/
def CaptureCall.usesEncoder : CaptureCall Stream → Bool
  | .streamPoll _ _ => true
  | .streamGet _ _ => true
  | .streamPackCount _ => true
  | .streamPackLength _ _ => true
  | .streamCopyPack _ _ => true
  | .streamRelease _ _ => true
  | _ => false

/-- The calls that start or stop an encoder. -/
def CaptureCall.switchesEncoder : CaptureCall Stream → Bool
  | .encStart _ => true
  | .encStop _ => true
  | _ => false

theorem CaptureCall.switchesEncoder_cases {made : CaptureCall Stream}
    (h : made.switchesEncoder = true) :
    (∃ ch, made = .encStart ch) ∨ ∃ ch, made = .encStop ch := by
  cases made with
  | encStart ch => exact .inl ⟨ch, rfl⟩
  | encStop ch => exact .inr ⟨ch, rfl⟩
  | _ => cases h

/-- A capture is between its `hal_enc_start`, if that succeeded, and its `hal_enc_stop`. -/
def trackCapture (capturing : Bool) : (made : CaptureCall Stream) → CaptureAnswer made → Bool
  | .encStart _, (started : ℤ) => capturing || decide (0 ≤ started)
  | .encStop _, _ => false
  | _, _ => capturing

/-- A capture of one channel: it starts, and then uses and stops, the encoder of the channel. -/
def captureProtocol (jpegCh : ℤ) : Protocol (CaptureCall Stream) CaptureAnswer Bool where
  allows capturing made :=
    (made.usesEncoder = true → capturing = true) ∧
    (∀ ch, made = .encStart ch → ch = jpegCh ∧ capturing = false) ∧
    ∀ ch, made = .encStop ch → ch = jpegCh ∧ capturing = true
  after := trackCapture

/-- A capture has stopped the encoder when it ends. -/
abbrev Captures {α : Type} (jpegCh : ℤ) : Bool → CaptureProgram Stream α → Prop :=
  Follows (captureProtocol jpegCh) fun capturing _ => capturing = false

section Follow

variable {α : Type} {jpegCh channel : ℤ} {capturing : Bool} {stream : Stream}

theorem trackCapture_of_not_switches {made : CaptureCall Stream}
    (hswitch : made.switchesEncoder = false) (answer : CaptureAnswer made) :
    trackCapture capturing made answer = capturing := by
  cases made <;> first | rfl | cases hswitch

/-- A call that does not switch the encoder may be made at any time if it does not use it
either, and else during a capture. -/
theorem captures_call {made : CaptureCall Stream}
    {next : CaptureAnswer made → CaptureProgram Stream α}
    (huses : made.usesEncoder = true → capturing = true)
    (hswitch : made.switchesEncoder = false)
    (hnext : ∀ answer, Captures jpegCh capturing (next answer)) :
    Captures jpegCh capturing (.call made next) := by
  refine ⟨⟨huses, ?_, ?_⟩, fun answer => ?_⟩
  · rintro ch rfl
    cases hswitch
  · rintro ch rfl
    cases hswitch
  · change Captures jpegCh (trackCapture capturing made answer) (next answer)
    rw [trackCapture_of_not_switches hswitch]
    exact hnext answer

theorem captures_other {made : CaptureCall Stream}
    {next : CaptureAnswer made → CaptureProgram Stream α} (huses : made.usesEncoder = false)
    (hswitch : made.switchesEncoder = false)
    (hnext : ∀ answer, Captures jpegCh capturing (next answer)) :
    Captures jpegCh capturing (.call made next) :=
  captures_call (fun h => absurd (huses.symm.trans h) Bool.false_ne_true) hswitch hnext

/-- A capture begins with a start. One that fails leaves it where it was. -/
theorem captures_encStart {next : ℤ → CaptureProgram Stream α}
    (hnext : ∀ started, Captures jpegCh (decide (0 ≤ started)) (next started)) :
    Captures jpegCh false (.call (.encStart jpegCh) next) := by
  refine ⟨⟨?_, ?_, ?_⟩, fun started => hnext started⟩
  · intro h
    cases h
  · rintro ch heq
    cases heq
    exact ⟨rfl, rfl⟩
  · rintro ch heq
    cases heq

/-- A capture ends with a stop. -/
theorem captures_encStop {next : ℤ → CaptureProgram Stream α}
    (hnext : ∀ stopped, Captures jpegCh false (next stopped)) :
    Captures jpegCh true (.call (.encStop jpegCh) next) := by
  refine ⟨⟨fun _ => rfl, ?_, ?_⟩, fun stopped => hnext stopped⟩
  · rintro ch heq
    cases heq
  · rintro ch heq
    cases heq
    exact ⟨rfl, rfl⟩

/-- What follows a capture, or anything that leaves the encoder alone, takes over stopped. -/
theorem Captures.bind {β : Type} {program : CaptureProgram Stream α}
    {rest : α → CaptureProgram Stream β} (hfirst : Captures jpegCh capturing program)
    (hrest : ∀ value, Captures jpegCh false (rest value)) :
    Captures jpegCh capturing (program.bind rest) := by
  refine Follows.bind hfirst fun mode value hstopped => ?_
  rw [hstopped]
  exact hrest value

/-- The two loops over the packs of a stream go on with the capture. -/
theorem captures_sumPackLengths {left i : ℕ} {totalSize : UInt32}
    {rest : UInt32 → CaptureProgram Stream α} (hrest : ∀ total, Captures jpegCh true (rest total)) :
    Captures jpegCh true ((sumPackLengths stream left i totalSize).bind rest) := by
  induction left generalizing i totalSize with
  | zero => exact hrest totalSize
  | succ left ih => exact captures_call (fun _ => rfl) rfl fun length => ih

theorem captures_copyPacks {left i : ℕ} {jpegData : List UInt8}
    {rest : List UInt8 → CaptureProgram Stream α}
    (hrest : ∀ data, Captures jpegCh true (rest data)) :
    Captures jpegCh true ((copyPacks stream left i jpegData).bind rest) := by
  induction left generalizing i jpegData with
  | zero => exact hrest jpegData
  | succ left ih => exact captures_call (fun _ => rfl) rfl fun copied => ih

theorem captures_releaseAndStop {result : Option (List UInt8)} :
    Captures jpegCh true (releaseAndStop jpegCh stream result) := by
  refine captures_call (fun _ => rfl) rfl fun _ => ?_
  exact captures_encStop fun _ => rfl

theorem captures_readStream : Captures jpegCh true (readStream jpegCh stream) := by
  refine captures_call (fun _ => rfl) rfl fun packCount => ?_
  refine captures_sumPackLengths fun totalSize => ?_
  by_cases hempty : totalSize = 0
  · rw [if_pos hempty]
    exact captures_releaseAndStop
  · rw [if_neg hempty]
    refine captures_call (fun _ => rfl) rfl fun allocated => ?_
    cases allocated with
    | false => exact captures_releaseAndStop
    | true => exact captures_copyPacks fun _ => captures_releaseAndStop

theorem captures_startAndRead :
    Captures jpegCh false (startAndRead jpegCh : CaptureProgram Stream _) := by
  refine captures_encStart fun started => ?_
  by_cases hfailed : started < 0
  · rw [if_pos hfailed]
    exact decide_eq_false (by omega)
  · rw [if_neg hfailed, decide_eq_true (by omega)]
    refine captures_call (fun _ => rfl) rfl fun polled => ?_
    by_cases htimeout : polled < 0
    · rw [if_pos htimeout]
      exact captures_encStop fun _ => rfl
    · rw [if_neg htimeout]
      refine captures_call (fun _ => rfl) rfl fun got => ?_
      cases got with
      | none => exact captures_encStop fun _ => rfl
      | some stream => exact captures_readStream

theorem captures_tuneJpegQp :
    Captures jpegCh false (tuneJpegQp jpegCh : CaptureProgram Stream _) := by
  refine captures_other rfl rfl fun caps => ?_
  refine captures_other rfl rfl fun payload => ?_
  by_cases htunes : caps = some true ∧ payload = some .jpeg
  · rw [if_pos htunes]
    exact captures_other rfl rfl fun _ => rfl
  · rw [if_neg htunes]
    rfl

/-- `capture_snapshot` polls and reads between its own start and stop, and has stopped the
encoder on every path on which it started it. -/
theorem captures_captureSnapshot :
    Captures (jpegChannel channel) false (captureSnapshot channel : CaptureProgram Stream _) := by
  unfold captureSnapshot
  by_cases hrange : channel < 0 ∨ fsChnNum ≤ channel
  · rw [if_pos hrange]
    rfl
  · rw [if_neg hrange]
    refine captures_other rfl rfl fun enabled => ?_
    cases enabled with
    | false => rfl
    | true => exact captures_tuneJpegQp.bind fun _ => captures_startAndRead

theorem captures_handleSnapshotRequest :
    Captures (jpegChannel channel) false
      (handleSnapshotRequest channel : CaptureProgram Stream _) := by
  refine captures_captureSnapshot.bind fun captured => ?_
  cases captured with
  | none => exact captures_other rfl rfl fun _ => rfl
  | some jpegData => exact captures_other rfl rfl fun _ => rfl

theorem captures_sendMjpegFrame {jpegData : List UInt8} :
    Captures jpegCh false (sendMjpegFrame jpegData : CaptureProgram Stream _) := by
  refine captures_other rfl rfl fun sent => ?_
  by_cases hheader : sent < 0
  · rw [if_pos hheader]
    rfl
  · rw [if_neg hheader]
    refine captures_other rfl rfl fun sent => ?_
    by_cases hdata : sent < 0
    · rw [if_pos hdata]
      rfl
    · rw [if_neg hdata]
      exact captures_other rfl rfl fun _ => rfl

/-- The loop captures once in each round. -/
theorem captures_mjpegStreamLoop (frameCount consecutiveErrors : ℕ) :
    Captures (jpegChannel channel) false
      (mjpegStreamLoop channel frameCount consecutiveErrors : CaptureProgram Stream _) := by
  induction frameCount, consecutiveErrors using mjpegStreamLoop.induct with
  | case1 frameCount consecutiveErrors ihError ihFrame =>
    rw [mjpegStreamLoop]
    refine captures_other rfl rfl fun running => ?_
    by_cases hgoesOn : running ∧ frameCount < 3000 ∧ consecutiveErrors < 5
    · rw [dif_pos hgoesOn]
      refine captures_captureSnapshot.bind fun captured => ?_
      cases captured with
      | none => exact ihError running hgoesOn
      | some jpegData =>
        refine captures_sendMjpegFrame.bind fun goesOn => ?_
        cases goesOn with
        | false => rfl
        | true => exact ihFrame running hgoesOn
    · rw [dif_neg hgoesOn]
      rfl

theorem captures_mjpegStreamThread :
    Captures (jpegChannel channel) false
      (mjpegStreamThread channel : CaptureProgram Stream _) := by
  refine captures_other rfl rfl fun sent => ?_
  by_cases hfailed : sent < 0
  · rw [if_pos hfailed]
    rfl
  · rw [if_neg hfailed]
    exact captures_mjpegStreamLoop 0 0

theorem captures_handleMjpegStream :
    Captures (jpegChannel channel) false
      (handleMjpegStream channel : CaptureProgram Stream _) := by
  unfold handleMjpegStream
  by_cases hrange : channel < 0 ∨ fsChnNum ≤ channel
  · rw [if_pos hrange]
    exact captures_other rfl rfl fun _ => rfl
  · rw [if_neg hrange]
    refine captures_other rfl rfl fun enabled => ?_
    cases enabled with
    | false => exact captures_other rfl rfl fun _ => rfl
    | true =>
      refine captures_other rfl rfl fun allocated => ?_
      cases allocated with
      | false => exact captures_other rfl rfl fun _ => rfl
      | true =>
        refine captures_other rfl rfl fun created => ?_
        by_cases hcreated : created = 0
        · rw [if_pos hcreated]
          exact captures_mjpegStreamThread
        · rw [if_neg hcreated]
          exact captures_other rfl rfl fun _ => rfl

/-- Whatever a client asks for, the encoder of its channel is used between an own start and stop
only. -/
theorem captures_program (viewing : Viewing) :
    Captures (jpegChannel viewing.channel) false
      (viewing.program : CaptureProgram Stream Unit) := by
  cases viewing with
  | snapshot channel => exact captures_handleSnapshotRequest
  | mjpeg channel => exact captures_handleMjpegStream

end Follow

/-! ### The encoders -/

/-- The surroundings of the captures: how they answer a call, and which encoders are started. -/
structure Hal (Stream σ : Type) where
  respond : σ → (made : CaptureCall Stream) → CaptureAnswer made × σ
  started : σ → ℤ → Prop

/-- What is documented of the encoder calls: a start and a stop that do not fail switch the
encoder of their channel, and nothing else switches any. -/
structure Hal.Documented {σ : Type} (hal : Hal Stream σ) : Prop where
  encStart : ∀ s ch other, hal.started (hal.respond s (.encStart ch)).2 other ↔
    hal.started s other ∨ other = ch ∧ (0 : ℤ) ≤ (hal.respond s (.encStart ch)).1
  encStop : ∀ s ch other, hal.started (hal.respond s (.encStop ch)).2 other ↔
    hal.started s other ∧ ¬ (other = ch ∧ (0 : ℤ) ≤ (hal.respond s (.encStop ch)).1)
  others : ∀ s (made : CaptureCall Stream) other, made.switchesEncoder = false →
    (hal.started (hal.respond s made).2 other ↔ hal.started s other)

section Concurrent

variable {σ ι : Type} {hal : Hal Stream σ} {clients : ι → Viewing}

/-- Clients that are served at the same time. -/
abbrev Viewers (Stream σ ι : Type) : Type :=
  Threads (CaptureCall Stream) CaptureAnswer Unit Bool σ ι

/-- Each client captures the channel it looks at. -/
def captureProtocols (clients : ι → Viewing) (i : ι) :
    Protocol (CaptureCall Stream) CaptureAnswer Bool :=
  captureProtocol (jpegChannel (clients i).channel)

/-- The clients before anything is done for them. -/
def Viewers.start (device : σ) (clients : ι → Viewing) : Viewers Stream σ ι :=
  ⟨device, fun i => (clients i).program, fun _ => false⟩

/-- No capture is disturbed: the encoder is started while a capture is between its own start
and its own stop, and at each call that polls or reads it. -/
structure Undisturbed (hal : Hal Stream σ) (clients : ι → Viewing) (s : Viewers Stream σ ι) :
    Prop where
  kept : ∀ i, s.mode i = true → hal.started s.device (jpegChannel (clients i).channel)
  used : ∀ i made next, s.rest i = .call made next → made.usesEncoder = true →
    hal.started s.device (jpegChannel (clients i).channel)

/-- Nobody else captures the channel. -/
def CapturesAlone (clients : ι → Viewing) (s : Viewers Stream σ ι) (i : ι) : Prop :=
  ∀ j, j ≠ i → (clients j).channel = (clients i).channel → s.mode j = false

/-- The encoder that a program stops with its next call. -/
def nextStop {α : Type} : CaptureProgram Stream α → Option ℤ
  | .call (.encStop ch) _ => some ch
  | _ => none

theorem nextStop_eq_some {α : Type} {program : CaptureProgram Stream α} {ch : ℤ} :
    nextStop program = some ch ↔ ∃ next, program = .call (.encStop ch) next := by
  constructor
  · intro h
    cases program with
    | done value => cases h
    | call made next =>
      cases made with
      | encStop other =>
        obtain rfl : other = ch := Option.some.inj h
        exact ⟨next, rfl⟩
      | _ => cases h
  · rintro ⟨next, rfl⟩
    rfl

/-- A stop that succeeds is made while nobody else captures the channel. -/
def StopsAlone (hal : Hal Stream σ) (clients : ι → Viewing) (s : Viewers Stream σ ι) (i : ι) :
    Prop :=
  ∀ ch ∈ nextStop (s.rest i), (0 : ℤ) ≤ (hal.respond s.device (.encStop ch)).1 →
    CapturesAlone clients s i

/-- Each client is somewhere in its captures. -/
abbrev Viewers.Capture (clients : ι → Viewing) (s : Viewers Stream σ ι) : Prop :=
  s.AllFollow (captureProtocols clients) fun capturing _ => capturing = false

instance CapturesAlone.decidable [Fintype ι] [DecidableEq ι] (clients : ι → Viewing)
    (s : Viewers Stream σ ι) (i : ι) : Decidable (CapturesAlone clients s i) :=
  inferInstanceAs (Decidable (∀ j, j ≠ i → _ → s.mode j = false))

instance StopsAlone.decidable [Fintype ι] [DecidableEq ι] (hal : Hal Stream σ)
    (clients : ι → Viewing) (s : Viewers Stream σ ι) (i : ι) :
    Decidable (StopsAlone hal clients s i) :=
  inferInstanceAs (Decidable (∀ ch ∈ nextStop (s.rest i), _ → CapturesAlone clients s i))

theorem capture_start (device : σ) (clients : ι → Viewing) :
    (Viewers.start device clients : Viewers Stream σ ι).Capture clients :=
  fun i => captures_program (clients i)

/-- Before the first call there is no capture to disturb. -/
theorem undisturbed_start (hal : Hal Stream σ) (device : σ) (clients : ι → Viewing) :
    Undisturbed hal clients (Viewers.start device clients) := by
  refine ⟨fun i h => Bool.noConfusion h, fun i made next hcall huses => ?_⟩
  have hcapturing := ((capture_start device clients).allows hcall).1 huses
  exact Bool.noConfusion hcapturing

/-- A call that polls or reads is made during a capture, so it is enough to look at these. -/
theorem Viewers.Capture.undisturbed_iff {s : Viewers Stream σ ι} (h : s.Capture clients) :
    Undisturbed hal clients s ↔
      ∀ i, s.mode i = true → hal.started s.device (jpegChannel (clients i).channel) := by
  constructor
  · exact Undisturbed.kept
  · intro hkept
    exact ⟨hkept, fun i made next hcall huses => hkept i ((h.allows hcall).1 huses)⟩

theorem jpegChannel_inj {channel channel' : ℤ} (h : jpegChannel channel = jpegChannel channel') :
    channel = channel' := by
  unfold jpegChannel at h
  omega

variable [DecidableEq ι]

/-- One of the clients makes its next call. -/
def Viewers.step (hal : Hal Stream σ) (clients : ι → Viewing) :
    Viewers Stream σ ι → ι → Viewers Stream σ ι :=
  Threads.step hal.respond (captureProtocols clients)

/-- A start, or any other call that is no stop, disturbs nobody. -/
theorem undisturbed_step_of_not_encStop (hhal : hal.Documented) {s : Viewers Stream σ ι} {i : ι}
    (hcapture : s.Capture clients) (h : Undisturbed hal clients s)
    (hcall : ∀ ch next, s.rest i ≠ .call (.encStop ch) next) :
    Undisturbed hal clients (s.step hal clients i) := by
  cases hrest : s.rest i with
  | done value =>
    have hsame : s.step hal clients i = s := Threads.step_of_done hrest
    rwa [hsame]
  | call made next =>
    have hnext : (s.step hal clients i).Capture clients := hcapture.step
    have hstep : s.step hal clients i = _ := Threads.step_of_call hrest
    rw [hnext.undisturbed_iff, hstep]
    intro j hj
    by_cases hswitch : made.switchesEncoder = false
    · have hmode : Function.update s.mode i (trackCapture (s.mode i) made
          (hal.respond s.device made).1) = s.mode := by
        rw [trackCapture_of_not_switches hswitch, Function.update_eq_self]
      exact (hhal.others s.device made _ hswitch).mpr (h.kept j ((congrFun hmode j).symm.trans hj))
    · have hswitches : made.switchesEncoder = true := Bool.not_eq_false _ ▸ hswitch
      rcases CaptureCall.switchesEncoder_cases hswitches with ⟨ch, rfl⟩ | ⟨ch, rfl⟩
      · obtain ⟨hch, hidle⟩ := (hcapture.allows hrest).2.1 ch rfl
        refine (hhal.encStart s.device ch _).mpr ?_
        by_cases hji : j = i
        · subst hji
          have hmode : (s.mode j || decide ((0 : ℤ) ≤ (hal.respond s.device (.encStart ch)).1)) =
              true := (Function.update_self j _ s.mode).symm.trans hj
          rw [hidle, Bool.false_or] at hmode
          exact .inr ⟨hch.symm, of_decide_eq_true hmode⟩
        · exact .inl (h.kept j ((Function.update_of_ne hji _ s.mode).symm.trans hj))
      · exact absurd hrest (hcall ch next)

/-- A stop disturbs those who capture the same channel. -/
theorem undisturbed_step_iff_of_encStop (hhal : hal.Documented) {s : Viewers Stream σ ι} {i : ι}
    (hcapture : s.Capture clients) (h : Undisturbed hal clients s) {ch : ℤ}
    {next : ℤ → CaptureProgram Stream Unit} (hcall : s.rest i = .call (.encStop ch) next) :
    Undisturbed hal clients (s.step hal clients i) ↔
      ((0 : ℤ) ≤ (hal.respond s.device (.encStop ch)).1 → CapturesAlone clients s i) := by
  obtain ⟨hch, hcapturing⟩ := (hcapture.allows hcall).2.2 ch rfl
  have hnext : (s.step hal clients i).Capture clients := hcapture.step
  have hstep : s.step hal clients i = _ := Threads.step_of_call hcall
  have hother : ∀ j, j ≠ i → (s.step hal clients i).mode j = s.mode j := by
    intro j hji
    rw [hstep]
    exact Function.update_of_ne hji _ s.mode
  have hown : (s.step hal clients i).mode i = false := by
    rw [hstep]
    exact Function.update_self i _ s.mode
  have hstarted : ∀ other, hal.started (s.step hal clients i).device other ↔
      hal.started s.device other ∧
        ¬ (other = ch ∧ (0 : ℤ) ≤ (hal.respond s.device (.encStop ch)).1) := by
    intro other
    rw [hstep]
    exact hhal.encStop s.device ch other
  rw [hnext.undisturbed_iff]
  constructor
  · intro hkept hstopped j hji hchannel
    by_contra hj
    have hmode : s.mode j = true := Bool.not_eq_false _ ▸ hj
    have hstill := (hstarted _).mp (hkept j ((hother j hji).trans hmode))
    exact hstill.2 ⟨by rw [hchannel, hch], hstopped⟩
  · intro halone j hj
    have hji : j ≠ i := by
      rintro rfl
      exact Bool.false_ne_true (hown.symm.trans hj)
    have hmode : s.mode j = true := (hother j hji).symm.trans hj
    refine (hstarted _).mpr ⟨h.kept j hmode, ?_⟩
    rintro ⟨hsame, hstopped⟩
    have hchannel := jpegChannel_inj (hsame.trans hch)
    exact Bool.false_ne_true ((halone hstopped j hji hchannel).symm.trans hmode)

/-- One call disturbs no capture exactly if it is no stop under another capture. -/
theorem undisturbed_step_iff (hhal : hal.Documented) {s : Viewers Stream σ ι} {i : ι}
    (hcapture : s.Capture clients) (h : Undisturbed hal clients s) :
    Undisturbed hal clients (s.step hal clients i) ↔ StopsAlone hal clients s i := by
  by_cases hstop : ∃ ch next, s.rest i = .call (.encStop ch) next
  · obtain ⟨ch, next, hcall⟩ := hstop
    rw [undisturbed_step_iff_of_encStop hhal hcapture h hcall]
    have hnext : nextStop (s.rest i) = some ch := nextStop_eq_some.mpr ⟨next, hcall⟩
    constructor
    · intro halone other hother
      obtain rfl : ch = other := Option.some.inj (hnext.symm.trans hother)
      exact halone
    · exact fun halone => halone ch hnext
  · have hcall : ∀ ch next, s.rest i ≠ .call (.encStop ch) next :=
      fun ch next hcall => hstop ⟨ch, next, hcall⟩
    exact iff_of_true (undisturbed_step_of_not_encStop hhal hcapture h hcall)
      fun ch hch => absurd (nextStop_eq_some.mp hch) fun ⟨next, hcall'⟩ => hcall ch next hcall'

/-- However many clients are served at once, and in whatever order they make their calls, no
capture is disturbed exactly if each stop that succeeds is made while nobody else captures the
channel. -/
theorem undisturbed_throughout_iff (hhal : hal.Documented) (clients : ι → Viewing) (device : σ)
    (schedule : List ι) :
    (∀ n, Undisturbed hal clients
      ((schedule.take n).foldl (Viewers.step hal clients) (.start device clients))) ↔
      Runs.Guarded (Viewers.step hal clients) (StopsAlone hal clients) (.start device clients)
        schedule :=
  Runs.forall_take_iff_guarded (fun s => s.Capture clients) (Undisturbed hal clients)
    (fun _ _ hcapture => hcapture.step) (fun _ _ => undisturbed_step_iff hhal) schedule
    (capture_start device clients) (undisturbed_start hal device clients)

/-- Who captures after a call did so before, or has started an encoder. -/
theorem capturing_step {s : Viewers Stream σ ι} {i k : ι}
    (h : (s.step hal clients i).mode k = true) :
    s.mode k = true ∨ k = i ∧ ∃ ch next, s.rest i = .call (.encStart ch) next := by
  cases hrest : s.rest i with
  | done value =>
    have hsame : s.step hal clients i = s := Threads.step_of_done hrest
    exact .inl (by rwa [hsame] at h)
  | call made next =>
    have hstep : s.step hal clients i = _ := Threads.step_of_call hrest
    rw [hstep] at h
    by_cases hk : k = i
    · subst hk
      have hmode : trackCapture (s.mode k) made (hal.respond s.device made).1 = true :=
        (Function.update_self k _ s.mode).symm.trans h
      cases made with
      | encStart ch => exact .inr ⟨rfl, ch, next, rfl⟩
      | encStop ch => cases hmode
      | _ => exact .inl hmode
    · exact .inl ((Function.update_of_ne hk _ s.mode).symm.trans h)

/-- A capture starts the encoder while nobody else captures the channel. -/
def StartsAlone (clients : ι → Viewing) (s : Viewers Stream σ ι) (i : ι) : Prop :=
  ∀ ch next, s.rest i = .call (.encStart ch) next → CapturesAlone clients s i

/-- A lock around the captures of a channel, as the image grab module has one, is enough. -/
theorem guarded_stopsAlone {device : σ} {schedule : List ι}
    (h : Runs.Guarded (Viewers.step hal clients) (StartsAlone clients) (.start device clients)
      schedule) :
    Runs.Guarded (Viewers.step hal clients) (StopsAlone hal clients) (.start device clients)
      schedule := by
  refine Runs.Guarded.imp (fun s : Viewers Stream σ ι => s.Capture clients ∧
    ∀ i, s.mode i = true → CapturesAlone clients s i) ?_ h
    ⟨capture_start device clients, fun i hi => Bool.noConfusion hi⟩
  rintro s i ⟨hcapture, halone⟩ hstarts
  refine ⟨fun ch hch _ => ?_, hcapture.step, fun k hk j hjk hchannel => ?_⟩
  · obtain ⟨next, hcall⟩ := nextStop_eq_some.mp hch
    exact halone i ((hcapture.allows hcall).2.2 ch rfl).2
  · -- Of two that capture one channel, one did so before and the other has started now.
    by_contra hj
    rcases capturing_step hk, capturing_step (Bool.not_eq_false _ ▸ hj) with
      ⟨hk' | ⟨rfl, ch, next, hcall⟩, hj' | ⟨rfl, ch', next', hcall'⟩⟩
    · exact Bool.false_ne_true ((halone k hk' j hjk hchannel).symm.trans hj')
    · exact Bool.false_ne_true ((hstarts ch' next' hcall' k hjk.symm hchannel.symm).symm.trans hk')
    · exact Bool.false_ne_true ((hstarts ch next hcall j hjk hchannel).symm.trans hj')
    · exact hjk rfl

end Concurrent

/-! ### Two snapshots of one channel -/

/-- Encoders that are switched at once, and always have an image of one byte. -/
def promptHal : Hal Unit (ℤ → Bool) where
  respond started made :=
    match made with
    | .chnEnable _ => (true, started)
    | .halCaps => (some true, started)
    | .encGetAttr _ => (some .jpeg, started)
    | .encSetJpegQp _ _ => ((0 : ℤ), started)
    | .encStart ch => ((0 : ℤ), Function.update started ch true)
    | .encStop ch => ((0 : ℤ), Function.update started ch false)
    | .streamPoll _ _ => ((0 : ℤ), started)
    | .streamGet _ _ => (some (), started)
    | .streamPackCount _ => ((1 : ℤ), started)
    | .streamPackLength _ _ => ((1 : UInt32), started)
    | .streamCopyPack _ _ => ([(255 : UInt8)], started)
    | .streamRelease _ _ => ((0 : ℤ), started)
    | .malloc _ => (true, started)
    | .pthreadCreate => ((0 : ℤ), started)
    | .httpServerRunning => (true, started)
    | .sendError _ _ => ((0 : ℤ), started)
    | .sendBinary _ _ => ((0 : ℤ), started)
    | .sendMjpegStreamHeader => ((0 : ℤ), started)
    | .sendMjpegFrameHeader _ => ((0 : ℤ), started)
    | .send _ => ((0 : ℤ), started)
  started started ch := started ch = true

theorem promptHal_documented : promptHal.Documented where
  encStart started ch other := by
    by_cases h : other = ch
    · subst h
      simp [promptHal]
    · simp [promptHal, h]
  encStop started ch other := by
    by_cases h : other = ch
    · subst h
      simp [promptHal]
    · simp [promptHal, h]
  others started made other hswitch := by
    cases made <;> first | rfl | cases hswitch

/-- The first snapshot is taken before the second one begins. -/
theorem undisturbed_throughout_oneByOne :
    promptHal.Documented ∧ ∀ n, Undisturbed promptHal (fun _ : Bool => .snapshot 0)
      (((List.replicate 14 false ++ List.replicate 14 true).take n).foldl
        (Viewers.step promptHal fun _ => .snapshot 0)
        (.start (fun _ => false) fun _ => .snapshot 0)) :=
  ⟨promptHal_documented,
    (undisturbed_throughout_iff promptHal_documented _ _ _).mpr (by decide)⟩

/-- Two snapshots have started the encoder, the first one is done and stops it, and the second
one polls an encoder that is stopped. -/
theorem not_undisturbed_sameChannel :
    promptHal.Documented ∧ ¬ ∀ n, Undisturbed promptHal (fun _ : Bool => .snapshot 0)
      (((List.replicate 5 false ++ List.replicate 5 true ++ List.replicate 9 false).take n).foldl
        (Viewers.step promptHal fun _ => .snapshot 0)
        (.start (fun _ => false) fun _ => .snapshot 0)) := by
  refine ⟨promptHal_documented, fun h => ?_⟩
  have hstarted : promptHal.started _ (jpegChannel 0) :=
    (h 19).used true (.streamPoll 4 200) _ rfl rfl
  exact Bool.false_ne_true hstarted

end Http.Capturing
