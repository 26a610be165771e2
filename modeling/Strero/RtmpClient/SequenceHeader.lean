import Strero.Lib.Runs
import Strero.RtmpClient.VideoMessages

/-!
# The sequence header before the first frame

The connection thread connects, publishes and reconnects, and the frame path sends to the
connection object meanwhile. The object remembers across connections that a sequence header
was sent. On a connection that begins without this memory a frame is sent only after a
sequence header, or once the frame path has waited five seconds for the parameter sets. The
value `none` stands for a read outside of a frame or of a parameter set.
-/

namespace RtmpClient

/-! ### The connection object -/

/-- Where the connection thread is: without a socket, between connecting and publishing,
before it has set the start of the wait, in its loop, or returned after an error. -/
inductive ThreadStage
  | unconnected | connected | published | looping | returned
deriving DecidableEq

/-- The next step of `rtmp_client_send_video_frame`: the look at the mark and at the parameter
sets of the frame manager, the sequence header (of these, or of the frame), the mark, the
test of the wait, and the message of the frame. -/
inductive FrameStage
  | idle
  | begun (frame : List UInt8)
  | sendsCached (frame sps pps : List UInt8)
  | sendsOwn (frame : List UInt8)
  | marks (frame : List UInt8)
  | waits (frame : List UInt8)
  | sendsFrame (frame : List UInt8)
deriving DecidableEq

/-- A connection object, with the video messages sent on its current connection. A message of
a frame counts once it is begun, a sequence header once it has been sent. It is noted whether
the frame path has given up waiting for parameter sets on this connection. -/
structure Publisher where
  thread : ThreadStage
  isPublishing : Bool
  avcHeaderSent : Bool
  avcWaitStartUs : UInt32
  frame : FrameStage
  messages : List (List UInt8)
  gaveUp : Bool
deriving DecidableEq

/-- `rtmp_client_connection_create`. -/
def Publisher.created : Publisher := ⟨.unconnected, false, false, 0, .idle, [], false⟩

/-- The socket of the current connection is open. -/
def Publisher.isOpen (p : Publisher) : Bool := p.thread != .unconnected

/-! ### The connection thread -/

/-- A new connection. -/
def Publisher.connect (p : Publisher) : Publisher :=
  if p.thread = .unconnected then
    { p with thread := .connected, messages := [], gaveUp := false }
  else p

/-- The state is set once the commands were sent. -/
def Publisher.publish (p : Publisher) : Publisher :=
  if p.thread = .connected then { p with thread := .published, isPublishing := true } else p

/-- The start of the wait is set after the state. -/
def Publisher.startWait (p : Publisher) (now : UInt32) : Publisher :=
  if p.thread = .published then { p with thread := .looping, avcWaitStartUs := now } else p

/-- The connection cannot be set up, or it is lost: the socket is closed. -/
def Publisher.disconnect (p : Publisher) : Publisher :=
  if p.thread = .connected ∨ p.thread = .looping then
    { p with thread := .unconnected, isPublishing := false }
  else p

/-- The chunk size or the audio configuration cannot be sent: the thread returns. -/
def Publisher.fail (p : Publisher) : Publisher :=
  if p.thread = .looping then { p with thread := .returned, isPublishing := false } else p

/-! ### The frame path -/

/-- A frame for a publishing connection. The frame is scanned at once. -/
def Publisher.begin (p : Publisher) (frame : List UInt8) : Option Publisher :=
  if p.frame = .idle ∧ p.isPublishing = true ∧ p.isOpen = true ∧ frame ≠ [] then
    if frame.length < 4 then none else some { p with frame := .begun frame }
  else some p

/-- The look at the mark and at the parameter sets of the frame manager, if there are both.
Without them a key frame is searched for its own. -/
def Publisher.look (p : Publisher) (parameters : Option (List UInt8 × List UInt8)) : Publisher :=
  match p.frame with
  | .begun frame =>
    if p.avcHeaderSent then { p with frame := .sendsFrame frame }
    else match parameters with
      | some (sps, pps) => { p with frame := .sendsCached frame sps pps }
      | none => { p with frame := if isKeyframe frame then .sendsOwn frame else .waits frame }
  | _ => p

/-- The sequence header, which may fail to be sent. A key frame goes on without one of the
frame manager's parameter sets, any other frame is dropped. -/
def Publisher.sendHeader (p : Publisher) (sendOk : Bool) : Option Publisher :=
  match p.frame with
  | .sendsCached frame sps pps =>
    (avcSequenceHeader sps pps).map fun message =>
      if sendOk && p.isOpen then
        { p with messages := p.messages ++ [message], frame := .marks frame }
      else { p with frame := if isKeyframe frame then .sendsFrame frame else .idle }
  | .sendsOwn frame =>
    match avcSequenceHeaderFromFrame frame with
    | some message =>
      if sendOk && p.isOpen then
        some { p with messages := p.messages ++ [message], frame := .marks frame }
      else some { p with frame := .waits frame }
    | none => some { p with frame := .waits frame }
  | _ => some p

/-- The mark. -/
def Publisher.mark (p : Publisher) : Publisher :=
  match p.frame with
  | .marks frame => { p with avcHeaderSent := true, frame := .sendsFrame frame }
  | _ => p

/-- Five seconds. -/
def avcWaitLimitUs : UInt32 := 5000000

/-- The test of the wait. After more than five seconds the mark is set without a sequence
header. -/
def Publisher.checkWait (p : Publisher) (now : UInt32) : Publisher :=
  match p.frame with
  | .waits frame =>
    if now - p.avcWaitStartUs > avcWaitLimitUs then
      { p with avcHeaderSent := true, gaveUp := true, frame := .sendsFrame frame }
    else { p with frame := .idle }
  | _ => p

/-- The message of the frame. Unless all of it is sent the connection counts as lost. -/
def Publisher.sendFrame (p : Publisher) (sendOk : Bool) : Option Publisher :=
  match p.frame with
  | .sendsFrame frame =>
    match videoMessage frame with
    | .ok message =>
      some { p with
        messages := if p.isOpen then p.messages ++ [message] else p.messages
        isPublishing := p.isPublishing && (sendOk && p.isOpen)
        frame := .idle }
    | .error .overflow => some { p with frame := .idle }
    | .error .outOfFrame => none
  | _ => some p

/-! ### The steps of both -/

/-- A step of the connection thread or of the frame path. -/
inductive PublisherEvent
  | connect
  | publish
  | startWait (now : UInt32)
  | disconnect
  | fail
  | begin (frame : List UInt8)
  | look (parameters : Option (List UInt8 × List UInt8))
  | sendHeader (sendOk : Bool)
  | mark
  | checkWait (now : UInt32)
  | sendFrame (sendOk : Bool)

/-- A step. One that is not the next of its thread changes nothing. -/
def Publisher.step (p : Publisher) : PublisherEvent → Option Publisher
  | .connect => some p.connect
  | .publish => some p.publish
  | .startWait now => some (p.startWait now)
  | .disconnect => some p.disconnect
  | .fail => some p.fail
  | .begin frame => p.begin frame
  | .look parameters => some (p.look parameters)
  | .sendHeader sendOk => p.sendHeader sendOk
  | .mark => some p.mark
  | .checkWait now => some (p.checkWait now)
  | .sendFrame sendOk => p.sendFrame sendOk

/-! ### What is sent first -/

/-- Before each message with NAL units there is a sequence header. -/
def HeaderFirst (messages : List (List UInt8)) : Prop :=
  ∀ n message, messages[n]? = some message → IsNalu message →
    ∃ header ∈ messages.take n, IsSequenceHeader header

/-- Unless the frame path has given up waiting for the parameter sets, a sequence header is
sent on the connection before any frame. -/
def Publisher.ConfiguredFirst (p : Publisher) : Prop := p.gaveUp = false → HeaderFirst p.messages

/-- A connection begins when no sequence header has been sent by the connection object and no
frame is being sent, and a sequence header of the frame manager's parameter sets that goes
before a key frame can be sent. -/
def Publisher.Undisturbed (p : Publisher) : PublisherEvent → Prop
  | .connect => p.thread = .unconnected → p.avcHeaderSent = false ∧ p.frame = .idle
  | .sendHeader sendOk =>
    match p.frame with
    | .sendsCached frame _ _ => isKeyframe frame = true → p.isOpen = true → sendOk = true
    | _ => True
  | _ => True

instance (p : Publisher) (e : PublisherEvent) : Decidable (p.Undisturbed e) := by
  cases e with
  | sendHeader sendOk =>
    unfold Publisher.Undisturbed
    cases p.frame <;> infer_instance
  | _ =>
    unfold Publisher.Undisturbed
    infer_instance

/-- A sequence header has been sent on the current connection. -/
def Publisher.HasHeader (p : Publisher) : Prop := ∃ header ∈ p.messages, IsSequenceHeader header

/-- The next step is the mark, or the message of the frame, only if there is reason to. -/
def Publisher.StageReady (p : Publisher) : Prop :=
  match p.frame with
  | .marks _ => p.HasHeader
  | .sendsFrame _ => p.isOpen = true → p.gaveUp = false → p.HasHeader
  | _ => True

/-- The invariant of connections that begin undisturbed. -/
structure Publisher.Settled (p : Publisher) : Prop where
  mark : p.isOpen = true → p.avcHeaderSent = true → p.gaveUp = false → p.HasHeader
  stage : p.StageReady
  first : p.ConfiguredFirst

/-- A message may follow if it has no NAL units or a sequence header is there. -/
theorem HeaderFirst.append {messages : List (List UInt8)} (h : HeaderFirst messages)
    {message : List UInt8}
    (hmessage : IsNalu message → ∃ header ∈ messages, IsSequenceHeader header) :
    HeaderFirst (messages ++ [message]) := by
  intro n next hnext hnalu
  have hbound := (List.getElem?_eq_some_iff.mp hnext).1
  rw [List.length_append, List.length_singleton] at hbound
  by_cases hn : n < messages.length
  · rw [List.getElem?_append_left hn] at hnext
    rw [List.take_append_of_le_length hn.le]
    exact h n next hnext hnalu
  · obtain rfl : n = messages.length := by omega
    rw [List.getElem?_append_right le_rfl, Nat.sub_self] at hnext
    obtain rfl : message = next := Option.some.inj hnext
    rw [List.take_left']
    · exact hmessage hnalu
    · rfl

section Steps

variable {p p' : Publisher}

/-- A new connection object. -/
theorem Publisher.created_settled : Publisher.created.Settled where
  mark := nofun
  stage := trivial
  first := fun _ => nofun

/-- The steps of the connection thread on a connection leave the messages alone. -/
theorem Publisher.Settled.congr (h : p.Settled) (hframe : p'.frame = p.frame)
    (hmessages : p'.messages = p.messages) (hsent : p'.avcHeaderSent = p.avcHeaderSent)
    (hgaveUp : p'.gaveUp = p.gaveUp) (hopen : p'.isOpen = true → p.isOpen = true) :
    p'.Settled := by
  obtain ⟨hmark, hstage, hfirst⟩ := h
  refine ⟨?_, ?_, ?_⟩
  · intro ho hs hg
    rw [Publisher.HasHeader, hmessages]
    exact hmark (hopen ho) (hsent ▸ hs) (hgaveUp ▸ hg)
  · unfold Publisher.StageReady at hstage ⊢
    rw [hframe]
    cases hcase : p.frame <;> rw [hcase] at hstage <;> try trivial
    · rw [Publisher.HasHeader, hmessages]
      exact hstage
    · intro ho hg
      rw [Publisher.HasHeader, hmessages]
      exact hstage (hopen ho) (hgaveUp ▸ hg)
  · intro hg
    rw [hmessages]
    exact hfirst (hgaveUp ▸ hg)

/-- A connection that begins undisturbed. -/
theorem Publisher.Settled.connect (h : p.Settled) (hgood : p.Undisturbed .connect) :
    p.connect.Settled := by
  unfold Publisher.connect
  split_ifs with hthread
  · obtain ⟨hmark, hidle⟩ := hgood hthread
    refine ⟨fun _ hs => ?_, ?_, fun _ => nofun⟩
    · exact absurd (hmark.symm.trans hs) (by decide)
    · simp only [Publisher.StageReady, hidle]
  · exact h

/-- The frame path at another step that needs nothing. -/
theorem Publisher.Settled.goTo (h : p.Settled) {stage : FrameStage}
    (hstage : Publisher.StageReady { p with frame := stage }) :
    Publisher.Settled { p with frame := stage } := ⟨h.mark, hstage, h.first⟩

/-- The look at the mark. -/
theorem Publisher.Settled.look (h : p.Settled) (parameters : Option (List UInt8 × List UInt8)) :
    (p.look parameters).Settled := by
  unfold Publisher.look
  split
  · by_cases hsent : p.avcHeaderSent = true
    · rw [if_pos hsent]
      exact h.goTo fun hopen hgaveUp => h.mark hopen hsent hgaveUp
    · rw [if_neg hsent]
      cases parameters with
      | some parameters => exact h.goTo trivial
      | none =>
        apply h.goTo
        split <;> trivial
  · exact h

/-- A sequence header that is sent. -/
theorem Publisher.Settled.sendMessage (h : p.Settled) {message : List UInt8}
    (hmessage : IsSequenceHeader message) (frame : List UInt8) :
    Publisher.Settled { p with messages := p.messages ++ [message], frame := .marks frame } := by
  have hheader : ∃ header ∈ p.messages ++ [message], IsSequenceHeader header :=
    ⟨message, List.mem_append_right _ (List.mem_singleton_self _), hmessage⟩
  exact ⟨fun _ _ _ => hheader, hheader,
    fun hgaveUp => (h.first hgaveUp).append fun hnalu => absurd hnalu hmessage.not_isNalu⟩

/-- The sequence header. -/
theorem Publisher.Settled.sendHeader (h : p.Settled) {sendOk : Bool}
    (hgood : p.Undisturbed (.sendHeader sendOk)) (hstep : p.sendHeader sendOk = some p') :
    p'.Settled := by
  unfold Publisher.sendHeader at hstep
  unfold Publisher.Undisturbed at hgood
  split at hstep
  · rename_i frame sps pps hframe
    rw [hframe] at hgood
    obtain ⟨message, hmessage, rfl⟩ := Option.map_eq_some_iff.mp hstep
    split_ifs with hsent hkey
    · exact h.sendMessage (avcSequenceHeader_isSequenceHeader hmessage) frame
    · refine h.goTo fun hopen => ?_
      exact absurd (Bool.and_eq_true_iff.mpr ⟨hgood hkey hopen, hopen⟩) hsent
    · exact h.goTo trivial
  · rename_i frame hframe
    split at hstep
    · rename_i message hmessage
      split_ifs at hstep
      · obtain rfl := Option.some.inj hstep
        exact h.sendMessage (avcSequenceHeaderFromFrame_isSequenceHeader hmessage) frame
      · obtain rfl := Option.some.inj hstep
        exact h.goTo trivial
    · obtain rfl := Option.some.inj hstep
      exact h.goTo trivial
  · exact Option.some.inj hstep ▸ h

/-- The mark comes after a sequence header. -/
theorem Publisher.Settled.setMark (h : p.Settled) : p.mark.Settled := by
  unfold Publisher.mark
  split
  · rename_i frame hframe
    have hheader := h.stage
    rw [Publisher.StageReady, hframe] at hheader
    exact ⟨fun _ _ _ => hheader, fun _ _ => hheader, h.first⟩
  · exact h

/-- The end of the wait is noted. -/
theorem Publisher.Settled.checkWait (h : p.Settled) (now : UInt32) : (p.checkWait now).Settled := by
  unfold Publisher.checkWait
  split
  · split_ifs
    · exact ⟨nofun, nofun, nofun⟩
    · exact h.goTo trivial
  · exact h

/-- The message of a frame. -/
theorem Publisher.Settled.sendFrame (h : p.Settled) {sendOk : Bool}
    (hstep : p.sendFrame sendOk = some p') : p'.Settled := by
  unfold Publisher.sendFrame at hstep
  split at hstep
  · rename_i frame hframe
    split at hstep
    · rename_i message hmessage
      obtain rfl := Option.some.inj hstep
      have hstage := h.stage
      rw [Publisher.StageReady, hframe] at hstage
      cases hopen : p.isOpen with
      | true =>
        refine ⟨fun _ hs hg => ?_, trivial, fun hg => ?_⟩
        · obtain ⟨header, hmem, hheader⟩ := h.mark hopen hs hg
          exact ⟨header, List.mem_append_left _ hmem, hheader⟩
        · exact (h.first hg).append fun _ => hstage hopen hg
      | false => exact ⟨h.mark, trivial, h.first⟩
    · exact Option.some.inj hstep ▸ h.goTo trivial
    · cases hstep
  · exact Option.some.inj hstep ▸ h

/-- Every undisturbed step. -/
theorem Publisher.Settled.step (h : p.Settled) {e : PublisherEvent} (hgood : p.Undisturbed e)
    (hstep : p.step e = some p') : p'.Settled := by
  cases e with
  | connect => exact Option.some.inj hstep ▸ h.connect hgood
  | publish =>
    obtain rfl := Option.some.inj hstep
    unfold Publisher.publish
    split_ifs with hthread
    · refine h.congr rfl rfl rfl rfl fun _ => ?_
      simp [Publisher.isOpen, hthread]
    · exact h
  | startWait now =>
    obtain rfl := Option.some.inj hstep
    unfold Publisher.startWait
    split_ifs with hthread
    · refine h.congr rfl rfl rfl rfl fun _ => ?_
      simp [Publisher.isOpen, hthread]
    · exact h
  | disconnect =>
    obtain rfl := Option.some.inj hstep
    unfold Publisher.disconnect
    split_ifs
    · exact h.congr rfl rfl rfl rfl nofun
    · exact h
  | fail =>
    obtain rfl := Option.some.inj hstep
    unfold Publisher.fail
    split_ifs with hthread
    · refine h.congr rfl rfl rfl rfl fun _ => ?_
      simp [Publisher.isOpen, hthread]
    · exact h
  | begin frame =>
    change p.begin frame = some p' at hstep
    unfold Publisher.begin at hstep
    split_ifs at hstep
    · exact Option.some.inj hstep ▸ h.goTo trivial
    · exact Option.some.inj hstep ▸ h
  | look parameters => exact Option.some.inj hstep ▸ h.look parameters
  | sendHeader sendOk => exact h.sendHeader hgood hstep
  | mark => exact Option.some.inj hstep ▸ h.setMark
  | checkWait now => exact Option.some.inj hstep ▸ h.checkWait now
  | sendFrame sendOk => exact h.sendFrame hstep

end Steps

/-- After any run whose steps are undisturbed a sequence header was sent on the connection
before any frame, unless the frame path has given up waiting for the parameter sets. -/
theorem Publisher.run_configuredFirst {events : List PublisherEvent} {p : Publisher}
    (h : Runs.Allowed Publisher.step Publisher.Undisturbed .created events)
    (hrun : events.foldlM Publisher.step .created = some p) : p.ConfiguredFirst :=
  (h.invariant (fun _ _ _ hs hgood hstep => Publisher.Settled.step hs hgood hstep) hrun
    Publisher.created_settled).first

/-- A key frame with its parameter sets. -/
def keyframeWithParameters : List UInt8 :=
  [0, 0, 0, 1, 0x67, 0x42, 0x00, 0x1F, 0, 0, 0, 1, 0x68, 0xCE, 0, 0, 0, 1, 0x65, 0x88]

/-- An inter frame. -/
def interFrame : List UInt8 := [0, 0, 0, 1, 0x41, 0x9A]

/-- The connection is lost while the frame path waits, and the next connection sends the
sequence header of a key frame, the key frame and an inter frame. -/
def undisturbedRun : List PublisherEvent :=
  [.connect, .publish, .startWait 0, .begin interFrame, .look none, .checkWait 40000, .disconnect,
    .connect, .publish, .startWait 30000000, .begin keyframeWithParameters, .look none,
    .sendHeader true, .mark, .sendFrame true, .begin interFrame, .look none, .sendFrame true]

theorem Publisher.run_configuredFirst_undisturbedRun :
    ∃ p, undisturbedRun.foldlM Publisher.step .created = some p ∧ p.ConfiguredFirst := by
  have hallowed : Runs.Allowed Publisher.step Publisher.Undisturbed .created undisturbedRun := by
    decide +kernel
  have hsome : (undisturbedRun.foldlM Publisher.step .created).isSome = true := by
    decide +kernel
  obtain ⟨p, hrun⟩ := Option.isSome_iff_exists.mp hsome
  exact ⟨p, hrun, Publisher.run_configuredFirst hallowed hrun⟩

/-- No parameter sets come for more than five seconds. -/
def impatientRun : List PublisherEvent :=
  [.connect, .publish, .startWait 0, .begin interFrame, .look none, .checkWait 5000001,
    .sendFrame true]

/-- After five seconds a frame is sent without a sequence header. -/
theorem Publisher.not_run_headerFirst :
    ¬∀ (events : List PublisherEvent) (p : Publisher),
      events.foldlM Publisher.step .created = some p → HeaderFirst p.messages := by
  intro h
  have hrun : impatientRun.foldlM Publisher.step .created =
      some ⟨.looping, true, true, 0, .idle, [[0x27, 1, 0, 0, 0, 0, 0, 0, 2, 0x41, 0x9A]],
        true⟩ := by
    decide +kernel
  obtain ⟨header, hmem, -⟩ := h impatientRun _ hrun 0 _ rfl rfl
  cases hmem

/-! ### Connections that begin with the mark -/

/-- The mark is set, and no sequence header is under way. -/
def Publisher.Marked (p : Publisher) : Prop :=
  p.avcHeaderSent = true ∧
    match p.frame with
    | .idle | .begun _ | .sendsFrame _ => True
    | _ => False

/-- No sequence header has been sent since an earlier state. -/
def Publisher.NoHeaderSince (p p' : Publisher) : Prop :=
  p'.Marked ∧ ∀ message ∈ p'.messages, IsSequenceHeader message → message ∈ p.messages

/-- A step that leaves the mark and the stage of the frame alone sends no sequence header if it
sends nothing. -/
theorem Publisher.Marked.same {p q : Publisher} (h : p.Marked)
    (hsent : q.avcHeaderSent = p.avcHeaderSent) (hframe : q.frame = p.frame)
    (hmessages : q.messages = p.messages ∨ q.messages = []) : p.NoHeaderSince q := by
  refine ⟨by rwa [Publisher.Marked, hsent, hframe], ?_⟩
  intro message hmem _
  rcases hmessages with heq | heq
  · exact heq ▸ hmem
  · rw [heq] at hmem
    cases hmem

theorem Publisher.Marked.keep {p : Publisher} (h : p.Marked) : p.NoHeaderSince p :=
  h.same rfl rfl (.inl rfl)

/-- A frame that is sent is not a sequence header. -/
theorem Publisher.Marked.sendFrame {p p' : Publisher} (h : p.Marked) {sendOk : Bool}
    (hstep : p.sendFrame sendOk = some p') : p.NoHeaderSince p' := by
  unfold Publisher.sendFrame at hstep
  split at hstep
  · split at hstep
    · rename_i message hmessage
      obtain rfl := Option.some.inj hstep
      refine ⟨⟨h.1, trivial⟩, ?_⟩
      intro next hmem hheader
      dsimp only at hmem
      split_ifs at hmem
      · rcases List.mem_append.mp hmem with hold | hnew
        · exact hold
        · obtain rfl := List.mem_singleton.mp hnew
          exact absurd (videoMessage_isNalu hmessage) hheader.not_isNalu
      · exact hmem
    · obtain rfl := Option.some.inj hstep
      exact ⟨⟨h.1, trivial⟩, fun _ hmem _ => hmem⟩
    · cases hstep
  · exact Option.some.inj hstep ▸ h.keep

/-- Once the mark is set no sequence header is sent any more. -/
theorem Publisher.Marked.step {p p' : Publisher} (h : p.Marked) {e : PublisherEvent}
    (hstep : p.step e = some p') : p.NoHeaderSince p' := by
  have hstage := h.2
  cases e with
  | connect =>
    obtain rfl := Option.some.inj hstep
    unfold Publisher.connect
    split_ifs
    · exact h.same rfl rfl (.inr rfl)
    · exact h.keep
  | publish =>
    obtain rfl := Option.some.inj hstep
    unfold Publisher.publish
    split_ifs
    · exact h.same rfl rfl (.inl rfl)
    · exact h.keep
  | startWait now =>
    obtain rfl := Option.some.inj hstep
    unfold Publisher.startWait
    split_ifs
    · exact h.same rfl rfl (.inl rfl)
    · exact h.keep
  | disconnect =>
    obtain rfl := Option.some.inj hstep
    unfold Publisher.disconnect
    split_ifs
    · exact h.same rfl rfl (.inl rfl)
    · exact h.keep
  | fail =>
    obtain rfl := Option.some.inj hstep
    unfold Publisher.fail
    split_ifs
    · exact h.same rfl rfl (.inl rfl)
    · exact h.keep
  | begin frame =>
    change p.begin frame = some p' at hstep
    unfold Publisher.begin at hstep
    split_ifs at hstep
    · obtain rfl := Option.some.inj hstep
      exact ⟨⟨h.1, trivial⟩, fun _ hmem _ => hmem⟩
    · exact Option.some.inj hstep ▸ h.keep
  | look parameters =>
    obtain rfl := Option.some.inj hstep
    unfold Publisher.look
    split
    · rw [if_pos h.1]
      exact ⟨⟨h.1, trivial⟩, fun _ hmem _ => hmem⟩
    · exact h.keep
  -- The mark excludes the stages of a sequence header.
  | sendHeader sendOk =>
    change p.sendHeader sendOk = some p' at hstep
    unfold Publisher.sendHeader at hstep
    split at hstep
    · rename_i hframe
      rw [hframe] at hstage
      exact hstage.elim
    · rename_i hframe
      rw [hframe] at hstage
      exact hstage.elim
    · exact Option.some.inj hstep ▸ h.keep
  | mark =>
    obtain rfl := Option.some.inj hstep
    unfold Publisher.mark
    split
    · rename_i hframe
      rw [hframe] at hstage
      exact hstage.elim
    · exact h.keep
  | checkWait now =>
    obtain rfl := Option.some.inj hstep
    unfold Publisher.checkWait
    split
    · rename_i hframe
      rw [hframe] at hstage
      exact hstage.elim
    · exact h.keep
  | sendFrame sendOk => exact h.sendFrame hstep

/-- So no connection that is established later gets one. -/
theorem Publisher.Marked.run {p p' : Publisher} (h : p.Marked) {events : List PublisherEvent}
    (hrun : events.foldlM Publisher.step p = some p') : p.NoHeaderSince p' := by
  refine Runs.invariant_foldlM ?_ hrun ⟨h, fun _ hmem _ => hmem⟩
  rintro q e q' ⟨hmarked, hold⟩ hstep
  obtain ⟨hmarked', hnew⟩ := hmarked.step hstep
  exact ⟨hmarked', fun message hmem hheader => hold _ (hnew _ hmem hheader) hheader⟩

end RtmpClient
