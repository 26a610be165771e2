import Strero.Rtsp.FrameLoop
import Strero.Rtsp.SenderRule
import Strero.Rtsp.SlotContents

/-!
# Packets from a slot that has been used

Two slots that agree on what their connection has set itself make the functions that send
do the same. Only a datagram without a socket may carry another address, and it goes
nowhere.
-/

namespace Rtsp

/-- The call as the network sees it: a datagram without a socket goes nowhere. -/
def Call.seen : Call → Call
  | .sendto socket address packet =>
    .sendto socket (if socket < 0 then ⟨0, 0⟩ else address) packet
  | call => call

/-- The call is made on a socket. -/
def Call.isTransmitted : Call → Bool
  | .sendto socket _ _ => decide (0 ≤ socket)
  | _ => true

theorem Call.seen_bytes (call : Call) : call.seen.bytes = call.bytes := by
  cases call <;> rfl

theorem Call.seen_isTransmitted (call : Call) : call.seen.isTransmitted = call.isTransmitted := by
  cases call <;> rfl

theorem Call.seen_of_isTransmitted {call : Call} (h : call.isTransmitted = true) :
    call.seen = call := by
  cases call with
  | sendto socket address packet =>
    have hsocket : ¬socket < 0 := not_lt.mpr (of_decide_eq_true h)
    rw [Call.seen, if_neg hsocket]
  | tlsWrite bytes => rfl
  | send socket bytes => rfl

/-- Calls that the network sees alike are transmitted alike. -/
theorem filter_isTransmitted_congr {calls calls' : List Call}
    (h : calls.map Call.seen = calls'.map Call.seen) :
    calls.filter Call.isTransmitted = calls'.filter Call.isTransmitted := by
  have hseen : ∀ calls : List Call,
      calls.filter Call.isTransmitted = (calls.map Call.seen).filter Call.isTransmitted := by
    intro calls
    induction calls with
    | nil => rfl
    | cons call calls ih =>
      rw [List.map_cons, List.filter_cons, List.filter_cons, Call.seen_isTransmitted, ih]
      split
      · rename_i hsent
        rw [Call.seen_of_isTransmitted hsent]
      · rfl
  rw [hseen calls, h, ← hseen calls']

/-- Two senders for slots `c` and `d` have sent the same. -/
def Twin (c d : Client) (s t : Sender) : Prop :=
  ∃ rtpSeq, s.client = { c with rtpSeq := rtpSeq } ∧ t.client = { d with rtpSeq := rtpSeq } ∧
    s.calls.map Call.seen = t.calls.map Call.seen

section Sending

variable {own : Own} {c d : Client} {s t : Sender} {net : Network}

variable (net) in
/-- Calls that the network sees alike have the same result. -/
theorem Twin.call (h : Twin c d s t) {call call' : Call} (hseen : call.seen = call'.seen) :
    Related (Twin c d) (s.call net call) (t.call net call') := by
  obtain ⟨rtpSeq, hs, ht, hcalls⟩ := h
  have hlength : s.calls.length = t.calls.length := by
    simpa using congrArg List.length hcalls
  have hbytes : call.bytes = call'.bytes := by
    rw [← call.seen_bytes, hseen, call'.seen_bytes]
  refine ⟨⟨rtpSeq, hs, ht, ?_⟩, ?_⟩
  · simp [Sender.call, hcalls, hseen]
  · rw [Sender.call, Sender.call, hlength, hbytes]

/-- The header of a packet on the RTSP connection has a channel that the connection has
named. -/
theorem Agree.interleavedHeader (h : Agree own c d) (htwin : Twin c d s t)
    (htcp : s.client.transportMode = .tcp) :
    Rtsp.interleavedHeader s.client = Rtsp.interleavedHeader t.client := by
  obtain ⟨rtpSeq, hs, ht, -⟩ := htwin
  rw [hs] at htcp
  have hport := (h.ports (h.tcp htcp)).1
  funext packetSize
  rw [Rtsp.interleavedHeader, Rtsp.interleavedHeader, hs, ht]
  dsimp only
  rw [hport]

/-- In slots that agree the functions that send do the same once a stream is selected. -/
theorem Agree.sendRule (h : Agree own c d) (hvideo : own.video = true) :
    SendRule net (Twin c d) where
  alike := by
    rintro s t ⟨rtpSeq, hs, ht, -⟩
    have hcodec := (h.video hvideo).2
    obtain ⟨⟨leftover, rfl⟩, -⟩ := h
    rw [hs, ht]
    exact ⟨rfl, hcodec.symm, rfl, rfl, rfl, rfl⟩
  nextSeq := by
    rintro s t ⟨rtpSeq, hs, ht, hcalls⟩
    refine ⟨rtpSeq + 1, ?_, ?_, hcalls⟩
    · rw [Sender.nextSeq, hs]
    · rw [Sender.nextSeq, ht]
  datagram := by
    rintro s t packet htwin - -
    have hseen : (Call.sendto s.client.rtpSocketFd s.client.rtpAddress packet).seen =
        (Call.sendto t.client.rtpSocketFd t.client.rtpAddress packet).seen := by
      obtain ⟨rtpSeq, hs, ht, -⟩ := htwin
      have haddress := h.address
      obtain ⟨⟨leftover, rfl⟩, -⟩ := h
      rw [hs, ht]
      by_cases hsocket : c.rtpSocketFd < 0
      · simp [Call.seen, Client.put, hsocket]
      · rw [Call.seen, Call.seen]
        dsimp only
        rw [haddress (not_lt.mp hsocket)]
        rfl
    obtain ⟨hsent, hresult⟩ := htwin.call net hseen
    exact ⟨hsent, by rw [Sender.sendDatagram, Sender.sendDatagram, hresult]⟩
  interleaved := by
    intro s t packet htwin _ htcp
    rw [Sender.sendInterleaved, Sender.sendInterleaved, ← h.interleavedHeader htwin htcp]
    obtain ⟨hsent, hresult⟩ := htwin.call net (rfl : (Call.tlsWrite _).seen = _)
    exact ⟨hsent, by rw [hresult]⟩
  interleavedTwice := by
    intro s t packet htwin _ htcp
    have hsocket : ∀ {s t}, Twin c d s t → t.client.socketFd = s.client.socketFd := by
      rintro s t ⟨rtpSeq, hs, ht, -⟩
      obtain ⟨⟨leftover, rfl⟩, -⟩ := h
      rw [hs, ht]
      rfl
    rw [Sender.sendInterleavedTwice, Sender.sendInterleavedTwice, ← h.interleavedHeader htwin htcp,
      hsocket htwin]
    obtain ⟨hheader, hresult⟩ := htwin.call net
      (rfl : (Call.send s.client.socketFd (Rtsp.interleavedHeader s.client packet.length)).seen = _)
    dsimp only
    rw [← hresult]
    split
    · exact ⟨hheader, rfl⟩
    · rw [hsocket hheader]
      obtain ⟨hpacket, hlast⟩ := hheader.call net (rfl : (Call.send _ packet).seen = _)
      exact ⟨hpacket, by rw [hlast]⟩

/-- Twins of slots that agree agree. -/
theorem Agree.of_twin (h : Agree own c d) (htwin : Twin c d s t) : Agree own s.client t.client := by
  obtain ⟨rtpSeq, hs, ht, -⟩ := htwin
  obtain ⟨⟨leftover, rfl⟩, hports, hvideo, haddress, htcp, hplaying⟩ := h
  rw [hs, ht]
  exact ⟨⟨leftover, rfl⟩, hports, hvideo, haddress, htcp, hplaying⟩

/-- The slots of two senders agree, and the senders have sent the same. -/
structure AgreeSender (own : Own) (s t : Sender) : Prop where
  client : Agree own s.client t.client
  calls : s.calls.map Call.seen = t.calls.map Call.seen

/-- The end of the wait for a key frame. -/
theorem AgreeSender.clearNeedsIdr (h : AgreeSender own s t) :
    AgreeSender own s.clearNeedsIdr t.clearNeedsIdr := by
  obtain ⟨⟨⟨leftover, hleftover⟩, hports, hvideo, haddress, htcp, hplaying⟩, hcalls⟩ := h
  rw [hleftover] at hports hvideo haddress
  unfold Sender.clearNeedsIdr
  rw [hleftover]
  exact ⟨⟨⟨leftover, rfl⟩, hports, hvideo, haddress, htcp, hplaying⟩, hcalls⟩

variable (net) in
/-- A frame is sent to the slots alike. -/
theorem AgreeSender.sendFrameToClient (clock : RtpClock) (h : AgreeSender own s t)
    (hvideo : own.video = true) (frame : List UInt8) (channel : Fin 4) (currentTime : UInt64)
    (random : UInt32) :
    Option.Rel (fun r r' => r.1 = r'.1 ∧ AgreeSender own r.2 r'.2)
      ((Rtsp.sendFrameToClient net clock s frame channel currentTime random).map
        fun r => (r.1, r.2.1))
      ((Rtsp.sendFrameToClient net clock t frame channel currentTime random).map
        fun r => (r.1, r.2.1)) := by
  have hseq : t.client.rtpSeq = s.client.rtpSeq := by
    obtain ⟨⟨leftover, hleftover⟩, -⟩ := h.client
    rw [hleftover]
    rfl
  have htwin : Twin s.client t.client s t := ⟨s.client.rtpSeq, rfl, by rw [← hseq], h.calls⟩
  have hrule : SendRule net _ := h.client.sendRule hvideo
  have hsent := hrule.sendFrameToClient clock htwin frame channel
    currentTime random
  generalize Rtsp.sendFrameToClient net clock s frame channel currentTime random = r at hsent
  generalize Rtsp.sendFrameToClient net clock t frame channel currentTime random = r' at hsent
  cases hsent with
  | none => exact .none
  | some hrelated =>
    obtain ⟨hclock, hsender, -⟩ := hrelated
    exact .some ⟨hclock, h.client.of_twin hsender, hsender.choose_spec.2.2⟩

/-- The slots play the same channels, those of a stream that is selected. -/
theorem Agree.plays_iff (h : Agree own c d) (channel : Fin 4) :
    d.plays channel ↔ c.plays channel := by
  have hvideo := h.video
  have hplaying := h.playing
  obtain ⟨⟨leftover, rfl⟩, -⟩ := h
  unfold Client.plays
  constructor
  · rintro ⟨hactive, hstate, hchannel⟩
    exact ⟨hactive, hstate, (hvideo (hplaying hstate)).1 ▸ hchannel⟩
  · rintro ⟨hactive, hstate, hchannel⟩
    exact ⟨hactive, hstate, (hvideo (hplaying hstate)).1.trans hchannel⟩

variable (net) in
/-- A frame is offered to the slots alike. -/
theorem AgreeSender.offerFrame (clock : RtpClock) (h : AgreeSender own s t) (frame : LiveFrame) :
    Option.Rel (fun r r' => r.1 = r'.1 ∧ AgreeSender own r.2 r'.2)
      (s.offerFrame net clock frame) (t.offerFrame net clock frame) := by
  have hwait : frame.offer t.client.needsIdr t.client.idrWaitStartUs =
      frame.offer s.client.needsIdr s.client.idrWaitStartUs := by
    obtain ⟨⟨leftover, hleftover⟩, -⟩ := h.client
    rw [hleftover]
    rfl
  unfold Sender.offerFrame
  by_cases hplays : s.client.plays frame.channel
  · rw [if_pos hplays, if_pos ((h.client.plays_iff _).mpr hplays), hwait]
    have hvideo := h.client.playing hplays.2.1
    cases frame.offer s.client.needsIdr s.client.idrWaitStartUs with
    | dropped => exact .some ⟨rfl, h⟩
    | sent => exact h.sendFrameToClient net clock hvideo _ _ _ _
    | sentByTimeout => exact h.clearNeedsIdr.sendFrameToClient net clock hvideo _ _ _ _
    | sentAsKey =>
      have hsent := h.sendFrameToClient net clock hvideo frame.data frame.channel
        frame.sendTime frame.random
      dsimp only
      revert hsent
      generalize Option.map _ (Rtsp.sendFrameToClient net clock s _ _ _ _) = r
      generalize Option.map _ (Rtsp.sendFrameToClient net clock t _ _ _ _) = r'
      rintro (⟨hclock, hagree⟩ | _)
      · exact .some ⟨hclock, hagree.clearNeedsIdr⟩
      · exact .none
  · rw [if_neg hplays, if_neg (mt (h.client.plays_iff _).mp hplays)]
    exact .some ⟨rfl, h⟩

end Sending

end Rtsp
