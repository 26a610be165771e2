import Strero.Rtsp.FragmentHeaders
import Strero.Rtsp.PacketCalls
import Strero.Rtsp.ServerSend

/-!
# The timestamps of packets

`send_frame_to_client` reads the clock of the channel once, and all packets that it sends bear
the timestamp of that reading, whatever the network does.
-/

namespace Rtsp

open Wire

/-! ### The timestamp of a packet -/

/-- The timestamp in the header of a packet. -/
def rtpTimestamp (packet : List UInt8) : UInt32 :=
  match packet.drop 4 with
  | t₃ :: t₂ :: t₁ :: t₀ :: _ => getBe32 t₃ t₂ t₁ t₀
  | _ => 0

@[simp] theorem rtpTimestamp_rtpHeader (client : Client) (payloadType : UInt8)
    (timestamp : UInt32) (marker : Bool) (payload : List UInt8) :
    rtpTimestamp (rtpHeader client payloadType timestamp marker ++ payload) = timestamp :=
  getBe32_putBe32 timestamp

/-- All packets offered from `s` to `s'` bear the timestamp. -/
def Sender.Stamped (timestamp : UInt32) (s s' : Sender) : Prop :=
  ∃ calls, s'.calls = s.calls ++ calls ∧
    ∀ packet ∈ calls.filterMap Call.packet, rtpTimestamp packet = timestamp

/-- Nothing but the calls matters. -/
theorem Sender.Stamped.of_calls_eq {timestamp : UInt32} {s s' t' : Sender}
    (h : s.Stamped timestamp s') (hafter : t'.calls = s'.calls) : s.Stamped timestamp t' := by
  obtain ⟨calls, hcalls, hstamped⟩ := h
  exact ⟨calls, by rw [hafter, hcalls], hstamped⟩

/-- The packet of a call, if it has one, bears the timestamp. -/
theorem stamped_rule (timestamp : UInt32) : CallRule timestamp (fun _ => True) fun call =>
    ∀ packet ∈ call.packet, rtpTimestamp packet = timestamp where
  rtpSeq := fun _ _ => trivial
  datagram := by
    rintro _ _ - - ⟨_, _, _, _, rfl⟩ packet hpacket
    obtain rfl := Option.some.inj hpacket
    exact rtpTimestamp_rtpHeader _ _ _ _ _
  interleaved := by
    rintro _ _ - - ⟨_, _, _, _, rfl⟩ packet hpacket
    obtain rfl := Option.some.inj hpacket
    exact rtpTimestamp_rtpHeader _ _ _ _ _
  header := fun _ _ _ _ hpacket => by cases hpacket
  packet := by
    rintro _ _ - - ⟨_, _, _, _, rfl⟩ packet hpacket
    rw [Call.packet, Option.mem_def, Option.ite_none_left_eq_some] at hpacket
    obtain rfl := Option.some.inj hpacket.2
    exact rtpTimestamp_rtpHeader _ _ _ _ _

/-- The units of a frame. -/
theorem sendNals_stamped (net : Network) (frame : List UInt8) (timestamp : UInt32) (s : Sender)
    (nals : List NalRange) : s.Stamped timestamp (sendNals net frame timestamp s nals) := by
  obtain ⟨-, calls, hcalls, hstamped⟩ :=
    (stamped_rule timestamp).sendNals net (s := s) trivial frame nals
  refine ⟨calls, hcalls, fun packet hmem => ?_⟩
  obtain ⟨call, hcall, hpacket⟩ := List.mem_filterMap.mp hmem
  exact hstamped call hcall packet hpacket

/-- A frame is sent with the timestamp of one reading of the clock. -/
theorem sendFrameToClient_stamped {net : Network} {clock : RtpClock} {s : Sender}
    {frame : List UInt8} {channel : Fin 4} {currentTime : UInt64} {random : UInt32}
    {r : RtpClock × Sender × ℕ} (hne : frame ≠ []) (hplaying : s.client.state = .playing)
    (h : sendFrameToClient net clock s frame channel currentTime random = some r) :
    let reading := calculateMonotonicRtpTimestamp clock channel currentTime random
    r.1 = reading.1 ∧ s.Stamped reading.2 r.2.1 := by
  unfold sendFrameToClient at h
  rw [if_neg fun hlength => hne (List.length_eq_zero_iff.mp hlength),
    if_neg (not_not.mpr hplaying)] at h
  split at h
  · cases h
  · obtain ⟨nals, -, rfl⟩ := Option.map_eq_some_iff.mp h
    exact ⟨rfl, sendNals_stamped net frame _ s nals⟩

/-- Offering a frame to a client that it goes to. -/
theorem offerFrame_stamped {net : Network} {clock : RtpClock} {s : Sender} (frame : LiveFrame)
    {r : RtpClock × Sender} (hne : frame.data ≠ []) (hgoes : frame.goesTo s.client)
    (h : s.offerFrame net clock frame = some r) :
    let reading :=
      calculateMonotonicRtpTimestamp clock frame.channel frame.sendTime frame.random
    r.1 = reading.1 ∧ s.Stamped reading.2 r.2 := by
  obtain ⟨hplays, hoffer⟩ := hgoes
  have hplaying := hplays.2.1
  unfold Sender.offerFrame at h
  rw [if_pos hplays] at h
  cases hcase : frame.offer s.client.needsIdr s.client.idrWaitStartUs with
  | dropped => exact absurd hcase hoffer
  | sent =>
    simp only [hcase] at h
    obtain ⟨r', hr', rfl⟩ := Option.map_eq_some_iff.mp h
    exact sendFrameToClient_stamped hne hplaying hr'
  | sentAsKey =>
    simp only [hcase] at h
    obtain ⟨_, hsent, rfl⟩ := Option.map_eq_some_iff.mp h
    obtain ⟨r', hr', rfl⟩ := Option.map_eq_some_iff.mp hsent
    obtain ⟨hclock, hstamped⟩ := sendFrameToClient_stamped hne hplaying hr'
    exact ⟨hclock, hstamped.of_calls_eq rfl⟩
  | sentByTimeout =>
    simp only [hcase] at h
    obtain ⟨r', hr', rfl⟩ := Option.map_eq_some_iff.mp h
    obtain ⟨hclock, hstamped⟩ := sendFrameToClient_stamped (s := s.clearNeedsIdr) hne hplaying hr'
    exact ⟨hclock, hstamped.of_calls_eq rfl⟩

/-- Offering a frame to a client that it does not go to. -/
theorem offerFrame_of_not_goesTo {net : Network} {clock : RtpClock} {s : Sender}
    {frame : LiveFrame} (hgoes : ¬frame.goesTo s.client) :
    s.offerFrame net clock frame = some (clock, s) := by
  unfold Sender.offerFrame
  by_cases hplays : s.client.plays frame.channel
  · have hoffer : frame.offer s.client.needsIdr s.client.idrWaitStartUs = .dropped := by
      by_contra hne
      exact hgoes ⟨hplays, hne⟩
    rw [if_pos hplays]
    simp only [hoffer]
  · rw [if_neg hplays]

end Rtsp
