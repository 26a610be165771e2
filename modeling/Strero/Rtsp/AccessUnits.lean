import Strero.Rtsp.MediaClock
import Strero.Rtsp.PacketTimestamps

/-!
# The timestamps of frames

The clock of a channel is read when a frame arrives and again for each client that the frame
goes to. So the packets of a frame agree on their timestamp as far as no tick is counted from
one client to the next, and frames follow each other in time as far as ticks are counted
between them.
-/

namespace Rtsp

/-! ### Ticks between readings -/

/-- The ticks that are counted from reading to reading. -/
def totalTicks : List UInt64 → ℕ
  | before :: next :: times => countedTicks (next - before).toNat + totalTicks (next :: times)
  | _ => 0

variable {clock : RtpClock} {channel : Fin 4}

/-- The last stamp of a channel after some calls. -/
theorem RtpClock.LastStamp.after {last : Stamp} (h : clock.LastStamp channel last)
    (calls : List ClockCall) :
    (clock.after calls).LastStamp channel
      ⟨(last.time :: channelTimes channel calls).getLast (List.cons_ne_nil _ _),
        last.timestamp +
          UInt32.ofNat (totalTicks (last.time :: channelTimes channel calls))⟩ := by
  induction calls generalizing clock last with
  | nil => simpa [channelTimes, totalTicks, RtpClock.after] using h
  | cons call calls ih =>
    by_cases hchannel : call.channel = channel
    · subst hchannel
      have hnext := ih (calculateMonotonicRtpTimestamp_lastStamp clock call.channel
        call.currentTime call.random)
      have htimes : channelTimes call.channel (call :: calls) =
          call.currentTime :: channelTimes call.channel calls := by
        simp [channelTimes]
      have hfollows := h.follows call.currentTime call.random
      rw [Stamp.Follows] at hfollows
      rw [htimes, List.getLast_cons (List.cons_ne_nil _ _), totalTicks, UInt32.ofNat_add,
        ← UInt32.add_assoc, ← hfollows]
      exact hnext
    · have hnext := ih (h.of_ne (Ne.symm hchannel) call.currentTime call.random)
      have htimes : channelTimes channel (call :: calls) = channelTimes channel calls := by
        simp [channelTimes, hchannel]
      rw [htimes]
      exact hnext

/-! ### Frames and their clients -/

/-- A frame that is given to the server: the slots at that time, the number of the connection
that each of them holds, and what the network and the clock do while it is sent. -/
structure FramePass where
  net : Slot → Network
  senders : Slot → Sender
  connection : Slot → ℕ
  frame : LiveFrame
  sendTimes : Slot → UInt64

/-- The frame is sent to the client of a slot. -/
def FramePass.GoesTo (pass : FramePass) (slot : Slot) : Prop :=
  pass.frame.data ≠ [] ∧ pass.frame.goesTo (pass.senders slot).client

instance (pass : FramePass) (slot : Slot) : Decidable (pass.GoesTo slot) :=
  inferInstanceAs (Decidable (_ ∧ _))

/-- The reading of the clock for a slot. -/
def FramePass.call (pass : FramePass) (slot : Slot) : ClockCall :=
  ⟨pass.frame.channel, pass.sendTimes slot, pass.frame.random⟩

/-- The readings for those of some slots that the frame goes to. -/
def FramePass.callsFor (pass : FramePass) (slots : List Slot) : List ClockCall :=
  (slots.filter fun slot => pass.GoesTo slot).map pass.call

/-- The reading when the frame arrives. -/
def FramePass.arrival (pass : FramePass) : ClockCall :=
  ⟨pass.frame.channel, pass.frame.sendTime, pass.frame.random⟩

/-- All readings for a frame. -/
def FramePass.calls (pass : FramePass) : List ClockCall :=
  if pass.frame.data = [] then []
  else pass.arrival :: pass.callsFor (List.finRange maxRtspClients)

/-- A frame and the clients after it has been sent. -/
structure Sent where
  pass : FramePass
  after : Slot → Sender

/-- The frames that are given to the server one after the other. The slots may change in between
in any way. A run ends at an access outside of a frame. -/
def sendAll : RtpClock → List FramePass → List Sent
  | _, [] => []
  | clock, pass :: passes =>
    match rtspServerSendFrame pass.net (clock, pass.senders) pass.frame pass.sendTimes with
    | none => []
    | some viewers => ⟨pass, viewers.2⟩ :: sendAll viewers.1 passes

/-- The packets of the frame that were offered to the client of a slot. -/
def Sent.packets (sent : Sent) (slot : Slot) : List (List UInt8) :=
  ((sent.after slot).calls.drop (sent.pass.senders slot).calls.length).filterMap Call.packet

/-! ### What happens to one frame -/

/-- The packets of a client that is offered nothing. -/
theorem Sent.packets_eq_nil {sent : Sent} {slot : Slot}
    (h : sent.after slot = sent.pass.senders slot) : sent.packets slot = [] := by
  rw [Sent.packets, h, List.drop_length, List.filterMap_nil]

/-- The packets of a client bear the timestamp of its reading. -/
theorem Sent.rtpTimestamp_of_stamped {sent : Sent} {slot : Slot} {timestamp : UInt32}
    (h : (sent.pass.senders slot).Stamped timestamp (sent.after slot)) :
    ∀ packet ∈ sent.packets slot, rtpTimestamp packet = timestamp := by
  obtain ⟨calls, hcalls, hstamped⟩ := h
  rwa [Sent.packets, hcalls, List.drop_left]

/-- The readings for a slot and for those behind it. -/
theorem FramePass.callsFor_cons (pass : FramePass) (slot : Slot) (slots : List Slot) :
    pass.callsFor (slot :: slots) =
      if pass.GoesTo slot then pass.call slot :: pass.callsFor slots
      else pass.callsFor slots := by
  unfold FramePass.callsFor
  by_cases hgoes : pass.GoesTo slot
  · simp [hgoes]
  · simp [hgoes]

theorem FramePass.channelTimes_callsFor (pass : FramePass) (slots : List Slot) :
    channelTimes pass.frame.channel (pass.callsFor slots) =
      (pass.callsFor slots).map ClockCall.currentTime := by
  have hchannel : ∀ call ∈ pass.callsFor slots, call.channel = pass.frame.channel := by
    intro call hcall
    obtain ⟨slot, -, rfl⟩ := List.mem_map.mp hcall
    rfl
  rw [channelTimes, List.filter_eq_self.mpr fun call hcall => decide_eq_true (hchannel call hcall)]

/-- What the loop over some slots does to the client of one of them: nothing if the frame does not
go to it. Otherwise it is offered packets with a timestamp from which the clock is moved on
by the readings that follow. -/
def FramePass.Serves (pass : FramePass) (slots : List Slot) (after : Viewers) (slot : Slot) :
    Prop :=
  if pass.GoesTo slot then
    ∃ timestamp times,
      (pass.sendTimes slot :: times) <:+ (pass.callsFor slots).map ClockCall.currentTime ∧
      (pass.senders slot).Stamped timestamp (after.2 slot) ∧
      after.1.LastStamp pass.frame.channel
        ⟨(pass.sendTimes slot :: times).getLast (List.cons_ne_nil _ _),
          timestamp + UInt32.ofNat (totalTicks (pass.sendTimes slot :: times))⟩
  else after.2 slot = pass.senders slot

/-- A turn of the loop reads the clock if the frame goes to the client. -/
theorem offerTo_stamped (pass : FramePass) (hne : pass.frame.data ≠ []) {slot : Slot}
    {before after : Viewers} (hsender : before.2 slot = pass.senders slot)
    (h : offerTo pass.net pass.frame pass.sendTimes before slot = some after) :
    after.1 = before.1.after (pass.callsFor [slot]) ∧
      (∀ other, other ≠ slot → after.2 other = before.2 other) ∧
      if pass.GoesTo slot then
        ∃ timestamp, (pass.senders slot).Stamped timestamp (after.2 slot) ∧
          after.1.LastStamp pass.frame.channel ⟨pass.sendTimes slot, timestamp⟩
      else after.2 slot = pass.senders slot := by
  obtain ⟨r, hoffer, rfl⟩ := Option.map_eq_some_iff.mp h
  rw [hsender] at hoffer
  rw [pass.callsFor_cons]
  dsimp only
  rw [Function.update_self]
  have hothers : ∀ other, other ≠ slot → Function.update before.2 slot r.2 other =
      before.2 other := fun other hother => Function.update_of_ne hother r.2 before.2
  by_cases hgoes : pass.GoesTo slot
  · rw [if_pos hgoes, if_pos hgoes]
    obtain ⟨hclock, hstamped⟩ := offerFrame_stamped
      { pass.frame with sendTime := pass.sendTimes slot } hne hgoes.2 hoffer
    refine ⟨hclock, hothers, _, hstamped, ?_⟩
    rw [hclock]
    exact calculateMonotonicRtpTimestamp_lastStamp _ _ _ _
  · rw [if_neg hgoes, if_neg hgoes]
    have hgoes' : ¬LiveFrame.goesTo { pass.frame with sendTime := pass.sendTimes slot }
        (pass.senders slot).client := fun h => hgoes ⟨hne, h⟩
    rw [offerFrame_of_not_goesTo hgoes'] at hoffer
    obtain rfl := Option.some.inj hoffer
    exact ⟨rfl, hothers, rfl⟩

/-- The loop over some slots serves the client of each of them. -/
theorem foldlM_offerTo_serves (pass : FramePass) (hne : pass.frame.data ≠ []) {slots : List Slot}
    (hnodup : slots.Nodup) {before after : Viewers}
    (hsenders : ∀ slot ∈ slots, before.2 slot = pass.senders slot)
    (h : slots.foldlM (offerTo pass.net pass.frame pass.sendTimes) before = some after) :
    after.1 = before.1.after (pass.callsFor slots) ∧
      (∀ slot ∉ slots, after.2 slot = before.2 slot) ∧
      ∀ slot ∈ slots, pass.Serves slots after slot := by
  induction slots generalizing before with
  | nil =>
    obtain rfl := Option.some.inj h
    exact ⟨rfl, fun _ _ => rfl, fun _ hmem => by cases hmem⟩
  | cons first slots ih =>
    obtain ⟨hnotMem, hnodup⟩ := List.nodup_cons.mp hnodup
    rw [List.foldlM_cons] at h
    obtain ⟨next, hfirst, hrest⟩ := Option.bind_eq_some_iff.mp h
    obtain ⟨hclock, hothers, hserved⟩ :=
      offerTo_stamped pass hne (hsenders first List.mem_cons_self) hfirst
    have hne_first : ∀ slot ∈ slots, slot ≠ first :=
      fun slot hmem heq => hnotMem (heq ▸ hmem)
    obtain ⟨hclock', hothers', hserves⟩ := ih hnodup (fun slot hmem => by
      rw [hothers slot (hne_first slot hmem), hsenders slot (List.mem_cons_of_mem _ hmem)]) hrest
    have hcalls : pass.callsFor (first :: slots) =
        pass.callsFor [first] ++ pass.callsFor slots := by
      rw [pass.callsFor_cons, pass.callsFor_cons first []]
      split <;> rfl
    refine ⟨?_, ?_, ?_⟩
    · rw [hclock', hclock, hcalls, RtpClock.after, RtpClock.after, RtpClock.after,
        List.foldl_append]
    · intro slot hmem
      obtain ⟨hslot, hmem⟩ := not_or.mp (mt List.mem_cons.mpr hmem)
      rw [hothers' slot hmem, hothers slot hslot]
    · intro slot hmem
      rcases List.mem_cons.mp hmem with rfl | hmem
      · -- its own reading is the first, and those of the others follow
        rw [FramePass.Serves]
        rw [hothers' slot hnotMem]
        by_cases hgoes : pass.GoesTo slot
        · rw [if_pos hgoes] at hserved ⊢
          obtain ⟨timestamp, hstamped, hlast⟩ := hserved
          refine ⟨timestamp, (pass.callsFor slots).map ClockCall.currentTime, ?_, hstamped, ?_⟩
          · rw [pass.callsFor_cons, if_pos hgoes]
            exact List.suffix_refl _
          · rw [hclock']
            have hafter := hlast.after (pass.callsFor slots)
            rwa [pass.channelTimes_callsFor] at hafter
        · rw [if_neg hgoes] at hserved ⊢
          exact hserved
      · have hlater := hserves slot hmem
        rw [FramePass.Serves] at hlater ⊢
        split
        · rename_i hgoes
          rw [if_pos hgoes] at hlater
          obtain ⟨timestamp, times, hsuffix, hrest⟩ := hlater
          refine ⟨timestamp, times, hsuffix.trans ?_, hrest⟩
          rw [hcalls, List.map_append]
          exact List.suffix_append _ _
        · rename_i hgoes
          rwa [if_neg hgoes] at hlater

/-- The readings for the clients that the frame goes to. -/
def FramePass.clientTimes (pass : FramePass) : List UInt64 :=
  (pass.callsFor (List.finRange maxRtspClients)).map ClockCall.currentTime

/-- No tick is counted from the reading for a client to that for the last one. -/
def FramePass.StandsStill (pass : FramePass) : Prop :=
  ∀ times ∈ pass.clientTimes.tails, totalTicks times % 2 ^ 32 = 0

/-- The last reading for a frame. -/
def FramePass.lastTime (pass : FramePass) : UInt64 :=
  (pass.frame.sendTime :: pass.clientTimes).getLast (List.cons_ne_nil _ _)

/-- A frame moves the clock on by its readings. If the clock stands still, then all packets bear
the timestamp that it has afterwards. -/
theorem rtspServerSendFrame_stamped (pass : FramePass) {clock : RtpClock} {after : Viewers}
    (h : rtspServerSendFrame pass.net (clock, pass.senders) pass.frame pass.sendTimes =
      some after) :
    after.1 = clock.after pass.calls ∧
      ∀ slot, ∀ packet ∈ (Sent.mk pass after.2).packets slot, pass.GoesTo slot ∧
        (pass.StandsStill →
          after.1.LastStamp pass.frame.channel ⟨pass.lastTime, rtpTimestamp packet⟩) := by
  unfold rtspServerSendFrame at h
  unfold FramePass.calls
  by_cases hempty : pass.frame.data = []
  · rw [if_pos (List.length_eq_zero_iff.mpr hempty)] at h
    obtain rfl := Option.some.inj h
    rw [if_pos hempty]
    refine ⟨rfl, fun slot packet hmem => ?_⟩
    rw [Sent.packets_eq_nil rfl] at hmem
    cases hmem
  · rw [if_neg fun hlength => hempty (List.length_eq_zero_iff.mp hlength)] at h
    rw [if_neg hempty]
    obtain ⟨hclock, -, hserves⟩ := foldlM_offerTo_serves pass hempty (List.nodup_finRange _)
      (fun _ _ => rfl) h
    refine ⟨hclock, fun slot packet hmem => ?_⟩
    have hserved := hserves slot (List.mem_finRange slot)
    rw [FramePass.Serves] at hserved
    split at hserved
    · rename_i hgoes
      obtain ⟨timestamp, times, hsuffix, hstamped, hlast⟩ := hserved
      refine ⟨hgoes, fun hstill => ?_⟩
      have hticks : totalTicks (pass.sendTimes slot :: times) % 2 ^ 32 = 0 :=
        hstill _ ((List.mem_tails _ _).mpr hsuffix)
      have hsame : UInt32.ofNat (totalTicks (pass.sendTimes slot :: times)) = 0 := by
        rw [← UInt32.toNat_inj, UInt32.toNat_ofNat', hticks]
        rfl
      have htime : (pass.sendTimes slot :: times).getLast (List.cons_ne_nil _ _) =
          pass.lastTime :=
        (hsuffix.trans (List.suffix_cons pass.frame.sendTime _)).getLast (List.cons_ne_nil _ _)
      rw [hsame, UInt32.add_zero, htime] at hlast
      rwa [Sent.rtpTimestamp_of_stamped hstamped packet hmem]
    · rw [Sent.packets_eq_nil hserved] at hmem
      cases hmem

/-! ### Frames of one client -/

/-- The frames go to one and the same client. -/
def FramePass.SharesClient (earlier later : FramePass) : Prop :=
  ∃ slot, earlier.GoesTo slot ∧ later.GoesTo slot ∧
    earlier.connection slot = later.connection slot

instance (earlier later : FramePass) : Decidable (earlier.SharesClient later) :=
  inferInstanceAs (Decidable (∃ _, _))

/-- The frames arrive at least one tick of 90 kHz apart. -/
def FramePass.TickApart (earlier later : FramePass) : Prop :=
  1000000 ≤ (later.frame.sendTime.toNat - earlier.frame.sendTime.toNat) * 90000

instance (earlier later : FramePass) : Decidable (earlier.TickApart later) :=
  inferInstanceAs (Decidable (_ ≤ _))

/-- The second timestamp is after the first one, modulo 2^32. -/
def Before (timestamp timestamp' : UInt32) : Prop :=
  0 < (timestamp' - timestamp).toNat ∧ (timestamp' - timestamp).toNat < 2 ^ 31

instance (timestamp timestamp' : UInt32) : Decidable (Before timestamp timestamp') :=
  inferInstanceAs (Decidable (_ ∧ _))

/-- All packets of a frame bear one timestamp, and those of different frames of one client, a tick
apart or more, bear increasing ones. -/
def OneTimestampPerFrame (sent : List Sent) : Prop :=
  (∀ s ∈ sent, ∀ i j, ∀ p ∈ s.packets i, ∀ q ∈ s.packets j, rtpTimestamp p = rtpTimestamp q) ∧
    sent.Pairwise fun earlier later => earlier.pass.TickApart later.pass →
      ∀ slot, earlier.pass.connection slot = later.pass.connection slot →
        ∀ p ∈ earlier.packets slot, ∀ q ∈ later.packets slot,
          Before (rtpTimestamp p) (rtpTimestamp q)

/-- From the last reading for a frame on, the clock advances before each frame that goes to one
of its clients and is at least a tick apart, and that frame is of the same channel. -/
def FramePass.ClockAdvances (earlier : FramePass) (last : UInt64) (ticks : ℕ) :
    List FramePass → Prop
  | [] => True
  | later :: passes =>
    let times := last :: channelTimes earlier.frame.channel later.calls
    let ticks := ticks + totalTicks times
    (earlier.SharesClient later → earlier.TickApart later →
      later.frame.channel = earlier.frame.channel ∧ 0 < ticks % 2 ^ 32 ∧ ticks % 2 ^ 32 < 2 ^ 31) ∧
    earlier.ClockAdvances (times.getLast (List.cons_ne_nil _ _)) ticks passes

/-- The clock stands still during each frame, and advances between frames. -/
def ClockFits : List FramePass → Prop
  | [] => True
  | pass :: passes =>
    pass.StandsStill ∧ pass.ClockAdvances pass.lastTime 0 passes ∧ ClockFits passes

instance (pass : FramePass) : Decidable pass.StandsStill :=
  inferInstanceAs (Decidable (∀ times ∈ pass.clientTimes.tails, _))

instance FramePass.ClockAdvances.decidable (earlier : FramePass) : (last : UInt64) → (ticks : ℕ) →
    (passes : List FramePass) → Decidable (earlier.ClockAdvances last ticks passes)
  | _, _, [] => inferInstanceAs (Decidable True)
  | last, ticks, later :: passes =>
    have := FramePass.ClockAdvances.decidable earlier
      ((last :: channelTimes earlier.frame.channel later.calls).getLast (List.cons_ne_nil _ _))
      (ticks + totalTicks (last :: channelTimes earlier.frame.channel later.calls)) passes
    inferInstanceAs (Decidable (_ ∧ _))

instance ClockFits.decidable : (passes : List FramePass) → Decidable (ClockFits passes)
  | [] => inferInstanceAs (Decidable True)
  | _ :: passes =>
    have := ClockFits.decidable passes
    inferInstanceAs (Decidable (_ ∧ _ ∧ _))

/-- The frames after one whose packets bear a timestamp. -/
theorem sendAll_before (earlier : FramePass) {clock : RtpClock} {last : UInt64} {timestamp : UInt32}
    {ticks : ℕ}
    (hlast : clock.LastStamp earlier.frame.channel ⟨last, timestamp + UInt32.ofNat ticks⟩)
    {passes : List FramePass} (hadvances : earlier.ClockAdvances last ticks passes)
    (hfits : ClockFits passes) :
    ∀ later ∈ sendAll clock passes, earlier.TickApart later.pass →
      ∀ slot, earlier.GoesTo slot → earlier.connection slot = later.pass.connection slot →
        ∀ q ∈ later.packets slot, Before timestamp (rtpTimestamp q) := by
  induction passes generalizing clock last ticks with
  | nil => exact fun _ hmem => by cases hmem
  | cons pass passes ih =>
    obtain ⟨hstill, -, hfits⟩ := hfits
    obtain ⟨hpass, hadvances⟩ := hadvances
    rw [sendAll]
    cases hsend : rtspServerSendFrame pass.net (clock, pass.senders) pass.frame
        pass.sendTimes with
    | none => exact fun _ hmem => by cases hmem
    | some after =>
      obtain ⟨hclock, hpackets⟩ := rtspServerSendFrame_stamped pass hsend
      have hmoved := hlast.after pass.calls
      rw [← hclock, UInt32.add_assoc, ← UInt32.ofNat_add] at hmoved
      intro later hmem
      rcases List.mem_cons.mp hmem with rfl | hmem
      · intro hapart slot hgoes hconnection q hq
        obtain ⟨hgoes', hstamp⟩ := hpackets slot q hq
        obtain ⟨hchannel, hpos, hless⟩ := hpass ⟨slot, hgoes, hgoes', hconnection⟩ hapart
        have htimestamp : rtpTimestamp q = timestamp + UInt32.ofNat
            (ticks + totalTicks (last :: channelTimes earlier.frame.channel pass.calls)) := by
          have hq := (hstamp hstill).2.2
          rw [hchannel, hmoved.2.2] at hq
          exact hq.symm
        have hdifference : rtpTimestamp q - timestamp = UInt32.ofNat
            (ticks + totalTicks (last :: channelTimes earlier.frame.channel pass.calls)) := by
          rw [htimestamp]
          grind
        rw [Before, hdifference, UInt32.toNat_ofNat']
        exact ⟨hpos, hless⟩
      · exact ih hmoved hadvances hfits later hmem

/-- If the clock stands still during each frame and advances between frames, then there is one
timestamp for each frame, in every run. -/
theorem sendAll_oneTimestampPerFrame (clock : RtpClock) (passes : List FramePass)
    (hfits : ClockFits passes) : OneTimestampPerFrame (sendAll clock passes) := by
  induction passes generalizing clock with
  | nil => exact ⟨fun _ hmem => (by cases hmem), List.Pairwise.nil⟩
  | cons pass passes ih =>
    obtain ⟨hstill, hadvances, hfits⟩ := hfits
    rw [sendAll]
    cases hsend : rtspServerSendFrame pass.net (clock, pass.senders) pass.frame
        pass.sendTimes with
    | none => exact ⟨fun _ hmem => (by cases hmem), List.Pairwise.nil⟩
    | some after =>
      obtain ⟨-, hpackets⟩ := rtspServerSendFrame_stamped pass hsend
      obtain ⟨hsame, hpairs⟩ := ih after.1 hfits
      refine ⟨?_, List.pairwise_cons.mpr ⟨?_, hpairs⟩⟩
      · intro s hmem
        rcases List.mem_cons.mp hmem with rfl | hmem
        · intro i j p hp q hq
          have hp := ((hpackets i p hp).2 hstill).2.2
          have hq := ((hpackets j q hq).2 hstill).2.2
          exact hp.symm.trans hq
        · exact hsame s hmem
      · intro later hmem hapart slot hconnection p hp
        obtain ⟨hgoes, hstamp⟩ := hpackets slot p hp
        have hlast := hstamp hstill
        rw [← UInt32.add_zero (rtpTimestamp p)] at hlast
        exact sendAll_before pass hlast hadvances hfits later hmem hapart slot hgoes hconnection

/-- A key frame for two clients that play, with the times at which it arrives and is sent to
each of them. -/
def twoViewers (arrival first second : UInt64) : FramePass where
  net := fun _ => goodNetwork
  senders := fun slot => if slot.val < 2 then udpSender .h264 else ⟨.initial, []⟩
  connection := fun slot => slot.val
  frame := ⟨[0, 0, 0, 1, 0x65, 0x88], 0, .h264, 0, arrival, 0⟩
  sendTimes := fun slot => if slot.val = 0 then first else second

theorem sendAll_oneTimestampPerFrame_twoViewers : OneTimestampPerFrame
    (sendAll .initial [twoViewers 1000000 1000004 1000008, twoViewers 1040000 1040005 1040009]) :=
  sendAll_oneTimestampPerFrame .initial _ (by decide +kernel)

/-- A client that is served 12 microseconds later gets packets with another timestamp. -/
theorem not_sendAll_oneTimestampPerFrame :
    ¬OneTimestampPerFrame (sendAll .initial [twoViewers 1000000 1000001 1000013]) := by
  intro h
  have hsame := h.1
  revert hsame
  decide +kernel

end Rtsp
