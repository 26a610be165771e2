import Strero.Rtsp.SenderRule
import Strero.Rtsp.SharedConnection

/-!
# What the client of a shared connection can parse

The bytes of a connection are whole responses and whole packets as long as both threads
begin a unit only after the one before was written to its end, and the packet that follows
a header of its own finds nothing else written in between. A client that uses TLS must have
its context, and packets in two sends bypass it.
-/

namespace Rtsp

open CString Wire UnitStream

/-! ### Intact connections -/

/-- The client can parse what it has been sent: it is the beginning of a sequence of whole
responses and packets, all of them complete if nothing is missing of the unit begun last,
and none of it has passed by the TLS layer of a client that uses it. -/
structure SharedConnection.Intact (c : SharedConnection) : Prop where
  beginning : ∃ units : List StreamUnit, c.received <+: units.flatMap StreamUnit.encode
  whole : c.owed = [] → ∃ units : List StreamUnit, c.received = units.flatMap StreamUnit.encode
  encrypted : c.usesTls = true → c.bypassed = []

/-- A unit may be begun: the one before is complete, and the TLS context of a client that
uses TLS is there. -/
def SharedConnection.Free (c : SharedConnection) : Prop :=
  c.owed = [] ∧ (c.usesTls = true → c.tlsReady = true)

/-- A step keeps an open connection parsable: a response or packet is begun when the
connection is free for it, a header in a send of its own only without TLS, and the packet
after such a header is what the client waits for. -/
def SharedConnection.Orderly (c : SharedConnection) : WriteEvent → Prop
  | .respond _ _ => c.isOpen = true → c.Free
  | .packet _ _ _ => c.isOpen = true → c.pending = none → c.Free
  | .header _ _ _ => c.isOpen = true → c.pending = none → c.Free ∧ c.usesTls = false
  | .body _ => c.isOpen = true → ∀ packet ∈ c.pending, c.owed = packet.1 ∧ c.usesTls = false
  | .accept _ | .handshake | .close => True

instance SharedConnection.decidableFree (c : SharedConnection) : Decidable c.Free :=
  inferInstanceAs (Decidable (_ ∧ (_ → _)))

instance SharedConnection.decidableOrderly (c : SharedConnection) (e : WriteEvent) :
    Decidable (c.Orderly e) := by
  cases e <;> unfold SharedConnection.Orderly <;> infer_instance

/-- The invariant of connections whose steps are orderly. -/
structure SharedConnection.Owing (c : SharedConnection) : Prop where
  owes : ∃ units, Owes StreamUnit.encode units c.received c.owed
  encrypted : c.usesTls = true → c.bypassed = []
  ready : c.tlsReady = true → c.isOpen = true

theorem SharedConnection.Owing.intact {c : SharedConnection} (h : c.Owing) : c.Intact where
  beginning := by
    obtain ⟨units, hunits⟩ := h.owes
    exact ⟨units, hunits.beginning⟩
  whole howed := by
    obtain ⟨units, hunits⟩ := h.owes
    exact ⟨units, (howed ▸ hunits).whole⟩
  encrypted := h.encrypted

/-- A free slot owes nothing. -/
theorem SharedConnection.unused_owing : SharedConnection.unused.Owing :=
  ⟨⟨[], owes_nil⟩, fun _ => rfl, fun h => nomatch h⟩

/-- A unit begins with a dollar sign or with the letter of the protocol's name. -/
theorem StreamUnit.encode_head (unit : StreamUnit) (rest : List UInt8) :
    (unit.encode ++ rest).head? = some '$'.toUInt8 ∨
      (unit.encode ++ rest).head? = some 'R'.toUInt8 := by
  cases unit with
  | response response => exact .inr rfl
  | packet channel packet hlength => exact .inl rfl

theorem StreamUnit.encode_ne_nil (unit : StreamUnit) : unit.encode ≠ [] := by
  intro hnil
  rcases unit.encode_head [] with hhead | hhead <;>
  · rw [hnil] at hhead
    cases hhead

section Steps

variable {c : SharedConnection}

/-- The frame thread begins a packet when none is pending. -/
theorem SharedConnection.step_packet (h : c.pending = none) (channel : UInt8) (packet : RtpPacket)
    (outcome : WriteOutcome) :
    c.step (.packet channel packet outcome) = c.writeUnit (packet.unit channel) outcome :=
  if_neg (by rw [h]; decide)

@[inherit_doc SharedConnection.step_packet]
theorem SharedConnection.step_header (h : c.pending = none) (channel : UInt8) (packet : RtpPacket)
    (result : ℤ) :
    c.step (.header channel packet result) = c.sendHeader channel packet result :=
  if_neg (by rw [h]; decide)

/-- It writes the packet of which it has written the header. -/
theorem SharedConnection.step_body {packet : RtpPacket} (h : c.pending = some packet) (result : ℤ) :
    c.step (.body result) = c.sendBody packet result := by
  rw [SharedConnection.step, h]

/-- A write to a closed connection has no effect. -/
theorem SharedConnection.send_of_closed (h : c.isOpen = false) (bytes : List UInt8) (result : ℤ) :
    c.send bytes result = (c, -1) := by
  rw [SharedConnection.send, if_neg (by rw [h]; decide)]

theorem SharedConnection.send_of_open (h : c.isOpen = true) (bytes : List UInt8) (result : ℤ) :
    c.send bytes result = (c.put false (bytes.take result.toNat), result) := if_pos h

@[inherit_doc SharedConnection.send_of_closed]
theorem SharedConnection.Owing.tlsWrite_of_closed (hc : c.Owing) (h : c.isOpen = false)
    (bytes : List UInt8) (outcome : WriteOutcome) : c.tlsWrite bytes outcome = (c, -1) := by
  have hready : c.tlsReady = false := by
    cases hready : c.tlsReady with
    | false => rfl
    | true => exact absurd (hc.ready hready) (by rw [h]; decide)
  unfold SharedConnection.tlsWrite
  rw [hready]
  split_ifs
  · rfl
  · exact c.send_of_closed h bytes outcome.sent
  · contradiction

/-- What a write does: the client gets as many bytes as the result says, through the TLS
layer if it uses TLS and the context is there. -/
structure SharedConnection.Writes (c : SharedConnection) (bytes : List UInt8)
    (r : SharedConnection × ℤ) : Prop where
  received : r.1.received = c.received ++ bytes.take r.2.toNat
  usesTls : r.1.usesTls = c.usesTls
  bypassed : c.usesTls = false ∨ c.tlsReady = true → r.1.bypassed = c.bypassed
  ready : r.1.tlsReady = true → r.1.isOpen = true

/-- A write to an open connection. -/
theorem SharedConnection.send_writes (h : c.isOpen = true) (bytes : List UInt8) (result : ℤ)
    (hraw : c.tlsReady = false) : c.Writes bytes (c.send bytes result) := by
  rw [c.send_of_open h]
  refine ⟨rfl, rfl, ?_, fun _ => h⟩
  rintro (htls | hready)
  · simp [SharedConnection.put, htls]
  · rw [hraw] at hready
    contradiction

@[inherit_doc SharedConnection.send_writes]
theorem SharedConnection.tlsWrite_writes (h : c.isOpen = true) (bytes : List UInt8)
    (outcome : WriteOutcome) : c.Writes bytes (c.tlsWrite bytes outcome) := by
  have hnothing : ∀ d : SharedConnection, d.received = c.received → d.usesTls = c.usesTls →
      d.bypassed = c.bypassed → d.isOpen = c.isOpen → c.Writes bytes (d, -1) := by
    intro d hreceived htls hbypassed hopen
    exact ⟨by simpa using hreceived, htls, fun _ => hbypassed, fun _ => hopen.trans h⟩
  unfold SharedConnection.tlsWrite
  split_ifs with hempty hready
  · exact hnothing c rfl rfl rfl rfl
  · exact c.send_writes h bytes outcome.sent (by simpa using hready)
  · cases lastTry 3 outcome.tries with
    | written count => exact ⟨rfl, rfl, fun _ => by simp [SharedConnection.put], fun _ => h⟩
    | unusable => exact hnothing _ rfl rfl rfl rfl
    | retry => exact hnothing c rfl rfl rfl rfl
    | failed => exact hnothing c rfl rfl rfl rfl

/-- A unit that is begun when the connection is free for it. -/
theorem SharedConnection.Owing.writeUnit (hc : c.Owing) (hfree : c.isOpen = true → c.Free)
    (unit : StreamUnit) (outcome : WriteOutcome) : (c.writeUnit unit outcome).Owing := by
  unfold SharedConnection.writeUnit
  dsimp only
  split_ifs with hopen
  · obtain ⟨howed, hready⟩ := hfree hopen
    have hwrite := c.tlsWrite_writes hopen unit.encode outcome
    obtain ⟨units, howes⟩ := hc.owes
    rw [howed] at howes
    refine ⟨?_, ?_, hwrite.ready⟩
    · exact hwrite.received ▸ howes.write unit _
    · intro htls
      rw [hwrite.usesTls] at htls
      exact (hwrite.bypassed (.inr (hready htls))).trans (hc.encrypted htls)
  · rw [hc.tlsWrite_of_closed (by simpa using hopen)]
    exact hc

/-- A header in a send of its own. -/
theorem SharedConnection.Owing.sendHeader (hc : c.Owing)
    (hfree : c.isOpen = true → c.Free ∧ c.usesTls = false) (channel : UInt8) (packet : RtpPacket)
    (result : ℤ) : (c.sendHeader channel packet result).Owing := by
  unfold SharedConnection.sendHeader
  dsimp only
  cases hopen : c.isOpen with
  | true =>
    obtain ⟨⟨howed, -⟩, htls⟩ := hfree hopen
    obtain ⟨units, howes⟩ := hc.owes
    rw [howed] at howes
    rw [c.send_of_open hopen]
    have hunit := howes.write (packet.unit channel) (min result.toNat 4)
    rw [← List.take_take] at hunit
    exact ⟨hunit, fun huses => absurd (htls.symm.trans huses) (by decide), fun _ => hopen⟩
  | false =>
    rw [c.send_of_closed hopen]
    exact ⟨hc.owes, hc.encrypted, hc.ready⟩

/-- The packet that the client waits for. -/
theorem SharedConnection.Owing.sendBody (hc : c.Owing) {packet : RtpPacket}
    (hwaits : c.isOpen = true → c.owed = packet.1 ∧ c.usesTls = false) (result : ℤ) :
    (c.sendBody packet result).Owing := by
  unfold SharedConnection.sendBody
  dsimp only
  cases hopen : c.isOpen with
  | true =>
    obtain ⟨howed, htls⟩ := hwaits hopen
    obtain ⟨units, howes⟩ := hc.owes
    rw [c.send_of_open hopen, ← howed]
    exact ⟨⟨units, howes.resume _⟩, fun huses => absurd (htls.symm.trans huses) (by decide),
      fun _ => hopen⟩
  | false =>
    rw [c.send_of_closed hopen]
    exact ⟨hc.owes, hc.encrypted, hc.ready⟩

/-- Every orderly step. -/
theorem SharedConnection.Owing.step (hc : c.Owing) {e : WriteEvent} (he : c.Orderly e) :
    (c.step e).Owing := by
  cases e with
  | accept usesTls =>
    unfold SharedConnection.step
    dsimp only
    split_ifs
    · exact hc
    · exact ⟨⟨[], owes_nil⟩, fun _ => rfl, fun h => nomatch h⟩
  | handshake =>
    unfold SharedConnection.step
    dsimp only
    split_ifs with hopen
    · rw [Bool.and_eq_true] at hopen
      exact ⟨hc.owes, hc.encrypted, fun _ => hopen.1⟩
    · exact hc
  | respond response outcome => exact hc.writeUnit he _ outcome
  | close => exact ⟨hc.owes, hc.encrypted, fun h => nomatch h⟩
  | packet channel packet outcome =>
    cases hpending : c.pending with
    | some waiting =>
      rw [SharedConnection.step, hpending]
      exact hc
    | none =>
      rw [c.step_packet hpending]
      exact hc.writeUnit (fun hopen => he hopen hpending) _ outcome
  | header channel packet result =>
    cases hpending : c.pending with
    | some waiting =>
      rw [SharedConnection.step, hpending]
      exact hc
    | none =>
      rw [c.step_header hpending]
      exact hc.sendHeader (fun hopen => he hopen hpending) channel packet result
  | body result =>
    cases hpending : c.pending with
    | none =>
      rw [SharedConnection.step, hpending]
      exact hc
    | some packet =>
      rw [c.step_body hpending]
      exact hc.sendBody (fun hopen => he hopen packet hpending) result

end Steps

/-- A packet of which anything is taken in a send of its own never goes through the TLS layer
of its client. -/
theorem SharedConnection.header_bypasses {c : SharedConnection} (hopen : c.isOpen = true)
    (htls : c.usesTls = true) (hpending : c.pending = none) (channel : UInt8) (packet : RtpPacket)
    {result : ℤ} (hresult : 0 < result) :
    ¬(c.step (.header channel packet result)).Intact := by
  intro hintact
  rw [c.step_header hpending] at hintact
  have hempty := hintact.encrypted
  unfold SharedConnection.sendHeader at hempty
  dsimp only at hempty
  rw [c.send_of_open hopen] at hempty
  simp [SharedConnection.put, htls, RtpPacket.unit, StreamUnit.encode, Rtp.frame] at hempty
  omega

/-- An answer to OPTIONS. -/
def optionsResponse : Response :=
  ⟨200, "OK", 1, [], ascii "Public: OPTIONS, DESCRIBE, SETUP, PLAY, PAUSE, TEARDOWN\r\n", none⟩

/-- The first fragment of a key frame of H.265. -/
def keyFragment : RtpPacket :=
  ⟨rtpHeader Client.initial Codec.h265.payloadType 0 false ++
    (fuHeaderH265 0x26 0x01 true false ++ List.replicate 1185 0), by decide +kernel⟩

/-- A client that uses TLS gets a response and two packets, the second of them at the second
try, and one without TLS a packet in two sends and a response; its last packet is cut when
the connection is closed. -/
def orderlyWrites : List WriteEvent :=
  [.accept true, .handshake, .respond optionsResponse ⟨0, [.written 115]⟩,
    .packet 0 ⟨[0x80], by decide⟩ ⟨0, [.written 5]⟩,
    .packet 0 ⟨[0x80], by decide⟩ ⟨0, [.retry, .written 5]⟩, .close,
    .accept false, .header 0 keyFragment 4, .body 1200, .respond optionsResponse ⟨115, []⟩,
    .header 0 keyFragment 4, .body 700, .close]

/-- Behind a whole packet comes another packet or a response. -/
theorem beginning_after_packet {channel l₁ l₀ : UInt8} {bytes : List UInt8}
    {units : List StreamUnit}
    (h : '$'.toUInt8 :: channel :: l₁ :: l₀ :: bytes <+: units.flatMap StreamUnit.encode)
    {next : UInt8} (hnext : bytes[(getBe16 l₁ l₀).toNat]? = some next) :
    next = '$'.toUInt8 ∨ next = 'R'.toUInt8 := by
  cases units with
  | nil => exact absurd (List.prefix_nil.mp h) (List.cons_ne_nil _ _)
  | cons unit units =>
    rw [List.flatMap_cons] at h
    cases unit with
    | response response =>
      have hfirst : '$'.toUInt8 = 'R'.toUInt8 := (List.cons_prefix_cons.mp h).1
      exact absurd hfirst (by decide)
    | packet channel' packet hlength =>
      have hall : '$'.toUInt8 :: channel :: l₁ :: l₀ :: bytes <+:
          '$'.toUInt8 :: channel' :: lowByte (UInt32.ofNat packet.length >>> 8) ::
            lowByte (UInt32.ofNat packet.length) ::
            (packet ++ units.flatMap StreamUnit.encode) := h
      simp only [List.cons_prefix_cons] at hall
      obtain ⟨-, -, rfl, rfl, after, hafter⟩ := hall
      have hsize : (UInt32.ofNat packet.length).toNat = packet.length := by
        rw [UInt32.toNat_ofNat']
        omega
      rw [getBe16_putBe16 (by omega), hsize] at hnext
      have hrest : (packet ++ units.flatMap StreamUnit.encode)[packet.length]? = some next := by
        rw [← hafter]
        exact List.getElem?_append_left (List.getElem?_eq_some_iff.mp hnext).1 ▸ hnext
      rw [List.getElem?_append_right le_rfl, Nat.sub_self, ← List.head?_eq_getElem?] at hrest
      cases units with
      | nil => cases hrest
      | cons unit units =>
        rw [List.flatMap_cons] at hrest
        rcases unit.encode_head (units.flatMap StreamUnit.encode) with hhead | hhead
        · exact .inl (Option.some.inj (hrest.symm.trans hhead))
        · exact .inr (Option.some.inj (hrest.symm.trans hhead))

/-- A response comes between the header of a fragment and the fragment. -/
def interruptedPacket : List WriteEvent :=
  [.accept false, .header 0 keyFragment 4, .respond optionsResponse ⟨115, []⟩, .body 1200]

/-- A packet that is written with its header, or after it. -/
def Sender.sendPacket (net : Network) (s : Sender) (write : RtpPacket × Bool) : Sender :=
  (if write.2 then s.sendInterleavedTwice net write.1.1 else s.sendInterleaved net write.1.1).1

/-- The calls of a packet, the first of them the `n`-th. -/
def packetCalls (net : Network) (n : ℕ) (client : Client) : RtpPacket × Bool → List Call
  | (packet, false) => [.tlsWrite (interleavedHeader client packet.1.length ++ packet.1)]
  | (packet, true) =>
    let header := interleavedHeader client packet.1.length
    .send client.socketFd header ::
      if net n header < 4 then [] else [.send client.socketFd packet.1]

/-- The steps of a packet, with the results of its calls, the first of them the `n`-th. -/
def packetEvents (net : Network) (n : ℕ) (channel : UInt8) : RtpPacket × Bool → List WriteEvent
  | (packet, false) => [.packet channel packet ⟨net n (packet.unit channel).encode, []⟩]
  | (packet, true) =>
    [.header channel packet (net n ((packet.unit channel).encode.take 4)),
      .body (net (n + 1) packet.1)]

/-- The steps of packets that are written one after the other. -/
def frameEvents (net : Network) (client : Client) : ℕ → List (RtpPacket × Bool) → List WriteEvent
  | _, [] => []
  | n, write :: writes =>
    packetEvents net n (UInt8.ofInt client.rtpPort) write ++
      frameEvents net client (n + (packetCalls net n client write).length) writes

/-- What the network takes of the calls, the first of them the `n`-th. -/
def taken (net : Network) : ℕ → List Call → List UInt8
  | _, [] => []
  | n, call :: calls => call.bytes.take (net n call.bytes).toNat ++ taken net (n + 1) calls

theorem taken_append (net : Network) (n : ℕ) (calls calls' : List Call) :
    taken net n (calls ++ calls') =
      taken net n calls ++ taken net (n + calls.length) calls' := by
  induction calls generalizing n with
  | nil => simp [taken]
  | cons call calls ih =>
    rw [List.cons_append, taken, taken, ih, List.append_assoc, List.length_cons]
    congr 3
    omega

/-- A packet leaves the slot as it is. -/
theorem Sender.sendPacket_client (net : Network) (s : Sender) (write : RtpPacket × Bool) :
    (s.sendPacket net write).client = s.client := by
  unfold Sender.sendPacket Sender.sendInterleavedTwice
  dsimp only
  split_ifs <;> rfl

/-- So do any packets. -/
theorem Sender.sendPackets_client (net : Network) (s : Sender) (writes : List (RtpPacket × Bool)) :
    (writes.foldl (Sender.sendPacket net) s).client = s.client := by
  induction writes generalizing s with
  | nil => rfl
  | cons write writes ih => exact (ih _).trans (s.sendPacket_client net write)

/-- The calls of a packet follow those before. -/
theorem Sender.sendPacket_calls (net : Network) (s : Sender) (write : RtpPacket × Bool) :
    (s.sendPacket net write).calls =
      s.calls ++ packetCalls net s.calls.length s.client write := by
  obtain ⟨packet, twice⟩ := write
  cases twice with
  | false => rfl
  | true =>
    change (s.sendInterleavedTwice net packet.1).1.calls = _
    unfold Sender.sendInterleavedTwice packetCalls
    dsimp only
    split
    · rename_i hshort
      have hresult : net s.calls.length (interleavedHeader s.client packet.1.length) < 4 := hshort
      rw [if_pos hresult]
      rfl
    · rename_i hwhole
      have hresult : ¬net s.calls.length (interleavedHeader s.client packet.1.length) < 4 := hwhole
      rw [if_neg hresult]
      simp [Sender.call]

/-- The calls of a frame for a client with TCP transport are those of packets that are
written one after the other. -/
theorem sendFrameToClient_packets {net : Network} {clock clock' : RtpClock} {s s' : Sender}
    {n : ℕ} {frame : List UInt8} {channel : Fin 4} {currentTime : UInt64} {random : UInt32}
    (htcp : s.client.transportMode = .tcp)
    (h : sendFrameToClient net clock s frame channel currentTime random = some (clock', s', n)) :
    ∃ writes : List (RtpPacket × Bool),
      s'.calls = (writes.foldl (Sender.sendPacket net) s).calls := by
  have hsend : ∀ {t : Sender} {rtpSeq : UInt16} {writes : List (RtpPacket × Bool)},
      t.client = { s.client with rtpSeq := rtpSeq } →
      t.calls = (writes.foldl (Sender.sendPacket net) s).calls → ∀ write : RtpPacket × Bool,
      (t.sendPacket net write).calls =
        ((writes ++ [write]).foldl (Sender.sendPacket net) s).calls := by
    intro t rtpSeq writes ht hcalls write
    rw [List.foldl_append, List.foldl_cons, List.foldl_nil, Sender.sendPacket_calls,
      Sender.sendPacket_calls, Sender.sendPackets_client, hcalls, ht]
    rfl
  have hrule : SendRule net fun t t' => t = t' ∧
      (∃ rtpSeq, t.client = { s.client with rtpSeq := rtpSeq }) ∧
      ∃ writes : List (RtpPacket × Bool),
        t.calls = (writes.foldl (Sender.sendPacket net) s).calls := by
    apply SendRule.of_invariant
    · rintro t ⟨⟨rtpSeq, ht⟩, hcalls⟩
      exact ⟨⟨t.client.rtpSeq + 1, by rw [Sender.nextSeq, ht]⟩, hcalls⟩
    · rintro t packet ⟨⟨rtpSeq, ht⟩, -⟩ - hudp
      rw [ht] at hudp
      exact absurd (htcp.symm.trans hudp) (by decide)
    · rintro t packet ⟨⟨rtpSeq, ht⟩, writes, hcalls⟩ hsize -
      exact ⟨⟨rtpSeq, ht⟩, _, hsend ht hcalls (⟨packet, hsize⟩, false)⟩
    · rintro t packet ⟨⟨rtpSeq, ht⟩, writes, hcalls⟩ hsize -
      have hslot := t.sendPacket_client net (⟨packet, hsize⟩, true)
      exact ⟨⟨rtpSeq, hslot.trans ht⟩, _, hsend ht hcalls (⟨packet, hsize⟩, true)⟩
  exact (hrule.invariant ⟨⟨s.client.rtpSeq, rfl⟩, [], rfl⟩ h).2

/-- A connection without TLS that the frame thread may write to, or a part of the way on. -/
structure SharedConnection.Gets (c d : SharedConnection) (bytes : List UInt8) : Prop where
  received : d.received = c.received ++ bytes
  isOpen : d.isOpen = true
  tlsReady : d.tlsReady = false
  pending : d.pending = none

/-- The steps of a packet on a connection without TLS bring the client what the calls took. -/
theorem SharedConnection.Gets.packetEvents {c d : SharedConnection} {bytes : List UInt8}
    (h : c.Gets d bytes) (net : Network) (n : ℕ) (client : Client) (write : RtpPacket × Bool) :
    c.Gets ((packetEvents net n (UInt8.ofInt client.rtpPort) write).foldl SharedConnection.step d)
      (bytes ++ taken net n (packetCalls net n client write)) := by
  obtain ⟨packet, twice⟩ := write
  cases twice with
  | false =>
    rw [Rtsp.packetEvents, List.foldl_cons, List.foldl_nil, d.step_packet h.pending]
    unfold SharedConnection.writeUnit SharedConnection.tlsWrite
    rw [if_neg (packet.unit _).encode_ne_nil, h.tlsReady, d.send_of_open h.isOpen, if_pos h.isOpen]
    refine ⟨?_, h.isOpen, h.tlsReady, h.pending⟩
    change d.received ++ _ = _
    rw [h.received, packetCalls, taken, taken, List.append_nil, List.append_assoc]
    rfl
  | true =>
    rw [Rtsp.packetEvents, List.foldl_cons, List.foldl_cons, List.foldl_nil,
      d.step_header h.pending]
    obtain ⟨d', hd'⟩ : ∃ d', d.sendHeader (UInt8.ofInt client.rtpPort) packet
        (net n (interleavedHeader client packet.1.length)) = d' := ⟨_, rfl⟩
    obtain ⟨hreceived, hopen, hready, hpending⟩ : d'.received = d.received ++
          (interleavedHeader client packet.1.length).take
            (net n (interleavedHeader client packet.1.length)).toNat ∧
        d'.isOpen = true ∧ d'.tlsReady = false ∧ d'.pending =
          if net n (interleavedHeader client packet.1.length) < 4 then none else some packet := by
      rw [← hd']
      unfold SharedConnection.sendHeader
      dsimp only
      rw [d.send_of_open h.isOpen]
      exact ⟨rfl, h.isOpen, h.tlsReady, rfl⟩
    rw [h.received, List.append_assoc] at hreceived
    change c.Gets (SharedConnection.step (d.sendHeader _ packet
      (net n (interleavedHeader client packet.1.length))) _) _
    rw [hd', packetCalls]
    split_ifs at hpending ⊢ with hshort
    · rw [SharedConnection.step, hpending]
      exact ⟨by simpa [taken, Call.bytes] using hreceived, hopen, hready, hpending⟩
    · rw [d'.step_body hpending]
      unfold SharedConnection.sendBody
      dsimp only
      rw [d'.send_of_open hopen]
      refine ⟨?_, hopen, hready, rfl⟩
      change d'.received ++ _ = _
      rw [hreceived]
      simp [taken, Call.bytes]

/-- So do the steps of packets that are written one after the other. -/
theorem SharedConnection.Gets.frameEvents {c d : SharedConnection} {bytes : List UInt8}
    (h : c.Gets d bytes) (net : Network) (s : Sender) (writes : List (RtpPacket × Bool)) :
    ∃ calls, (writes.foldl (Sender.sendPacket net) s).calls = s.calls ++ calls ∧
      c.Gets ((frameEvents net s.client s.calls.length writes).foldl SharedConnection.step d)
        (bytes ++ taken net s.calls.length calls) := by
  induction writes generalizing s d bytes with
  | nil => exact ⟨[], (List.append_nil _).symm, by simpa [Rtsp.frameEvents, taken] using h⟩
  | cons write writes ih =>
    have hfirst := s.sendPacket_calls net write
    have hgets := h.packetEvents net s.calls.length s.client write
    obtain ⟨calls, hcalls, hrest⟩ := ih hgets (s.sendPacket net write)
    rw [hfirst, List.append_assoc] at hcalls
    refine ⟨_, hcalls, ?_⟩
    rw [Rtsp.frameEvents, List.foldl_append, taken_append, ← List.append_assoc]
    rwa [s.sendPacket_client, hfirst, List.length_append] at hrest

/-- A frame for a client with TCP transport is a sequence of packets, each written at once or
in two steps, and if nothing else is written meanwhile, a client without TLS gets exactly what
the calls of `send_frame_to_client` took. -/
theorem SharedConnection.Gets.sendFrameToClient {c : SharedConnection} (h : c.Gets c [])
    {net : Network} {clock clock' : RtpClock} {s s' : Sender} {n : ℕ} {frame : List UInt8}
    {channel : Fin 4} {currentTime : UInt64} {random : UInt32}
    (htcp : s.client.transportMode = .tcp)
    (hsent : Rtsp.sendFrameToClient net clock s frame channel currentTime random =
      some (clock', s', n)) :
    ∃ writes calls, s'.calls = s.calls ++ calls ∧
      c.Gets ((Rtsp.frameEvents net s.client s.calls.length writes).foldl SharedConnection.step c)
        (taken net s.calls.length calls) := by
  obtain ⟨writes, hwrites⟩ := sendFrameToClient_packets htcp hsent
  obtain ⟨calls, hcalls, hgets⟩ := h.frameEvents net s writes
  exact ⟨writes, calls, hwrites.trans hcalls, hgets⟩

end Rtsp
