import Strero.Lib.Rtp
import Strero.Lib.Runs
import Strero.Lib.UnitStream
import Strero.Rtsp.RtpSender

/-!
# The RTSP connection as both threads write to it

The server thread writes responses to the connection of a slot, and the thread that
delivers frames writes packets to it. A step is one call of `rtsp_client_tls_write` or of
`send`, with what it returns, or a change of the connection by the server thread.
-/

namespace Rtsp

open CString Wire UnitStream

/-! ### What the client of a connection reads -/

/-- The text that `send_rtsp_response` prints. -/
def Response.text (response : Response) : List UInt8 :=
  ascii "RTSP/1.0 " ++ printInt response.statusCode ++ ascii " " ++ ascii response.statusText ++
    ascii "\r\nCSeq: " ++ printInt response.cseq ++
    ascii "\r\nServer: Thingino RTSP Server\r\n" ++
    (if response.sessionId = [] then []
      else ascii "Session: " ++ response.sessionId ++ ascii "\r\n") ++
    response.headers ++
    match response.body with
    | some body => ascii "Content-Type: application/sdp\r\nContent-Length: " ++
        printInt body.length ++ ascii "\r\n\r\n" ++ body
    | none => ascii "\r\n"

/-- A whole response, or a whole packet on a channel. -/
inductive StreamUnit
  | response (response : Response)
  | packet (channel : UInt8) (packet : List UInt8) (hlength : packet.length < 2 ^ 16)

/-- The bytes of a unit: a packet has its channel and its length in front of it. -/
def StreamUnit.encode : StreamUnit → List UInt8
  | .response answer => answer.text
  | .packet channel bytes _ => Rtp.frame channel bytes

/-- A packet that fits into the buffers of the functions that send. -/
abbrev RtpPacket := {packet : List UInt8 // packet.length ≤ maxRtpPacketSize}

/-- A packet as the client reads it. -/
def RtpPacket.unit (channel : UInt8) (packet : RtpPacket) : StreamUnit :=
  .packet channel packet.1 (packet.2.trans_lt (by decide))

/-! ### The connection -/

/-- The connection of a slot: whether it is open, whether its client uses TLS and whether
the slot has a TLS context, and the packet of which the frame thread has written the header
only. Kept are the bytes that the client has been sent, those that are missing of the unit
begun last, and those that were sent past the TLS layer. -/
structure SharedConnection where
  isOpen : Bool
  usesTls : Bool
  tlsReady : Bool
  pending : Option RtpPacket
  received : List UInt8
  owed : List UInt8
  bypassed : List UInt8

/-- A free slot that no connection has used. -/
def SharedConnection.unused : SharedConnection := ⟨false, false, false, none, [], [], []⟩

/-- How a call of `SSL_write` ends: it takes bytes, wants to be tried again, finds the
context unusable, or fails in another way. -/
inductive SslWrite
  | written (count : ℕ)
  | retry | unusable | failed
deriving DecidableEq

/-- What the calls behind a write return: that of `send`, or those of `SSL_write`. -/
structure WriteOutcome where
  sent : ℤ
  tries : List SslWrite

/-- The loop over at most `n` calls of `SSL_write`. -/
def lastTry : ℕ → List SslWrite → SslWrite
  | n + 1, .retry :: tries => lastTry n tries
  | _ + 1, result :: _ => result
  | _, _ => .failed

/-- Bytes reach the client, through the TLS layer or not. -/
def SharedConnection.put (c : SharedConnection) (throughTls : Bool) (bytes : List UInt8) :
    SharedConnection :=
  { c with
    received := c.received ++ bytes
    bypassed := if c.usesTls && !throughTls then c.bypassed ++ bytes else c.bypassed }

/-- `send` on the socket of the slot. -/
def SharedConnection.send (c : SharedConnection) (bytes : List UInt8) (result : ℤ) :
    SharedConnection × ℤ :=
  if c.isOpen then (c.put false (bytes.take result.toNat), result) else (c, -1)

/-- `rtsp_client_tls_write`. -/
def SharedConnection.tlsWrite (c : SharedConnection) (bytes : List UInt8)
    (outcome : WriteOutcome) : SharedConnection × ℤ :=
  if bytes = [] then (c, -1)
  else if !c.tlsReady then c.send bytes outcome.sent
  else match lastTry 3 outcome.tries with
    | .written count => (c.put true (bytes.take count), count)
    | .unusable => ({ c with tlsReady := false }, -1)
    | .retry | .failed => (c, -1)

/-- A unit in one write. -/
def SharedConnection.writeUnit (c : SharedConnection) (unit : StreamUnit)
    (outcome : WriteOutcome) : SharedConnection :=
  let r := c.tlsWrite unit.encode outcome
  if c.isOpen then { r.1 with owed := remainder unit.encode r.2.toNat } else r.1

/-- The header of a packet in a send of its own. Unless it is taken whole the packet is not
sent. -/
def SharedConnection.sendHeader (c : SharedConnection) (channel : UInt8) (packet : RtpPacket)
    (result : ℤ) : SharedConnection :=
  let unit := (packet.unit channel).encode
  let r := c.send (unit.take 4) result
  { r.1 with
    pending := if r.2 < 4 then none else some packet
    owed := if c.isOpen then remainder unit (min r.2.toNat 4) else c.owed }

/-- The packet after its header. -/
def SharedConnection.sendBody (c : SharedConnection) (packet : RtpPacket) (result : ℤ) :
    SharedConnection :=
  let r := c.send packet.1 result
  { r.1 with
    pending := none
    owed := if c.isOpen then c.owed.drop r.2.toNat else c.owed }

/-! ### The steps -/

/-- A step of one of the threads. The server thread accepts a connection, completes a TLS
handshake, writes a response, or closes the connection. The frame thread writes a packet at
once, or its header and then its bytes. -/
inductive WriteEvent
  | accept (usesTls : Bool)
  | handshake
  | respond (response : Response) (outcome : WriteOutcome)
  | close
  | packet (channel : UInt8) (packet : RtpPacket) (outcome : WriteOutcome)
  | header (channel : UInt8) (packet : RtpPacket) (result : ℤ)
  | body (result : ℤ)

/-- A step. One that its thread cannot take changes nothing: after a header that was taken
the frame thread writes the packet, and only then. -/
def SharedConnection.step (c : SharedConnection) : WriteEvent → SharedConnection
  | .accept usesTls =>
    if c.isOpen then c
    else { c with
      isOpen := true
      usesTls := usesTls
      tlsReady := false
      received := []
      owed := []
      bypassed := [] }
  | .handshake => if c.isOpen && c.usesTls then { c with tlsReady := true } else c
  | .respond response outcome => c.writeUnit (.response response) outcome
  | .close => { c with isOpen := false, tlsReady := false }
  | .packet channel packet outcome =>
    if c.pending.isSome then c else c.writeUnit (packet.unit channel) outcome
  | .header channel packet result =>
    if c.pending.isSome then c else c.sendHeader channel packet result
  | .body result =>
    match c.pending with
    | none => c
    | some packet => c.sendBody packet result

end Rtsp
