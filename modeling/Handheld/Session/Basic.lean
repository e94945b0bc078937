import Handheld.Address.Peer
import Handheld.Moment
import Handheld.Session.Failure
import Handheld.Wire.Encoding

/-! The control session of one client: how far its handshake has come, the bytes that do not
yet make a frame, and its clocks.
-/

namespace Handheld

/-- The identity of a session, which a registry gives only once. The number stands for a word
of 64 bits, and the two agree below 2 ^ 64; as sessions count from 1, that is as long as fewer
than 2 ^ 64 - 1 have been admitted.
-/
structure SessionId where
  number : Nat
  deriving DecidableEq, Inhabited

/-- A session is shown by its number behind `#`. -/
def SessionId.render (id : SessionId) : String := "#" ++ toString id.number

/-- How far the handshake of a session has come; it never goes back. -/
inductive Phase
  | waitingForHandshake
  | waitingForServerConfirm
  | connected
  deriving DecidableEq, Inhabited

def Phase.name : Phase → String
  | waitingForHandshake => "WaitingForHandshake"
  | waitingForServerConfirm => "WaitingForServerConfirm"
  | connected => "Connected"

/-- What the server says of itself when it confirms a handshake. -/
structure Hello where
  controlPort : UInt16
  heartbeatSeconds : UInt32
  deriving DecidableEq, Inhabited

def Hello.packet (hello : Hello) : Wire.Packet :=
  .handshake ⟨.server, hello.controlPort, hello.heartbeatSeconds⟩

/-- The control session of one client. -/
structure Session where
  id : SessionId
  peer : Peer
  phase : Phase
  /-- Received bytes that do not yet make a frame. -/
  buffer : Bytes
  /-- The part of the confirmation that is not yet written. -/
  outbound : Bytes
  /-- When a heartbeat or a frame last arrived, at first the moment of admission. -/
  lastHeartbeat : Moment
  lastTelemetry : Option Moment
  /-- The least time between two telemetry packets, in microseconds. -/
  pollingMicros : UInt32
  /-- Where the client takes telemetry, known from its handshake on. -/
  dataChannel : Option Peer
  deriving DecidableEq

namespace Session

/-- The most bytes that may wait in the receive buffer. -/
def bufferLimit : Nat := 1048576

/-- The least polling interval: one packet per picture at 144 Hz, in whole milliseconds. -/
def leastPollingMicros : UInt32 := 6000

/-- The most bytes that one read takes from the stream. -/
def readLimit : Nat := 1024

/-- A session right after its connection was accepted. -/
def start (id : SessionId) (peer : Peer) (now : Moment) : Session :=
  {
    id
    peer
    phase := .waitingForHandshake
    buffer := []
    outbound := []
    lastHeartbeat := now
    lastTelemetry := none
    pollingMicros := leastPollingMicros
    dataChannel := none
  }

def pollingInterval (session : Session) : Span := Span.ofMicros session.pollingMicros.toNat

/-- Tells whether the confirmation still has to be written. -/
def wantsWritable (session : Session) : Bool := session.phase == .waitingForServerConfirm

/-- Tells whether the peer has been silent for longer than `timeout`. -/
def isExpired (session : Session) (now : Moment) (timeout : Span) : Bool :=
  timeout < Span.between session.lastHeartbeat now

/-- The time left until telemetry is due; none before the session is connected. -/
def untilTelemetry (session : Session) (now : Moment) : Option Span :=
  if session.phase = .connected ∧ session.dataChannel.isSome then
    match session.lastTelemetry with
    | none => some 0
    | some last => some (session.pollingInterval - Span.between last now)
  else none

def telemetryDue (session : Session) (now : Moment) : Bool :=
  session.untilTelemetry now == some 0

def markTelemetrySent (session : Session) (now : Moment) : Session :=
  { session with lastTelemetry := some now }

/-- Takes over a requested polling interval unless it is below the least one. -/
def applyPollingInterval (session : Session) (requested : UInt32) : Session :=
  if leastPollingMicros ≤ requested then { session with pollingMicros := requested }
  else session

/-- The state of a session in diagnostic notation. -/
def diagnostic (session : Session) : String :=
  let address (peer : Peer) : String :=
    "PeerAddr \x7b ip: " ++ peer.ip.render ++ ", port: " ++ toString peer.port.toNat ++ " \x7d"
  let channel :=
    match session.dataChannel with
    | none => "None"
    | some peer => "Some(" ++ address peer ++ ")"
  "ClientSession \x7b id: SessionId(" ++ toString session.id.number
    ++ "), peer: " ++ address session.peer
    ++ ", state: " ++ session.phase.name
    ++ ", buffered: " ++ toString session.buffer.length
    ++ ", polling_interval_micros: " ++ toString session.pollingMicros.toNat
    ++ ", data_channel: " ++ channel ++ " \x7d"

end Session

end Handheld
