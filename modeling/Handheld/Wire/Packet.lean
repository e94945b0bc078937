import Handheld.Bytes
import Handheld.Input.Frame

/-! What travels on the control and data channels. -/

namespace Handheld

namespace Wire

/-- The side of a connection that sent a handshake. -/
inductive Side
  | client
  | server
  deriving DecidableEq, Inhabited

namespace Side

def toByte : Side → UInt8
  | client => 0
  | server => 1

def ofByte? (byte : UInt8) : Option Side :=
  if byte = 0 then some client else if byte = 1 then some server else none

end Side

/-- The packet that opens a session, one from each side. -/
structure Handshake where
  side : Side
  /-- The client's data port, or the server's control port. -/
  port : UInt16
  /-- The silence in seconds that the server allows; 0 from clients. -/
  heartbeatSeconds : UInt32
  deriving DecidableEq, Inhabited

/-- A sampled frame and the battery level at the moment it was sent. -/
structure Telemetry where
  frame : Frame
  battery : Int32
  deriving DecidableEq, Inhabited

/-- A packet with a length prefix. -/
inductive Packet
  | handshake (handshake : Handshake)
  | config (pollingMicros : UInt32)
  | telemetry (telemetry : Telemetry)
  deriving DecidableEq, Inhabited

/-- The kind of a packet, told by its tag. -/
inductive PacketKind
  | handshake
  | config
  | telemetry
  deriving DecidableEq, Inhabited

def Packet.kind : Packet → PacketKind
  | handshake _ => .handshake
  | config _ => .config
  | telemetry _ => .telemetry

namespace PacketKind

def tag : PacketKind → UInt8
  | handshake => 1
  | config => 2
  | telemetry => 3

def ofTag? (tag : UInt8) : Option PacketKind :=
  if tag = 1 then some handshake
  else if tag = 2 then some config
  else if tag = 3 then some telemetry
  else none

def name : PacketKind → String
  | handshake => "Handshake"
  | config => "Config"
  | telemetry => "PadTelemetry"

@[simp]
theorem ofTag?_tag (kind : PacketKind) : ofTag? kind.tag = some kind := by
  cases kind <;> rfl

end PacketKind

/-- The six bytes a client sends to show that it is alive. Read as a length, the first four
exceed every accepted frame.
-/
def heartbeat : Bytes := [0xff, 0xff, 0xff, 0xff, 0x42, 0x54]

/-- The most touch reports sent for one surface. -/
def touchLimit : Nat := 8

/-- The largest accepted length prefix, which counts the tag and the body. -/
def frameLimit : Nat := 65536

end Wire

end Handheld
