import Handheld.IoFailure
import Handheld.Wire.Malformation

/-! Why a session fails and why it is torn down, with the wording of each cause. -/

namespace Handheld

/-- What a peer did wrong on its control stream. -/
inductive Violation
  | bufferOverflow (limit : Nat)
  | malformed (reason : Wire.Malformation)
  | invalidDataPort
  deriving DecidableEq, Inhabited

/-- Why one session failed. -/
inductive SessionFailure
  | peerClosed
  | reset
  | violation (violation : Violation)
  | io (kind : IoKind)
  deriving DecidableEq, Inhabited

/-- Why a session was taken out of the registry. -/
inductive TeardownReason
  | failure (failure : SessionFailure)
  | heartbeatTimeout
  | linkDown
  | shutdown
  deriving DecidableEq, Inhabited

namespace Violation

def message : Violation → String
  | bufferOverflow limit => "receive buffer would exceed " ++ toString limit ++ " bytes"
  | malformed reason => "malformed frame: " ++ reason.message
  | invalidDataPort => "handshake announced an invalid data port"

def diagnostic : Violation → String
  | bufferOverflow limit => "BufferOverflow \x7b limit: " ++ toString limit ++ " \x7d"
  | malformed reason => "Malformed(" ++ reason.diagnostic ++ ")"
  | invalidDataPort => "InvalidDataPort"

end Violation

namespace SessionFailure

/-- A failed read or write, folded into the causes a session knows. -/
def ofIoKind : IoKind → SessionFailure
  | .connectionReset => reset
  | .connectionAborted => reset
  | .brokenPipe => reset
  | .unexpectedEnd => peerClosed
  | kind => io kind

def message : SessionFailure → String
  | peerClosed => "peer closed the connection"
  | reset => "connection reset by peer"
  | violation cause => "protocol violation: " ++ cause.message
  | io kind => "connection error: " ++ kind.name

def diagnostic : SessionFailure → String
  | peerClosed => "PeerClosed"
  | reset => "Reset"
  | violation cause => "Protocol(" ++ cause.diagnostic ++ ")"
  | io kind => "Io(" ++ kind.name ++ ")"

end SessionFailure

namespace TeardownReason

def message : TeardownReason → String
  | failure cause => cause.message
  | heartbeatTimeout => "heartbeat timeout"
  | linkDown => "network link down"
  | shutdown => "shutdown"

def diagnostic : TeardownReason → String
  | failure cause => "Error(" ++ cause.diagnostic ++ ")"
  | heartbeatTimeout => "HeartbeatTimeout"
  | linkDown => "LinkDown"
  | shutdown => "Shutdown"

/-- Tells whether a teardown is a normal end of a session. -/
def isOrderly : TeardownReason → Bool
  | failure .peerClosed => true
  | shutdown => true
  | _ => false

end TeardownReason

end Handheld
