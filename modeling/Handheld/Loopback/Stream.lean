import Handheld.Session.Confirmation
import Handheld.Session.Intake

/-! A simulated connection, seen from the server's end: bytes that the peer has sent and bytes
that it has not read yet. It answers reads and writes as a socket would.
-/

namespace Handheld

namespace Loopback

/-- Whether the peer has reset the connection. The first failing call learns of it, later
reads only see the end of the stream.
-/
inductive ResetState
  | intact
  | pending
  | reported
  deriving DecidableEq, Inhabited

/-- The server's end of a connection. -/
structure Stream where
  /-- What the peer has sent and the server has not read. -/
  inbound : Bytes := []
  finished : Bool := false
  reset : ResetState := .intact
  /-- What the server has written and the peer has not read. -/
  outbound : Bytes := []
  /-- Whether the way to the peer is full. -/
  clogged : Bool := false
  /-- Whether the server has closed its end. -/
  closed : Bool := false
  deriving Inhabited

namespace Stream

/-- Cuts bytes into pieces of at most `most` bytes; `fuel` bounds their number. -/
def pieces (most : Nat) : (fuel : Nat) → Bytes → List Bytes
  | 0, _ => []
  | fuel + 1, bytes =>
      if bytes.isEmpty then [] else bytes.take most :: pieces most fuel (bytes.drop most)

/-- What the next reads give, until one would block. -/
def reads (stream : Stream) : List Session.ReadOutcome :=
  let sent :=
    (pieces Session.readLimit (stream.inbound.length / Session.readLimit + 1)
      stream.inbound).map .bytes
  let ending :=
    match stream.reset with
    | .pending => [.failed .connectionReset]
    | .reported => [.bytes []]
    | .intact => if stream.finished then [.bytes []] else []
  sent ++ ending

/-- The stream when all reads but the given ones have been made. -/
def afterReads (stream : Stream) (unread : List Session.ReadOutcome) : Stream :=
  let left :=
    unread.flatMap fun
      | .bytes bytes => bytes
      | _ => []
  let told := stream.reset = .pending ∧ .failed .connectionReset ∉ unread
  { stream with inbound := left, reset := if told then .reported else stream.reset }

/-- What the next writes give. -/
def writes (stream : Stream) : List Session.WriteOutcome :=
  if stream.reset ≠ .intact then [.failed .connectionReset]
  else if stream.clogged then [.wouldBlock]
  else [.accepted Session.bufferLimit]

/-- The stream when bytes have been written to it, or when writing has failed. -/
def afterWrite (stream : Stream) (written : Bytes) (failed : Bool) : Stream :=
  let reset := if failed ∧ stream.reset = .pending then .reported else stream.reset
  { stream with outbound := stream.outbound ++ written, reset }

/-- The peer sends bytes; false when its side no longer takes any. -/
def send (stream : Stream) (bytes : Bytes) : Bool × Stream :=
  if stream.finished ∨ stream.closed then (false, stream)
  else (true, { stream with inbound := stream.inbound ++ bytes })

def finish (stream : Stream) : Stream := { stream with finished := true }

def resetByPeer (stream : Stream) : Stream :=
  if stream.reset = .intact then { stream with reset := .pending } else stream

/-- The peer reads everything that has been written to it. -/
def read (stream : Stream) : Bytes × Stream :=
  (stream.outbound, { stream with outbound := [] })

/-- Fills the way to the peer with zeros until it takes no more. -/
def clog (stream : Stream) : Stream := { stream with clogged := true }

/-- Drains as many bytes as were filled in. What was written before comes out first, so that
an equal number of zeros is left in its place.
-/
def unclog (stream : Stream) : Stream :=
  { stream with clogged := false, outbound := stream.outbound.map fun _ => 0 }

def close (stream : Stream) : Stream := { stream with closed := true }

/-- Lets a session read everything from its stream. -/
def receive (stream : Stream) (session : Session) (now : Moment)
    : Except SessionFailure Nat × Session × Stream :=
  let receipt := session.receive stream.reads now
  (receipt.result, receipt.session, stream.afterReads receipt.unread)

/-- Lets a session confirm its handshake on its stream. -/
def confirm (stream : Stream) (session : Session) (hello : Hello)
    : Except SessionFailure Bool × Session × Stream :=
  let confirmation := session.confirm hello stream.writes
  let failed :=
    match confirmation.result with
    | .error _ => true
    | .ok _ => false
  (confirmation.result, confirmation.session,
    stream.afterWrite confirmation.written failed)

end Stream

end Loopback

end Handheld
