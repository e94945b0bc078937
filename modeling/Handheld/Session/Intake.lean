import Handheld.Session.Basic
import Handheld.Wire.Segmentation

/-! What received bytes do to a session. Bytes are cut into items together with those that
waited, the items are applied in order, and what is left waits for more.
-/

namespace Handheld

namespace Session

/-- What a packet does to a session. A handshake counts once, a polling request after the
handshake, and everything else is ignored.
-/
def handle (session : Session) (packet : Wire.Packet) : Except Violation Session :=
  match session.phase, packet with
  | .waitingForHandshake, .handshake opening =>
      match session.peer.withPort? opening.port with
      | none => .error .invalidDataPort
      | some channel =>
          .ok { session with
            dataChannel := some channel
            phase := .waitingForServerConfirm }
  | .waitingForServerConfirm, .config requested => .ok (session.applyPollingInterval requested)
  | .connected, .config requested => .ok (session.applyPollingInterval requested)
  | _, _ => .ok session

/-- Notes that the peer gave a sign of life. -/
def heard (session : Session) (now : Moment) : Session :=
  { session with lastHeartbeat := now }

/-- Applies items in order up to the first violation. -/
def applyItems (now : Moment) : List Wire.Item → Session → Option Violation × Session
  | [], session => (none, session)
  | .heartbeat :: rest, session => applyItems now rest (session.heard now)
  | .packet packet :: rest, session =>
      match (session.heard now).handle packet with
      | .ok next => applyItems now rest next
      | .error violation => (some violation, session.heard now)

/-- Drops every byte that waits. -/
def purge (session : Session) : Session := { session with buffer := [] }

/-- Takes in received bytes. A violation drops every waiting byte, since where the next frame
would start cannot be known.
-/
def ingest (session : Session) (bytes : Bytes) (now : Moment)
    : Except SessionFailure Unit × Session :=
  if bufferLimit < session.buffer.length + bytes.length then
    (.error (.violation (.bufferOverflow bufferLimit)), session.purge)
  else
    let segments := Wire.segment (session.buffer ++ bytes)
    let (violation, applied) := applyItems now segments.items session
    match violation <|> segments.fault.map Violation.malformed with
    | some violation => (.error (.violation violation), applied.purge)
    | none => (.ok (), { applied with buffer := segments.rest })

/-- What one read of the stream gives. -/
inductive ReadOutcome
  /-- Bytes; none of them when the peer has finished. -/
  | bytes (bytes : Bytes)
  | wouldBlock
  | interrupted
  | failed (kind : IoKind)
  deriving DecidableEq, Inhabited

/-- The end of a round of reading. -/
structure Receipt where
  /-- How many bytes came, or why the session failed. -/
  result : Except SessionFailure Nat
  session : Session
  /-- The outcomes of reads that were not made any more. -/
  unread : List ReadOutcome

/-- Reads until the stream has no more to give, with `total` bytes read so far. -/
def receiveFrom (now : Moment) (total : Nat) : List ReadOutcome → Session → Receipt
  | [], session => ⟨.ok total, session, []⟩
  | .wouldBlock :: rest, session => ⟨.ok total, session, rest⟩
  | .interrupted :: rest, session => receiveFrom now total rest session
  | .failed kind :: rest, session => ⟨.error (.ofIoKind kind), session, rest⟩
  | .bytes [] :: rest, session => ⟨.error .peerClosed, session, rest⟩
  | .bytes (byte :: more) :: rest, session =>
      match session.ingest (byte :: more) now with
      | (.ok (), next) => receiveFrom now (total + more.length + 1) rest next
      | (.error failure, next) => ⟨.error failure, next, rest⟩

/-- Reads everything that the stream has, decoding as it comes. When the list of outcomes
ends, so have the bytes.
-/
def receive (session : Session) (reads : List ReadOutcome) (now : Moment) : Receipt :=
  receiveFrom now 0 reads session

end Session

end Handheld
