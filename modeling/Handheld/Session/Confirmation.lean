import Handheld.Session.Basic

/-! Writing the server's handshake. It is encoded once, on the first attempt, and what the
stream does not take stays pending for the next attempt.
-/

namespace Handheld

namespace Session

/-- What one write to the stream gives. -/
inductive WriteOutcome
  /-- The stream took this many of the offered bytes; 0 means that it takes no more. -/
  | accepted (count : Nat)
  | wouldBlock
  | interrupted
  | failed (kind : IoKind)
  deriving DecidableEq, Inhabited

/-- The end of an attempt to confirm. -/
structure Confirmation where
  /-- Whether this attempt finished the handshake, or why the session failed. -/
  result : Except SessionFailure Bool
  session : Session
  /-- The bytes that the stream took. -/
  written : Bytes
  /-- The outcomes of writes that were not made any more. -/
  unused : List WriteOutcome

/-- Writes the pending bytes until all are out, with `written` out so far. -/
def flush (written : Bytes) : List WriteOutcome → Session → Confirmation
  | writes, session =>
      if session.outbound.isEmpty then
        ⟨.ok true, { session with phase := .connected }, written, writes⟩
      else
        match writes with
        | [] => ⟨.ok false, session, written, []⟩
        | .wouldBlock :: rest => ⟨.ok false, session, written, rest⟩
        | .interrupted :: rest => flush written rest session
        | .failed kind :: rest => ⟨.error (.ofIoKind kind), session, written, rest⟩
        | .accepted count :: rest =>
            if count = 0 then ⟨.error .peerClosed, session, written, rest⟩
            else
              flush (written ++ session.outbound.take count) rest
                { session with outbound := session.outbound.drop count }

/-- Sends the server's handshake to a client that has sent its own. In any other phase there
is nothing to do. When the list of outcomes ends, the stream is full.
-/
def confirm (session : Session) (hello : Hello) (writes : List WriteOutcome)
    : Confirmation :=
  if session.phase = .waitingForServerConfirm then
    let pending :=
      if session.outbound.isEmpty then hello.packet.encode else session.outbound
    flush [] writes { session with outbound := pending }
  else ⟨.ok false, session, [], writes⟩

end Session

end Handheld
