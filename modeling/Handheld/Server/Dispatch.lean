import Handheld.Server.Basic
import Handheld.Session.Confirmation
import Handheld.Session.Intake

/-! What readiness does to the server. The listener gives new connections, a session's stream
gives bytes or takes the confirmation, and a failed session is torn down at once.
-/

namespace Handheld

namespace Server

-----------------------------------------------------------------------------------------
-- New connections
-----------------------------------------------------------------------------------------

/-- What one attempt to accept a connection gives. -/
inductive AcceptOutcome
  /-- A connection, and whether its stream can be registered for readiness. -/
  | connection (address : SocketAddress) (registers : Bool)
  | interrupted
  | wouldBlock
  | failed
  deriving DecidableEq

/-- Takes in one connection. -/
def welcome (now : Moment) (address : SocketAddress) (registers : Bool) (server : Server)
    : Step :=
  match Peer.ofSocketAddress? address with
  | none => ⟨server, [.ignored address]⟩
  | some peer =>
      match server.registry.accept peer now with
      | (.rejected, _) =>
          ⟨{ server with stats.sessionsRejected := server.stats.sessionsRejected + 1 },
            [.rejected peer]⟩
      | (.admitted id, registry) =>
          if registers then
            let counted :=
              { server with
                registry
                stats.sessionsAdmitted := server.stats.sessionsAdmitted + 1 }
            (Step.mk counted [.admitted id peer]).andThen (tell (.clientConnected peer.ip))
          else ⟨server, [.unregistered peer]⟩

/-- Takes in every connection that waits. Without a listener none is taken. -/
def acceptAll (now : Moment) : List AcceptOutcome → Server → Step
  | [], server => ⟨server, []⟩
  | outcome :: rest, server =>
      if server.bound.isNone then ⟨server, []⟩
      else
        match outcome with
        | .connection address registers =>
            (server.welcome now address registers).andThen (acceptAll now rest)
        | .interrupted => acceptAll now rest server
        | .wouldBlock => ⟨server, []⟩
        | .failed => ⟨server, []⟩

-----------------------------------------------------------------------------------------
-- Streams of sessions
-----------------------------------------------------------------------------------------

/-- The readiness of a stream, and what its socket answers to the calls that follow. -/
structure StreamEvent where
  token : Registry.Token
  readable : Bool := false
  writable : Bool := false
  error : Bool := false
  hangup : Bool := false
  reads : List Session.ReadOutcome := []
  writes : List Session.WriteOutcome := []
  /-- The error that is pending on the socket. -/
  pendingError : Option IoKind := none
  /-- Why waiting for writability as well cannot be registered, if it cannot. -/
  widenFailure : Option IoKind := none
  /-- Why waiting for readability alone cannot be registered, if it cannot. -/
  narrowFailure : Option IoKind := none
  deriving DecidableEq, Inhabited

/-- An entry after an event of its stream. -/
structure Driven where
  entry : Registry.Entry
  failure : Option SessionFailure := none
  written : Bytes := []

/-- Registers an entry for other readiness, unless that fails. -/
def register (entry : Registry.Entry) (interest : Interest) (failure : Option IoKind)
    (written : Bytes)
    : Driven :=
  match failure with
  | some kind => { entry, failure := some (.ofIoKind kind), written }
  | none => { entry := { entry with interest }, written }

/-- Reads a stream that can be read. A session that has just got its handshake waits for
writability as well.
-/
def driveReads (event : StreamEvent) (now : Moment) (entry : Registry.Entry) : Driven :=
  if event.readable then
    let receipt := entry.session.receive event.reads now
    let read := { entry with session := receipt.session }
    match receipt.result with
    | .error failure => { entry := read, failure := some failure }
    | .ok _ =>
        if entry.session.phase = .waitingForHandshake ∧ receipt.session.wantsWritable then
          register read .readableWritable event.widenFailure []
        else { entry := read }
  else { entry }

/-- Confirms the handshake on a stream that can be written. A session that has been confirmed
waits for readability alone.
-/
def driveWrites (event : StreamEvent) (hello : Hello) (entry : Registry.Entry) : Driven :=
  if event.writable && entry.session.wantsWritable then
    let confirmation := entry.session.confirm hello event.writes
    let confirmed := { entry with session := confirmation.session }
    match confirmation.result with
    | .error failure =>
        { entry := confirmed, failure := some failure, written := confirmation.written }
    | .ok true => register confirmed .readable event.narrowFailure confirmation.written
    | .ok false => { entry := confirmed, written := confirmation.written }
  else { entry }

/-- What an event of its stream does to an entry. -/
def drive (event : StreamEvent) (hello : Hello) (now : Moment) (entry : Registry.Entry)
    : Driven :=
  if event.error || event.hangup then
    let failure := (event.pendingError.map SessionFailure.ofIoKind).getD .peerClosed
    { entry, failure := some failure }
  else
    let read := driveReads event now entry
    match read.failure with
    | some _ => read
    | none => driveWrites event hello read.entry

/-- Handles the event of one stream. The token of a session that has gone is ignored. -/
def handleStream (event : StreamEvent) (now : Moment) (server : Server) : Step :=
  match (Registry.idFor? event.token).bind server.registry.find? with
  | none => ⟨server, []⟩
  | some entry =>
      let driven := drive event server.hello now entry
      let wrote := if driven.written.isEmpty then [] else [.wrote entry.key driven.written]
      let changed := { server with registry := server.registry.put driven.entry }
      (Step.mk changed wrote).andThen fun server =>
        match driven.failure with
        | none => ⟨server, []⟩
        | some failure => server.teardown entry.key (.failure failure)

-----------------------------------------------------------------------------------------
-- Batches
-----------------------------------------------------------------------------------------

/-- One event of a batch of readiness. -/
inductive Readiness
  | listener (backlog : List AcceptOutcome)
  | waker
  | stream (event : StreamEvent)
  deriving DecidableEq

/-- Handles one event. -/
def handle (now : Moment) (readiness : Readiness) (server : Server) : Step :=
  match readiness with
  | .listener backlog => server.acceptAll now backlog
  | .waker => ⟨server, []⟩
  | .stream event => server.handleStream event now

/-- Handles a batch of events, in order. -/
def dispatch (now : Moment) (batch : List Readiness) (server : Server) : Step :=
  Step.forEach (handle now) batch server

end Server

end Handheld
