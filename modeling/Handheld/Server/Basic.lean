import Handheld.Link.Monitor
import Handheld.Log.Level
import Handheld.Session.Registry
import Handheld.Settings.Basic
import Handheld.Status.Shared

/-! The state of the server between two rounds of its loop, and what a round does to the
outside. Two sockets belong together: the listener of the control channel and the data socket
on the same port; they are bound and closed as one.
-/

namespace Handheld

/-- What the server has counted. -/
structure Server.Stats where
  framesSent : Nat := 0
  /-- Telemetry that was dropped because the data socket was full. -/
  framesSkipped : Nat := 0
  sessionsAdmitted : Nat := 0
  sessionsRejected : Nat := 0
  teardowns : Nat := 0
  deriving DecidableEq, Inhabited

/-- A server between two rounds. -/
structure Server where
  settings : Settings.Network
  /-- The control port while both sockets are bound. -/
  bound : Option UInt16
  hello : Hello
  registry : Registry
  link : LinkMonitor
  /-- When the last attempt to bind again was made, unless one is to be made at once. -/
  lastRebind : Option Moment
  status : Status.Shared
  stats : Server.Stats
  deriving DecidableEq

namespace Server

/-- What became of one telemetry packet. -/
inductive SendOutcome
  | sent
  | wouldBlock
  | failed
  deriving DecidableEq, Inhabited

/-- What a round does that can be seen from outside. -/
inductive Effect
  | admitted (id : SessionId) (peer : Peer)
  /-- There was no room for a connection: its stream was shut down both ways and closed. -/
  | rejected (peer : Peer)
  /-- A connection from an address that no peer can have was dropped, its stream closed. -/
  | ignored (address : SocketAddress)
  /-- A connection could not be registered for readiness, and its stream was closed. -/
  | unregistered (peer : Peer)
  | wrote (id : SessionId) (bytes : Bytes)
  /-- A session has ended: its stream was taken off readiness, shut down both ways and closed. -/
  | disconnected (session : Session) (level : Log.Level) (reason : TeardownReason)
  /-- Events were raised for the reader of the status. -/
  | raised (events : Status.Events)
  /-- Both sockets were closed. -/
  | closed
  | bound (port : UInt16)
  | bindFailed
  | sampled
  | sent (id : SessionId) (destination : Peer) (bytes : Bytes) (outcome : SendOutcome)
  deriving DecidableEq

/-- A server after some work, with what the work did outside, in order. -/
structure Step where
  server : Server
  effects : List Effect := []

namespace Step

/-- Goes on with further work. -/
def andThen (step : Step) (work : Server → Step) : Step :=
  let later := work step.server
  ⟨later.server, step.effects ++ later.effects⟩

/-- Does a piece of work for each element of a list, in order. -/
def forEach {α : Type} (work : α → Server → Step) : List α → Server → Step
  | [], server => ⟨server, []⟩
  | element :: rest, server => (work element server).andThen (forEach work rest)

end Step

/-- A server whose sockets have just been bound; the link counts as up. -/
def start (settings : Settings.Network) (port : UInt16) (status : Status.Shared) : Server :=
  {
    settings
    bound := some port
    hello := ⟨port, settings.heartbeatTimeoutSecs⟩
    registry := .empty settings.maxSessions.toNat
    link := { current := .up }
    lastRebind := none
    status := status.write (.link true)
    stats := {}
  }

/-- How long a round may wait for something to happen: while the link is up not beyond the
next telemetry.
-/
def pollTimeout (server : Server) (now : Moment) : Span :=
  if server.link.current.isUp then
    match server.registry.nextTelemetryIn now with
    | some next => min next server.settings.idleTimeout
    | none => server.settings.idleTimeout
  else server.settings.linkDownTimeout

def writeStatus (server : Server) (update : Status.Update) : Server :=
  { server with status := server.status.write update }

/-- Writes to the status as part of a round; what the write raises is seen by its reader. -/
def tell (update : Status.Update) (server : Server) : Step :=
  let events := server.status.view.raised update
  ⟨server.writeStatus update, if events = .none then [] else [.raised events]⟩

/-- The account of a session that is gone: it is counted, and its client is no longer shown. -/
def recordTeardown (level : Log.Level) (reason : TeardownReason) (session : Session)
    (server : Server)
    : Step :=
  let counted := { server with stats.teardowns := server.stats.teardowns + 1 }
  (Step.mk counted [.disconnected session level reason]).andThen
    (tell (.clientDisconnected session.peer.ip))

/-- Ends one session; an unknown number changes nothing. -/
def teardown (id : SessionId) (reason : TeardownReason) (server : Server) : Step :=
  match server.registry.remove id with
  | (none, _) => ⟨server, []⟩
  | (some session, registry) =>
      let level := if reason.isOrderly then Log.Level.info else .warn
      { server with registry }.recordTeardown level reason session

/-- Ends every session, in the order of admission. -/
def teardownAll (reason : TeardownReason) (server : Server) : Step :=
  let (sessions, registry) := server.registry.drain
  Step.forEach (recordTeardown .info reason) sessions { server with registry }

/-- Closes both sockets, if they are bound. -/
def closeSockets (server : Server) : Step :=
  ⟨{ server with bound := none }, if server.bound.isSome then [.closed] else []⟩

/-- Ends every session and closes the sockets. -/
def shutdown (server : Server) : Step :=
  (server.teardownAll .shutdown).andThen closeSockets

end Server

end Handheld
