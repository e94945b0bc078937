import Handheld.Server.Basic

/-! What link reports do to the server. A link that goes down ends every session and closes
the sockets; while it is up and they are closed, the server tries to bind them again.
-/

namespace Handheld

namespace Server

/-- Follows one change of the link. Coming up calls for an attempt to bind at once. -/
def followLink (state : LinkState) (server : Server) : Step :=
  match state with
  | .down =>
      ((server.teardownAll .linkDown).andThen closeSockets).andThen (tell (.link false))
  | .up =>
      (server.tell (.link true)).andThen fun server =>
        ⟨if server.bound.isNone then { server with lastRebind := none } else server, []⟩

/-- Tells whether an attempt to bind is to be made. -/
def rebindDue (server : Server) (now : Moment) : Bool :=
  server.link.current.isUp && server.bound.isNone
    && match server.lastRebind with
      | none => true
      | some last => server.settings.rebindRetry ≤ Span.between last now

/-- Makes an attempt to bind, which gives the port of the listener or fails. -/
def rebind (now : Moment) (port : Option UInt16) (server : Server) : Step :=
  let server := { server with lastRebind := some now }
  match port with
  | some port =>
      ⟨{ server with bound := some port, hello.controlPort := port }, [.bound port]⟩
  | none => ⟨server, [.bindFailed]⟩

/-- Follows every queued change of the link and then binds again if that is due. -/
def handleLink (now : Moment) (port : Option UInt16) (server : Server) : Step :=
  let (changes, link) := server.link.takeAll
  (Step.forEach followLink changes { server with link }).andThen fun server =>
    if server.rebindDue now then server.rebind now port else ⟨server, []⟩

end Server

end Handheld
