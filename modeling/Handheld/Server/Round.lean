import Handheld.Server.Dispatch
import Handheld.Server.LinkChange

/-! One round of the loop: link changes, then readiness, then the sweep of silent sessions,
then telemetry. One sample of the input goes to every session that is due.
-/

namespace Handheld

namespace Server

/-- What the outside gives a round. -/
structure Occasion where
  /-- The moment after the wait for readiness. -/
  now : Moment
  batch : List Readiness := []
  /-- The port that an attempt to bind would get, if it would succeed. -/
  port : Option UInt16 := none
  /-- The frame that the input would give. -/
  frame : Frame := {}
  /-- What would become of telemetry to a session. -/
  send : SessionId → SendOutcome := fun _ => .sent

/-- Ends the sessions that have been silent for too long. -/
def sweep (now : Moment) (server : Server) : Step :=
  Step.forEach (fun id => teardown id .heartbeatTimeout)
    (server.registry.expired now server.settings.heartbeatTimeout) server

namespace Stats

/-- Counts one attempt to send; a failure that is not a full socket counts as neither. -/
def countSend (stats : Stats) : SendOutcome → Stats
  | .sent => { stats with framesSent := stats.framesSent + 1 }
  | .wouldBlock => { stats with framesSkipped := stats.framesSkipped + 1 }
  | .failed => stats

end Stats

/-- Sends telemetry to one session, which counts as served whatever becomes of it. -/
def sendTo (now : Moment) (bytes : Bytes) (send : SessionId → SendOutcome) (id : SessionId)
    (server : Server)
    : Step :=
  match server.registry.find? id with
  | none => ⟨server, []⟩
  | some entry =>
      match entry.session.dataChannel with
      | none => ⟨server, []⟩
      | some destination =>
          let served := { entry with session := entry.session.markTelemetrySent now }
          ⟨{ server with
              registry := server.registry.put served
              stats := server.stats.countSend (send id) },
            [.sent id destination bytes (send id)]⟩

/-- Samples the input once for all sessions that are due; without one nothing is sampled. -/
def pushTelemetry (now : Moment) (frame : Frame) (send : SessionId → SendOutcome)
    (server : Server)
    : Step :=
  let due := server.registry.due now
  if due.isEmpty || server.bound.isNone then ⟨server, []⟩
  else
    ((Step.mk server [.sampled]).andThen (tell (.frame frame))).andThen fun server =>
      let packet := Wire.Packet.telemetry ⟨frame, server.status.view.battery⟩
      Step.forEach (sendTo now packet.encode send) due server

/-- One round of the loop. -/
def iterate (occasion : Occasion) (server : Server) : Step :=
  (((server.handleLink occasion.now occasion.port).andThen
      (dispatch occasion.now occasion.batch)).andThen
    (sweep occasion.now)).andThen
    (pushTelemetry occasion.now occasion.frame occasion.send)

/-- Rounds, one for each occasion. -/
def iterateAll (occasions : List Occasion) (server : Server) : Step :=
  Step.forEach iterate occasions server

/-- Rounds until the loop ends, by its run flag or because waiting failed; either way every
session is torn down and the sockets are closed.
-/
def run (occasions : List Occasion) (server : Server) : Step :=
  (iterateAll occasions server).andThen shutdown

end Server

end Handheld
