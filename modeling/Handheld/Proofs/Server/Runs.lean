import Handheld.Proofs.Server.Serving

/-! Servers over a run: rounds follow one another, other tasks act in between, and the loop may
be ended at any time. Main statement: the registry of every server that a run can reach is
well formed.
-/

namespace Handheld

namespace Server

/-- What other tasks do to what they share with the server: the watcher of the link reports,
the sampler writes its readings, and a reader takes the events.
-/
inductive Outside
  | report (state : LinkState)
  | battery (percent : Int32)
  | charger (connected : Bool)
  | wifi (percent : UInt32)
  | takeEvents
  deriving DecidableEq

/-- The server after another task has acted. -/
def meet (server : Server) : Outside → Server
  | .report state => { server with link := server.link.notify state }
  | .battery percent => server.writeStatus (.battery percent)
  | .charger connected => server.writeStatus (.charger connected)
  | .wifi percent => server.writeStatus (.wifi percent)
  | .takeEvents => { server with status := server.status.take.2 }

/-- The states that a server can come to; after its loop has ended it may run again. -/
inductive Reachable : Server → Prop
  | start (settings : Settings.Network) (port : UInt16) (status : Status.Shared)
    : Reachable (start settings port status)
  | meet {server} (reachable : Reachable server) (outside : Outside)
    : Reachable (server.meet outside)
  | round {server} (reachable : Reachable server) (occasion : Occasion)
    : Reachable (server.iterate occasion).server
  | shutdown {server} (reachable : Reachable server) : Reachable server.shutdown.server

/-- A round up to its telemetry. -/
def beforeTelemetry (occasion : Occasion) (server : Server) : Step :=
  ((server.handleLink occasion.now occasion.port).andThen
      (dispatch occasion.now occasion.batch)).andThen
    (sweep occasion.now)

/-- Telemetry ends a round. -/
theorem iterate_eq (occasion : Occasion) (server : Server)
    : server.iterate occasion
      = (server.beforeTelemetry occasion).andThen
          (pushTelemetry occasion.now occasion.frame occasion.send) := rfl

-----------------------------------------------------------------------------------------
-- The registry over a run
-----------------------------------------------------------------------------------------

theorem followLink_evolves (state : LinkState) (server : Server)
    : Registry.Evolves server.registry (server.followLink state).server.registry := by
  cases state with
  | up =>
      rw [followLink]
      dsimp only [Step.andThen, tell]
      split <;> exact .refl _
  | down => exact (teardownAll_serves .linkDown server).evolves

theorem handleLink_evolves (now : Moment) (port : Option UInt16) (server : Server)
    : Registry.Evolves server.registry (server.handleLink now port).server.registry := by
  let taken := { server with link := server.link.takeAll.2 }
  have followed
      : Registry.Evolves taken.registry
          (Step.forEach followLink server.link.takeAll.1 taken).server.registry :=
    Step.forEach_related
      (fun server next => Registry.Evolves server.registry next.registry)
      (fun server => .refl server.registry) .trans followLink_evolves _ taken
  refine followed.trans ?_
  rw [handleLink]
  dsimp only [Step.andThen]
  split
  · cases port <;> exact .refl _
  · exact .refl _

/-- Behind the changes of the link a round only serves sessions. -/
theorem beforeTelemetry_serves (occasion : Occasion) (server : Server)
    : Serves (server.handleLink occasion.now occasion.port).server
        (server.beforeTelemetry occasion).server :=
  (dispatch_serves occasion.now occasion.batch _).trans (sweep_serves occasion.now _)

theorem iterate_serves (occasion : Occasion) (server : Server)
    : Serves (server.handleLink occasion.now occasion.port).server
        (server.iterate occasion).server :=
  (beforeTelemetry_serves occasion server).trans
    (pushTelemetry_serves occasion.now occasion.frame occasion.send _)

theorem iterate_evolves (occasion : Occasion) (server : Server)
    : Registry.Evolves server.registry (server.iterate occasion).server.registry :=
  (handleLink_evolves occasion.now occasion.port server).trans
    (iterate_serves occasion server).evolves

/-- The registry of every server that a run can reach is well formed, by induction on the
run.
-/
theorem Reachable.wellFormed {server : Server} (reachable : server.Reachable)
    : server.registry.WellFormed := by
  induction reachable with
  | start settings port status => exact Registry.wellFormed_empty _
  | meet _ outside ih => cases outside <;> exact ih
  | round _ occasion ih => exact (iterate_evolves occasion _).wellFormed ih
  | shutdown _ ih => exact (teardownAll_serves .shutdown _).evolves.wellFormed ih

end Server

end Handheld
