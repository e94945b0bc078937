import Handheld.Proofs.Link.Changes
import Handheld.Proofs.Server.Runs

/-! The link, the sockets and the sessions of a server. Main statement: after every round the
sockets are closed while the link is down, sessions live only behind bound sockets, and what
the server shows and announces is what holds.
-/

namespace Handheld

theorem LinkState.eq_up_of_isUp {state : LinkState} (up : state.isUp = true)
    : state = .up := by
  cases state with
  | up => rfl
  | down => cases up

namespace Server

/-- Sockets, sessions and what is shown agree with a state of the link. -/
structure ConsistentAt (state : LinkState) (server : Server) : Prop where
  bound_eq_none : state = .down → server.bound = none
  entries_eq_nil : server.bound = none → server.registry.entries = []
  linkUp_eq : server.status.view.linkUp = state.isUp
  controlPort_eq : ∀ port, server.bound = some port → server.hello.controlPort = port

/-- A server agrees with its link. -/
def Consistent (server : Server) : Prop := server.ConsistentAt server.link.current

theorem consistent_start (settings : Settings.Network) (port : UInt16)
    (status : Status.Shared)
    : (start settings port status).Consistent where
  bound_eq_none down := by cases down
  entries_eq_nil _ := rfl
  linkUp_eq := rfl
  controlPort_eq _ bound := Option.some.inj bound

/-- Other tasks leave a server consistent: reports only wait in the queue. -/
theorem Consistent.meet {server : Server} (consistent : server.Consistent)
    (outside : Outside)
    : (server.meet outside).Consistent := by
  cases outside <;>
    exact ⟨consistent.bound_eq_none, consistent.entries_eq_nil, consistent.linkUp_eq,
      consistent.controlPort_eq⟩

/-- Serving sessions leaves a server consistent: without a listener none is new. -/
theorem Consistent.serves {server next : Server} (consistent : server.Consistent)
    (serves : Serves server next)
    : next.Consistent where
  bound_eq_none down := by
    rw [serves.link_eq] at down
    rw [serves.bound_eq, consistent.bound_eq_none down]
  entries_eq_nil closed := by
    rw [serves.bound_eq] at closed
    exact serves.entries_eq_nil closed (consistent.entries_eq_nil closed)
  linkUp_eq := by rw [serves.linkUp_eq, serves.link_eq, consistent.linkUp_eq]
  controlPort_eq port bound := by
    rw [serves.bound_eq] at bound
    rw [serves.hello_eq, consistent.controlPort_eq port bound]

-----------------------------------------------------------------------------------------
-- Changes of the link
-----------------------------------------------------------------------------------------

theorem closeAll_consistent (reason : TeardownReason) (server : Server) (state : LinkState)
    (shown : server.status.view.linkUp = state.isUp)
    : ((server.teardownAll reason).andThen closeSockets).server.ConsistentAt state where
  bound_eq_none _ := rfl
  entries_eq_nil _ := by
    simp only [Step.andThen, closeSockets, teardownAll_eq, afterTeardowns_registry]
    rfl
  linkUp_eq := (teardownAll_serves reason server).linkUp_eq.trans shown
  controlPort_eq _ bound := by cases bound

/-- Following a change makes a server consistent with the new state, whatever was before. -/
theorem followLink_consistent {server : Server} {before : LinkState}
    (consistent : server.ConsistentAt before) (state : LinkState)
    : (server.followLink state).server.ConsistentAt state := by
  cases state with
  | down =>
      have closed := closeAll_consistent .linkDown server before consistent.linkUp_eq
      exact ⟨fun _ => rfl, closed.entries_eq_nil, rfl, closed.controlPort_eq⟩
  | up =>
      have isUp (down : LinkState.up = .down) : server.bound = none := by cases down
      rw [followLink]
      dsimp only [Step.andThen, tell]
      split <;> exact ⟨isUp, consistent.entries_eq_nil, rfl, consistent.controlPort_eq⟩

/-- Following changes ends consistent with the last one, by induction on the changes. -/
theorem followAll_consistent {server : Server} {before : LinkState}
    (consistent : server.ConsistentAt before) (changes : List LinkState)
    : (Step.forEach followLink changes server).server.ConsistentAt
        ((changes.getLast?).getD before) := by
  induction changes generalizing server before with
  | nil => exact consistent
  | cons state rest ih =>
      rw [List.getLast?_cons, Option.getD_some]
      exact ih (followLink_consistent consistent state)

theorem followLink_link (state : LinkState) (server : Server)
    : (server.followLink state).server.link = server.link := by
  cases state with
  | down => exact (teardownAll_serves .linkDown server).link_eq
  | up =>
      rw [followLink]
      dsimp only [Step.andThen, tell]
      split <;> rfl

theorem followAll_link (changes : List LinkState) (server : Server)
    : (Step.forEach followLink changes server).server.link = server.link :=
  Step.forEach_related (fun server next => next.link = server.link) (fun _ => rfl)
    (fun left right => right.trans left) followLink_link changes server

/-- Binding keeps a server consistent when the link is up and the sockets are closed. -/
theorem Consistent.rebind {server : Server} (consistent : server.Consistent)
    (up : server.link.current = .up) (closed : server.bound = none) (now : Moment)
    (port : Option UInt16)
    : (server.rebind now port).server.Consistent := by
  have empty := consistent.entries_eq_nil closed
  cases port with
  | none =>
      exact ⟨consistent.bound_eq_none, consistent.entries_eq_nil, consistent.linkUp_eq,
        consistent.controlPort_eq⟩
  | some port =>
      have isUp : (server.rebind now (some port)).server.link.current = .up := up
      refine ⟨fun down => ?_, fun _ => empty, consistent.linkUp_eq, fun other bound => ?_⟩
      · rw [isUp] at down
        cases down
      · exact Option.some.inj bound

/-- All queued changes, and an attempt to bind behind them, leave a server consistent. -/
theorem Consistent.handleLink {server : Server} (consistent : server.Consistent)
    (now : Moment) (port : Option UInt16)
    : (server.handleLink now port).server.Consistent := by
  let taken := { server with link := server.link.takeAll.2 }
  have before : taken.ConsistentAt server.link.current :=
    ⟨consistent.bound_eq_none, consistent.entries_eq_nil, consistent.linkUp_eq,
      consistent.controlPort_eq⟩
  have link := followAll_link server.link.takeAll.1 taken
  have followed : (Step.forEach followLink server.link.takeAll.1 taken).server.Consistent := by
    have reached := followAll_consistent before server.link.takeAll.1
    rw [LinkMonitor.takeAll, LinkMonitor.changes_getLast?] at reached
    rw [Consistent, link]
    exact reached
  rw [Server.handleLink]
  dsimp only [Step.andThen]
  split
  next due =>
    simp only [rebindDue, Bool.and_eq_true, Option.isNone_iff_eq_none] at due
    have up := LinkState.eq_up_of_isUp due.1.1
    exact followed.rebind up due.1.2 now port
  · exact followed

-----------------------------------------------------------------------------------------
-- Runs
-----------------------------------------------------------------------------------------

theorem Consistent.beforeTelemetry {server : Server} (consistent : server.Consistent)
    (occasion : Occasion)
    : (server.beforeTelemetry occasion).server.Consistent :=
  (consistent.handleLink occasion.now occasion.port).serves
    (beforeTelemetry_serves occasion server)

theorem Consistent.iterate {server : Server} (consistent : server.Consistent)
    (occasion : Occasion)
    : (server.iterate occasion).server.Consistent :=
  (consistent.handleLink occasion.now occasion.port).serves (iterate_serves occasion server)

theorem Consistent.shutdown {server : Server} (consistent : server.Consistent)
    : server.shutdown.server.Consistent := by
  have link : server.shutdown.server.link = server.link :=
    (teardownAll_serves .shutdown server).link_eq
  rw [Consistent, link]
  exact closeAll_consistent .shutdown server _ consistent.linkUp_eq

/-- Every server that a run can reach is consistent, by induction on the run. -/
theorem Reachable.consistent {server : Server} (reachable : server.Reachable)
    : server.Consistent := by
  induction reachable with
  | start settings port status => exact consistent_start settings port status
  | meet _ outside ih => exact ih.meet outside
  | round _ occasion ih => exact ih.iterate occasion
  | shutdown _ ih => exact ih.shutdown

/-- Live sessions have sockets behind them and a link that is up. -/
theorem Consistent.of_live {server : Server} (consistent : server.Consistent)
    (live : server.registry.entries ≠ [])
    : server.bound.isSome ∧ server.link.current = .up := by
  have isBound : server.bound ≠ none := fun closed => live (consistent.entries_eq_nil closed)
  refine ⟨Option.isSome_iff_ne_none.mpr isBound, ?_⟩
  cases state : server.link.current with
  | up => rfl
  | down => exact absurd (consistent.bound_eq_none state) isBound

/-- A consistent server samples the input whenever a session is due. -/
theorem Consistent.pushTelemetry_sampled {server : Server} (consistent : server.Consistent)
    {now : Moment} (due : server.registry.due now ≠ []) (frame : Frame)
    (send : SessionId → SendOutcome)
    : ∃ sends, (server.pushTelemetry now frame send).effects = .sampled :: sends := by
  have live : server.registry.entries ≠ [] := by
    intro none
    simp [Registry.due, none] at due
  have isBound := (consistent.of_live live).1
  rw [pushTelemetry]
  dsimp only
  rw [if_neg (by simp [due, Option.isSome_iff_ne_none.mp isBound])]
  exact ⟨_, rfl⟩

/-- In every server that a run can reach, the link governs sockets and sessions: while it is
down the sockets are closed and no session lives, a live session has bound sockets and a link
that is up, the shown link is the followed one, and the announced port is the bound one. So
a round samples the input whenever a session is due after its sweep.
-/
theorem link_governs_sockets {server : Server} (reachable : server.Reachable)
    : (server.link.current = .down → server.bound = none ∧ server.registry.entries = [])
      ∧ (server.registry.entries ≠ [] → server.bound.isSome ∧ server.link.current = .up)
      ∧ server.status.view.linkUp = server.link.current.isUp
      ∧ (∀ port, server.bound = some port → server.hello.controlPort = port)
      ∧ ∀ occasion,
          (server.beforeTelemetry occasion).server.registry.due occasion.now ≠ [] →
            (server.beforeTelemetry occasion).server.bound.isSome
            ∧ ∃ sends,
                (server.iterate occasion).effects
                = (server.beforeTelemetry occasion).effects ++ .sampled :: sends := by
  have consistent := reachable.consistent
  refine ⟨fun down => ?_, consistent.of_live, consistent.linkUp_eq,
    consistent.controlPort_eq, fun occasion due => ?_⟩
  · have closed := consistent.bound_eq_none down
    exact ⟨closed, consistent.entries_eq_nil closed⟩
  · have before := consistent.beforeTelemetry occasion
    have live : (server.beforeTelemetry occasion).server.registry.entries ≠ [] := by
      intro none
      simp [Registry.due, none] at due
    obtain ⟨sends, pushed⟩ := before.pushTelemetry_sampled due occasion.frame occasion.send
    refine ⟨(before.of_live live).1, sends, ?_⟩
    rw [iterate_eq, Step.andThen, pushed]

/-- A client is confirmed and takes telemetry, the link goes down and comes up, and only the second
attempt to bind succeeds.
-/
theorem link_governs_sockets_flap
    : let connects : Readiness := .listener [.connection (.v4 ⟨192, 168, 1, 20⟩ 41000) true]
      let handshake : StreamEvent :=
        {
          token := 17
          readable := true
          writable := true
          reads := [.bytes [8, 0, 0, 0, 1, 0, 0x88, 0x13, 0, 0, 0, 0]]
          writes := [.accepted 12]
        }
      let occasion : Occasion := { now := 2, batch := [.stream handshake] }
      let joined := ((start {} 5000 {}).iterate { now := 1, batch := [connects] }).server
      let served := (joined.iterate occasion).server
      let lost := ((served.meet (.report .down)).iterate { now := Span.ofMillis 1 }).server
      let tried := ((lost.meet (.report .up)).iterate { now := Span.ofMillis 2 }).server
      let back := (tried.iterate { now := Span.ofMillis 1002, port := some 5001 }).server
      (joined.beforeTelemetry occasion).server.registry.due 2 ≠ []
      ∧ (∃ sends,
          (joined.iterate occasion).effects
          = (joined.beforeTelemetry occasion).effects ++ .sampled :: sends)
      ∧ served.registry.entries ≠ []
      ∧ served.bound.isSome
      ∧ lost.link.current = .down
      ∧ lost.registry.entries = []
      ∧ tried.status.view.linkUp = tried.link.current.isUp
      ∧ tried.bound = none
      ∧ back.bound = some 5001
      ∧ back.hello.controlPort = 5001 := by
  intro connects handshake occasion joined served lost tried back
  have reachesJoined : joined.Reachable := .round (.start _ _ _) _
  have reachesServed : served.Reachable := .round reachesJoined _
  have reachesLost : lost.Reachable := .round (.meet reachesServed _) _
  have reachesTried : tried.Reachable := .round (.meet reachesLost _) _
  have reachesBack : back.Reachable := .round reachesTried _
  have due : (joined.beforeTelemetry occasion).server.registry.due 2 ≠ [] := by decide +kernel
  have live : served.registry.entries ≠ [] := by decide +kernel
  have down : lost.link.current = .down := by decide +kernel
  have bound : back.bound = some 5001 := by decide +kernel
  refine ⟨due, ((link_governs_sockets reachesJoined).2.2.2.2 occasion due).2, live,
    ((link_governs_sockets reachesServed).2.1 live).1, down,
    ((link_governs_sockets reachesLost).1 down).2, (link_governs_sockets reachesTried).2.2.1,
    by decide +kernel, bound, (link_governs_sockets reachesBack).2.2.2.1 5001 bound⟩

end Server

end Handheld
