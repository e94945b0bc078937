import Mathlib.Data.List.Forall2
import Handheld.Proofs.Server.Solo

/-! Two runs of a server side by side. Main statement: runs that agree on clock, link and ports
and on the stream of one session treat that session alike, whatever the other clients and
the other tasks do.
-/

namespace Handheld

namespace Server

-----------------------------------------------------------------------------------------
-- The network side
-----------------------------------------------------------------------------------------

/-- Two servers differ at most in their sessions, in the status and in what they have counted. -/
structure SameNetwork (left right : Server) : Prop where
  settings_eq : left.settings = right.settings
  bound_eq : left.bound = right.bound
  hello_eq : left.hello = right.hello
  link_eq : left.link = right.link
  lastRebind_eq : left.lastRebind = right.lastRebind

theorem SameNetwork.refl (server : Server) : SameNetwork server server :=
  ⟨rfl, rfl, rfl, rfl, rfl⟩

/-- Serving sessions is of no consequence to the network side. -/
theorem SameNetwork.serves {left right leftNext rightNext : Server}
    (same : SameNetwork left right) (leftServes : Serves left leftNext)
    (rightServes : Serves right rightNext)
    : SameNetwork leftNext rightNext where
  settings_eq := by rw [leftServes.settings_eq, rightServes.settings_eq, same.settings_eq]
  bound_eq := by rw [leftServes.bound_eq, rightServes.bound_eq, same.bound_eq]
  hello_eq := by rw [leftServes.hello_eq, rightServes.hello_eq, same.hello_eq]
  link_eq := by rw [leftServes.link_eq, rightServes.link_eq, same.link_eq]
  lastRebind_eq := by rw [leftServes.lastRebind_eq, rightServes.lastRebind_eq, same.lastRebind_eq]

theorem followLink_sameNetwork {left right : Server} (same : SameNetwork left right)
    (state : LinkState)
    : SameNetwork (left.followLink state).server (right.followLink state).server := by
  cases state with
  | down =>
      have torn := same.serves (teardownAll_serves .linkDown left)
        (teardownAll_serves .linkDown right)
      exact ⟨torn.settings_eq, rfl, torn.hello_eq, torn.link_eq, torn.lastRebind_eq⟩
  | up =>
      have shown
          : SameNetwork (left.writeStatus (.link true)) (right.writeStatus (.link true)) :=
        ⟨same.settings_eq, same.bound_eq, same.hello_eq, same.link_eq, same.lastRebind_eq⟩
      rw [followLink, followLink]
      dsimp only [Step.andThen, tell]
      by_cases closed : (right.writeStatus (.link true)).bound.isNone
      · rw [if_pos closed, if_pos (shown.bound_eq ▸ closed)]
        exact ⟨shown.settings_eq, shown.bound_eq, shown.hello_eq, shown.link_eq, rfl⟩
      · rw [if_neg closed, if_neg (shown.bound_eq ▸ closed)]
        exact shown

theorem followAll_sameNetwork {left right : Server} (same : SameNetwork left right)
    (changes : List LinkState)
    : SameNetwork (Step.forEach followLink changes left).server
        (Step.forEach followLink changes right).server := by
  induction changes generalizing left right with
  | nil => exact same
  | cons state rest ih => exact ih (followLink_sameNetwork same state)

theorem SameNetwork.rebindDue_eq {left right : Server} (same : SameNetwork left right)
    (now : Moment)
    : left.rebindDue now = right.rebindDue now := by
  rw [rebindDue, rebindDue, same.link_eq, same.bound_eq, same.lastRebind_eq, same.settings_eq]

theorem rebind_sameNetwork {left right : Server} (same : SameNetwork left right)
    (now : Moment) (port : Option UInt16)
    : SameNetwork (left.rebind now port).server (right.rebind now port).server := by
  cases port with
  | none => exact ⟨same.settings_eq, same.bound_eq, same.hello_eq, same.link_eq, rfl⟩
  | some port =>
      refine ⟨same.settings_eq, rfl, ?_, same.link_eq, rfl⟩
      exact congrArg (fun hello : Hello => { hello with controlPort := port }) same.hello_eq

/-- The link and the sockets go on alike in both servers. -/
theorem handleLink_sameNetwork {left right : Server} (same : SameNetwork left right)
    (now : Moment) (port : Option UInt16)
    : SameNetwork (left.handleLink now port).server (right.handleLink now port).server := by
  have taken
      : SameNetwork { left with link := left.link.takeAll.2 }
          { right with link := right.link.takeAll.2 } :=
    ⟨same.settings_eq, same.bound_eq, same.hello_eq, by rw [same.link_eq], same.lastRebind_eq⟩
  have followed := followAll_sameNetwork taken left.link.takeAll.1
  rw [handleLink, handleLink, ← same.link_eq]
  dsimp only [Step.andThen]
  rw [← same.link_eq] at followed
  generalize (Step.forEach followLink _ { left with link := _ }).server = leftNext at followed ⊢
  generalize (Step.forEach followLink _ { right with link := _ }).server = rightNext
    at followed ⊢
  rw [followed.rebindDue_eq]
  split
  · exact rebind_sameNetwork followed now port
  · exact followed

-----------------------------------------------------------------------------------------
-- Turns
-----------------------------------------------------------------------------------------

def Outside.report? : Outside → Option LinkState
  | .report state => some state
  | _ => none

/-- A round and what other tasks do before it. -/
structure Turn where
  outside : List Outside
  occasion : Occasion

def meetAll (outside : List Outside) (server : Server) : Server := outside.foldl meet server

def turn (server : Server) (turn : Turn) : Step :=
  (server.meetAll turn.outside).iterate turn.occasion

/-- The rounds of a run. -/
def turns : List Turn → Server → List Step
  | [], _ => []
  | next :: rest, server => server.turn next :: turns rest (server.turn next).server

/-- Two turns agree on what concerns one session: the clock, the reports of the link, the port
that a bind would get, and the events of the session's stream with all that its socket
answers. Of the outcome of a send to the session they agree on what `read` looks at.
-/
structure Turn.AlikeFor {ω : Type} (read : SendOutcome → ω) (id : SessionId)
    (left right : Turn) : Prop where
  reports_eq
    : left.outside.filterMap Outside.report? = right.outside.filterMap Outside.report?
  now_eq : left.occasion.now = right.occasion.now
  port_eq : left.occasion.port = right.occasion.port
  events_eq : eventsFor id left.occasion.batch = eventsFor id right.occasion.batch
  send_eq : read (left.occasion.send id) = read (right.occasion.send id)

/-- Two servers agree on the network side and on one session. -/
structure AlikeFor (id : SessionId) (left right : Server) : Prop where
  network : SameNetwork left right
  entry_eq : left.registry.find? id = right.registry.find? id
  left_knows : left.Knows id
  right_knows : right.Knows id

/-- Other tasks only add reports of the link, by induction on what they do. -/
theorem meetAll_eq (outside : List Outside) (server : Server)
    : ∃ status,
        server.meetAll outside
        = { server with
            status
            link.queue := server.link.queue ++ outside.filterMap Outside.report? } := by
  induction outside generalizing server with
  | nil => exact ⟨server.status, by simp [meetAll]⟩
  | cons first rest ih =>
      obtain ⟨status, met⟩ := ih (server.meet first)
      refine ⟨status, met.trans ?_⟩
      cases first <;> simp [meet, Outside.report?, LinkMonitor.notify, writeStatus,
        List.filterMap_cons]

theorem AlikeFor.meetAll {left right : Server} {id : SessionId}
    (alike : AlikeFor id left right) {leftOutside rightOutside : List Outside}
    (reports
      : leftOutside.filterMap Outside.report? = rightOutside.filterMap Outside.report?)
    : AlikeFor id (left.meetAll leftOutside) (right.meetAll rightOutside) := by
  obtain ⟨leftStatus, leftMet⟩ := meetAll_eq leftOutside left
  obtain ⟨rightStatus, rightMet⟩ := meetAll_eq rightOutside right
  have network := alike.network
  rw [leftMet, rightMet, reports, network.link_eq]
  exact ⟨⟨network.settings_eq, network.bound_eq, network.hello_eq, rfl, network.lastRebind_eq⟩,
    alike.entry_eq, ⟨alike.left_knows.wellFormed, alike.left_knows.given⟩,
    ⟨alike.right_knows.wellFormed, alike.right_knows.given⟩⟩

/-- Alike turns do the same to the session, and leave the servers alike. -/
theorem AlikeFor.turn {ω : Type} {read : SendOutcome → ω} {left right : Server}
    {id : SessionId} (alike : AlikeFor id left right) {leftTurn rightTurn : Turn}
    (turns : Turn.AlikeFor read id leftTurn rightTurn)
    : (left.turn leftTurn).part read id = (right.turn rightTurn).part read id
      ∧ AlikeFor id (left.turn leftTurn).server (right.turn rightTurn).server := by
  have met := alike.meetAll turns.reports_eq
  rw [Server.turn, Server.turn]
  generalize left.meetAll leftTurn.outside = leftMet at met ⊢
  generalize right.meetAll rightTurn.outside = rightMet at met ⊢
  obtain ⟨network, entry, leftKnows, rightKnows⟩ := met
  have linked
      : SameNetwork
          (leftMet.handleLink leftTurn.occasion.now leftTurn.occasion.port).server
          (rightMet.handleLink rightTurn.occasion.now rightTurn.occasion.port).server := by
    rw [turns.now_eq, turns.port_eq]
    exact handleLink_sameNetwork network _ _
  -- Entry and events are the same from the start; hello and ports have come through the link.
  have parts
      : (leftMet.iterate leftTurn.occasion).part read id
        = (rightMet.iterate rightTurn.occasion).part read id := by
    rw [part_iterate read leftKnows, part_iterate read rightKnows]
    dsimp only
    rw [linked.hello_eq, linked.settings_eq, linked.bound_eq, network.link_eq, entry,
      turns.now_eq, turns.events_eq, turns.send_eq]
  refine ⟨parts, ?_, congrArg Part.held? parts, ?_, ?_⟩
  · exact linked.serves (iterate_serves _ leftMet) (iterate_serves _ rightMet)
  · exact leftKnows.evolves (iterate_evolves _ leftMet)
  · exact rightKnows.evolves (iterate_evolves _ rightMet)

/-- Alike runs do the same to the session, by induction on the turns. -/
theorem AlikeFor.turns {ω : Type} {read : SendOutcome → ω} {left right : Server}
    {id : SessionId} (alike : AlikeFor id left right) {lefts rights : List Turn}
    (turns : List.Forall₂ (Turn.AlikeFor read id) lefts rights)
    : (left.turns lefts).map (Step.part read id)
      = (right.turns rights).map (Step.part read id) := by
  induction turns generalizing left right with
  | nil => rfl
  | cons first _ ih =>
      obtain ⟨parts, next⟩ := alike.turn first
      rw [Server.turns, Server.turns, List.map_cons, List.map_cons, parts, ih next]

/-- Sessions are isolated from each other. Two runs of as many rounds start in one server that a
run can reach and agree, turn by turn, on clock, link, ports and the stream of a session that
lives. Then after every round the session is the same in both or gone in both, and in every
round the same bytes were written to it and telemetry was sent to it or to neither.
-/
theorem sessions_isolated {ω : Type} (read : SendOutcome → ω) {server : Server}
    {id : SessionId} (reachable : server.Reachable)
    (live : (server.registry.find? id).isSome) {lefts rights : List Turn}
    (alike : List.Forall₂ (Turn.AlikeFor read id) lefts rights)
    : (server.turns lefts).map (Step.part read id)
      = (server.turns rights).map (Step.part read id) := by
  have wellFormed := reachable.wellFormed
  have knows : server.Knows id := ⟨wellFormed, wellFormed.known live⟩
  have same : AlikeFor id server server := ⟨.refl server, rfl, knows, knows⟩
  exact same.turns alike

/-- Behind the same handshake the other client hangs up in one run and sends nonsense in the
other, between other events and with other outcomes of sends.
-/
theorem sessions_isolated_two_clients
    : let backlog : List AcceptOutcome :=
        [.connection (.v4 ⟨192, 168, 1, 20⟩ 41000) true,
          .connection (.v4 ⟨192, 168, 1, 21⟩ 41000) true]
      let server :=
        ((start { maxSessions := 2 } 5000 {}).iterate
          { now := 1, batch := [.listener backlog] }).server
      let opening : Readiness :=
        .stream {
          token := 17
          readable := true
          writable := true
          reads := [.bytes [8, 0, 0, 0, 1, 0, 0x88, 0x13, 0, 0, 0, 0]]
          writes := [.accepted 12]
        }
      let hangup : Readiness := .stream { token := 18, hangup := true }
      let nonsense : Readiness :=
        .stream { token := 18, readable := true, reads := [.bytes [255, 255, 255, 255]] }
      let lefts : List Turn :=
        [⟨[], { now := 2, batch := [opening, hangup] }⟩, ⟨[], { now := Span.ofMillis 9 }⟩]
      let rights : List Turn :=
        [⟨[.battery 40], { now := 2, batch := [nonsense, .waker, opening, .listener backlog] }⟩,
          ⟨[.takeEvents], { now := Span.ofMillis 9, send := fun _ => .wouldBlock }⟩]
      let view := Step.part (fun _ => ()) ⟨1⟩
      (server.turns lefts).map view = (server.turns rights).map view
      ∧ ∀ step ∈ server.turns lefts,
          (view step).held?.isSome ∧ (view step).shares ≠ [] := by
  intro backlog server opening hangup nonsense lefts rights view
  have reachable : server.Reachable := .round (.start _ _ _) _
  have live : (server.registry.find? ⟨1⟩).isSome := by decide +kernel
  have alike : List.Forall₂ (Turn.AlikeFor (fun _ => ()) ⟨1⟩) lefts rights :=
    .cons ⟨rfl, rfl, rfl, by decide +kernel, rfl⟩ (.cons ⟨rfl, rfl, rfl, rfl, rfl⟩ .nil)
  exact ⟨sessions_isolated (fun _ => ()) reachable live alike, by decide +kernel⟩

end Server

end Handheld
