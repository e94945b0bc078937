import Handheld.Proofs.Server.Fanout
import Handheld.Proofs.Server.LinkChanges

/-! The link changes of one round, handled as a batch. A link that went down costs every session
and the sockets, even if it has come up again since, and the rest of the round finds none of
the old sessions. Main statement: what a round does with any queue of reports depends on
which changes are among them and on the last one.
-/

namespace Handheld

namespace Server

open Status (Events)

-----------------------------------------------------------------------------------------
-- Events of clients
-----------------------------------------------------------------------------------------

/-- Behind a step of work the events from before are pending, and those of the clients that came
and went by it.
-/
def RaisesClients (server : Server) (step : Step) : Prop :=
  ∀ bit,
    step.server.status.pending.Has bit
    ↔ server.status.pending.Has bit
      ∨ (step.effects.filterMap Effect.admitted? ≠ [] ∧ Events.clientConnected.Has bit)
      ∨ (step.effects.filterMap Effect.ended? ≠ [] ∧ Events.clientDisconnected.Has bit)

namespace RaisesClients

/-- Work that neither brings nor ends a client. -/
theorem of_silent {server : Server} {step : Step}
    (same : step.server.status.pending = server.status.pending)
    (silent : ∀ effect ∈ step.effects, effect.isClient = false)
    : server.RaisesClients step := by
  obtain ⟨came, went⟩ := filterMap_of_silent silent
  intro bit
  simp [same, came, went]

theorem refl (server : Server) : server.RaisesClients ⟨server, []⟩ := of_silent rfl (by simp)

theorem andThen {server : Server} {step : Step} {work : Server → Step}
    (first : server.RaisesClients step) (later : step.server.RaisesClients (work step.server))
    : server.RaisesClients (step.andThen work) := by
  intro bit
  simp only [Step.andThen, later bit, first bit, List.filterMap_append, ne_eq,
    List.append_eq_nil_iff, not_and_or]
  tauto

/-- Work for each element of a list, by induction on the list. -/
theorem forEach {α : Type} {work : α → Server → Step}
    (each : ∀ element server, RaisesClients server (work element server)) (elements : List α)
    (server : Server)
    : server.RaisesClients (Step.forEach work elements server) := by
  induction elements generalizing server with
  | nil => exact refl server
  | cons element rest ih => exact (each element server).andThen (ih _)

end RaisesClients

theorem teardown_raises (id : SessionId) (reason : TeardownReason) (server : Server)
    : server.RaisesClients (server.teardown id reason) := by
  cases found : server.registry.find? id with
  | none =>
      rw [teardown_of_none found]
      exact .refl server
  | some entry =>
      rw [teardown_of_some found, recordTeardown_eq]
      intro bit
      have raised : (server.status.pending ||| .clientDisconnected).Has bit ↔ _ := Events.has_or
      simpa [afterTeardown, writeStatus, Status.Shared.write, Status.Shared.raise,
        Status.View.raised, Effect.admitted?, Effect.ended?] using raised

theorem welcome_raises (now : Moment) (address : SocketAddress) (registers : Bool)
    (server : Server)
    : server.RaisesClients (server.welcome now address registers) := by
  rw [welcome]
  split
  · exact .of_silent rfl (by simp [Effect.isClient])
  next peer valid =>
    split
    · exact .of_silent rfl (by simp [Effect.isClient])
    · split
      · intro bit
        have raised : (server.status.pending ||| .clientConnected).Has bit ↔ _ := Events.has_or
        simpa [Step.andThen, tell_clientConnected, writeStatus, Status.Shared.write,
          Status.Shared.raise, Status.View.raised, Effect.admitted?, Effect.ended?] using raised
      · exact .of_silent rfl (by simp [Effect.isClient])

/-- Taking in connections, by induction on the backlog. -/
theorem acceptAll_raises (now : Moment) (backlog : List AcceptOutcome) (server : Server)
    : server.RaisesClients (server.acceptAll now backlog) := by
  induction backlog generalizing server with
  | nil => exact .refl server
  | cons outcome rest ih =>
      rw [acceptAll.eq_def]
      dsimp only
      split
      · exact .refl server
      · cases outcome with
        | connection address registers =>
            exact (welcome_raises now address registers server).andThen (ih _)
        | interrupted => exact ih server
        | wouldBlock => exact .refl server
        | failed => exact .refl server

theorem handle_raises (now : Moment) (readiness : Readiness) (server : Server)
    : server.RaisesClients (server.handle now readiness) := by
  cases readiness with
  | listener backlog => exact acceptAll_raises now backlog server
  | waker => exact .refl server
  | stream event =>
      rw [handle, handleStream]
      split
      · exact .refl server
      · refine RaisesClients.andThen (.of_silent rfl ?_) ?_
        · split <;> simp [Effect.isClient]
        · dsimp only
          split
          · exact .refl _
          · exact teardown_raises _ _ _

theorem sendTo_raises (now : Moment) (bytes : Bytes) (send : SessionId → SendOutcome)
    (id : SessionId) (server : Server)
    : server.RaisesClients (server.sendTo now bytes send id) := by
  rw [sendTo]
  split
  · exact .refl server
  · split
    · exact .refl server
    · exact .of_silent rfl (by simp [Effect.isClient])

theorem pushTelemetry_raises (now : Moment) (frame : Frame) (send : SessionId → SendOutcome)
    (server : Server)
    : server.RaisesClients (server.pushTelemetry now frame send) := by
  rw [pushTelemetry]
  dsimp only
  split
  · exact .refl server
  · have quiet : (server.status.write (.frame frame)).pending = server.status.pending := by
      rw [write_frame]
    refine RaisesClients.andThen (.of_silent quiet ?_) ?_
    · rw [Step.andThen, tell_frame]
      simp [Effect.isClient]
    · exact .forEach (sendTo_raises now _ send) _ _

-----------------------------------------------------------------------------------------
-- The rest of a round
-----------------------------------------------------------------------------------------

/-- A session that was admitted has a number that was still to be given. By induction on the
work.
-/
theorem Trace.admitted_fresh {server next : Server} {effects : List Effect}
    (trace : Trace server effects next) {id : SessionId}
    (admitted : id ∈ effects.filterMap Effect.admitted?)
    : server.registry.next ≤ id.number := by
  induction trace with
  | admission taken =>
      obtain ⟨_, rfl, rfl⟩ := Registry.accept_eq_admitted taken
      simp only [List.filterMap_cons, Effect.admitted?, List.filterMap_nil,
        List.mem_singleton] at admitted
      rw [admitted]
  | teardown _ _ _ => simp [Effect.admitted?] at admitted
  | change _ _ plain => simp [(filterMap_of_silent plain.silent).1] at admitted
  | aside _ _ silent => simp [(filterMap_of_silent silent).1] at admitted
  | append left _ earlier later =>
      rw [List.filterMap_append, List.mem_append] at admitted
      rcases admitted with admitted | admitted
      · exact earlier admitted
      · exact Nat.le_trans left.evolves.next_le (later admitted)

namespace Round

/-- The round behind its changes of the link. -/
def rest (round : Round) : Step :=
  ((round.linked.server.dispatch round.now round.occasion.batch).andThen
      (sweep round.now)).andThen
    (pushTelemetry round.now round.occasion.frame round.occasion.send)

variable {round : Round}

theorem step_server (round : Round) : round.step.server = round.rest.server := rfl

theorem step_effects (round : Round)
    : round.step.effects = round.linked.effects ++ round.rest.effects := by
  have rest
      : round.rest.effects
        = (round.effectsOf .dispatch ++ round.effectsOf .sweep) ++ round.effectsOf .telemetry :=
    rfl
  rw [effects_eq, rest, List.append_assoc, List.append_assoc, List.append_assoc]
  rfl

/-- The rest of a round raises the events of clients alone. -/
theorem rest_raises (round : Round) : round.linked.server.RaisesClients round.rest := by
  refine RaisesClients.andThen (.andThen ?_ ?_) ?_
  · exact .forEach (handle_raises round.now) _ _
  · exact .forEach (fun id => teardown_raises id .heartbeatTimeout) _ _
  · exact pushTelemetry_raises _ _ _ _

theorem rest_traced (wellFormed : round.linked.server.registry.WellFormed)
    : round.linked.server.Traced round.rest := by
  have dispatched := dispatch_traced round.now round.occasion.batch wellFormed
  have swept := dispatched.andThen (sweep_traced round.now (dispatched.wellFormed wellFormed))
  exact swept.andThen
    (pushTelemetry_traced round.now round.occasion.frame round.occasion.send
      (swept.wellFormed wellFormed))

theorem linked_registry (reachable : round.server.Reachable)
    : round.linked.server.registry
      = if .down ∈ round.changes then round.server.registry.drain.2
        else round.server.registry := by
  obtain ⟨_, _, _, linked⟩ := round.linked_server
  rw [linked]
  exact (followed_spec reachable).registry_eq

/-- What the changes of the link raise. -/
theorem linked_pending (reachable : round.server.Reachable) (bit : Nat)
    : round.linked.server.status.pending.Has bit
      ↔ round.server.status.pending.Has bit
        ∨ (.down ∈ round.changes
          ∧ (Events.linkDown.Has bit
            ∨ (round.server.registry.entries ≠ [] ∧ Events.clientDisconnected.Has bit)))
        ∨ (.up ∈ round.changes ∧ Events.linkUp.Has bit) := by
  obtain ⟨_, _, _, linked⟩ := round.linked_server
  rw [linked]
  exact (followed_spec reachable).pending_iff bit

/-- A link that went down ends the sessions that were live, each once. -/
theorem linked_ended (reachable : round.server.Reachable)
    : round.linked.effects.filterMap Effect.ended?
      = if .down ∈ round.changes then round.server.registry.ids else [] := by
  have lost : round.server.lossEffects.filterMap Effect.ended? = round.server.registry.ids := by
    have closed
        : (if round.server.bound.isSome then [Effect.closed] else []).filterMap Effect.ended?
          = [] := by
      split <;> rfl
    rw [lossEffects, List.filterMap_append, closed, List.append_nil, List.filterMap_flatMap,
      Registry.sessions, List.flatMap_map, Registry.ids, List.map_eq_flatMap]
    refine List.flatMap_congr fun entry held => ?_
    exact congrArg (fun id => [id]) (reachable.wellFormed.own entry held)
  have raised : (round.changes.map Effect.ofChange).filterMap Effect.ended? = [] := by
    rw [List.filterMap_map, List.filterMap_eq_nil_iff]
    intro state _
    cases state <;> rfl
  have tried
      : (if round.followed.server.rebindDue round.now then
            [Effect.ofAttempt round.occasion.port]
          else []).filterMap Effect.ended? = [] := by
    split
    · cases round.occasion.port <;> rfl
    · rfl
  rw [linked_effects, List.filterMap_append, tried, List.append_nil,
    followed_effects reachable, List.filterMap_append, raised, List.append_nil]
  split
  · exact lost
  · rfl

end Round

-----------------------------------------------------------------------------------------
-- Behind a loss
-----------------------------------------------------------------------------------------

/-- The events of a batch are about sessions that had been admitted before, as those are that
were gathered before the round.
-/
def Knew (server : Server) (batch : List Readiness) : Prop :=
  ∀ event,
    .stream event ∈ batch
    → ∀ id, Registry.idFor? event.token = some id → id.number < server.registry.next

/-- Every session of a server has come with a number from a bound on, and at a moment. -/
structure Newcomers (bound : Nat) (now : Moment) (server : Server) : Prop where
  le_next : bound ≤ server.registry.next
  le_key : ∀ entry ∈ server.registry.entries, bound ≤ entry.key.number
  came : ∀ entry ∈ server.registry.entries, entry.session.lastHeartbeat = now

/-- The event of a session that is gone does nothing. -/
theorem handleStream_of_absent {event : StreamEvent} {server : Server}
    (absent
      : ∀ id, Registry.idFor? event.token = some id → server.registry.find? id = none)
    (now : Moment)
    : server.handleStream event now = ⟨server, []⟩ := by
  have unresolved : (Registry.idFor? event.token).bind server.registry.find? = none := by
    rw [Option.bind_eq_none_iff]
    exact absent
  rw [handleStream, unresolved]

/-- New connections end nobody, by induction on the backlog. -/
theorem acceptAll_ended (now : Moment) (backlog : List AcceptOutcome) (server : Server)
    : (server.acceptAll now backlog).effects.filterMap Effect.ended? = [] := by
  have welcomes (address : SocketAddress) (registers : Bool) (server : Server)
      : (server.welcome now address registers).effects.filterMap Effect.ended? = [] := by
    rw [welcome]
    split
    · rfl
    · split
      · rfl
      · split <;> rfl
  induction backlog generalizing server with
  | nil => rfl
  | cons outcome rest ih =>
      rw [acceptAll.eq_def]
      dsimp only
      split
      · rfl
      · cases outcome with
        | connection address registers =>
            simp only [Step.andThen, List.filterMap_append, welcomes, ih, List.append_nil]
        | interrupted => exact ih server
        | wouldBlock => rfl
        | failed => rfl

namespace Newcomers

variable {bound : Nat} {now : Moment} {server : Server}

theorem find?_eq_none (newcomers : Newcomers bound now server) {id : SessionId}
    (old : id.number < bound)
    : server.registry.find? id = none := by
  rw [Registry.find?, List.find?_eq_none]
  intro entry held same
  have key : entry.key = id := by simpa using same
  exact absurd (newcomers.le_key entry held) (Nat.not_le_of_lt (key ▸ old))

theorem welcome (newcomers : Newcomers bound now server) (address : SocketAddress)
    (registers : Bool)
    : Newcomers bound now (server.welcome now address registers).server := by
  rw [Server.welcome]
  split
  · exact newcomers
  next peer valid =>
    split
    · exact ⟨newcomers.le_next, newcomers.le_key, newcomers.came⟩
    next id registry admitted =>
      split
      · obtain ⟨_, rfl, rfl⟩ := Registry.accept_eq_admitted admitted
        refine ⟨Nat.le_succ_of_le newcomers.le_next, ?_, ?_⟩
        · intro entry member
          rcases List.mem_append.mp member with member | member
          · exact newcomers.le_key entry member
          · rw [List.mem_singleton.mp member]
            exact newcomers.le_next
        · intro entry member
          rcases List.mem_append.mp member with member | member
          · exact newcomers.came entry member
          · rw [List.mem_singleton.mp member]
            rfl
      · exact newcomers

/-- More may come, by induction on the backlog. -/
theorem acceptAll (newcomers : Newcomers bound now server) (backlog : List AcceptOutcome)
    : Newcomers bound now (server.acceptAll now backlog).server := by
  induction backlog generalizing server with
  | nil => exact newcomers
  | cons outcome rest ih =>
      rw [acceptAll.eq_def]
      dsimp only
      split
      · exact newcomers
      · cases outcome with
        | connection address registers => exact ih (newcomers.welcome address registers)
        | interrupted => exact ih newcomers
        | wouldBlock => exact newcomers
        | failed => exact newcomers

/-- Events of older sessions end none of them, by induction on the batch. -/
theorem dispatch (newcomers : Newcomers bound now server) {batch : List Readiness}
    (old
      : ∀ event,
          .stream event ∈ batch
          → ∀ id, Registry.idFor? event.token = some id → id.number < bound)
    : (server.dispatch now batch).effects.filterMap Effect.ended? = []
      ∧ Newcomers bound now (server.dispatch now batch).server := by
  induction batch generalizing server with
  | nil => exact ⟨rfl, newcomers⟩
  | cons readiness rest ih =>
      have handled
          : (server.handle now readiness).effects.filterMap Effect.ended? = []
            ∧ Newcomers bound now (server.handle now readiness).server := by
        cases readiness with
        | listener backlog =>
            exact ⟨acceptAll_ended now backlog server, newcomers.acceptAll backlog⟩
        | waker => exact ⟨rfl, newcomers⟩
        | stream event =>
            rw [handle, handleStream_of_absent]
            · exact ⟨rfl, newcomers⟩
            · intro id resolved
              exact newcomers.find?_eq_none (old event List.mem_cons_self id resolved)
      obtain ⟨none, first⟩ := handled
      obtain ⟨noneLater, later⟩ := ih first fun event member =>
        old event (List.mem_cons_of_mem readiness member)
      refine ⟨?_, later⟩
      have both
          : (server.dispatch now (readiness :: rest)).effects
            = (server.handle now readiness).effects
              ++ ((server.handle now readiness).server.dispatch now rest).effects := rfl
      rw [both, List.filterMap_append, none, noneLater]
      rfl

/-- Who has just come is not swept away. -/
theorem sweep (newcomers : Newcomers bound now server) : server.sweep now = ⟨server, []⟩ := by
  have fresh : server.registry.expired now server.settings.heartbeatTimeout = [] := by
    rw [Registry.expired, List.map_eq_nil_iff, List.filter_eq_nil_iff]
    intro entry held
    simp [Session.isExpired, newcomers.came entry held, Span.between]
  rw [Server.sweep, fresh]
  rfl

end Newcomers

namespace Round

variable {round : Round}

/-- A link that went down leaves no session, only numbers that were given. -/
theorem newcomers_of_down (reachable : round.server.Reachable) (down : .down ∈ round.changes)
    : Newcomers round.server.registry.next round.now round.linked.server := by
  have drained := linked_registry reachable
  rw [if_pos down] at drained
  refine ⟨?_, ?_, ?_⟩ <;> rw [drained]
  · exact Nat.le_refl _
  · exact nofun
  · exact nofun

/-- Behind a loss no session is ended that had been admitted before. -/
theorem rest_ended_fresh (reachable : round.server.Reachable) (down : .down ∈ round.changes)
    {id : SessionId} (ended : id ∈ round.rest.effects.filterMap Effect.ended?)
    : round.server.registry.next ≤ id.number := by
  have wellFormed := round.linked_evolves.wellFormed reachable.wellFormed
  have trace := rest_traced wellFormed
  have none : round.linked.server.registry.ids = [] := by
    rw [linked_registry reachable, if_pos down]
    rfl
  have balanced := (trace.accounts wellFormed).ids_perm
  rw [none, List.nil_append] at balanced
  have admitted := balanced.subset (List.mem_append_right _ ended)
  exact Nat.le_trans round.linked_evolves.next_le (trace.admitted_fresh admitted)

/-- What is gathered before a round in which the link went down ends nobody in the rest of it. -/
theorem rest_ended_of_knew (reachable : round.server.Reachable)
    (down : .down ∈ round.changes) (knew : round.server.Knew round.occasion.batch)
    : round.rest.effects.filterMap Effect.ended? = [] := by
  obtain ⟨dispatched, newcomers⟩ := (newcomers_of_down reachable down).dispatch knew
  have pushed
      : (round.swept.server.pushTelemetry round.now round.occasion.frame
          round.occasion.send).effects.filterMap Effect.ended? = [] := by
    rw [List.filterMap_eq_nil_iff]
    intro effect member
    have own := pushTelemetry_of _ _ _ _ effect member
    cases effect <;> first | rfl | (rename_i reason; cases reason <;> cases own rfl)
  have rest
      : round.rest.effects
        = ((round.linked.server.dispatch round.now round.occasion.batch).effects
            ++ ((round.linked.server.dispatch round.now round.occasion.batch).server.sweep
              round.now).effects)
          ++ (round.swept.server.pushTelemetry round.now round.occasion.frame
            round.occasion.send).effects := rfl
  rw [rest, newcomers.sweep, List.filterMap_append, List.filterMap_append, dispatched, pushed]
  rfl

/-- The sessions that end in a round are those that the link costs, and those of the rest. -/
theorem step_ended (reachable : round.server.Reachable)
    : round.step.effects.filterMap Effect.ended?
      = (if .down ∈ round.changes then round.server.registry.ids else [])
        ++ round.rest.effects.filterMap Effect.ended? := by
  rw [step_effects, List.filterMap_append, linked_ended reachable]

/-- All that a round raises: the changes of the link and the clients that came and went. -/
theorem step_pending (reachable : round.server.Reachable) (bit : Nat)
    : round.step.server.status.pending.Has bit
      ↔ round.server.status.pending.Has bit
        ∨ (.down ∈ round.changes ∧ Events.linkDown.Has bit)
        ∨ (.up ∈ round.changes ∧ Events.linkUp.Has bit)
        ∨ (round.step.effects.filterMap Effect.admitted? ≠ []
          ∧ Events.clientConnected.Has bit)
        ∨ (round.step.effects.filterMap Effect.ended? ≠ []
          ∧ Events.clientDisconnected.Has bit) := by
  have nobody : round.linked.effects.filterMap Effect.admitted? = [] := by
    rw [List.filterMap_eq_nil_iff]
    intro effect member
    have own := handleLink_of _ _ _ effect member
    cases effect <;> first | rfl | cases own rfl
  have went
      : round.step.effects.filterMap Effect.ended? ≠ []
        ↔ (.down ∈ round.changes ∧ round.server.registry.entries ≠ [])
          ∨ round.rest.effects.filterMap Effect.ended? ≠ [] := by
    rw [step_ended reachable, ne_eq, List.append_eq_nil_iff, not_and_or]
    refine or_congr_left ?_
    split
    next down => simp [down, Registry.ids]
    next kept => simp [kept]
  rw [went, step_effects, List.filterMap_append, nobody, List.nil_append, step_server,
    round.rest_raises bit, linked_pending reachable]
  simp only [and_or_left, or_and_right, and_assoc, or_assoc, or_left_comm]

-----------------------------------------------------------------------------------------
-- Batches of changes
-----------------------------------------------------------------------------------------

/-- What the reports of the link that are queued before a round come to. They count by their
changes, which are left when repeats are removed; the link and what is shown of it end as the
last one. If the link goes down among them, every session that was live ends, each once, and
the sockets are closed, even if the link comes up again: what was gathered before finds no
session, and ends none. Each change raises its event, behind the ends of all sessions. There is
one attempt to bind if the last change comes up and none if it goes down, however many there
are. The event of a link that goes down, or comes up, is raised just if there is such a change,
and that of a client that went just if one did. Without a change nothing happens but an attempt
to bind that is due, and only to closed sockets.
-/
structure Batched (round : Round) : Prop where
  changes_eq
    : round.server.link.current :: round.changes
      = (round.server.link.current :: round.server.link.queue).destutter (· ≠ ·)
  link_eq
    : round.step.server.link = ⟨(round.changes.getLast?).getD round.server.link.current, []⟩
  linkUp_eq : round.step.server.status.view.linkUp = round.step.server.link.current.isUp
  effects_eq
    : round.linked.effects
      = (if .down ∈ round.changes then round.server.lossEffects else [])
        ++ round.changes.map Effect.ofChange
        ++ round.attempts.map Effect.ofAttempt
  registry_eq
    : round.linked.server.registry
      = if .down ∈ round.changes then round.server.registry.drain.2 else round.server.registry
  bound_eq
    : round.step.server.bound
      = if round.attempts ≠ [] then round.occasion.port
        else if .down ∈ round.changes then none
        else round.server.bound
  linked_pending_iff
    : ∀ bit,
        round.linked.server.status.pending.Has bit
        ↔ round.server.status.pending.Has bit
          ∨ (.down ∈ round.changes
            ∧ (Events.linkDown.Has bit
              ∨ (round.server.registry.entries ≠ [] ∧ Events.clientDisconnected.Has bit)))
          ∨ (.up ∈ round.changes ∧ Events.linkUp.Has bit)
  pending_iff
    : ∀ bit,
        round.step.server.status.pending.Has bit
        ↔ round.server.status.pending.Has bit
          ∨ (.down ∈ round.changes ∧ Events.linkDown.Has bit)
          ∨ (.up ∈ round.changes ∧ Events.linkUp.Has bit)
          ∨ (round.step.effects.filterMap Effect.admitted? ≠ []
            ∧ Events.clientConnected.Has bit)
          ∨ (round.step.effects.filterMap Effect.ended? ≠ []
            ∧ Events.clientDisconnected.Has bit)
  ended_once
    : .down ∈ round.changes
      → ∀ id ∈ round.server.registry.ids,
          (round.step.effects.filterMap Effect.ended?).count id = 1
  ended_eq
    : .down ∈ round.changes
      → round.server.Knew round.occasion.batch
      → round.step.effects.filterMap Effect.ended? = round.server.registry.ids
  stale
    : .down ∈ round.changes
      → ∀ event earlier,
          (∀ id,
            Registry.idFor? event.token = some id → id.number < round.server.registry.next)
          → let met := (round.linked.server.dispatch round.now earlier).server
            met.handleStream event round.now = ⟨met, []⟩
  attempts_of_up : round.changes.getLast? = some .up → round.attempts = [round.occasion.port]
  attempts_of_down : round.changes.getLast? = some .down → round.attempts = []
  unchanged
    : round.changes = []
      → round.linked.server.registry = round.server.registry
        ∧ round.linked.server.status = round.server.status
        ∧ (round.server.bound ≠ none
          → round.attempts = [] ∧ round.step.server.bound = round.server.bound)
        ∧ round.attempts
          = if round.server.rebindDue round.now then [round.occasion.port] else []

theorem linked_effects_attempts (reachable : round.server.Reachable)
    : round.linked.effects
      = (if .down ∈ round.changes then round.server.lossEffects else [])
        ++ round.changes.map Effect.ofChange
        ++ round.attempts.map Effect.ofAttempt := by
  rw [linked_effects, attempts_eq, followed_effects reachable]
  refine congrArg (List.append _) ?_
  split <;> rfl

/-- The sockets behind a round: as the attempt left them, else closed by a loss. -/
theorem step_bound_of_changes (reachable : round.server.Reachable)
    : round.step.server.bound
      = if round.attempts ≠ [] then round.occasion.port
        else if .down ∈ round.changes then none
        else round.server.bound := by
  rw [← (followed_spec reachable).bound_eq, ite_not]
  exact round.step_bound

/-- A loss ends what was live before, and what ends behind it came behind it. -/
theorem ended_count (reachable : round.server.Reachable) (down : .down ∈ round.changes)
    {id : SessionId} (live : id ∈ round.server.registry.ids)
    : (round.step.effects.filterMap Effect.ended?).count id = 1 := by
  have wellFormed := reachable.wellFormed
  have later : id ∉ round.rest.effects.filterMap Effect.ended? := by
    intro again
    exact absurd (wellFormed.below id live)
      (Nat.not_lt_of_le (rest_ended_fresh reachable down again))
  rw [step_ended reachable, if_pos down, List.count_append,
    List.count_eq_one_of_mem wellFormed.nodup live, List.count_eq_zero_of_not_mem later]

/-- Behind a loss the events of older sessions find none, whatever was handled before them. -/
theorem handleStream_of_down (reachable : round.server.Reachable)
    (down : .down ∈ round.changes) {event : StreamEvent} (earlier : List Readiness)
    (old
      : ∀ id, Registry.idFor? event.token = some id → id.number < round.server.registry.next)
    : let met := (round.linked.server.dispatch round.now earlier).server
      met.handleStream event round.now = ⟨met, []⟩ := by
  intro met
  apply handleStream_of_absent
  intro id resolved
  have given := old id resolved
  have absent : round.linked.server.registry.find? id = none :=
    (newcomers_of_down reachable down).find?_eq_none given
  exact (dispatch_serves round.now earlier round.linked.server).evolves.find?_eq_none
    (Nat.lt_of_lt_of_le given round.linked_evolves.next_le) absent

/-- Sessions and pending events stay without a change of the link. -/
theorem linked_of_unchanged (unchanged : round.changes = [])
    : round.linked.server.registry = round.server.registry
      ∧ round.linked.server.status = round.server.status := by
  obtain ⟨_, _, _, linked⟩ := round.linked_server
  rw [linked, followed_of_unchanged unchanged]
  exact ⟨rfl, rfl⟩

/-- Bound sockets stay bound without a change of the link. -/
theorem bound_of_unchanged (unchanged : round.changes = []) (bound : round.server.bound ≠ none)
    : round.attempts = [] ∧ round.step.server.bound = round.server.bound := by
  have quiet : round.attempts = [] := by
    have due : round.server.rebindDue round.now = false := by
      simp [rebindDue, bound]
    rw [attempts_of_unchanged unchanged, due]
    rfl
  refine ⟨quiet, ?_⟩
  rw [step_bound, if_pos quiet, followed_of_unchanged unchanged]

end Round

/-- Every round from a server that a run can reach handles its changes of the link as a batch. -/
theorem link_changes_batched {round : Round} (reachable : round.server.Reachable)
    : round.Batched where
  changes_eq := LinkMonitor.cons_changes _ _
  link_eq := round.step_link
  linkUp_eq := (Reachable.round reachable round.occasion).consistent.linkUp_eq
  effects_eq := Round.linked_effects_attempts reachable
  registry_eq := Round.linked_registry reachable
  bound_eq := Round.step_bound_of_changes reachable
  linked_pending_iff := Round.linked_pending reachable
  pending_iff := Round.step_pending reachable
  ended_once down _ live := Round.ended_count reachable down live
  ended_eq down knew := by
    rw [Round.step_ended reachable, if_pos down,
      Round.rest_ended_of_knew reachable down knew, List.append_nil]
  stale down _ earlier old := Round.handleStream_of_down reachable down earlier old
  attempts_of_up := Round.attempts_of_up reachable
  attempts_of_down last := by
    apply Round.attempts_of_down
    rw [Round.step_link, last]
    rfl
  unchanged unchanged := by
    obtain ⟨registry, status⟩ := Round.linked_of_unchanged unchanged
    refine ⟨registry, status, ?_, ?_⟩
    · exact Round.bound_of_unchanged unchanged
    · exact Round.attempts_of_unchanged unchanged

/-- The link goes down twice before a round, and each time it comes up again; another report
says nothing new. The client that was there is gone, the new one is not taken for it, and the
sockets are bound once.
-/
theorem link_changes_batched_flaps
    : let connects (place : UInt8) : Readiness :=
        .listener [.connection (.v4 ⟨192, 168, 1, place⟩ 41000) true]
      let served := ((start {} 5000 {}).iterate { now := 1, batch := [connects 20] }).server
      let reports : List LinkState := [.up, .down, .up, .down, .up]
      let round : Round :=
        ⟨reports.foldl (fun server state => server.meet (.report state))
            (served.meet .takeEvents),
          {
            now := 2
            port := some 5001
            batch := [.stream { token := 17, readable := true }, connects 21]
          }⟩
      round.changes = [.down, .up, .down, .up]
      ∧ round.step.server.link = ⟨.up, []⟩
      ∧ (round.step.effects.filterMap Effect.ended?).count ⟨1⟩ = 1
      ∧ round.step.effects.filterMap Effect.ended? = [⟨1⟩]
      ∧ round.linked.server.handleStream { token := 17, readable := true } 2
        = ⟨round.linked.server, []⟩
      ∧ round.attempts = [some 5001]
      ∧ round.step.server.bound = some 5001
      ∧ round.linked.server.status.pending.Has 0
      ∧ round.linked.server.status.pending.Has 2
      ∧ round.linked.server.status.pending.Has 3 := by
  intro connects served reports round
  have reachable : round.server.Reachable :=
    reports.foldlRecOn (motive := Reachable) _ (.meet (.round (.start _ _ _) _) _)
      fun _ reachable state _ => .meet reachable (.report state)
  have changes : round.changes = [.down, .up, .down, .up] := by decide
  have down : .down ∈ round.changes := by simp [changes]
  have up : .up ∈ round.changes := by simp [changes]
  have last : round.changes.getLast? = some .up := by rw [changes]; rfl
  have ids : round.server.registry.ids = [⟨1⟩] := by decide +kernel
  have old : (1 : Nat) < round.server.registry.next := by decide +kernel
  have resolves (id : SessionId) (resolved : Registry.idFor? 17 = some id)
      : id.number < round.server.registry.next := by
    have first : Registry.idFor? 17 = some ⟨1⟩ := by decide
    rw [first] at resolved
    exact Option.some.inj resolved ▸ old
  have knew : round.server.Knew round.occasion.batch := by
    rintro event (_ | ⟨_, _ | ⟨_, _ | _⟩⟩)
    exact resolves
  have live : round.server.registry.entries ≠ [] := by
    intro none
    simp [Registry.ids, none] at ids
  have now : round.now = 2 := rfl
  have port : round.occasion.port = some 5001 := rfl
  clear_value round
  have batched := link_changes_batched reachable
  have attempts := batched.attempts_of_up last
  rw [port] at attempts
  refine ⟨changes, ?_, ?_, ?_, ?_, attempts, ?_, ?_, ?_, ?_⟩
  · rw [batched.link_eq, last]
    rfl
  · exact batched.ended_once down ⟨1⟩ (by rw [ids]; exact List.mem_singleton_self _)
  · rw [batched.ended_eq down knew, ids]
  · exact now ▸ batched.stale down _ [] resolves
  · rw [batched.bound_eq, if_pos (by simp [attempts]), port]
  · exact (batched.linked_pending_iff 0).mpr (.inr (.inl ⟨down, .inr ⟨live, by decide⟩⟩))
  · exact (batched.linked_pending_iff 2).mpr (.inr (.inr ⟨up, by decide⟩))
  · exact (batched.linked_pending_iff 3).mpr (.inr (.inl ⟨down, .inl (by decide)⟩))

end Server

end Handheld
