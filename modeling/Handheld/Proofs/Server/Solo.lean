import Handheld.Proofs.Server.Runs

/-! The part of one session in a round. Main statement: what a round does to a session depends
on its entry, on the events of its own stream and on the network side of the server, and on
no other session.
-/

namespace Handheld

namespace Server

-----------------------------------------------------------------------------------------
-- Parts
-----------------------------------------------------------------------------------------

/-- What an effect is to one session; `ω` is what is looked at of the outcome of a send. -/
inductive Share (ω : Type)
  | wrote (bytes : Bytes)
  | sent (destination : Peer) (outcome : ω)
  | ended (session : Session) (level : Log.Level) (reason : TeardownReason)
  deriving DecidableEq

def Effect.share? {ω : Type} (read : SendOutcome → ω) (id : SessionId)
    : Effect → Option (Share ω)
  | .wrote key bytes => if key = id then some (.wrote bytes) else none
  | .sent key destination _ outcome =>
      if key = id then some (.sent destination (read outcome)) else none
  | .disconnected session level reason =>
      if session.id = id then some (.ended session level reason) else none
  | _ => none

/-- What becomes of one session: its entry while it lives, and its share in the effects. -/
structure Part (ω : Type) where
  held? : Option Registry.Entry
  shares : List (Share ω)
  deriving DecidableEq

def Step.part {ω : Type} (read : SendOutcome → ω) (id : SessionId) (step : Step) : Part ω :=
  ⟨step.server.registry.find? id, step.effects.filterMap (Effect.share? read id)⟩

namespace Part

variable {ω : Type}

/-- Nothing happens to the session. -/
def still (held? : Option Registry.Entry) : Part ω := ⟨held?, []⟩

def andThen (part : Part ω) (work : Option Registry.Entry → Part ω) : Part ω :=
  let later := work part.held?
  ⟨later.held?, part.shares ++ later.shares⟩

/-- Work that is done under a condition only. -/
def when (condition : Prop) [Decidable condition] (work : Option Registry.Entry → Part ω)
    (held? : Option Registry.Entry)
    : Part ω :=
  if condition then work held? else still held?

/-- The session ends, if it lives. -/
def ending (level : Log.Level) (reason : TeardownReason) : Option Registry.Entry → Part ω
  | none => still none
  | some entry => ⟨none, [.ended entry.session level reason]⟩

/-- The session ends with the link when that goes down among the changes. -/
def follow (changes : List LinkState) : Option Registry.Entry → Part ω :=
  when (.down ∈ changes) (ending .info .linkDown)

/-- The session ends when it has failed. -/
def fail (failure : Option SessionFailure) (held? : Option Registry.Entry) : Part ω :=
  match failure with
  | none => still held?
  | some failure =>
      ending (if (TeardownReason.failure failure).isOrderly then .info else .warn)
        (.failure failure) held?

/-- An event of the session's stream. -/
def drive (hello : Hello) (now : Moment) (event : StreamEvent)
    : Option Registry.Entry → Part ω
  | none => still none
  | some entry =>
      let driven := Server.drive event hello now entry
      let wrote := if driven.written.isEmpty then [] else [.wrote driven.written]
      (Part.mk (some driven.entry) wrote).andThen (fail driven.failure)

/-- The events of the session's stream, in order. -/
def driveAll (hello : Hello) (now : Moment)
    : List StreamEvent → Option Registry.Entry → Part ω
  | [], held? => still held?
  | event :: rest, held? => (drive hello now event held?).andThen (driveAll hello now rest)

/-- The session ends when it has been silent for too long. -/
def sweep (now : Moment) (timeout : Span) (held? : Option Registry.Entry) : Part ω :=
  when (held?.any fun entry => entry.session.isExpired now timeout)
    (ending .warn .heartbeatTimeout) held?

def send (now : Moment) (outcome : ω) : Option Registry.Entry → Part ω
  | none => still none
  | some entry =>
      match entry.session.dataChannel with
      | none => still (some entry)
      | some destination =>
          ⟨some { entry with session := entry.session.markTelemetrySent now },
            [.sent destination outcome]⟩

/-- The session takes telemetry when it is due and the sockets are bound. -/
def push (now : Moment) (bound : Option UInt16) (outcome : ω)
    (held? : Option Registry.Entry)
    : Part ω :=
  when (bound.isSome ∧ held?.any fun entry => entry.session.telemetryDue now)
    (send now outcome) held?

end Part

/-- The number of a session has been given, and the registry is well formed. -/
structure Knows (server : Server) (id : SessionId) : Prop where
  wellFormed : server.registry.WellFormed
  given : id.number < server.registry.next

theorem Knows.evolves {server next : Server} {id : SessionId} (knows : server.Knows id)
    (evolves : Registry.Evolves server.registry next.registry)
    : next.Knows id :=
  ⟨evolves.wellFormed knows.wellFormed, Nat.lt_of_lt_of_le knows.given evolves.next_le⟩

section

variable {ω : Type} (read : SendOutcome → ω) {id : SessionId}

/-- Work behind work: the part of one session goes on where it was. -/
theorem Step.part_andThen {read : SendOutcome → ω} {step : Step} {work : Server → Step}
    {alone : Option Registry.Entry → Part ω}
    (later : (work step.server).part read id = alone (step.server.registry.find? id))
    : (step.andThen work).part read id = (step.part read id).andThen alone := by
  simp only [part, Part.andThen, ← later, andThen, List.filterMap_append]

theorem Part.when_pos {condition : Prop} [Decidable condition] (holds : condition)
    (work : Option Registry.Entry → Part ω)
    : Part.when condition work = work := by
  funext held?
  rw [Part.when, if_pos holds]

theorem Part.when_neg {condition : Prop} [Decidable condition] (fails : ¬ condition)
    (work : Option Registry.Entry → Part ω)
    : Part.when condition work = Part.still := by
  funext held?
  rw [Part.when, if_neg fails]

@[simp]
theorem Part.still_andThen (held? : Option Registry.Entry)
    (work : Option Registry.Entry → Part ω)
    : (Part.still held?).andThen work = work held? := rfl

@[simp]
theorem Part.andThen_still (part : Part ω) : part.andThen Part.still = part := by
  simp [Part.andThen, Part.still]

-----------------------------------------------------------------------------------------
-- Ends of sessions
-----------------------------------------------------------------------------------------

/-- A write to the status is nothing to a session. -/
theorem part_tell (update : Status.Update) (server : Server)
    : (server.tell update).part read id = Part.still (server.registry.find? id) := by
  rw [tell]
  split <;> rfl

theorem part_teardown {server : Server} (knows : server.Knows id) (reason : TeardownReason)
    : (server.teardown id reason).part read id
      = Part.ending (if reason.isOrderly then .info else .warn) reason
          (server.registry.find? id) := by
  cases found : server.registry.find? id with
  | none =>
      rw [teardown_of_none found, Step.part, found]
      rfl
  | some entry =>
      obtain ⟨held, key⟩ := Registry.mem_of_find? found
      have own : entry.session.id = id := (knows.wellFormed.own entry held).trans key
      have gone : ((server.registry.remove id).2).find? id = none := by
        rw [Registry.find?_remove, if_pos rfl]
      rw [teardown_of_some found, recordTeardown_eq]
      simp [Step.part, Part.ending, Effect.share?, own, gone]

/-- Other sessions do not see the end of a session. -/
theorem part_teardown_other {server : Server} (knows : server.Knows id) {key : SessionId}
    (other : key ≠ id) (reason : TeardownReason)
    : (server.teardown key reason).part read id = Part.still (server.registry.find? id) := by
  cases found : server.registry.find? key with
  | none =>
      rw [teardown_of_none found]
      rfl
  | some entry =>
      obtain ⟨held, rfl⟩ := Registry.mem_of_find? found
      have own : entry.session.id ≠ id := by rwa [knows.wellFormed.own entry held]
      have kept := Registry.find?_remove server.registry entry.key id
      rw [if_neg other] at kept
      rw [teardown_of_some found, recordTeardown_eq]
      simp [Step.part, Part.still, Effect.share?, own, kept]

theorem part_fail {server : Server} (knows : server.Knows id)
    (failure : Option SessionFailure)
    : Step.part read id
        (match failure with
          | none => ⟨server, []⟩
          | some failure => server.teardown id (.failure failure))
      = Part.fail failure (server.registry.find? id) := by
  cases failure with
  | none => rfl
  | some failure => exact part_teardown read knows (.failure failure)

theorem part_fail_other {server : Server} (knows : server.Knows id) {key : SessionId}
    (other : key ≠ id) (failure : Option SessionFailure)
    : Step.part read id
        (match failure with
          | none => ⟨server, []⟩
          | some failure => server.teardown key (.failure failure))
      = Part.still (server.registry.find? id) := by
  cases failure with
  | none => rfl
  | some failure => exact part_teardown_other read knows other (.failure failure)

theorem part_teardownAll {server : Server} (knows : server.Knows id)
    (reason : TeardownReason)
    : (server.teardownAll reason).part read id
      = Part.ending .info reason (server.registry.find? id) := by
  have said
      : (server.teardownAll reason).effects.filterMap (Effect.share? read id)
        = ((server.registry.find? id).map
            fun entry => Share.ended entry.session .info reason).toList := by
    have nodup := knows.wellFormed.nodup
    rw [Registry.find?, ← Registry.filterMap_key nodup, teardownAll_eq, Registry.sessions,
      List.filterMap_flatMap, List.flatMap_map, List.filterMap_eq_flatMap_toList]
    refine List.flatMap_congr fun entry held => ?_
    simp only [List.filterMap_cons, List.filterMap_nil, Effect.share?,
      knows.wellFormed.own entry held]
    by_cases own : entry.key = id <;> simp [own]
  have drained : (server.teardownAll reason).server.registry.find? id = none := by
    rw [teardownAll_eq, afterTeardowns_registry, Registry.find?_drain]
  rw [Step.part, drained, said]
  cases server.registry.find? id <;> rfl

-----------------------------------------------------------------------------------------
-- Changes of the link
-----------------------------------------------------------------------------------------

theorem Part.follow_cons (state : LinkState) (rest : List LinkState)
    (held? : Option Registry.Entry)
    : (follow [state] held?).andThen (follow rest)
      = (follow (state :: rest) held? : Part ω) := by
  cases state with
  | up => simp [follow, when]
  | down => cases held? <;> simp [follow, when, ending, Part.andThen, still]

theorem part_closeSockets (server : Server)
    : server.closeSockets.part read id = Part.still (server.registry.find? id) := by
  rw [closeSockets]
  split <;> rfl

theorem part_followLink {server : Server} (knows : server.Knows id) (state : LinkState)
    : (server.followLink state).part read id
      = Part.follow [state] (server.registry.find? id) := by
  cases state with
  | up =>
      have resets (server : Server)
          : Step.part read id
              ⟨if server.bound.isNone then { server with lastRebind := none } else server, []⟩
            = Part.still (server.registry.find? id) := by
        split <;> rfl
      rw [followLink, Step.part_andThen (resets _), part_tell]
      rfl
  | down =>
      rw [followLink, Step.part_andThen (part_tell read _ _),
        Step.part_andThen (part_closeSockets read _),
        part_teardownAll read knows, Part.andThen_still, Part.andThen_still]
      rfl

/-- One change after the other, by induction on the changes. -/
theorem part_followAll {server : Server} (knows : server.Knows id) (changes : List LinkState)
    : (Step.forEach followLink changes server).part read id
      = Part.follow changes (server.registry.find? id) := by
  induction changes generalizing server with
  | nil => rfl
  | cons state rest ih =>
      rw [Step.forEach, Step.part_andThen (ih (knows.evolves (followLink_evolves state server))),
        part_followLink read knows, Part.follow_cons]

theorem part_rebind (now : Moment) (port : Option UInt16) (server : Server)
    : (server.rebind now port).part read id = Part.still (server.registry.find? id) := by
  cases port <;> rfl

theorem part_handleLink {server : Server} (knows : server.Knows id) (now : Moment)
    (port : Option UInt16)
    : (server.handleLink now port).part read id
      = Part.follow server.link.takeAll.1 (server.registry.find? id) := by
  have bound (next : Server)
      : Step.part read id (if next.rebindDue now then next.rebind now port else ⟨next, []⟩)
        = Part.still (next.registry.find? id) := by
    split
    · exact part_rebind read now port next
    · rfl
  have taken : { server with link := server.link.takeAll.2 }.Knows id :=
    ⟨knows.wellFormed, knows.given⟩
  rw [handleLink, Step.part_andThen (bound _), Part.andThen_still]
  exact part_followAll read taken server.link.takeAll.1

-----------------------------------------------------------------------------------------
-- Readiness
-----------------------------------------------------------------------------------------

theorem part_welcome {server : Server} (knows : server.Knows id) (now : Moment)
    (address : SocketAddress) (registers : Bool)
    : (server.welcome now address registers).part read id
      = Part.still (server.registry.find? id) := by
  rw [welcome]
  split
  · rfl
  next peer valid =>
    have older := Registry.find?_accept knows.given peer now
    split
    · rfl
    next admitted registry taken =>
      rw [taken] at older
      split
      · rw [Step.part, Part.still, ← older]
        rfl
      · rfl

/-- New connections leave a known session alone, by induction on the backlog. -/
theorem part_acceptAll {server : Server} (knows : server.Knows id) (now : Moment)
    (backlog : List AcceptOutcome)
    : (server.acceptAll now backlog).part read id
      = Part.still (server.registry.find? id) := by
  induction backlog generalizing server with
  | nil => rfl
  | cons outcome rest ih =>
      rw [acceptAll.eq_def]
      dsimp only
      split
      · rfl
      next isOpen =>
        have listening : server.bound ≠ none := by simpa using isOpen
        cases outcome with
        | connection address registers =>
            have served := (welcome_serves now address registers listening).evolves
            rw [Step.part_andThen (ih (knows.evolves served)), part_welcome read knows,
              Part.still_andThen]
        | interrupted => exact ih knows
        | wouldBlock => rfl
        | failed => rfl

/-- A changed entry and what its stream took are seen by its own session alone. -/
theorem part_put (id : SessionId) {server : Server} {entry changed : Registry.Entry}
    (found : server.registry.find? entry.key = some entry) (called : Called entry changed)
    (written : Bytes)
    : Step.part read id
        ⟨{ server with registry := server.registry.put changed },
          if written.isEmpty then [] else [.wrote entry.key written]⟩
      = if entry.key = id then
          ⟨some changed, if written.isEmpty then [] else [.wrote written]⟩
        else Part.still (server.registry.find? id) := by
  have put := Registry.find?_put server.registry changed id
  rw [called.1] at put
  rw [Step.part, put]
  by_cases same : entry.key = id
  · subst same
    rw [if_pos rfl, if_pos rfl, found]
    cases written <;> simp [Effect.share?]
  · rw [if_neg same, if_neg same]
    cases written <;> simp [Effect.share?, same, Part.still]

theorem part_handleStream {server : Server} (knows : server.Knows id) (now : Moment)
    {event : StreamEvent} (own : Registry.idFor? event.token = some id)
    : (server.handleStream event now).part read id
      = Part.drive server.hello now event (server.registry.find? id) := by
  rw [handleStream, own, Option.bind_some]
  cases found : server.registry.find? id with
  | none =>
      rw [Step.part, found]
      rfl
  | some entry =>
      obtain ⟨_, rfl⟩ := Registry.mem_of_find? found
      have called := drive_called event server.hello now entry
      have changed := knows.evolves (put_serves found called).evolves
      have put := part_put read entry.key found called
        (drive event server.hello now entry).written
      rw [if_pos rfl] at put
      rw [Step.part_andThen (part_fail read changed _), put]
      rfl

theorem part_handleStream_other {server : Server} (knows : server.Knows id) (now : Moment)
    {event : StreamEvent} (other : Registry.idFor? event.token ≠ some id)
    : (server.handleStream event now).part read id
      = Part.still (server.registry.find? id) := by
  rw [handleStream]
  split
  · rfl
  next entry resolved =>
    obtain ⟨key, token, found⟩ := Option.bind_eq_some_iff.mp resolved
    obtain ⟨_, rfl⟩ := Registry.mem_of_find? found
    have different : entry.key ≠ id := by
      rintro rfl
      exact other token
    have called := drive_called event server.hello now entry
    have changed := knows.evolves (put_serves found called).evolves
    have put := part_put read id found called
      (drive event server.hello now entry).written
    rw [if_neg different] at put
    rw [Step.part_andThen (part_fail_other read changed different _), put, Part.andThen_still]

/-- The events of one session in a batch, in order. -/
def eventsFor (id : SessionId) (batch : List Readiness) : List StreamEvent :=
  batch.filterMap fun readiness =>
    match readiness with
    | .stream event => if Registry.idFor? event.token = some id then some event else none
    | _ => none

theorem eventsFor_own {event : StreamEvent} (own : Registry.idFor? event.token = some id)
    (rest : List Readiness)
    : eventsFor id (.stream event :: rest) = event :: eventsFor id rest := by
  simp [eventsFor, own]

theorem eventsFor_other {event : StreamEvent} (other : Registry.idFor? event.token ≠ some id)
    (rest : List Readiness)
    : eventsFor id (.stream event :: rest) = eventsFor id rest := by
  simp [eventsFor, other]

/-- A batch drives a session by the session's own events, by induction on the batch. -/
theorem part_dispatch {server : Server} (knows : server.Knows id) (now : Moment)
    (batch : List Readiness)
    : (server.dispatch now batch).part read id
      = Part.driveAll server.hello now (eventsFor id batch) (server.registry.find? id) := by
  induction batch generalizing server with
  | nil => rfl
  | cons readiness rest ih =>
      have serves := handle_serves now readiness server
      have later := ih (knows.evolves serves.evolves)
      rw [serves.hello_eq] at later
      refine (Step.part_andThen later).trans ?_
      cases readiness with
      | listener backlog =>
          rw [handle, part_acceptAll read knows, Part.still_andThen]
          rfl
      | waker => rfl
      | stream event =>
          by_cases own : Registry.idFor? event.token = some id
          · rw [handle, part_handleStream read knows now own, eventsFor_own own]
            rfl
          · rw [handle, part_handleStream_other read knows now own, eventsFor_other own,
              Part.still_andThen]

-----------------------------------------------------------------------------------------
-- Sweep and telemetry
-----------------------------------------------------------------------------------------

/-- Work for several sessions, each of which sees its own alone, by induction on them. -/
theorem part_forEach {read : SendOutcome → ω} {work : SessionId → Server → Step}
    {alone : Option Registry.Entry → Part ω}
    (serves : ∀ key server, Serves server (work key server).server)
    (own
      : ∀ {server : Server}, server.Knows id →
          (work id server).part read id = alone (server.registry.find? id))
    (other
      : ∀ {server : Server} {key : SessionId}, server.Knows id → key ≠ id →
          (work key server).part read id = Part.still (server.registry.find? id))
    {keys : List SessionId} (nodup : keys.Nodup) {server : Server} (knows : server.Knows id)
    : (Step.forEach work keys server).part read id
      = Part.when (id ∈ keys) alone (server.registry.find? id) := by
  induction keys generalizing server with
  | nil => rfl
  | cons key rest ih =>
      obtain ⟨fresh, nodup⟩ := List.nodup_cons.mp nodup
      have later := ih nodup (knows.evolves (serves key server).evolves)
      rw [Step.forEach, Step.part_andThen later]
      by_cases same : key = id
      -- The keys differ, so that behind its own turn the session has no other.
      · subst same
        rw [own knows, Part.when_neg fresh, Part.when_pos List.mem_cons_self, Part.andThen_still]
      · rw [other knows same, Part.still_andThen]
        simp [Part.when, Ne.symm same]

theorem part_sweep {server : Server} (knows : server.Knows id) (now : Moment)
    : (server.sweep now).part read id
      = Part.sweep now server.settings.heartbeatTimeout (server.registry.find? id) := by
  have nodup := knows.wellFormed.nodup_filter
    fun entry => entry.session.isExpired now server.settings.heartbeatTimeout
  have own {server : Server} (knows : server.Knows id)
      : (server.teardown id .heartbeatTimeout).part read id
        = Part.ending .warn .heartbeatTimeout (server.registry.find? id) :=
    part_teardown read knows .heartbeatTimeout
  have other {server : Server} {key : SessionId} (knows : server.Knows id) (differs : key ≠ id)
      : (server.teardown key .heartbeatTimeout).part read id
        = Part.still (server.registry.find? id) :=
    part_teardown_other read knows differs .heartbeatTimeout
  have swept :=
    part_forEach (fun key => teardown_serves key .heartbeatTimeout) own other nodup knows
  refine swept.trans ?_
  simp only [Part.sweep, Part.when, knows.wellFormed.mem_filter_keys]

theorem part_sendTo {server : Server} (now : Moment) (bytes : Bytes)
    (send : SessionId → SendOutcome)
    : (server.sendTo now bytes send id).part read id
      = Part.send now (read (send id)) (server.registry.find? id) := by
  rw [sendTo]
  cases found : server.registry.find? id with
  | none =>
      rw [Step.part, found]
      rfl
  | some entry =>
      obtain ⟨_, rfl⟩ := Registry.mem_of_find? found
      dsimp only [Part.send]
      cases entry.session.dataChannel with
      | none =>
          rw [Step.part, found]
          rfl
      | some destination =>
          dsimp only
          rw [Step.part, Registry.find?_put, if_pos rfl, found]
          simp [Effect.share?]

theorem part_sendTo_other {server : Server} {key : SessionId} (other : key ≠ id)
    (now : Moment) (bytes : Bytes) (send : SessionId → SendOutcome)
    : (server.sendTo now bytes send key).part read id
      = Part.still (server.registry.find? id) := by
  rw [sendTo]
  split
  · rfl
  next entry found =>
    obtain ⟨_, rfl⟩ := Registry.mem_of_find? found
    split
    · rfl
    · rw [Step.part, Registry.find?_put, if_neg other]
      simp [Effect.share?, other, Part.still]

theorem part_sendAll {server : Server} (knows : server.Knows id) {keys : List SessionId}
    (nodup : keys.Nodup) (now : Moment) (bytes : Bytes) (send : SessionId → SendOutcome)
    : (Step.forEach (sendTo now bytes send) keys server).part read id
      = Part.when (id ∈ keys) (Part.send now (read (send id))) (server.registry.find? id) :=
  part_forEach (sendTo_serves now bytes send) (fun _ => part_sendTo read now bytes send)
    (fun _ other => part_sendTo_other read other now bytes send) nodup knows

theorem part_pushTelemetry {server : Server} (knows : server.Knows id) (now : Moment)
    (frame : Frame) (send : SessionId → SendOutcome)
    : (server.pushTelemetry now frame send).part read id
      = Part.push now server.bound (read (send id)) (server.registry.find? id) := by
  have nodup := knows.wellFormed.nodup_filter fun entry => entry.session.telemetryDue now
  have served
      : Part.push now server.bound (read (send id)) (server.registry.find? id)
        = Part.when (server.bound.isSome ∧ id ∈ server.registry.due now)
            (Part.send now (read (send id))) (server.registry.find? id) := by
    simp only [Part.push, Part.when, Registry.due, knows.wellFormed.mem_filter_keys]
  rw [pushTelemetry, served]
  dsimp only
  split
  next idle =>
    have unserved : ¬ (server.bound.isSome ∧ id ∈ server.registry.due now) := by
      rintro ⟨isBound, isDue⟩
      rcases (Bool.or_eq_true _ _).mp idle with none | closed
      · rw [List.isEmpty_iff.mp none] at isDue
        cases isDue
      · rw [Option.isNone_iff_eq_none.mp closed] at isBound
        cases isBound
    rw [Part.when_neg unserved]
    rfl
  next busy =>
    have isBound : server.bound.isSome := by
      rw [Option.isSome_iff_ne_none]
      intro closed
      exact busy (by simp [closed])
    have shown : (server.writeStatus (.frame frame)).Knows id := ⟨knows.wellFormed, knows.given⟩
    rw [Step.part_andThen (part_sendAll read shown nodup now _ send)]
    simp only [isBound, true_and]
    rfl

-----------------------------------------------------------------------------------------
-- Rounds
-----------------------------------------------------------------------------------------

/-- Up to the telemetry of a round a session ends with the link, is driven by its own events and
ends by silence.
-/
theorem part_beforeTelemetry {server : Server} (knows : server.Knows id) (occasion : Occasion)
    : (server.beforeTelemetry occasion).part read id
      = let linked := (server.handleLink occasion.now occasion.port).server
        ((Part.follow server.link.takeAll.1 (server.registry.find? id)).andThen
            (Part.driveAll linked.hello occasion.now (eventsFor id occasion.batch))).andThen
          (Part.sweep occasion.now linked.settings.heartbeatTimeout) := by
  have linked := knows.evolves (handleLink_evolves occasion.now occasion.port server)
  let dispatched :=
    (server.handleLink occasion.now occasion.port).andThen
      (dispatch occasion.now occasion.batch)
  have serves
      : Serves (server.handleLink occasion.now occasion.port).server dispatched.server :=
    dispatch_serves occasion.now occasion.batch _
  have known := linked.evolves serves.evolves
  have silent := part_sweep read known occasion.now
  rw [serves.settings_eq] at silent
  change (dispatched.andThen (sweep occasion.now)).part read id = _
  rw [Step.part_andThen silent,
    Step.part_andThen (part_dispatch read linked occasion.now occasion.batch),
    part_handleLink read knows]

/-- What a round does to a session depends on the session's own entry and events, and on the
network side of the server.
-/
theorem part_iterate {server : Server} (knows : server.Knows id) (occasion : Occasion)
    : (server.iterate occasion).part read id
      = let linked := (server.handleLink occasion.now occasion.port).server
        (((Part.follow server.link.takeAll.1 (server.registry.find? id)).andThen
              (Part.driveAll linked.hello occasion.now (eventsFor id occasion.batch))).andThen
            (Part.sweep occasion.now linked.settings.heartbeatTimeout)).andThen
          (Part.push occasion.now linked.bound (read (occasion.send id))) := by
  have served := beforeTelemetry_serves occasion server
  have evolves :=
    (handleLink_evolves occasion.now occasion.port server).trans served.evolves
  have pushed := part_pushTelemetry read (knows.evolves evolves) occasion.now occasion.frame
    occasion.send
  rw [served.bound_eq] at pushed
  rw [iterate_eq, Step.part_andThen pushed, part_beforeTelemetry read knows]

end

end Server

end Handheld
