import Handheld.Proofs.Server.Rounds
import Handheld.Proofs.Server.Solo

/-! What one session meets in a round. It was live when the round started or comes in with the
batch, events of its stream drive it, and the sweep and telemetry find it as these have left
it. Main statements: an event that does not fail a session has read, confirmed and registered
in one of a few ways, and a session that lives has been driven by the events it met.
-/

namespace Handheld

/-- A session that is due telemetry has a channel for it. -/
theorem Session.channel_of_due {session : Session} {now : Moment}
    (due : session.telemetryDue now)
    : ∃ destination, session.dataChannel = some destination := by
  rw [← Option.isSome_iff_exists]
  by_contra closed
  simp [telemetryDue, untilTelemetry, closed] at due

namespace Server

open Registry (Entry)

-----------------------------------------------------------------------------------------
-- Events that do not fail a session
-----------------------------------------------------------------------------------------

/-- What reading does to an entry whose session it does not fail. -/
inductive Reads (event : StreamEvent) (now : Moment) (entry : Entry) : Entry → Prop
  | unread (idle : event.readable = false) : Reads event now entry entry
  /-- No handshake has come, or none was waited for. -/
  | read {total : Nat} (readable : event.readable)
    (received : (entry.session.receive event.reads now).result = .ok total)
    (stays
      : ¬ (entry.session.phase = .waitingForHandshake
          ∧ (entry.session.receive event.reads now).session.wantsWritable))
    : Reads event now entry
        { entry with session := (entry.session.receive event.reads now).session }
  /-- The handshake has come, and waiting for writability is registered. -/
  | opened {total : Nat} (readable : event.readable)
    (received : (entry.session.receive event.reads now).result = .ok total)
    (wants : (entry.session.receive event.reads now).session.phase = .waitingForServerConfirm)
    (widened : event.widenFailure = none)
    : Reads event now entry
        { entry with
          session := (entry.session.receive event.reads now).session
          interest := .readableWritable }

/-- What writing does to an entry whose session it does not fail. -/
inductive Writes (event : StreamEvent) (hello : Hello) (entry : Entry) : Entry → Prop
  | unwritten : Writes event hello entry entry
  | stopped (turn : entry.session.phase = .waitingForServerConfirm)
    (unfinished : (entry.session.confirm hello event.writes).result = .ok false)
    : Writes event hello entry
        { entry with session := (entry.session.confirm hello event.writes).session }
  /-- The session is confirmed, and waiting for readability alone is registered. -/
  | confirmed (turn : entry.session.phase = .waitingForServerConfirm)
    (finished : (entry.session.confirm hello event.writes).result = .ok true)
    (narrowed : event.narrowFailure = none)
    : Writes event hello entry
        { entry with
          session := (entry.session.confirm hello event.writes).session
          interest := .readable }

/-- Writing touches the phase and the pending bytes of a session alone. -/
theorem Writes.session_eq {event : StreamEvent} {hello : Hello} {entry written : Entry}
    (writes : Writes event hello entry written)
    : ∃ phase outbound, written.session = { entry.session with phase, outbound } := by
  cases writes with
  | unwritten => exact ⟨entry.session.phase, entry.session.outbound, rfl⟩
  | stopped => exact Session.confirm_session_eq _ _ _
  | confirmed => exact Session.confirm_session_eq _ _ _

theorem register_of_healthy {entry : Entry} {interest : Interest} {failure : Option IoKind}
    {written : Bytes} (healthy : (register entry interest failure written).failure = none)
    : failure = none ∧ (register entry interest failure written).entry
      = { entry with interest } := by
  cases failure with
  | none => exact ⟨rfl, rfl⟩
  | some kind => cases healthy

theorem driveReads_of_healthy {event : StreamEvent} {now : Moment} {entry : Entry}
    (healthy : (driveReads event now entry).failure = none)
    : Reads event now entry (driveReads event now entry).entry := by
  rw [driveReads] at healthy ⊢
  split at healthy
  next readable =>
    rw [if_pos readable]
    dsimp only at healthy ⊢
    split at healthy
    · cases healthy
    next received =>
      split at healthy
      next opens =>
        obtain ⟨widened, registered⟩ := register_of_healthy healthy
        rw [if_pos opens, registered]
        exact .opened readable received (by simpa [Session.wantsWritable] using opens.2) widened
      next stays =>
        rw [if_neg stays]
        exact .read readable received stays
  next unreadable =>
    rw [if_neg unreadable]
    exact .unread (by simpa using unreadable)

theorem driveWrites_of_healthy {event : StreamEvent} {hello : Hello} {entry : Entry}
    (healthy : (driveWrites event hello entry).failure = none)
    : Writes event hello entry (driveWrites event hello entry).entry := by
  rw [driveWrites] at healthy ⊢
  split at healthy
  next writes =>
    have turn : entry.session.phase = .waitingForServerConfirm := by
      simpa [Session.wantsWritable] using ((Bool.and_eq_true _ _).mp writes).2
    rw [if_pos writes]
    dsimp only at healthy ⊢
    split at healthy
    · cases healthy
    next finished =>
      obtain ⟨narrowed, registered⟩ := register_of_healthy healthy
      rw [registered]
      exact .confirmed turn finished narrowed
    next unfinished => exact .stopped turn unfinished
  next idle =>
    rw [if_neg idle]
    exact .unwritten

/-- An event that does not fail a session is no error and no hangup; it reads and then
writes.
-/
theorem drive_of_healthy {event : StreamEvent} {hello : Hello} {now : Moment} {entry : Entry}
    (healthy : (drive event hello now entry).failure = none)
    : (event.error || event.hangup) = false
      ∧ ∃ read,
          Reads event now entry read
          ∧ Writes event hello read (drive event hello now entry).entry := by
  rw [drive] at healthy ⊢
  split at healthy
  · cases healthy
  next intact =>
    rw [if_neg intact]
    dsimp only at healthy ⊢
    split at healthy
    next failure failed =>
      rw [failed] at healthy
      cases healthy
    next whole =>
      exact ⟨by simpa using intact, _, driveReads_of_healthy whole,
        driveWrites_of_healthy healthy⟩

theorem Called.leads {entry changed : Entry} (called : Called entry changed)
    (reachable : entry.session.Reachable)
    : entry.session.Leads changed.session := by
  obtain ⟨_, calls, later⟩ := called
  rw [later]
  exact (reachable.coherent.afterAll calls).1

/-- An entry is driven by events of its stream, none of which fails its session. -/
inductive Drives (hello : Hello) (now : Moment) : Entry → List StreamEvent → Entry → Prop
  | refl (entry : Entry) : Drives hello now entry [] entry
  | event {first last : Entry} {events : List StreamEvent} (event : StreamEvent)
    (healthy : (drive event hello now first).failure = none)
    (later : Drives hello now (drive event hello now first).entry events last)
    : Drives hello now first (event :: events) last

namespace Drives

variable {hello : Hello} {now : Moment} {first last : Entry} {events : List StreamEvent}

theorem append {middle : Entry} {more : List StreamEvent}
    (left : Drives hello now first events middle) (right : Drives hello now middle more last)
    : Drives hello now first (events ++ more) last := by
  induction left with
  | refl => exact right
  | event event healthy _ ih => exact .event event healthy (ih right)

/-- What each event keeps is kept by all, by induction on the events. -/
theorem keeps (drives : Drives hello now first events last) (Kept : Entry → Prop)
    (single
      : ∀ {entry : Entry} (event : StreamEvent),
          (drive event hello now entry).failure = none
          → Kept entry
          → Kept (drive event hello now entry).entry)
    (holds : Kept first)
    : Kept last := by
  induction drives with
  | refl => exact holds
  | event event healthy _ ih => exact ih (single event healthy holds)

theorem called (drives : Drives hello now first events last) : Called first last :=
  drives.keeps (Called first) (fun event _ called => called.trans (drive_called event hello now _))
    (.refl first)

end Drives

-----------------------------------------------------------------------------------------
-- Dispatch
-----------------------------------------------------------------------------------------

/-- The events that one session meets in a batch: those of its stream while it lives. -/
def eventsMet (id : SessionId) (now : Moment) : List Readiness → Server → List StreamEvent
  | [], _ => []
  | readiness :: rest, server =>
      (if (server.registry.find? id).isSome then eventsFor id [readiness] else [])
        ++ eventsMet id now rest (server.handle now readiness).server

theorem eventsMet_cons (id : SessionId) (now : Moment) (readiness : Readiness)
    (rest : List Readiness) (server : Server)
    : server.eventsMet id now (readiness :: rest)
      = server.eventsMet id now [readiness]
        ++ (server.handle now readiness).server.eventsMet id now rest := by
  simp [eventsMet]

/-- How a session comes to meet a batch: it lives already, or it comes with the batch and has
a new number.
-/
inductive Enters (server : Server) (now : Moment) (id : SessionId) : Entry → Prop
  | old {entry : Entry} (found : server.registry.find? id = some entry)
    : Enters server now id entry
  | new (unknown : server.registry.next ≤ id.number) (peer : Peer)
    : Enters server now id ⟨id, .start id peer now, .readable⟩

theorem Enters.reachable {server : Server} {now : Moment} {id : SessionId} {entry : Entry}
    (enters : server.Enters now id entry) (wellFormed : server.registry.WellFormed)
    : entry.session.Reachable := by
  cases enters with
  | old found => exact wellFormed.reachable entry (Registry.mem_of_find? found).1
  | new _ _ => exact .start _ _ _

/-- A number that is still to be given is not found. -/
theorem find?_eq_none_of_unknown {registry : Registry} (wellFormed : registry.WellFormed)
    {id : SessionId} (unknown : registry.next ≤ id.number)
    : registry.find? id = none := by
  by_contra live
  exact Nat.not_lt.mpr unknown (wellFormed.known (Option.isSome_iff_ne_none.mpr live))

/-- Nobody meets anything whose number has not been given at the end, by induction on the
batch.
-/
theorem eventsMet_of_unknown {id : SessionId} (now : Moment) (batch : List Readiness)
    {server : Server} (wellFormed : server.registry.WellFormed)
    (unknown : (server.dispatch now batch).server.registry.next ≤ id.number)
    : server.eventsMet id now batch = [] := by
  induction batch generalizing server with
  | nil => rfl
  | cons readiness rest ih =>
      have handled := (handle_serves now readiness server).evolves
      have later := ih (handled.wellFormed wellFormed) unknown
      have never : server.registry.find? id = none :=
        find?_eq_none_of_unknown wellFormed
          (Nat.le_trans (handled.trans (dispatch_serves now rest _).evolves).next_le unknown)
      rw [eventsMet, later, never]
      rfl

theorem welcome_found {now : Moment} {address : SocketAddress} {registers : Bool}
    {server : Server} {id : SessionId} {entry : Entry}
    (found : (server.welcome now address registers).server.registry.find? id = some entry)
    : server.Enters now id entry := by
  rw [welcome] at found
  split at found
  · exact .old found
  next peer valid =>
    split at found
    · exact .old found
    next key registry admitted =>
      split at found
      · obtain ⟨_, rfl, rfl⟩ := Registry.accept_eq_admitted admitted
        simp only [Step.andThen, tell, writeStatus, Registry.find?, List.find?_append,
          Option.or_eq_some_iff] at found
        rcases found with found | ⟨_, found⟩
        · exact .old found
        · obtain ⟨rfl, same⟩ := by simpa using found
          subst same
          exact .new (Nat.le_refl _) peer
      · exact .old found

/-- An accepted connection is new, by induction on the backlog. -/
theorem acceptAll_found {now : Moment} {backlog : List AcceptOutcome} {server : Server}
    {id : SessionId} {entry : Entry}
    (found : (server.acceptAll now backlog).server.registry.find? id = some entry)
    : server.Enters now id entry := by
  induction backlog generalizing server with
  | nil => exact .old found
  | cons outcome rest ih =>
      rw [acceptAll.eq_def] at found
      dsimp only at found
      split at found
      · exact .old found
      next isOpen =>
        cases outcome with
        | connection address registers =>
            have listening : server.bound ≠ none := by simpa using isOpen
            cases ih found with
            | old found => exact welcome_found found
            | new unknown peer =>
                have served := (welcome_serves now address registers listening).evolves
                exact .new (Nat.le_trans served.next_le unknown) peer
        | interrupted => exact ih found
        | wouldBlock => exact .old found
        | failed => exact .old found

theorem find?_teardown (key : SessionId) (reason : TeardownReason) (server : Server)
    (id : SessionId)
    : (server.teardown key reason).server.registry.find? id
      = if key = id then none else server.registry.find? id := by
  cases found : server.registry.find? key with
  | none =>
      rw [teardown_of_none found]
      split
      next same => rw [← same, found]
      · rfl
  | some entry =>
      rw [teardown_of_some found]
      exact Registry.find?_remove server.registry key id

/-- A session that lives behind an event of some stream was not failed by it. -/
theorem handleStream_found {event : StreamEvent} {now : Moment} {server : Server}
    {id : SessionId} {entry : Entry}
    (found : (server.handleStream event now).server.registry.find? id = some entry)
    : ∃ first,
        server.registry.find? id = some first
        ∧ Drives server.hello now first (eventsFor id [.stream event]) entry := by
  by_cases own : Registry.idFor? event.token = some id
  · rw [handleStream, own, Option.bind_some] at found
    rw [eventsFor_own own]
    cases before : server.registry.find? id with
    | none =>
        rw [before] at found
        rw [before] at found
        cases found
    | some first =>
        obtain ⟨_, rfl⟩ := Registry.mem_of_find? before
        have key := (drive_called event server.hello now first).1
        rw [before] at found
        dsimp only [Step.andThen] at found
        split at found
        next healthy =>
          rw [Registry.find?_put, if_pos key, before] at found
          cases found
          exact ⟨first, rfl, .event event healthy (.refl _)⟩
        · rw [find?_teardown, if_pos rfl] at found
          cases found
  · refine ⟨entry, ?_, eventsFor_other own [] ▸ .refl entry⟩
    rw [handleStream] at found
    split at found
    · exact found
    next other resolved =>
      obtain ⟨key, token, before⟩ := Option.bind_eq_some_iff.mp resolved
      obtain ⟨_, rfl⟩ := Registry.mem_of_find? before
      have different : other.key ≠ id := by
        rintro rfl
        exact own token
      have key := (drive_called event server.hello now other).1
      dsimp only [Step.andThen] at found
      split at found
      · rwa [Registry.find?_put, if_neg (key ▸ different)] at found
      · rw [find?_teardown, if_neg different] at found
        rwa [Registry.find?_put, if_neg (key ▸ different)] at found

/-- An event that fails a session takes it out. -/
theorem handleStream_failed {event : StreamEvent} {now : Moment} {server : Server}
    {id : SessionId} {entry : Entry} (own : Registry.idFor? event.token = some id)
    (found : server.registry.find? id = some entry)
    (failed : (drive event server.hello now entry).failure ≠ none)
    : (server.handleStream event now).server.registry.find? id = none := by
  cases after : (server.handleStream event now).server.registry.find? id with
  | none => rfl
  | some changed =>
      obtain ⟨first, before, drives⟩ := handleStream_found after
      rw [eventsFor_own own] at drives
      obtain rfl : entry = first := Option.some.inj (found.symm.trans before)
      cases drives with
      | event _ healthy _ => exact absurd healthy failed

theorem handle_found {now : Moment} {readiness : Readiness} {server : Server} {id : SessionId}
    {entry : Entry}
    (found : (server.handle now readiness).server.registry.find? id = some entry)
    : ∃ first,
        server.Enters now id first
        ∧ Drives server.hello now first (server.eventsMet id now [readiness]) entry := by
  have met : server.eventsMet id now [readiness]
      = if (server.registry.find? id).isSome then eventsFor id [readiness] else [] :=
    List.append_nil _
  rw [met]
  cases readiness with
  | listener backlog =>
      have silent : eventsFor id [.listener backlog] = [] := rfl
      rw [silent, ite_self]
      exact ⟨entry, acceptAll_found found, .refl entry⟩
  | waker =>
      have silent : eventsFor id [.waker] = [] := rfl
      rw [silent, ite_self]
      exact ⟨entry, .old found, .refl entry⟩
  | stream event =>
      obtain ⟨first, before, drives⟩ := handleStream_found found
      rw [before]
      exact ⟨first, .old before, drives⟩

/-- A session that lives behind a batch was driven by the events that it met, by induction on
the batch.
-/
theorem dispatch_found {now : Moment} {batch : List Readiness} {server : Server}
    (wellFormed : server.registry.WellFormed) {id : SessionId} {entry : Entry}
    (found : (server.dispatch now batch).server.registry.find? id = some entry)
    : ∃ first,
        server.Enters now id first
        ∧ Drives server.hello now first (server.eventsMet id now batch) entry := by
  induction batch generalizing server with
  | nil => exact ⟨entry, .old found, .refl entry⟩
  | cons readiness rest ih =>
      have handled := handle_serves now readiness server
      obtain ⟨middle, enters, later⟩ := ih (handled.evolves.wellFormed wellFormed) found
      rw [handled.hello_eq] at later
      rw [eventsMet_cons]
      cases enters with
      | old between =>
          obtain ⟨first, enters, drives⟩ := handle_found between
          exact ⟨first, enters, drives.append later⟩
      | new unknown peer =>
          have earlier := Nat.le_trans handled.evolves.next_le unknown
          have nothing : server.eventsMet id now [readiness] = [] := by
            simp [eventsMet, find?_eq_none_of_unknown wellFormed earlier]
          rw [nothing]
          exact ⟨_, .new earlier peer, later⟩

-----------------------------------------------------------------------------------------
-- Link, sweep and telemetry
-----------------------------------------------------------------------------------------

/-- The link ends sessions or leaves them as they are. -/
theorem handleLink_found {now : Moment} {port : Option UInt16} {server : Server}
    {id : SessionId} {entry : Entry}
    (found : (server.handleLink now port).server.registry.find? id = some entry)
    : server.registry.find? id = some entry := by
  have followed
      : ∀ entry,
          (Step.forEach followLink server.link.takeAll.1
            { server with link := server.link.takeAll.2 }).server.registry.find? id
              = some entry
          → server.registry.find? id = some entry := by
    refine Step.forEach_related
      (fun server next =>
        ∀ entry, next.registry.find? id = some entry → server.registry.find? id = some entry)
      (fun _ _ found => found) (fun left right entry found => left entry (right entry found))
      (fun state server entry found => ?_) _ _
    cases state with
    | up =>
        rw [followLink] at found
        dsimp only [Step.andThen, tell] at found
        split at found <;> exact found
    | down =>
        simp only [followLink, Step.andThen, tell, closeSockets, writeStatus, teardownAll_eq,
          afterTeardowns_registry, Registry.find?_drain] at found
        cases found
  refine followed entry ?_
  rw [handleLink] at found
  dsimp only [Step.andThen] at found
  split at found
  · cases port <;> exact found
  · exact found

/-- Ended sessions are not found any more, by induction on them. -/
theorem find?_teardowns (keys : List SessionId) (reason : TeardownReason) (server : Server)
    (id : SessionId)
    : (Step.forEach (fun key => teardown key reason) keys server).server.registry.find? id
      = if id ∈ keys then none else server.registry.find? id := by
  induction keys generalizing server with
  | nil => rfl
  | cons key rest ih =>
      refine (ih _).trans ?_
      rw [find?_teardown]
      by_cases same : key = id
      · simp [same]
      · simp [same, Ne.symm same]

/-- The sweep leaves the sessions that have not been silent for too long. -/
theorem find?_sweep {server : Server} (wellFormed : server.registry.WellFormed) (now : Moment)
    (id : SessionId)
    : (server.sweep now).server.registry.find? id
      = (server.registry.find? id).filter fun entry =>
          !entry.session.isExpired now server.settings.heartbeatTimeout := by
  simp only [sweep, find?_teardowns, Registry.expired, wellFormed.mem_filter_keys]
  cases server.registry.find? id with
  | none => simp
  | some entry =>
      cases expired : entry.session.isExpired now server.settings.heartbeatTimeout <;>
        simp [Option.filter_some, expired]

/-- An entry behind telemetry, which it takes when it is due. -/
def served (now : Moment) (bound : Option UInt16) (entry : Entry) : Entry :=
  if bound.isSome ∧ entry.session.telemetryDue now then
    { entry with session := entry.session.markTelemetrySent now }
  else entry

/-- Telemetry touches nothing of a session but when it was served last. -/
theorem served_eq (now : Moment) (bound : Option UInt16) (entry : Entry)
    : ∃ lastTelemetry,
        served now bound entry
        = { entry with session := { entry.session with lastTelemetry } } := by
  rw [served]
  split
  · exact ⟨some now, rfl⟩
  · exact ⟨entry.session.lastTelemetry, rfl⟩

/-- Telemetry brings no session in. -/
theorem pushTelemetry_absent {server : Server} {id : SessionId}
    (absent : server.registry.find? id = none) (now : Moment) (frame : Frame)
    (send : SessionId → SendOutcome)
    : (server.pushTelemetry now frame send).server.registry.find? id = none := by
  rw [pushTelemetry]
  dsimp only
  split
  · exact absent
  · refine Step.forEach_related
      (fun server next => server.registry.find? id = none → next.registry.find? id = none)
      (fun _ absent => absent) (fun left right absent => right (left absent))
      (fun key server absent => ?_) _ _ absent
    rw [sendTo]
    split
    · exact absent
    · split
      · exact absent
      · rw [Registry.find?_put, absent]
        split <;> rfl

theorem find?_pushTelemetry {server : Server} (wellFormed : server.registry.WellFormed)
    (now : Moment) (frame : Frame) (send : SessionId → SendOutcome) (id : SessionId)
    : (server.pushTelemetry now frame send).server.registry.find? id
      = (server.registry.find? id).map (served now server.bound) := by
  cases found : server.registry.find? id with
  | none => rw [pushTelemetry_absent found, Option.map_none]
  | some entry =>
      have knows : server.Knows id := ⟨wellFormed, wellFormed.known (by simp [found])⟩
      have part := congrArg Part.held?
        (part_pushTelemetry (fun _ => ()) knows now frame send)
      rw [found] at part
      refine part.trans ?_
      simp only [Part.push, Part.when, Option.any_some, Option.map_some, served]
      split
      next due =>
        obtain ⟨destination, channel⟩ := Session.channel_of_due due.2
        simp only [Part.send, channel]
      · rfl

-----------------------------------------------------------------------------------------
-- Rounds
-----------------------------------------------------------------------------------------

namespace Round

variable {round : Round} {id : SessionId}

/-- The events that a session meets in a round. -/
def met (round : Round) (id : SessionId) : List StreamEvent :=
  round.linked.server.eventsMet id round.now round.occasion.batch

/-- A session that lives behind the dispatch of a round has been driven by what it met. -/
theorem dispatched_found (wellFormed : round.server.registry.WellFormed) {entry : Entry}
    (found : round.dispatched.server.registry.find? id = some entry)
    : ∃ first,
        round.server.Enters round.now id first
        ∧ Drives round.linked.server.hello round.now first (round.met id) entry := by
  obtain ⟨first, enters, drives⟩ :=
    dispatch_found (round.linked_evolves.wellFormed wellFormed) found
  refine ⟨first, ?_, drives⟩
  cases enters with
  | old found => exact .old (handleLink_found found)
  | new unknown peer => exact .new (Nat.le_trans round.linked_evolves.next_le unknown) peer

/-- Link and dispatch leave the settings alone. -/
theorem dispatched_settings (wellFormed : round.server.registry.WellFormed)
    : round.dispatched.server.settings = round.server.settings :=
  (dispatch_serves round.now round.occasion.batch _).settings_eq.trans
    (handleLink_traced round.now round.occasion.port wellFormed).settings_eq

/-- The sweep of a round leaves the sessions that have not been silent for too long. -/
theorem find?_swept (wellFormed : round.server.registry.WellFormed) (id : SessionId)
    : round.swept.server.registry.find? id
      = (round.dispatched.server.registry.find? id).filter fun entry =>
          !entry.session.isExpired round.now round.server.settings.heartbeatTimeout := by
  rw [← dispatched_settings wellFormed]
  exact find?_sweep (round.dispatched_evolves.wellFormed wellFormed) round.now id

theorem find?_step (wellFormed : round.server.registry.WellFormed) (id : SessionId)
    : round.step.server.registry.find? id
      = (round.swept.server.registry.find? id).map
          (served round.now round.swept.server.bound) :=
  find?_pushTelemetry (round.swept_evolves.wellFormed wellFormed) _ _ _ id

theorem swept_found (wellFormed : round.server.registry.WellFormed) {entry : Entry}
    (found : round.swept.server.registry.find? id = some entry)
    : round.dispatched.server.registry.find? id = some entry
      ∧ Span.between entry.session.lastHeartbeat round.now
        ≤ round.server.settings.heartbeatTimeout := by
  rw [find?_swept wellFormed, Option.filter_eq_some_iff] at found
  exact ⟨found.1, by simpa [Session.isExpired] using found.2⟩

theorem step_found (wellFormed : round.server.registry.WellFormed) {entry : Entry}
    (found : round.step.server.registry.find? id = some entry)
    : ∃ swept,
        round.swept.server.registry.find? id = some swept
        ∧ entry = served round.now round.swept.server.bound swept := by
  rw [find?_step wellFormed, Option.map_eq_some_iff] at found
  obtain ⟨swept, found, same⟩ := found
  exact ⟨swept, found, same.symm⟩

/-- A number that is still to be given behind a round has met nothing in it. -/
theorem met_of_unknown (wellFormed : round.server.registry.WellFormed)
    (unknown : round.step.server.registry.next ≤ id.number)
    : round.met id = [] := by
  refine eventsMet_of_unknown _ _ (round.linked_evolves.wellFormed wellFormed) ?_
  exact Nat.le_trans
    ((sweep_serves round.now _).evolves.trans (pushTelemetry_serves _ _ _ _).evolves).next_le
    unknown

end Round

end Server

end Handheld
