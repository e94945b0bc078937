import Handheld.Proofs.Session.Registry
import Handheld.Server.Round

/-! Serving sessions. Dispatch, the sweep and telemetry change the registry only as registries
change, and they leave the network side of the server alone. Main statement: none of them
touches sockets or link, and without a listener none of them brings a new session.
-/

namespace Handheld

namespace Server

/-- Work on each element of a list relates servers as the single pieces do, by induction on
the list.
-/
theorem Step.forEach_related {α : Type} (Related : Server → Server → Prop)
    (refl : ∀ server, Related server server)
    (trans
      : ∀ {first second third},
          Related first second → Related second third → Related first third)
    {work : α → Server → Step}
    (single : ∀ element server, Related server (work element server).server)
    (elements : List α) (server : Server)
    : Related server (forEach work elements server).server := by
  induction elements generalizing server with
  | nil => exact refl server
  | cons element rest ih => exact trans (single element server) (ih _)

-----------------------------------------------------------------------------------------
-- Serving sessions
-----------------------------------------------------------------------------------------

/-- What serving sessions does to a server: nothing to its sockets and its link, and to its
registry what registries allow. Without a listener no session is new.
-/
structure Serves (server next : Server) : Prop where
  settings_eq : next.settings = server.settings
  bound_eq : next.bound = server.bound
  hello_eq : next.hello = server.hello
  link_eq : next.link = server.link
  lastRebind_eq : next.lastRebind = server.lastRebind
  linkUp_eq : next.status.view.linkUp = server.status.view.linkUp
  evolves : Registry.Evolves server.registry next.registry
  entries_eq_nil
    : server.bound = none → server.registry.entries = [] → next.registry.entries = []

theorem Serves.refl (server : Server) : Serves server server :=
  ⟨rfl, rfl, rfl, rfl, rfl, rfl, .refl _, fun _ none => none⟩

theorem Serves.trans {first second third : Server} (left : Serves first second)
    (right : Serves second third)
    : Serves first third where
  settings_eq := right.settings_eq.trans left.settings_eq
  bound_eq := right.bound_eq.trans left.bound_eq
  hello_eq := right.hello_eq.trans left.hello_eq
  link_eq := right.link_eq.trans left.link_eq
  lastRebind_eq := right.lastRebind_eq.trans left.lastRebind_eq
  linkUp_eq := right.linkUp_eq.trans left.linkUp_eq
  evolves := left.evolves.trans right.evolves
  entries_eq_nil closed none :=
    right.entries_eq_nil (left.bound_eq.trans closed) (left.entries_eq_nil closed none)

-----------------------------------------------------------------------------------------
-- Writes to the status
-----------------------------------------------------------------------------------------

/-- A client that comes raises its event always. -/
theorem tell_clientConnected (ip : IpAddress) (server : Server)
    : server.tell (.clientConnected ip)
      = ⟨server.writeStatus (.clientConnected ip), [.raised .clientConnected]⟩ := rfl

/-- A change of the shown link raises its event. -/
theorem tell_link {up : Bool} {server : Server} (change : server.status.view.linkUp = !up)
    : server.tell (.link up)
      = ⟨server.writeStatus (.link up), [.raised (if up then .linkUp else .linkDown)]⟩ := by
  cases up <;> simp only [tell, Status.View.raised, change] <;> rfl

/-- A frame raises nothing. -/
theorem tell_frame (frame : Frame) (server : Server)
    : server.tell (.frame frame) = ⟨server.writeStatus (.frame frame), []⟩ := rfl

-----------------------------------------------------------------------------------------
-- Ends of sessions
-----------------------------------------------------------------------------------------

/-- The server with the account of a session that is gone. -/
def afterTeardown (server : Server) (session : Session) : Server :=
  { server with stats.teardowns := server.stats.teardowns + 1 }.writeStatus
    (.clientDisconnected session.peer.ip)

theorem recordTeardown_eq (level : Log.Level) (reason : TeardownReason) (session : Session)
    (server : Server)
    : server.recordTeardown level reason session
      = ⟨server.afterTeardown session,
          [.disconnected session level reason, .raised .clientDisconnected]⟩ := rfl

@[simp]
theorem afterTeardown_registry (server : Server) (session : Session)
    : (server.afterTeardown session).registry = server.registry := rfl

theorem afterTeardown_serves (server : Server) (session : Session)
    : Serves server (server.afterTeardown session) where
  settings_eq := rfl
  bound_eq := rfl
  hello_eq := rfl
  link_eq := rfl
  lastRebind_eq := rfl
  linkUp_eq := by
    simp only [afterTeardown, writeStatus, Status.Shared.write, Status.Shared.raise,
      Status.View.write]
    split <;> rfl
  evolves := .refl _
  entries_eq_nil _ none := none

theorem teardown_of_none {server : Server} {key : SessionId}
    (absent : server.registry.find? key = none) (reason : TeardownReason)
    : server.teardown key reason = ⟨server, []⟩ := by
  rw [teardown, Registry.remove, Registry.get?, absent]
  rfl

theorem teardown_of_some {server : Server} {key : SessionId} {entry : Registry.Entry}
    (found : server.registry.find? key = some entry) (reason : TeardownReason)
    : server.teardown key reason
      = { server with registry := (server.registry.remove key).2 }.recordTeardown
          (if reason.isOrderly then .info else .warn) reason entry.session := by
  rw [teardown, Registry.remove, Registry.get?, found]
  rfl

theorem teardown_serves (id : SessionId) (reason : TeardownReason) (server : Server)
    : Serves server (server.teardown id reason).server := by
  cases found : server.registry.find? id with
  | none =>
      rw [teardown_of_none found]
      exact .refl server
  | some entry =>
      have removed : Serves server { server with registry := (server.registry.remove id).2 } :=
        ⟨rfl, rfl, rfl, rfl, rfl, rfl, .remove _ id,
          fun _ none => by simp [Registry.remove, none]⟩
      rw [teardown_of_some found]
      exact removed.trans (afterTeardown_serves _ entry.session)

/-- The accounts of sessions that are gone, and what is seen of their ends, by induction on the
sessions.
-/
theorem recordTeardowns_eq (level : Log.Level) (reason : TeardownReason)
    (sessions : List Session) (server : Server)
    : Step.forEach (recordTeardown level reason) sessions server
      = ⟨sessions.foldl afterTeardown server,
          sessions.flatMap fun session =>
            [.disconnected session level reason, .raised .clientDisconnected]⟩ := by
  induction sessions generalizing server with
  | nil => rfl
  | cons session rest ih =>
      rw [Step.forEach, Step.andThen, ih]
      rfl

/-- The accounts of sessions that are gone touch only counters and the shown client, by
induction on the sessions.
-/
theorem afterTeardowns_serves (sessions : List Session) (server : Server)
    : Serves server (sessions.foldl afterTeardown server) := by
  induction sessions generalizing server with
  | nil => exact .refl server
  | cons session rest ih => exact (afterTeardown_serves server session).trans (ih _)

/-- They leave the registry alone. -/
@[simp]
theorem afterTeardowns_registry (sessions : List Session) (server : Server)
    : (sessions.foldl afterTeardown server).registry = server.registry := by
  induction sessions generalizing server with
  | nil => rfl
  | cons session rest ih => exact ih (server.afterTeardown session)

theorem teardownAll_eq (reason : TeardownReason) (server : Server)
    : server.teardownAll reason
      = ⟨server.registry.sessions.foldl afterTeardown
            { server with registry := server.registry.drain.2 },
          server.registry.sessions.flatMap fun session =>
            [.disconnected session .info reason, .raised .clientDisconnected]⟩ :=
  recordTeardowns_eq .info reason _ _

theorem teardownAll_serves (reason : TeardownReason) (server : Server)
    : Serves server (server.teardownAll reason).server := by
  have drained : Serves server { server with registry := server.registry.drain.2 } :=
    ⟨rfl, rfl, rfl, rfl, rfl, rfl, .drain _, fun _ _ => rfl⟩
  rw [teardownAll_eq]
  exact drained.trans (afterTeardowns_serves server.registry.sessions _)

-----------------------------------------------------------------------------------------
-- New connections
-----------------------------------------------------------------------------------------

theorem welcome_serves (now : Moment) (address : SocketAddress) (registers : Bool)
    {server : Server} (listening : server.bound ≠ none)
    : Serves server (server.welcome now address registers).server := by
  rw [welcome]
  split
  · exact .refl server
  next peer valid =>
    split
    · exact ⟨rfl, rfl, rfl, rfl, rfl, rfl, .refl _, fun _ none => none⟩
    next id registry admitted =>
      split
      · have evolves := Registry.Evolves.accept server.registry peer now
        rw [admitted] at evolves
        exact ⟨rfl, rfl, rfl, rfl, rfl, rfl, evolves, fun closed => absurd closed listening⟩
      · exact .refl server

/-- Taking in connections serves sessions, by induction on the backlog. -/
theorem acceptAll_serves (now : Moment) (backlog : List AcceptOutcome) (server : Server)
    : Serves server (server.acceptAll now backlog).server := by
  induction backlog generalizing server with
  | nil => exact .refl server
  | cons outcome rest ih =>
      rw [acceptAll.eq_def]
      dsimp only
      split
      · exact .refl server
      next isOpen =>
        have listening : server.bound ≠ none := by simpa using isOpen
        cases outcome with
        | connection address registers =>
            exact (welcome_serves now address registers listening).trans (ih _)
        | interrupted => exact ih server
        | wouldBlock => exact .refl server
        | failed => exact .refl server

-----------------------------------------------------------------------------------------
-- Streams of sessions
-----------------------------------------------------------------------------------------

/-- An entry has changed by calls on its session alone. -/
def Called (entry changed : Registry.Entry) : Prop :=
  changed.key = entry.key ∧ ∃ calls, changed.session = entry.session.afterAll calls

theorem Called.refl (entry : Registry.Entry) : Called entry entry := ⟨rfl, [], rfl⟩

theorem Called.trans {first second third : Registry.Entry} (left : Called first second)
    (right : Called second third)
    : Called first third := by
  obtain ⟨key, calls, later⟩ := left
  obtain ⟨nextKey, more, next⟩ := right
  refine ⟨nextKey.trans key, calls ++ more, ?_⟩
  rw [next, later, Session.afterAll, Session.afterAll, Session.afterAll, List.foldl_append]

theorem register_called (entry : Registry.Entry) (interest : Interest)
    (failure : Option IoKind) (written : Bytes)
    : Called entry (register entry interest failure written).entry := by
  cases failure <;> exact ⟨rfl, [], rfl⟩

theorem driveReads_called (event : StreamEvent) (now : Moment) (entry : Registry.Entry)
    : Called entry (driveReads event now entry).entry := by
  have read
      : Called entry { entry with session := (entry.session.receive event.reads now).session } :=
    ⟨rfl, [.receive event.reads now], rfl⟩
  rw [driveReads]
  split
  · dsimp only
    split
    · exact read
    · split
      · exact read.trans (register_called _ _ _ _)
      · exact read
  · exact .refl entry

theorem driveWrites_called (event : StreamEvent) (hello : Hello) (entry : Registry.Entry)
    : Called entry (driveWrites event hello entry).entry := by
  have confirmed
      : Called entry
          { entry with session := (entry.session.confirm hello event.writes).session } :=
    ⟨rfl, [.confirm hello event.writes], rfl⟩
  rw [driveWrites]
  split
  · dsimp only
    split
    · exact confirmed
    · exact confirmed.trans (register_called _ _ _ _)
    · exact confirmed
  · exact .refl entry

/-- An event of its stream changes an entry by calls on its session. -/
theorem drive_called (event : StreamEvent) (hello : Hello) (now : Moment)
    (entry : Registry.Entry)
    : Called entry (drive event hello now entry).entry := by
  rw [drive]
  split
  · exact .refl entry
  · dsimp only
    split
    · exact driveReads_called event now entry
    · exact (driveReads_called event now entry).trans (driveWrites_called event hello _)

/-- A changed entry that replaces a live one serves its session. -/
theorem put_serves {server : Server} {entry changed : Registry.Entry}
    (found : server.registry.find? entry.key = some entry) (called : Called entry changed)
    : Serves server { server with registry := server.registry.put changed } := by
  obtain ⟨key, calls, later⟩ := called
  rw [← key] at found
  exact ⟨rfl, rfl, rfl, rfl, rfl, rfl, .change found calls later,
    fun _ none => by simp [Registry.put, none]⟩

theorem handleStream_serves (event : StreamEvent) (now : Moment) (server : Server)
    : Serves server (server.handleStream event now).server := by
  rw [handleStream]
  split
  · exact .refl server
  next entry resolved =>
    obtain ⟨id, _, found⟩ := Option.bind_eq_some_iff.mp resolved
    have live : server.registry.find? entry.key = some entry :=
      (Registry.mem_of_find? found).2 ▸ found
    have put := put_serves live (drive_called event server.hello now entry)
    dsimp only [Step.andThen]
    split
    · exact put
    next failure _ => exact put.trans (teardown_serves entry.key (.failure failure) _)

theorem handle_serves (now : Moment) (readiness : Readiness) (server : Server)
    : Serves server (server.handle now readiness).server := by
  cases readiness with
  | listener backlog => exact acceptAll_serves now backlog server
  | waker => exact .refl server
  | stream event => exact handleStream_serves event now server

-----------------------------------------------------------------------------------------
-- Parts of a round
-----------------------------------------------------------------------------------------

theorem dispatch_serves (now : Moment) (batch : List Readiness) (server : Server)
    : Serves server (server.dispatch now batch).server :=
  Step.forEach_related Serves .refl .trans (handle_serves now) batch server

theorem sweep_serves (now : Moment) (server : Server)
    : Serves server (server.sweep now).server :=
  Step.forEach_related Serves .refl .trans (fun id => teardown_serves id .heartbeatTimeout)
    _ server

theorem sendTo_serves (now : Moment) (bytes : Bytes) (send : SessionId → SendOutcome)
    (id : SessionId) (server : Server)
    : Serves server (server.sendTo now bytes send id).server := by
  rw [sendTo]
  split
  · exact .refl server
  next entry found =>
    have live : server.registry.find? entry.key = some entry :=
      (Registry.mem_of_find? found).2 ▸ found
    split
    · exact .refl server
    · have marked
          : Called entry { entry with session := entry.session.markTelemetrySent now } :=
        ⟨rfl, [.markTelemetrySent now], rfl⟩
      have put := put_serves live marked
      exact put.trans ⟨rfl, rfl, rfl, rfl, rfl, rfl, .refl _, fun _ none => none⟩

theorem pushTelemetry_serves (now : Moment) (frame : Frame) (send : SessionId → SendOutcome)
    (server : Server)
    : Serves server (server.pushTelemetry now frame send).server := by
  rw [pushTelemetry]
  dsimp only
  split
  · exact .refl server
  · have shown : Serves server (server.writeStatus (.frame frame)) :=
      ⟨rfl, rfl, rfl, rfl, rfl, rfl, .refl _, fun _ none => none⟩
    exact shown.trans (Step.forEach_related Serves .refl .trans (sendTo_serves now _ send) _ _)

end Server

end Handheld
