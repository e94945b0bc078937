import Handheld.Proofs.Server.Runs

/-! What the work of a server is made of, as far as the accounts of sessions go: it admits a
session, ends one, changes one by calls, or leaves the accounts alone. Main statement: each
part of a round is made of these, so that what each of them keeps is kept by a round and by
a course of rounds.
-/

namespace Handheld

/-- Tells whether a write says that a client came or went. -/
def Status.Update.isClient : Status.Update → Bool
  | .clientConnected _ => true
  | .clientDisconnected _ => true
  | _ => false

namespace Status.Shared

/-- What each of a list of writes raises, in order. -/
def raises : List Update → Shared → List Events
  | [], _ => []
  | update :: rest, shared =>
      let events := shared.view.raised update
      (if events = .none then [] else [events]) ++ raises rest (shared.write update)

theorem raises_append (earlier later : List Update) (shared : Shared)
    : shared.raises (earlier ++ later)
      = shared.raises earlier ++ (shared.writeAll earlier).raises later := by
  induction earlier generalizing shared with
  | nil => rfl
  | cons update rest ih =>
      rw [List.cons_append, raises, ih, raises, List.append_assoc]
      rfl

/-- What is raised by writes is pending behind them, by induction on the writes. -/
theorem pending_writeAll (updates : List Update) (shared : Shared)
    : (shared.writeAll updates).pending
      = (shared.raises updates).foldl (· ||| ·) shared.pending := by
  induction updates generalizing shared with
  | nil => rfl
  | cons update rest ih =>
      have first
          : (shared.write update).pending
            = (if shared.view.raised update = .none then []
                else [shared.view.raised update]).foldl (· ||| ·) shared.pending := by
        rw [write, raise]
        split
        next nothing => simp [nothing, Events.none]
        next something => rfl
      rw [raises, List.foldl_append, ← first]
      exact ih (shared.write update)

end Status.Shared

namespace Server

/-- The number of the session that an effect admits. -/
def Effect.admitted? : Effect → Option SessionId
  | .admitted id _ => some id
  | _ => none

/-- The number of the session that an effect ends. -/
def Effect.ended? : Effect → Option SessionId
  | .disconnected session _ _ => some session.id
  | _ => none

/-- What an effect writes about clients to the status: one that is admitted is shown, one that
has gone is not.
-/
def Effect.clientUpdate? : Effect → Option Status.Update
  | .admitted _ peer => some (.clientConnected peer.ip)
  | .disconnected session _ _ => some (.clientDisconnected session.peer.ip)
  | _ => none

/-- What an effect raises for the reader of the status. -/
def Effect.raised? : Effect → Option Status.Events
  | .raised events => some events
  | _ => none

/-- Tells whether an effect is about clients: one comes or goes, or the event of that is raised. -/
def Effect.isClient : Effect → Bool
  | .admitted _ _ => true
  | .disconnected _ _ _ => true
  | .raised events => events &&& (.clientConnected ||| .clientDisconnected) != .none
  | _ => false

/-- Effects that neither bring nor end a client, and raise nothing. -/
def Plain (effects : List Effect) : Prop :=
  ∀ effect ∈ effects, effect.isClient = false ∧ effect.raised? = none

-----------------------------------------------------------------------------------------
-- Elements
-----------------------------------------------------------------------------------------

/-- Two servers have the same accounts: their sessions, what was counted of them, and the
client shown.
-/
structure SameAccounts (server next : Server) : Prop where
  settings_eq : next.settings = server.settings
  registry_eq : next.registry = server.registry
  admitted_eq : next.stats.sessionsAdmitted = server.stats.sessionsAdmitted
  teardowns_eq : next.stats.teardowns = server.stats.teardowns
  clientIp_eq : next.status.view.clientIp = server.status.view.clientIp

/-- The status has been written to: about clients just as effects say, and what the writes have
raised are effects.
-/
def Told (before : Status.Shared) (effects : List Effect) (after : Status.Shared) : Prop :=
  ∃ updates,
    after = before.writeAll updates
    ∧ updates.filter Status.Update.isClient = effects.filterMap Effect.clientUpdate?
    ∧ before.raises updates = effects.filterMap Effect.raised?

/-- How one server becomes another, with the effects of each element of the work. -/
inductive Trace : Server → List Effect → Server → Prop
  | admission {server : Server} {peer : Peer} {now : Moment} {id : SessionId} {registry : Registry}
    (admitted : server.registry.accept peer now = (.admitted id, registry))
    : Trace server [.admitted id peer, .raised .clientConnected]
        ({ server with
            registry
            stats.sessionsAdmitted := server.stats.sessionsAdmitted + 1 }.writeStatus
          (.clientConnected peer.ip))
  | teardown {server : Server} {entry : Registry.Entry}
    (found : server.registry.find? entry.key = some entry) (level : Log.Level)
    (reason : TeardownReason)
    : Trace server [.disconnected entry.session level reason, .raised .clientDisconnected]
        ({ server with registry := (server.registry.remove entry.key).2 }.afterTeardown
          entry.session)
  | change {server : Server} {entry changed : Registry.Entry} {effects : List Effect}
    (found : server.registry.find? entry.key = some entry) (called : Called entry changed)
    (plain : Plain effects)
    : Trace server effects { server with registry := server.registry.put changed }
  | aside {server next : Server} {effects : List Effect} (same : SameAccounts server next)
    (told : Told server.status effects next.status)
    (silent : ∀ effect ∈ effects, effect.isClient = false)
    : Trace server effects next
  | append {first second third : Server} {earlier later : List Effect}
    (left : Trace first earlier second) (right : Trace second later third)
    : Trace first (earlier ++ later) third

/-- What is not about clients writes nothing about them. -/
theorem Effect.clientUpdate?_of_silent {effect : Effect} (silent : effect.isClient = false)
    : effect.clientUpdate? = none := by
  cases effect <;> first | rfl | cases silent

theorem Plain.silent {effects : List Effect} (plain : Plain effects)
    : ∀ effect ∈ effects, effect.isClient = false :=
  fun effect member => (plain effect member).1

/-- Plain effects tell of a status that has stayed as it was. -/
theorem Plain.told {effects : List Effect} (plain : Plain effects) (status : Status.Shared)
    : Told status effects status := by
  refine ⟨[], rfl, ?_, ?_⟩ <;> refine (List.filterMap_eq_nil_iff.mpr fun effect member => ?_).symm
  · exact Effect.clientUpdate?_of_silent (plain effect member).1
  · exact (plain effect member).2

/-- Work that does not even touch the status. -/
theorem Trace.unseen {server next : Server} {effects : List Effect}
    (same : SameAccounts server next) (status : next.status = server.status)
    (plain : Plain effects)
    : Trace server effects next :=
  .aside same (status ▸ plain.told server.status) plain.silent

theorem Trace.refl (server : Server) : Trace server [] server :=
  .unseen ⟨rfl, rfl, rfl, rfl, rfl⟩ rfl (by simp [Plain])

/-- The registry changes as registries do. -/
theorem Trace.evolves {server next : Server} {effects : List Effect}
    (trace : Trace server effects next)
    : Registry.Evolves server.registry next.registry := by
  induction trace with
  | @admission server peer now id registry admitted =>
      have accept := Registry.Evolves.accept server.registry peer now
      rw [admitted] at accept
      exact accept
  | @teardown server entry _ _ _ => exact .remove server.registry entry.key
  | change found called _ =>
      obtain ⟨key, calls, later⟩ := called
      exact .change (key ▸ found) calls later
  | aside same _ _ => exact same.registry_eq ▸ .refl _
  | append _ _ left right => exact left.trans right

-----------------------------------------------------------------------------------------
-- Steps
-----------------------------------------------------------------------------------------

/-- A step of work on a server is made of these elements. -/
def Traced (server : Server) (step : Step) : Prop := Trace server step.effects step.server

theorem Traced.andThen {server : Server} {step : Step} {work : Server → Step}
    (first : server.Traced step) (later : step.server.Traced (work step.server))
    : server.Traced (step.andThen work) :=
  Trace.append first later

theorem Traced.wellFormed {server : Server} {step : Step} (traced : server.Traced step)
    (wellFormed : server.registry.WellFormed)
    : step.server.registry.WellFormed :=
  traced.evolves.wellFormed wellFormed

/-- Work for each element of a list, by induction on the list. -/
theorem Traced.forEach {α : Type} {work : α → Server → Step}
    (single
      : ∀ element {server : Server},
          server.registry.WellFormed → server.Traced (work element server))
    (elements : List α) {server : Server} (wellFormed : server.registry.WellFormed)
    : server.Traced (Step.forEach work elements server) := by
  induction elements generalizing server with
  | nil => exact .refl server
  | cons element rest ih =>
      have first := single element wellFormed
      exact first.andThen (ih (first.wellFormed wellFormed))

-----------------------------------------------------------------------------------------
-- Ends of sessions and changes of the link
-----------------------------------------------------------------------------------------

/-- A write to the status that is not about clients, with what it raises. -/
theorem tell_traced (server : Server) {update : Status.Update}
    (other : update.isClient = false)
    : server.Traced (server.tell update) := by
  have clientIp
      : (server.status.view.write update).clientIp = server.status.view.clientIp := by
    cases update with
    | clientConnected _ => cases other
    | clientDisconnected _ => cases other
    | _ => rfl
  have silent : ∀ effect ∈ (server.tell update).effects, effect.isClient = false := by
    intro effect member
    rw [tell] at member
    split at member
    · cases member
    · rw [List.mem_singleton.mp member]
      cases update with
      | clientConnected _ => cases other
      | clientDisconnected _ => cases other
      | _ =>
          rw [Status.View.raised]
          repeat' split
          all_goals decide
  refine .aside ⟨rfl, rfl, rfl, rfl, clientIp⟩ ⟨[update], rfl, ?_, ?_⟩ silent
  · rw [List.filter_cons_of_neg (by simp [other]), List.filter_nil]
    exact (List.filterMap_eq_nil_iff.mpr fun effect member =>
      Effect.clientUpdate?_of_silent (silent effect member)).symm
  · rw [Status.Shared.raises, tell]
    split <;> rfl

theorem teardown_traced (id : SessionId) (reason : TeardownReason) (server : Server)
    : server.Traced (server.teardown id reason) := by
  cases found : server.registry.find? id with
  | none =>
      rw [teardown_of_none found]
      exact .refl server
  | some entry =>
      obtain ⟨_, rfl⟩ := Registry.mem_of_find? found
      rw [teardown_of_some found]
      exact .teardown found _ reason

/-- A drain ends one session after the other, by induction on the sessions. -/
theorem teardownAll_traced (reason : TeardownReason) {server : Server}
    (wellFormed : server.registry.WellFormed)
    : server.Traced (server.teardownAll reason) := by
  suffices drained
      : ∀ entries (server : Server),
          server.registry.entries = entries
          → server.registry.WellFormed
          → Trace server
              (entries.flatMap fun entry =>
                [.disconnected entry.session .info reason, .raised .clientDisconnected])
              ((entries.map (·.session)).foldl afterTeardown
                { server with registry := server.registry.drain.2 }) by
    have all := drained server.registry.entries server rfl wellFormed
    rw [Traced, teardownAll_eq]
    simpa [Registry.sessions, List.flatMap_map] using all
  intro entries
  induction entries with
  | nil =>
      intro server empty _
      have same : { server with registry := server.registry.drain.2 } = server := by
        rw [Registry.drain, ← empty]
      rw [List.flatMap_nil, List.map_nil, List.foldl_nil, same]
      exact .refl server
  | cons entry rest ih =>
      intro server all wellFormed
      have found : server.registry.find? entry.key = some entry :=
        wellFormed.find?_eq_some_iff.mpr ⟨by simp [all], rfl⟩
      have torn := Trace.teardown found .info reason
      have left : (server.registry.remove entry.key).2.entries = rest := by
        have fresh := wellFormed.nodup
        rw [Registry.ids, all, List.map_cons, List.nodup_cons] at fresh
        rw [Registry.remove, all, List.filter_cons_of_neg (by simp)]
        refine List.filter_eq_self.mpr fun other later => ?_
        simpa using fun same : other.key = entry.key =>
          fresh.1 (same ▸ List.mem_map_of_mem later)
      exact torn.append (ih _ left (torn.evolves.wellFormed wellFormed))

theorem closeSockets_traced (server : Server) : server.Traced server.closeSockets := by
  refine .unseen ⟨rfl, rfl, rfl, rfl, rfl⟩ rfl ?_
  rw [closeSockets]
  split <;> simp [Plain, Effect.isClient, Effect.raised?]

theorem followLink_traced (state : LinkState) {server : Server}
    (wellFormed : server.registry.WellFormed)
    : server.Traced (server.followLink state) := by
  cases state with
  | down =>
      exact ((teardownAll_traced .linkDown wellFormed).andThen (closeSockets_traced _)).andThen
        (tell_traced _ rfl)
  | up =>
      refine (tell_traced server rfl).andThen ?_
      split
      · exact .unseen ⟨rfl, rfl, rfl, rfl, rfl⟩ rfl (by simp [Plain])
      · exact .refl _

theorem rebind_traced (now : Moment) (port : Option UInt16) (server : Server)
    : server.Traced (server.rebind now port) := by
  cases port <;>
    exact .unseen ⟨rfl, rfl, rfl, rfl, rfl⟩ rfl
      (by simp [rebind, Plain, Effect.isClient, Effect.raised?])

theorem handleLink_traced (now : Moment) (port : Option UInt16) {server : Server}
    (wellFormed : server.registry.WellFormed)
    : server.Traced (server.handleLink now port) := by
  have taken : Trace server [] { server with link := server.link.takeAll.2 } :=
    .unseen ⟨rfl, rfl, rfl, rfl, rfl⟩ rfl (by simp [Plain])
  have followed := Traced.forEach followLink_traced server.link.takeAll.1
    (taken.evolves.wellFormed wellFormed)
  refine Traced.andThen (taken.append followed) ?_
  split
  · exact rebind_traced now port _
  · exact .refl _

-----------------------------------------------------------------------------------------
-- Readiness
-----------------------------------------------------------------------------------------

theorem welcome_traced (now : Moment) (address : SocketAddress) (registers : Bool)
    (server : Server)
    : server.Traced (server.welcome now address registers) := by
  have aside {effect : Effect} (next : Server) (same : SameAccounts server next)
      (status : next.status = server.status)
      (plain : effect.isClient = false ∧ effect.raised? = none)
      : server.Traced ⟨next, [effect]⟩ :=
    .unseen same status (by simpa [Plain] using plain)
  rw [welcome]
  split
  · exact aside _ ⟨rfl, rfl, rfl, rfl, rfl⟩ rfl ⟨rfl, rfl⟩
  next peer valid =>
    split
    · exact aside _ ⟨rfl, rfl, rfl, rfl, rfl⟩ rfl ⟨rfl, rfl⟩
    next id registry admitted =>
      split
      · exact .admission admitted
      · exact aside _ ⟨rfl, rfl, rfl, rfl, rfl⟩ rfl ⟨rfl, rfl⟩

/-- Taking in connections, by induction on the backlog. -/
theorem acceptAll_traced (now : Moment) (backlog : List AcceptOutcome) (server : Server)
    : server.Traced (server.acceptAll now backlog) := by
  induction backlog generalizing server with
  | nil => exact .refl server
  | cons outcome rest ih =>
      rw [acceptAll.eq_def]
      dsimp only
      split
      · exact .refl server
      · cases outcome with
        | connection address registers =>
            exact (welcome_traced now address registers server).andThen (ih _)
        | interrupted => exact ih server
        | wouldBlock => exact .refl server
        | failed => exact .refl server

theorem handleStream_traced (event : StreamEvent) (now : Moment) (server : Server)
    : server.Traced (server.handleStream event now) := by
  rw [handleStream]
  split
  · exact .refl server
  next entry resolved =>
    obtain ⟨id, _, found⟩ := Option.bind_eq_some_iff.mp resolved
    obtain ⟨_, rfl⟩ := Registry.mem_of_find? found
    have called := drive_called event server.hello now entry
    refine Traced.andThen (.change found called ?_) ?_
    · split <;> simp [Plain, Effect.isClient, Effect.raised?]
    · dsimp only
      split
      · exact .refl _
      · exact teardown_traced entry.key _ _

theorem handle_traced (now : Moment) (readiness : Readiness) (server : Server)
    : server.Traced (server.handle now readiness) := by
  cases readiness with
  | listener backlog => exact acceptAll_traced now backlog server
  | waker => exact .refl server
  | stream event => exact handleStream_traced event now server

-----------------------------------------------------------------------------------------
-- Rounds
-----------------------------------------------------------------------------------------

theorem dispatch_traced (now : Moment) (batch : List Readiness) {server : Server}
    (wellFormed : server.registry.WellFormed)
    : server.Traced (server.dispatch now batch) :=
  .forEach (fun readiness server _ => handle_traced now readiness server) batch wellFormed

theorem sweep_traced (now : Moment) {server : Server}
    (wellFormed : server.registry.WellFormed)
    : server.Traced (server.sweep now) :=
  .forEach (fun id server _ => teardown_traced id .heartbeatTimeout server) _ wellFormed

theorem sendTo_traced (now : Moment) (bytes : Bytes) (send : SessionId → SendOutcome)
    (id : SessionId) (server : Server)
    : server.Traced (server.sendTo now bytes send id) := by
  rw [sendTo]
  split
  · exact .refl server
  next entry found =>
    obtain ⟨_, rfl⟩ := Registry.mem_of_find? found
    split
    · exact .refl server
    next destination _ =>
      let counted := { server with stats := server.stats.countSend (send entry.key) }
      have count : Trace server [] counted := by
        refine .unseen ⟨rfl, rfl, ?_, ?_, rfl⟩ rfl (by simp [Plain]) <;>
          cases outcome : send entry.key <;> simp [counted, Stats.countSend, outcome]
      have marked
          : Called entry { entry with session := entry.session.markTelemetrySent now } :=
        ⟨rfl, [.markTelemetrySent now], rfl⟩
      have live : counted.registry.find? entry.key = some entry := found
      exact count.append
        (.change live marked (by simp [Plain, Effect.isClient, Effect.raised?]))

theorem pushTelemetry_traced (now : Moment) (frame : Frame) (send : SessionId → SendOutcome)
    {server : Server} (wellFormed : server.registry.WellFormed)
    : server.Traced (server.pushTelemetry now frame send) := by
  rw [pushTelemetry]
  dsimp only
  split
  · exact .refl server
  · have sampled : server.Traced ⟨server, [.sampled]⟩ :=
      .unseen ⟨rfl, rfl, rfl, rfl, rfl⟩ rfl (by simp [Plain, Effect.isClient, Effect.raised?])
    exact (sampled.andThen (tell_traced server rfl)).andThen
      (.forEach (fun id server _ => sendTo_traced now _ send id server) _ wellFormed)

theorem iterate_traced (occasion : Occasion) {server : Server}
    (wellFormed : server.registry.WellFormed)
    : server.Traced (server.iterate occasion) := by
  have linked := handleLink_traced occasion.now occasion.port wellFormed
  have dispatched := linked.andThen
    (dispatch_traced occasion.now occasion.batch (linked.wellFormed wellFormed))
  have swept := dispatched.andThen
    (sweep_traced occasion.now (dispatched.wellFormed wellFormed))
  exact swept.andThen
    (pushTelemetry_traced occasion.now occasion.frame occasion.send
      (swept.wellFormed wellFormed))

theorem shutdown_traced {server : Server} (wellFormed : server.registry.WellFormed)
    : server.Traced server.shutdown :=
  (teardownAll_traced .shutdown wellFormed).andThen (closeSockets_traced _)

/-- Rounds until the loop ends, and its end. -/
theorem run_traced (occasions : List Occasion) {server : Server}
    (wellFormed : server.registry.WellFormed)
    : server.Traced (server.run occasions) := by
  have rounds : server.Traced (server.iterateAll occasions) :=
    .forEach (fun occasion server => iterate_traced occasion) occasions wellFormed
  exact rounds.andThen (shutdown_traced (rounds.wellFormed wellFormed))

-----------------------------------------------------------------------------------------
-- Courses
-----------------------------------------------------------------------------------------

/-- The runs from one server, with all that their rounds and ends do outside. -/
inductive Course (first : Server) : List Effect → Server → Prop
  | start : Course first [] first
  | meet {effects : List Effect} {server : Server} (course : Course first effects server)
    (outside : Outside)
    : Course first effects (server.meet outside)
  | round {effects : List Effect} {server : Server} (course : Course first effects server)
    (occasion : Occasion)
    : Course first (effects ++ (server.iterate occasion).effects)
        (server.iterate occasion).server
  | shutdown {effects : List Effect} {server : Server} (course : Course first effects server)
    : Course first (effects ++ server.shutdown.effects) server.shutdown.server

/-- A course of one round. -/
theorem Course.single (first : Server) (occasion : Occasion)
    : Course first (first.iterate occasion).effects (first.iterate occasion).server := by
  have course : Course first ([] ++ (first.iterate occasion).effects) _ :=
    .round .start occasion
  rwa [List.nil_append] at course

theorem Course.reachable {first server : Server} {effects : List Effect}
    (course : Course first effects server) (reachable : first.Reachable)
    : server.Reachable := by
  induction course with
  | start => exact reachable
  | meet _ outside ih => exact .meet ih outside
  | round _ occasion ih => exact .round ih occasion
  | shutdown _ ih => exact .shutdown ih

/-- What other tasks and traces keep is kept by a course, by induction on the course. -/
theorem Course.keeps {first server : Server} {effects : List Effect}
    (course : Course first effects server) (reachable : first.Reachable)
    (Kept : List Effect → Server → Prop) (start : Kept [] first)
    (meet
      : ∀ {effects server} outside, Kept effects server → Kept effects (server.meet outside))
    (work
      : ∀ {effects later server next},
          server.registry.WellFormed
          → Trace server later next
          → Kept effects server
          → Kept (effects ++ later) next)
    : Kept effects server := by
  induction course with
  | start => exact start
  | meet _ outside ih => exact meet outside ih
  | round course occasion ih =>
      have wellFormed := (course.reachable reachable).wellFormed
      exact work wellFormed (iterate_traced occasion wellFormed) ih
  | shutdown course ih =>
      have wellFormed := (course.reachable reachable).wellFormed
      exact work wellFormed (shutdown_traced wellFormed) ih

@[simp]
theorem meet_registry (server : Server) (outside : Outside)
    : (server.meet outside).registry = server.registry := by
  cases outside <;> rfl

@[simp]
theorem meet_clientIp (server : Server) (outside : Outside)
    : (server.meet outside).status.view.clientIp = server.status.view.clientIp := by
  cases outside <;> rfl

end Server

end Handheld
