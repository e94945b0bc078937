import Handheld.Proofs.Server.Interests
import Handheld.Proofs.Server.LinkBatches
import Handheld.Proofs.Server.Silence

/-! Why sessions end. Only a loss of the link, a fault of the session's own stream or its silence
takes a session out, and what was taken out stays out. Main statement: a session that a round
found or admitted is gone behind the round for one of these reasons and for no other, and the
event that failed a session is the last one that drives it.
-/

namespace Handheld

-----------------------------------------------------------------------------------------
-- Reading that fails
-----------------------------------------------------------------------------------------

namespace Session

/-- Reading a stream fails: the peer has finished, a read is an error, or what has come is not
taken in.
-/
inductive Unreadable (now : Moment) : List ReadOutcome → Session → SessionFailure → Prop
  | finished (rest : List ReadOutcome) (session : Session)
    : Unreadable now (.bytes [] :: rest) session .peerClosed
  | broken (kind : IoKind) (rest : List ReadOutcome) (session : Session)
    : Unreadable now (.failed kind :: rest) session (.ofIoKind kind)
  | refused {bytes : Bytes} {session : Session} {failure : SessionFailure}
    (some : bytes ≠ []) (error : (session.ingest bytes now).1 = .error failure)
    (rest : List ReadOutcome)
    : Unreadable now (.bytes bytes :: rest) session failure
  | interrupted {rest : List ReadOutcome} {session : Session} {failure : SessionFailure}
    (later : Unreadable now rest session failure)
    : Unreadable now (.interrupted :: rest) session failure
  | taken {bytes : Bytes} {rest : List ReadOutcome} {session next : Session}
    {failure : SessionFailure} (some : bytes ≠ [])
    (taken : session.ingest bytes now = (.ok (), next))
    (later : Unreadable now rest next failure)
    : Unreadable now (.bytes bytes :: rest) session failure

theorem unreadable_bytes_iff {now : Moment} {byte : UInt8} {more : Bytes}
    {rest : List ReadOutcome} {session : Session} {failure : SessionFailure}
    : Unreadable now (.bytes (byte :: more) :: rest) session failure
      ↔ (session.ingest (byte :: more) now).1 = .error failure
        ∨ ∃ next,
            session.ingest (byte :: more) now = (.ok (), next)
            ∧ Unreadable now rest next failure := by
  constructor
  · intro unreadable
    cases unreadable with
    | refused _ error => exact .inl error
    | taken _ taken later => exact .inr ⟨_, taken, later⟩
  · rintro (error | ⟨next, taken, later⟩)
    · exact .refused (List.cons_ne_nil _ _) error rest
    · exact .taken (List.cons_ne_nil _ _) taken later

/-- These are the causes for which reading fails, by induction on the reads. -/
theorem receiveFrom_error_iff {now : Moment} {total : Nat} {reads : List ReadOutcome}
    {session : Session} {failure : SessionFailure}
    : (receiveFrom now total reads session).result = .error failure
      ↔ Unreadable now reads session failure := by
  induction reads generalizing total session with
  | nil =>
      constructor
      · rintro ⟨⟩
      · rintro ⟨⟩
  | cons outcome rest ih =>
      cases outcome with
      | wouldBlock =>
          constructor
          · rintro ⟨⟩
          · rintro ⟨⟩
      | interrupted =>
          rw [receiveFrom, ih]
          constructor
          · exact .interrupted
          · rintro ⟨⟩
            assumption
      | failed kind =>
          constructor
          · rintro ⟨⟩
            exact .broken kind rest session
          · rintro ⟨⟩
            rfl
      | bytes bytes =>
          cases bytes with
          | nil =>
              constructor
              · rintro ⟨⟩
                exact .finished rest session
              · intro unreadable
                cases unreadable with
                | finished => rfl
                | refused some | taken some => exact absurd rfl some
          | cons byte more =>
              rw [receiveFrom, unreadable_bytes_iff]
              rcases session.ingest (byte :: more) now with ⟨refused | _, next⟩
              · simp
              · simp [ih]

end Session

namespace Server

open Registry (Entry)

-----------------------------------------------------------------------------------------
-- Faults
-----------------------------------------------------------------------------------------

/-- What fails the session of an entry when its stream has an event. -/
inductive Fault (event : StreamEvent) (hello : Hello) (now : Moment) (entry : Entry)
    : SessionFailure → Prop
  /-- The event has the error flag or the flag of a full hangup. -/
  | flagged (flag : event.error || event.hangup)
    : Fault event hello now entry
        ((event.pendingError.map SessionFailure.ofIoKind).getD .peerClosed)
  /-- Reading has failed, for the stream or for what it has brought. -/
  | unread {failure : SessionFailure} (intact : (event.error || event.hangup) = false)
    (readable : event.readable)
    (refused : (entry.session.receive event.reads now).result = .error failure)
    : Fault event hello now entry failure
  /-- The handshake has come, and waiting for writability cannot be registered. -/
  | unwidened {total : Nat} {kind : IoKind} (intact : (event.error || event.hangup) = false)
    (readable : event.readable)
    (received : (entry.session.receive event.reads now).result = .ok total)
    (early : entry.session.phase = .waitingForHandshake)
    (opened : (entry.session.receive event.reads now).session.phase = .waitingForServerConfirm)
    (refused : event.widenFailure = some kind)
    : Fault event hello now entry (.ofIoKind kind)
  /-- The confirmation has failed behind what was read. -/
  | unwritten {failure : SessionFailure} (intact : (event.error || event.hangup) = false)
    (read : (driveReads event now entry).failure = none) (writable : event.writable)
    (turn : (driveReads event now entry).entry.session.phase = .waitingForServerConfirm)
    (refused
      : ((driveReads event now entry).entry.session.confirm hello event.writes).result
        = .error failure)
    : Fault event hello now entry failure
  /-- The confirmation is out, and waiting for readability alone cannot be registered. -/
  | unnarrowed {kind : IoKind} (intact : (event.error || event.hangup) = false)
    (read : (driveReads event now entry).failure = none) (writable : event.writable)
    (turn : (driveReads event now entry).entry.session.phase = .waitingForServerConfirm)
    (confirmed
      : ((driveReads event now entry).entry.session.confirm hello event.writes).result
        = .ok true)
    (refused : event.narrowFailure = some kind)
    : Fault event hello now entry (.ofIoKind kind)

section

variable {event : StreamEvent} {hello : Hello} {now : Moment} {entry : Entry}
  {failure : SessionFailure}

theorem register_failure (entry : Entry) (interest : Interest) (refused : Option IoKind)
    (written : Bytes)
    : (register entry interest refused written).failure
      = refused.map SessionFailure.ofIoKind := by
  cases refused <;> rfl

theorem driveReads_failure_iff
    : (driveReads event now entry).failure = some failure
      ↔ event.readable
        ∧ ((entry.session.receive event.reads now).result = .error failure
          ∨ ∃ total kind,
              (entry.session.receive event.reads now).result = .ok total
              ∧ entry.session.phase = .waitingForHandshake
              ∧ (entry.session.receive event.reads now).session.phase
                = .waitingForServerConfirm
              ∧ event.widenFailure = some kind
              ∧ .ofIoKind kind = failure) := by
  rw [driveReads]
  split
  next readable =>
    dsimp only
    rcases received : (entry.session.receive event.reads now).result with refused | total
    · simp [readable]
    · by_cases opens
        : entry.session.phase = .waitingForHandshake
          ∧ (entry.session.receive event.reads now).session.wantsWritable
      · have opened := opens
        simp only [Session.wantsWritable, beq_iff_eq] at opened
        simp [readable, opens, opened, register_failure]
      · have stays := opens
        simp only [Session.wantsWritable, beq_iff_eq] at stays
        simp only [if_neg opens]
        simp only [reduceCtorEq, false_iff]
        rintro ⟨_, refused | ⟨_, _, _, early, opened, _⟩⟩
        · cases refused
        · exact stays ⟨early, opened⟩
  next unreadable => simp [unreadable]

theorem driveWrites_failure_iff
    : (driveWrites event hello entry).failure = some failure
      ↔ event.writable
        ∧ entry.session.phase = .waitingForServerConfirm
        ∧ ((entry.session.confirm hello event.writes).result = .error failure
          ∨ ∃ kind,
              (entry.session.confirm hello event.writes).result = .ok true
              ∧ event.narrowFailure = some kind
              ∧ .ofIoKind kind = failure) := by
  rw [driveWrites]
  by_cases turn : event.writable ∧ entry.session.phase = .waitingForServerConfirm
  · rw [if_pos (by simpa [Session.wantsWritable] using turn)]
    dsimp only
    rcases result : (entry.session.confirm hello event.writes).result with refused | finished
    · simp [turn]
    · cases finished <;> simp [turn, register_failure]
  · rw [if_neg (by simpa [Session.wantsWritable] using turn)]
    simp only [reduceCtorEq, false_iff]
    rintro ⟨writable, waits, _⟩
    exact turn ⟨writable, waits⟩

/-- An event fails a session for its faults. -/
theorem drive_failure_iff
    : (drive event hello now entry).failure = some failure
      ↔ Fault event hello now entry failure := by
  rw [drive]
  by_cases flag : event.error || event.hangup
  · rw [if_pos flag]
    constructor
    · intro told
      cases told
      exact .flagged flag
    · intro fault
      cases fault with
      | flagged _ => rfl
      | unread intact | unwidened intact | unwritten intact | unnarrowed intact =>
          rw [flag] at intact
          cases intact
  · rw [if_neg flag]
    have intact : (event.error || event.hangup) = false := by simpa using flag
    dsimp only
    rcases read : (driveReads event now entry).failure with _ | cause
    · dsimp only
      rw [driveWrites_failure_iff]
      constructor
      · rintro ⟨writable, turn, refused | ⟨kind, confirmed, refused, rfl⟩⟩
        · exact .unwritten intact read writable turn refused
        · exact .unnarrowed intact read writable turn confirmed refused
      · intro fault
        cases fault with
        | flagged told => exact absurd told flag
        | unread _ readable refused =>
            have failed := driveReads_failure_iff.mpr ⟨readable, .inl refused⟩
            rw [read] at failed
            cases failed
        | unwidened _ readable received early opened refused =>
            have failed := driveReads_failure_iff.mpr
              ⟨readable, .inr ⟨_, _, received, early, opened, refused, rfl⟩⟩
            rw [read] at failed
            cases failed
        | unwritten _ _ writable turn refused => exact ⟨writable, turn, .inl refused⟩
        | unnarrowed _ _ writable turn confirmed refused =>
            exact ⟨writable, turn, .inr ⟨_, confirmed, refused, rfl⟩⟩
    · dsimp only
      rw [driveReads_failure_iff]
      constructor
      · rintro ⟨readable, refused | ⟨_, _, received, early, opened, refused, rfl⟩⟩
        · exact .unread intact readable refused
        · exact .unwidened intact readable received early opened refused
      · intro fault
        cases fault with
        | flagged told => exact absurd told flag
        | unread _ readable refused => exact ⟨readable, .inl refused⟩
        | unwidened _ readable received early opened refused =>
            exact ⟨readable, .inr ⟨_, _, received, early, opened, refused, rfl⟩⟩
        | unwritten _ whole | unnarrowed _ whole =>
            rw [read] at whole
            cases whole

end

-----------------------------------------------------------------------------------------
-- Events that end sessions
-----------------------------------------------------------------------------------------

/-- An effect of work on a list is one of the work on some element of it, behind the work on
those before. By induction on the list.
-/
theorem Step.mem_forEach_iff {α : Type} {work : α → Server → Step} {elements : List α}
    {server : Server} {effect : Effect}
    : effect ∈ (forEach work elements server).effects
      ↔ ∃ front element back,
          elements = front ++ element :: back
          ∧ effect ∈ (work element (forEach work front server).server).effects := by
  induction elements generalizing server with
  | nil => simp [forEach]
  | cons first rest ih =>
      constructor
      · intro member
        rcases List.mem_append.mp member with here | later
        · exact ⟨[], first, rest, rfl, here⟩
        · obtain ⟨front, element, back, rfl, found⟩ := ih.mp later
          exact ⟨first :: front, element, back, rfl, found⟩
      · rintro ⟨front, element, back, split, found⟩
        cases front with
        | nil =>
            cases split
            exact List.mem_append_left _ found
        | cons _ front =>
            cases split
            exact List.mem_append_right _ (ih.mpr ⟨front, element, back, rfl, found⟩)

/-- An event comes for a session that lives, and fails it. -/
def Fails (server : Server) (now : Moment) (event : StreamEvent) (id : SessionId) : Prop :=
  Registry.idFor? event.token = some id
  ∧ ∃ entry failure,
      server.registry.find? id = some entry
      ∧ Fault event server.hello now entry failure

/-- An event ends at most the session of its stream, and for a fault. -/
theorem handleStream_ended {event : StreamEvent} {now : Moment} {server : Server}
    (wellFormed : server.registry.WellFormed) {id : SessionId}
    (ended : id ∈ (server.handleStream event now).effects.filterMap Effect.ended?)
    : server.Fails now event id := by
  rw [handleStream] at ended
  split at ended
  · cases ended
  next entry resolved =>
    obtain ⟨key, own, found⟩ := Option.bind_eq_some_iff.mp resolved
    obtain ⟨_, rfl⟩ := Registry.mem_of_find? found
    have called := drive_called event server.hello now entry
    have put := (put_serves found called).evolves.wellFormed wellFormed
    have silent (written : Bytes)
        : (if written.isEmpty then [] else [Effect.wrote entry.key written]).filterMap
            Effect.ended? = [] := by
      split <;> rfl
    dsimp only [Step.andThen] at ended
    rw [List.filterMap_append, silent, List.nil_append] at ended
    rcases failed : (drive event server.hello now entry).failure with _ | failure
    · rw [failed] at ended
      cases ended
    · -- What is torn down is the entry as the event has left it, under its old key.
      have driven
          : (server.registry.put (drive event server.hello now entry).entry).find? entry.key
            = some (drive event server.hello now entry).entry := by
        rw [Registry.find?_put, if_pos called.1, found]
        rfl
      have number := put.own _ (Registry.mem_of_find? driven).1
      rw [failed] at ended
      dsimp only at ended
      rw [teardown_of_some driven] at ended
      obtain rfl := List.mem_singleton.mp ended
      rw [number, called.1]
      exact ⟨own, entry, failure, found, drive_failure_iff.mp failed⟩

/-- A session that an event fails is gone behind it. -/
theorem Fails.gone {event : StreamEvent} {now : Moment} {server : Server} {id : SessionId}
    (fails : server.Fails now event id)
    : (server.handleStream event now).server.registry.find? id = none := by
  obtain ⟨own, entry, failure, found, fault⟩ := fails
  have failed := drive_failure_iff.mpr fault
  exact handleStream_failed own found (by simp [failed])

/-- The sessions that a batch ends are those that its events fail. -/
theorem dispatch_ended_iff {now : Moment} {batch : List Readiness} {server : Server}
    (wellFormed : server.registry.WellFormed) {id : SessionId}
    : id ∈ (server.dispatch now batch).effects.filterMap Effect.ended?
      ↔ ∃ front event back,
          batch = front ++ .stream event :: back
          ∧ (server.dispatch now front).server.Fails now event id := by
  constructor
  · intro ended
    obtain ⟨effect, member, number⟩ := List.mem_filterMap.mp ended
    obtain ⟨front, readiness, back, split, here⟩ := Step.mem_forEach_iff.mp member
    have between := (dispatch_serves now front server).evolves.wellFormed wellFormed
    have endedHere
        : id ∈ ((server.dispatch now front).server.handle now readiness).effects.filterMap
            Effect.ended? :=
      List.mem_filterMap.mpr ⟨effect, here, number⟩
    cases readiness with
    | listener backlog =>
        rw [handle, acceptAll_ended] at endedHere
        cases endedHere
    | waker => cases endedHere
    | stream event => exact ⟨front, event, back, split, handleStream_ended between endedHere⟩
  · rintro ⟨front, event, back, split, fails⟩
    have between := (dispatch_serves now front server).evolves.wellFormed wellFormed
    obtain ⟨_, _, found, _⟩ := fails.2
    have ended := (handleStream_traced event now (server.dispatch now front).server).ended_of_gone
      between (Option.isSome_of_eq_some found) fails.gone
    obtain ⟨effect, member, number⟩ := List.mem_filterMap.mp ended
    exact List.mem_filterMap.mpr
      ⟨effect, Step.mem_forEach_iff.mpr ⟨front, _, back, split, member⟩, number⟩

-----------------------------------------------------------------------------------------
-- Sessions that are gone
-----------------------------------------------------------------------------------------

/-- A session is not there, and events of its stream drive nothing. -/
def Gone (server : Server) (id : SessionId) : Prop :=
  server.registry.find? id = none
  ∧ ∀ event now,
      Registry.idFor? event.token = some id → server.handleStream event now = ⟨server, []⟩

theorem gone_of_absent {server : Server} {id : SessionId}
    (absent : server.registry.find? id = none)
    : server.Gone id := by
  refine ⟨absent, fun event now own => handleStream_of_absent (fun other resolved => ?_) now⟩
  obtain rfl := Option.some.inj (own.symm.trans resolved)
  exact absent

/-- The registry of a server that a run leads to has changed as registries do. By induction on
the run.
-/
theorem Run.evolves {first last : Server} {rounds : List Round} (run : Run first rounds last)
    : Registry.Evolves first.registry last.registry := by
  induction run with
  | start => exact .refl _
  | meet _ outside ih =>
      rw [meet_registry]
      exact ih
  | round _ occasion ih => exact ih.trans (iterate_evolves occasion _)
  | shutdown _ ih => exact ih.trans (teardownAll_serves .shutdown _).evolves

-----------------------------------------------------------------------------------------
-- Rounds
-----------------------------------------------------------------------------------------

namespace Round

variable {round : Round} {id : SessionId}

/-- The server of a round behind the first events of its batch. -/
def behind (round : Round) (front : List Readiness) : Server :=
  (round.linked.server.dispatch round.now front).server

/-- A round has failed a session with an event of its batch. -/
structure Failed (round : Round) (id : SessionId) (front : List Readiness)
    (event : StreamEvent) (back : List Readiness) : Prop where
  batch_eq : round.occasion.batch = front ++ .stream event :: back
  fails : (round.behind front).Fails round.now event id

theorem behind_evolves (round : Round) (front : List Readiness)
    : Registry.Evolves round.server.registry (round.behind front).registry :=
  round.linked_evolves.trans (dispatch_serves _ _ _).evolves

theorem behind_append (round : Round) (front back : List Readiness)
    : round.behind (front ++ back) = ((round.behind front).dispatch round.now back).server :=
  Step.forEach_append _ _ _ _

/-- The dispatch ends where the whole batch has been handled. -/
theorem dispatched_eq_behind (round : Round)
    : round.dispatched.server = round.behind round.occasion.batch := rfl

/-- What is gone behind some events of the batch is gone behind the round. -/
theorem behind_step_evolves (round : Round) {front back : List Readiness}
    (split : round.occasion.batch = front ++ back)
    : Registry.Evolves (round.behind front).registry round.step.server.registry := by
  have rest : Registry.Evolves round.dispatched.server.registry round.step.server.registry :=
    (sweep_serves _ _).evolves.trans (pushTelemetry_serves _ _ _ _).evolves
  rw [dispatched_eq_behind, split, behind_append] at rest
  exact (dispatch_serves _ _ _).evolves.trans rest

/-- The sessions that a round ends up to its dispatch. -/
theorem dispatched_ended_iff (reachable : round.server.Reachable)
    : id ∈ round.dispatched.effects.filterMap Effect.ended?
      ↔ (.down ∈ round.changes ∧ (round.server.registry.find? id).isSome)
        ∨ ∃ front event back, round.Failed id front event back := by
  have linked := round.linked_evolves.wellFormed reachable.wellFormed
  have effects
      : round.dispatched.effects
        = round.linked.effects
          ++ (round.linked.server.dispatch round.now round.occasion.batch).effects := rfl
  rw [effects, List.filterMap_append, List.mem_append, linked_ended reachable,
    dispatch_ended_iff linked]
  refine or_congr ?_ ?_
  · split
    next down => simp [down, Registry.mem_ids_iff]
    next up => simp [up]
  · constructor
    · rintro ⟨front, event, back, split, fails⟩
      exact ⟨front, event, back, split, fails⟩
    · rintro ⟨front, event, back, split, fails⟩
      exact ⟨front, event, back, split, fails⟩

/-- An admission of a round is made in its dispatch. -/
theorem admits_iff
    : round.Admits id ↔ id ∈ round.dispatched.effects.filterMap Effect.admitted? := by
  have dispatched
      : round.dispatched.effects = round.effectsOf .link ++ round.effectsOf .dispatch := rfl
  rw [Admits, effects_eq, dispatched, List.append_assoc, List.filterMap_append,
    List.mem_append]
  refine or_iff_left fun late => ?_
  obtain ⟨effect, member, number⟩ := List.mem_filterMap.mp late
  cases effect with
  | admitted _ _ =>
      rcases List.mem_append.mp member with member | member <;>
        cases stage?_of_mem member rfl
  | _ => cases number

/-- A session that was there or came is gone behind the dispatch if the link has gone down while
it was there, or an event has failed it.
-/
theorem dispatched_absent_iff (reachable : round.server.Reachable)
    (present : (round.server.registry.find? id).isSome ∨ round.Admits id)
    : round.dispatched.server.registry.find? id = none
      ↔ (.down ∈ round.changes ∧ (round.server.registry.find? id).isSome)
        ∨ ∃ front event back, round.Failed id front event back := by
  have wellFormed := reachable.wellFormed
  have linked : round.server.Traced round.linked := handleLink_traced _ _ wellFormed
  have trace : round.server.Traced round.dispatched :=
    linked.andThen (dispatch_traced _ _ (linked.wellFormed wellFormed))
  rw [admits_iff] at present
  rw [← dispatched_ended_iff reachable]
  constructor
  · exact trace.ended_of_absent wellFormed present
  · intro ended
    exact (trace.ended_gone wellFormed ended).2

/-- A session is gone behind a round if it was so behind the dispatch, or was swept away. -/
theorem step_absent_iff (wellFormed : round.server.registry.WellFormed)
    : round.step.server.registry.find? id = none
      ↔ round.dispatched.server.registry.find? id = none
        ∨ ∃ session,
            round.dispatched.server.registry.get? id = some session
            ∧ round.server.settings.heartbeatTimeout
              < Span.between session.lastHeartbeat round.now := by
  rw [find?_step wellFormed, Option.map_eq_none_iff, find?_swept wellFormed, Registry.get?]
  cases round.dispatched.server.registry.find? id with
  | none => simp
  | some entry => simp [Option.filter_some, Session.isExpired]

/-- A session that an event has failed has a number that was given. -/
theorem Failed.known {front back : List Readiness} {event : StreamEvent}
    (failed : round.Failed id front event back)
    (wellFormed : round.server.registry.WellFormed)
    : id.number < (round.behind (front ++ [.stream event])).registry.next := by
  obtain ⟨_, _, found, _⟩ := failed.fails.2
  have known := ((round.behind_evolves front).wellFormed wellFormed).known
    (Option.isSome_of_eq_some found)
  rw [behind_append]
  exact Nat.lt_of_lt_of_le known (dispatch_serves _ _ _).evolves.next_le

end Round

/-- Why a session is gone behind a round that found or admitted it: the link went down while it
was there, an event of its stream failed it, or behind the dispatch it had been silent for
longer than the timeout. With a failure it is gone for the rest of the batch and for all that
may follow, and none of the later events of its stream drives anything. Reading fails at the
end of the stream, by an error, and with every violation of the protocol.
-/
theorem session_ends_iff {round : Round} (reachable : round.server.Reachable) {id : SessionId}
    (present : (round.server.registry.find? id).isSome ∨ round.Admits id)
    : (round.step.server.registry.find? id = none
        ↔ (.down ∈ round.changes ∧ (round.server.registry.find? id).isSome)
          ∨ (∃ front event back, round.Failed id front event back)
          ∨ ∃ session,
              round.dispatched.server.registry.get? id = some session
              ∧ round.server.settings.heartbeatTimeout
                < Span.between session.lastHeartbeat round.now)
      ∧ (∀ front event back,
          round.Failed id front event back
          → (∀ next,
              next <+: back → (round.behind (front ++ .stream event :: next)).Gone id)
            ∧ ∀ rounds last,
                Run round.step.server rounds last
                → last.Gone id
                  ∧ ∀ later ∈ rounds,
                      ∀ next, next <+: later.occasion.batch → (later.behind next).Gone id)
      ∧ ∀ (session : Session) reads failure,
          (session.receive reads round.now).result = .error failure
          ↔ Session.Unreadable round.now reads session failure := by
  have wellFormed := reachable.wellFormed
  refine ⟨?_, fun front event back failed => ?_, fun _ _ _ => Session.receiveFrom_error_iff⟩
  · rw [Round.step_absent_iff wellFormed, Round.dispatched_absent_iff reachable present,
      or_assoc]
  have known := failed.known wellFormed
  have gone : (round.behind (front ++ [.stream event])).registry.find? id = none := by
    rw [Round.behind_append]
    exact failed.fails.gone
  -- What changes behind the event brings the session not back.
  have stays {server : Server}
      (evolves
        : Registry.Evolves (round.behind (front ++ [.stream event])).registry server.registry)
      : server.Gone id :=
    gone_of_absent (evolves.find?_eq_none known gone)
  have split (next : List Readiness)
      : front ++ .stream event :: next = (front ++ [.stream event]) ++ next := by simp
  refine ⟨fun next _ => ?_, fun rounds last run => ?_⟩
  · rw [split, Round.behind_append]
    exact stays (dispatch_serves _ _ _).evolves
  have step := round.behind_step_evolves (failed.batch_eq.trans (split back))
  refine ⟨stays (step.trans run.evolves), fun later member next _ => ?_⟩
  obtain ⟨before, after, rounds⟩ := List.append_of_mem member
  exact stays (step.trans ((run.before rounds).evolves.trans (later.behind_evolves next)))

/-- A client announces no data port in one batch with its hangup. It is failed by what it
announces, and its hangup comes for nobody.
-/
theorem session_ends_iff_refused_handshake
    : let peer : Peer := ⟨.v4 ⟨192, 168, 1, 20⟩, 41000, rfl, rfl, by decide⟩
      let handshake : StreamEvent :=
        { token := 17, readable := true, reads := [.bytes [8, 0, 0, 0, 1, 0, 0, 0, 0, 0, 0, 0]] }
      let hangup : StreamEvent := { token := 17, hangup := true }
      let arrives : Readiness := .listener [.connection (.v4 ⟨192, 168, 1, 20⟩ 41000) true]
      let joined := ((start {} 5000 {}).iterate { now := 1, batch := [arrives] }).server
      let round : Round := ⟨joined, { now := 2, batch := [.stream handshake, .stream hangup] }⟩
      let session : Session := { Session.start ⟨1⟩ peer 1 with lastHeartbeat := 2 }
      let ended : Effect :=
        .disconnected session .warn (.failure (.violation .invalidDataPort))
      (round.server.registry.find? ⟨1⟩).isSome
      ∧ round.Failed ⟨1⟩ [] handshake [.stream hangup]
      ∧ round.step.effects = [ended, .raised .clientDisconnected]
      ∧ round.step.server.registry.find? ⟨1⟩ = none
      ∧ (round.behind [.stream handshake]).Gone ⟨1⟩
      ∧ (round.step.server.iterate { now := 3, batch := [.stream handshake] }).server.Gone ⟨1⟩ := by
  intro peer handshake hangup arrives joined round session ended
  have reachable : round.server.Reachable := by
    dsimp only [round]
    exact .round (.start _ _ _) _
  have live : (round.server.registry.find? ⟨1⟩).isSome := by decide +kernel
  have fault
      : Fault handshake round.linked.server.hello 2 ⟨⟨1⟩, Session.start ⟨1⟩ peer 1, .readable⟩
          (.violation .invalidDataPort) :=
    drive_failure_iff.mp (by decide +kernel)
  have failed : round.Failed ⟨1⟩ [] handshake [.stream hangup] :=
    ⟨rfl, by decide +kernel, _, _, by decide +kernel, fault⟩
  obtain ⟨absent, gone, _⟩ := session_ends_iff reachable (.inl live)
  obtain ⟨batch, later⟩ := gone _ _ _ failed
  exact ⟨live, failed, by decide +kernel, absent.mpr (.inr (.inl ⟨_, _, _, failed⟩)),
    batch [] List.nil_prefix, (later _ _ (.round .start _)).1⟩

end Server

end Handheld
