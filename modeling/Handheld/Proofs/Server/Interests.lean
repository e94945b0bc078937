import Handheld.Proofs.Server.Linkage
import Handheld.Proofs.Server.Visits

/-! The readiness for which sessions are woken. It changes in two places, when a handshake has
been read and when it has been confirmed, and a session for which a change is refused ends.
Main statement: between two rounds every session is woken for what its phase waits for.
-/

namespace Handheld

/-- The readiness that a phase waits for: a confirmation that is due needs a stream that can be
written.
-/
def Phase.interest : Phase → Interest
  | waitingForServerConfirm => .readableWritable
  | _ => .readable

/-- A session is woken for what its phase waits for. -/
def Registry.Entry.Suited (entry : Registry.Entry) : Prop :=
  entry.interest = entry.session.phase.interest

namespace Session

/-- Reading that does not bring the handshake leaves the phase as it is. -/
theorem MovesReading.phase_eq {earlier later : Session} (moves : MovesReading earlier later)
    (stays : ¬ (earlier.phase = .waitingForHandshake ∧ later.wantsWritable))
    : later.phase = earlier.phase := by
  have least := moves.rank_le
  have most := moves.rank_le_max
  cases before : earlier.phase <;> cases after : later.phase <;>
    simp_all [Phase.rank, wantsWritable]

/-- An attempt to confirm that is in turn connects the session when it is finished. -/
theorem confirm_phase {session : Session} (turn : session.phase = .waitingForServerConfirm)
    (hello : Hello) (writes : List WriteOutcome)
    : ((session.confirm hello writes).result = .ok true
        ∧ (session.confirm hello writes).session.phase = .connected)
      ∨ ((session.confirm hello writes).result ≠ .ok true
        ∧ (session.confirm hello writes).session.phase = .waitingForServerConfirm) := by
  have flushed := confirm_flushed turn hello writes
  generalize session.confirm hello writes = ended at flushed ⊢
  cases flushed with
  | stopped _ _ unfinished => exact .inr ⟨unfinished, turn⟩
  | finished => exact .inl ⟨rfl, rfl⟩

end Session

namespace Server

open Registry (Entry)

-----------------------------------------------------------------------------------------
-- Events
-----------------------------------------------------------------------------------------

/-- The phases of an entry before and after it was read. -/
theorem Reads.phase {event : StreamEvent} {now : Moment} {entry read : Entry}
    (reads : Reads event now entry read) (coherent : entry.session.Coherent)
    : (read.session.phase = entry.session.phase ∧ read.interest = entry.interest)
      ∨ (read.session.phase = .waitingForServerConfirm
        ∧ read.interest = .readableWritable
        ∧ event.widenFailure = none) := by
  have moves := Session.MovesReading.keptByReading.receive (.refl coherent) event.reads now
  cases reads with
  | unread => exact .inl ⟨rfl, rfl⟩
  | read _ _ stays => exact .inl ⟨moves.phase_eq stays, rfl⟩
  | opened _ _ wants widened => exact .inr ⟨wants, rfl, widened⟩

/-- The phases of an entry before and after it was written. -/
theorem Writes.phase {event : StreamEvent} {hello : Hello} {entry written : Entry}
    (writes : Writes event hello entry written)
    : (written.session.phase = entry.session.phase ∧ written.interest = entry.interest)
      ∨ (entry.session.phase = .waitingForServerConfirm
        ∧ written.session.phase = .connected
        ∧ written.interest = .readable
        ∧ event.narrowFailure = none) := by
  cases writes with
  | unwritten => exact .inl ⟨rfl, rfl⟩
  | stopped turn unfinished =>
      rcases Session.confirm_phase turn hello event.writes with ⟨finished, _⟩ | ⟨_, stays⟩
      · rw [unfinished] at finished
        cases finished
      · exact .inl ⟨stays.trans turn.symm, rfl⟩
  | confirmed turn finished narrowed =>
      rcases Session.confirm_phase turn hello event.writes
        with ⟨_, connected⟩ | ⟨unfinished, _⟩
      · exact .inr ⟨turn, connected, rfl, narrowed⟩
      · exact absurd finished unfinished

/-- An event that does not fail a session leaves it suited: each change of the phase comes with
its change of readiness.
-/
theorem drive_suited {event : StreamEvent} {hello : Hello} {now : Moment} {entry : Entry}
    (healthy : (drive event hello now entry).failure = none)
    (coherent : entry.session.Coherent) (suited : entry.Suited)
    : (drive event hello now entry).entry.Suited := by
  obtain ⟨_, read, reads, writes⟩ := drive_of_healthy healthy
  have readSuited : read.Suited := by
    rcases reads.phase coherent with ⟨phase, interest⟩ | ⟨phase, interest, _⟩
    · rw [Entry.Suited, phase, interest]
      exact suited
    · rw [Entry.Suited, phase, interest]
      rfl
  rcases writes.phase with ⟨phase, interest⟩ | ⟨_, phase, interest, _⟩
  · rw [Entry.Suited, phase, interest]
    exact readSuited
  · rw [Entry.Suited, phase, interest]
    rfl

theorem Drives.suited {hello : Hello} {now : Moment} {first last : Entry}
    {events : List StreamEvent} (drives : Drives hello now first events last)
    (coherent : first.session.Coherent) (suited : first.Suited)
    : last.Suited := by
  have kept := drives.keeps (fun entry => entry.session.Coherent ∧ entry.Suited)
    (fun event healthy kept => ?_) ⟨coherent, suited⟩
  · exact kept.2
  · obtain ⟨_, calls, later⟩ := drive_called event hello now _
    exact ⟨later ▸ (kept.1.afterAll calls).2, drive_suited healthy kept.1 kept.2⟩

/-- The socket refuses the readiness that a session needs with its change of phase. -/
def StreamEvent.Refuses (event : StreamEvent) (earlier later : Phase) : Prop :=
  (earlier = .waitingForHandshake
    ∧ later ≠ .waitingForHandshake
    ∧ event.widenFailure.isSome)
  ∨ (earlier ≠ .connected ∧ later = .connected ∧ event.narrowFailure.isSome)

/-- An event whose readiness is refused fails its session. -/
theorem failure_of_refuses {event : StreamEvent} {hello : Hello} {now : Moment}
    {entry : Entry} (coherent : entry.session.Coherent)
    (refuses
      : event.Refuses entry.session.phase
          (drive event hello now entry).entry.session.phase)
    : (drive event hello now entry).failure ≠ none := by
  intro healthy
  obtain ⟨_, read, reads, writes⟩ := drive_of_healthy healthy
  have readPhase := reads.phase coherent
  have writtenPhase := writes.phase
  generalize (drive event hello now entry).entry = changed at refuses writtenPhase
  rcases refuses with ⟨early, late, refused⟩ | ⟨early, late, refused⟩
  · rcases readPhase with ⟨same, _⟩ | ⟨_, _, widened⟩
    · rcases writtenPhase with ⟨stays, _⟩ | ⟨turn, _⟩
      · exact late (stays.trans (same.trans early))
      · rw [same, early] at turn
        cases turn
    · rw [widened] at refused
      cases refused
  · rcases writtenPhase with ⟨stays, _⟩ | ⟨_, _, _, narrowed⟩
    · rcases readPhase with ⟨same, _⟩ | ⟨opened, _⟩
      · exact early (same ▸ stays ▸ late)
      · rw [stays, opened] at late
        cases late
    · rw [narrowed] at refused
      cases refused

/-- An event whose readiness is refused takes its session out. -/
theorem handleStream_refused {event : StreamEvent} {now : Moment} {server : Server}
    (wellFormed : server.registry.WellFormed) {entry : Entry}
    (own : Registry.idFor? event.token = some entry.key)
    (found : server.registry.find? entry.key = some entry)
    (refuses
      : event.Refuses entry.session.phase
          (drive event server.hello now entry).entry.session.phase)
    : (server.handleStream event now).server.registry.find? entry.key = none := by
  have coherent := (wellFormed.reachable entry (Registry.mem_of_find? found).1).coherent
  exact handleStream_failed own found (failure_of_refuses coherent refuses)

-----------------------------------------------------------------------------------------
-- Runs
-----------------------------------------------------------------------------------------

/-- A session comes with the readiness for its first phase. -/
theorem Enters.suited {server : Server} {now : Moment} {id : SessionId} {entry : Entry}
    (enters : server.Enters now id entry)
    (suited : ∀ entry ∈ server.registry.entries, entry.Suited)
    : entry.Suited := by
  cases enters with
  | old found => exact suited entry (Registry.mem_of_find? found).1
  | new _ _ => rfl

/-- A round leaves all sessions suited. -/
theorem iterate_suited {server : Server} (wellFormed : server.registry.WellFormed)
    (suited : ∀ entry ∈ server.registry.entries, entry.Suited) (occasion : Occasion)
    : ∀ entry ∈ (server.iterate occasion).server.registry.entries, entry.Suited := by
  intro entry member
  let round : Round := ⟨server, occasion⟩
  have found : round.step.server.registry.find? entry.key = some entry :=
    ((iterate_evolves occasion server).wellFormed wellFormed).find?_eq_some_iff.mpr
      ⟨member, rfl⟩
  obtain ⟨swept, live, same⟩ := round.step_found wellFormed found
  obtain ⟨first, enters, drives⟩ :=
    round.dispatched_found wellFormed (round.swept_found wellFormed live).1
  have driven : swept.Suited :=
    drives.suited (enters.reachable wellFormed).coherent (enters.suited suited)
  obtain ⟨_, marked⟩ := served_eq round.now round.swept.server.bound swept
  rw [same, marked]
  exact driven

/-- Every session of a server that a run can reach is suited, by induction on the run. -/
theorem Reachable.suited {server : Server} (reachable : server.Reachable)
    : ∀ entry ∈ server.registry.entries, entry.Suited := by
  induction reachable with
  | start _ _ _ =>
      intro entry held
      cases held
  | meet _ outside ih => rwa [meet_registry]
  | round reachable occasion ih => exact iterate_suited reachable.wellFormed ih occasion
  | shutdown _ _ => simp [shutdown_entries]

theorem Step.forEach_append {α : Type} (work : α → Server → Step) (front back : List α)
    (server : Server)
    : (forEach work (front ++ back) server).server
      = (forEach work back (forEach work front server).server).server := by
  induction front generalizing server with
  | nil => rfl
  | cons element rest ih => exact ih _

/-- In every server that a run can reach, the sockets of sessions that wait for their
confirmation are registered for reading and writing, and those of all others for reading
alone. When a registration is refused to which an event of a round leads, the session ends
with this event and is gone behind the round.
-/
theorem interest_follows_phase {server : Server} (reachable : server.Reachable)
    : (∀ entry ∈ server.registry.entries,
        entry.interest
        = if entry.session.phase = .waitingForServerConfirm then .readableWritable
          else .readable)
      ∧ ∀ (occasion : Occasion) before event after,
          occasion.batch = before ++ .stream event :: after
          → let between :=
              ((server.handleLink occasion.now occasion.port).andThen
                (dispatch occasion.now before)).server
            ∀ entry : Entry,
              between.registry.find? entry.key = some entry
              → Registry.idFor? event.token = some entry.key
              → event.Refuses entry.session.phase
                  (drive event between.hello occasion.now entry).entry.session.phase
              → entry.key
                  ∈ (between.handleStream event occasion.now).effects.filterMap Effect.ended?
                ∧ (server.iterate occasion).server.registry.find? entry.key = none := by
  refine ⟨fun entry held => ?_, ?_⟩
  · rw [reachable.suited entry held]
    cases entry.session.phase <;> rfl
  intro occasion before event after split between entry found own refuses
  have linked := handleLink_evolves occasion.now occasion.port server
  have wellFormed : between.registry.WellFormed :=
    (linked.trans (dispatch_serves _ _ _).evolves).wellFormed reachable.wellFormed
  have gone := handleStream_refused wellFormed own found refuses
  have trace := handleStream_traced event occasion.now between
  have live : (between.registry.find? entry.key).isSome := Option.isSome_of_eq_some found
  refine ⟨trace.ended_of_gone wellFormed live gone, ?_⟩
  -- The rest of the batch and of the round does not bring the session back.
  have later
      : Registry.Evolves (between.handleStream event occasion.now).server.registry
          (server.iterate occasion).server.registry := by
    have dispatched := (dispatch_serves occasion.now after
      (between.handleStream event occasion.now).server).evolves
    have whole := Step.forEach_append (handle occasion.now) before (.stream event :: after)
      (server.handleLink occasion.now occasion.port).server
    rw [← split] at whole
    rw [iterate, Step.andThen, Step.andThen, Step.andThen, dispatch, whole]
    exact dispatched.trans
      ((sweep_serves _ _).evolves.trans (pushTelemetry_serves _ _ _ _).evolves)
  exact later.find?_eq_none
    (Nat.lt_of_lt_of_le (wellFormed.known live) trace.evolves.next_le) gone

/-- A client takes only a part of its confirmation, and its session is woken for reading and
writing. When it takes the rest, registering for reading alone is refused.
-/
theorem interest_follows_phase_refused
    : let peer : Peer := ⟨.v4 ⟨192, 168, 1, 20⟩, 41000, rfl, rfl, by decide⟩
      let waiting : Entry :=
        {
          key := ⟨1⟩
          session :=
            { Session.start ⟨1⟩ peer 1 with
              phase := .waitingForServerConfirm
              lastHeartbeat := 2
              outbound := [1, 0x88, 0x13, 25, 0, 0, 0]
              dataChannel := some ⟨.v4 ⟨192, 168, 1, 20⟩, 5000, rfl, rfl, by decide⟩ }
          interest := .readableWritable
        }
      let handshake : StreamEvent :=
        {
          token := 17
          readable := true
          writable := true
          reads := [.bytes [8, 0, 0, 0, 1, 0, 0x88, 0x13, 0, 0, 0, 0]]
          writes := [.accepted 5]
        }
      let refused : StreamEvent :=
        {
          token := 17
          writable := true
          writes := [.accepted 7]
          narrowFailure := some .permissionDenied
        }
      let backlog : List AcceptOutcome := [.connection (.v4 ⟨192, 168, 1, 20⟩ 41000) true]
      let joined :=
        ((start {} 5000 {}).iterate
          { now := 1, batch := [.listener backlog] }).server
      let server := (joined.iterate { now := 2, batch := [.stream handshake] }).server
      server.registry.entries = [waiting]
      ∧ waiting.interest = .readableWritable
      ∧ (server.iterate { now := 3, batch := [.stream refused] }).server.registry.find? ⟨1⟩
        = none := by
  intro peer waiting handshake refused backlog joined server
  have reachable : server.Reachable := .round (.round (.start _ _ _) _) _
  have entries : server.registry.entries = [waiting] := by decide +kernel
  obtain ⟨suited, refusals⟩ := interest_follows_phase reachable
  have ended := refusals { now := 3, batch := [.stream refused] } [] refused [] rfl waiting
    (by decide +kernel) (by decide +kernel) (.inr ⟨by decide, by decide +kernel, rfl⟩)
  exact ⟨entries, suited waiting (by simp [entries]), ended.2⟩

end Server

end Handheld
