import Handheld.Proofs.Server.Linkage
import Handheld.Proofs.Server.Visits

/-! The pacing of telemetry over a run. What a session remembers is the round in which it was
served last, so that the polling interval is kept however it changes and wherever the clock
goes. Main statement: two rounds that serve a session are its polling interval apart, the
first one is the round in which it is connected, and only connected sessions are served.
-/

namespace Handheld

/-- A span that was measured has passed, unless it is none at all: then the clock may have gone
back.
-/
theorem Span.add_le_of_le_between {earlier later span : Nat} (positive : 0 < span)
    (measured : span ≤ between earlier later)
    : earlier + span ≤ later := by
  rw [between] at measured
  omega

namespace Session

/-- A connected session is due when it was never served, or its polling interval ago. -/
theorem telemetryDue_iff {session : Session} {now : Moment}
    : session.telemetryDue now
      ↔ session.phase = .connected
        ∧ session.dataChannel.isSome
        ∧ ∀ last,
            session.lastTelemetry = some last
            → session.pollingInterval ≤ Span.between last now := by
  simp only [telemetryDue, untilTelemetry, beq_iff_eq]
  split
  next served =>
    cases session.lastTelemetry with
    | none => simp [served]
    | some last => simp [served, Nat.sub_eq_zero_iff_le]
  next unserved =>
    simp only [reduceCtorEq, false_iff]
    rintro ⟨connected, channel, _⟩
    exact unserved ⟨connected, channel⟩

theorem SameWriting.keptByReading {session : Session} : KeptByReading (SameWriting session) where
  heard _ same := same.trans ⟨rfl, rfl, rfl, rfl⟩
  handle handled same := same.trans (handle_sameWriting handled)
  withBuffer _ same := same.trans ⟨rfl, rfl, rfl, rfl⟩

/-- A connected session has come to its last phase. -/
theorem Leads.connected {earlier later : Session} (leads : Leads earlier later)
    (connected : earlier.phase = .connected)
    : later.phase = .connected := by
  have rank := leads.rank_le
  rw [connected] at rank
  cases phase : later.phase with
  | connected => rfl
  | _ => simp [phase, Phase.rank] at rank

end Session

/-- A session is live and connected. -/
def Registry.Connected (registry : Registry) (id : SessionId) : Prop :=
  ∃ session, registry.get? id = some session ∧ session.phase = .connected

namespace Server

open Registry (Entry)

-----------------------------------------------------------------------------------------
-- Events leave the account of telemetry alone
-----------------------------------------------------------------------------------------

theorem drive_lastTelemetry {event : StreamEvent} {hello : Hello} {now : Moment}
    {entry : Entry} (healthy : (drive event hello now entry).failure = none)
    : (drive event hello now entry).entry.session.lastTelemetry
      = entry.session.lastTelemetry := by
  obtain ⟨_, read, reads, writes⟩ := drive_of_healthy healthy
  have received : read.session.lastTelemetry = entry.session.lastTelemetry := by
    have same := Session.SameWriting.keptByReading.receive (.refl entry.session) event.reads now
    cases reads with
    | unread => rfl
    | read => exact same.lastTelemetry_eq
    | opened => exact same.lastTelemetry_eq
  obtain ⟨_, _, written⟩ := writes.session_eq
  rw [written]
  exact received

theorem Drives.lastTelemetry_eq {hello : Hello} {now : Moment} {first last : Entry}
    {events : List StreamEvent} (drives : Drives hello now first events last)
    : last.session.lastTelemetry = first.session.lastTelemetry :=
  drives.keeps (fun entry => entry.session.lastTelemetry = first.session.lastTelemetry)
    (fun _ healthy same => (drive_lastTelemetry healthy).trans same) rfl

-----------------------------------------------------------------------------------------
-- Sending
-----------------------------------------------------------------------------------------

/-- The session that a telemetry packet was addressed to. -/
def Effect.sent? : Effect → Option SessionId
  | .sent id _ _ _ => some id
  | _ => none

theorem mem_sent {effects : List Effect} {id : SessionId}
    : id ∈ effects.filterMap Effect.sent?
      ↔ ∃ destination bytes outcome, .sent id destination bytes outcome ∈ effects := by
  rw [List.mem_filterMap]
  constructor
  · rintro ⟨effect, member, sent⟩
    cases effect with
    | sent key destination bytes outcome =>
        cases sent
        exact ⟨destination, bytes, outcome, member⟩
    | _ => cases sent
  · rintro ⟨destination, bytes, outcome, member⟩
    exact ⟨_, member, rfl⟩

/-- Telemetry is addressed to nobody who is not due. -/
theorem mem_due_of_sent {now : Moment} {frame : Frame} {send : SessionId → SendOutcome}
    {server : Server} {id : SessionId} {destination : Peer} {bytes : Bytes}
    {outcome : SendOutcome}
    (sent : .sent id destination bytes outcome
      ∈ (server.pushTelemetry now frame send).effects)
    : id ∈ server.registry.due now := by
  rw [pushTelemetry] at sent
  dsimp only at sent
  split at sent
  · cases sent
  · rcases List.mem_append.mp sent with sampled | sent
    · rw [Step.andThen, tell_frame] at sampled
      simp at sampled
    · obtain ⟨key, due, at_, sent⟩ := Step.exists_of_mem_forEach sent
      rw [sendTo] at sent
      split at sent
      · cases sent
      · split at sent
        · cases sent
        · cases List.mem_singleton.mp sent
          exact due

theorem mem_shares_sent {step : Step} {id : SessionId} {destination : Peer}
    : .sent destination () ∈ (step.part (fun _ => ()) id).shares
      ↔ ∃ bytes outcome, .sent id destination bytes outcome ∈ step.effects := by
  rw [Step.part, List.mem_filterMap]
  constructor
  · rintro ⟨effect, member, share⟩
    cases effect with
    | sent key other bytes outcome =>
        obtain ⟨rfl, same⟩ := by simpa [Effect.share?] using share
        subst same
        exact ⟨bytes, outcome, member⟩
    | _ => simp [Effect.share?] at share
  · rintro ⟨bytes, outcome, member⟩
    exact ⟨_, member, by simp [Effect.share?]⟩

/-- Telemetry is addressed to the sessions that are due, each at its own channel. -/
theorem pushTelemetry_sent_iff {server : Server} (wellFormed : server.registry.WellFormed)
    {now : Moment} {frame : Frame} {send : SessionId → SendOutcome} {id : SessionId}
    {destination : Peer}
    : (∃ bytes outcome,
        .sent id destination bytes outcome ∈ (server.pushTelemetry now frame send).effects)
      ↔ server.bound.isSome
        ∧ ∃ entry,
            server.registry.find? id = some entry
            ∧ entry.session.telemetryDue now
            ∧ entry.session.dataChannel = some destination := by
  cases found : server.registry.find? id with
  | none =>
      simp only [reduceCtorEq, false_and, exists_false, and_false, iff_false]
      rintro ⟨bytes, outcome, sent⟩
      have due := wellFormed.mem_filter_keys.mp (mem_due_of_sent sent)
      rw [found] at due
      cases due
  | some entry =>
      have knows : server.Knows id := ⟨wellFormed, wellFormed.known (by simp [found])⟩
      rw [← mem_shares_sent, part_pushTelemetry _ knows, found]
      simp only [Part.push, Part.when, Option.any_some, Option.some.injEq, exists_eq_left']
      split
      next due =>
        obtain ⟨channel, opened⟩ := Session.channel_of_due due.2
        simp [Part.send, opened, due, eq_comm]
      next idle => simp [Part.still, ← and_assoc, idle]

-----------------------------------------------------------------------------------------
-- Rounds that serve a session
-----------------------------------------------------------------------------------------

namespace Round

variable {round : Round} {id : SessionId}

/-- The round has addressed telemetry to a session. -/
def Pushes (id : SessionId) (round : Round) : Prop :=
  id ∈ round.step.effects.filterMap Effect.sent?

instance (id : SessionId) : DecidablePred (Pushes id) :=
  fun round => inferInstanceAs (Decidable (id ∈ round.step.effects.filterMap Effect.sent?))

/-- A round addresses telemetry to the sessions that are due behind its sweep. -/
theorem sent_iff (reachable : round.server.Reachable) {destination : Peer}
    : (∃ bytes outcome, .sent id destination bytes outcome ∈ round.step.effects)
      ↔ ∃ entry,
          round.swept.server.registry.find? id = some entry
          ∧ entry.session.telemetryDue round.now
          ∧ entry.session.dataChannel = some destination := by
  have swept := round.swept_evolves.wellFormed reachable.wellFormed
  simp only [mem_step_iff (show Effect.stage? (.sent _ _ _ _) = some Stage.telemetry from rfl)]
  refine (pushTelemetry_sent_iff swept).trans (and_iff_right_of_imp ?_)
  rintro ⟨entry, found, _⟩
  -- A session lives only behind bound sockets.
  exact ((reachable.consistent.beforeTelemetry round.occasion).of_live
    (List.ne_nil_of_mem (Registry.mem_of_find? found).1)).1

theorem pushes_iff (reachable : round.server.Reachable)
    : round.Pushes id
      ↔ ∃ entry,
          round.swept.server.registry.find? id = some entry
          ∧ entry.session.telemetryDue round.now := by
  rw [Pushes, mem_sent]
  simp only [sent_iff reachable]
  constructor
  · rintro ⟨_, entry, found, due, _⟩
    exact ⟨entry, found, due⟩
  · rintro ⟨entry, found, due⟩
    obtain ⟨destination, channel⟩ := Session.channel_of_due due
    exact ⟨destination, entry, found, due, channel⟩

/-- A session that lives behind a round was served by it or was not due. -/
theorem step_cases (reachable : round.server.Reachable) {entry : Entry}
    (found : round.step.server.registry.find? id = some entry)
    : ∃ swept,
        round.swept.server.registry.find? id = some swept
        ∧ ((round.Pushes id
            ∧ swept.session.telemetryDue round.now
            ∧ entry.session = swept.session.markTelemetrySent round.now)
          ∨ (¬ round.Pushes id
            ∧ ¬ swept.session.telemetryDue round.now
            ∧ entry.session = swept.session)) := by
  obtain ⟨swept, before, rfl⟩ := step_found reachable.wellFormed found
  have live : round.swept.server.registry.entries ≠ [] :=
    List.ne_nil_of_mem (Registry.mem_of_find? before).1
  have bound : round.swept.server.bound.isSome :=
    ((reachable.consistent.beforeTelemetry round.occasion).of_live live).1
  refine ⟨swept, before, ?_⟩
  simp only [pushes_iff reachable, before, Option.some.injEq, exists_eq_left', served, bound,
    true_and]
  by_cases due : swept.session.telemetryDue round.now <;> simp [due]

end Round

-----------------------------------------------------------------------------------------
-- The account of telemetry
-----------------------------------------------------------------------------------------

/-- A session remembers the round that served it last, and only connected ones are served. -/
structure Paced (rounds : List Round) (id : SessionId) (session : Session) : Prop where
  lastTelemetry_eq
    : session.lastTelemetry = ((rounds.filter (·.Pushes id)).getLast?).map Round.now
  connected : session.lastTelemetry.isSome → session.phase = .connected

theorem Paced.of_unserved {rounds : List Round} {id : SessionId} {session : Session}
    (unserved : ∀ round ∈ rounds, ¬ round.Pushes id) (fresh : session.lastTelemetry = none)
    : Paced rounds id session := by
  have none : rounds.filter (·.Pushes id) = [] := by simpa using unserved
  refine ⟨?_, ?_⟩
  · rw [none, fresh]
    rfl
  · rw [fresh]
    simp

namespace Run

variable {first server : Server} {rounds : List Round} {id : SessionId}

/-- A number that is still to be given was served by no round. -/
theorem unserved (run : Run first rounds server) (reachable : first.Reachable)
    (unknown : server.registry.next ≤ id.number)
    : ∀ round ∈ rounds, ¬ round.Pushes id := by
  intro round member pushes
  obtain ⟨reached, next⟩ := run.of_mem reachable member
  obtain ⟨entry, found, _⟩ := (Round.pushes_iff reached).mp pushes
  have known := (round.swept_evolves.wellFormed reached.wellFormed).known
    (Option.isSome_of_eq_some found)
  have pushed := (pushTelemetry_serves round.now round.occasion.frame round.occasion.send
    round.swept.server).evolves.next_le
  exact Nat.not_lt.mpr unknown
    (Nat.lt_of_lt_of_le known (Nat.le_trans pushed next))

/-- Up to the telemetry of a round the account of its sessions is as it was before. -/
theorem paced_swept {before : List Round} {round : Round}
    (run : Run first before round.server) (reachable : first.Reachable)
    (paced
      : ∀ entry, round.server.registry.find? id = some entry → Paced before id entry.session)
    {entry : Entry} (found : round.swept.server.registry.find? id = some entry)
    : Paced before id entry.session := by
  have wellFormed := (run.reachable reachable).wellFormed
  obtain ⟨first, enters, drives⟩ :=
    Round.dispatched_found wellFormed (Round.swept_found wellFormed found).1
  have leads := drives.called.leads (enters.reachable wellFormed)
  have entered : Paced before id first.session := by
    cases enters with
    | old found => exact paced first found
    | new unknown peer => exact .of_unserved (run.unserved reachable unknown) rfl
  refine ⟨drives.lastTelemetry_eq.trans entered.lastTelemetry_eq, fun some => ?_⟩
  rw [drives.lastTelemetry_eq] at some
  exact leads.connected (entered.connected some)

/-- After every round the account is right, and every connected session has been served. By
induction on the run.
-/
theorem paced {settings : Settings.Network} {port : UInt16} {status : Status.Shared}
    (run : Run (Server.start settings port status) rounds server) {entry : Entry}
    (found : server.registry.find? id = some entry)
    : Paced rounds id entry.session
      ∧ (entry.session.phase = .connected → entry.session.lastTelemetry.isSome) := by
  induction run generalizing entry with
  | start => cases found
  | meet _ outside ih =>
      rw [meet_registry] at found
      exact ih found
  | @round before server run occasion ih =>
      let round : Round := ⟨server, occasion⟩
      have reached : round.server.Reachable := run.reachable (.start _ _ _)
      obtain ⟨swept, earlier, served⟩ := Round.step_cases reached found
      have account : Paced before id swept.session :=
        run.paced_swept (.start _ _ _) (fun _ found => (ih found).1) earlier
      change Paced (before ++ [round]) id entry.session ∧ _
      rcases served with ⟨pushes, due, marked⟩ | ⟨quiet, idle, kept⟩
      · have connected := (Session.telemetryDue_iff.mp due).1
        rw [marked]
        refine ⟨⟨?_, fun _ => connected⟩, fun _ => rfl⟩
        simp [List.filter_append, pushes, Session.markTelemetrySent]
      · rw [kept]
        refine ⟨⟨?_, account.connected⟩, fun connected => ?_⟩
        · simpa [List.filter_append, quiet] using account.lastTelemetry_eq
        · -- A connected session that was never served would have been due.
          by_contra unserved
          have held := (Registry.mem_of_find? earlier).1
          have coherent :=
            ((round.swept_evolves.wellFormed reached.wellFormed).reachable swept held).coherent
          refine idle (Session.telemetryDue_iff.mpr ⟨connected, ?_, fun last some => ?_⟩)
          · exact coherent.channel_isSome_iff.mpr (by simp [connected])
          · simp [some] at unserved
  | shutdown run ih =>
      simp [Registry.find?, shutdown_entries] at found

end Run

-----------------------------------------------------------------------------------------
-- Pacing
-----------------------------------------------------------------------------------------

/-- From an earlier round to a later one passes the polling interval that a session has when
the later one serves it.
-/
def Round.Spaced (id : SessionId) (earlier later : Round) : Prop :=
  ∃ session,
    later.swept.server.registry.get? id = some session
    ∧ Span.ofMicros 6000 ≤ session.pollingInterval
    ∧ earlier.now + session.pollingInterval ≤ later.now

namespace Run

variable {server : Server} {rounds before : List Round} {round : Round} {id : SessionId}
  {settings : Settings.Network} {port : UInt16} {status : Status.Shared}

/-- A round that serves a session keeps its interval from all that have served it, since the
last of these is the latest.
-/
theorem spaced_of_pushes (run : Run (Server.start settings port status) before round.server)
    (spaced : (before.filter (·.Pushes id)).Pairwise (Round.Spaced id))
    (pushes : round.Pushes id)
    : ∀ earlier ∈ before.filter (·.Pushes id), Round.Spaced id earlier round := by
  intro earlier member
  have reached : round.server.Reachable := run.reachable (.start _ _ _)
  obtain ⟨entry, found, due⟩ := (Round.pushes_iff reached).mp pushes
  have account := run.paced_swept (.start _ _ _) (fun _ found => (run.paced found).1) found
  have least : Span.ofMicros 6000 ≤ entry.session.pollingInterval := by
    have wellFormed := round.swept_evolves.wellFormed reached.wellFormed
    exact (wellFormed.reachable entry (Registry.mem_of_find? found).1).coherent.pollingInterval_ge
  obtain ⟨last, isLast⟩ : ∃ last, (before.filter (·.Pushes id)).getLast? = some last :=
    Option.isSome_iff_exists.mp (List.getLast?_isSome.mpr (List.ne_nil_of_mem member))
  have upToLast : earlier.now ≤ last.now := by
    rcases eq_or_rel_getLast spaced isLast member with rfl | ⟨_, _, _, apart⟩
    · exact Nat.le_refl _
    · exact Nat.le_trans (Nat.le_add_right _ _) apart
  have waited : entry.session.pollingInterval ≤ Span.between last.now round.now :=
    (Session.telemetryDue_iff.mp due).2.2 last.now (by rw [account.lastTelemetry_eq, isLast]; rfl)
  refine ⟨entry.session, by rw [Registry.get?, found, Option.map_some], least, ?_⟩
  have sinceLast :=
    Span.add_le_of_le_between (Nat.lt_of_lt_of_le (by decide) least) waited
  exact Nat.le_trans (Nat.add_le_add_right upToLast _) sinceLast

/-- By induction on the run. -/
theorem spaced (run : Run (Server.start settings port status) rounds server)
    : (rounds.filter (·.Pushes id)).Pairwise (Round.Spaced id) := by
  induction run with
  | start => exact .nil
  | meet _ _ ih => exact ih
  | @round before server run occasion ih =>
      rw [List.filter_append, List.pairwise_append]
      refine ⟨ih, (List.pairwise_singleton _ _).sublist List.filter_sublist, ?_⟩
      intro earlier member later last
      obtain ⟨same, pushes⟩ := List.mem_filter.mp last
      rw [List.mem_singleton.mp same] at pushes ⊢
      exact run.spaced_of_pushes ih (of_decide_eq_true pushes) earlier member
  | shutdown _ ih => exact ih

/-- A session that was not connected was not served. -/
theorem unserved_of_unconnected
    (run : Run (Server.start settings port status) before round.server)
    (unconnected : ¬ round.server.registry.Connected id) {entry : Entry}
    (found : round.swept.server.registry.find? id = some entry)
    : ∀ earlier ∈ before, ¬ earlier.Pushes id := by
  have wellFormed := (run.reachable (.start _ _ _)).wellFormed
  obtain ⟨first, enters, _⟩ :=
    Round.dispatched_found wellFormed (Round.swept_found wellFormed found).1
  cases enters with
  | old live =>
      have account := (run.paced live).1
      have none : first.session.lastTelemetry = none := by
        by_contra served
        have connected := account.connected (Option.isSome_iff_ne_none.mpr served)
        have held : round.server.registry.get? id = some first.session := by
          rw [Registry.get?, live, Option.map_some]
        exact unconnected ⟨first.session, held, connected⟩
      simpa [account.lastTelemetry_eq] using none
  | new unknown peer => exact run.unserved (.start _ _ _) unknown

/-- A session is first served in the round behind which it is first connected. -/
theorem first_push_iff (run : Run (Server.start settings port status) before round.server)
    : (round.Pushes id ∧ ∀ earlier ∈ before, ¬ earlier.Pushes id)
      ↔ ¬ round.server.registry.Connected id ∧ round.step.server.registry.Connected id := by
  have reached : round.server.Reachable := run.reachable (.start _ _ _)
  constructor
  · rintro ⟨pushes, never⟩
    obtain ⟨entry, found, due⟩ := (Round.pushes_iff reached).mp pushes
    have none : before.filter (·.Pushes id) = [] := by simpa using never
    refine ⟨?_, ?_⟩
    · rintro ⟨session, held, connected⟩
      obtain ⟨earlier, live, rfl⟩ := Option.map_eq_some_iff.mp held
      obtain ⟨account, served⟩ := run.paced live
      have some := served connected
      rw [account.lastTelemetry_eq, none] at some
      cases some
    · refine ⟨(served round.now round.swept.server.bound entry).session, ?_, ?_⟩
      · rw [Registry.get?, Round.find?_step reached.wellFormed, found]
        rfl
      · obtain ⟨_, same⟩ := served_eq round.now round.swept.server.bound entry
        rw [same]
        exact (Session.telemetryDue_iff.mp due).1
  · rintro ⟨unconnected, session, held, connected⟩
    obtain ⟨entry, live, rfl⟩ := Option.map_eq_some_iff.mp held
    obtain ⟨swept, found, _⟩ := Round.step_cases reached live
    have never := run.unserved_of_unconnected unconnected found
    refine ⟨?_, never⟩
    by_contra quiet
    obtain ⟨account, served⟩ := (run.round round.occasion).paced live
    have none : (before ++ [round]).filter (·.Pushes id) = [] := by
      simpa [or_imp, forall_and, quiet] using never
    have some := served connected
    rw [account.lastTelemetry_eq] at some
    change (((before ++ [round]).filter (·.Pushes id)).getLast?.map Round.now).isSome at some
    rw [none] at some
    cases some

end Run

/-- Telemetry is paced over every run, wherever the clock goes. Two rounds that push it to one
session are the polling interval apart that the session has at the later one, and never less
than 6 ms. A session is first pushed to in the round that connects it, unless this ends it.
And what is sent in a round is addressed to a session that is connected behind the sweep, at
its own channel, and does not end in this round.
-/
theorem telemetry_paced {settings : Settings.Network} {port : UInt16} {status : Status.Shared}
    {rounds : List Round} {server : Server}
    (run : Run (start settings port status) rounds server) (id : SessionId)
    : (rounds.filter (·.Pushes id)).Pairwise (Round.Spaced id)
      ∧ ∀ before round after,
          rounds = before ++ round :: after
          → ((round.Pushes id ∧ ∀ earlier ∈ before, ¬ earlier.Pushes id)
              ↔ ¬ round.server.registry.Connected id
                ∧ round.step.server.registry.Connected id)
            ∧ ∀ destination bytes outcome,
                .sent id destination bytes outcome ∈ round.step.effects
                → ∃ session,
                    round.swept.server.registry.get? id = some session
                    ∧ session.phase = .connected
                    ∧ session.dataChannel = some destination
                    ∧ id ∉ round.step.effects.filterMap Effect.ended? := by
  refine ⟨run.spaced, fun before round after split => ?_⟩
  have earlier := run.before split
  have reached := earlier.reachable (.start _ _ _)
  refine ⟨earlier.first_push_iff, fun destination bytes outcome sent => ?_⟩
  obtain ⟨entry, found, due, channel⟩ := (Round.sent_iff reached).mp ⟨bytes, outcome, sent⟩
  refine ⟨entry.session, ?_, (Session.telemetryDue_iff.mp due).1, channel, fun ended => ?_⟩
  · rw [Registry.get?, found, Option.map_some]
  · -- What has ended in a round is gone behind it, and who was served is not.
    have gone :=
      ((iterate_traced round.occasion reached.wellFormed).ended_gone reached.wellFormed ended).2
    have live := Round.find?_step reached.wellFormed id
    rw [found, Round.step, gone] at live
    cases live

/-- A client is served at once when it is confirmed. It asks for a longer interval, the clock goes
back, and the next telemetry comes when that interval has passed since the first.
-/
theorem telemetry_paced_clock_back
    : let backlog : List AcceptOutcome := [.connection (.v4 ⟨192, 168, 1, 20⟩ 41000) true]
      let handshake : StreamEvent :=
        {
          token := 17
          readable := true
          writable := true
          reads := [.bytes [8, 0, 0, 0, 1, 0, 0x88, 0x13, 0, 0, 0, 0]]
          writes := [.accepted 12]
        }
      let config : StreamEvent :=
        { token := 17, readable := true, reads := [.bytes [5, 0, 0, 0, 2, 0x40, 0x1f, 0, 0]] }
      let admits : Occasion := { now := 4, batch := [.listener backlog] }
      let confirms : Occasion := { now := 10, batch := [.stream handshake] }
      let asks : Occasion := { now := Span.ofMillis 6, batch := [.stream config] }
      let opening : Round := ⟨start {} 5000 {}, admits⟩
      let admitted := (opening.server.iterate admits).server
      let joining : Round := ⟨admitted, confirms⟩
      let served := (admitted.iterate confirms).server
      let asked := (served.iterate asks).server
      let back := (asked.iterate { now := 3 }).server
      let later : List Round :=
        [⟨served, asks⟩, ⟨asked, { now := 3 }⟩, ⟨back, { now := Span.ofMillis 8 + 10 }⟩]
      let rounds : List Round := [opening, joining] ++ later
      (rounds.filter (·.Pushes ⟨1⟩)).map Round.now = [10, Span.ofMillis 8 + 10]
      ∧ (rounds.filter (·.Pushes ⟨1⟩)).Pairwise (Round.Spaced ⟨1⟩)
      ∧ ¬ joining.server.registry.Connected ⟨1⟩
      ∧ joining.step.server.registry.Connected ⟨1⟩ := by
  intro backlog handshake config admits confirms asks opening admitted joining served asked back
    later rounds
  have run : Run opening.server rounds _ :=
    .round (.round (.round (.round (.round .start _) _) _) _) _
  have pushed
      : (rounds.filter (·.Pushes ⟨1⟩)).map Round.now = [10, Span.ofMillis 8 + 10] := by
    decide +kernel
  have pushes : joining.Pushes ⟨1⟩ := by decide +kernel
  have first : ∀ earlier ∈ [opening], ¬ earlier.Pushes ⟨1⟩ := by decide +kernel
  obtain ⟨spaced, each⟩ := telemetry_paced run ⟨1⟩
  exact ⟨pushed, spaced, (each [opening] joining later rfl).1.mp ⟨pushes, first⟩⟩

end Server

end Handheld
