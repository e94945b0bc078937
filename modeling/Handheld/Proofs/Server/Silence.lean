import Handheld.Proofs.Server.Visits
import Handheld.Proofs.Session.Hearing

/-! The silence of sessions over a run. What was heard of a session is told by the bytes of its
stream, in whatever pieces and rounds they came. Main statement: the last heartbeat of a live
session is the time of the latest round that completed an item of its stream, or else of the
round that admitted it; and the sweep ends just the sessions that have been silent for longer
than the timeout since then.
-/

namespace Handheld

namespace Server

open Registry (Entry)
open Session (TakesIn)

-----------------------------------------------------------------------------------------
-- Streams
-----------------------------------------------------------------------------------------

/-- The bytes that an event brings. An error or a hangup is not read. -/
def StreamEvent.received (event : StreamEvent) : Bytes :=
  if event.readable ∧ ¬ (event.error || event.hangup) then Session.taken event.reads else []

theorem drive_takesIn {event : StreamEvent} {hello : Hello} {now : Moment} {entry : Entry}
    (healthy : (drive event hello now entry).failure = none) {stream : Bytes}
    (took : entry.session.Took stream)
    : TakesIn now stream event.received entry.session
        (drive event hello now entry).entry.session := by
  obtain ⟨intact, read, reads, writes⟩ := drive_of_healthy healthy
  have takes : TakesIn now stream event.received entry.session read.session := by
    cases reads with
    | unread idle =>
        rw [StreamEvent.received, if_neg (by simp [idle])]
        exact .refl now took
    | read readable received _ =>
        rw [StreamEvent.received, if_pos (by simp [readable, intact])]
        exact Session.receive_takesIn took received
    | opened readable received _ _ =>
        rw [StreamEvent.received, if_pos (by simp [readable, intact])]
        exact Session.receive_takesIn took received
  obtain ⟨_, _, written⟩ := writes.session_eq
  exact takes.keep (by rw [written]) (by rw [written])

/-- Events bring their bytes one after the other, by induction on the events. -/
theorem Drives.takesIn {hello : Hello} {now : Moment} {first last : Entry}
    {events : List StreamEvent} (drives : Drives hello now first events last) {stream : Bytes}
    (took : first.session.Took stream)
    : TakesIn now stream (events.flatMap StreamEvent.received) first.session last.session := by
  induction drives generalizing stream with
  | refl => exact .refl now took
  | event event healthy _ ih =>
      have brought := drive_takesIn healthy took
      exact brought.trans (ih brought.took)

-----------------------------------------------------------------------------------------
-- Signs of life
-----------------------------------------------------------------------------------------

namespace Round

/-- The bytes that a round takes from the stream of a session. -/
def bytesOf (id : SessionId) (round : Round) : Bytes :=
  (round.met id).flatMap StreamEvent.received

/-- The round has admitted a session. -/
def Admits (id : SessionId) (round : Round) : Prop :=
  id ∈ round.step.effects.filterMap Effect.admitted?

instance (id : SessionId) : DecidablePred (Admits id) :=
  fun round => inferInstanceAs (Decidable (id ∈ round.step.effects.filterMap Effect.admitted?))

end Round

/-- All that has come from a session. -/
def streamOf (id : SessionId) (rounds : List Round) : Bytes := rounds.flatMap (Round.bytesOf id)

/-- The rounds in which something was decoded from a session, where `stream` has come before:
their bytes complete an item of the stream.
-/
def decodingFrom (id : SessionId) (stream : Bytes) : List Round → List Round
  | [] => []
  | round :: rest =>
      (if Wire.Completes stream (round.bytesOf id) then [round] else [])
        ++ decodingFrom id (stream ++ round.bytesOf id) rest

/-- The rounds in which something was decoded from a session. -/
def decoding (id : SessionId) (rounds : List Round) : List Round := decodingFrom id [] rounds

/-- When a session was heard last: in the latest round that decoded something from it, or else
in the one that admitted it.
-/
def lastSign? (id : SessionId) (rounds : List Round) : Option Moment :=
  ((decoding id rounds).getLast?.or (rounds.find? (·.Admits id))).map Round.now

theorem decodingFrom_append (id : SessionId) (stream : Bytes) (before after : List Round)
    : decodingFrom id stream (before ++ after)
      = decodingFrom id stream before
        ++ decodingFrom id (stream ++ streamOf id before) after := by
  induction before generalizing stream with
  | nil => rw [streamOf, List.flatMap_nil, List.append_nil]; rfl
  | cons round rest ih =>
      simp only [List.cons_append, decodingFrom, ih, streamOf, List.flatMap_cons,
        List.append_assoc]

theorem decodingFrom_sublist (id : SessionId) (stream : Bytes) (rounds : List Round)
    : (decodingFrom id stream rounds).Sublist rounds := by
  induction rounds generalizing stream with
  | nil => exact List.Sublist.refl []
  | cons round rest ih =>
      rw [decodingFrom]
      split
      · exact (ih _).cons_cons round
      · exact (ih _).cons round

theorem decoding_concat (id : SessionId) (rounds : List Round) (round : Round)
    : decoding id (rounds ++ [round])
      = decoding id rounds
        ++ if Wire.Completes (streamOf id rounds) (round.bytesOf id) then [round] else [] := by
  rw [decoding, decodingFrom_append]
  simp [decodingFrom, decoding]

/-- A further round is the last sign of life when it completes an item; else it may at most be
the first one.
-/
theorem lastSign?_concat (id : SessionId) (rounds : List Round) (round : Round)
    : lastSign? id (rounds ++ [round])
      = if Wire.Completes (streamOf id rounds) (round.bytesOf id) then some round.now
        else (lastSign? id rounds).or (if round.Admits id then some round.now else none) := by
  rw [lastSign?, decoding_concat]
  split
  · simp
  · by_cases admits : round.Admits id <;> simp [lastSign?, admits]

-----------------------------------------------------------------------------------------
-- Runs
-----------------------------------------------------------------------------------------

/-- A session has taken in all that came from it, and remembers the last sign of life. -/
structure Attended (rounds : List Round) (id : SessionId) (session : Session) : Prop where
  took : session.Took (streamOf id rounds)
  lastSign?_eq : lastSign? id rounds = some session.lastHeartbeat

/-- Rounds that brought nothing have decoded nothing, by induction on the rounds. -/
theorem decodingFrom_of_silent {id : SessionId} {rounds : List Round}
    (silent : ∀ round ∈ rounds, round.bytesOf id = []) (stream : Bytes)
    : decodingFrom id stream rounds = [] := by
  induction rounds generalizing stream with
  | nil => rfl
  | cons round rest ih =>
      obtain ⟨first, later⟩ := List.forall_mem_cons.mp silent
      rw [decodingFrom, first, if_neg (Wire.not_completes_nil stream), ih later]
      rfl

theorem lastSign?_of_silent {id : SessionId} {rounds : List Round}
    (silent : ∀ round ∈ rounds, round.bytesOf id = [])
    (outside : ∀ round ∈ rounds, ¬ round.Admits id)
    : lastSign? id rounds = none := by
  have unfound : rounds.find? (·.Admits id) = none := by simpa using outside
  rw [lastSign?, decoding, decodingFrom_of_silent silent, unfound]
  rfl

/-- A session that is new behind the dispatch has been admitted in the round. -/
theorem Round.admits_of_new {round : Round} {id : SessionId}
    (wellFormed : round.server.registry.WellFormed)
    (unknown : round.server.registry.next ≤ id.number)
    (live : (round.dispatched.server.registry.find? id).isSome)
    : round.Admits id := by
  have linked : round.server.Traced round.linked := handleLink_traced _ _ wellFormed
  have dispatched : round.server.Traced round.dispatched :=
    linked.andThen (dispatch_traced _ _ (linked.wellFormed wellFormed))
  have admitted :=
    dispatched.admitted_of_new wellFormed (find?_eq_none_of_unknown wellFormed unknown) live
  rw [Admits, effects_eq, List.append_assoc, List.filterMap_append]
  exact List.mem_append_left _ admitted

namespace Run

variable {first server : Server} {rounds : List Round} {id : SessionId}

/-- A number that is still to be given was neither admitted nor heard. -/
theorem unheard (run : Run first rounds server) (reachable : first.Reachable)
    (unknown : server.registry.next ≤ id.number)
    : ∀ round ∈ rounds, round.bytesOf id = [] ∧ ¬ round.Admits id := by
  intro round member
  obtain ⟨reached, next⟩ := run.of_mem reachable member
  have later := Nat.le_trans next unknown
  refine ⟨?_, fun admits => ?_⟩
  · rw [Round.bytesOf, Round.met_of_unknown reached.wellFormed later]
    rfl
  · have trace := iterate_traced round.occasion reached.wellFormed
    exact Nat.not_lt.mpr later (trace.admitted_known admits)

/-- The dispatch of a round hears what its sessions send, and leaves them attended. -/
theorem attended_dispatched {before : List Round} {round : Round}
    (run : Run first before round.server) (reachable : first.Reachable)
    (attended
      : ∀ entry,
          round.server.registry.find? id = some entry → Attended before id entry.session)
    {entry : Entry} (found : round.dispatched.server.registry.find? id = some entry)
    : Attended (before ++ [round]) id entry.session := by
  have wellFormed := (run.reachable reachable).wellFormed
  obtain ⟨first, enters, drives⟩ := round.dispatched_found wellFormed found
  have entered
      : first.session.Took (streamOf id before)
        ∧ (lastSign? id before).or (if round.Admits id then some round.now else none)
          = some first.session.lastHeartbeat := by
    cases enters with
    | old live =>
        have account := attended first live
        exact ⟨account.took, by rw [account.lastSign?_eq, Option.some_or]⟩
    | new unknown peer =>
        have silent round member := (run.unheard reachable unknown round member).1
        have outside round member := (run.unheard reachable unknown round member).2
        have nothing : streamOf id before = [] := List.flatMap_eq_nil_iff.mpr silent
        have admits : round.Admits id :=
          Round.admits_of_new wellFormed unknown (Option.isSome_of_eq_some found)
        rw [nothing, lastSign?_of_silent silent outside, if_pos admits]
        exact ⟨Session.took_start id peer round.now, rfl⟩
  have takes := drives.takesIn entered.1
  refine ⟨?_, ?_⟩
  · have whole : streamOf id (before ++ [round]) = streamOf id before ++ round.bytesOf id := by
      simp [streamOf]
    rw [whole]
    exact takes.took
  · rw [lastSign?_concat, entered.2, takes.lastHeartbeat_eq]
    exact (apply_ite some _ _ _).symm

/-- After every round all sessions are attended, by induction on the run. -/
theorem attended {settings : Settings.Network} {port : UInt16} {status : Status.Shared}
    (run : Run (Server.start settings port status) rounds server) {entry : Entry}
    (found : server.registry.find? id = some entry)
    : Attended rounds id entry.session := by
  induction run generalizing entry with
  | start => cases found
  | meet _ outside ih =>
      rw [meet_registry] at found
      exact ih found
  | @round before server run occasion ih =>
      let round : Round := ⟨server, occasion⟩
      have wellFormed := (run.reachable (.start _ _ _)).wellFormed
      have served : round.step.server.registry.find? id = some entry := found
      obtain ⟨swept, live, same⟩ := round.step_found wellFormed served
      have account : Attended (before ++ [round]) id swept.session :=
        run.attended_dispatched (.start _ _ _) (fun _ => ih)
          (round.swept_found wellFormed live).1
      obtain ⟨_, marked⟩ := served_eq round.now round.swept.server.bound swept
      rw [same, marked]
      exact ⟨⟨account.took.fault_eq, account.took.buffer_eq⟩, account.lastSign?_eq⟩
  | shutdown run ih =>
      simp [Registry.find?, shutdown_entries] at found

end Run

-----------------------------------------------------------------------------------------
-- The sweep
-----------------------------------------------------------------------------------------

/-- Whoever is reported ended was live, and stood among those to be ended. By induction on
them.
-/
theorem live_of_teardowns {keys : List SessionId} {reason told : TeardownReason}
    {server : Server} {session : Session} {level : Log.Level}
    (member : .disconnected session level told
      ∈ (Step.forEach (fun key => teardown key reason) keys server).effects)
    : ∃ key ∈ keys,
        ∃ entry, server.registry.find? key = some entry ∧ session = entry.session := by
  induction keys generalizing server with
  | nil => cases member
  | cons key rest ih =>
      rcases List.mem_append.mp member with first | later
      · change _ ∈ (server.teardown key reason).effects at first
        cases found : server.registry.find? key with
        | none =>
            rw [teardown_of_none found] at first
            cases first
        | some entry =>
            rw [teardown_of_some found, recordTeardown_eq] at first
            obtain ⟨rfl, _, _⟩ := by simpa using first
            exact ⟨key, List.mem_cons_self, entry, found, rfl⟩
      · obtain ⟨other, listed, entry, found, same⟩ := ih later
        rw [find?_teardown] at found
        split at found
        · cases found
        · exact ⟨other, List.mem_cons_of_mem key listed, entry, found, same⟩

/-- A session that a round ends for its silence was live behind the dispatch, and silent for
longer than the timeout.
-/
theorem Round.expired_of_timeout {round : Round}
    (wellFormed : round.server.registry.WellFormed) {session : Session} {level : Log.Level}
    (member : .disconnected session level .heartbeatTimeout ∈ round.step.effects)
    : round.dispatched.server.registry.get? session.id = some session
      ∧ session.isExpired round.now round.dispatched.server.settings.heartbeatTimeout := by
  have dispatched := round.dispatched_evolves.wellFormed wellFormed
  have own : (Effect.disconnected session level .heartbeatTimeout).stage? = some .sweep := rfl
  have swept := (mem_step_iff own).mp member
  obtain ⟨key, expired, entry, found, rfl⟩ := live_of_teardowns swept
  obtain ⟨held, rfl⟩ := Registry.mem_of_find? found
  have silent := dispatched.mem_filter_keys.mp expired
  rw [found] at silent
  rw [dispatched.own entry held, Registry.get?, found]
  exact ⟨rfl, silent⟩

/-- Nothing was decoded after the last sign of life, when the clock does not go back. -/
theorem decoding_le_lastSign {id : SessionId} {rounds : List Round} {last : Moment}
    (clock : (rounds.map Round.now).Pairwise (· ≤ ·)) (sign : lastSign? id rounds = some last)
    : ∀ earlier ∈ decoding id rounds, earlier.now ≤ last := by
  intro earlier member
  obtain ⟨latest, isLatest⟩ : ∃ latest, (decoding id rounds).getLast? = some latest :=
    Option.isSome_iff_exists.mp (List.getLast?_isSome.mpr (List.ne_nil_of_mem member))
  obtain rfl : latest.now = last := by
    rw [lastSign?, isLatest] at sign
    exact Option.some.inj sign
  have ordered : (decoding id rounds).Pairwise fun earlier later => earlier.now ≤ later.now :=
    (List.pairwise_map.mp clock).sublist (decodingFrom_sublist id [] rounds)
  rcases eq_or_rel_getLast ordered isLatest member with rfl | before
  · exact Nat.le_refl _
  · exact before

/-- The silence of sessions is exact. Over every run whose clock does not go back, the last
heartbeat of a live session is its last sign of life, after each round and behind each
dispatch. The sweep that follows leaves the sessions that have been silent for no longer than
the timeout since then, and no others; and a session that a round ends for its silence was
heard last longer ago than the timeout, as was all that was ever decoded from it.
-/
theorem silence_exact {settings : Settings.Network} {port : UInt16} {status : Status.Shared}
    {rounds : List Round} {server : Server}
    (run : Run (start settings port status) rounds server)
    (clock : (rounds.map Round.now).Pairwise (· ≤ ·))
    : (∀ id session,
        server.registry.get? id = some session
        → lastSign? id rounds = some session.lastHeartbeat)
      ∧ ∀ before round after,
          rounds = before ++ round :: after
          → (∀ id session,
              round.dispatched.server.registry.get? id = some session
              → lastSign? id (before ++ [round]) = some session.lastHeartbeat
                ∧ (round.swept.server.registry.get? id = some session
                  ↔ Span.between session.lastHeartbeat round.now ≤ settings.heartbeatTimeout))
            ∧ (∀ id session,
                round.step.server.registry.get? id = some session
                → Span.between session.lastHeartbeat round.now ≤ settings.heartbeatTimeout)
            ∧ ∀ session level,
                .disconnected session level .heartbeatTimeout ∈ round.step.effects
                → (∃ last,
                    lastSign? session.id (before ++ [round]) = some last
                    ∧ settings.heartbeatTimeout < Span.between last round.now)
                  ∧ ∀ earlier ∈ decoding session.id (before ++ [round]),
                      settings.heartbeatTimeout < Span.between earlier.now round.now := by
  refine ⟨fun id session live => ?_, fun before round after split => ?_⟩
  · obtain ⟨entry, found, rfl⟩ := Option.map_eq_some_iff.mp live
    exact (run.attended found).lastSign?_eq
  have earlier := run.before split
  have wellFormed := (earlier.reachable (.start _ _ _)).wellFormed
  have timeout : round.server.settings.heartbeatTimeout = settings.heartbeatTimeout :=
    congrArg Settings.Network.heartbeatTimeout (earlier.settings_eq (.start _ _ _))
  have attended {id : SessionId} {session : Session}
      (live : round.dispatched.server.registry.get? id = some session)
      : lastSign? id (before ++ [round]) = some session.lastHeartbeat := by
    obtain ⟨entry, found, rfl⟩ := Option.map_eq_some_iff.mp live
    have heard := earlier.attended_dispatched (.start _ _ _) (fun _ => earlier.attended) found
    exact heard.lastSign?_eq
  refine ⟨fun id session live => ⟨attended live, ?_⟩, fun id session live => ?_,
    fun session level ended => ?_⟩
  · obtain ⟨entry, found, rfl⟩ := Option.map_eq_some_iff.mp live
    rw [Registry.get?, round.find?_swept wellFormed, found, timeout]
    simp [Option.filter_some, Session.isExpired]
  · obtain ⟨entry, found, rfl⟩ := Option.map_eq_some_iff.mp live
    obtain ⟨swept, live, same⟩ := round.step_found wellFormed found
    obtain ⟨_, marked⟩ := served_eq round.now round.swept.server.bound swept
    rw [same, marked, ← timeout]
    exact (round.swept_found wellFormed live).2
  · obtain ⟨live, silent⟩ := Round.expired_of_timeout wellFormed ended
    rw [Round.dispatched_settings wellFormed, timeout, Session.isExpired,
      decide_eq_true_iff] at silent
    refine ⟨⟨session.lastHeartbeat, attended live, silent⟩, fun decoded member => ?_⟩
    have ordered : ((before ++ [round]).map Round.now).Pairwise (· ≤ ·) := by
      refine clock.sublist (List.Sublist.map _ ?_)
      rw [split]
      exact (List.Sublist.refl before).append (List.singleton_sublist.mpr List.mem_cons_self)
    have bound := decoding_le_lastSign ordered (attended live) decoded member
    exact Nat.lt_of_lt_of_le silent (Nat.sub_le_sub_left bound round.now)

/-- A client sends a heartbeat in two pieces. It survives when it has been silent for just the
timeout since the second one, and is ended a nanosecond later.
-/
theorem silence_exact_two_pieces
    : let backlog : List AcceptOutcome := [.connection (.v4 ⟨192, 168, 1, 20⟩ 41000) true]
      let piece (bytes : Bytes) : Readiness :=
        .stream { token := 17, readable := true, reads := [.bytes bytes] }
      let admits : Occasion := { now := 10, batch := [.listener backlog] }
      let begins : Occasion := { now := Span.ofSeconds 20, batch := [piece [0xff, 0xff, 0xff]] }
      let ends : Occasion := { now := Span.ofSeconds 24, batch := [piece [0xff, 0x42, 0x54]] }
      let waits : Occasion := { now := Span.ofSeconds 49 }
      let opening : Round := ⟨start {} 5000 {}, admits⟩
      let admitted := (opening.server.iterate admits).server
      let begun := (admitted.iterate begins).server
      let ended := (begun.iterate ends).server
      let waited := (ended.iterate waits).server
      let rounds : List Round :=
        [opening, ⟨admitted, begins⟩, ⟨begun, ends⟩, ⟨ended, waits⟩]
      let late : Round := ⟨waited, { now := Span.ofSeconds 49 + 1 }⟩
      let peer : Peer := ⟨.v4 ⟨192, 168, 1, 20⟩, 41000, rfl, rfl, by decide⟩
      let session : Session :=
        { Session.start ⟨1⟩ peer 10 with lastHeartbeat := Span.ofSeconds 24 }
      waited.registry.get? ⟨1⟩ = some session
      ∧ lastSign? ⟨1⟩ rounds = some (Span.ofSeconds 24)
      ∧ late.step.effects
        = [.disconnected session .warn .heartbeatTimeout, .raised .clientDisconnected]
      ∧ (decoding ⟨1⟩ (rounds ++ [late])).map Round.now = [Span.ofSeconds 24]
      ∧ ∀ earlier ∈ decoding ⟨1⟩ (rounds ++ [late]),
          Span.ofSeconds 25 < Span.between earlier.now late.now := by
  intro backlog piece admits begins ends waits opening admitted begun ended waited rounds late
    peer session
  have run : Run opening.server rounds waited := .round (.round (.round (.round .start _) _) _) _
  have whole : Run opening.server (rounds ++ [late]) _ := .round run _
  have live : waited.registry.get? ⟨1⟩ = some session := by decide +kernel
  have timedOut
      : late.step.effects
        = [.disconnected session .warn .heartbeatTimeout, .raised .clientDisconnected] := by
    decide +kernel
  have sign := (silence_exact run (by decide)).1 ⟨1⟩ session live
  have silent := ((silence_exact whole (by decide)).2 rounds late [] rfl).2.2 session .warn
    (by simp [timedOut])
  exact ⟨live, sign, timedOut, by decide +kernel, silent.2⟩

end Server

end Handheld
