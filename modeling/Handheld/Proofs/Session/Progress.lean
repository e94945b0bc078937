import Handheld.Proofs.Session.Changes

/-! The progress of a session. Its phase, data channel, polling interval and pending bytes
agree with one another after every call, and the phase never goes back. Main statement: this
holds of every session that calls can reach, and over any calls that follow.
-/

namespace Handheld

/-- A peer at another port has the same IP. -/
theorem Peer.withPort?_eq_some {peer channel : Peer} {port : UInt16}
    (found : peer.withPort? port = some channel)
    : channel.ip = peer.ip ∧ channel.port = port := by
  simp only [withPort?, new?] at found
  split at found
  · cases found
    exact ⟨peer.canonical, rfl⟩
  · cases found

/-- The number of steps from the first phase to this one. -/
def Phase.rank : Phase → Nat
  | waitingForHandshake => 0
  | waitingForServerConfirm => 1
  | connected => 2

namespace Session

/-- The state of a session after calls, be they successful or failed. -/
def afterAll (session : Session) (calls : List Call) : Session := calls.foldl after session

/-- The parts of a session agree with its phase. -/
structure Coherent (session : Session) : Prop where
  channel_isSome_iff : session.dataChannel.isSome ↔ session.phase ≠ .waitingForHandshake
  /-- Telemetry goes to the peer's own address. -/
  channel_at_peer
    : ∀ channel, session.dataChannel = some channel
        → channel.ip = session.peer.ip.canonical ∧ channel.port ≠ 0
  polling_ge : leastPollingMicros ≤ session.pollingMicros
  outbound_eq_nil : session.phase ≠ .waitingForServerConfirm → session.outbound = []

/-- No two telemetry packets are closer than six milliseconds. -/
theorem Coherent.pollingInterval_ge {session : Session} (coherent : session.Coherent)
    : Span.ofMicros 6000 ≤ session.pollingInterval :=
  Nat.mul_le_mul_left 1000 (UInt32.le_iff_toNat_le.mp coherent.polling_ge)

/-- A session has come from an earlier state of itself: its handshake has not gone back, and a
data channel has stayed.
-/
structure Leads (earlier later : Session) : Prop where
  id_eq : later.id = earlier.id
  peer_eq : later.peer = earlier.peer
  rank_le : earlier.phase.rank ≤ later.phase.rank
  channel_eq
    : ∀ channel, earlier.dataChannel = some channel → later.dataChannel = some channel

theorem Leads.refl (session : Session) : Leads session session :=
  ⟨rfl, rfl, Nat.le_refl _, fun _ found => found⟩

theorem Leads.trans {first second third : Session} (left : Leads first second)
    (right : Leads second third)
    : Leads first third where
  id_eq := right.id_eq.trans left.id_eq
  peer_eq := right.peer_eq.trans left.peer_eq
  rank_le := Nat.le_trans left.rank_le right.rank_le
  channel_eq channel found := right.channel_eq channel (left.channel_eq channel found)

/-- The session right after its admission is coherent. -/
theorem coherent_start (id : SessionId) (peer : Peer) (now : Moment)
    : (start id peer now).Coherent where
  channel_isSome_iff := by simp [start]
  channel_at_peer channel found := by simp [start] at found
  polling_ge := UInt32.le_refl _
  outbound_eq_nil _ := rfl

-----------------------------------------------------------------------------------------
-- One call
-----------------------------------------------------------------------------------------

/-- What one call does: the session stays coherent and moves by at most one phase. -/
structure Moves (earlier later : Session) : Prop extends Leads earlier later where
  coherent : later.Coherent
  rank_le_succ : later.phase.rank ≤ earlier.phase.rank + 1

/-- What reading does: only a session without a handshake moves, and by one phase. -/
structure MovesReading (earlier later : Session) : Prop extends Leads earlier later where
  coherent : later.Coherent
  rank_le_max : later.phase.rank ≤ max earlier.phase.rank 1

theorem MovesReading.moves {earlier later : Session} (moves : MovesReading earlier later)
    : Moves earlier later :=
  { moves with rank_le_succ := Nat.le_trans moves.rank_le_max (by omega) }

theorem MovesReading.refl {session : Session} (coherent : session.Coherent)
    : MovesReading session session :=
  { Leads.refl session with coherent, rank_le_max := Nat.le_max_left _ _ }

theorem MovesReading.trans {first second third : Session} (left : MovesReading first second)
    (right : MovesReading second third)
    : MovesReading first third :=
  { left.toLeads.trans right.toLeads with
    coherent := right.coherent
    rank_le_max := by
      have := left.rank_le_max
      have := right.rank_le_max
      omega }

theorem applyPollingInterval_moves {session : Session} (coherent : session.Coherent)
    (requested : UInt32)
    : MovesReading session (session.applyPollingInterval requested) := by
  have stays : Leads session (session.applyPollingInterval requested) := by
    rw [applyPollingInterval]
    split <;> exact ⟨rfl, rfl, Nat.le_refl _, fun _ found => found⟩
  refine { stays with coherent := ?_, rank_le_max := ?_ }
  · rw [applyPollingInterval]
    split
    next enough => exact { coherent with polling_ge := enough }
    next => exact coherent
  · rw [applyPollingInterval]
    split <;> exact Nat.le_max_left _ _

/-- A handled packet moves a coherent session, by cases on its effect. -/
theorem handle_moves {session next : Session} {packet : Wire.Packet}
    (coherent : session.Coherent) (handled : session.handle packet = .ok next)
    : MovesReading session next := by
  rcases handle_cases handled
    with rfl | ⟨opening, channel, rfl, early, found, rfl⟩ | ⟨requested, rfl, _, rfl⟩
  · exact .refl coherent
  · -- Before its handshake a coherent session has no channel that could be lost.
    have none : ¬session.dataChannel.isSome :=
      fun some => coherent.channel_isSome_iff.mp some early
    have silent : session.outbound = [] := coherent.outbound_eq_nil (by simp [early])
    have port := Peer.withPort?_eq_some found
    refine {
      id_eq := rfl
      peer_eq := rfl
      rank_le := by simp [early, Phase.rank]
      channel_eq := fun other same => absurd (by simp [same]) none
      rank_le_max := Nat.le_max_right _ _
      coherent := {
        channel_isSome_iff := by simp
        channel_at_peer := ?_
        polling_ge := coherent.polling_ge
        outbound_eq_nil := fun _ => silent
      }
    }
    intro other same
    have : channel = other := Option.some.inj same
    subst this
    exact ⟨port.1.trans session.peer.canonical.symm, channel.port_ne_zero⟩
  · exact applyPollingInterval_moves coherent requested

/-- A change of what the phase does not depend on moves a coherent session nowhere. -/
theorem Coherent.stays {session : Session} (coherent : session.Coherent) (buffer : Bytes)
    (lastHeartbeat : Moment) (lastTelemetry : Option Moment)
    : MovesReading session { session with buffer, lastHeartbeat, lastTelemetry } where
  id_eq := rfl
  peer_eq := rfl
  rank_le := Nat.le_refl _
  channel_eq _ found := found
  coherent := { coherent with }
  rank_le_max := Nat.le_max_left _ _

/-- Each change made by reading moves a session that reading has moved before. -/
theorem MovesReading.keptByReading {session : Session}
    : KeptByReading (MovesReading session) where
  heard now moves := moves.trans (moves.coherent.stays _ now _)
  withBuffer bytes moves := moves.trans (moves.coherent.stays bytes _ _)
  handle handled moves := moves.trans (handle_moves moves.coherent handled)

/-- Confirming moves a coherent session at most to the last phase, by cases on how the
attempt to write ends.
-/
theorem confirm_moves {session : Session} (coherent : session.Coherent) (hello : Hello)
    (writes : List WriteOutcome)
    : Moves session (session.confirm hello writes).session := by
  by_cases turn : session.phase = .waitingForServerConfirm
  · have flushed := confirm_flushed turn hello writes
    generalize session.confirm hello writes = ended at flushed ⊢
    cases flushed with
    | stopped _ _ _ =>
        exact {
          Leads.refl session with
          rank_le_succ := Nat.le_succ _
          coherent := { coherent with outbound_eq_nil := fun early => absurd turn early }
        }
    | finished =>
        have opened : session.dataChannel.isSome :=
          coherent.channel_isSome_iff.mpr (by simp [turn])
        exact {
          id_eq := rfl
          peer_eq := rfl
          rank_le := by simp [turn, Phase.rank]
          channel_eq := fun _ found => found
          rank_le_succ := by simp [turn, Phase.rank]
          coherent := {
            coherent with
            channel_isSome_iff := by simp [opened]
            outbound_eq_nil := fun _ => rfl
          }
        }
  · rw [confirm_of_ne turn]
    exact (MovesReading.refl coherent).moves

/-- Every call moves a coherent session, whatever its stream answers. -/
theorem after_moves {session : Session} (coherent : session.Coherent) (call : Call)
    : Moves session (session.after call) := by
  have here := MovesReading.refl coherent
  cases call with
  | ingest bytes now => exact (MovesReading.keptByReading.ingest here bytes now).moves
  | receive reads now => exact (MovesReading.keptByReading.receive here reads now).moves
  | confirm hello writes => exact confirm_moves coherent hello writes
  | applyPollingInterval requested => exact (applyPollingInterval_moves coherent requested).moves
  | markTelemetrySent now => exact (coherent.stays _ _ (some now)).moves

-----------------------------------------------------------------------------------------
-- Runs
-----------------------------------------------------------------------------------------

/-- Calls lead from a session that can be reached to another, by induction on the calls. -/
theorem Reachable.afterAll {session : Session} (reachable : session.Reachable)
    (calls : List Call)
    : (session.afterAll calls).Reachable := by
  induction calls generalizing session with
  | nil => exact reachable
  | cons call rest ih => exact ih (reachable.after call)

/-- Every session that calls can reach is coherent, by induction on the calls. -/
theorem Reachable.coherent {session : Session} (reachable : session.Reachable)
    : session.Coherent := by
  induction reachable with
  | start id peer now => exact coherent_start id peer now
  | after _ call ih => exact (after_moves ih call).coherent

/-- A session has come from every earlier state of itself, by induction on the calls between. -/
theorem Coherent.afterAll {session : Session} (coherent : session.Coherent)
    (calls : List Call)
    : Leads session (session.afterAll calls) ∧ (session.afterAll calls).Coherent := by
  induction calls generalizing session with
  | nil => exact ⟨.refl session, coherent⟩
  | cons call rest ih =>
      have moves := after_moves coherent call
      obtain ⟨leads, kept⟩ := ih moves.coherent
      exact ⟨moves.toLeads.trans leads, kept⟩

/-- In every session that calls can reach, and after any further calls, the parts of the
session agree with its phase, the phase has not gone back, and a data channel has stayed. One
call moves the session by at most one phase.
-/
theorem phase_moves_forward {session : Session} (reachable : session.Reachable)
    (calls : List Call)
    : (session.afterAll calls).Coherent
      ∧ Leads session (session.afterAll calls)
      ∧ ∀ call, (session.after call).phase.rank ≤ session.phase.rank + 1 := by
  have coherent := reachable.coherent
  obtain ⟨leads, kept⟩ := coherent.afterAll calls
  exact ⟨kept, leads, fun call => (after_moves coherent call).rank_le_succ⟩

/-- A handshake is confirmed in two pieces, and another one is taken in between. -/
theorem phase_moves_forward_pieces
    : let peer : Peer := ⟨.v4 ⟨192, 168, 1, 20⟩, 41000, rfl, rfl, by decide⟩
      let session := (start ⟨1⟩ peer 0).after
        (.ingest [8, 0, 0, 0, 1, 0, 0x88, 0x13, 0, 0, 0, 0] 3)
      let calls : List Call :=
        [.confirm ⟨5000, 25⟩ [.accepted 7, .wouldBlock],
          .ingest [8, 0, 0, 0, 1, 0, 0, 0, 0, 0, 0, 0] 4,
          .confirm ⟨5001, 25⟩ [.interrupted, .accepted 9]]
      (session.afterAll calls).Coherent
      ∧ Leads session (session.afterAll calls)
      ∧ ∀ call, (session.after call).phase.rank ≤ session.phase.rank + 1 :=
  phase_moves_forward (.after (.start _ _ _) _) _

end Session

end Handheld
