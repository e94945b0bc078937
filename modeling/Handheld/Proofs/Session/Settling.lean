import Handheld.Proofs.Wire.Streams
import Handheld.Session.Intake

/-! What cut bytes do to a session: items act one after the other, the first violation or fault
fails the session, and the bytes behind the last item wait in the buffer. Main statements:
settling a longer stream is settling its parts in turn, and it never looks at the old buffer.
-/

namespace Handheld

namespace Session

/-- A session with other bytes waiting. -/
def withBuffer (session : Session) (bytes : Bytes) : Session := { session with buffer := bytes }

/-- What a cut of the waiting and the new bytes does to a session. -/
def settle (session : Session) (now : Moment) (segments : Wire.Segments)
    : Except SessionFailure Unit × Session :=
  match applyItems now segments.items session with
  | (some violation, applied) => (.error (.violation violation), applied.purge)
  | (none, applied) =>
      match segments.fault with
      | some reason => (.error (.violation (.malformed reason)), applied.purge)
      | none => (.ok (), applied.withBuffer segments.rest)

/-- Bytes that do not overflow the buffer are settled together with those that waited. -/
theorem ingest_eq_settle {session : Session} {bytes : Bytes} (now : Moment)
    (room : session.buffer.length + bytes.length ≤ bufferLimit)
    : session.ingest bytes now
      = session.settle now (Wire.segment (session.buffer ++ bytes)) := by
  simp only [ingest, if_neg (Nat.not_lt.mpr room), settle]
  cases applyItems now (Wire.segment (session.buffer ++ bytes)).items session with
  | mk violation applied =>
      cases violation with
      | some violation => rfl
      | none => cases (Wire.segment (session.buffer ++ bytes)).fault <;> rfl

/-- The three ways in which settling ends: at a violation, at the fault behind the items, or
with bytes that wait.
-/
theorem settle_cases (session : Session) (now : Moment) (segments : Wire.Segments)
    : (∃ violation applied,
        applyItems now segments.items session = (some violation, applied)
        ∧ session.settle now segments = (.error (.violation violation), applied.purge))
      ∨ (∃ reason applied,
          segments.fault = some reason
          ∧ applyItems now segments.items session = (none, applied)
          ∧ session.settle now segments
            = (.error (.violation (.malformed reason)), applied.purge))
      ∨ ∃ applied,
          segments.fault = none
          ∧ applyItems now segments.items session = (none, applied)
          ∧ session.settle now segments = (.ok (), applied.withBuffer segments.rest) := by
  rcases applies : applyItems now segments.items session with ⟨violation | violation, applied⟩
  · cases fault : segments.fault with
    | none => exact .inr (.inr ⟨applied, rfl, rfl, by simp only [settle, applies, fault]⟩)
    | some reason =>
        exact .inr (.inl ⟨reason, applied, rfl, rfl, by simp only [settle, applies, fault]⟩)
  · exact .inl ⟨violation, applied, rfl, by simp only [settle, applies]⟩

-----------------------------------------------------------------------------------------
-- Items
-----------------------------------------------------------------------------------------

/-- A packet has the same effect whatever bytes wait. -/
theorem handle_withBuffer (session : Session) (bytes : Bytes) (packet : Wire.Packet)
    : (session.withBuffer bytes).handle packet
      = (session.handle packet).map (fun next => next.withBuffer bytes) := by
  obtain ⟨id, peer, phase, buffer, outbound, heartbeat, telemetry, polling, channel⟩ := session
  cases packet with
  | handshake opening =>
      cases phase with
      | waitingForHandshake =>
          simp only [handle, withBuffer]
          cases peer.withPort? opening.port <;> rfl
      | waitingForServerConfirm => rfl
      | connected => rfl
  | config requested =>
      cases phase <;> simp only [handle, withBuffer, applyPollingInterval, Except.map]
      · split <;> rfl
      · split <;> rfl
  | telemetry sent => cases phase <;> rfl

/-- Items have the same effect whatever bytes wait, by induction on the items. -/
theorem applyItems_withBuffer (now : Moment) (items : List Wire.Item) (session : Session)
    (bytes : Bytes)
    : applyItems now items (session.withBuffer bytes)
      = ((applyItems now items session).1,
        (applyItems now items session).2.withBuffer bytes) := by
  induction items generalizing session with
  | nil => rfl
  | cons item rest ih =>
      cases item with
      | heartbeat => exact ih (session.heard now)
      | packet sent =>
          have handled := handle_withBuffer (session.heard now) bytes sent
          simp only [applyItems]
          rw [show (session.withBuffer bytes).heard now
            = (session.heard now).withBuffer bytes from rfl, handled]
          cases (session.heard now).handle sent with
          | error violation => rfl
          | ok next => exact ih next

/-- Items act in order until one fails the session, by induction on the first ones. -/
theorem applyItems_append (now : Moment) (front back : List Wire.Item) (session : Session)
    : applyItems now (front ++ back) session
      = match applyItems now front session with
        | (none, applied) => applyItems now back applied
        | (some violation, applied) => (some violation, applied) := by
  induction front generalizing session with
  | nil => rfl
  | cons item rest ih =>
      cases item with
      | heartbeat => exact ih (session.heard now)
      | packet sent =>
          simp only [List.cons_append, applyItems]
          cases (session.heard now).handle sent with
          | error violation => rfl
          | ok next => exact ih next

-----------------------------------------------------------------------------------------
-- Settling
-----------------------------------------------------------------------------------------

/-- Settling replaces the buffer, so what waited in it before plays no part. -/
theorem settle_withBuffer (session : Session) (bytes : Bytes) (now : Moment)
    (segments : Wire.Segments)
    : (session.withBuffer bytes).settle now segments = session.settle now segments := by
  simp only [settle, applyItems_withBuffer]
  cases applyItems now segments.items session with
  | mk violation applied =>
      cases violation with
      | some violation => rfl
      | none => cases segments.fault <;> rfl

/-- A stream that is continued is settled in two steps, the second from what waits after the
first; a failure ends it.
-/
theorem settle_extend (session : Session) (now : Moment) (segments : Wire.Segments)
    (later : Bytes)
    : session.settle now (segments.extend later)
      = match session.settle now segments with
        | (.ok (), next) => next.settle now (Wire.segment (next.buffer ++ later))
        | (.error failure, next) => (.error failure, next) := by
  obtain ⟨items, rest, fault⟩ := segments
  cases fault with
  | some reason =>
      simp only [settle, Wire.Segments.extend]
      cases applyItems now items session with
      | mk violation applied => cases violation <;> rfl
  | none =>
      simp only [settle, Wire.Segments.extend, applyItems_append]
      cases applyItems now items session with
      | mk violation applied =>
          cases violation with
          | some violation => rfl
          -- The second step starts from a buffer that the first one has already filled.
          | none => exact (settle_withBuffer applied rest now _).symm

/-- After settling, the bytes that wait are none or the beginning of an item. -/
theorem decode_buffer_settle (session : Session) (now : Moment) (received : Bytes)
    : Wire.decode (session.settle now (Wire.segment received)).2.buffer = .incomplete := by
  rcases settle_cases session now (Wire.segment received)
    with ⟨_, _, _, settled⟩ | ⟨_, _, _, _, settled⟩ | ⟨_, clean, _, settled⟩
  · rw [settled]
    exact Wire.decode_nil
  · rw [settled]
    exact Wire.decode_nil
  · have left := Wire.decode_rest received
    rw [clean] at left
    rw [settled]
    exact left

-----------------------------------------------------------------------------------------
-- What reading leaves alone
-----------------------------------------------------------------------------------------

/-- Two states of one session that differ at most in what reading changes. -/
structure SameWriting (session next : Session) : Prop where
  id_eq : next.id = session.id
  peer_eq : next.peer = session.peer
  outbound_eq : next.outbound = session.outbound
  lastTelemetry_eq : next.lastTelemetry = session.lastTelemetry

theorem SameWriting.refl (session : Session) : SameWriting session session :=
  ⟨rfl, rfl, rfl, rfl⟩

theorem SameWriting.trans {first second third : Session} (left : SameWriting first second)
    (right : SameWriting second third)
    : SameWriting first third where
  id_eq := right.id_eq.trans left.id_eq
  peer_eq := right.peer_eq.trans left.peer_eq
  outbound_eq := right.outbound_eq.trans left.outbound_eq
  lastTelemetry_eq := right.lastTelemetry_eq.trans left.lastTelemetry_eq

theorem handle_sameWriting {session next : Session} {packet : Wire.Packet}
    (handled : session.handle packet = .ok next)
    : SameWriting session next := by
  simp only [handle] at handled
  split at handled
  · split at handled
    · cases handled
    · cases handled
      exact ⟨rfl, rfl, rfl, rfl⟩
  · cases handled
    simp only [applyPollingInterval]
    split <;> exact ⟨rfl, rfl, rfl, rfl⟩
  · cases handled
    simp only [applyPollingInterval]
    split <;> exact ⟨rfl, rfl, rfl, rfl⟩
  · cases handled
    exact .refl session

/-- Items leave the writing side alone, by induction on the items. -/
theorem applyItems_sameWriting (now : Moment) (items : List Wire.Item) (session : Session)
    : SameWriting session (applyItems now items session).2 := by
  induction items generalizing session with
  | nil => exact .refl session
  | cons item rest ih =>
      have heard : SameWriting session (session.heard now) := ⟨rfl, rfl, rfl, rfl⟩
      cases item with
      | heartbeat => exact heard.trans (ih (session.heard now))
      | packet sent =>
          simp only [applyItems]
          cases handled : (session.heard now).handle sent with
          | error violation => exact heard
          | ok next => exact heard.trans ((handle_sameWriting handled).trans (ih next))

theorem settle_sameWriting (session : Session) (now : Moment) (segments : Wire.Segments)
    : SameWriting session (session.settle now segments).2 := by
  have same := applyItems_sameWriting now segments.items session
  rcases settle_cases session now segments
    with ⟨_, _, applies, settled⟩ | ⟨_, _, _, applies, settled⟩ | ⟨_, _, applies, settled⟩
  all_goals
    rw [applies] at same
    rw [settled]
    exact same.trans ⟨rfl, rfl, rfl, rfl⟩

end Session

end Handheld
