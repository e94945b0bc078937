import Handheld.Proofs.Session.Runs

/-! The changes that calls can make to a session. Reading hears the peer, handles packets and
refills the buffer; writing shortens what is pending and connects the session at its end. Main
statements: what these changes keep is kept by a whole call.
-/

namespace Handheld

namespace Session

-----------------------------------------------------------------------------------------
-- Reading
-----------------------------------------------------------------------------------------

/-- A handled packet opens the handshake, asks for a polling interval or changes nothing. -/
theorem handle_cases {session next : Session} {packet : Wire.Packet}
    (handled : session.handle packet = .ok next)
    : next = session
      ∨ (∃ opening channel,
          packet = .handshake opening
          ∧ session.phase = .waitingForHandshake
          ∧ session.peer.withPort? opening.port = some channel
          ∧ next = { session with
              dataChannel := some channel
              phase := .waitingForServerConfirm })
      ∨ ∃ requested,
          packet = .config requested
          ∧ session.phase ≠ .waitingForHandshake
          ∧ next = session.applyPollingInterval requested := by
  simp only [handle] at handled
  split at handled
  next opening phase =>
    split at handled
    · cases handled
    · next channel found =>
        cases handled
        exact .inr (.inl ⟨_, channel, rfl, phase, found, rfl⟩)
  next phase =>
    cases handled
    exact .inr (.inr ⟨_, rfl, by simp [phase], rfl⟩)
  next phase =>
    cases handled
    exact .inr (.inr ⟨_, rfl, by simp [phase], rfl⟩)
  next =>
    cases handled
    exact .inl rfl

/-- A property of sessions that every change made by reading keeps. -/
structure KeptByReading (Kept : Session → Prop) : Prop where
  heard : ∀ {session : Session} (now : Moment), Kept session → Kept (session.heard now)
  handle
    : ∀ {session next : Session} {packet : Wire.Packet},
        session.handle packet = .ok next → Kept session → Kept next
  withBuffer
    : ∀ {session : Session} (bytes : Bytes), Kept session → Kept (session.withBuffer bytes)

namespace KeptByReading

variable {Kept : Session → Prop}

/-- Items keep what their single changes keep, by induction on the items. -/
theorem applyItems (kept : KeptByReading Kept) (now : Moment) (items : List Wire.Item)
    {session : Session} (holds : Kept session)
    : Kept (applyItems now items session).2 := by
  induction items generalizing session with
  | nil => exact holds
  | cons item rest ih =>
      cases item with
      | heartbeat => exact ih (kept.heard now holds)
      | packet sent =>
          simp only [Session.applyItems]
          cases handled : (session.heard now).handle sent with
          | error violation => exact kept.heard now holds
          | ok next => exact ih (kept.handle handled (kept.heard now holds))

theorem ingest (kept : KeptByReading Kept) {session : Session} (holds : Kept session)
    (bytes : Bytes) (now : Moment)
    : Kept (session.ingest bytes now).2 := by
  by_cases room : session.buffer.length + bytes.length ≤ bufferLimit
  · rw [ingest_eq_settle now room]
    have applied := kept.applyItems now (Wire.segment (session.buffer ++ bytes)).items holds
    rcases settle_cases session now (Wire.segment (session.buffer ++ bytes))
      with ⟨_, _, applies, settled⟩ | ⟨_, _, _, applies, settled⟩ | ⟨_, _, applies, settled⟩
    all_goals
      rw [applies] at applied
      rw [settled]
      exact kept.withBuffer _ applied
  · rw [Session.ingest, if_pos (Nat.not_le.mp room)]
    exact kept.withBuffer [] holds

/-- A round of reading keeps what its single changes keep, by induction on the answers of the
stream.
-/
theorem receiveFrom (kept : KeptByReading Kept) (now : Moment) (total : Nat)
    (reads : List ReadOutcome) {session : Session} (holds : Kept session)
    : Kept (receiveFrom now total reads session).session := by
  induction reads generalizing total session with
  | nil => exact holds
  | cons answer rest ih =>
      cases answer with
      | wouldBlock => exact holds
      | interrupted => exact ih total holds
      | failed kind => exact holds
      | bytes received =>
          cases received with
          | nil => exact holds
          | cons byte more =>
              have next := kept.ingest holds (byte :: more) now
              simp only [Session.receiveFrom]
              split
              next taken =>
                rw [taken] at next
                exact ih _ next
              next taken =>
                rw [taken] at next
                exact next

theorem receive (kept : KeptByReading Kept) {session : Session} (holds : Kept session)
    (reads : List ReadOutcome) (now : Moment)
    : Kept (session.receive reads now).session :=
  kept.receiveFrom now 0 reads holds

end KeptByReading

-----------------------------------------------------------------------------------------
-- Writing
-----------------------------------------------------------------------------------------

/-- How an attempt to write `pending` ends, with `written` out before it: the stream stops with
bytes left, or all are sent and the session is connected.
-/
inductive Flushed (session : Session) (written pending : Bytes) : Confirmation → Prop
  | stopped {result sent left unused} (parts : sent ++ left = pending) (some : left ≠ [])
    (unfinished : result ≠ .ok true)
    : Flushed session written pending
        ⟨result, { session with outbound := left }, written ++ sent, unused⟩
  | finished {unused}
    : Flushed session written pending
        ⟨.ok true, { session with phase := .connected, outbound := [] }, written ++ pending,
          unused⟩

/-- An attempt that stops at once has sent nothing. -/
theorem Flushed.unsent {session : Session} (written : Bytes) {result : Except SessionFailure Bool}
    (unused : List WriteOutcome) (some : session.outbound ≠ []) (unfinished : result ≠ .ok true)
    : Flushed session written session.outbound ⟨result, session, written, unused⟩ := by
  have stopped
      : Flushed session written session.outbound ⟨result, session, written ++ [], unused⟩ :=
    .stopped (List.nil_append _) some unfinished
  rw [List.append_nil] at stopped
  exact stopped

/-- An attempt that has nothing to send is finished. -/
theorem Flushed.sent {session : Session} (written : Bytes) (unused : List WriteOutcome)
    (none : session.outbound = [])
    : Flushed session written session.outbound
        ⟨.ok true, { session with phase := .connected, outbound := [] }, written, unused⟩ := by
  rw [none]
  have finished
      : Flushed session written []
          ⟨.ok true, { session with phase := .connected, outbound := [] }, written ++ [],
            unused⟩ :=
    .finished
  rw [List.append_nil] at finished
  exact finished

/-- Bytes that the stream took belong to the whole attempt. -/
theorem Flushed.continue {session : Session} {written taken left : Bytes}
    {ended : Confirmation}
    (flushed : Flushed { session with outbound := left } (written ++ taken) left ended)
    : Flushed session written (taken ++ left) ended := by
  cases flushed with
  | stopped parts some unfinished =>
      rw [List.append_assoc]
      exact .stopped (by rw [List.append_assoc, parts]) some unfinished
  | finished =>
      rw [List.append_assoc]
      exact .finished

/-- Writing with nothing pending has succeeded at once. -/
theorem flush_of_nil {session : Session} (none : session.outbound = []) (written : Bytes)
    (writes : List WriteOutcome)
    : flush written writes session
      = ⟨.ok true, { session with phase := .connected, outbound := [] }, written, writes⟩ := by
  rw [flush.eq_def]
  dsimp only
  rw [if_pos (List.isEmpty_iff.mpr none), ← none]

/-- Writing sends what is pending from the front, by induction on the answers of the stream. -/
theorem flush_flushed (written : Bytes) (writes : List WriteOutcome) (session : Session)
    : Flushed session written session.outbound (flush written writes session) := by
  induction writes generalizing written session with
  | nil =>
      by_cases none : session.outbound = []
      · rw [flush_of_nil none]
        exact .sent written [] none
      · rw [flush.eq_def]
        dsimp only
        rw [if_neg (fun empty => none (List.isEmpty_iff.mp empty))]
        exact .unsent written [] none (by simp)
  | cons answer rest ih =>
      by_cases none : session.outbound = []
      · rw [flush_of_nil none]
        exact .sent written (answer :: rest) none
      rw [flush.eq_def]
      dsimp only
      rw [if_neg (fun empty => none (List.isEmpty_iff.mp empty))]
      cases answer with
      | wouldBlock => exact .unsent written rest none (by simp)
      | interrupted => exact ih written session
      | failed kind => exact .unsent written rest none (by simp)
      | accepted count =>
          dsimp only
          split
          · exact .unsent written rest none (by simp)
          · have whole := (ih (written ++ session.outbound.take count)
              { session with outbound := session.outbound.drop count }).continue
            rwa [List.take_append_drop] at whole

/-- What is written first when a handshake is confirmed: the rest of an earlier attempt, or
the whole answer.
-/
def pending (session : Session) (hello : Hello) : Bytes :=
  if session.outbound.isEmpty then hello.packet.encode else session.outbound

/-- An attempt to confirm that is not in turn does nothing. -/
theorem confirm_of_ne {session : Session} (early : session.phase ≠ .waitingForServerConfirm)
    (hello : Hello) (writes : List WriteOutcome)
    : session.confirm hello writes = ⟨.ok false, session, [], writes⟩ := by
  rw [confirm, if_neg early]

/-- An attempt to confirm in turn sends what is pending. -/
theorem confirm_flushed {session : Session} (turn : session.phase = .waitingForServerConfirm)
    (hello : Hello) (writes : List WriteOutcome)
    : Flushed session [] (session.pending hello) (session.confirm hello writes) := by
  rw [confirm, if_pos turn]
  have flushed
      : Flushed { session with outbound := session.pending hello } ([] ++ [])
          (session.pending hello) _ :=
    flush_flushed [] writes { session with outbound := session.pending hello }
  exact flushed.continue

/-- An attempt to confirm touches the phase and the pending bytes alone. -/
theorem confirm_session_eq (session : Session) (hello : Hello) (writes : List WriteOutcome)
    : ∃ phase outbound,
        (session.confirm hello writes).session = { session with phase, outbound } := by
  by_cases turn : session.phase = .waitingForServerConfirm
  · have flushed := confirm_flushed turn hello writes
    generalize session.confirm hello writes = ended at flushed ⊢
    cases flushed with
    | stopped _ _ _ => exact ⟨_, _, rfl⟩
    | finished => exact ⟨_, _, rfl⟩
  · rw [confirm_of_ne turn]
    exact ⟨session.phase, session.outbound, rfl⟩

end Session

end Handheld
