import Handheld.Proofs.Session.Settling
import Handheld.Session.Confirmation

/-! Sessions that calls can reach. A session starts at its admission, and any calls follow,
whatever the stream answers and whether they succeed or fail. Main statement: the bytes that
wait never start with an item, so they are fewer than those of the longest frame.
-/

namespace Handheld

namespace Session

/-- One call on a session, with the answers of its stream. -/
inductive Call
  | ingest (bytes : Bytes) (now : Moment)
  | receive (reads : List ReadOutcome) (now : Moment)
  | confirm (hello : Hello) (writes : List WriteOutcome)
  | applyPollingInterval (requested : UInt32)
  | markTelemetrySent (now : Moment)

/-- The session after a call, be it successful or failed. -/
def after (session : Session) : Call → Session
  | .ingest bytes now => (session.ingest bytes now).2
  | .receive reads now => (session.receive reads now).session
  | .confirm hello writes => (session.confirm hello writes).session
  | .applyPollingInterval requested => session.applyPollingInterval requested
  | .markTelemetrySent now => session.markTelemetrySent now

/-- The states that a session can come to. -/
inductive Reachable : Session → Prop
  | start (id : SessionId) (peer : Peer) (now : Moment) : Reachable (start id peer now)
  | after {session} (reachable : Reachable session) (call : Call)
    : Reachable (session.after call)

/-- The waiting bytes have been decoded as far as possible: they start with no item and may
still become one.
-/
def Drained (session : Session) : Prop := Wire.decode session.buffer = .incomplete

theorem Drained.length_le {session : Session} (drained : session.Drained)
    : session.buffer.length ≤ 148 :=
  Wire.length_le_of_incomplete drained

/-- Taking bytes in leaves a session drained, whatever it was before. -/
theorem ingest_drained (session : Session) (bytes : Bytes) (now : Moment)
    : (session.ingest bytes now).2.Drained := by
  by_cases room : session.buffer.length + bytes.length ≤ bufferLimit
  · rw [ingest_eq_settle now room]
    exact decode_buffer_settle session now _
  · rw [ingest, if_pos (Nat.not_le.mp room)]
    exact Wire.decode_nil

/-- A round of reading keeps a session drained, by induction on the answers of the stream. -/
theorem receiveFrom_drained (now : Moment) (total : Nat) (reads : List ReadOutcome)
    {session : Session} (drained : session.Drained)
    : (receiveFrom now total reads session).session.Drained := by
  induction reads generalizing total session with
  | nil => exact drained
  | cons answer rest ih =>
      cases answer with
      | wouldBlock => exact drained
      | interrupted => exact ih total drained
      | failed kind => exact drained
      | bytes received =>
          cases received with
          | nil => exact drained
          | cons byte more =>
              have next := ingest_drained session (byte :: more) now
              simp only [receiveFrom]
              split
              next taken =>
                rw [taken] at next
                exact ih _ next
              next taken =>
                rw [taken] at next
                exact next

/-- Writing leaves the waiting bytes alone, by induction on the answers of the stream. -/
theorem flush_buffer (written : Bytes) (writes : List WriteOutcome) (session : Session)
    : (flush written writes session).session.buffer = session.buffer := by
  induction writes generalizing written session with
  | nil =>
      simp only [flush]
      split <;> rfl
  | cons answer rest ih =>
      rw [flush.eq_def]
      dsimp only
      split
      · rfl
      cases answer with
      | wouldBlock => rfl
      | interrupted => exact ih written session
      | failed kind => rfl
      | accepted count =>
          dsimp only
          split
          · rfl
          · exact ih _ _

theorem confirm_buffer (session : Session) (hello : Hello) (writes : List WriteOutcome)
    : (session.confirm hello writes).session.buffer = session.buffer := by
  simp only [confirm]
  split
  · exact flush_buffer [] writes _
  · rfl

/-- Every call keeps a session drained. -/
theorem Drained.after {session : Session} (drained : session.Drained) (call : Call)
    : (session.after call).Drained := by
  cases call with
  | ingest bytes now => exact ingest_drained session bytes now
  | receive reads now => exact receiveFrom_drained now 0 reads drained
  | confirm hello writes =>
      rw [Drained, Session.after, confirm_buffer]
      exact drained
  | applyPollingInterval requested =>
      rw [Session.after, applyPollingInterval]
      split <;> exact drained
  | markTelemetrySent now => exact drained

/-- Every session that calls can reach is drained, by induction on the calls. -/
theorem Reachable.drained {session : Session} (reachable : session.Reachable)
    : session.Drained := by
  induction reachable with
  | start id peer now => exact Wire.decode_nil
  | after _ call ih => exact ih.after call

end Session

end Handheld
