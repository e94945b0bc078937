import Mathlib.Control.Monad.Basic
import Handheld.Proofs.Session.Hearing

/-! Heartbeats between other bytes. A heartbeat is cut off wherever an item may start and does
nothing but be heard, so that what follows it finds the session as it was. Main statement:
heartbeats that are put in behind a whole item change when the session was last heard, and
nothing else.
-/

namespace Handheld

namespace Session

/-- A session that has been heard takes items as before, by induction on the items. -/
theorem applyItems_heard (now : Moment) (items : List Wire.Item) (session : Session)
    : applyItems now items (session.heard now)
      = ((applyItems now items session).1, (applyItems now items session).2.heard now) := by
  induction items generalizing session with
  | nil => rfl
  | cons item rest ih =>
      cases item with
      | heartbeat => exact ih (session.heard now)
      | packet sent =>
          simp only [applyItems]
          rw [show (session.heard now).heard now = session.heard now from rfl]
          cases handled : (session.heard now).handle sent with
          | error violation => rfl
          | ok next =>
              have heard : next.heard now = next := by
                rw [heard, show now = next.lastHeartbeat from (handle_lastHeartbeat handled).symm]
              have later := ih next
              rwa [heard] at later

theorem settle_heard (session : Session) (now : Moment) (segments : Wire.Segments)
    : (session.heard now).settle now segments
      = ((session.settle now segments).1, (session.settle now segments).2.heard now) := by
  simp only [settle, applyItems_heard]
  rcases applyItems now segments.items session with ⟨violation | violation, applied⟩
  · cases segments.fault <;> rfl
  · rfl

/-- Bytes that leave nothing waiting are settled before those that follow them. -/
theorem settle_append {session next : Session} {now : Moment} {front : Bytes}
    (settled : session.settle now (Wire.segment front) = (.ok (), next))
    (empty : next.buffer = []) (back : Bytes)
    : session.settle now (Wire.segment (front ++ back))
      = next.settle now (Wire.segment back) := by
  rw [Wire.segment_append, settle_extend, settled]
  dsimp only
  rw [empty, List.nil_append]

/-- A number of heartbeats in a row. -/
def heartbeats (count : Nat) : Bytes := (List.replicate count Wire.heartbeat).flatten

/-- Heartbeats in front are heard and nothing else, by induction on their number. -/
theorem settle_heartbeats (session : Session) (now : Moment) (count : Nat) (back : Bytes)
    : session.settle now (Wire.segment (heartbeats (count + 1) ++ back))
      = (session.heard now).settle now (Wire.segment back) := by
  have first (rest : Bytes) (session : Session)
      : session.settle now (Wire.segment (Wire.heartbeat ++ rest))
        = (session.heard now).settle now (Wire.segment rest) := by
    have cut : Wire.segment (Wire.heartbeat ++ rest) = (Wire.segment rest).cons .heartbeat :=
      @Wire.segment_item .heartbeat trivial rest
    rw [cut]
    rfl
  induction count generalizing session with
  | zero => exact first back session
  | succ count ih =>
      rw [heartbeats, List.replicate_succ, List.flatten_cons, List.append_assoc, first]
      exact ih (session.heard now)

/-- Heartbeats are transparent. Bytes that a session takes in without a rest are followed by
heartbeats and by any other bytes, all of which fit in the buffer. Then the outcome is that
without the heartbeats, be it a success or a failure, and so is the session, but for the time
when it was last heard. Without them the bytes may also come in two pieces.
-/
theorem heartbeats_transparent {session next : Session} {now : Moment} {front back : Bytes}
    {count : Nat} (taken : session.ingest front now = (.ok (), next))
    (empty : next.buffer = []) (positive : 1 ≤ count)
    (room
      : session.buffer.length + (front ++ heartbeats count ++ back).length ≤ bufferLimit)
    : let plain := session.ingest (front ++ back) now
      session.ingest (front ++ heartbeats count ++ back) now
        = (plain.1, { plain.2 with lastHeartbeat := now })
      ∧ plain = next.ingest back now := by
  intro plain
  obtain ⟨count, rfl⟩ := Nat.exists_eq_add_of_le' positive
  have fits : session.buffer.length + (front ++ back).length ≤ bufferLimit := by
    simp only [List.length_append] at room ⊢
    omega
  have frontFits : session.buffer.length + front.length ≤ bufferLimit := by
    rw [List.length_append] at fits
    omega
  have backFits : next.buffer.length + back.length ≤ bufferLimit := by
    rw [empty]
    simp only [List.length_append, List.length_nil] at fits ⊢
    omega
  rw [ingest_eq_settle now frontFits] at taken
  have plainly : plain = next.settle now (Wire.segment back) := by
    rw [← settle_append taken empty back, List.append_assoc]
    exact ingest_eq_settle now fits
  constructor
  · rw [ingest_eq_settle now room, List.append_assoc, ← List.append_assoc session.buffer,
      settle_append taken empty, settle_heartbeats, settle_heard, plainly]
    rfl
  · rw [plainly, ingest_eq_settle now backFits, empty, List.nil_append]

/-- A handshake ends in the second piece, and bytes of two heartbeats stand before a polling
request, a third heartbeat and a length that no frame has.
-/
theorem heartbeats_transparent_before_fault
    : let peer : Peer := ⟨.v4 ⟨192, 168, 1, 20⟩, 41000, rfl, rfl, by decide⟩
      let session := ((start ⟨1⟩ peer 0).ingest [8, 0, 0, 0, 1, 0] 1).2
      let front : Bytes := [0x88, 0x13, 0, 0, 0, 0]
      let back : Bytes :=
        [5, 0, 0, 0, 2, 0x70, 0x17, 0, 0, 0xff, 0xff, 0xff, 0xff, 0x42, 0x54, 0, 0, 0, 0]
      let plain := session.ingest (front ++ back) 5
      session.buffer = [8, 0, 0, 0, 1, 0]
      ∧ plain = (.error (.violation (.malformed (.length 0))),
          { session with
            phase := .waitingForServerConfirm
            buffer := []
            lastHeartbeat := 5
            dataChannel := some ⟨.v4 ⟨192, 168, 1, 20⟩, 5000, rfl, rfl, by decide⟩ })
      ∧ session.ingest (front ++ heartbeats 2 ++ back) 5
        = (plain.1, { plain.2 with lastHeartbeat := 5 }) := by
  intro peer session front back plain
  have taken
      : session.ingest front 5 = (.ok (), (session.ingest front 5).2) :=
    Prod.ext (by decide +kernel) rfl
  exact ⟨by decide +kernel, by decide +kernel,
    (heartbeats_transparent taken (by decide +kernel) (by decide) (by decide +kernel)).1⟩

end Session

end Handheld
