import Mathlib.Control.Monad.Basic
import Handheld.Proofs.Session.Runs

/-! Reassembly. However a stream is cut into pieces, taking the pieces in one after the other
does to a session what the whole stream does. Main statement: two cuts of the same bytes give
the same outcome and the same session.
-/

namespace Handheld

namespace Session

/-- Takes in pieces in order, all at one moment, up to the first failure. -/
def ingestAll (now : Moment) : List Bytes → Session → Except SessionFailure Unit × Session
  | [], session => (.ok (), session)
  | piece :: rest, session =>
      match session.ingest piece now with
      | (.ok (), next) => ingestAll now rest next
      | (.error failure, next) => (.error failure, next)

/-- Settling no new bytes changes nothing in a drained session. -/
theorem settle_waiting {session : Session} (drained : session.Drained) (now : Moment)
    : session.settle now (Wire.segment session.buffer) = (.ok (), session) := by
  rw [Wire.segment_incomplete drained]
  rfl

/-- Pieces that fit beside any waiting bytes are settled like the stream that they make up, by
induction on the pieces.
-/
theorem ingestAll_eq_settle {session : Session} (drained : session.Drained) (now : Moment)
    {pieces : List Bytes} (small : ∀ piece ∈ pieces, piece.length ≤ bufferLimit - 148)
    : ingestAll now pieces session
      = session.settle now (Wire.segment (session.buffer ++ pieces.flatten)) := by
  induction pieces generalizing session with
  | nil => rw [List.flatten_nil, List.append_nil, settle_waiting drained now, ingestAll]
  | cons piece rest ih =>
      have room : session.buffer.length + piece.length ≤ bufferLimit := by
        have waiting := drained.length_le
        have fits := small piece List.mem_cons_self
        simp only [bufferLimit] at *
        omega
      have later := fun other member => small other (List.mem_cons_of_mem piece member)
      have next := ingest_drained session piece now
      rw [ingestAll, List.flatten_cons, ← List.append_assoc, Wire.segment_append, settle_extend,
        ← ingest_eq_settle now room]
      generalize session.ingest piece now = taken at next ⊢
      match taken with
      | (.ok (), session) => exact ih next later
      | (.error failure, session) => rfl

/-- Two cuts of one stream into pieces that fit give the same outcome and the same session,
and neither touches what reading leaves alone.
-/
theorem ingestAll_cut {session : Session} (reachable : session.Reachable) (now : Moment)
    {whole : Bytes} {pieces others : List Bytes}
    (cut : pieces.flatten = whole) (otherCut : others.flatten = whole)
    (small : ∀ piece ∈ pieces, piece.length ≤ bufferLimit - 148)
    (otherSmall : ∀ piece ∈ others, piece.length ≤ bufferLimit - 148)
    : ingestAll now pieces session = ingestAll now others session
      ∧ SameWriting session (ingestAll now pieces session).2 := by
  have drained := reachable.drained
  rw [ingestAll_eq_settle drained now small, ingestAll_eq_settle drained now otherSmall, cut,
    otherCut]
  exact ⟨rfl, settle_sameWriting session now _⟩

/-- A handshake and a length of 0: in one piece, and cut so that the fault shows before the
last byte is there.
-/
theorem ingestAll_cut_handshake_fault
    : let peer : Peer := ⟨.v4 ⟨192, 168, 1, 20⟩, 41000, rfl, rfl, by decide⟩
      let session := start ⟨1⟩ peer 0
      let whole : List Bytes := [[8, 0, 0, 0, 1, 0, 0x88, 0x13, 0, 0, 0, 0, 0, 0, 0, 0, 7]]
      let pieces : List Bytes :=
        [[8, 0], [0, 0, 1, 0, 0x88], [], [0x13, 0, 0, 0, 0, 0, 0], [0, 0], [7]]
      ingestAll 5 whole session = ingestAll 5 pieces session
      ∧ SameWriting session (ingestAll 5 whole session).2
      ∧ ingestAll 5 pieces session = (.error (.violation (.malformed (.length 0))),
          { session with
            phase := .waitingForServerConfirm
            lastHeartbeat := 5
            dataChannel := some ⟨.v4 ⟨192, 168, 1, 20⟩, 5000, rfl, rfl, by decide⟩ }) := by
  intro peer session whole pieces
  obtain ⟨same, untouched⟩ : ingestAll 5 whole session = ingestAll 5 pieces session
      ∧ SameWriting session (ingestAll 5 whole session).2 :=
    ingestAll_cut (.start _ _ _) 5 rfl rfl (by decide) (by decide)
  exact ⟨same, untouched, by decide +kernel⟩

end Session

end Handheld
