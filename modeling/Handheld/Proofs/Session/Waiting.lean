import Handheld.Proofs.Session.Runs

/-! The bytes that wait in a session. What waits is shorter than the longest frame, whatever
was taken in, so that the limit of the buffer is met by one large piece alone and never by
reading. Main statement: a session holds at most 148 bytes, and reads never overflow it.
-/

namespace Handheld

/-- A failed call on a stream is no fault of the peer's bytes. -/
theorem SessionFailure.ofIoKind_ne_violation (kind : IoKind) (cause : Violation)
    : ofIoKind kind ≠ .violation cause := by
  cases kind <;> simp [ofIoKind]

namespace Session

/-- A packet is refused only for the data port that it announces. -/
theorem handle_eq_error {session : Session} {packet : Wire.Packet} {cause : Violation}
    (refused : session.handle packet = .error cause)
    : cause = .invalidDataPort := by
  simp only [handle] at refused
  split at refused
  · split at refused
    · cases refused
      rfl
    · cases refused
  · cases refused
  · cases refused
  · cases refused

/-- Items are refused only for an announced data port, by induction on the items. -/
theorem applyItems_eq_some {now : Moment} {items : List Wire.Item} {session applied : Session}
    {cause : Violation} (refused : applyItems now items session = (some cause, applied))
    : cause = .invalidDataPort := by
  induction items generalizing session with
  | nil => cases refused
  | cons item rest ih =>
      cases item with
      | heartbeat => exact ih refused
      | packet sent =>
          simp only [applyItems] at refused
          cases handled : (session.heard now).handle sent with
          | error violation =>
              rw [handled] at refused
              cases refused
              exact handle_eq_error handled
          | ok next =>
              rw [handled] at refused
              exact ih refused

/-- Taking bytes in overflows the buffer exactly when they do not fit beside those that wait. -/
theorem ingest_overflow_iff {session : Session} {bytes : Bytes} {now : Moment} {limit : Nat}
    : (session.ingest bytes now).1 = .error (.violation (.bufferOverflow limit))
      ↔ limit = bufferLimit ∧ bufferLimit < session.buffer.length + bytes.length := by
  by_cases room : session.buffer.length + bytes.length ≤ bufferLimit
  · rw [ingest_eq_settle now room]
    refine ⟨fun overflow => ?_, fun ⟨_, above⟩ => absurd room (Nat.not_le.mpr above)⟩
    -- What fits is settled, and settling knows only faults of the frames.
    rcases settle_cases session now (Wire.segment (session.buffer ++ bytes))
      with ⟨cause, _, refused, settled⟩ | ⟨_, _, _, _, settled⟩ | ⟨_, _, _, settled⟩
    · rw [settled, applyItems_eq_some refused] at overflow
      cases overflow
    · rw [settled] at overflow
      cases overflow
    · rw [settled] at overflow
      cases overflow
  · have above := Nat.not_le.mp room
    rw [ingest, if_pos above]
    constructor
    · intro overflow
      cases overflow
      exact ⟨rfl, above⟩
    · rintro ⟨rfl, _⟩
      rfl

/-- The bytes that a read gives. -/
def ReadOutcome.received : ReadOutcome → Bytes
  | bytes received => received
  | _ => []

/-- Reading pieces of the size of a read never overflows a drained session, by induction on
the answers of the stream.
-/
theorem receiveFrom_ne_overflow {now : Moment} {reads : List ReadOutcome}
    (sized : ∀ read ∈ reads, read.received.length ≤ readLimit) (total limit : Nat)
    {session : Session} (drained : session.Drained)
    : (receiveFrom now total reads session).result
      ≠ .error (.violation (.bufferOverflow limit)) := by
  induction reads generalizing total session with
  | nil => simp [receiveFrom]
  | cons answer rest ih =>
      have later := ih (fun read member => sized read (List.mem_cons_of_mem answer member))
      cases answer with
      | wouldBlock => simp [receiveFrom]
      | interrupted => exact later total drained
      | failed kind =>
          intro overflow
          exact SessionFailure.ofIoKind_ne_violation kind _ (Except.error.inj overflow)
      | bytes received =>
          cases received with
          | nil => simp [receiveFrom]
          | cons byte more =>
              have next := ingest_drained session (byte :: more) now
              have fits : session.buffer.length + (byte :: more).length ≤ bufferLimit := by
                have waiting := drained.length_le
                have piece := sized _ List.mem_cons_self
                simp only [ReadOutcome.received, readLimit, bufferLimit] at *
                omega
              simp only [receiveFrom]
              split
              next taken =>
                rw [taken] at next
                exact later _ next
              next failure left taken =>
                intro overflow
                have cause := Except.error.inj overflow
                subst cause
                have above := (ingest_overflow_iff.mp (congrArg Prod.fst taken)).2
                exact absurd fits (Nat.not_le.mpr above)

/-- In every session that calls can reach fewer bytes wait than a frame can have, and they
start no item. So only a single piece near the limit can overflow the buffer, and reading
never does, however the stream cuts what the peer sends.
-/
theorem waiting_bounded {session : Session} (reachable : session.Reachable)
    : session.buffer.length ≤ 148
      ∧ Wire.decode session.buffer = .incomplete
      ∧ (∀ bytes now limit,
          (session.ingest bytes now).1 = .error (.violation (.bufferOverflow limit))
          → bufferLimit - 148 < bytes.length)
      ∧ ∀ reads now limit,
          (∀ read ∈ reads, read.received.length ≤ readLimit)
          → (session.receive reads now).result
            ≠ .error (.violation (.bufferOverflow limit)) := by
  have drained := reachable.drained
  have waiting := drained.length_le
  refine ⟨waiting, drained, ?_, ?_⟩
  · intro bytes now limit overflow
    have above := (ingest_overflow_iff.mp overflow).2
    simp only [bufferLimit] at *
    omega
  · intro reads now limit sized
    exact receiveFrom_ne_overflow sized 0 limit drained

/-- The beginning of a heartbeat waits. A flood overflows the buffer, reads do not. -/
theorem waiting_bounded_flood
    : let peer : Peer := ⟨.v4 ⟨192, 168, 1, 20⟩, 41000, rfl, rfl, by decide⟩
      let session := (start ⟨1⟩ peer 0).after (.ingest [0xff, 0xff] 3)
      let flood : Bytes := List.replicate (bufferLimit + 1) 0xff
      let reads : List ReadOutcome :=
        [.bytes [0xff], .interrupted, .bytes [0xff, 0x42], .wouldBlock]
      session.buffer.length ≤ 148
      ∧ Wire.decode session.buffer = .incomplete
      ∧ bufferLimit - 148 < flood.length
      ∧ (session.receive reads 5).result ≠ .error (.violation (.bufferOverflow bufferLimit)) := by
  intro peer session flood reads
  have reachable : session.Reachable := .after (.start _ _ _) _
  obtain ⟨short, incomplete, large, calm⟩ := waiting_bounded reachable
  have above : bufferLimit < session.buffer.length + flood.length := by
    rw [List.length_replicate]
    omega
  exact ⟨short, incomplete, large flood 5 bufferLimit (ingest_overflow_iff.mpr ⟨rfl, above⟩),
    calm reads 5 bufferLimit (by decide)⟩

end Session

end Handheld
