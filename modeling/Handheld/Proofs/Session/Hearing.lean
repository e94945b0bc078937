import Handheld.Proofs.Session.Changes
import Handheld.Proofs.Session.Reassembly

/-! Signs of life. What a session has taken in so far is one stream, in which its buffer is the
rest behind the last item. Main statement: after a round of reading the session was heard if,
and only if, the bytes that came complete an item of this stream, whatever item it is and
whatever the session does with it.
-/

namespace Handheld

namespace Wire

/-- The items of a stream do not become fewer. -/
theorem length_items_le (stream more : Bytes)
    : (segment stream).items.length ≤ (segment (stream ++ more)).items.length := by
  rw [segment_append, Segments.extend]
  split
  · exact Nat.le_refl _
  · rw [List.length_append]
    exact Nat.le_add_right _ _

/-- Bytes that follow a stream complete at least one more item of it. -/
def Completes (stream more : Bytes) : Prop :=
  (segment stream).items.length < (segment (stream ++ more)).items.length

instance (stream more : Bytes) : Decidable (Completes stream more) :=
  inferInstanceAs (Decidable (_ < _))

theorem not_completes_nil (stream : Bytes) : ¬ Completes stream [] := by
  rw [Completes, List.append_nil]
  exact Nat.lt_irrefl _

theorem completes_append_iff {stream more later : Bytes}
    : Completes stream (more ++ later)
      ↔ Completes stream more ∨ Completes (stream ++ more) later := by
  have first := length_items_le stream more
  have second := length_items_le (stream ++ more) later
  simp only [Completes, ← List.append_assoc]
  omega

/-- Behind a stream without a fault only the rest of it decides. -/
theorem completes_iff {stream : Bytes} (clean : (segment stream).fault = none) (more : Bytes)
    : Completes stream more ↔ (segment ((segment stream).rest ++ more)).items ≠ [] := by
  rw [Completes, segment_append, Segments.extend, clean]
  simp only [List.length_append, Nat.lt_add_right_iff_pos, List.length_pos_iff]

end Wire

namespace Session

open Wire (segment Completes)

-----------------------------------------------------------------------------------------
-- Streams
-----------------------------------------------------------------------------------------

/-- The session has taken in a stream: nothing in it was a fault, and what is left behind its
last item waits.
-/
structure Took (stream : Bytes) (session : Session) : Prop where
  fault_eq : (segment stream).fault = none
  buffer_eq : session.buffer = (segment stream).rest

theorem took_start (id : SessionId) (peer : Peer) (now : Moment)
    : (start id peer now).Took [] := by
  rw [start]
  have nothing : segment [] = ⟨[], [], none⟩ := Wire.segment_incomplete Wire.decode_nil
  exact ⟨by rw [nothing], by rw [nothing]⟩

/-- A session that has taken in a stream takes in more. It is heard when this completes an
item.
-/
structure TakesIn (now : Moment) (stream more : Bytes) (session next : Session) : Prop where
  took : next.Took (stream ++ more)
  lastHeartbeat_eq
    : next.lastHeartbeat = if Completes stream more then now else session.lastHeartbeat

namespace TakesIn

variable {now : Moment} {stream more later : Bytes} {first second third : Session}

theorem refl (now : Moment) (took : first.Took stream)
    : TakesIn now stream [] first first := by
  refine ⟨?_, ?_⟩
  · rwa [List.append_nil]
  · rw [if_neg (Wire.not_completes_nil stream)]

theorem trans (left : TakesIn now stream more first second)
    (right : TakesIn now (stream ++ more) later second third)
    : TakesIn now stream (more ++ later) first third := by
  refine ⟨?_, ?_⟩
  · rw [← List.append_assoc]
    exact right.took
  · rw [right.lastHeartbeat_eq, left.lastHeartbeat_eq]
    simp only [Wire.completes_append_iff]
    by_cases last : Completes (stream ++ more) later <;>
      by_cases earlier : Completes stream more <;> simp [last, earlier]

/-- What a session does besides leaves its stream alone. -/
theorem keep (takes : TakesIn now stream more first second)
    (buffer : third.buffer = second.buffer)
    (lastHeartbeat : third.lastHeartbeat = second.lastHeartbeat)
    : TakesIn now stream more first third :=
  ⟨⟨takes.took.fault_eq, buffer.trans takes.took.buffer_eq⟩,
    lastHeartbeat.trans takes.lastHeartbeat_eq⟩

end TakesIn

-----------------------------------------------------------------------------------------
-- Reading
-----------------------------------------------------------------------------------------

/-- A packet does not touch the time of the last sign of life. -/
theorem handle_lastHeartbeat {session next : Session} {packet : Wire.Packet}
    (handled : session.handle packet = .ok next)
    : next.lastHeartbeat = session.lastHeartbeat := by
  rcases handle_cases handled with rfl | ⟨_, _, _, _, _, rfl⟩ | ⟨_, _, _, rfl⟩
  · rfl
  · rfl
  · rw [applyPollingInterval]
    split <;> rfl

/-- Items are heard, be they packets that count or not, by induction on the items. -/
theorem applyItems_lastHeartbeat {now : Moment} {items : List Wire.Item}
    {session applied : Session} (applies : applyItems now items session = (none, applied))
    : applied.lastHeartbeat = if items = [] then session.lastHeartbeat else now := by
  induction items generalizing session with
  | nil =>
      cases applies
      rfl
  | cons item rest ih =>
      rw [if_neg (List.cons_ne_nil item rest)]
      cases item with
      | heartbeat =>
          rw [ih applies]
          exact ite_self _
      | packet sent =>
          simp only [applyItems] at applies
          split at applies
          next next handled =>
            rw [ih applies, handle_lastHeartbeat handled]
            exact ite_self _
          · cases applies

theorem ingest_takesIn {session next : Session} {stream bytes : Bytes} {now : Moment}
    (took : session.Took stream) (taken : session.ingest bytes now = (.ok (), next))
    : TakesIn now stream bytes session next := by
  have room : session.buffer.length + bytes.length ≤ bufferLimit := by
    refine Nat.not_lt.mp fun above => ?_
    rw [ingest, if_pos above] at taken
    cases taken
  rw [ingest_eq_settle now room, took.buffer_eq] at taken
  have whole := Wire.segment_append stream bytes
  rw [Wire.Segments.extend, took.fault_eq] at whole
  rcases settle_cases session now (segment ((segment stream).rest ++ bytes))
    with ⟨_, _, _, settled⟩ | ⟨_, _, _, _, settled⟩ | ⟨applied, clean, applies, settled⟩
  · rw [settled] at taken
    cases taken
  · rw [settled] at taken
    cases taken
  · rw [settled] at taken
    cases taken
    have heard := applyItems_lastHeartbeat applies
    refine ⟨⟨?_, ?_⟩, ?_⟩
    · rw [whole]
      exact clean
    · rw [whole]
      rfl
    · simp only [Wire.completes_iff took.fault_eq, ne_eq, ite_not]
      exact heard

/-- The bytes that a round of reading takes from the stream, up to its end. -/
def taken : List ReadOutcome → Bytes
  | [] => []
  | .wouldBlock :: _ => []
  | .interrupted :: rest => taken rest
  | .failed _ :: _ => []
  | .bytes [] :: _ => []
  | .bytes (byte :: more) :: rest => byte :: more ++ taken rest

/-- A round of reading that succeeds takes in all that came, by induction on the answers of the
stream.
-/
theorem receiveFrom_takesIn {now : Moment} {total count : Nat} {reads : List ReadOutcome}
    {session : Session} {stream : Bytes} (took : session.Took stream)
    (received : (receiveFrom now total reads session).result = .ok count)
    : TakesIn now stream (taken reads) session
        (receiveFrom now total reads session).session := by
  induction reads generalizing total session stream with
  | nil => exact .refl now took
  | cons answer rest ih =>
      cases answer with
      | wouldBlock => exact .refl now took
      | interrupted => exact ih took received
      | failed kind => cases received
      | bytes bytes =>
          cases bytes with
          | nil => cases received
          | cons byte more =>
              simp only [receiveFrom] at received ⊢
              split at received
              next taken =>
                have first := ingest_takesIn took taken
                exact first.trans (ih first.took received)
              · cases received

theorem receive_takesIn {now : Moment} {count : Nat} {reads : List ReadOutcome}
    {session : Session} {stream : Bytes} (took : session.Took stream)
    (received : (session.receive reads now).result = .ok count)
    : TakesIn now stream (taken reads) session (session.receive reads now).session :=
  receiveFrom_takesIn took received

end Session

end Handheld
