import Handheld.Proofs.Session.Progress
import Handheld.Proofs.Wire.Bodies

/-! The answer to a handshake. It is fixed by the first attempt to confirm that is in turn, and
all attempts together write it from its front. Main statement: over any calls the bytes written
are a prefix of the one answer, the session is connected exactly when all are written, and an
attempt that stops early leaves the rest pending.
-/

namespace Handheld

namespace Session

-----------------------------------------------------------------------------------------
-- Attempts
-----------------------------------------------------------------------------------------

/-- An attempt to confirm: the session that it is made on, and what it is made with. -/
structure Attempt where
  session : Session
  hello : Hello
  writes : List WriteOutcome

namespace Attempt

def outcome (attempt : Attempt) : Confirmation :=
  attempt.session.confirm attempt.hello attempt.writes

/-- Tells whether the session waits for the attempt. -/
def inTurn (attempt : Attempt) : Bool := attempt.session.phase = .waitingForServerConfirm

/-- Tells whether the attempt reports that it has finished the handshake. -/
def succeeds (attempt : Attempt) : Bool :=
  match attempt.outcome.result with
  | .ok finished => finished
  | .error _ => false

theorem succeeds_iff {attempt : Attempt}
    : attempt.succeeds ↔ attempt.outcome.result = .ok true := by
  rw [succeeds]
  cases attempt.outcome.result <;> simp

end Attempt

/-- The attempt to confirm that a call on a session makes, if it makes one. -/
def Call.attempts (session : Session) : Call → List Attempt
  | confirm hello writes => [⟨session, hello, writes⟩]
  | _ => []

/-- The attempts to confirm that calls make one after the other. -/
def attempts : List Call → Session → List Attempt
  | [], _ => []
  | call :: rest, session => call.attempts session ++ attempts rest (session.after call)

/-- All bytes that the stream took in attempts. -/
def written (made : List Attempt) : Bytes := made.flatMap (·.outcome.written)

/-- The answer that attempts write: that of the first one in turn. -/
def answer? (made : List Attempt) : Option Bytes :=
  (made.find? Attempt.inTurn).map (·.hello.packet.encode)

theorem written_concat (made : List Attempt) (attempt : Attempt)
    : written (made ++ [attempt]) = written made ++ attempt.outcome.written := by
  simp [written]

theorem answer?_concat (made : List Attempt) (attempt : Attempt)
    : answer? (made ++ [attempt])
      = (answer? made).or
          (if attempt.inTurn then some attempt.hello.packet.encode else none) := by
  rw [answer?, answer?, List.find?_append, List.find?_singleton]
  cases made.find? Attempt.inTurn with
  | some first => rfl
  | none => cases attempt.inTurn <;> rfl

-----------------------------------------------------------------------------------------
-- One round of writing
-----------------------------------------------------------------------------------------

/-- Answers of a stream that take this many bytes in all and do not stop a round of writing. -/
inductive Takes : List WriteOutcome → Nat → Prop
  | nil : Takes [] 0
  | accepted {count rest taken} (some : count ≠ 0) (later : Takes rest taken)
    : Takes (.accepted count :: rest) (count + taken)
  | interrupted {rest taken} (later : Takes rest taken) : Takes (.interrupted :: rest) taken

/-- An answer of a stream that stops a round of writing, and what the round reports then. -/
inductive Stops : WriteOutcome → Except SessionFailure Bool → Prop
  | wouldBlock : Stops .wouldBlock (.ok false)
  | closed : Stops (.accepted 0) (.error .peerClosed)
  | failed (kind : IoKind) : Stops (.failed kind) (.error (.ofIoKind kind))

/-- One step of writing while bytes are pending. -/
theorem flush_cons {session : Session} (more : session.outbound ≠ []) (written : Bytes)
    (answer : WriteOutcome) (rest : List WriteOutcome)
    : flush written (answer :: rest) session
      = match answer with
        | .wouldBlock => ⟨.ok false, session, written, rest⟩
        | .interrupted => flush written rest session
        | .failed kind => ⟨.error (.ofIoKind kind), session, written, rest⟩
        | .accepted count =>
            if count = 0 then ⟨.error .peerClosed, session, written, rest⟩
            else
              flush (written ++ session.outbound.take count) rest
                { session with outbound := session.outbound.drop count } := by
  rw [flush.eq_def]
  dsimp only
  rw [if_neg (fun empty => more (List.isEmpty_iff.mp empty))]
  cases answer <;> rfl

/-- Bytes that a stream takes leave the front of what is pending, by induction on its answers. -/
theorem flush_takes {front : List WriteOutcome} {taken : Nat} (takes : Takes front taken)
    (written : Bytes) (rest : List WriteOutcome) {session : Session}
    (short : taken < session.outbound.length)
    : flush written (front ++ rest) session
      = flush (written ++ session.outbound.take taken) rest
          { session with outbound := session.outbound.drop taken } := by
  induction takes generalizing written session with
  | nil => simp
  | @accepted count front taken some _ ih =>
      have more : session.outbound ≠ [] := List.ne_nil_of_length_pos (by omega)
      have left : taken < (session.outbound.drop count).length := by
        rw [List.length_drop]
        omega
      rw [List.cons_append, flush_cons more]
      dsimp only
      rw [if_neg some, ih _ left, List.take_add, List.append_assoc, List.drop_drop]
  | interrupted _ ih =>
      have more : session.outbound ≠ [] := List.ne_nil_of_length_pos (by omega)
      rw [List.cons_append, flush_cons more]
      exact ih written short

/-- A stream that stops a round of writing leaves everything else pending. -/
theorem flush_stops {stop : WriteOutcome} {result : Except SessionFailure Bool}
    (stops : Stops stop result) (written : Bytes) (back : List WriteOutcome)
    {session : Session} (more : session.outbound ≠ [])
    : flush written (stop :: back) session = ⟨result, session, written, back⟩ := by
  rw [flush_cons more]
  cases stops with
  | wouldBlock => rfl
  | closed => rfl
  | failed kind => rfl

/-- A stream that takes all that is pending finishes the handshake, by induction on its answers. -/
theorem flush_finishes {front : List WriteOutcome} {taken : Nat} (takes : Takes front taken)
    (written : Bytes) (rest : List WriteOutcome) {session : Session}
    (enough : session.outbound.length ≤ taken)
    : (flush written (front ++ rest) session).result = .ok true := by
  induction takes generalizing written session with
  | nil =>
      have done : session.outbound = [] := List.length_eq_zero_iff.mp (Nat.le_zero.mp enough)
      rw [flush_of_nil done]
  | @accepted count front taken some _ ih =>
      by_cases done : session.outbound = []
      · rw [flush_of_nil done]
      · have left : (session.outbound.drop count).length ≤ taken := by
          rw [List.length_drop]
          omega
        rw [List.cons_append, flush_cons done]
        dsimp only
        rw [if_neg some]
        exact ih _ left
  | interrupted _ ih =>
      by_cases done : session.outbound = []
      · rw [flush_of_nil done]
      · rw [List.cons_append, flush_cons done]
        exact ih written enough

theorem confirm_of_turn {session : Session} (turn : session.phase = .waitingForServerConfirm)
    (hello : Hello) (writes : List WriteOutcome)
    : session.confirm hello writes
      = flush [] writes { session with outbound := session.pending hello } := by
  rw [confirm, if_pos turn]
  rfl

/-- An attempt in turn whose stream stops before the end. -/
theorem confirm_stops {session : Session} (turn : session.phase = .waitingForServerConfirm)
    (hello : Hello) {front : List WriteOutcome} {taken : Nat} (takes : Takes front taken)
    {stop : WriteOutcome} {result : Except SessionFailure Bool} (stops : Stops stop result)
    (back : List WriteOutcome) (short : taken < (session.pending hello).length)
    : session.confirm hello (front ++ stop :: back)
      = ⟨result, { session with outbound := (session.pending hello).drop taken },
          (session.pending hello).take taken, back⟩ := by
  have more : (session.pending hello).drop taken ≠ [] := by
    rw [Ne, List.drop_eq_nil_iff]
    omega
  rw [confirm_of_turn turn, flush_takes takes [] _ short, List.nil_append,
    flush_stops stops _ _ more]

-----------------------------------------------------------------------------------------
-- Where the answer stands
-----------------------------------------------------------------------------------------

/-- Where an answer stands: nothing is asked for yet, a part is sent and the rest is pending, or
all is sent and the session has been told so.
-/
inductive Standing (answer : Option Bytes) (sent : Bytes) (successes : Nat) (session : Session)
    : Prop
  | unasked (unanswered : answer = none) (silent : sent = []) (unfinished : successes = 0)
      (early : session.phase ≠ .connected) (idle : session.outbound = [])
  | partly (answered : answer = some (sent ++ session.outbound)) (unfinished : successes = 0)
      (turn : session.phase = .waitingForServerConfirm) (left : session.outbound ≠ [])
  | whole (answered : answer = some sent) (finished : successes = 1)
      (connected : session.phase = .connected)

/-- Where the answer stands behind attempts. -/
def StandsBehind (made : List Attempt) : Session → Prop :=
  Standing (answer? made) (written made) (made.countP Attempt.succeeds)

section

variable {answer : Option Bytes} {sent : Bytes} {successes : Nat} {session : Session}

theorem Standing.congr {next : Session} (standing : Standing answer sent successes session)
    (phase : next.phase = session.phase) (outbound : next.outbound = session.outbound)
    : Standing answer sent successes next := by
  cases standing with
  | unasked unanswered silent unfinished early idle =>
      exact .unasked unanswered silent unfinished (phase ▸ early) (outbound.trans idle)
  | partly answered unfinished turn left =>
      exact .partly (outbound ▸ answered) unfinished (phase.trans turn) (outbound ▸ left)
  | whole answered finished connected => exact .whole answered finished (phase.trans connected)

theorem Standing.applyPollingInterval (standing : Standing answer sent successes session)
    (requested : UInt32)
    : Standing answer sent successes (session.applyPollingInterval requested) := by
  rw [Session.applyPollingInterval]
  split
  · exact standing.congr rfl rfl
  · exact standing

/-- Reading leaves an answer where it stands. -/
theorem Standing.keptByReading : KeptByReading (Standing answer sent successes) where
  heard now standing := standing.congr rfl rfl
  withBuffer bytes standing := standing.congr rfl rfl
  handle handled standing := by
    rcases handle_cases handled
      with rfl | ⟨opening, channel, rfl, early, found, rfl⟩ | ⟨requested, rfl, _, rfl⟩
    · exact standing
    · cases standing with
      | unasked unanswered silent unfinished _ idle =>
          exact .unasked unanswered silent unfinished (by simp) idle
      | partly _ _ turn _ => simp [early] at turn
      | whole _ _ connected => simp [early] at connected
    · exact standing.applyPollingInterval requested

/-- What an attempt in turn writes first continues what is sent to the whole answer. -/
theorem Standing.inTurn (standing : Standing answer sent successes session)
    (turn : session.phase = .waitingForServerConfirm) (hello : Hello)
    : answer.getD hello.packet.encode = sent ++ session.pending hello ∧ successes = 0 := by
  rw [pending]
  cases standing with
  | unasked unanswered silent unfinished _ idle =>
      simp [unanswered, silent, unfinished, idle]
  | partly answered unfinished _ left => simp [answered, unfinished, left]
  | whole _ _ connected => simp [turn] at connected

theorem Standing.sent_prefix (standing : Standing answer sent successes session)
    : sent <+: answer.getD [] := by
  cases standing with
  | unasked unanswered silent _ _ _ => simp [unanswered, silent]
  | partly answered _ _ _ => simp [answered]
  | whole answered _ _ => simp [answered]

theorem Standing.connected_iff (standing : Standing answer sent successes session)
    : session.phase = .connected ↔ answer = some sent := by
  cases standing with
  | unasked unanswered _ _ early _ => simp [unanswered, early]
  | partly answered _ turn left => simp [answered, turn, left]
  | whole answered _ connected => simp [answered, connected]

theorem Standing.successes_eq (standing : Standing answer sent successes session)
    : successes = if session.phase = .connected then 1 else 0 := by
  cases standing with
  | unasked _ _ unfinished early _ => rw [unfinished, if_neg early]
  | partly _ unfinished turn _ => simp [unfinished, turn]
  | whole _ finished connected => rw [finished, if_pos connected]

end

/-- An attempt in turn stops with bytes left to write, or writes everything that is pending. -/
theorem confirm_stopped_or_finished {session : Session}
    (turn : session.phase = .waitingForServerConfirm) (hello : Hello)
    (writes : List WriteOutcome)
    : let ended := session.confirm hello writes
      (∃ left,
        left ≠ []
        ∧ ended.written ++ left = session.pending hello
        ∧ ended.session = { session with outbound := left }
        ∧ ended.result ≠ .ok true)
      ∨ (ended.written = session.pending hello
        ∧ ended.session = { session with phase := .connected, outbound := [] }
        ∧ ended.result = .ok true) := by
  have flushed := confirm_flushed turn hello writes
  generalize session.confirm hello writes = ended at flushed ⊢
  cases flushed with
  | stopped parts some unfinished => exact .inl ⟨_, some, parts, rfl, unfinished⟩
  | finished => exact .inr ⟨rfl, rfl, rfl⟩

/-- One more attempt moves the answer on, or leaves it where it stands. -/
theorem StandsBehind.attempt {made : List Attempt} {attempt : Attempt}
    (stands : StandsBehind made attempt.session)
    : StandsBehind (made ++ [attempt]) attempt.outcome.session := by
  rw [StandsBehind, answer?_concat, written_concat, List.countP_append, List.countP_singleton]
  by_cases turn : attempt.session.phase = .waitingForServerConfirm
  · obtain ⟨whole, unfinished⟩ := stands.inTurn turn attempt.hello
    have asked : attempt.inTurn = true := by simp [Attempt.inTurn, turn]
    rw [if_pos asked, Option.or_some, whole, unfinished]
    rcases confirm_stopped_or_finished turn attempt.hello attempt.writes
      with ⟨left, some, parts, session, unfinished⟩ | ⟨all, session, finished⟩
    · rw [if_neg (mt Attempt.succeeds_iff.mp unfinished), Attempt.outcome, session, ← parts,
        ← List.append_assoc]
      exact .partly rfl rfl turn some
    · rw [if_pos (Attempt.succeeds_iff.mpr finished), Attempt.outcome, session, all]
      exact .whole rfl rfl rfl
  · have nothing := confirm_of_ne turn attempt.hello attempt.writes
    have unasked : ¬attempt.inTurn := by simp [Attempt.inTurn, turn]
    have silent : ¬attempt.succeeds := by simp [Attempt.succeeds_iff, Attempt.outcome, nothing]
    rw [if_neg unasked, if_neg silent, Attempt.outcome, nothing, List.append_nil, Option.or_none]
    exact stands

/-- One more call moves the answer on, or leaves it where it stands. -/
theorem StandsBehind.after {made : List Attempt} {session : Session}
    (stands : StandsBehind made session) (call : Call)
    : StandsBehind (made ++ call.attempts session) (session.after call) := by
  have unmade {next : Session} (kept : StandsBehind made next)
      : StandsBehind (made ++ []) next := by
    rwa [List.append_nil]
  cases call with
  | ingest bytes now => exact unmade (Standing.keptByReading.ingest stands bytes now)
  | receive reads now => exact unmade (Standing.keptByReading.receive stands reads now)
  | confirm hello writes => exact stands.attempt
  | applyPollingInterval requested => exact unmade (stands.applyPollingInterval requested)
  | markTelemetrySent now => exact unmade (stands.congr rfl rfl)

/-- Calls move the answer on, by induction on them. -/
theorem StandsBehind.afterAll {made : List Attempt} {session : Session}
    (stands : StandsBehind made session) (calls : List Call)
    : StandsBehind (made ++ attempts calls session) (session.afterAll calls) := by
  induction calls generalizing made session with
  | nil => rwa [attempts, List.append_nil]
  | cons call rest ih =>
      rw [attempts, ← List.append_assoc]
      exact ih (stands.after call)

theorem standsBehind_start (id : SessionId) (peer : Peer) (admitted : Moment)
    (calls : List Call)
    : StandsBehind (attempts calls (start id peer admitted))
        ((start id peer admitted).afterAll calls) := by
  have nothing : StandsBehind [] (start id peer admitted) :=
    .unasked rfl rfl rfl (by simp [start]) rfl
  exact nothing.afterAll calls

-----------------------------------------------------------------------------------------
-- The answer goes out once
-----------------------------------------------------------------------------------------

theorem pending_ne_nil (session : Session) (hello : Hello) : session.pending hello ≠ [] := by
  rw [pending]
  split
  · have := hello.packet.le_length_encode
    exact List.ne_nil_of_length_pos (by omega)
  next more => exact fun none => more (List.isEmpty_iff.mpr none)

/-- An attempt in turn moves on an answer of which a part is sent. It succeeds exactly if it
writes the last byte, which it does when the stream takes enough, and else leaves what is
missing pending. An answer of the stream that stops it is what it reports, with exactly the
bytes before it written.
-/
structure Advances (sent answer : Bytes) (writes : List WriteOutcome) (ended : Confirmation)
    : Prop where
  succeeds_iff
    : ended.result = .ok true ↔ ended.written ≠ [] ∧ sent ++ ended.written = answer
  pending_of_ne
    : ended.result ≠ .ok true
      → ended.session.phase = .waitingForServerConfirm
        ∧ sent ++ ended.written ++ ended.session.outbound = answer
  finished
    : ∀ {front taken back},
        writes = front ++ back
        → Takes front taken
        → answer.length ≤ sent.length + taken
        → ended.result = .ok true
  stopped
    : ∀ {front taken stop result back},
        writes = front ++ stop :: back
        → Takes front taken
        → Stops stop result
        → sent.length + taken < answer.length
        → ended.result = result
          ∧ ended.session.phase = .waitingForServerConfirm
          ∧ sent ++ ended.written = answer.take (sent.length + taken)
          ∧ ended.session.outbound = answer.drop (sent.length + taken)

theorem confirm_advances {session : Session} (turn : session.phase = .waitingForServerConfirm)
    (sent : Bytes) (hello : Hello) (writes : List WriteOutcome)
    : Advances sent (sent ++ session.pending hello) writes (session.confirm hello writes) where
  succeeds_iff := by
    rw [List.append_cancel_left_eq]
    rcases confirm_stopped_or_finished turn hello writes
      with ⟨left, some, parts, _, unfinished⟩ | ⟨all, _, finished⟩
    · have part : (session.confirm hello writes).written ≠ session.pending hello := by
        intro same
        rw [← parts, List.self_eq_append_right] at same
        exact some same
      exact iff_of_false unfinished (fun last => part last.2)
    · refine iff_of_true finished ⟨?_, all⟩
      rw [all]
      exact pending_ne_nil session hello
  pending_of_ne unfinished := by
    rcases confirm_stopped_or_finished turn hello writes
      with ⟨left, _, parts, stays, _⟩ | ⟨_, _, finished⟩
    · rw [List.append_assoc, stays, parts]
      exact ⟨turn, rfl⟩
    · exact absurd finished unfinished
  finished := by
    rintro front taken back rfl takes enough
    rw [List.length_append, Nat.add_le_add_iff_left] at enough
    rw [confirm_of_turn turn]
    exact flush_finishes takes [] back enough
  stopped := by
    rintro front taken stop result back rfl takes stops short
    rw [List.length_append, Nat.add_lt_add_iff_left] at short
    rw [confirm_stops turn hello takes stops back short, List.take_length_add_append,
      List.drop_length_add_append]
    exact ⟨rfl, turn, rfl, rfl⟩

/-- Whatever calls are made on a new session, what its stream has taken in all attempts to confirm
is a prefix of the answer that the first attempt in turn has fixed. The session is connected
exactly when the whole answer is out, and then one attempt has reported so. A further attempt
out of turn does nothing, and one in turn moves the answer on.
-/
theorem answer_sent_once (id : SessionId) (peer : Peer) (admitted : Moment)
    (calls : List Call)
    : let made := attempts calls (start id peer admitted)
      let session := (start id peer admitted).afterAll calls
      written made <+: (answer? made).getD []
      ∧ (session.phase = .connected ↔ answer? made = some (written made))
      ∧ made.countP Attempt.succeeds = (if session.phase = .connected then 1 else 0)
      ∧ ∀ hello writes,
          (session.phase ≠ .waitingForServerConfirm
            → session.confirm hello writes = ⟨.ok false, session, [], writes⟩)
          ∧ (session.phase = .waitingForServerConfirm
            → Advances (written made) ((answer? made).getD hello.packet.encode) writes
                (session.confirm hello writes)) := by
  intro made session
  have stands : StandsBehind made session := standsBehind_start id peer admitted calls
  refine ⟨stands.sent_prefix, stands.connected_iff, stands.successes_eq, ?_⟩
  intro hello writes
  constructor
  · intro early
    exact confirm_of_ne early hello writes
  · intro turn
    rw [(stands.inTurn turn hello).1]
    exact confirm_advances turn (written made) hello writes

/-- Another hello than before is not sent. A reset keeps what the stream has not taken, and a
stream that takes it ends the handshake.
-/
theorem answer_sent_once_congested
    : let peer : Peer := ⟨.v4 ⟨192, 168, 1, 20⟩, 41000, rfl, rfl, by decide⟩
      let calls : List Call :=
        [.ingest [8, 0, 0, 0, 1, 0, 0x88, 0x13, 0, 0, 0, 0] 3,
          .confirm ⟨6000, 25⟩ [.accepted 5, .wouldBlock],
          .ingest [0xff, 0xff, 0xff, 0xff, 0x42, 0x54] 4]
      let made := attempts calls (start ⟨1⟩ peer 0)
      let session := (start ⟨1⟩ peer 0).afterAll calls
      let answer := (Hello.packet ⟨6000, 25⟩).encode
      let reset := session.confirm ⟨7000, 10⟩
        [.interrupted, .accepted 4, .failed .connectionReset, .accepted 3]
      let whole := session.confirm ⟨7000, 10⟩ [.accepted 3, .interrupted, .accepted 4]
      written made <+: answer
      ∧ reset.result = .error .reset
      ∧ written made ++ reset.written = answer.take 9
      ∧ reset.session.outbound = answer.drop 9
      ∧ whole.result = .ok true
      ∧ written made ++ whole.written = answer := by
  intro peer calls made session answer reset whole
  have fixed : answer? made = some answer := by decide +kernel
  have turn : session.phase = .waitingForServerConfirm := by decide +kernel
  have sent : (written made).length = 5 := by decide +kernel
  obtain ⟨front, _, _, further⟩ := answer_sent_once ⟨1⟩ peer 0 calls
  have stops : Advances (written made) _ _ reset := (further ⟨7000, 10⟩ _).2 turn
  have ends : Advances (written made) _ _ whole := (further ⟨7000, 10⟩ _).2 turn
  rw [fixed, Option.getD_some] at front stops ends
  obtain ⟨result, _, out, left⟩ := stops.stopped rfl
    (.interrupted (.accepted (by decide) .nil)) (.failed .connectionReset) (by decide +kernel)
  have finished := ends.finished (List.append_nil _).symm
    (.accepted (by decide) (.interrupted (.accepted (by decide) .nil))) (by decide +kernel)
  rw [sent] at out left
  simp only [Nat.reduceAdd] at out left
  exact ⟨front, result, out, left, finished, (ends.succeeds_iff.mp finished).2⟩

end Session

end Handheld
