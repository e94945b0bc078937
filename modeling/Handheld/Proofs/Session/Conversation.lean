import Handheld.Proofs.Session.Progress
import Handheld.Proofs.Session.Reassembly

/-! What a client's control stream means to its session. Confirmations between the pieces of the
stream move the session on and change nothing that the stream decides. Main statement: the
first handshake opens the data channel, or fails the session when it names no port, and the
last request behind it that is not below the least interval sets the polling interval.
-/

namespace Handheld

/-- A peer cannot be reached at port 0, and at every other port. -/
theorem Peer.withPort?_eq_none_iff {peer : Peer} {port : UInt16}
    : peer.withPort? port = none ↔ port = 0 := by
  have specified : peer.ip.canonical.isUnspecified = false := by
    rw [peer.canonical, peer.specified]
  simp [withPort?, new?, specified]

namespace Wire

/-- The handshake that an item is, if it is one. -/
def Item.opening? : Item → Option Handshake
  | packet (.handshake opening) => some opening
  | _ => none

/-- The polling interval that an item asks for, if it asks for one. -/
def Item.polling? : Item → Option UInt32
  | packet (.config requested) => some requested
  | _ => none

end Wire

namespace Session

-----------------------------------------------------------------------------------------
-- The polling interval
-----------------------------------------------------------------------------------------

/-- The polling interval behind items: the last one that is asked for and not below the least,
or the one before.
-/
def pollingAfter (items : List Wire.Item) (current : UInt32) : UInt32 :=
  (((items.filterMap Wire.Item.polling?).filter (leastPollingMicros ≤ ·)).getLast?).getD
    current

theorem pollingAfter_cons (item : Wire.Item) (rest : List Wire.Item) (current : UInt32)
    : pollingAfter (item :: rest) current
      = pollingAfter rest (pollingAfter [item] current) := by
  have asked
      : ([item] ++ rest).filterMap Wire.Item.polling?
        = [item].filterMap Wire.Item.polling? ++ rest.filterMap Wire.Item.polling? :=
    List.filterMap_append
  rw [List.singleton_append] at asked
  rw [pollingAfter, asked, List.filter_append, List.getLast?_append, pollingAfter, pollingAfter,
    Option.getD_or]

/-- A session with another polling interval. -/
def withPolling (session : Session) (micros : UInt32) : Session :=
  { session with pollingMicros := micros }

theorem applyPollingInterval_eq (session : Session) (requested : UInt32)
    : session.applyPollingInterval requested
      = session.withPolling
          (pollingAfter [.packet (.config requested)] session.pollingMicros) := by
  rw [applyPollingInterval]
  split
  next enough => simp [pollingAfter, Wire.Item.polling?, enough, withPolling]
  next below => simp [pollingAfter, Wire.Item.polling?, below, withPolling]

-----------------------------------------------------------------------------------------
-- One packet
-----------------------------------------------------------------------------------------

/-- A session that has taken its first handshake and found the data channel. -/
def opened (session : Session) (channel : Peer) : Session :=
  { session with dataChannel := some channel, phase := .waitingForServerConfirm }

/-- Before the first handshake nothing else counts. -/
theorem handle_of_unopened {session : Session} (early : session.phase = .waitingForHandshake)
    (packet : Wire.Packet)
    : session.handle packet
      = match (Wire.Item.packet packet).opening? with
        | none => .ok session
        | some opening =>
            match session.peer.withPort? opening.port with
            | none => .error .invalidDataPort
            | some channel => .ok (session.opened channel) := by
  cases packet with
  | handshake opening =>
      simp only [handle, early, Wire.Item.opening?]
      cases session.peer.withPort? opening.port <;> rfl
  | config requested => simp [handle, early, Wire.Item.opening?]
  | telemetry sent => simp [handle, early, Wire.Item.opening?]

/-- Behind the first handshake a packet sets the polling interval alone. -/
theorem handle_of_opened {session : Session} (opened : session.phase ≠ .waitingForHandshake)
    (packet : Wire.Packet)
    : session.handle packet
      = .ok (session.withPolling
          (pollingAfter [.packet packet] session.pollingMicros)) := by
  cases phase : session.phase with
  | waitingForHandshake => exact absurd phase opened
  | waitingForServerConfirm =>
      rw [handle.eq_def, phase]
      cases packet with
      | handshake opening => rfl
      | config requested => exact congrArg Except.ok (applyPollingInterval_eq session requested)
      | telemetry sent => rfl
  | connected =>
      rw [handle.eq_def, phase]
      cases packet with
      | handshake opening => rfl
      | config requested => exact congrArg Except.ok (applyPollingInterval_eq session requested)
      | telemetry sent => rfl

/-- The touch reports that are never sent play no part. -/
theorem handle_trimmed (session : Session) (packet : Wire.Packet)
    : session.handle packet.trimmed = session.handle packet := by
  cases packet with
  | handshake opening => rfl
  | config requested => rfl
  | telemetry sent => cases phase : session.phase <;> simp [handle, Wire.Packet.trimmed, phase]

-----------------------------------------------------------------------------------------
-- Sessions that differ in what a stream does not decide
-----------------------------------------------------------------------------------------

/-- Two sessions differ at most in their clocks, in what is to be written to them, and in how far
the confirmation of a handshake has come.
-/
structure Alike (session other : Session) : Prop where
  peer_eq : other.peer = session.peer
  buffer_eq : other.buffer = session.buffer
  pollingMicros_eq : other.pollingMicros = session.pollingMicros
  dataChannel_eq : other.dataChannel = session.dataChannel
  unopened_iff : other.phase = .waitingForHandshake ↔ session.phase = .waitingForHandshake

theorem Alike.refl (session : Session) : Alike session session :=
  ⟨rfl, rfl, rfl, rfl, .rfl⟩

theorem Alike.trans {first second third : Session} (left : Alike first second)
    (right : Alike second third)
    : Alike first third where
  peer_eq := right.peer_eq.trans left.peer_eq
  buffer_eq := right.buffer_eq.trans left.buffer_eq
  pollingMicros_eq := right.pollingMicros_eq.trans left.pollingMicros_eq
  dataChannel_eq := right.dataChannel_eq.trans left.dataChannel_eq
  unopened_iff := right.unopened_iff.trans left.unopened_iff

theorem Alike.symm {session other : Session} (alike : Alike session other)
    : Alike other session where
  peer_eq := alike.peer_eq.symm
  buffer_eq := alike.buffer_eq.symm
  pollingMicros_eq := alike.pollingMicros_eq.symm
  dataChannel_eq := alike.dataChannel_eq.symm
  unopened_iff := alike.unopened_iff.symm

theorem Alike.heard (session : Session) (now : Moment) : Alike session (session.heard now) :=
  ⟨rfl, rfl, rfl, rfl, .rfl⟩

theorem Alike.withBuffer {session other : Session} (alike : Alike session other)
    (bytes : Bytes)
    : Alike (session.withBuffer bytes) (other.withBuffer bytes) :=
  { alike with buffer_eq := rfl }

theorem Alike.withPolling {session other : Session} (alike : Alike session other)
    (micros : UInt32)
    : Alike (session.withPolling micros) (other.withPolling micros) :=
  { alike with pollingMicros_eq := rfl }

theorem Alike.opened {session other : Session} (alike : Alike session other) (channel : Peer)
    : Alike (session.opened channel) (other.opened channel) :=
  { alike with dataChannel_eq := rfl, unopened_iff := .rfl }

/-- Outcomes of two sessions: they agree, and the sessions are alike behind them. -/
def AlikeAfter {ε : Type} (left right : ε × Session) : Prop :=
  left.1 = right.1 ∧ Alike left.2 right.2

/-- Items treat sessions alike, whenever they arrive, by induction on the items. -/
theorem Alike.applyItems {session other : Session} (alike : Alike session other)
    (now later : Moment) (items : List Wire.Item)
    : AlikeAfter (applyItems now items session) (Session.applyItems later items other) := by
  induction items generalizing session other with
  | nil => exact ⟨rfl, alike⟩
  | cons item rest ih =>
      have heard : Alike (session.heard now) (other.heard later) :=
        ((Alike.heard session now).symm.trans alike).trans (Alike.heard other later)
      cases item with
      | heartbeat => exact ih heard
      | packet sent =>
          rw [Session.applyItems, Session.applyItems]
          by_cases early : (session.heard now).phase = .waitingForHandshake
          · rw [handle_of_unopened early, handle_of_unopened (heard.unopened_iff.mpr early),
              heard.peer_eq]
            cases (Wire.Item.packet sent).opening? with
            | none => exact ih heard
            | some opening =>
                dsimp only
                cases (session.heard now).peer.withPort? opening.port with
                | none => exact ⟨rfl, heard⟩
                | some channel =>
                    exact ih (heard.opened channel)
          · rw [handle_of_opened early,
              handle_of_opened fun otherEarly => early (heard.unopened_iff.mp otherEarly),
              heard.pollingMicros_eq]
            exact ih (heard.withPolling _)

/-- Bytes treat sessions alike, whenever they arrive. -/
theorem Alike.ingest {session other : Session} (alike : Alike session other) (bytes : Bytes)
    (now later : Moment)
    : AlikeAfter (session.ingest bytes now) (other.ingest bytes later) := by
  rw [Session.ingest, Session.ingest, alike.buffer_eq]
  split
  · exact ⟨rfl, alike.withBuffer []⟩
  · obtain ⟨violations, applied⟩ :=
      alike.applyItems now later (Wire.segment (session.buffer ++ bytes)).items
    dsimp only
    rw [violations]
    split
    · exact ⟨rfl, applied.withBuffer []⟩
    · exact ⟨rfl, applied.withBuffer _⟩

/-- An attempt to confirm leaves alone what the stream decides. -/
theorem Alike.confirm (session : Session) (hello : Hello) (writes : List WriteOutcome)
    : Alike session (session.confirm hello writes).session := by
  by_cases turn : session.phase = .waitingForServerConfirm
  · have flushed := confirm_flushed turn hello writes
    generalize session.confirm hello writes = ended at flushed
    cases flushed with
    | stopped _ _ _ => exact ⟨rfl, rfl, rfl, rfl, .rfl⟩
    | finished => exact ⟨rfl, rfl, rfl, rfl, by simp [turn]⟩
  · rw [confirm_of_ne turn]
    exact .refl session

-----------------------------------------------------------------------------------------
-- Conversations
-----------------------------------------------------------------------------------------

/-- What comes next between a client and its session: a piece of the client's stream, or an
attempt to confirm its handshake.
-/
inductive Turn
  | piece (bytes : Bytes) (now : Moment)
  | confirm (hello : Hello) (writes : List WriteOutcome)

/-- The piece of the stream that a turn brings, if it brings one. -/
def Turn.piece? : Turn → Option Bytes
  | piece bytes _ => some bytes
  | confirm _ _ => none

/-- Takes turns in order, up to the first failure. -/
def converse : List Turn → Session → Except SessionFailure Unit × Session
  | [], session => (.ok (), session)
  | .piece bytes now :: rest, session =>
      match session.ingest bytes now with
      | (.ok (), next) => converse rest next
      | (.error failure, next) => (.error failure, next)
  | .confirm hello writes :: rest, session =>
      match (session.confirm hello writes).result with
      | .ok _ => converse rest (session.confirm hello writes).session
      | .error failure => (.error failure, (session.confirm hello writes).session)

/-- No attempt to confirm that is made fails. -/
def Calm : List Turn → Session → Prop
  | [], _ => True
  | .piece bytes now :: rest, session =>
      (session.ingest bytes now).1.isOk → Calm rest (session.ingest bytes now).2
  | .confirm hello writes :: rest, session =>
      (session.confirm hello writes).result.isOk
      ∧ Calm rest (session.confirm hello writes).session

instance Calm.decidable
    : (turns : List Turn) → (session : Session) → Decidable (Calm turns session)
  | [], _ => isTrue trivial
  | .piece bytes now :: rest, session =>
      have := Calm.decidable rest (session.ingest bytes now).2
      inferInstanceAs (Decidable (_ → _))
  | .confirm hello writes :: rest, session =>
      have := Calm.decidable rest (session.confirm hello writes).session
      inferInstanceAs (Decidable (_ ∧ _))

/-- Calm attempts to confirm do not change what the pieces do, by induction on the turns. -/
theorem Alike.converse {session other : Session} (alike : Alike session other)
    {turns : List Turn} (calm : Calm turns session) (now : Moment)
    : AlikeAfter (converse turns session)
        (ingestAll now (turns.filterMap Turn.piece?) other) := by
  induction turns generalizing session other with
  | nil => exact ⟨rfl, alike⟩
  | cons turn rest ih =>
      cases turn with
      | piece bytes arrival =>
          have taken := alike.ingest bytes arrival now
          simp only [Calm, Session.converse, List.filterMap_cons, Turn.piece?,
            ingestAll] at calm ⊢
          generalize session.ingest bytes arrival = left at taken calm ⊢
          generalize other.ingest bytes now = right at taken ⊢
          obtain ⟨outcome, next⟩ := left
          obtain ⟨otherOutcome, otherNext⟩ := right
          obtain ⟨rfl, nextAlike⟩ := taken
          cases outcome with
          | ok done => exact ih nextAlike (calm rfl)
          | error failure => exact ⟨rfl, nextAlike⟩
      | confirm hello writes =>
          obtain ⟨succeeded, later⟩ := calm
          simp only [Session.converse, List.filterMap_cons, Turn.piece?]
          cases result : (session.confirm hello writes).result with
          | ok finished => exact ih ((Alike.confirm session hello writes).symm.trans alike) later
          | error failure =>
              rw [result] at succeeded
              cases succeeded

-----------------------------------------------------------------------------------------
-- The meaning of items
-----------------------------------------------------------------------------------------

/-- Items count as their reader gets them, by induction on the items. -/
theorem applyItems_trimmed (now : Moment) (items : List Wire.Item) (session : Session)
    : applyItems now (items.map Wire.Item.trimmed) session = applyItems now items session := by
  induction items generalizing session with
  | nil => rfl
  | cons item rest ih =>
      cases item with
      | heartbeat => exact ih (session.heard now)
      | packet sent =>
          simp only [List.map_cons, Wire.Item.trimmed, applyItems, handle_trimmed, ih]

/-- Before a handshake items change nothing but a clock, by induction on them. -/
theorem applyItems_of_unopened (now : Moment) {items : List Wire.Item} {session : Session}
    (early : session.phase = .waitingForHandshake)
    (unopened : ∀ item ∈ items, item.opening? = none)
    : ∃ ended, applyItems now items session = (none, ended) ∧ Alike session ended := by
  induction items generalizing session with
  | nil => exact ⟨session, rfl, .refl session⟩
  | cons item rest ih =>
      have stays : (session.heard now).phase = .waitingForHandshake := early
      have later := fun other member => unopened other (List.mem_cons_of_mem item member)
      obtain ⟨ended, applies, alike⟩ := ih stays later
      refine ⟨ended, ?_, (Alike.heard session now).trans alike⟩
      cases item with
      | heartbeat => exact applies
      | packet sent =>
          rw [applyItems, handle_of_unopened stays, unopened _ List.mem_cons_self]
          exact applies

theorem applyItems_cons_of_opened {session : Session}
    (opened : session.phase ≠ .waitingForHandshake) (now : Moment) (item : Wire.Item)
    (rest : List Wire.Item)
    : applyItems now (item :: rest) session
      = applyItems now rest
          ((session.heard now).withPolling (pollingAfter [item] session.pollingMicros)) := by
  cases item with
  | heartbeat => rfl
  | packet sent =>
      have stays : (session.heard now).phase ≠ .waitingForHandshake := opened
      rw [applyItems, handle_of_opened stays]
      rfl

/-- Behind a handshake items set the polling interval alone, by induction on them. -/
theorem applyItems_of_opened (now : Moment) (items : List Wire.Item) {session : Session}
    (opened : session.phase ≠ .waitingForHandshake)
    : ∃ ended,
        applyItems now items session = (none, ended)
        ∧ Alike (session.withPolling (pollingAfter items session.pollingMicros)) ended := by
  induction items generalizing session with
  | nil => exact ⟨session, rfl, .refl session⟩
  | cons item rest ih =>
      rw [applyItems_cons_of_opened opened]
      generalize reached
        : (session.heard now).withPolling (pollingAfter [item] session.pollingMicros) = next
      have stays : next.phase ≠ .waitingForHandshake := by
        rw [← reached]
        exact opened
      obtain ⟨ended, applies, alike⟩ := ih stays
      refine ⟨ended, applies, Alike.trans ?_ alike⟩
      rw [← reached, pollingAfter_cons]
      exact ⟨rfl, rfl, rfl, rfl, .rfl⟩

/-- Up to its first handshake a stream leaves a session as it was, and the handshake opens it
or fails it.
-/
theorem applyItems_opening (now : Moment) {before : List Wire.Item} {session : Session}
    (early : session.phase = .waitingForHandshake)
    (unopened : ∀ item ∈ before, item.opening? = none) (opening : Wire.Handshake)
    (after : List Wire.Item)
    : ∃ reached,
        Alike session reached
        ∧ applyItems now (before ++ .packet (.handshake opening) :: after) session
          = match session.peer.withPort? opening.port with
            | none => (some .invalidDataPort, reached)
            | some channel => applyItems now after (reached.opened channel) := by
  obtain ⟨found, applies, alike⟩ := applyItems_of_unopened now early unopened
  have heard : Alike session (found.heard now) := alike.trans (.heard found now)
  refine ⟨found.heard now, heard, ?_⟩
  rw [applyItems_append, applies]
  dsimp only
  rw [applyItems, handle_of_unopened (heard.unopened_iff.mpr early), heard.peer_eq]
  dsimp only [Wire.Item.opening?]
  cases session.peer.withPort? opening.port <;> rfl

/-- A first handshake without a port ends a stream and opens nothing. -/
theorem applyItems_of_portless (now : Moment) {before : List Wire.Item} {session : Session}
    (early : session.phase = .waitingForHandshake)
    (unopened : ∀ item ∈ before, item.opening? = none) {opening : Wire.Handshake}
    (portless : opening.port = 0) (after : List Wire.Item)
    : ∃ ended,
        applyItems now (before ++ .packet (.handshake opening) :: after) session
          = (some .invalidDataPort, ended)
        ∧ Alike session ended := by
  obtain ⟨reached, alike, applies⟩ := applyItems_opening now early unopened opening after
  rw [Peer.withPort?_eq_none_iff.mpr portless] at applies
  exact ⟨reached, applies, alike⟩

/-- A first handshake with a port opens the data channel, and only the items behind it set the
polling interval.
-/
theorem applyItems_of_port (now : Moment) {before : List Wire.Item} {session : Session}
    (early : session.phase = .waitingForHandshake)
    (unopened : ∀ item ∈ before, item.opening? = none) {opening : Wire.Handshake}
    (port : opening.port ≠ 0) (after : List Wire.Item)
    : ∃ channel ended,
        session.peer.withPort? opening.port = some channel
        ∧ applyItems now (before ++ .packet (.handshake opening) :: after) session
          = (none, ended)
        ∧ Alike
            ((session.opened channel).withPolling (pollingAfter after session.pollingMicros))
            ended := by
  obtain ⟨reached, alike, applies⟩ := applyItems_opening now early unopened opening after
  obtain ⟨channel, opens⟩ := Option.ne_none_iff_exists'.mp
    (mt Peer.withPort?_eq_none_iff.mp port)
  have opened : (reached.opened channel).phase ≠ .waitingForHandshake := by simp [Session.opened]
  obtain ⟨ended, ends, later⟩ := applyItems_of_opened now after opened
  rw [opens] at applies
  have polling : (reached.opened channel).pollingMicros = session.pollingMicros :=
    alike.pollingMicros_eq
  rw [polling] at later
  exact ⟨channel, ended, opens, applies.trans ends,
    ((alike.opened channel).withPolling _).trans later⟩

-----------------------------------------------------------------------------------------
-- The meaning of a stream
-----------------------------------------------------------------------------------------

/-- The pieces of a stream of items, with calm attempts to confirm between them, do to a new
session what the items do one after the other, and leave no bytes.
-/
theorem converse_start {id : SessionId} {peer : Peer} {admitted : Moment} {turns : List Turn}
    {items : List Wire.Item}
    (cut : (turns.filterMap Turn.piece?).flatten = items.flatMap Wire.Item.encode)
    (small : ∀ piece ∈ turns.filterMap Turn.piece?, piece.length ≤ bufferLimit - 148)
    (calm : Calm turns (start id peer admitted))
    : let ended := converse turns (start id peer admitted)
      let applied := applyItems admitted items (start id peer admitted)
      ended.1 = applied.1.elim (.ok ()) (fun violation => .error (.violation violation))
      ∧ Alike (applied.2.withBuffer []) ended.2 := by
  have alike := (Alike.refl (start id peer admitted)).converse calm admitted
  have waiting : (start id peer admitted).buffer = [] := rfl
  rw [ingestAll_eq_settle (Reachable.start id peer admitted).drained admitted small, waiting,
    List.nil_append, cut, Wire.segment_flatMap_encode, settle, applyItems_trimmed] at alike
  generalize applyItems admitted items (start id peer admitted) = applied at alike ⊢
  obtain ⟨violation | violation, applied⟩ := applied
  · exact ⟨alike.1, alike.2.symm⟩
  · exact ⟨alike.1, alike.2.symm⟩

/-- The stream of any items that a new session receives in pieces, with attempts to confirm
between them that do not fail. Without a handshake nothing is opened. A first handshake without
a port fails the session before it opens. Any other first handshake opens the data channel at
the peer, every piece is taken in, and no bytes are left; the polling interval is the last one
asked for behind it that is not below the least, or else the least.
-/
theorem stream_meaning {id : SessionId} {peer : Peer} {admitted : Moment} {turns : List Turn}
    {items : List Wire.Item}
    (cut : (turns.filterMap Turn.piece?).flatten = items.flatMap Wire.Item.encode)
    (small : ∀ piece ∈ turns.filterMap Turn.piece?, piece.length ≤ bufferLimit - 148)
    (calm : Calm turns (start id peer admitted))
    : let ended := converse turns (start id peer admitted)
      ((∀ item ∈ items, item.opening? = none)
        → ended.1 = .ok ()
          ∧ ended.2.phase = .waitingForHandshake
          ∧ ended.2.dataChannel = none
          ∧ ended.2.pollingMicros = leastPollingMicros)
      ∧ ∀ before opening after,
          items = before ++ .packet (.handshake opening) :: after
          → (∀ item ∈ before, item.opening? = none)
          → (opening.port = 0
              → ended.1 = .error (.violation .invalidDataPort)
                ∧ ended.2.phase = .waitingForHandshake)
            ∧ (opening.port ≠ 0
              → ended.1 = .ok ()
                ∧ ended.2.buffer = []
                ∧ ended.2.phase ≠ .waitingForHandshake
                ∧ (∃ channel,
                    ended.2.dataChannel = some channel
                    ∧ channel.ip = peer.ip
                    ∧ channel.port = opening.port)
                ∧ ended.2.pollingMicros = pollingAfter after leastPollingMicros) := by
  have early : (start id peer admitted).phase = .waitingForHandshake := rfl
  obtain ⟨outcome, meant⟩ := converse_start cut small calm
  constructor
  · intro unopened
    obtain ⟨reached, applies, alike⟩ := applyItems_of_unopened admitted early unopened
    rw [applies] at outcome meant
    have same := (alike.withBuffer []).trans meant
    exact ⟨outcome, same.unopened_iff.mpr early, same.dataChannel_eq, same.pollingMicros_eq⟩
  · rintro before opening after rfl unopened
    constructor
    · intro portless
      obtain ⟨reached, applies, alike⟩ :=
        applyItems_of_portless admitted early unopened portless after
      rw [applies] at outcome meant
      have same := (alike.withBuffer []).trans meant
      exact ⟨outcome, same.unopened_iff.mpr early⟩
    · intro port
      obtain ⟨channel, reached, opens, applies, alike⟩ :=
        applyItems_of_port admitted early unopened port after
      rw [applies] at outcome meant
      have same := (alike.withBuffer []).trans meant
      refine ⟨outcome, same.buffer_eq, ?_, ?_, same.pollingMicros_eq⟩
      · intro waiting
        cases same.unopened_iff.mp waiting
      · exact ⟨channel, same.dataChannel_eq, Peer.withPort?_eq_some opens⟩

/-- Requests before, behind and between two handshakes, the second without a port, in pieces
that cut a handshake and a request, with the confirmation written in two parts between them.
-/
theorem stream_meaning_two_handshakes
    : let peer : Peer := ⟨.v4 ⟨192, 168, 1, 20⟩, 41000, rfl, rfl, by decide⟩
      let before : List Wire.Item := [.packet (.config 9000), .heartbeat]
      let opening : Wire.Handshake := ⟨.client, 5000, 0⟩
      let after : List Wire.Item :=
        [.packet (.config 100), .packet (.config 7000), .packet (.handshake ⟨.client, 0, 0⟩),
          .packet (.config 5999)]
      let stream := (before ++ .packet (.handshake opening) :: after).flatMap Wire.Item.encode
      let turns : List Turn :=
        [.piece (stream.take 20) 3, .confirm ⟨6000, 25⟩ [], .piece ((stream.take 32).drop 20) 4,
          .confirm ⟨6000, 25⟩ [.accepted 5, .wouldBlock], .piece (stream.drop 32) 6,
          .confirm ⟨6001, 25⟩ [.interrupted, .accepted 7]]
      let ended := converse turns (start ⟨1⟩ peer 0)
      ended.1 = .ok ()
      ∧ ended.2.buffer = []
      ∧ (∃ channel,
          ended.2.dataChannel = some channel ∧ channel.ip = peer.ip ∧ channel.port = 5000)
      ∧ ended.2.pollingMicros = 7000 := by
  intro peer before opening after stream turns
  have cut : (turns.filterMap Turn.piece?).flatten = stream := by decide
  have small
      : ∀ piece ∈ turns.filterMap Turn.piece?, piece.length ≤ bufferLimit - 148 := by decide
  have calm : Calm turns (start ⟨1⟩ peer 0) := by decide +kernel
  have meaning := (stream_meaning cut small calm).2 before opening after rfl (by decide)
  obtain ⟨succeeds, empty, _, channel, polling⟩ := meaning.2 (by decide)
  exact ⟨succeeds, empty, channel, polling⟩

end Session

end Handheld
