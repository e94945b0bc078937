import Mathlib.Data.Nat.Find
import Handheld.Proofs.Session.Conversation
import Handheld.Proofs.Session.Heartbeats
import Handheld.Proofs.Session.Waiting

/-! What a failure leaves of a session. The items in front of the bytes at fault have been
applied, those bytes and all behind them have not, and nothing waits any more. Main statement:
a session that has failed is told by these items alone, and the outcome by the bytes up to
the one that shows the fault.
-/

namespace Handheld

namespace Wire

/-- The packet that an item is, if it is one. -/
def Item.packet? : Item → Option Packet
  | heartbeat => none
  | packet sent => some sent

theorem Item.trimmed_of_whole {item : Item} (whole : item.Whole) : item.trimmed = item := by
  cases item with
  | heartbeat => rfl
  | packet sent => exact congrArg packet whole

/-- Nothing of an item that was cut off is missing, by induction on the bytes. -/
theorem whole_of_mem_segment (received : Bytes)
    : ∀ item ∈ (segment received).items, item.Whole := by
  induction received using stream_induction with
  | item first rest whole ih =>
      rw [segment_item whole]
      exact List.forall_mem_cons.mpr ⟨whole, ih⟩
  | incomplete received waiting => simp [segment_incomplete waiting]
  | invalid received reason refused => simp [segment_invalid refused]

/-- Whole items are cut off their encodings again. -/
theorem segment_of_whole {items : List Item} (whole : ∀ item ∈ items, item.Whole)
    : segment (items.flatMap Item.encode) = ⟨items, [], none⟩ := by
  have same : items.map Item.trimmed = items := by
    calc items.map Item.trimmed
      _ = items.map id := List.map_congr_left fun item member =>
          Item.trimmed_of_whole (whole item member)
      _ = items := List.map_id items
  rw [segment_flatMap_encode, same]

/-- Bytes that can start no item show it at one of their bytes, and not before. -/
theorem exists_offending {received : Bytes} {reason : Malformation}
    (refused : decode received = .invalid reason)
    : ∃ offending later,
        received = offending ++ later
        ∧ decode offending = .invalid reason
        ∧ ∀ part,
            part <+: offending → part.length < offending.length → decode part = .incomplete := by
  have decided : ∃ count, decode (received.take count) ≠ .incomplete :=
    ⟨received.length, by simp [refused]⟩
  let least := Nat.find decided
  refine ⟨received.take least, received.drop least, (List.take_append_drop _ _).symm, ?_, ?_⟩
  · have same := decode_append (Nat.find_spec decided) (received.drop least)
    rw [List.take_append_drop, refused] at same
    exact same.symm
  · intro part begun short
    have early : part.length < least :=
      Nat.lt_of_lt_of_le short (List.length_take_le _ _)
    have taken : part = received.take part.length :=
      List.prefix_iff_eq_take.mp (begun.trans (List.take_prefix _ _))
    rw [taken]
    exact not_not.mp (Nat.find_min decided early)

end Wire

namespace Session

open Wire (Item segment)

-----------------------------------------------------------------------------------------
-- Packets in order
-----------------------------------------------------------------------------------------

/-- What packets do to a session, one after the other, up to the first violation. -/
def handleAll (session : Session) (packets : List Wire.Packet) : Except Violation Session :=
  packets.foldlM handle session

/-- A packet does the same to a session that has been heard. -/
theorem handle_heard (session : Session) (now : Moment) (packet : Wire.Packet)
    : (session.heard now).handle packet
      = (session.handle packet).map fun next => next.heard now := by
  obtain ⟨id, peer, phase, buffer, outbound, heartbeat, telemetry, polling, channel⟩ := session
  cases packet with
  | handshake opening =>
      cases phase with
      | waitingForHandshake =>
          simp only [handle, heard]
          cases peer.withPort? opening.port <;> rfl
      | waitingForServerConfirm => rfl
      | connected => rfl
  | config requested =>
      cases phase <;> simp only [handle, heard, applyPollingInterval, Except.map]
      · split <;> rfl
      · split <;> rfl
  | telemetry sent => cases phase <;> rfl

theorem handleAll_cons (session : Session) (packet : Wire.Packet) (rest : List Wire.Packet)
    : session.handleAll (packet :: rest)
      = match session.handle packet with
        | .ok next => next.handleAll rest
        | .error violation => .error violation := by
  rw [handleAll, List.foldlM_cons]
  cases session.handle packet <;> rfl

/-- Packets do the same to a session that has been heard, by induction on the packets. -/
theorem handleAll_heard (session : Session) (now : Moment) (packets : List Wire.Packet)
    : (session.heard now).handleAll packets
      = (session.handleAll packets).map fun next => next.heard now := by
  induction packets generalizing session with
  | nil => rfl
  | cons packet rest ih =>
      rw [handleAll_cons, handleAll_cons, handle_heard]
      cases session.handle packet with
      | error violation => rfl
      | ok next => exact ih next

/-- Packets that are handled by a session that has been heard are handled without that. -/
theorem handleAll_of_heard {session reached : Session} {now : Moment}
    {packets : List Wire.Packet}
    (handled : (session.heard now).handleAll packets = .ok reached)
    : ∃ unheard, session.handleAll packets = .ok unheard ∧ reached = unheard.heard now := by
  rw [handleAll_heard] at handled
  rcases alone : session.handleAll packets with violation | unheard
  · rw [alone] at handled
    cases handled
  · rw [alone] at handled
    cases handled
    exact ⟨unheard, rfl, rfl⟩

/-- Items without a violation do what their packets do, and are heard besides. By induction on
the items.
-/
theorem applyItems_eq_none {now : Moment} {items : List Item} {session applied : Session}
    (applies : applyItems now items session = (none, applied))
    : ∃ reached,
        session.handleAll (items.filterMap Item.packet?) = .ok reached
        ∧ applied = reached.heard (if items = [] then session.lastHeartbeat else now) := by
  suffices handled
      : ∃ reached,
          session.handleAll (items.filterMap Item.packet?) = .ok reached
          ∧ applied = reached.heard applied.lastHeartbeat by
    rwa [← applyItems_lastHeartbeat applies]
  induction items generalizing session with
  | nil =>
      cases applies
      exact ⟨applied, rfl, rfl⟩
  | cons item rest ih =>
      cases item with
      | heartbeat =>
          obtain ⟨heard, handled, same⟩ := ih applies
          obtain ⟨reached, alone, rfl⟩ := handleAll_of_heard handled
          exact ⟨reached, alone, same⟩
      | packet sent =>
          simp only [applyItems, handle_heard] at applies
          rcases first : session.handle sent with violation | next
          · rw [first] at applies
            cases applies
          · rw [first] at applies
            obtain ⟨heard, handled, same⟩ := ih applies
            obtain ⟨reached, alone, rfl⟩ := handleAll_of_heard handled
            refine ⟨reached, ?_, same⟩
            rw [List.filterMap_cons_some (show (Item.packet sent).packet? = some sent from rfl),
              handleAll_cons, first]
            exact alone

/-- A violation comes from one packet, behind items without one. By induction on the items. -/
theorem applyItems_split {now : Moment} {items : List Item} {session applied : Session}
    {cause : Violation} (refused : applyItems now items session = (some cause, applied))
    : ∃ before packet after reached,
        items = before ++ .packet packet :: after
        ∧ applyItems now before session = (none, reached)
        ∧ (reached.heard now).handle packet = .error cause
        ∧ applied = reached.heard now := by
  induction items generalizing session with
  | nil => cases refused
  | cons item rest ih =>
      cases item with
      | heartbeat =>
          obtain ⟨before, packet, after, reached, rfl, applies, last⟩ := ih refused
          exact ⟨.heartbeat :: before, packet, after, reached, rfl, applies, last⟩
      | packet sent =>
          simp only [applyItems] at refused
          rcases handled : (session.heard now).handle sent with violation | next
          · rw [handled] at refused
            cases refused
            exact ⟨[], sent, rest, session, rfl, rfl, handled, rfl⟩
          · rw [handled] at refused
            obtain ⟨before, packet, after, reached, rfl, applies, last⟩ := ih refused
            refine ⟨.packet sent :: before, packet, after, reached, rfl, ?_, last⟩
            simp only [applyItems, handled]
            exact applies

/-- A packet is refused when it is a first handshake without a port. -/
theorem handle_eq_error_iff {session : Session} {packet : Wire.Packet} {cause : Violation}
    : session.handle packet = .error cause
      ↔ cause = .invalidDataPort
        ∧ session.phase = .waitingForHandshake
        ∧ ∃ opening, packet = .handshake opening ∧ opening.port = 0 := by
  constructor
  · intro refused
    refine ⟨handle_eq_error refused, ?_⟩
    by_cases early : session.phase = .waitingForHandshake
    · refine ⟨early, ?_⟩
      rw [handle_of_unopened early] at refused
      cases packet with
      | handshake opening =>
          refine ⟨opening, rfl, ?_⟩
          dsimp only [Item.opening?] at refused
          split at refused
          next portless => exact Peer.withPort?_eq_none_iff.mp portless
          · cases refused
      | config requested => cases refused
      | telemetry sent => cases refused
    · rw [handle_of_opened early] at refused
      cases refused
  · rintro ⟨rfl, early, opening, rfl, portless⟩
    rw [handle_of_unopened early]
    dsimp only [Item.opening?]
    rw [Peer.withPort?_eq_none_iff.mpr portless]

-----------------------------------------------------------------------------------------
-- What is left
-----------------------------------------------------------------------------------------

/-- An outcome is decided once the bytes that wait and those that come start with `front`,
whatever follows, as long as there is room for it.
-/
def DecidedBy (session : Session) (now : Moment) (front : Bytes)
    (outcome : Except SessionFailure Unit × Session)
    : Prop :=
  ∀ bytes,
    front <+: session.buffer ++ bytes
    → session.buffer.length + bytes.length ≤ bufferLimit
    → session.ingest bytes now = outcome

/-- What a failure leaves of a session that was given bytes. -/
inductive Ruined (session : Session) (bytes : Bytes) (now : Moment)
    : SessionFailure → Session → Prop
  /-- There was no room for the bytes, and none of them was looked at. -/
  | overflow (above : bufferLimit < (session.buffer ++ bytes).length)
    : Ruined session bytes now (.violation (.bufferOverflow bufferLimit))
        { session with buffer := [] }
  /-- The offending bytes, and no part of them, can start no item. -/
  | malformed {front offending later : Bytes} {items : List Item} {reason : Wire.Malformation}
    {reached : Session}
    (received : session.buffer ++ bytes = front ++ (offending ++ later))
    (cut : segment front = ⟨items, [], none⟩)
    (handled : session.handleAll (items.filterMap Item.packet?) = .ok reached)
    (refused : Wire.decode offending = .invalid reason)
    (undecided
      : ∀ part,
          part <+: offending
          → part.length < offending.length
          → Wire.decode part = .incomplete)
    (decided : session.DecidedBy now (front ++ offending) (session.ingest bytes now))
    : Ruined session bytes now (.violation (.malformed reason))
        { reached with
          buffer := []
          lastHeartbeat := if items = [] then session.lastHeartbeat else now }
  /-- The offending bytes are a first handshake that names no port. -/
  | portless {front later : Bytes} {items : List Item} {opening : Wire.Handshake}
    {reached : Session}
    (received
      : session.buffer ++ bytes = front ++ ((Wire.Packet.handshake opening).encode ++ later))
    (cut : segment front = ⟨items, [], none⟩)
    (handled : session.handleAll (items.filterMap Item.packet?) = .ok reached)
    (early : reached.phase = .waitingForHandshake)
    (portless : opening.port = 0)
    (decided
      : session.DecidedBy now (front ++ (Wire.Packet.handshake opening).encode)
          (session.ingest bytes now))
    : Ruined session bytes now (.violation .invalidDataPort)
        { reached with buffer := [], lastHeartbeat := now }

/-- Items that succeed are settled, and the bytes behind them find the session so. -/
theorem settle_behind {session applied : Session} {now : Moment} {front : Bytes}
    {items : List Item} (cut : segment front = ⟨items, [], none⟩)
    (applies : applyItems now items session = (none, applied)) (back : Bytes)
    : session.settle now (segment (front ++ back)) = applied.settle now (segment back) := by
  have settled : session.settle now (segment front) = (.ok (), applied.withBuffer []) := by
    simp only [settle, cut, applies]
  rw [settle_append settled rfl, settle_withBuffer]

/-- Bytes that can start no item fail a session, whatever follows them. -/
theorem settle_malformed {offending : Bytes} {reason : Wire.Malformation}
    (refused : Wire.decode offending = .invalid reason) (session : Session) (now : Moment)
    (later : Bytes)
    : session.settle now (segment (offending ++ later))
      = (.error (.violation (.malformed reason)), session.purge) := by
  have decided : Wire.decode offending ≠ .incomplete := by simp [refused]
  rw [Wire.segment_invalid ((Wire.decode_append decided later).trans refused)]
  rfl

/-- A packet that is refused fails a session, whatever follows it. -/
theorem settle_refused {session : Session} {now : Moment} {packet : Wire.Packet}
    {cause : Violation} (whole : packet.trimmed = packet)
    (refused : (session.heard now).handle packet = .error cause) (later : Bytes)
    : session.settle now (segment (packet.encode ++ later))
      = (.error (.violation cause), (session.heard now).purge) := by
  have cut : segment (packet.encode ++ later) = (segment later).cons (.packet packet) :=
    @Wire.segment_item (.packet packet) whole later
  rw [cut]
  simp only [settle, Wire.Segments.cons, applyItems, refused]

/-- An outcome that settling shows for all continuations is decided. -/
theorem decidedBy_of_settle {session : Session} {now : Moment} {front : Bytes}
    {outcome : Except SessionFailure Unit × Session}
    (settles : ∀ later, session.settle now (segment (front ++ later)) = outcome)
    : session.DecidedBy now front outcome := by
  intro bytes begun room
  obtain ⟨later, received⟩ := begun
  rw [ingest_eq_settle now room, ← received, settles]

/-- Bytes behind items that succeed ruin a session when they can start no item. -/
theorem ruined_of_fault {session applied : Session} {bytes : Bytes} {now : Moment}
    (room : session.buffer.length + bytes.length ≤ bufferLimit) {reason : Wire.Malformation}
    (fault : (segment (session.buffer ++ bytes)).fault = some reason)
    (applies
      : applyItems now (segment (session.buffer ++ bytes)).items session = (none, applied))
    : session.Ruined bytes now (.violation (.malformed reason))
        (session.ingest bytes now).2 := by
  have lossless := Wire.flatMap_encode_segment (session.buffer ++ bytes)
  have left := Wire.decode_rest (session.buffer ++ bytes)
  have cut := Wire.segment_of_whole (Wire.whole_of_mem_segment (session.buffer ++ bytes))
  rw [fault] at left
  generalize (segment (session.buffer ++ bytes)).items = items at lossless cut applies
  obtain ⟨offending, later, rest, refused, undecided⟩ := Wire.exists_offending left
  obtain ⟨reached, handled, rfl⟩ := applyItems_eq_none applies
  have settles (later : Bytes)
      : session.settle now (segment (items.flatMap Item.encode ++ offending ++ later))
        = (.error (.violation (.malformed reason)),
            { reached with
              buffer := []
              lastHeartbeat := if items = [] then session.lastHeartbeat else now }) := by
    rw [List.append_assoc, settle_behind cut applies, settle_malformed refused]
    rfl
  have received : session.buffer ++ bytes = items.flatMap Item.encode ++ (offending ++ later) := by
    rw [← rest, lossless]
  have decided := decidedBy_of_settle settles
  have outcome := decided bytes ⟨later, by rw [received, List.append_assoc]⟩ room
  rw [← outcome] at decided
  rw [outcome]
  exact .malformed received cut handled refused undecided decided

/-- A first handshake without a port behind items that succeed ruins a session. -/
theorem ruined_of_violation {session applied : Session} {bytes : Bytes} {now : Moment}
    (room : session.buffer.length + bytes.length ≤ bufferLimit) {cause : Violation}
    (applies
      : applyItems now (segment (session.buffer ++ bytes)).items session
        = (some cause, applied))
    : session.Ruined bytes now (.violation cause) (session.ingest bytes now).2 := by
  have lossless := Wire.flatMap_encode_segment (session.buffer ++ bytes)
  have whole := Wire.whole_of_mem_segment (session.buffer ++ bytes)
  obtain ⟨before, packet, after, found, split, succeeds, refused, rfl⟩ := applyItems_split applies
  rw [split] at lossless whole
  have cut := Wire.segment_of_whole fun item member => whole item (List.mem_append_left _ member)
  have packetWhole : packet.trimmed = packet := whole (.packet packet) (by simp)
  obtain ⟨reached, handled, rfl⟩ := applyItems_eq_none succeeds
  have settles (later : Bytes)
      : session.settle now (segment (before.flatMap Item.encode ++ packet.encode ++ later))
        = (.error (.violation cause), { reached with buffer := [], lastHeartbeat := now }) := by
    rw [List.append_assoc, settle_behind cut succeeds, settle_refused packetWhole refused]
    rfl
  obtain ⟨rfl, early, opening, rfl, portless⟩ := handle_eq_error_iff.mp refused
  have received
      : session.buffer ++ bytes
        = before.flatMap Item.encode
          ++ ((Wire.Packet.handshake opening).encode
            ++ (after.flatMap Item.encode ++ (segment (session.buffer ++ bytes)).rest)) := by
    rw [List.flatMap_append, List.flatMap_cons, List.append_assoc, List.append_assoc] at lossless
    exact lossless.symm
  have decided := decidedBy_of_settle settles
  have outcome := decided bytes ⟨_, by rw [List.append_assoc]; exact received.symm⟩ room
  rw [← outcome] at decided
  rw [outcome]
  exact .portless received cut handled early portless decided

/-- Every failure ruins the session that was given the bytes. -/
theorem ruined_of_failed {session : Session} {bytes : Bytes} {now : Moment}
    {failure : SessionFailure} (failed : (session.ingest bytes now).1 = .error failure)
    : session.Ruined bytes now failure (session.ingest bytes now).2 := by
  by_cases room : session.buffer.length + bytes.length ≤ bufferLimit
  · rcases settle_cases session now (segment (session.buffer ++ bytes))
      with ⟨cause, _, applies, settled⟩ | ⟨reason, _, fault, applies, settled⟩
        | ⟨_, _, _, settled⟩
    · rw [ingest_eq_settle now room, settled] at failed
      cases failed
      exact ruined_of_violation room applies
    · rw [ingest_eq_settle now room, settled] at failed
      cases failed
      exact ruined_of_fault room fault applies
    · rw [ingest_eq_settle now room, settled] at failed
      cases failed
  · have above := Nat.not_le.mp room
    rw [ingest, if_pos above] at failed ⊢
    cases failed
    exact .overflow (by rwa [List.length_append])

/-- Taking bytes in leaves the writing side alone, whether it succeeds or fails. -/
theorem ingest_sameWriting (session : Session) (bytes : Bytes) (now : Moment)
    : SameWriting session (session.ingest bytes now).2 := by
  by_cases room : session.buffer.length + bytes.length ≤ bufferLimit
  · rw [ingest_eq_settle now room]
    exact settle_sameWriting session now _
  · rw [ingest, if_pos (Nat.not_le.mp room)]
    exact ⟨rfl, rfl, rfl, rfl⟩

/-- What a failure leaves of a session. Without room for the bytes nothing is taken in: all that
waited is dropped, and nothing else has changed. Otherwise the session has handled just the
packets in front of the offending bytes, in order, and nothing waits. It was heard now if there
was an item in front, or if the offending bytes are a handshake, which names no port; else it
was heard when it was before. The same comes of all bytes that start as these do up to the last
offending one. No outcome touches what is still to be written or the time of the last
telemetry.
-/
theorem failure_leaves (session : Session) (bytes : Bytes) (now : Moment)
    : (∀ failure,
        (session.ingest bytes now).1 = .error failure
        → session.Ruined bytes now failure (session.ingest bytes now).2)
      ∧ (session.ingest bytes now).2.outbound = session.outbound
      ∧ (session.ingest bytes now).2.lastTelemetry = session.lastTelemetry := by
  have same := ingest_sameWriting session bytes now
  refine ⟨?_, same.outbound_eq, same.lastTelemetry_eq⟩
  intro failure failed
  exact ruined_of_failed failed

/-- The end of a handshake that was begun before and a polling request come in front of a length
that no frame has, and another request behind it. The first two have been applied.
-/
theorem failure_leaves_fault_between_requests
    : let peer : Peer := ⟨.v4 ⟨192, 168, 1, 20⟩, 41000, rfl, rfl, by decide⟩
      let channel : Peer := ⟨.v4 ⟨192, 168, 1, 20⟩, 5000, rfl, rfl, by decide⟩
      let session := ((start ⟨1⟩ peer 0).ingest [8, 0, 0, 0, 1, 0] 1).2
      let bytes : Bytes :=
        [0x88, 0x13, 0, 0, 0, 0, 5, 0, 0, 0, 2, 0x58, 0x1b, 0, 0]
          ++ [0, 0, 0, 0] ++ [5, 0, 0, 0, 2, 0x28, 0x23, 0, 0]
      let failure : SessionFailure := .violation (.malformed (.length 0))
      (session.ingest bytes 5).1 = .error failure
      ∧ session.Ruined bytes 5 failure (session.ingest bytes 5).2
      ∧ (session.ingest bytes 5).2
        = { start ⟨1⟩ peer 5 with
            phase := .waitingForServerConfirm
            dataChannel := some channel
            pollingMicros := 7000 } := by
  intro peer channel session bytes failure
  have failed : (session.ingest bytes 5).1 = .error failure := by decide +kernel
  exact ⟨failed, (failure_leaves session bytes 5).1 failure failed, by decide +kernel⟩

end Session

end Handheld
