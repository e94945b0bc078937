import Mathlib.Data.Nat.PSub
import Handheld.Proofs.Wire.Cursor
import Handheld.Proofs.Wire.Verdicts

/-! No byte is looked for where there is none. The decoder is written once more as it works on
its buffer, by offsets, slices and a cursor that all have a result only within bounds. Main
statement: a body that passes the check is read exactly to its end, and on every byte string
the decoder in place has a result, which is the verdict.
-/

namespace Handheld

namespace Wire

-----------------------------------------------------------------------------------------
-- The decoder in place
-----------------------------------------------------------------------------------------

/-- The bytes from `start` up to `stop`, unless this is before the start or past the end. -/
def slice? (bytes : Bytes) (start stop : Nat) : Option Bytes :=
  if start ≤ stop ∧ stop ≤ bytes.length then some ((bytes.drop start).take (stop - start))
  else none

/-- Checks a complete body and then reads it with a cursor. -/
def readInPlace (kind : PacketKind) (body : Bytes) : Except Fault (Packet × Cursor) := do
  verify kind body
  CursorReader.packet kind body .atStart

/-- Decodes a frame of a known kind, of which the length and the tag have been looked at;
`none` when a difference, a slice or a read on the way has no result.
-/
def frameInPlace (kind : PacketKind) (declared : Nat) (received : Bytes) : Option Verdict := do
  let size ← declared.psub 1
  match kind.checkSize size with
  | some reason => some (.invalid reason)
  | none =>
      let total := 4 + declared
      if received.length < total then some .incomplete
      else
        let body ← slice? received 5 total
        match readInPlace kind body with
        | .ok (packet, _) => some (.complete packet total)
        | .error (.malformed reason) => some (.invalid reason)
        | .error .pastEnd => none

/-- Decodes what stands at the front of a buffer, and fails where a frame does. Sums and
products always have a result: what is added or multiplied is within the frame limit or the
touch limit by then, far below the largest word.
-/
def decodeInPlace (received : Bytes) : Option Verdict :=
  if heartbeat <+: received then some .heartbeat
  else if received.length < heartbeat.length ∧ received <+: heartbeat then some .incomplete
  else if received.length < 4 then some .incomplete
  else
    let declared := Bytes.toNat (received.take 4)
    if declared = 0 ∨ frameLimit < declared then
      some (.invalid (.length (UInt32.ofNat declared)))
    else
      match received[4]? with
      | none => some .incomplete
      | some tag =>
          match PacketKind.ofTag? tag with
          | none => some (.invalid (.unknownTag tag))
          | some kind => frameInPlace kind declared received

-----------------------------------------------------------------------------------------
-- Bodies
-----------------------------------------------------------------------------------------

/-- Behind the check the cursor comes to the packet, and to the end of the body. -/
theorem walked_of_verify {kind : PacketKind} {body : Bytes}
    (allowed : kind.checkSize body.length = none) (passed : verify kind body = .ok ())
    : ∃ packet takes,
        Reader.packet kind body = .ok (packet, [])
        ∧ CursorReader.packet kind body .atStart = .ok (packet, ⟨body.length, takes⟩)
        ∧ Tiles takes 0 body.length := by
  obtain ⟨packet, _, _, _, found⟩ | ⟨_, refused, _⟩ := readBody_cases allowed
  · obtain ⟨_, _, read⟩ := Fault.bind_eq_ok.mp found
    obtain ⟨takes, walked, tiled⟩ := (tracks_packet kind).reaches_end read
    exact ⟨packet, takes, read, walked, tiled⟩
  · cases refused.symm.trans passed

/-- In place a body of an allowed size is read to the same packet, or refused for the same
reason, as by the reader of unread bytes.
-/
theorem readInPlace_cases {kind : PacketKind} {body : Bytes}
    (allowed : kind.checkSize body.length = none)
    : (∃ packet cursor,
        readBody kind body = .ok (packet, []) ∧ readInPlace kind body = .ok (packet, cursor))
      ∨ ∃ reason,
          readBody kind body = .error (.malformed reason)
          ∧ readInPlace kind body = .error (.malformed reason) := by
  obtain ⟨packet, _, _, _, found⟩ | ⟨reason, refused, found⟩ := readBody_cases allowed
  · obtain ⟨_, passed, read⟩ := Fault.bind_eq_ok.mp found
    obtain ⟨other, takes, same, walked, _⟩ := walked_of_verify allowed passed
    obtain ⟨rfl, _⟩ := Prod.mk.inj (Except.ok.inj (read.symm.trans same))
    exact .inl ⟨packet, _, found, Fault.bind_eq_ok.mpr ⟨(), passed, walked⟩⟩
  · exact .inr ⟨reason, found, by simp only [readInPlace, refused, bind, Except.bind]⟩

-----------------------------------------------------------------------------------------
-- Frames
-----------------------------------------------------------------------------------------

theorem slice?_append {front rest : Bytes} {size : Nat} (enough : size ≤ rest.length)
    : slice? (front ++ rest) front.length (front.length + size) = some (rest.take size) := by
  simp [slice?, enough]

/-- Behind a length that counts the tag, no step on a frame is out of bounds. In `front` stand
the length and the tag.
-/
theorem frameInPlace_eq {declared : Nat} (positive : 0 < declared) (kind : PacketKind)
    {front rest : Bytes} (length : front.length = 5)
    : frameInPlace kind declared (front ++ rest) = some (decodeBody kind declared rest) := by
  obtain ⟨size, rfl⟩ := Nat.exists_eq_add_one_of_ne_zero (Nat.pos_iff_ne_zero.mp positive)
  have predecessor : (size + 1).psub 1 = some size := Nat.psub_eq_sub positive
  have total : 4 + (size + 1) = front.length + size := by omega
  have buffer : (front ++ rest).length < front.length + size ↔ rest.length < size := by
    rw [List.length_append]
    omega
  have body : (rest.take size).length < size ↔ rest.length < size := by
    rw [List.length_take]
    omega
  simp only [frameInPlace, decodeBody, predecessor, Option.bind_eq_bind, Option.bind_some,
    Nat.add_sub_cancel, total, ← length, buffer, body]
  cases allowed : kind.checkSize size with
  | some reason => rfl
  | none =>
      dsimp only
      by_cases short : rest.length < size
      · rw [if_pos short, if_pos short]
      · have enough : size ≤ rest.length := Nat.not_lt.mp short
        rw [if_neg short, if_neg short, slice?_append enough, Option.bind_some]
        rw [← List.length_take_of_le enough] at allowed
        obtain ⟨packet, cursor, read, walked⟩ | ⟨reason, read, walked⟩ :=
          readInPlace_cases allowed
        · rw [read, walked]
        · rw [read, walked]

-----------------------------------------------------------------------------------------
-- Every byte string
-----------------------------------------------------------------------------------------

/-- Behind the heartbeat, which is told apart first, the decoder in place looks at the length,
the tag and the body, and has all of them when it does.
-/
theorem decodeInPlace_of_apart {declared : UInt32} {rest : Bytes}
    (apart : Apart (Bytes.ofNat 4 declared.toNat ++ rest))
    : decodeInPlace (Bytes.ofNat 4 declared.toNat ++ rest)
      = some (decode (Bytes.ofNat 4 declared.toNat ++ rest)) := by
  rw [decode_of_apart apart]
  obtain ⟨notMarked, notBegun⟩ := apart
  have long : ¬(Bytes.ofNat 4 declared.toNat ++ rest).length < 4 := by simp
  have number : Bytes.toNat ((Bytes.ofNat 4 declared.toNat ++ rest).take 4) = declared.toNat := by
    rw [List.take_left' (Bytes.length_ofNat 4 _), toNat_ofNat_word32]
  have behind : (Bytes.ofNat 4 declared.toNat ++ rest)[4]? = rest[0]? := by
    rw [List.getElem?_append_right (by simp), Bytes.length_ofNat]
  rw [decodeInPlace, if_neg notMarked, if_neg (fun begun => notBegun begun.2), if_neg long]
  simp only [number, behind, UInt32.ofNat_toNat]
  split
  next => rfl
  next inside =>
    cases rest with
    | nil => rfl
    | cons tag rest =>
        simp only [List.getElem?_cons_zero, decodeTagged]
        cases PacketKind.ofTag? tag with
        | none => rfl
        | some kind =>
            dsimp only
            rw [List.append_cons]
            exact frameInPlace_eq (by omega) kind (by simp)

/-- On every byte string the decoder in place has a result, and it is the verdict. -/
theorem decodeInPlace_eq (received : Bytes)
    : decodeInPlace received = some (decode received) := by
  by_cases marked : heartbeat <+: received
  · obtain ⟨rest, rfl⟩ := marked
    rw [(Judged.heartbeat rest).decode_eq, decodeInPlace,
      if_pos (List.prefix_append heartbeat rest)]
  by_cases begun : received <+: heartbeat
  · have short := short_of_begun marked begun
    rw [(Judged.begunHeartbeat begun short).decode_eq, decodeInPlace, if_neg marked,
      if_pos ⟨short, begun⟩]
  by_cases short : received.length < 4
  · rw [(Judged.shortLength ⟨marked, begun⟩ short).decode_eq, decodeInPlace, if_neg marked,
      if_neg (fun front => begun front.2), if_pos short]
  obtain ⟨declared, rest, rfl, _⟩ := word32_field.split received (Nat.not_lt.mp short)
  exact decodeInPlace_of_apart ⟨marked, begun⟩

/-- The check of a body licenses every read behind it. Of a body of an allowed size the check
itself finds every byte that it looks for; if it passes, the packet is read by takes that
follow one another from the start of the body exactly to its end, so none of them reaches
past it. Hence decoding in place has a result on every byte string.
-/
theorem reads_within_bounds
    : (∀ (kind : PacketKind) (body : Bytes),
        kind.checkSize body.length = none
        → verify kind body ≠ .error .pastEnd
          ∧ (verify kind body = .ok ()
            → ∃ packet cursor,
                CursorReader.packet kind body .atStart = .ok (packet, cursor)
                ∧ Reader.packet kind body = .ok (packet, [])
                ∧ (∀ take ∈ cursor.takes, take.stop ≤ body.length)
                ∧ Tiles cursor.takes 0 body.length
                ∧ cursor.position = body.length))
      ∧ ∀ received, decodeInPlace received = some (decode received) := by
  refine ⟨?_, decodeInPlace_eq⟩
  intro kind body allowed
  refine ⟨verify_ne_pastEnd allowed, ?_⟩
  intro passed
  obtain ⟨packet, takes, read, walked, tiled⟩ := walked_of_verify allowed passed
  exact ⟨packet, _, walked, read, tiled.stop_le, tiled, rfl⟩

/-- Telemetry with two touches in front and one on the back, alone and in its frame. -/
theorem reads_within_bounds_three_touches
    : let body : Bytes :=
        List.replicate 10 0 ++ [2] ++ List.replicate 12 7 ++ [1] ++ List.replicate 6 9
          ++ List.replicate 36 0
      PacketKind.telemetry.checkSize body.length = none
      ∧ verify .telemetry body = .ok ()
      ∧ (∃ packet cursor,
          CursorReader.packet .telemetry body .atStart = .ok (packet, cursor)
          ∧ (∀ take ∈ cursor.takes, take.stop ≤ 66)
          ∧ cursor.position = 66)
      ∧ (decodeInPlace ([67, 0, 0, 0, 3] ++ body)).isSome := by
  intro body
  have allowed : PacketKind.telemetry.checkSize body.length = none := by decide
  have passed : verify .telemetry body = .ok () := by rfl
  obtain ⟨licensed, decoded⟩ := reads_within_bounds
  obtain ⟨packet, cursor, walked, _, within, _, atEnd⟩ :=
    (licensed .telemetry body allowed).2 passed
  refine ⟨allowed, passed, ⟨packet, cursor, walked, within, atEnd⟩, ?_⟩
  rw [decoded]
  rfl

end Wire

end Handheld
