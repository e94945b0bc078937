import Handheld.Proofs.Wire.Finality
import Handheld.Wire.Segmentation

/-! Streams as lists of items. Bytes are cut into the items at their front in one way, nothing
is lost, and more bytes only continue the cut. Main statement: the encodings of the items
found, followed by what is left, are the received bytes again.
-/

namespace Handheld

namespace Wire

-----------------------------------------------------------------------------------------
-- Items at the front
-----------------------------------------------------------------------------------------

namespace Item

/-- Nothing of the item is left out when it is sent. -/
def Whole : Item → Prop
  | heartbeat => True
  | packet sent => sent.trimmed = sent

/-- The verdict on bytes that start with the item. -/
def verdict : Item → Verdict
  | heartbeat => .heartbeat
  | packet sent => .complete sent sent.encode.length

theorem decode_encode {item : Item} (whole : item.Whole) (rest : Bytes)
    : decode (item.encode ++ rest) = item.verdict := by
  cases item with
  | heartbeat => exact (Judged.heartbeat rest).decode_eq
  | packet sent => exact (Judged.complete whole rest).decode_eq

theorem le_length_encode (item : Item) : 6 ≤ item.encode.length := by
  cases item with
  | heartbeat => exact Nat.le_refl 6
  | packet sent => exact Nat.le_trans (by decide) sent.le_length_encode

end Item

/-- Received bytes start with an item, or no item can be cut off, yet or at all. -/
theorem front_cases (received : Bytes)
    : (∃ item rest, Item.Whole item ∧ received = item.encode ++ rest)
      ∨ decode received = .incomplete
      ∨ ∃ reason, decode received = .invalid reason := by
  have judged := judged_decode received
  generalize decode received = verdict at judged
  cases judged with
  | heartbeat rest => exact .inl ⟨.heartbeat, rest, trivial, rfl⟩
  | @complete packet whole rest => exact .inl ⟨.packet packet, rest, whole, rfl⟩
  | _ => simp

/-- What holds of bytes without an item in front, and of an item followed by bytes of which it
holds, holds of all received bytes.
-/
theorem stream_induction {motive : Bytes → Prop}
    (item : ∀ item rest, Item.Whole item → motive rest → motive (item.encode ++ rest))
    (incomplete : ∀ received, decode received = .incomplete → motive received)
    (invalid : ∀ received reason, decode received = .invalid reason → motive received)
    (received : Bytes)
    : motive received := by
  induction size : received.length using Nat.strongRecOn generalizing received with
  | ind bound ih =>
      rcases front_cases received with ⟨front, rest, whole, rfl⟩ | waiting | ⟨reason, refused⟩
      · have shorter : rest.length < bound := by
          have := front.le_length_encode
          rw [List.length_append] at size
          omega
        exact item front rest whole (ih rest.length shorter rest rfl)
      · exact incomplete received waiting
      · exact invalid received reason refused

-----------------------------------------------------------------------------------------
-- Cutting
-----------------------------------------------------------------------------------------

namespace Segments

/-- The cut of bytes with one more item in front. -/
def cons (item : Item) (segments : Segments) : Segments :=
  { segments with items := item :: segments.items }

/-- What more bytes make of a cut: they continue behind the last item, unless a fault has
ended the stream.
-/
def extend (segments : Segments) (later : Bytes) : Segments :=
  match segments.fault with
  | some _ => { segments with rest := segments.rest ++ later }
  | none =>
      let more := segment (segments.rest ++ later)
      { more with items := segments.items ++ more.items }

theorem extend_cons (item : Item) (segments : Segments) (later : Bytes)
    : (segments.cons item).extend later = (segments.extend later).cons item := by
  obtain ⟨items, rest, fault⟩ := segments
  cases fault <;> rfl

end Segments

/-- One step of the cut, without the proofs that the recursion carries. -/
theorem segmentFrom_step (found : List Item) (received : Bytes)
    : segmentFrom found received
      = match decode received with
        | .heartbeat => segmentFrom (.heartbeat :: found) (received.drop 6)
        | .complete packet consumed =>
            segmentFrom (.packet packet :: found) (received.drop consumed)
        | .incomplete => ⟨found.reverse, received, none⟩
        | .invalid reason => ⟨found.reverse, received, some reason⟩ := by
  rw [segmentFrom.eq_def]
  split <;> rename_i verdict <;> simp only [verdict]

theorem segmentFrom_item (found : List Item) {item : Item} (whole : item.Whole) (rest : Bytes)
    : segmentFrom found (item.encode ++ rest) = segmentFrom (item :: found) rest := by
  rw [segmentFrom_step, Item.decode_encode whole rest]
  cases item with
  | heartbeat => rfl
  | packet sent => exact congrArg (segmentFrom (.packet sent :: found)) List.drop_left

theorem segmentFrom_incomplete (found : List Item) {received : Bytes}
    (waiting : decode received = .incomplete)
    : segmentFrom found received = ⟨found.reverse, received, none⟩ := by
  rw [segmentFrom_step, waiting]

theorem segmentFrom_invalid (found : List Item) {received : Bytes} {reason : Malformation}
    (refused : decode received = .invalid reason)
    : segmentFrom found received = ⟨found.reverse, received, some reason⟩ := by
  rw [segmentFrom_step, refused]

/-- Items found earlier stand before those that are still to be found, by induction on the
bytes.
-/
theorem segmentFrom_eq (found : List Item) (received : Bytes)
    : segmentFrom found received
      = { segment received with items := found.reverse ++ (segment received).items } := by
  induction received using stream_induction generalizing found with
  | item item rest whole ih =>
      rw [segment, segmentFrom_item found whole, segmentFrom_item [] whole, ih (item :: found),
        ih [item]]
      simp
  | incomplete received waiting =>
      simp [segment, segmentFrom_incomplete _ waiting]
  | invalid received reason refused =>
      simp [segment, segmentFrom_invalid _ refused]

/-- An item at the front is the first one of the cut. -/
theorem segment_item {item : Item} (whole : item.Whole) (rest : Bytes)
    : segment (item.encode ++ rest) = (segment rest).cons item := by
  rw [segment, segmentFrom_item [] whole, segmentFrom_eq]
  rfl

theorem segment_incomplete {received : Bytes} (waiting : decode received = .incomplete)
    : segment received = ⟨[], received, none⟩ :=
  segmentFrom_incomplete [] waiting

theorem segment_invalid {received : Bytes} {reason : Malformation}
    (refused : decode received = .invalid reason)
    : segment received = ⟨[], received, some reason⟩ :=
  segmentFrom_invalid [] refused

/-- What is left behind the items either waits for more bytes or has the fault. -/
theorem decode_rest (received : Bytes)
    : decode (segment received).rest
      = match (segment received).fault with
        | none => .incomplete
        | some reason => .invalid reason := by
  induction received using stream_induction with
  | item item rest whole ih =>
      rw [segment_item whole]
      exact ih
  | incomplete received waiting => rw [segment_incomplete waiting, waiting]
  | invalid received reason refused => rw [segment_invalid refused, refused]

/-- More bytes continue a cut, by induction on the bytes that came first. -/
theorem segment_append (received later : Bytes)
    : segment (received ++ later) = (segment received).extend later := by
  induction received using stream_induction with
  | item item rest whole ih =>
      rw [List.append_assoc, segment_item whole, segment_item whole, ih, Segments.extend_cons]
  | incomplete received waiting =>
      rw [segment_incomplete waiting]
      rfl
  | invalid received reason refused =>
      have decided : decode received ≠ .incomplete := by simp [refused]
      rw [segment_invalid refused, segment_invalid ((decode_append decided later).trans refused)]
      rfl

-----------------------------------------------------------------------------------------
-- Streams that were sent
-----------------------------------------------------------------------------------------

namespace Item

/-- The item as its reader gets it. -/
def trimmed : Item → Item
  | heartbeat => heartbeat
  | packet sent => packet sent.trimmed

theorem whole_trimmed (item : Item) : item.trimmed.Whole := by
  cases item with
  | heartbeat => trivial
  | packet sent => exact sent.trimmed_trimmed

theorem encode_trimmed (item : Item) : item.trimmed.encode = item.encode := by
  cases item with
  | heartbeat => rfl
  | packet sent => exact sent.encode_trimmed

end Item

/-- The encodings of items are cut into these items with nothing left, by induction on the
items.
-/
theorem segment_flatMap_encode (items : List Item)
    : segment (items.flatMap Item.encode) = ⟨items.map Item.trimmed, [], none⟩ := by
  induction items with
  | nil => exact segment_incomplete decode_nil
  | cons item rest ih =>
      rw [List.flatMap_cons, ← item.encode_trimmed, segment_item item.whole_trimmed, ih]
      rfl

-----------------------------------------------------------------------------------------
-- Nothing is lost
-----------------------------------------------------------------------------------------

/-- The items found and the bytes left over make up what was received. -/
theorem flatMap_encode_segment (received : Bytes)
    : (segment received).items.flatMap Item.encode ++ (segment received).rest = received := by
  induction received using stream_induction with
  | item item rest whole ih =>
      rw [segment_item whole]
      simp only [Segments.cons, List.flatMap_cons, List.append_assoc, ih]
  | incomplete received waiting => simp [segment_incomplete waiting]
  | invalid received reason refused => simp [segment_invalid refused]

/-- At most `calls` calls of the decoder, each on what the call before has left; none if the
last of them still finds an item.
-/
def segmentWithin : (calls : Nat) → Bytes → Option Segments
  | 0, _ => none
  | calls + 1, received =>
      match decode received with
      | .heartbeat => (segmentWithin calls (received.drop 6)).map (Segments.cons .heartbeat)
      | .complete packet consumed =>
          (segmentWithin calls (received.drop consumed)).map (Segments.cons (.packet packet))
      | .incomplete => some ⟨[], received, none⟩
      | .invalid reason => some ⟨[], received, some reason⟩

/-- Every call but the last uses up at least the bytes of a heartbeat, by induction on the
bytes.
-/
theorem segmentWithin_eq {calls : Nat} {received : Bytes}
    (enough : received.length < 6 * (calls + 1))
    : segmentWithin (calls + 1) received = some (segment received) := by
  induction received using stream_induction generalizing calls with
  | item item rest whole ih =>
      have long := item.le_length_encode
      rw [List.length_append] at enough
      obtain ⟨calls, rfl⟩ := Nat.exists_eq_add_one_of_ne_zero (show calls ≠ 0 by omega)
      have later := ih (show rest.length < 6 * (calls + 1) by omega)
      rw [segment_item whole, segmentWithin, Item.decode_encode whole rest]
      cases item with
      | heartbeat => simp [Item.verdict, Item.encode, heartbeat, later]
      | packet sent => simp [Item.verdict, Item.encode, later]
  | incomplete received waiting =>
      rw [segmentWithin, waiting, segment_incomplete waiting]
  | invalid received reason refused =>
      rw [segmentWithin, refused, segment_invalid refused]

/-- A stream is cut within a number of calls that its length bounds, and no byte is lost: the
encodings of the items, in order, and what is left over are the stream. No packet has a second
spelling, since each frame that is accepted is the encoding of its packet.
-/
theorem segment_lossless (received : Bytes)
    : segmentWithin (received.length / 6 + 1) received = some (segment received)
      ∧ (segment received).items.flatMap Item.encode ++ (segment received).rest = received
      ∧ decode (segment received).rest
        = (match (segment received).fault with
          | none => .incomplete
          | some reason => .invalid reason)
      ∧ ∀ packet consumed,
          decode received = .complete packet consumed
          → packet.encode = received.take consumed := by
  refine ⟨segmentWithin_eq (by omega), flatMap_encode_segment received,
    decode_rest received, ?_⟩
  intro packet consumed found
  cases judged_iff.mpr found with
  | complete whole rest => rw [List.take_left]

/-- A polling request, a heartbeat behind it and the beginning of another frame. -/
theorem segment_lossless_config
    : let received : Bytes :=
        [5, 0, 0, 0, 2, 0x70, 0x17, 0, 0, 0xff, 0xff, 0xff, 0xff, 0x42, 0x54, 8, 0]
      segmentWithin 3 received = some (segment received)
      ∧ segment received = ⟨[.packet (.config 6000), .heartbeat], [8, 0], none⟩
      ∧ (Packet.config 6000).encode = received.take 9 := by
  intro received
  obtain ⟨within, -, -, spelled⟩ := segment_lossless received
  have calls : received.length / 6 + 1 = 3 := by decide
  have cut : segmentWithin 3 received
      = some ⟨[.packet (.config 6000), .heartbeat], [8, 0], none⟩ := by decide
  rw [calls] at within
  exact ⟨within, Option.some.inj (within.symm.trans cut), spelled _ 9 (by decide)⟩

end Wire

end Handheld
