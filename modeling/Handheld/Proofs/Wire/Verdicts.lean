import Handheld.Proofs.Wire.Bodies
import Handheld.Wire.Decoding

/-! The verdicts that received bytes deserve, as a relation that follows the frame layout and
not the decoder. Main statement: the decoder gives the one verdict that the relation allows.
-/

namespace Handheld

namespace Wire

-----------------------------------------------------------------------------------------
-- Telling a frame from the heartbeat
-----------------------------------------------------------------------------------------

/-- The bytes differ from the heartbeat at some place that both have. -/
def Apart (received : Bytes) : Prop := ¬heartbeat <+: received ∧ ¬received <+: heartbeat

/-- Bytes that differ from the heartbeat do so whatever follows them. -/
theorem Apart.append {received : Bytes} (apart : Apart received) (later : Bytes)
    : Apart (received ++ later) := by
  constructor
  · intro marked
    rcases List.prefix_or_prefix_of_prefix marked (List.prefix_append received later)
      with marked | begun
    · exact apart.1 marked
    · exact apart.2 begun
  · intro begun
    exact apart.2 ((List.prefix_append received later).trans begun)

/-- A beginning of the heartbeat that is not all of it is shorter. -/
theorem short_of_begun {received : Bytes} (notMarked : ¬heartbeat <+: received)
    (begun : received <+: heartbeat)
    : received.length < heartbeat.length := by
  refine Nat.lt_of_not_le (fun long => notMarked ?_)
  exact begun.eq_of_length_le long ▸ List.prefix_refl heartbeat

/-- An accepted length differs from the first bytes of the heartbeat. -/
theorem apart_of_le {declared : UInt32} (within : declared.toNat ≤ frameLimit) (rest : Bytes)
    : Apart (Bytes.ofNat 4 declared.toNat ++ rest) := by
  -- The first four bytes of the heartbeat are a length far above the limit.
  have differs : ¬Bytes.ofNat 4 declared.toNat <+: heartbeat := by
    intro begun
    have front := List.prefix_iff_eq_take.mp begun
    rw [Bytes.length_ofNat] at front
    have number := congrArg Bytes.toNat front
    rw [toNat_ofNat_word32] at number
    rw [number] at within
    exact absurd within (by decide)
  have length : (Bytes.ofNat 4 declared.toNat).length ≤ heartbeat.length := by
    rw [Bytes.length_ofNat]
    decide
  refine Apart.append ⟨fun marked => ?_, differs⟩ rest
  exact differs (marked.eq_of_length_le length ▸ List.prefix_refl heartbeat)

-----------------------------------------------------------------------------------------
-- The relation
-----------------------------------------------------------------------------------------

/-- The verdicts that bytes deserve, one constructor for each way to come to one. A frame
starts with its length, which counts the tag and the body.
-/
inductive Judged : Bytes → Verdict → Prop
  | heartbeat (rest : Bytes) : Judged (heartbeat ++ rest) .heartbeat
  | begunHeartbeat {received} (begun : received <+: Wire.heartbeat)
    (short : received.length < Wire.heartbeat.length)
    : Judged received .incomplete
  | shortLength {received} (apart : Apart received) (short : received.length < 4)
    : Judged received .incomplete
  | length {declared : UInt32} {rest} (apart : Apart (Bytes.ofNat 4 declared.toNat ++ rest))
    (outside : declared.toNat = 0 ∨ frameLimit < declared.toNat)
    : Judged (Bytes.ofNat 4 declared.toNat ++ rest) (.invalid (.length declared))
  | noTag {declared : UInt32} (positive : 0 < declared.toNat)
    (within : declared.toNat ≤ frameLimit)
    : Judged (Bytes.ofNat 4 declared.toNat) .incomplete
  | unknownTag {declared : UInt32} {tag rest} (positive : 0 < declared.toNat)
    (within : declared.toNat ≤ frameLimit) (unknown : PacketKind.ofTag? tag = none)
    : Judged (Bytes.ofNat 4 declared.toNat ++ tag :: rest) (.invalid (.unknownTag tag))
  | size {declared : UInt32} {kind : PacketKind} {rest reason}
    (positive : 0 < declared.toNat) (within : declared.toNat ≤ frameLimit)
    (refused : kind.checkSize (declared.toNat - 1) = some reason)
    : Judged (Bytes.ofNat 4 declared.toNat ++ kind.tag :: rest) (.invalid reason)
  | shortBody {declared : UInt32} {kind : PacketKind} {rest}
    (allowed : kind.checkSize (declared.toNat - 1) = none)
    (short : rest.length < declared.toNat - 1)
    : Judged (Bytes.ofNat 4 declared.toNat ++ kind.tag :: rest) .incomplete
  | body {declared : UInt32} {kind : PacketKind} {body rest reason}
    (sized : declared.toNat = body.length + 1) (allowed : kind.checkSize body.length = none)
    (refused : verify kind body = .error (.malformed reason))
    : Judged (Bytes.ofNat 4 declared.toNat ++ kind.tag :: (body ++ rest)) (.invalid reason)
  | complete {packet : Packet} (whole : packet.trimmed = packet) (rest : Bytes)
    : Judged (packet.encode ++ rest) (.complete packet packet.encode.length)

/-- An allowed size is far below the largest accepted length. -/
theorem within_of_checkSize {kind : PacketKind} {size : Nat}
    (allowed : kind.checkSize size = none)
    : 4 ≤ size ∧ size ≤ 144 := by
  obtain ⟨least, most⟩ := PacketKind.checkSize_eq_none_iff.mp allowed
  cases kind <;>
    simp only [PacketKind.leastSize, PacketKind.mostSize, telemetryFixedSize, touchLimit,
      touchSize] at least most <;>
    omega

theorem PacketKind.tag_of_ofTag? {kind : PacketKind} {tag : UInt8}
    (known : ofTag? tag = some kind)
    : kind.tag = tag := by
  simp only [ofTag?] at known
  split at known
  next first => exact Option.some.inj known ▸ first.symm
  split at known
  next second => exact Option.some.inj known ▸ second.symm
  split at known
  next third => exact Option.some.inj known ▸ third.symm
  cases known

/-- Every byte string deserves some verdict, by following the layout from the front. -/
theorem exists_judged (received : Bytes) : ∃ verdict, Judged received verdict := by
  by_cases marked : heartbeat <+: received
  · obtain ⟨rest, rfl⟩ := marked
    exact ⟨_, .heartbeat rest⟩
  by_cases begun : received <+: heartbeat
  · exact ⟨_, .begunHeartbeat begun (short_of_begun marked begun)⟩
  by_cases short : received.length < 4
  · exact ⟨_, .shortLength ⟨marked, begun⟩ short⟩
  obtain ⟨declared, rest, rfl, behind⟩ := word32_field.split received (Nat.not_lt.mp short)
  by_cases outside : declared.toNat = 0 ∨ frameLimit < declared.toNat
  · exact ⟨_, .length ⟨marked, begun⟩ outside⟩
  have positive : 0 < declared.toNat := Nat.pos_of_ne_zero (fun zero => outside (.inl zero))
  have within : declared.toNat ≤ frameLimit :=
    Nat.not_lt.mp (fun above => outside (.inr above))
  match rest with
  | [] =>
      rw [List.append_nil]
      exact ⟨_, .noTag positive within⟩
  | tag :: rest =>
      cases known : PacketKind.ofTag? tag with
      | none => exact ⟨_, .unknownTag positive within known⟩
      | some kind =>
          rw [← PacketKind.tag_of_ofTag? known]
          cases allowed : kind.checkSize (declared.toNat - 1) with
          | some reason => exact ⟨_, .size positive within allowed⟩
          | none =>
              by_cases short : rest.length < declared.toNat - 1
              · exact ⟨_, .shortBody allowed short⟩
              obtain ⟨body, rest, rfl, length⟩
                  : ∃ body left, rest = body ++ left ∧ body.length = declared.toNat - 1 :=
                ⟨_, _, (List.take_append_drop _ rest).symm,
                  List.length_take_of_le (Nat.not_lt.mp short)⟩
              have sized : declared.toNat = body.length + 1 := by omega
              rw [← length] at allowed
              rcases readBody_cases allowed with ⟨packet, rfl, whole, rfl, _⟩ | ⟨_, refused, _⟩
              · rw [sized, ← List.cons_append, ← List.append_assoc]
                exact ⟨_, .complete whole rest⟩
              · exact ⟨_, .body sized allowed refused⟩

-----------------------------------------------------------------------------------------
-- The decoder follows the relation
-----------------------------------------------------------------------------------------

/-- The decoder behind an accepted length. -/
def decodeTagged (declared : Nat) : Bytes → Verdict
  | [] => .incomplete
  | tag :: rest =>
      match PacketKind.ofTag? tag with
      | none => .invalid (.unknownTag tag)
      | some kind => decodeBody kind declared rest

/-- The decoder on bytes that differ from the heartbeat and have a length in front. -/
theorem decode_of_apart {declared : UInt32} {rest : Bytes}
    (apart : Apart (Bytes.ofNat 4 declared.toNat ++ rest))
    : decode (Bytes.ofNat 4 declared.toNat ++ rest)
      = if declared.toNat = 0 ∨ frameLimit < declared.toNat then .invalid (.length declared)
        else decodeTagged declared.toNat rest := by
  have number := toNat_ofNat_word32 declared
  obtain ⟨b0, b1, b2, b3, spelled⟩
      : ∃ b0 b1 b2 b3, Bytes.ofNat 4 declared.toNat = [b0, b1, b2, b3] :=
    ⟨_, _, _, _, rfl⟩
  obtain ⟨notMarked, notBegun⟩ := apart
  rw [← List.isPrefixOf_iff_prefix] at notMarked notBegun
  rw [decode.eq_def, if_neg notMarked, if_neg notBegun]
  rw [spelled] at number ⊢
  simp only [List.cons_append, List.nil_append, number, UInt32.ofNat_toNat]
  rfl

theorem decode_of_within {declared : UInt32} (positive : 0 < declared.toNat)
    (within : declared.toNat ≤ frameLimit) (rest : Bytes)
    : decode (Bytes.ofNat 4 declared.toNat ++ rest) = decodeTagged declared.toNat rest := by
  have inside : ¬(declared.toNat = 0 ∨ frameLimit < declared.toNat) := by omega
  rw [decode_of_apart (apart_of_le within rest), if_neg inside]

/-- The decoder on bytes that start with an accepted length and the tag of a kind. -/
theorem decode_of_tag {declared : UInt32} (positive : 0 < declared.toNat)
    (within : declared.toNat ≤ frameLimit) (kind : PacketKind) (rest : Bytes)
    : decode (Bytes.ofNat 4 declared.toNat ++ kind.tag :: rest)
      = decodeBody kind declared.toNat rest := by
  rw [decode_of_within positive within]
  simp only [decodeTagged, PacketKind.ofTag?_tag]

/-- The decoder on a frame that is there in full, with a body of an allowed size. -/
theorem decode_of_body {kind : PacketKind} {declared : UInt32} {body : Bytes}
    (sized : declared.toNat = body.length + 1) (allowed : kind.checkSize body.length = none)
    (rest : Bytes)
    : decode (Bytes.ofNat 4 declared.toNat ++ kind.tag :: (body ++ rest))
      = match readBody kind body with
        | .ok (packet, _) => .complete packet (4 + declared.toNat)
        | .error (.malformed reason) => .invalid reason
        | .error .pastEnd => .incomplete := by
  have bounds := within_of_checkSize allowed
  have within : declared.toNat ≤ frameLimit := by
    simp only [frameLimit]
    omega
  have size : declared.toNat - 1 = body.length := by omega
  rw [decode_of_tag (by omega) within]
  rcases read : readBody kind body with fault | ⟨packet, left⟩
  · cases fault <;>
      simp only [decodeBody, size, allowed, List.take_left, Nat.lt_irrefl, if_false, read]
  · simp only [decodeBody, size, allowed, List.take_left, Nat.lt_irrefl, if_false, read]

/-- The decoder gives the verdict that the relation allows. -/
theorem Judged.decode_eq {received : Bytes} {verdict : Verdict}
    (judged : Judged received verdict)
    : decode received = verdict := by
  cases judged with
  | heartbeat rest => rfl
  | begunHeartbeat begun short =>
      have notMarked : ¬Wire.heartbeat.isPrefixOf received := by
        rw [List.isPrefixOf_iff_prefix]
        exact fun marked => Nat.not_le.mpr short marked.length_le
      rw [decode.eq_def, if_neg notMarked, if_pos (List.isPrefixOf_iff_prefix.mpr begun)]
  | shortLength apart short =>
      obtain ⟨notMarked, notBegun⟩ := apart
      rw [← List.isPrefixOf_iff_prefix] at notMarked notBegun
      rw [decode.eq_def, if_neg notMarked, if_neg notBegun]
      split
      · simp only [List.length_cons] at short
        omega
      · rfl
  | length apart outside => rw [decode_of_apart apart, if_pos outside]
  | @noTag declared positive within =>
      rw [← List.append_nil (Bytes.ofNat 4 declared.toNat), decode_of_within positive within,
        decodeTagged]
  | unknownTag positive within unknown =>
      rw [decode_of_within positive within]
      simp only [decodeTagged, unknown]
  | size positive within refused =>
      rw [decode_of_tag positive within]
      simp only [decodeBody, refused]
  | @shortBody declared kind rest allowed short =>
      have bounds := within_of_checkSize allowed
      rw [decode_of_tag (by omega) (by simp only [frameLimit]; omega)]
      have cut : (rest.take (declared.toNat - 1)).length < declared.toNat - 1 := by
        rw [List.length_take]
        omega
      simp only [decodeBody, allowed, cut, if_true]
  | body sized allowed refused =>
      rw [decode_of_body sized allowed, readBody_of_verify_error refused]
  | @complete packet whole rest =>
      have allowed := checkSize_body packet
      have bounds := within_of_checkSize allowed
      obtain ⟨declared, sized⟩
          : ∃ declared : UInt32, declared.toNat = packet.body.length + 1 :=
        ⟨UInt32.ofNat (packet.body.length + 1), UInt32.toNat_ofNat_of_lt' (by
          have : UInt32.size = 4294967296 := rfl
          omega)⟩
      have found := (readBody_eq_ok_iff allowed).mpr ⟨rfl, whole, rfl, rfl⟩
      have length : packet.encode.length = 4 + declared.toNat := by
        simp only [Packet.encode, List.length_append, Bytes.length_ofNat, List.length_cons, sized]
      rw [length, Packet.encode, ← sized, List.append_assoc, List.cons_append,
        decode_of_body sized allowed, found]

theorem judged_decode (received : Bytes) : Judged received (decode received) := by
  obtain ⟨verdict, judged⟩ := exists_judged received
  rw [judged.decode_eq]
  exact judged

/-- Judging and decoding agree, so the relation gives each byte string one verdict. -/
theorem judged_iff {received : Bytes} {verdict : Verdict}
    : Judged received verdict ↔ decode received = verdict := by
  constructor
  · exact Judged.decode_eq
  · rintro rfl
    exact judged_decode received

end Wire

end Handheld
