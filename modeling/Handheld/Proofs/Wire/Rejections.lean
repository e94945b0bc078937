import Handheld.Proofs.Wire.RoundTrip

/-! Why bytes are refused. Main statement: the length, the tag and the size of the body are
refused as soon as they have arrived, a complete frame is accepted exactly when it is the
encoding of a packet, and else the reason that is given holds of its body.
-/

namespace Handheld

namespace Wire

-----------------------------------------------------------------------------------------
-- Sizes
-----------------------------------------------------------------------------------------

namespace PacketKind

/-- The sizes that the body of a kind can have. -/
def Allows : PacketKind → Nat → Prop
  | handshake, size => size = 7
  | config, size => size = 4
  | telemetry, size => 48 ≤ size ∧ size ≤ 144

/-- An allowed size to which no other allowed size is closer. -/
structure Nearest (kind : PacketKind) (size expected : Nat) : Prop where
  allowed : kind.Allows expected
  closest
    : ∀ other, kind.Allows other → ((expected : Int) - size).natAbs ≤ ((other : Int) - size).natAbs

theorem allows_iff {kind : PacketKind} {size : Nat}
    : kind.Allows size ↔ kind.checkSize size = none := by
  rw [checkSize_eq_none_iff]
  cases kind <;>
    simp only [Allows, leastSize, mostSize, telemetryFixedSize, touchLimit, touchSize] <;>
    omega

/-- A size that is refused is reported with the nearest one that is allowed. -/
theorem checkSize_eq_some {kind : PacketKind} {size : Nat} {reason : Malformation}
    (refused : kind.checkSize size = some reason)
    : ∃ expected, kind.Nearest size expected ∧ reason = .bodyLength kind expected size := by
  have bounds : kind.Allows kind.leastSize ∧ kind.Allows kind.mostSize := by
    cases kind <;>
      simp [Allows, leastSize, mostSize, telemetryFixedSize, touchLimit, touchSize]
  have within {other : Nat} (allowed : kind.Allows other)
      : kind.leastSize ≤ other ∧ other ≤ kind.mostSize :=
    checkSize_eq_none_iff.mp (allows_iff.mp allowed)
  simp only [checkSize] at refused
  split at refused
  next below =>
    refine ⟨_, ⟨bounds.1, fun other allowed => ?_⟩, (Option.some.inj refused).symm⟩
    have := within allowed
    omega
  next notBelow =>
    split at refused
    next above =>
      refine ⟨_, ⟨bounds.2, fun other allowed => ?_⟩, (Option.some.inj refused).symm⟩
      have := within allowed
      omega
    next => cases refused

/-- Nothing is nearer to an allowed size than itself. -/
theorem Nearest.eq_of_allows {kind : PacketKind} {size expected : Nat}
    (nearest : kind.Nearest size expected) (allowed : kind.Allows size)
    : expected = size := by
  have := nearest.closest size allowed
  omega

end PacketKind

-----------------------------------------------------------------------------------------
-- Reasons that hold of a body
-----------------------------------------------------------------------------------------

/-- What can be wrong with a body of an allowed size, with the reason that says so. Where the
back count of telemetry stands is told by its front count, also when this is too large.
-/
inductive Mistake : PacketKind → Bytes → Malformation → Prop
  | side {body byte} (found : body[0]? = some byte) (unknown : 1 < byte.toNat)
    : Mistake .handshake body (.side byte)
  | buttons {body low high} {bits : UInt16} {flag : Nat} (lowAt : body[0]? = some low)
    (highAt : body[1]? = some high) (word : bits.toNat = low.toNat + 256 * high.toNat)
    (undefined : 13 ≤ flag) (set : bits.toNat.testBit flag = true)
    : Mistake .telemetry body (.buttons bits)
  | frontCount {body front} (found : body[10]? = some front) (above : 8 < front.toNat)
    : Mistake .telemetry body (.touchCount front)
  | backCount {body front back} (frontAt : body[10]? = some front)
    (found : body[11 + 6 * front.toNat]? = some back) (above : 8 < back.toNat)
    : Mistake .telemetry body (.touchCount back)
  | noBackCount {body front} (frontAt : body[10]? = some front)
    (short : body.length < 12 + 6 * front.toNat)
    : Mistake .telemetry body (.bodyLength .telemetry (12 + 6 * front.toNat) body.length)
  | counts {body front back} (frontAt : body[10]? = some front)
    (backAt : body[11 + 6 * front.toNat]? = some back)
    (differs : body.length ≠ 48 + 6 * (front.toNat + back.toNat))
    : Mistake .telemetry body
        (.bodyLength .telemetry (48 + 6 * (front.toNat + back.toNat)) body.length)

theorem not_defined_iff {bits : UInt16}
    : ¬Buttons.Defined bits ↔ ∃ flag, 13 ≤ flag ∧ bits.toNat.testBit flag = true := by
  constructor
  · intro undefined
    refine Classical.byContradiction fun unset => ?_
    have small : bits.toNat < 2 ^ 13 := Nat.lt_pow_two_of_testBit _ fun flag above =>
      Bool.eq_false_iff.mpr fun set => unset ⟨flag, above, set⟩
    exact undefined small
  · rintro ⟨flag, above, set⟩ defined
    have large : 2 ^ 13 ≤ bits.toNat :=
      Nat.le_trans (Nat.pow_le_pow_right (by decide) above) (Nat.ge_two_pow_of_testBit set)
    exact Nat.not_le.mpr defined large

/-- A step of a check that is passed on finds the fault of the whole, or the rest does. -/
theorem Fault.bind_eq_error {α β : Type} {step : Except Fault α} {next : α → Except Fault β}
    {fault : Fault}
    : step >>= next = .error fault
      ↔ step = .error fault ∨ ∃ value, step = .ok value ∧ next value = .error fault := by
  cases step with
  | error found => simp [bind, Except.bind]
  | ok value => simp [bind, Except.bind]

/-- A count is refused when its byte is missing or above the limit. -/
theorem touchCount_eq_error_iff {body : Bytes} {offset : Nat} {reason : Malformation}
    : touchCount body offset = .error (.malformed reason)
      ↔ (body.length ≤ offset ∧ reason = .bodyLength .telemetry (offset + 1) body.length)
        ∨ ∃ count : UInt8,
            body[offset]? = some count ∧ 8 < count.toNat ∧ reason = .touchCount count := by
  simp only [touchCount, touchLimit]
  cases found : body[offset]? with
  | none =>
      have short := List.getElem?_eq_none_iff.mp found
      simp [short, eq_comm]
  | some count =>
      have inside : ¬body.length ≤ offset := by
        intro short
        rw [List.getElem?_eq_none_iff.mpr short] at found
        cases found
      by_cases above : 8 < count.toNat
      · simp [above, inside, eq_comm]
      · simp [above, inside]

theorem byteAt_ne_malformed {body : Bytes} {offset : Nat} {reason : Malformation}
    : byteAt body offset ≠ .error (.malformed reason) := by
  simp only [byteAt]
  split <;> simp

theorem toNat_word16 (low high : UInt8)
    : (UInt16.ofNat (Bytes.toNat [low, high])).toNat = low.toNat + 256 * high.toNat := by
  have small : Bytes.toNat [low, high] < 256 ^ 2 := Bytes.toNat_lt [low, high]
  rw [UInt16.toNat_ofNat_of_lt' small]
  simp [Bytes.toNat]

/-- The check gives no reason that does not hold, by the steps of the check. -/
theorem mistake_of_verify {kind : PacketKind} {body : Bytes} {reason : Malformation}
    (allowed : kind.Allows body.length)
    (refused : verify kind body = .error (.malformed reason))
    : Mistake kind body reason := by
  cases kind with
  | handshake =>
      obtain none | ⟨byte, found, refused⟩ := Fault.bind_eq_error.mp refused
      · exact absurd none byteAt_ne_malformed
      split at refused
      next unknown =>
        cases refused
        refine .side (byteAt_eq_ok_iff.mp found) (Nat.lt_of_not_le fun known => ?_)
        have side : byte = 0 ∨ byte = 1 := by
          rw [← UInt8.toNat_inj, ← UInt8.toNat_inj]
          exact Nat.le_one_iff_eq_zero_or_eq_one.mp known
        rcases side with rfl | rfl <;> cases unknown
      next => cases refused
  | config => cases refused
  | telemetry =>
      obtain none | ⟨low, lowAt, refused⟩ := Fault.bind_eq_error.mp refused
      · exact absurd none byteAt_ne_malformed
      obtain none | ⟨high, highAt, refused⟩ := Fault.bind_eq_error.mp refused
      · exact absurd none byteAt_ne_malformed
      dsimp only at refused
      split at refused
      next undefined =>
        cases refused
        obtain ⟨flag, above, set⟩ := not_defined_iff.mp undefined
        exact .buttons (byteAt_eq_ok_iff.mp lowAt) (byteAt_eq_ok_iff.mp highAt)
          (toNat_word16 low high) above set
      next =>
        obtain wrong | ⟨_, frontFound, refused⟩ := Fault.bind_eq_error.mp refused
        · obtain ⟨short, rfl⟩ | ⟨front, frontAt, above, rfl⟩ := touchCount_eq_error_iff.mp wrong
          · simp only [PacketKind.Allows, frontCountOffset] at allowed short
            omega
          · exact .frontCount frontAt above
        obtain ⟨front, frontAt, _, rfl⟩ := touchCount_eq_ok_iff.mp frontFound
        have offset
            : frontCountOffset + 1 + front.toNat * touchSize = 11 + 6 * front.toNat := by
          simp only [frontCountOffset, touchSize]
          omega
        rw [offset] at refused
        obtain wrong | ⟨_, backFound, refused⟩ := Fault.bind_eq_error.mp refused
        · obtain ⟨short, rfl⟩ | ⟨back, backAt, above, rfl⟩ := touchCount_eq_error_iff.mp wrong
          · have expected : 11 + 6 * front.toNat + 1 = 12 + 6 * front.toNat := by omega
            rw [expected]
            exact .noBackCount frontAt (by omega)
          · exact .backCount frontAt backAt above
        obtain ⟨back, backAt, _, rfl⟩ := touchCount_eq_ok_iff.mp backFound
        split at refused
        next differs =>
          cases refused
          have expected
              : telemetryFixedSize + (front.toNat + back.toNat) * touchSize
                = 48 + 6 * (front.toNat + back.toNat) := by
            simp only [telemetryFixedSize, touchSize, Nat.mul_comm]
          rw [expected] at differs ⊢
          exact .counts frontAt backAt differs
        next => cases refused

-----------------------------------------------------------------------------------------
-- Verdicts behind an accepted length and a known tag
-----------------------------------------------------------------------------------------

/-- The verdicts on what follows the tag of a kind when a body of `size` bytes is declared. -/
inductive Ruling (kind : PacketKind) (size : Nat) (rest : Bytes) : Verdict → Prop
  | badSize {expected} (refused : ¬kind.Allows size) (nearest : kind.Nearest size expected)
    : Ruling kind size rest (.invalid (.bodyLength kind expected size))
  | waiting (allowed : kind.Allows size) (short : rest.length < size)
    : Ruling kind size rest .incomplete
  | complete {packet : Packet} (allowed : kind.Allows size) (enough : size ≤ rest.length)
    (ofKind : packet.kind = kind) (spelled : packet.body = rest.take size)
    : Ruling kind size rest (.complete packet (5 + size))
  | mistaken {reason} (allowed : kind.Allows size) (enough : size ≤ rest.length)
    (mistake : Mistake kind (rest.take size) reason)
    : Ruling kind size rest (.invalid reason)

theorem ruling_decodeBody (kind : PacketKind) {declared : Nat} (positive : 0 < declared)
    (rest : Bytes)
    : Ruling kind (declared - 1) rest (decodeBody kind declared rest) := by
  simp only [decodeBody]
  cases checked : kind.checkSize (declared - 1) with
  | some reason =>
      obtain ⟨expected, nearest, rfl⟩ := PacketKind.checkSize_eq_some checked
      refine .badSize (fun allowed => ?_) nearest
      rw [PacketKind.allows_iff.mp allowed] at checked
      cases checked
  | none =>
      have allowed := PacketKind.allows_iff.mpr checked
      dsimp only
      rw [List.length_take]
      split
      next short => exact .waiting allowed (by omega)
      next enough =>
        have enough : declared - 1 ≤ rest.length := by omega
        have length : (rest.take (declared - 1)).length = declared - 1 :=
          List.length_take_of_le enough
        have sized : 4 + declared = 5 + (declared - 1) := by omega
        rw [← length] at checked
        rcases readBody_cases checked
          with ⟨packet, ofKind, _, spelled, read⟩ | ⟨reason, refused, read⟩
        · rw [read, sized]
          exact .complete allowed enough ofKind spelled
        · rw [read]
          exact .mistaken allowed enough
            (mistake_of_verify (PacketKind.allows_iff.mpr checked) refused)

/-- A size that is reported is that of the body, and not the expected one. -/
theorem Mistake.size_differs {kind other : PacketKind} {body : Bytes} {expected actual : Nat}
    (mistake : Mistake kind body (.bodyLength other expected actual))
    : actual = body.length ∧ actual ≠ expected := by
  cases mistake with
  | noBackCount frontAt short => exact ⟨rfl, by omega⟩
  | counts frontAt backAt differs => exact ⟨rfl, differs⟩

namespace Ruling

variable {kind : PacketKind} {size : Nat} {rest : Bytes} {verdict : Verdict}

/-- The reasons for a body do not name the length or the tag of its frame. -/
theorem ne_header (ruling : Ruling kind size rest verdict)
    : (∀ declared, verdict ≠ .invalid (.length declared))
      ∧ ∀ tag, verdict ≠ .invalid (.unknownTag tag) := by
  cases ruling with
  | badSize => exact ⟨nofun, nofun⟩
  | waiting => exact ⟨nofun, nofun⟩
  | complete => exact ⟨nofun, nofun⟩
  | mistaken _ _ mistake => cases mistake <;> exact ⟨nofun, nofun⟩

theorem sizes (ruling : Ruling kind size rest verdict)
    : (∃ expected,
        kind.Nearest size expected ∧ verdict = .invalid (.bodyLength kind expected size))
      ↔ ¬kind.Allows size := by
  constructor
  · rintro ⟨expected, nearest, rfl⟩ allowed
    rw [nearest.eq_of_allows allowed] at ruling
    cases ruling with
    | badSize refused => exact refused allowed
    | mistaken _ _ mistake => exact mistake.size_differs.2 rfl
  · intro refused
    cases ruling with
    | badSize _ nearest => exact ⟨_, nearest, rfl⟩
    | waiting allowed => exact absurd allowed refused
    | complete allowed => exact absurd allowed refused
    | mistaken allowed => exact absurd allowed refused

theorem waits (ruling : Ruling kind size rest verdict) (allowed : kind.Allows size)
    : verdict = .incomplete ↔ rest.length < size := by
  cases ruling with
  | badSize refused => exact absurd allowed refused
  | waiting _ short => exact iff_of_true rfl short
  | complete _ enough => exact iff_of_false nofun (Nat.not_lt.mpr enough)
  | mistaken _ enough => exact iff_of_false nofun (Nat.not_lt.mpr enough)

/-- A packet that is read is encoded as the bytes that it was read from. -/
theorem reads {packet : Packet} {consumed : Nat}
    (ruling : Ruling kind size rest (.complete packet consumed))
    : consumed = 5 + size
      ∧ packet.encode = Bytes.ofNat 4 (size + 1) ++ kind.tag :: rest.take size := by
  cases ruling with
  | complete allowed enough ofKind spelled =>
      have length : packet.body.length = size := by
        rw [spelled, List.length_take_of_le enough]
      refine ⟨rfl, ?_⟩
      rw [Packet.encode, length, ofKind, spelled]

theorem refuses (ruling : Ruling kind size rest verdict) (allowed : kind.Allows size)
    (enough : size ≤ rest.length)
    (unread : ∀ packet consumed, verdict ≠ .complete packet consumed)
    : ∃ reason, verdict = .invalid reason ∧ Mistake kind (rest.take size) reason := by
  cases ruling with
  | badSize refused => exact absurd allowed refused
  | waiting _ short => exact absurd enough (Nat.not_le.mpr short)
  | complete => exact absurd rfl (unread _ _)
  | mistaken _ _ mistake => exact ⟨_, rfl, mistake⟩

end Ruling

/-- How received bytes are answered that start with the tag of a kind behind an accepted
length.
-/
structure Answered (kind : PacketKind) (declared : Nat) (received : Bytes) : Prop where
  sizes
    : (∃ expected,
        kind.Nearest (declared - 1) expected
        ∧ decode received = .invalid (.bodyLength kind expected (declared - 1)))
      ↔ ¬kind.Allows (declared - 1)
  waits
    : kind.Allows (declared - 1)
      → (decode received = .incomplete ↔ received.length < 4 + declared)
  accepts
    : 4 + declared ≤ received.length
      → ((∃ packet consumed, decode received = .complete packet consumed)
        ↔ ∃ packet : Packet, packet.encode = received.take (4 + declared))
  reads
    : ∀ packet consumed,
        decode received = .complete packet consumed
        → consumed = 4 + declared ∧ packet.encode = received.take (4 + declared)
  refuses
    : kind.Allows (declared - 1)
      → 4 + declared ≤ received.length
      → (¬∃ packet : Packet, packet.encode = received.take (4 + declared))
      → ∃ reason,
          decode received = .invalid reason
          ∧ Mistake kind ((received.drop 5).take (declared - 1)) reason

/-- The encoding of a packet in front is read. -/
theorem decode_of_take_eq_encode {packet : Packet} {received : Bytes} {size : Nat}
    (enough : size ≤ received.length) (spelled : packet.encode = received.take size)
    : decode received = .complete packet.trimmed size := by
  have length : packet.encode.length = size := by
    rw [spelled, List.length_take_of_le enough]
  have whole := List.take_append_drop size received
  rw [← spelled] at whole
  rw [← whole, (decode_encode_append packet _).1, length]

theorem answered {declared : UInt32} (positive : 0 < declared.toNat)
    (within : declared.toNat ≤ frameLimit) (kind : PacketKind) (rest : Bytes)
    : Answered kind declared.toNat (Bytes.ofNat 4 declared.toNat ++ kind.tag :: rest) := by
  obtain ⟨size, sized⟩ : ∃ size, declared.toNat = size + 1 :=
    ⟨_, (Nat.sub_add_cancel positive).symm⟩
  have ruling := ruling_decodeBody kind positive rest
  rw [← decode_of_tag positive within] at ruling
  rw [sized, Nat.add_sub_cancel] at ruling
  have total : 4 + (size + 1) = 5 + size := by omega
  have front
      : (Bytes.ofNat 4 (size + 1) ++ kind.tag :: rest).take (5 + size)
        = Bytes.ofNat 4 (size + 1) ++ kind.tag :: rest.take size := by
    rw [← total, List.take_append, Bytes.length_ofNat, List.take_of_length_le (by simp),
      Nat.add_sub_cancel_left, List.take_succ_cons]
  have behind : (Bytes.ofNat 4 (size + 1) ++ kind.tag :: rest).drop 5 = rest := by
    rw [List.drop_append, Bytes.length_ofNat, List.drop_of_length_le (by simp)]
    rfl
  have length : (Bytes.ofNat 4 (size + 1) ++ kind.tag :: rest).length = 5 + rest.length := by
    rw [List.length_append, Bytes.length_ofNat, List.length_cons]
    omega
  rw [sized]
  generalize received : Bytes.ofNat 4 (size + 1) ++ kind.tag :: rest = bytes at *
  have reads (packet : Packet) (consumed : Nat)
      (found : decode bytes = .complete packet consumed)
      : consumed = 5 + size ∧ packet.encode = bytes.take (5 + size) := by
    rw [found] at ruling
    exact ⟨ruling.reads.1, ruling.reads.2.trans front.symm⟩
  refine {
    sizes := ruling.sizes
    waits := fun allowed => (ruling.waits allowed).trans (by omega)
    accepts := ?_
    reads := ?_
    refuses := ?_
  }
  · rw [total]
    intro enough
    constructor
    · rintro ⟨packet, consumed, found⟩
      exact ⟨packet, (reads packet consumed found).2⟩
    · rintro ⟨packet, spelled⟩
      exact ⟨_, _, decode_of_take_eq_encode enough spelled⟩
  · rw [total]
    exact reads
  · rw [total, Nat.add_sub_cancel, behind]
    intro allowed enough refused
    refine ruling.refuses allowed (by omega) fun packet consumed found => ?_
    exact refused ⟨packet, (reads packet consumed found).2⟩

-----------------------------------------------------------------------------------------
-- Every rejection
-----------------------------------------------------------------------------------------

theorem ofTag?_eq_none_iff {tag : UInt8} : PacketKind.ofTag? tag = none ↔ tag ∉ [1, 2, 3] := by
  simp only [PacketKind.ofTag?, List.mem_cons, List.not_mem_nil, or_false, not_or]
  split
  next first => simp [first]
  next notFirst =>
    split
    next second => simp [second]
    next notSecond => split <;> simp [*]

/-- Bytes behind an accepted length are never refused for it. -/
theorem decodeTagged_ne_length {declared : Nat} (positive : 0 < declared) (behind : Bytes)
    (value : UInt32)
    : decodeTagged declared behind ≠ .invalid (.length value) := by
  cases behind with
  | nil => exact nofun
  | cons tag rest =>
      cases known : PacketKind.ofTag? tag with
      | none => simp [decodeTagged, known]
      | some kind =>
          simp only [decodeTagged, known]
          exact (ruling_decodeBody kind positive rest).ne_header.1 value

theorem decodeTagged_unknownTag_iff {declared : Nat} (positive : 0 < declared) (tag : UInt8)
    (rest : Bytes)
    : decodeTagged declared (tag :: rest) = .invalid (.unknownTag tag) ↔ tag ∉ [1, 2, 3] := by
  rw [← ofTag?_eq_none_iff]
  cases known : PacketKind.ofTag? tag with
  | none => simp [decodeTagged, known]
  | some kind =>
      simp only [decodeTagged, known]
      exact iff_of_false ((ruling_decodeBody kind positive rest).ne_header.2 tag)
        (Option.some_ne_none kind)

/-- Bytes that differ from the heartbeat are refused for their length as soon as it is there,
then for their tag, then for the size of their body, whatever follows. Bytes that pass all
three wait for the rest of the frame, which is accepted if it is the encoding of a packet and
else refused for a reason that holds of its body.
-/
theorem rejections_exact {received : Bytes} (apart : Apart received)
    : (received.length < 4 → decode received = .incomplete)
      ∧ ∀ declared : UInt32,
          4 ≤ received.length
          → Bytes.toNat (received.take 4) = declared.toNat
          → (decode received = .invalid (.length declared)
              ↔ declared.toNat = 0 ∨ 65536 < declared.toNat)
            ∧ (0 < declared.toNat
              → declared.toNat ≤ 65536
              → (received.length = 4 → decode received = .incomplete)
                ∧ ∀ tag,
                    received[4]? = some tag
                    → (decode received = .invalid (.unknownTag tag) ↔ tag ∉ [1, 2, 3])
                      ∧ ∀ kind : PacketKind,
                          kind.tag = tag → Answered kind declared.toNat received) := by
  refine ⟨fun short => (Judged.shortLength apart short).decode_eq, ?_⟩
  intro declared present number
  obtain ⟨found, behind, rfl, length⟩ := word32_field.split received present
  obtain rfl : found = declared := by
    rw [List.take_left' (Bytes.length_ofNat 4 _), toNat_ofNat_word32] at number
    exact UInt32.toNat_inj.mp number
  constructor
  · rw [decode_of_apart apart]
    by_cases outside : found.toNat = 0 ∨ frameLimit < found.toNat
    · rw [if_pos outside]
      exact iff_of_true rfl outside
    · rw [if_neg outside]
      exact iff_of_false (decodeTagged_ne_length (by omega) behind found) outside
  intro positive within
  have decided := decode_of_within positive within behind
  constructor
  · intro four
    rw [decided, List.length_eq_zero_iff.mp (by omega : behind.length = 0), decodeTagged]
  intro tag tagAt
  rw [List.getElem?_append_right (by simp), Bytes.length_ofNat] at tagAt
  obtain ⟨rest, rfl⟩ : ∃ rest, behind = tag :: rest := by
    cases behind with
    | nil => cases tagAt
    | cons first rest => exact ⟨rest, by rw [Option.some.inj tagAt]⟩
  constructor
  · rw [decided]
    exact decodeTagged_unknownTag_iff positive tag rest
  · rintro kind rfl
    exact answered positive within kind rest

/-- Telemetry of the least size whose front count leaves no room for the back count. -/
theorem rejections_exact_no_back_count
    : let received : Bytes :=
        [49, 0, 0, 0, 3] ++ List.replicate 10 0 ++ [8] ++ List.replicate 37 0
      Apart received
      ∧ Answered .telemetry 49 received
      ∧ decode received = .invalid (.bodyLength .telemetry 60 48)
      ∧ Mistake .telemetry ((received.drop 5).take 48) (.bodyLength .telemetry 60 48) := by
  intro received
  have apart : Apart received := ⟨by decide, by decide⟩
  obtain ⟨-, stages⟩ := rejections_exact apart
  obtain ⟨-, accepted⟩ := stages 49 (by decide) (by decide)
  obtain ⟨-, tagged⟩ := accepted (by decide) (by decide)
  obtain ⟨-, answers⟩ := tagged 3 (by decide)
  have answered := answers .telemetry rfl
  have verdict : decode received = .invalid (.bodyLength .telemetry 60 48) := by decide +kernel
  have unread : ¬∃ packet : Packet, packet.encode = received.take 53 := by
    intro encoded
    obtain ⟨packet, consumed, read⟩ := (answered.accepts (by decide)).mpr encoded
    cases verdict.symm.trans read
  obtain ⟨reason, refused, mistake⟩ :=
    answered.refuses ⟨by decide, by decide⟩ (by decide) unread
  cases verdict.symm.trans refused
  exact ⟨apart, answered, verdict, mistake⟩

end Wire

end Handheld
