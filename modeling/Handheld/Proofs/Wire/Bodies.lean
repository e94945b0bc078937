import Handheld.Proofs.Wire.Telemetry

/-! The check of a body licenses its reader. Of a body whose size its kind allows, the check
passes exactly when the body is that of a packet within the touch limit, and the reader then
gives this packet and takes every byte, never one past the end.
-/

namespace Handheld

namespace Wire

-----------------------------------------------------------------------------------------
-- Bodies of packets
-----------------------------------------------------------------------------------------

namespace Packet

@[simp]
theorem kind_trimmed (packet : Packet) : packet.trimmed.kind = packet.kind := by
  cases packet <;> rfl

@[simp]
theorem trimmed_trimmed (packet : Packet) : packet.trimmed.trimmed = packet.trimmed := by
  cases packet <;> simp [trimmed, List.take_take]

end Packet

@[simp]
theorem Packet.body_trimmed (packet : Packet) : packet.trimmed.body = packet.body := by
  cases packet <;> simp [trimmed, body, encodeTouches_take]

theorem PacketKind.checkSize_eq_none_iff {kind : PacketKind} {actual : Nat}
    : kind.checkSize actual = none ↔ kind.leastSize ≤ actual ∧ actual ≤ kind.mostSize := by
  simp only [checkSize]
  split
  · simp
    omega
  · split
    · simp
      omega
    · simp
      omega

theorem checkSize_body (packet : Packet)
    : packet.kind.checkSize packet.body.length = none := by
  rw [PacketKind.checkSize_eq_none_iff]
  cases packet with
  | handshake opening =>
      simp [Packet.body, Packet.kind, PacketKind.leastSize, PacketKind.mostSize]
  | config pollingMicros =>
      simp [Packet.body, Packet.kind, PacketKind.leastSize, PacketKind.mostSize]
  | telemetry telemetry =>
      have front := List.length_take_le touchLimit telemetry.frame.frontTouches
      have back := List.length_take_le touchLimit telemetry.frame.backTouches
      rw [length_body_telemetry]
      simp only [Packet.kind, PacketKind.leastSize, PacketKind.mostSize,
        telemetryFixedSize, touchLimit, touchSize] at *
      omega

-----------------------------------------------------------------------------------------
-- Reading back the body of a packet
-----------------------------------------------------------------------------------------

namespace Reader

theorem side_toByte (sender : Side) (rest : Bytes)
    : side (sender.toByte :: rest) = .ok (sender, rest) := by
  cases sender <;> simp only [side, bind_apply, byte_cons] <;> rfl

theorem buttons_bits (held : Buttons) (rest : Bytes)
    : buttons (Bytes.ofNat 2 held.bits.toNat ++ rest) = .ok (held, rest) := by
  simp only [buttons, bind_apply, word16_field.read_spell, Buttons.ofBits?,
    dif_pos held.defined, pure_apply]

/-- A touch block gives the reports that were sent. -/
theorem touches_encodeTouches (reports : List TouchReport) (rest : Bytes)
    : touches (encodeTouches reports ++ rest) = .ok (reports.take touchLimit, rest) := by
  have small : (reports.take touchLimit).length < 256 := by
    have := List.length_take_le touchLimit reports
    simp only [touchLimit] at *
    omega
  simp only [touches, encodeTouches, List.cons_append, bind_apply, byte_cons,
    UInt8.toNat_ofNat_of_lt' small, touchList_flatMap]

/-- The reader of a kind takes a body of this kind and no byte behind it. -/
theorem packet_body (sent : Packet) (rest : Bytes)
    : packet sent.kind (sent.body ++ rest) = .ok (sent.trimmed, rest) := by
  cases sent with
  | handshake opening =>
      simp only [Packet.kind, packet, Packet.body, Packet.trimmed, List.append_assoc,
        List.cons_append, List.nil_append, bind_apply, pure_apply, side_toByte,
        word16_field.read_spell, word32_field.read_spell]
  | config pollingMicros =>
      simp only [Packet.kind, packet, Packet.body, Packet.trimmed, bind_apply, pure_apply,
        word32_field.read_spell]
  | telemetry telemetry =>
      simp only [Packet.kind, packet, Packet.body, Packet.trimmed, List.append_assoc,
        bind_apply, pure_apply, buttons_bits, signed16_field.read_spell,
        touches_encodeTouches, axes_field.read_spell, word64_field.read_spell,
        signed32_field.read_spell]

end Reader

-----------------------------------------------------------------------------------------
-- What the check accepts
-----------------------------------------------------------------------------------------

/-- A step of a check is passed when it gives a value with which the rest is passed. -/
theorem Fault.bind_eq_ok {α β : Type} {step : Except Fault α} {next : α → Except Fault β}
    {result : β}
    : step >>= next = .ok result ↔ ∃ value, step = .ok value ∧ next value = .ok result := by
  cases step with
  | error fault => simp [bind, Except.bind]
  | ok value => simp [bind, Except.bind]

/-- A check stays within a body when each of its steps does. -/
theorem Fault.bind_ne_pastEnd {α β : Type} {step : Except Fault α}
    {next : α → Except Fault β} (within : step ≠ .error .pastEnd)
    (later : ∀ value, next value ≠ .error .pastEnd)
    : step >>= next ≠ .error .pastEnd := by
  cases step with
  | error fault => simpa [bind, Except.bind] using within
  | ok value => exact later value

theorem Fault.malformed_ne_pastEnd {α : Type} (reason : Malformation)
    : (throw (malformed reason) : Except Fault α) ≠ .error .pastEnd := by
  intro found
  cases found

theorem Fault.pure_ne_pastEnd {α : Type} (value : α)
    : (pure value : Except Fault α) ≠ .error .pastEnd := by
  intro found
  cases found

theorem byteAt_eq_ok_iff {body : Bytes} {offset : Nat} {byte : UInt8}
    : byteAt body offset = .ok byte ↔ body[offset]? = some byte := by
  simp only [byteAt]
  cases body[offset]? <;> simp

theorem byteAt_ne_pastEnd {body : Bytes} {offset : Nat} (inside : offset < body.length)
    : byteAt body offset ≠ .error .pastEnd := by
  simp [byteAt, List.getElem?_eq_getElem inside]

/-- A count is found when its byte is there and within the limit. -/
theorem touchCount_eq_ok_iff {body : Bytes} {offset number : Nat}
    : touchCount body offset = .ok number
      ↔ ∃ count : UInt8,
          body[offset]? = some count ∧ count.toNat ≤ touchLimit ∧ count.toNat = number := by
  simp only [touchCount]
  cases body[offset]? with
  | none => simp
  | some count =>
      by_cases above : touchLimit < count.toNat
      · simp [above, Nat.not_le.mpr above]
      · simp [above, Nat.not_lt.mp above]

/-- A missing count byte makes a body too short, which is a reason of its own. -/
theorem touchCount_ne_pastEnd (body : Bytes) (offset : Nat)
    : touchCount body offset ≠ .error .pastEnd := by
  simp only [touchCount]
  split
  · simp
  · split <;> simp

theorem ofNat_word16_toNat (low high : UInt8)
    : Bytes.ofNat 2 (UInt16.ofNat (Bytes.toNat [low, high])).toNat = [low, high] := by
  have small : Bytes.toNat [low, high] < 256 ^ 2 := Bytes.toNat_lt [low, high]
  rw [UInt16.toNat_ofNat_of_lt' small]
  exact Bytes.ofNat_toNat [low, high]

/-- The check of telemetry passes exactly the bodies of the right shape. -/
theorem verify_telemetry_iff {body : Bytes}
    : verify .telemetry body = .ok () ↔ ∃ bits front back, TelemetryShape body bits front back := by
  constructor
  · intro passed
    obtain ⟨low, lowAt, passed⟩ := Fault.bind_eq_ok.mp passed
    obtain ⟨high, highAt, passed⟩ := Fault.bind_eq_ok.mp passed
    dsimp only at passed
    split at passed
    · cases passed
    next defined =>
    obtain ⟨_, frontFound, passed⟩ := Fault.bind_eq_ok.mp passed
    obtain ⟨_, backFound, passed⟩ := Fault.bind_eq_ok.mp passed
    split at passed
    · cases passed
    next length =>
    obtain ⟨front, frontAt, frontLe, rfl⟩ := touchCount_eq_ok_iff.mp frontFound
    obtain ⟨back, backAt, backLe, rfl⟩ := touchCount_eq_ok_iff.mp backFound
    rw [byteAt_eq_ok_iff] at lowAt highAt
    refine ⟨UInt16.ofNat (Bytes.toNat [low, high]), front, back, {
      bits_at := ?_
      defined := Decidable.not_not.mp defined
      front_at := frontAt
      front_le := frontLe
      back_at := backAt
      back_le := backLe
      length_eq := Decidable.not_not.mp length
    }⟩
    rw [ofNat_word16_toNat, List.take_add_one, List.take_add_one, lowAt, highAt]
    rfl
  · rintro ⟨bits, front, back, shape⟩
    obtain ⟨low, high, rest, rfl⟩ : ∃ low high rest, body = low :: high :: rest := by
      obtain ⟨low, high, spelled⟩ : ∃ low high, Bytes.ofNat 2 bits.toNat = [low, high] :=
        ⟨_, _, rfl⟩
      have whole := List.take_append_drop 2 body
      rw [shape.bits_at, spelled] at whole
      exact ⟨low, high, body.drop 2, whole.symm⟩
    have bitsEq : UInt16.ofNat (Bytes.toNat [low, high]) = bits := by
      have spelled : [low, high] = Bytes.ofNat 2 bits.toNat := shape.bits_at
      rw [spelled, toNat_ofNat_word16, UInt16.ofNat_toNat]
    have frontFound := touchCount_eq_ok_iff.mpr ⟨front, shape.front_at, shape.front_le, rfl⟩
    have backFound := touchCount_eq_ok_iff.mpr ⟨back, shape.back_at, shape.back_le, rfl⟩
    refine Fault.bind_eq_ok.mpr ⟨low, rfl, Fault.bind_eq_ok.mpr ⟨high, rfl, ?_⟩⟩
    dsimp only
    rw [bitsEq, if_neg (Decidable.not_not.mpr shape.defined)]
    refine Fault.bind_eq_ok.mpr ⟨_, frontFound, Fault.bind_eq_ok.mpr ⟨_, backFound, ?_⟩⟩
    rw [if_neg (Decidable.not_not.mpr shape.length_eq)]
    rfl

-----------------------------------------------------------------------------------------
-- The check and the reader together
-----------------------------------------------------------------------------------------

theorem verify_body (packet : Packet) : verify packet.kind packet.body = .ok () := by
  cases packet with
  | handshake opening =>
      obtain ⟨sender, port, heartbeatSeconds⟩ := opening
      cases sender <;> rfl
  | config pollingMicros => rfl
  | telemetry telemetry =>
      exact verify_telemetry_iff.mpr ⟨_, _, _, TelemetryShape.of_body telemetry⟩

theorem Side.exists_toByte {byte : UInt8} (known : ¬(ofByte? byte).isNone)
    : ∃ side : Side, side.toByte = byte := by
  by_cases client : byte = 0
  · exact ⟨.client, client.symm⟩
  · by_cases server : byte = 1
    · exact ⟨.server, server.symm⟩
    · simp [ofByte?, client, server] at known

/-- What passes the check is the body of a packet within the touch limit. -/
theorem exists_packet_of_verify {kind : PacketKind} {body : Bytes}
    (size : kind.checkSize body.length = none) (passed : verify kind body = .ok ())
    : ∃ packet : Packet, packet.kind = kind ∧ packet.trimmed = packet ∧ packet.body = body := by
  obtain ⟨least, most⟩ := PacketKind.checkSize_eq_none_iff.mp size
  cases kind with
  | handshake =>
      simp only [PacketKind.leastSize, PacketKind.mostSize] at least most
      obtain ⟨sender, bytes, rfl, behindSender⟩ := byte_field.split body (by omega)
      obtain ⟨port, bytes, rfl, behindPort⟩ := word16_field.split bytes (by omega)
      obtain ⟨seconds, rfl⟩ := word32_field.exists_spell bytes (by omega)
      obtain ⟨_, found, passed⟩ := Fault.bind_eq_ok.mp passed
      cases found
      split at passed
      · cases passed
      next known =>
      obtain ⟨side, rfl⟩ := Side.exists_toByte known
      exact ⟨.handshake ⟨side, port, seconds⟩, rfl, rfl, by simp [Packet.body]⟩
  | config =>
      simp only [PacketKind.leastSize, PacketKind.mostSize] at least most
      obtain ⟨pollingMicros, rfl⟩ := word32_field.exists_spell body (by omega)
      exact ⟨.config pollingMicros, rfl, rfl, rfl⟩
  | telemetry =>
      obtain ⟨bits, front, back, shape⟩ := verify_telemetry_iff.mp passed
      obtain ⟨telemetry, whole, spelled⟩ := shape.exists_packet
      exact ⟨.telemetry telemetry, rfl, whole, spelled⟩

/-- The check of a body that is long enough never looks past its end. -/
theorem verify_ne_pastEnd {kind : PacketKind} {body : Bytes}
    (size : kind.checkSize body.length = none)
    : verify kind body ≠ .error .pastEnd := by
  obtain ⟨least, most⟩ := PacketKind.checkSize_eq_none_iff.mp size
  cases kind with
  | handshake =>
      simp only [PacketKind.leastSize] at least
      refine Fault.bind_ne_pastEnd (byteAt_ne_pastEnd (by omega)) (fun _ => ?_)
      split
      · exact Fault.malformed_ne_pastEnd _
      · exact Fault.pure_ne_pastEnd ()
  | config => exact Fault.pure_ne_pastEnd ()
  | telemetry =>
      simp only [PacketKind.leastSize, telemetryFixedSize] at least
      refine Fault.bind_ne_pastEnd (byteAt_ne_pastEnd (by omega)) (fun _ => ?_)
      refine Fault.bind_ne_pastEnd (byteAt_ne_pastEnd (by omega)) (fun _ => ?_)
      dsimp only
      split
      · exact Fault.malformed_ne_pastEnd _
      refine Fault.bind_ne_pastEnd (touchCount_ne_pastEnd _ _) (fun _ => ?_)
      refine Fault.bind_ne_pastEnd (touchCount_ne_pastEnd _ _) (fun _ => ?_)
      split
      · exact Fault.malformed_ne_pastEnd _
      · exact Fault.pure_ne_pastEnd ()

/-- A body of an allowed size is read to a packet exactly when it is the body of this packet,
which keeps within the touch limit; then no byte is left.
-/
theorem readBody_eq_ok_iff {kind : PacketKind} {body left : Bytes} {packet : Packet}
    (size : kind.checkSize body.length = none)
    : readBody kind body = .ok (packet, left)
      ↔ packet.kind = kind ∧ packet.trimmed = packet ∧ packet.body = body ∧ left = [] := by
  have read (sent : Packet) : readBody sent.kind sent.body = .ok (sent.trimmed, []) := by
    refine Fault.bind_eq_ok.mpr ⟨(), verify_body sent, ?_⟩
    simpa only [List.append_nil] using Reader.packet_body sent []
  constructor
  · intro found
    obtain ⟨_, passed, _⟩ := Fault.bind_eq_ok.mp found
    obtain ⟨sent, rfl, whole, rfl⟩ := exists_packet_of_verify size passed
    rw [read, whole] at found
    obtain ⟨rfl, rfl⟩ := Prod.mk.inj (Except.ok.inj found)
    exact ⟨rfl, whole, rfl, rfl⟩
  · rintro ⟨rfl, whole, rfl, rfl⟩
    rw [read, whole]

theorem readBody_of_verify_error {kind : PacketKind} {body : Bytes} {fault : Fault}
    (refused : verify kind body = .error fault)
    : readBody kind body = .error fault := by
  simp only [readBody, refused, bind, Except.bind]

/-- A body of an allowed size is read to a packet or found malformed. -/
theorem readBody_cases {kind : PacketKind} {body : Bytes}
    (size : kind.checkSize body.length = none)
    : (∃ packet : Packet,
        packet.kind = kind ∧ packet.trimmed = packet ∧ packet.body = body
        ∧ readBody kind body = .ok (packet, []))
      ∨ ∃ reason,
          verify kind body = .error (.malformed reason)
          ∧ readBody kind body = .error (.malformed reason) := by
  cases passed : verify kind body with
  | ok =>
      obtain ⟨packet, ofKind, whole, spelled⟩ := exists_packet_of_verify size passed
      have found := (readBody_eq_ok_iff size).mpr ⟨ofKind, whole, spelled, rfl⟩
      exact .inl ⟨packet, ofKind, whole, spelled, found⟩
  | error fault =>
      cases fault with
      | pastEnd => exact absurd passed (verify_ne_pastEnd size)
      | malformed reason => exact .inr ⟨reason, rfl, readBody_of_verify_error passed⟩

end Wire

end Handheld
