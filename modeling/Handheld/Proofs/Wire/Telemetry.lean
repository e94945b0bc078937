import Handheld.Proofs.Wire.Fields

/-! Telemetry bodies: a head of fixed size, a touch block for each surface, a tail of fixed
size. Where the count of the second block stands depends on the first one. Main statement: the
bodies with defined buttons and with touch counts that add up are those of telemetry packets.
-/

namespace Handheld

namespace Wire

/-- The touch reports above the limit are never sent. -/
theorem encodeTouches_take (reports : List TouchReport)
    : encodeTouches (reports.take touchLimit) = encodeTouches reports := by
  simp [encodeTouches, List.take_take]

theorem length_encodeTouches (reports : List TouchReport)
    : (encodeTouches reports).length = 1 + (reports.take touchLimit).length * touchSize := by
  simp only [encodeTouches, List.length_cons, length_flatMap_encodeTouch, Nat.add_comm]

/-- Reports within the limit are all sent, behind their count. -/
theorem encodeTouches_of_length {reports : List TouchReport} {count : UInt8}
    (counted : reports.length = count.toNat) (within : count.toNat ≤ touchLimit)
    : encodeTouches reports = count :: reports.flatMap encodeTouch := by
  have whole : reports.take touchLimit = reports :=
    List.take_of_length_le (by omega)
  simp only [encodeTouches, whole, counted, UInt8.ofNat_toNat]

/-- What a telemetry body holds before its touch blocks: the buttons and the sticks. -/
def telemetryHead (frame : Frame) : Bytes :=
  Bytes.ofNat 2 frame.buttons.bits.toNat
    ++ Bytes.ofNat 2 frame.lx.toUInt16.toNat
    ++ Bytes.ofNat 2 frame.ly.toUInt16.toNat
    ++ Bytes.ofNat 2 frame.rx.toUInt16.toNat
    ++ Bytes.ofNat 2 frame.ry.toUInt16.toNat

/-- What a telemetry body holds behind its touch blocks: motion, time and battery. -/
def telemetryTail (telemetry : Telemetry) : Bytes :=
  encodeAxes telemetry.frame.gyro
    ++ encodeAxes telemetry.frame.accel
    ++ Bytes.ofNat 8 telemetry.frame.timestamp.toNat
    ++ Bytes.ofNat 4 telemetry.battery.toUInt32.toNat

theorem body_telemetry (telemetry : Telemetry)
    : (Packet.telemetry telemetry).body
      = telemetryHead telemetry.frame
        ++ (encodeTouches telemetry.frame.frontTouches
          ++ (encodeTouches telemetry.frame.backTouches ++ telemetryTail telemetry)) := by
  simp only [Packet.body, telemetryHead, telemetryTail, List.append_assoc]

theorem length_body_telemetry (telemetry : Telemetry)
    : (Packet.telemetry telemetry).body.length
      = telemetryFixedSize
        + ((telemetry.frame.frontTouches.take touchLimit).length
          + (telemetry.frame.backTouches.take touchLimit).length) * touchSize := by
  simp only [Packet.body, List.length_append, Bytes.length_ofNat, length_encodeTouches,
    axes_field.length_spell, telemetryFixedSize, Nat.add_mul]
  omega

/-- A telemetry body whose touch counts stay within the limit and add up to its size, with
`bits` for its buttons and `front` and `back` for the counts.
-/
structure TelemetryShape (body : Bytes) (bits : UInt16) (front back : UInt8) : Prop where
  bits_at : body.take 2 = Bytes.ofNat 2 bits.toNat
  defined : Buttons.Defined bits
  front_at : body[frontCountOffset]? = some front
  front_le : front.toNat ≤ touchLimit
  back_at : body[frontCountOffset + 1 + front.toNat * touchSize]? = some back
  back_le : back.toNat ≤ touchLimit
  length_eq
    : body.length = telemetryFixedSize + (front.toNat + back.toNat) * touchSize

/-- The count of the second touch block stands right behind the reports of the first. -/
theorem getElem?_backCount {head rest : Bytes} {fronts : List TouchReport} {front back : UInt8}
    (headLength : head.length = frontCountOffset) (counted : fronts.length = front.toNat)
    : (head ++ front :: (fronts.flatMap encodeTouch ++ back :: rest))[
        frontCountOffset + 1 + front.toNat * touchSize]?
      = some back := by
  have length
      : (head ++ front :: fronts.flatMap encodeTouch).length
        = frontCountOffset + 1 + front.toNat * touchSize := by
    simp only [List.length_append, List.length_cons, length_flatMap_encodeTouch, headLength,
      counted, Nat.add_assoc, Nat.add_comm 1]
  have split
      : head ++ front :: (fronts.flatMap encodeTouch ++ back :: rest)
        = (head ++ front :: fronts.flatMap encodeTouch) ++ back :: rest := by
    simp only [List.append_assoc, List.cons_append]
  rw [split, ← length, List.getElem?_append_right (Nat.le_refl _), Nat.sub_self]
  rfl

/-- A body of the right shape is a head, two touch blocks and a tail. -/
theorem TelemetryShape.split {body : Bytes} {bits : UInt16} {front back : UInt8}
    (shape : TelemetryShape body bits front back)
    : ∃ (head : Bytes) (fronts backs : List TouchReport) (tail : Bytes),
        body = head ++ (encodeTouches fronts ++ (encodeTouches backs ++ tail))
        ∧ head.length = frontCountOffset
        ∧ fronts.length ≤ touchLimit
        ∧ backs.length ≤ touchLimit
        ∧ tail.length = 36 := by
  have length := shape.length_eq
  simp only [telemetryFixedSize, Nat.add_mul] at length
  obtain ⟨inside, frontEq⟩ := List.getElem?_eq_some_iff.mp shape.front_at
  obtain ⟨head, bytes, rfl, headLength⟩
      : ∃ head bytes, body = head ++ front :: bytes ∧ head.length = frontCountOffset := by
    refine ⟨body.take frontCountOffset, body.drop (frontCountOffset + 1), ?_, ?_⟩
    · rw [← frontEq, ← List.drop_eq_getElem_cons, List.take_append_drop]
    · exact List.length_take_of_le (Nat.le_of_lt inside)
  simp only [List.length_append, List.length_cons, headLength, frontCountOffset] at length
  obtain ⟨fronts, bytes, rfl, frontCounted, behindFronts⟩ :=
    splitTouches front.toNat bytes (by omega)
  obtain ⟨found, bytes, rfl, behindBack⟩ := byte_field.split bytes (by omega)
  obtain rfl : found = back :=
    Option.some.inj ((getElem?_backCount headLength frontCounted).symm.trans shape.back_at)
  obtain ⟨backs, tail, rfl, backCounted, behindBacks⟩ :=
    splitTouches found.toNat bytes (by omega)
  refine ⟨head, fronts, backs, tail, ?_, headLength, ?_, ?_, by omega⟩
  · rw [encodeTouches_of_length frontCounted shape.front_le,
      encodeTouches_of_length backCounted shape.back_le]
    simp only [List.cons_append, List.nil_append]
  · exact frontCounted ▸ shape.front_le
  · exact backCounted ▸ shape.back_le

/-- A body of the right shape is that of a telemetry packet, which is read off its fields. -/
theorem TelemetryShape.exists_packet {body : Bytes} {bits : UInt16} {front back : UInt8}
    (shape : TelemetryShape body bits front back)
    : ∃ telemetry : Telemetry,
        (Packet.telemetry telemetry).trimmed = .telemetry telemetry
        ∧ (Packet.telemetry telemetry).body = body := by
  obtain ⟨head, fronts, backs, tail, rfl, headLength, frontLe, backLe, tailLength⟩ := shape.split
  simp only [frontCountOffset] at headLength
  have bitsAt := shape.bits_at
  rw [List.take_append_of_le_length (by omega)] at bitsAt
  obtain ⟨bytes, rfl⟩ : ∃ bytes, head = Bytes.ofNat 2 bits.toNat ++ bytes :=
    ⟨head.drop 2, by rw [← bitsAt, List.take_append_drop]⟩
  rw [List.length_append, Bytes.length_ofNat] at headLength
  obtain ⟨lx, bytes, rfl, behindLx⟩ := signed16_field.split bytes (by omega)
  obtain ⟨ly, bytes, rfl, behindLy⟩ := signed16_field.split bytes (by omega)
  obtain ⟨rx, bytes, rfl, behindRx⟩ := signed16_field.split bytes (by omega)
  obtain ⟨ry, rfl⟩ := signed16_field.exists_spell bytes (by omega)
  obtain ⟨gyro, bytes, rfl, behindGyro⟩ := axes_field.split tail (by omega)
  obtain ⟨accel, bytes, rfl, behindAccel⟩ := axes_field.split bytes (by omega)
  obtain ⟨timestamp, bytes, rfl, behindTimestamp⟩ :=
    word64_field.split bytes (by omega)
  obtain ⟨battery, rfl⟩ := signed32_field.exists_spell bytes (by omega)
  refine ⟨⟨{
    buttons := ⟨bits, shape.defined⟩
    lx, ly, rx, ry, gyro, accel, timestamp
    frontTouches := fronts
    backTouches := backs
  }, battery⟩, ?_, ?_⟩
  · simp only [Packet.trimmed, List.take_of_length_le frontLe, List.take_of_length_le backLe]
  · simp only [Packet.body, List.append_assoc]

/-- The body of a telemetry packet has the right shape, with the counts of the reports sent. -/
theorem TelemetryShape.of_body (telemetry : Telemetry)
    : TelemetryShape (Packet.telemetry telemetry).body telemetry.frame.buttons.bits
        (UInt8.ofNat (telemetry.frame.frontTouches.take touchLimit).length)
        (UInt8.ofNat (telemetry.frame.backTouches.take touchLimit).length) := by
  have frontLe := List.length_take_le touchLimit telemetry.frame.frontTouches
  have backLe := List.length_take_le touchLimit telemetry.frame.backTouches
  have headLength : (telemetryHead telemetry.frame).length = frontCountOffset := by
    simp [telemetryHead, frontCountOffset]
  have length := length_body_telemetry telemetry
  rw [body_telemetry, ← encodeTouches_take telemetry.frame.frontTouches,
    ← encodeTouches_take telemetry.frame.backTouches] at *
  generalize telemetry.frame.frontTouches.take touchLimit = fronts at *
  generalize telemetry.frame.backTouches.take touchLimit = backs at *
  have frontCount : (UInt8.ofNat fronts.length).toNat = fronts.length :=
    UInt8.toNat_ofNat_of_lt' (Nat.lt_of_le_of_lt frontLe (by decide))
  have backCount : (UInt8.ofNat backs.length).toNat = backs.length :=
    UInt8.toNat_ofNat_of_lt' (Nat.lt_of_le_of_lt backLe (by decide))
  rw [encodeTouches_of_length frontCount.symm (frontCount.symm ▸ frontLe),
    encodeTouches_of_length backCount.symm (backCount.symm ▸ backLe)] at *
  refine {
    bits_at := ?_
    defined := telemetry.frame.buttons.defined
    front_at := ?_
    front_le := frontCount.symm ▸ frontLe
    back_at := getElem?_backCount headLength frontCount.symm
    back_le := backCount.symm ▸ backLe
    length_eq := ?_
  }
  · simp [telemetryHead]
  · simp [← headLength]
  · rw [length, frontCount, backCount]

end Wire

end Handheld
