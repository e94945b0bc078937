import Handheld.Proofs.Wire.Verdicts

/-! What the encoder writes is what the decoder reads, and the other way round. Main
statement: decoding undoes encoding, whatever bytes follow a frame.
-/

namespace Handheld

namespace Wire

theorem Packet.length_encode (packet : Packet)
    : packet.encode.length = 5 + packet.body.length := by
  simp only [encode, List.length_append, Bytes.length_ofNat, List.length_cons]
  omega

/-- The longest frame is telemetry with the limit of touch reports on both surfaces. -/
theorem Packet.length_encode_le (packet : Packet) : packet.encode.length ≤ 149 := by
  have bounds := within_of_checkSize (checkSize_body packet)
  rw [length_encode]
  omega

/-- No frame is shorter than a polling request. -/
theorem Packet.le_length_encode (packet : Packet) : 9 ≤ packet.encode.length := by
  have bounds := within_of_checkSize (checkSize_body packet)
  rw [length_encode]
  omega

@[simp]
theorem Packet.encode_trimmed (packet : Packet) : packet.trimmed.encode = packet.encode := by
  simp only [encode, body_trimmed, kind_trimmed]

/-- Decoding undoes encoding up to the touch reports that are never sent, and the heartbeat
is told from every frame.
-/
theorem decode_encode_append (packet : Packet) (rest : Bytes)
    : decode (packet.encode ++ rest) = .complete packet.trimmed packet.encode.length
      ∧ packet.encode.length ≤ 149
      ∧ decode (heartbeat ++ rest) = .heartbeat
      ∧ Verdict.heartbeat.consumed = 6 := by
  refine ⟨?_, packet.length_encode_le, (Judged.heartbeat rest).decode_eq, rfl⟩
  have judged := Judged.complete packet.trimmed_trimmed rest
  rw [Packet.encode_trimmed] at judged
  exact judged.decode_eq

end Wire

end Handheld
