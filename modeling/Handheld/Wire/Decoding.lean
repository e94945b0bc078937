import Handheld.Wire.Body

/-! Looking at the front of received bytes: a heartbeat, a complete frame, too few bytes to
tell, or bytes that cannot start a frame. The length, the tag and the size of the body are
judged as soon as they have arrived, the rest of the body once it is complete.
-/

namespace Handheld

namespace Wire

/-- What the front of the received bytes is. -/
inductive Verdict
  | heartbeat
  /-- A whole frame, which took `consumed` bytes. -/
  | complete (packet : Packet) (consumed : Nat)
  | incomplete
  | invalid (reason : Malformation)
  deriving DecidableEq, Inhabited

/-- How many bytes a verdict uses up. -/
def Verdict.consumed : Verdict → Nat
  | heartbeat => 6
  | complete _ consumed => consumed
  | incomplete => 0
  | invalid _ => 0

/-- Decodes a frame of a known kind from what follows its tag. -/
def decodeBody (kind : PacketKind) (declared : Nat) (rest : Bytes) : Verdict :=
  let size := declared - 1
  match kind.checkSize size with
  | some reason => .invalid reason
  | none =>
      let body := rest.take size
      if body.length < size then .incomplete
      else
        match readBody kind body with
        | .ok (packet, _) => .complete packet (4 + declared)
        | .error (.malformed reason) => .invalid reason
        -- A body of a size that its kind allows is never read past its end.
        | .error .pastEnd => .incomplete

/-- Decodes what stands at the front. A proper beginning of the heartbeat is told from a frame
only by the bytes that follow.
-/
def decode (received : Bytes) : Verdict :=
  if heartbeat.isPrefixOf received then .heartbeat
  else if received.isPrefixOf heartbeat then .incomplete
  else
    match received with
    | b0 :: b1 :: b2 :: b3 :: rest =>
        let declared := Bytes.toNat [b0, b1, b2, b3]
        if declared = 0 ∨ frameLimit < declared then
          .invalid (.length (UInt32.ofNat declared))
        else
          match rest with
          | [] => .incomplete
          | tag :: rest =>
              match PacketKind.ofTag? tag with
              | none => .invalid (.unknownTag tag)
              | some kind => decodeBody kind declared rest
    | _ => .incomplete

theorem decode_nil : decode [] = .incomplete := rfl

/-- A complete frame takes at least the length prefix and the tag. -/
theorem decodeBody_consumed {kind : PacketKind} {declared consumed : Nat} {rest : Bytes}
    {packet : Packet} (h : decodeBody kind declared rest = .complete packet consumed)
    : consumed = 4 + declared := by
  simp only [decodeBody] at h
  split at h
  · simp at h
  · split at h
    · simp at h
    · split at h <;> simp at h
      exact h.2.symm

/-- A verdict on a frame uses up at least one byte. -/
theorem decode_complete_pos {received : Bytes} {packet : Packet} {consumed : Nat}
    (h : decode received = .complete packet consumed)
    : 0 < consumed := by
  simp only [decode] at h
  split at h
  · simp at h
  · split at h
    · simp at h
    · split at h
      · split at h
        · simp at h
        · split at h
          · simp at h
          · split at h
            · simp at h
            · have := decodeBody_consumed h
              omega
      · simp at h

end Wire

end Handheld
