import Handheld.Wire.Decoding
import Handheld.Wire.Encoding

/-! Cutting received bytes into the heartbeats and packets at their front. -/

namespace Handheld

namespace Wire

/-- One unit of a control stream. -/
inductive Item
  | heartbeat
  | packet (packet : Packet)
  deriving DecidableEq, Inhabited

/-- The bytes that an item is sent as. -/
def Item.encode : Item → Bytes
  | heartbeat => Wire.heartbeat
  | packet sent => sent.encode

/-- Received bytes, cut into items. -/
structure Segments where
  /-- The items, in order of arrival. -/
  items : List Item
  /-- The bytes behind the last item: they start no item, yet or at all. -/
  rest : Bytes
  /-- Why the rest can start no item, whatever follows it. -/
  fault : Option Malformation
  deriving DecidableEq, Inhabited

/-- What is left after an item is shorter than before. -/
theorem length_drop_lt {received : Bytes} {consumed : Nat}
    (decided : decode received ≠ .incomplete) (positive : 0 < consumed)
    : (received.drop consumed).length < received.length := by
  have nonempty : received ≠ [] := by
    rintro rfl
    exact decided decode_nil
  have := List.length_pos_iff.mpr nonempty
  simp only [List.length_drop]
  omega

/-- Cuts off items until none is complete; those found before are in `found`, last one
first.
-/
def segmentFrom (found : List Item) (received : Bytes) : Segments :=
  match verdict : decode received with
  | .heartbeat =>
      have decided : decode received ≠ .incomplete := by simp [verdict]
      have := length_drop_lt decided (Nat.zero_lt_succ 5)
      segmentFrom (.heartbeat :: found) (received.drop 6)
  | .complete packet consumed =>
      have decided : decode received ≠ .incomplete := by simp [verdict]
      have := length_drop_lt decided (decode_complete_pos verdict)
      segmentFrom (.packet packet :: found) (received.drop consumed)
  | .incomplete => ⟨found.reverse, received, none⟩
  | .invalid reason => ⟨found.reverse, received, some reason⟩
termination_by received.length
decreasing_by all_goals assumption

/-- Cuts received bytes into items. -/
def segment (received : Bytes) : Segments := segmentFrom [] received

end Wire

end Handheld
