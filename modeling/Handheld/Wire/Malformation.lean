import Handheld.Wire.Packet
import Handheld.Text.Hex

/-! The reasons for which bytes cannot start a frame, with their wording. -/

namespace Handheld

namespace Wire

/-- Why bytes cannot start a valid frame. -/
inductive Malformation
  | length (declared : UInt32)
  | unknownTag (tag : UInt8)
  | bodyLength (kind : PacketKind) (expected actual : Nat)
  | side (byte : UInt8)
  | buttons (bits : UInt16)
  | touchCount (count : UInt8)
  deriving DecidableEq, Inhabited

namespace Malformation

def message : Malformation → String
  | length declared =>
      "declared length " ++ toString declared.toNat ++ " outside the accepted frame range"
  | unknownTag tag => "unknown packet tag 0x" ++ Hex.padded 2 tag.toNat
  | bodyLength kind expected actual =>
      kind.name ++ " body is " ++ toString actual ++ " bytes, expected " ++ toString expected
  | side byte => "unknown handshake endpoint " ++ toString byte.toNat
  | buttons bits => "undefined button bits 0x" ++ Hex.padded 4 bits.toNat
  | touchCount count => toString count.toNat ++ " touch reports exceed the per-surface limit"

/-- The reason in diagnostic notation: its variant, then its values. -/
def diagnostic : Malformation → String
  | length declared => "Length(" ++ toString declared.toNat ++ ")"
  | unknownTag tag => "UnknownTag(" ++ toString tag.toNat ++ ")"
  | bodyLength kind expected actual =>
      "BodyLength \x7b kind: " ++ kind.name ++ ", expected: " ++ toString expected
        ++ ", actual: " ++ toString actual ++ " \x7d"
  | side byte => "Endpoint(" ++ toString byte.toNat ++ ")"
  | buttons bits => "Buttons(" ++ toString bits.toNat ++ ")"
  | touchCount count => "TouchCount(" ++ toString count.toNat ++ ")"

end Malformation

end Wire

end Handheld
