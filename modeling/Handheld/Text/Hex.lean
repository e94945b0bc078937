/-! Numbers in lower-case hexadecimal, padded with zeros to a least width. -/

namespace Handheld

namespace Hex

/-- The digits of `value`, at least `width` of them. -/
def padded (width value : Nat) : String :=
  let digits := Nat.toDigits 16 value
  String.ofList (List.replicate (width - digits.length) '0' ++ digits)

end Hex

end Handheld
