import Handheld.Noise.Generator
import Handheld.Noise.Strips

/-! Noise with the normal distribution. A strip and a place in it are drawn; a place that
surely lies below the density is taken, one near its edge after a second draw, and any other
is thrown away. The number of attempts is bounded, and the bound is never reached in practice:
all but about one attempt in a hundred succeed.
-/

namespace Handheld

namespace Noise

/-- How often a draw is attempted. -/
def attempts : Nat := 1000

/-- 2⁻⁵³, the distance of two neighbouring numbers just below 1. -/
def fineStep : Float := Float.ofBits 0x3ca0000000000000

/-- A number between 1 and 2, whose digits are the high bits of a word. -/
def oneToTwo (bits : UInt64) : Float := Float.ofBits (bits >>> 12 ||| 0x3ff0000000000000)

/-- A number between 2 and 4, whose digits are the high bits of a word. -/
def twoToFour (bits : UInt64) : Float := Float.ofBits (bits >>> 12 ||| 0x4000000000000000)

/-- Draws a number strictly between 0 and 1. -/
def openUnit : Draw Float := do
  return oneToTwo (← word) - (1.0 - fineStep)

/-- Draws how far beyond its start a place in the tail lies. -/
def tail : (attempts : Nat) → Draw Float
  | 0 => return 0
  | attempts + 1 => do
      let x := (← openUnit).log / tailStart
      let y := (← openUnit).log
      if -2.0 * y < x * x then tail attempts else return x

/-- Draws a number with the standard normal distribution. -/
def normal : (attempts : Nat) → Draw Float
  | 0 => return 0
  | attempts + 1 => do
      let bits ← word
      let strip := (bits &&& 0xff).toNat
      let place := twoToFour bits - 3.0
      let x := place * edge strip
      if x.abs < edge (strip + 1) then return x
      else if strip = 0 then
        let beyond ← tail Noise.attempts
        return if place < 0.0 then beyond - tailStart else tailStart - beyond
      else
        let part := ((← word) >>> 11).toFloat * fineStep
        let low := height (strip + 1)
        if low + (height strip - low) * part < (-x * x / 2.0).exp then return x
        else normal attempts

/-- Draws noise around zero with a given deviation. -/
def gaussian (deviation : Float32) : Draw Float32 := do
  return (← normal attempts).toFloat32 * deviation

end Noise

end Handheld
