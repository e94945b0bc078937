/-! A source of noise that can be repeated: a state of 256 bits that each draw scrambles,
filled from a seed of 64 bits.
-/

namespace Handheld

namespace Noise

/-- The state of a source of noise. -/
structure Generator where
  s0 : UInt64
  s1 : UInt64
  s2 : UInt64
  s3 : UInt64
  deriving DecidableEq, Inhabited

/-- A computation that draws noise. -/
abbrev Draw := StateM Generator

def rotateLeft (word by64 : UInt64) : UInt64 := word <<< by64 ||| word >>> (64 - by64)

def rotateRight (word by32 : UInt32) : UInt32 := word >>> by32 ||| word <<< (32 - by32)

namespace Generator

/-- The step of the seed: a congruence, whose high bits are shuffled into a word. -/
def seedStep (state : UInt64) : UInt32 × UInt64 :=
  let next := state * 6364136223846793005 + 11634580027462260723
  let mixed := (((next >>> 18) ^^^ next) >>> 27).toUInt32
  (rotateRight mixed (next >>> 59).toUInt32, next)

/-- Two steps of the seed as one word, the first in its low half. -/
def seedWord (state : UInt64) : UInt64 × UInt64 :=
  let (low, state) := seedStep state
  let (high, state) := seedStep state
  (high.toUInt64 <<< 32 ||| low.toUInt64, state)

/-- The source that a seed starts. -/
def ofSeed (seed : UInt64) : Generator :=
  let (s0, state) := seedWord seed
  let (s1, state) := seedWord state
  let (s2, state) := seedWord state
  let (s3, _) := seedWord state
  ⟨s0, s1, s2, s3⟩

/-- A word that the state gives, and the state after it. -/
def next (generator : Generator) : UInt64 × Generator :=
  let ⟨s0, s1, s2, s3⟩ := generator
  let third := s2 ^^^ s0
  let fourth := s3 ^^^ s1
  (rotateLeft (s0 + s3) 23 + s0,
    ⟨s0 ^^^ fourth, s1 ^^^ third, third ^^^ s1 <<< 17, rotateLeft fourth 45⟩)

end Generator

/-- Draws a word. -/
def word : Draw UInt64 := fun generator => generator.next

/-- Draws a number that is evenly spread from 0 up to 1, in steps of 2⁻²³. -/
def uniform : Draw Float32 := do
  return ((← word) >>> 41).toFloat32 * Float32.ofBits 0x34000000

/-- Draws whether something of a given probability happens. -/
def chance (probability : Float32) : Draw Bool := do
  return (← uniform) < probability

end Noise

end Handheld
