import Handheld.File
import Handheld.Text.Blank
import Handheld.Text.Single

/-! The signal of the radio, from the table of wireless interfaces: two lines of headings, then
a line for each interface, with a status word and the quality of the link behind its colon.
-/

namespace Handheld

namespace Wireless

/-- The quality that counts as a full signal. -/
def fullQuality : Float32 := 70

/-- A link quality in percent, rounded, with halves going up. What is no number is no signal.
-/
def percentOf (quality : Float32) : UInt32 :=
  let percent := quality / fullQuality * 100
  if percent < 0 then 0
  else if 100 < percent then 100
  else percent.round.toUInt32

/-- The link quality on an interface's line; points behind it mark a fresh value. -/
def quality? (line : List Char) : Option Float32 := do
  let link ← (Blank.words ((line.dropWhile (· != ':')).drop 1))[1]?
  Single.ofText? (link.reverse.dropWhile (· == '.')).reverse

/-- The signal of the first interface of a table. -/
def percent? (table : List Char) : Option UInt32 := do
  let line ← ((Pieces.lines table).drop 2).find? (·.contains ':')
  return percentOf (← quality? line)

/-- The signal that a file shows; without a table or an interface there is none. -/
def signalPercent (file : File) : UInt32 :=
  match file.readText with
  | .ok text => (percent? text.toList).getD 0
  | .error _ => 0

end Wireless

end Handheld
