import Handheld.Pattern.Basic

/-! How large a pattern is once its repetitions are written out, and how large it may be. -/

namespace Handheld

namespace CharSet

def isAscii : CharSet → Bool
  | none => true
  | range _ last => last ≤ '\x7f'
  | union left right => left.isAscii && right.isAscii
  | inter left right => left.isAscii || right.isAscii
  | diff left _ => left.isAscii
  | symmDiff left right => left.isAscii && right.isAscii
  | compl _ => false
  | anyCase set => set.isAscii

/-- How many ranges a set is written with. -/
def countRanges : CharSet → Nat
  | none => 0
  | range _ _ => 1
  | union left right => left.countRanges + right.countRanges
  | inter left right => max left.countRanges right.countRanges
  | diff left right => left.countRanges + right.countRanges
  | symmDiff left right => left.countRanges + right.countRanges
  | compl set => set.countRanges + 1
  | anyCase set => 2 * set.countRanges

/-- The bytes that a step over a character of a set takes. Beyond ASCII a character has
several bytes, each with a step of its own.
-/
def size (set : CharSet) : Nat :=
  match set with
  | range first last =>
      if first = last then 32 * first.utf8Size
      else if last ≤ '\x7f' then 72
      else 424
  | _ => if set.isAscii then 64 + 8 * set.countRanges else 424

end CharSet

namespace Pattern

/-- The bytes that a pattern takes when each repetition has its own copy of the body. -/
def size : Pattern → Nat
  | empty => 32
  | one set => set.size
  | boundary _ => 32
  | both first second => first.size + second.size
  | either left right => left.size + right.size + 40
  | repeated body least none => max 1 least * body.size + 40
  | repeated body least (some most) =>
      least * body.size + (most - least) * (body.size + 40) + 32
  | group body => body.size + 64

/-- The greatest size of a pattern that is accepted. -/
def sizeLimit : Nat := 10 * 1024 * 1024

end Pattern

end Handheld
