import Handheld.Pattern.Basic
import Handheld.Text.Blank

/-! The flags under which a pattern is read: what counts as space, and what a character, a
range or a set stands for.
-/

namespace Handheld

namespace Pattern

/-- A reader of the front of a text: what it has read and what follows. -/
abbrev Reader (α : Type) := List Char → Option (α × List Char)

/-- The flags that are in force at a place of a pattern. -/
structure Flags where
  ignoresCase : Bool := false
  /-- The marks for both ends of a text hold at both ends of its lines. -/
  byLine : Bool := false
  dotIsAny : Bool := false
  /-- Carriage returns end lines. -/
  returns : Bool := false
  /-- Sets are sets of all characters, and not only of those of ASCII. -/
  unicode : Bool := true
  /-- Blanks and comments between the parts of a pattern do not count. -/
  spaced : Bool := false
  deriving DecidableEq, Inhabited

namespace Flags

-----------------------------------------------------------------------------------------
-- Space
-----------------------------------------------------------------------------------------

/-- Drops blanks and comments, which go from a number sign to the end of their line. -/
def dropSpace : (inComment : Bool) → List Char → List Char
  | _, [] => []
  | true, c :: rest => dropSpace (c != '\n') rest
  | false, c :: rest =>
      if c = '#' then dropSpace true rest
      else if Blank.isBlank c then dropSpace false rest
      else c :: rest

/-- Drops what does not count at the front of a text. -/
def skip (flags : Flags) (text : List Char) : List Char :=
  if flags.spaced then dropSpace false text else text

/-- The character that counts next behind the first one. One number sign is passed over as if
it were a blank.
-/
def behindFirst? (flags : Flags) (text : List Char) : Option Char :=
  let rest := text.drop 1
  if flags.spaced then
    let found? :=
      match rest.dropWhile Blank.isBlank with
      | '#' :: more => (more.dropWhile Blank.isBlank).head?
      | more => more.head?
    found?.or rest.head?
  else rest.head?

/-- The characters of a class at the front, with what does not count behind each; `fuel` bounds
their number.
-/
def run (flags : Flags) (accepts : Char → Bool)
    : (fuel : Nat) → List Char → List Char × List Char
  | fuel + 1, c :: rest =>
      if accepts c then
        let (run, rest) := flags.run accepts fuel (flags.skip rest)
        (c :: run, rest)
      else ([], c :: rest)
  | _, text => ([], text)

-----------------------------------------------------------------------------------------
-- Switches
-----------------------------------------------------------------------------------------

/-- Sets the flag of a letter; a letter without one, as for greed, changes nothing. -/
def set (flags : Flags) (letter : Char) (on : Bool) : Flags :=
  match letter with
  | 'i' => { flags with ignoresCase := on }
  | 'm' => { flags with byLine := on }
  | 's' => { flags with dotIsAny := on }
  | 'R' => { flags with returns := on }
  | 'u' => { flags with unicode := on }
  | 'x' => { flags with spaced := on }
  | _ => flags

/-- Sets flags by their letters, and those behind a dash to off. -/
def setAll (flags : Flags) (letters : List Char) : Flags :=
  let on := letters.takeWhile (· != '-')
  let off := letters.dropWhile (· != '-')
  off.foldl (·.set · false) (on.foldl (·.set · true) flags)

/-- Reads letters up to a character that ends them. None stands twice, and none but the first
of the dashes at the end.
-/
def letters : (found : List Char) → Reader (List Char)
  | _, [] => none
  | found, c :: rest =>
      if c = ':' ∨ c = ')' then
        if found.head? = some '-' then none else some (found.reverse, c :: rest)
      else if c ∈ found ∨ c ∉ ['-', 'i', 'm', 's', 'U', 'u', 'R', 'x'] then none
      else letters (c :: found) rest

-----------------------------------------------------------------------------------------
-- Sets under flags
-----------------------------------------------------------------------------------------

/-- What a character stands for. The cases of letters are known only for ASCII. -/
def single? (flags : Flags) (c : Char) : Option CharSet :=
  if !flags.ignoresCase then some (.single c)
  else if flags.unicode then none
  else if c.isAlpha then some (.anyCase (.single c))
  else some (.single c)

/-- What a range stands for inside brackets. -/
def range? (flags : Flags) (first last : Char) : Option CharSet :=
  if last < first then none
  else if flags.unicode then
    if flags.ignoresCase then none else some (.range first last)
  else if '\x7f' < last then none
  else if flags.ignoresCase then some (.anyCase (.range first last))
  else some (.range first last)

/-- All characters outside a set, which only exist among all characters. -/
def compl? (flags : Flags) (set : CharSet) : Option CharSet :=
  if flags.unicode then some (.compl set) else none

/-- What a name between colons stands for inside brackets. -/
def named? (flags : Flags) (name : String) (negated : Bool) : Option CharSet := do
  let set ← CharSet.named? name
  if flags.unicode && flags.ignoresCase then none
  else
    let set := if flags.ignoresCase then .anyCase set else set
    if negated then flags.compl? set else some set

/-- What a set with a letter of its own stands for. Those of all characters are not known. -/
def lettered? (flags : Flags) (letter : Char) : Option CharSet :=
  if flags.unicode then none
  else
    match letter with
    | 'd' => some .digits
    | 's' => some .whiteSpace
    | 'w' => some .wordLetters
    | _ => none

/-- What a dot stands for. -/
def dot? (flags : Flags) : Option CharSet :=
  flags.compl? (
    if flags.dotIsAny then .none
    else if flags.returns then .union (.single '\n') (.single '\r')
    else .single '\n')

/-- The start of a text or line. -/
def startMark (flags : Flags) : Boundary :=
  if flags.byLine then .lineStart flags.returns else .textStart

/-- The end of a text or line. -/
def endMark (flags : Flags) : Boundary :=
  if flags.byLine then .lineEnd flags.returns else .textEnd

end Flags

end Pattern

end Handheld
