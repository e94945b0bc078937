/-! Patterns that texts are searched for: sets of characters, conditions on a place in a text,
and what is made of them by sequence, choice and repetition.
-/

namespace Handheld

-----------------------------------------------------------------------------------------
-- Sets of characters
-----------------------------------------------------------------------------------------

/-- A set of characters, as it is written. -/
inductive CharSet
  | none
  | range (first last : Char)
  | union (left right : CharSet)
  | inter (left right : CharSet)
  | diff (left right : CharSet)
  /-- What exactly one of two sets has. -/
  | symmDiff (left right : CharSet)
  | compl (set : CharSet)
  /-- A set with the other cases of its ASCII letters. -/
  | anyCase (set : CharSet)
  deriving DecidableEq, Inhabited

namespace CharSet

def contains : CharSet → Char → Bool
  | none, _ => false
  | range first last, c => first ≤ c && c ≤ last
  | union left right, c => left.contains c || right.contains c
  | inter left right, c => left.contains c && right.contains c
  | diff left right, c => left.contains c && !right.contains c
  | symmDiff left right, c => left.contains c != right.contains c
  | compl set, c => !set.contains c
  | anyCase set, c => set.contains c || set.contains c.toLower || set.contains c.toUpper

def single (c : Char) : CharSet := range c c

/-- The union of ranges. -/
def ofRanges (ranges : List (Char × Char)) : CharSet :=
  ranges.foldr (fun (first, last) set => union (range first last) set) none

def digits : CharSet := range '0' '9'

def whiteSpace : CharSet := ofRanges [('\t', '\r'), (' ', ' ')]

def wordLetters : CharSet := ofRanges [('0', '9'), ('A', 'Z'), ('_', '_'), ('a', 'z')]

/-- The sets that have names between brackets and colons. -/
def named? (name : String) : Option CharSet :=
  match name with
  | "alnum" => some (ofRanges [('0', '9'), ('A', 'Z'), ('a', 'z')])
  | "alpha" => some (ofRanges [('A', 'Z'), ('a', 'z')])
  | "ascii" => some (range '\x00' '\x7f')
  | "blank" => some (ofRanges [('\t', '\t'), (' ', ' ')])
  | "cntrl" => some (ofRanges [('\x00', '\x1f'), ('\x7f', '\x7f')])
  | "digit" => some digits
  | "graph" => some (range '!' '~')
  | "lower" => some (range 'a' 'z')
  | "print" => some (range ' ' '~')
  | "punct" => some (ofRanges [('!', '/'), (':', '@'), ('[', '\x60'), ('\x7b', '~')])
  | "space" => some whiteSpace
  | "upper" => some (range 'A' 'Z')
  | "word" => some wordLetters
  | "xdigit" => some (ofRanges [('0', '9'), ('A', 'F'), ('a', 'f')])
  | _ => Option.none

end CharSet

-----------------------------------------------------------------------------------------
-- Conditions on places
-----------------------------------------------------------------------------------------

/-- A place in a text: the characters on its two sides. -/
structure Place where
  before : Option Char
  after : Option Char
  deriving DecidableEq, Inhabited

/-- How words may lie around a place. -/
inductive WordEdge
  | any
  | none
  | start
  | finish
  /-- No word ends here. -/
  | halfStart
  /-- No word goes on here. -/
  | halfFinish
  deriving DecidableEq, Inhabited

/-- Tells whether an edge fits a place with or without a word on each side. -/
def WordEdge.fits : WordEdge → (before after : Bool) → Bool
  | any, before, after => before != after
  | none, before, after => before == after
  | start, before, after => !before && after
  | finish, before, after => before && !after
  | halfStart, before, _ => !before
  | halfFinish, _, after => !after

/-- A condition on a place. -/
inductive Boundary
  | textStart
  | textEnd
  /-- A line begins; with `returns` a carriage return ends lines too, alone or before a feed. -/
  | lineStart (returns : Bool)
  | lineEnd (returns : Bool)
  /-- An edge of words of ASCII letters, or of the letters of all scripts. -/
  | word (ascii : Bool) (edge : WordEdge)
  deriving DecidableEq, Inhabited

namespace Boundary

def inWord (c : Option Char) : Bool := c.any CharSet.wordLetters.contains

def holds : Boundary → Place → Bool
  | textStart, place => place.before.isNone
  | textEnd, place => place.after.isNone
  | lineStart returns, place =>
      place.before.isNone || place.before == some '\n'
        || (returns && place.before == some '\r' && place.after != some '\n')
  | lineEnd false, place => place.after.isNone || place.after == some '\n'
  | lineEnd true, place =>
      place.after.isNone || place.after == some '\r'
        || (place.after == some '\n' && place.before != some '\r')
  | word _ edge, place => edge.fits (inWord place.before) (inWord place.after)

end Boundary

-----------------------------------------------------------------------------------------
-- Patterns
-----------------------------------------------------------------------------------------

/-- A pattern. -/
inductive Pattern
  | empty
  | one (set : CharSet)
  | boundary (condition : Boundary)
  | both (first second : Pattern)
  | either (left right : Pattern)
  /-- A body from `least` to `most` times, or any number of times from `least` on. -/
  | repeated (body : Pattern) (least : Nat) (most : Option Nat)
  /-- A part that is kept for later use. -/
  | group (body : Pattern)
  deriving DecidableEq, Inhabited

namespace Pattern

/-- Tells whether a pattern can only hold between characters. -/
def isWidthless : Pattern → Bool
  | empty => true
  | one _ => false
  | boundary _ => true
  | both first second => first.isWidthless && second.isWidthless
  | either left right => left.isWidthless && right.isWidthless
  | repeated body _ _ => body.isWidthless
  | group body => body.isWidthless

/-- Repeats a pattern. What lies between characters holds there once or any number of times. -/
def times (body : Pattern) (least : Nat) (most : Option Nat) : Pattern :=
  let (least, most) :=
    if body.isWidthless then (min least 1, some (min (most.getD 1) 1)) else (least, most)
  if most = some 0 then empty
  else if least = 1 ∧ most = some 1 then body
  else repeated body least most

/-- Tells whether a pattern asks only for what is known here: the letters of all scripts are
not.
-/
def isKnown : Pattern → Bool
  | empty => true
  | one _ => true
  | boundary (.word ascii _) => ascii
  | boundary _ => true
  | both first second => first.isKnown && second.isKnown
  | either left right => left.isKnown && right.isKnown
  | repeated body _ _ => body.isKnown
  | group body => body.isKnown

end Pattern

end Handheld
