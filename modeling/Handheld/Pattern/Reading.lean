import Handheld.Pattern.Bracket
import Handheld.Pattern.Size
import Handheld.Text.Letter

/-! Reading patterns. A text is no pattern if it breaks the rules of writing, stands too deep in
itself, grows too large, or asks for what is not known here.
-/

namespace Handheld

namespace Pattern

/-- How deep the parts of a pattern may stand in one another. -/
def depthLimit : Nat := 250

/-- A part of a pattern that is being read. -/
structure Part where
  pattern : Pattern
  depth : Nat := 0
  repeatable : Bool := true
  deriving DecidableEq, Inhabited

namespace Part

/-- Joins parts; a lone part stays as it is. -/
def join (operator : Pattern → Pattern → Pattern) : List Part → Part
  | [] => { pattern := .empty }
  | first :: rest =>
      if rest.isEmpty then first
      else {
        pattern := rest.foldl (fun pattern part => operator pattern part.pattern) first.pattern
        depth := 1 + rest.foldl (fun depth part => max depth part.depth) first.depth
      }

end Part

/-- Parts of one group, last first: those behind the last bar, and the choices before it. -/
structure Body where
  parts : List Part := []
  choices : List Part := []
  deriving DecidableEq, Inhabited

namespace Body

def add (body : Body) (part : Part) : Body := { body with parts := part :: body.parts }

/-- Ends a choice. -/
def endChoice (body : Body) : Body :=
  { parts := [], choices := Part.join .both body.parts.reverse :: body.choices }

/-- All choices as one part. -/
def close (body : Body) : Part := Part.join .either body.endChoice.choices.reverse

/-- Repeats the last part. -/
def repeatLast? (body : Body) (least : Nat) (most : Option Nat) : Option Body :=
  match body.parts with
  | last :: parts =>
      if last.repeatable then
        some { body with
          parts := { pattern := last.pattern.times least most, depth := last.depth + 1 }
            :: parts }
      else none
  | [] => none

end Body

/-- A group around the place that is being read, and what holds again behind it. -/
structure Enclosing where
  body : Body
  flags : Flags
  kept : Bool
  deriving DecidableEq, Inhabited

/-- A pattern that is being read. -/
structure Draft where
  body : Body := {}
  flags : Flags := {}
  enclosing : List Enclosing := []
  /-- The names of groups. -/
  names : List (List Char) := []
  deriving DecidableEq, Inhabited

namespace Draft

def add (draft : Draft) (pattern : Pattern) (depth : Nat) : Draft :=
  { draft with body := draft.body.add { pattern, depth } }

-----------------------------------------------------------------------------------------
-- Groups
-----------------------------------------------------------------------------------------

/-- Begins a group that has its own flags. -/
def enter (draft : Draft) (flags : Flags) (kept : Bool) : Draft :=
  { draft with
    body := {}
    flags
    enclosing := ⟨draft.body, draft.flags, kept⟩ :: draft.enclosing }

/-- Ends the innermost group. -/
def leave? (draft : Draft) : Option Draft :=
  match draft.enclosing with
  | [] => none
  | ⟨body, flags, kept⟩ :: enclosing =>
      let inner := draft.body.close
      let part : Part := {
        pattern := if kept then .group inner.pattern else inner.pattern
        depth := inner.depth + 1
      }
      some { draft with body := body.add part, flags, enclosing }

/-- Tells whether a character can stand in the name of a group. -/
def isNameLetter (c : Char) : Bool :=
  c ∈ ['_', '.', '[', ']'] || Letter.isLetterOrNumber c

/-- Begins a group with a name, read behind an opening angle bracket. -/
def enterNamed (draft : Draft) : Reader Draft := fun text =>
  let (name, rest) := text.span (· != '>')
  let starts := name.head?.any fun c => c == '_' || Letter.isLetter c
  if starts && name.all isNameLetter && !draft.names.contains name && !rest.isEmpty then
    some ({ draft.enter draft.flags true with names := name :: draft.names }, rest.drop 1)
  else none

/-- Reads what follows a question mark at the start of a group: flags for the group, or for
what follows up to the end of the group around it.
-/
def enterFlagged (draft : Draft) : Reader Draft := fun text => do
  let (letters, rest) ← Flags.letters [] text
  let flags := draft.flags.setAll letters
  if rest.head? = some ':' then return (draft.enter flags false, rest.drop 1)
  else if letters.isEmpty then none
  else
    let part : Part := { pattern := .empty, repeatable := false }
    return ({ draft with flags, body := draft.body.add part }, rest.drop 1)

/-- Begins a group behind its parenthesis. -/
def open? (draft : Draft) : Reader Draft := fun text =>
  match draft.flags.skip text with
  | '?' :: 'P' :: '<' :: rest => draft.enterNamed rest
  | '?' :: '<' :: rest => draft.enterNamed rest
  | '?' :: rest => draft.enterFlagged rest
  | rest => some (draft.enter draft.flags true, rest)

-----------------------------------------------------------------------------------------
-- Repetition
-----------------------------------------------------------------------------------------

/-- Drops the mark of a repetition that prefers little, which changes no match. -/
def dropLazy : List Char → List Char
  | '?' :: rest => rest
  | text => text

/-- Reads a count of repetitions. -/
def count (flags : Flags) : Reader Nat := fun text => do
  let text := text.dropWhile Blank.isBlank
  let (digits, rest) := flags.run (Numeral.isDigit 10) text.length text
  return (← Numeral.natural? 4294967295 digits, rest.dropWhile Blank.isBlank)

/-- Reads the bounds of a repetition behind their opening brace. -/
def bounds (flags : Flags) : Reader (Nat × Option Nat) := fun text => do
  let (least, text) ← count flags (flags.skip text)
  match text with
  | '\x7d' :: rest => return ((least, some least), dropLazy (flags.skip rest))
  | ',' :: rest =>
      match flags.skip rest with
      | '\x7d' :: rest => return ((least, none), dropLazy (flags.skip rest))
      | rest =>
          let (most, rest) ← count flags rest
          if rest.head? = some '\x7d' ∧ least ≤ most then
            return ((least, some most), dropLazy (flags.skip (rest.drop 1)))
          else none
  | _ => none

def repeatLast (draft : Draft) (least : Nat) (most : Option Nat) : Option Draft :=
  (draft.body.repeatLast? least most).map fun body => { draft with body }

-----------------------------------------------------------------------------------------
-- Parts
-----------------------------------------------------------------------------------------

/-- Adds what an escape stands for. -/
def addEscape (draft : Draft) : Escape → Option Draft
  | .letter c => (draft.flags.single? c).map fun set => draft.add (.one set) 0
  | .set set => some (draft.add (.one set) 0)
  | .boundary condition => some (draft.add (.boundary condition) 0)

/-- Reads the next part or mark. -/
def step (draft : Draft) : Reader Draft
  | [] => none
  | '(' :: rest => draft.open? rest
  | ')' :: rest => draft.leave?.map fun draft => (draft, rest)
  | '|' :: rest => some ({ draft with body := draft.body.endChoice }, rest)
  | '[' :: rest => do
      let (members, rest) ← Bracket.read draft.flags rest
      return (draft.add (.one members.set) members.depth, rest)
  | '?' :: rest => return (← draft.repeatLast 0 (some 1), dropLazy rest)
  | '*' :: rest => return (← draft.repeatLast 0 none, dropLazy rest)
  | '+' :: rest => return (← draft.repeatLast 1 none, dropLazy rest)
  | '\x7b' :: rest => do
      let ((least, most), rest) ← bounds draft.flags rest
      return (← draft.repeatLast least most, rest)
  | '\\' :: rest => do
      let (escape, rest) ← Escape.read draft.flags rest
      return (← draft.addEscape escape, rest)
  | '.' :: rest => return (draft.add (.one (← draft.flags.dot?)) 0, rest)
  | '^' :: rest => some (draft.add (.boundary draft.flags.startMark) 0, rest)
  | '$' :: rest => some (draft.add (.boundary draft.flags.endMark) 0, rest)
  | c :: rest => return (draft.add (.one (← draft.flags.single? c)) 0, rest)

/-- Reads to the end of a text, where no group may be open; `fuel` bounds the number of parts
and marks.
-/
def readAll : (fuel : Nat) → Draft → List Char → Option Part
  | 0, _, _ => none
  | fuel + 1, draft, text =>
      match draft.flags.skip text with
      | [] => if draft.enclosing.isEmpty then some draft.body.close else none
      | text => do
          let (draft, rest) ← draft.step text
          readAll fuel draft rest

end Draft

/-- Reads a pattern. -/
def ofText? (text : List Char) : Option Pattern := do
  let part ← Draft.readAll (text.length + 1) {} text
  if part.depth ≤ depthLimit ∧ part.pattern.isKnown ∧ part.pattern.size ≤ sizeLimit then
    return part.pattern
  else none

end Pattern

end Handheld
