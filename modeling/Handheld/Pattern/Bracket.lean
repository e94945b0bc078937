import Handheld.Pattern.Escape

/-! Sets of characters between brackets. They may stand in one another, and operators join what
stands between them from left to right.
-/

namespace Handheld

namespace Pattern

/-- Some of the members of a set, and how deep brackets and operators stand in them. -/
structure Members where
  set : CharSet
  depth : Nat
  deriving DecidableEq, Inhabited

namespace Members

def greatestDepth (members : List Members) : Nat := (members.map (·.depth)).foldl max 0

/-- Members side by side. -/
def ofList : List Members → Members
  | [] => ⟨.none, 0⟩
  | [members] => members
  | several =>
      ⟨several.foldr (fun members set => .union members.set set) .none,
        1 + greatestDepth several⟩

/-- Joins the members on the two sides of an operator. -/
def join (operator : CharSet → CharSet → CharSet) (left right : Members) : Members :=
  ⟨operator left.set right.set, 1 + max left.depth right.depth⟩

end Members

/-- A set that is being read. -/
structure Bracket where
  negated : Bool
  /-- What stands before the last operator, with the operator. -/
  before : Option (Members × (CharSet → CharSet → CharSet)) := none
  /-- What stands behind it, last first. -/
  items : List Members := []

namespace Bracket

def add (bracket : Bracket) (set : CharSet) (depth : Nat) : Bracket :=
  { bracket with items := ⟨set, depth⟩ :: bracket.items }

/-- All that has been read. -/
def joined (bracket : Bracket) : Members :=
  let last := Members.ofList bracket.items.reverse
  match bracket.before with
  | none => last
  | some (before, operator) => before.join operator last

def addOperator (bracket : Bracket) (operator : CharSet → CharSet → CharSet) : Bracket :=
  { bracket with before := some (bracket.joined, operator), items := [] }

/-- The finished set. -/
def close (flags : Flags) (bracket : Bracket) : Option Members := do
  let members := bracket.joined
  let set ← if bracket.negated then flags.compl? members.set else some members.set
  return ⟨set, 1 + members.depth⟩

/-- Reads what follows an opening bracket: a mark of negation, dashes that stand for
themselves, or else a closing bracket that does. Something must follow.
-/
def start (flags : Flags) : Reader Bracket := fun text => do
  let text := flags.skip text
  let negated := text.head? == some '^'
  let text := if negated then flags.skip (text.drop 1) else text
  let (dashes, text) := flags.run (· == '-') text.length text
  let (literals, text) :=
    match dashes, text with
    | [], ']' :: rest => ([']'], flags.skip rest)
    | _, _ => (dashes, text)
  if text.isEmpty then none
  else
    let items ← literals.mapM fun c => (flags.range? c c).map fun set => ⟨set, 0⟩
    return ({ negated, items }, text)

/-- Reads a name between colons, behind its opening bracket. -/
def name (flags : Flags) : Reader CharSet
  | ':' :: rest =>
      let negated := rest.head? == some '^'
      let (name, rest) := (if negated then rest.drop 1 else rest).span (· != ':')
      match rest with
      | ':' :: ']' :: rest =>
          (flags.named? (String.ofList name) negated).map fun set => (set, rest)
      | _ => none
  | _ => none

/-- Tells whether a name of a set stands behind a bracket. -/
def startsName (text : List Char) : Bool := (name {} text).isSome

/-- A character or an escape. -/
def item (flags : Flags) : Reader Escape
  | [] => none
  | '\\' :: rest => Escape.read flags rest
  | c :: rest => some (.letter c, rest)

/-- Reads a character, a set with a letter of its own, or a range. A dash before a closing
bracket or another dash makes no range.
-/
def range (flags : Flags) : Reader CharSet := fun text => do
  let (first, text) ← item flags text
  let text := flags.skip text
  let next := flags.behindFirst? text
  if text.isEmpty then none
  else if text.head? ≠ some '-' ∨ next = some ']' ∨ next = some '-' then
    match first with
    | .letter c => (flags.range? c c).map fun set => (set, text)
    | .set set => some (set, text)
    | .boundary _ => none
  else
    let (last, text) ← item flags (flags.skip (text.drop 1))
    match first, last with
    | .letter first, .letter last => (flags.range? first last).map fun set => (set, text)
    | _, _ => none

/-- Reads the rest of a set; `fuel` bounds its length. -/
def finish (flags : Flags) : (fuel : Nat) → Bracket → Reader Members
  | 0, _, _ => none
  | fuel + 1, bracket, text =>
      match flags.skip text with
      | ']' :: rest => (bracket.close flags).map fun members => (members, rest)
      | '[' :: rest =>
          if startsName rest then do
            let (set, rest) ← name flags rest
            finish flags fuel (bracket.add set 0) rest
          else do
            let (inner, rest) ← start flags rest
            let (members, rest) ← finish flags fuel inner rest
            finish flags fuel (bracket.add members.set members.depth) rest
      | '&' :: '&' :: rest => finish flags fuel (bracket.addOperator .inter) rest
      | '-' :: '-' :: rest => finish flags fuel (bracket.addOperator .diff) rest
      | '~' :: '~' :: rest => finish flags fuel (bracket.addOperator .symmDiff) rest
      | text => do
          let (set, rest) ← range flags text
          finish flags fuel (bracket.add set 0) rest

/-- Reads a set behind its opening bracket. -/
def read (flags : Flags) : Reader Members := fun text => do
  let (bracket, rest) ← start flags text
  finish flags (rest.length + 1) bracket rest

end Bracket

end Pattern

end Handheld
