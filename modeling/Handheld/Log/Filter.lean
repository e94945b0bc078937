import Handheld.Log.Level
import Handheld.Pattern.Matching
import Handheld.Pattern.Reading

/-! Filters of log lines, as they are written in settings: directives between commas, each a
level, a target, or a target with a level, and behind a slash a pattern that lines must hold.
Of the directives whose target begins the target of a line, the longest decides.
-/

namespace Handheld

namespace Log

/-- The rank up to which lines pass; 0 lets none pass, and all levels have a rank of at most 5.
-/
abbrev Threshold := Nat

namespace Threshold

/-- The words for thresholds, from the one that lets nothing pass. -/
def words : List String := ["off", "error", "warn", "info", "debug", "trace"]

/-- The threshold of a word, in capitals or not. -/
def ofText? (text : List Char) : Option Threshold :=
  words.idxOf? (String.ofList (text.map Char.toLower))

def all : Threshold := 5

end Threshold

/-- What a filter says about the lines whose target begins with a text, or about all lines. -/
structure Directive where
  target : Option (List Char)
  threshold : Threshold
  deriving DecidableEq, Inhabited

namespace Directive

/-- Reads a directive. A lone word is a level if it can be one, and else a target all of whose
lines pass; an unreadable directive is left out.
-/
def ofText? (text : List Char) : Option Directive :=
  match Pieces.between (· == '=') text with
  | [word] =>
      match Threshold.ofText? word with
      | some threshold => some ⟨none, threshold⟩
      | none => some ⟨some word, .all⟩
  | [target, word] =>
      let word := Blank.trim word
      if word.isEmpty then some ⟨some target, .all⟩
      else (Threshold.ofText? word).map fun threshold => ⟨some target, threshold⟩
  | _ => none

/-- How many bytes a directive's target has. -/
def reach (directive : Directive) : Nat :=
  (directive.target.map fun target => (String.ofList target).utf8ByteSize).getD 0

def applies (directive : Directive) (target : List Char) : Bool :=
  directive.target.all (·.isPrefixOf target)

end Directive

/-- Puts a directive in the place of the one for the same target, or adds it. -/
def putDirective (directives : List Directive) (directive : Directive) : List Directive :=
  if directives.any (·.target == directive.target) then
    directives.map fun old => if old.target == directive.target then directive else old
  else directives ++ [directive]

/-- A filter of log lines. -/
structure Filter where
  directives : List Directive
  /-- A pattern that must occur in lines, if one is asked for. -/
  pattern : Option Pattern := none
  deriving DecidableEq, Inhabited

namespace Filter

/-- The directives between commas. -/
def directivesOf (text : List Char) : List Directive :=
  let written := ((Pieces.between (· == ',') text).map Blank.trim).filter fun piece =>
    !piece.isEmpty
  (written.filterMap Directive.ofText?).foldl putDirective []

/-- Reads a filter. What cannot be read as a pattern asks for none, and a text with more than
one slash says nothing.
-/
def ofText (text : String) : Filter :=
  match Pieces.between (· == '/') text.toList with
  | [directives] => { directives := directivesOf directives }
  | [directives, pattern] =>
      { directives := directivesOf directives, pattern := Pattern.ofText? pattern }
  | _ => { directives := [] }

/-- The directive that decides about a target: the one that reaches farthest, the last of
several that reach equally far.
-/
def deciding? (filter : Filter) (target : List Char) : Option Directive :=
  (filter.directives.filter (·.applies target)).foldl
    (fun best? directive =>
      match best? with
      | some best => if best.reach ≤ directive.reach then some directive else best?
      | none => some directive)
    none

/-- Tells whether a filter lets a level of a target pass. Without directives only errors do. -/
def allows (filter : Filter) (target : String) (level : Level) : Bool :=
  if filter.directives.isEmpty then level.rank ≤ Level.error.rank
  else (filter.deciding? target.toList).any fun directive => level.rank ≤ directive.threshold

end Filter

end Log

end Handheld
