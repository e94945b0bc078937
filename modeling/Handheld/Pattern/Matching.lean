import Handheld.Pattern.Basic

/-! Searching a text for a pattern. A pattern leads from places to places: from those where it
may begin to those where it can then end.
-/

namespace Handheld

/-- Marks on the places of a text, in their order. -/
abbrev Marks := List Bool

namespace Marks

def either (left right : Marks) : Marks := List.zipWith (· || ·) left right

/-- Takes a step a number of times, or until it changes nothing. -/
def iterate (step : Marks → Marks) : (times : Nat) → Marks → Marks
  | 0, marks => marks
  | times + 1, marks =>
      let next := step marks
      if next = marks then marks else iterate step times next

end Marks

namespace Pattern

/-- The places of a text behind a character, one more than the text is long. -/
def placesBehind (before : Option Char) : List Char → List Place
  | [] => [⟨before, none⟩]
  | c :: rest => ⟨before, some c⟩ :: placesBehind (some c) rest

def places (text : List Char) : List Place := placesBehind none text

/-- Where a pattern can end that begins at a marked place. As it never leads back, more
repetitions than there are places lead nowhere new.
-/
def reach (places : List Place) : Pattern → Marks → Marks
  | empty, marks => marks
  | one set, marks =>
      (false :: List.zipWith (fun place mark => mark && place.after.any set.contains)
        places marks).take places.length
  | boundary condition, marks =>
      List.zipWith (fun place mark => mark && condition.holds place) places marks
  | both first second, marks => reach places second (reach places first marks)
  | either left right, marks => Marks.either (reach places left marks) (reach places right marks)
  | repeated body least most, marks =>
      let count := places.length
      let further :=
        match most with
        | none => count
        | some most => min (most - least) count
      Marks.iterate (fun marks => Marks.either marks (reach places body marks)) further
        (Marks.iterate (reach places body) (min least count) marks)
  | group body, marks => reach places body marks

/-- Tells whether a pattern holds somewhere in a text. -/
def occursIn (pattern : Pattern) (text : List Char) : Bool :=
  let places := places text
  (pattern.reach places (places.map fun _ => true)).contains true

end Pattern

end Handheld
