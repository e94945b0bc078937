/-! Cutting texts into pieces. -/

namespace Handheld

namespace Pieces

/-- The pieces of a text between the characters of a class; there is always one more piece
than there are such characters.
-/
def between (separates : Char → Bool) : List Char → List (List Char)
  | [] => [[]]
  | c :: rest =>
      match between separates rest with
      | [] => [[c]]
      | piece :: more =>
          if separates c then [] :: piece :: more else (c :: piece) :: more

/-- The lines of a text, without their line feeds. -/
def lines (text : List Char) : List (List Char) := between (· == '\n') text

end Pieces

end Handheld
