import Handheld.Text.Pieces

/-! Blank characters, and the words between them. -/

namespace Handheld

namespace Blank

/-- The first and last of each run of characters that Unicode counts as white space. -/
def ranges : List (Nat × Nat) :=
  [(0x9, 0xd), (0x20, 0x20), (0x85, 0x85), (0xa0, 0xa0), (0x1680, 0x1680), (0x2000, 0x200a),
    (0x2028, 0x2029), (0x202f, 0x202f), (0x205f, 0x205f), (0x3000, 0x3000)]

def isBlank (c : Char) : Bool :=
  ranges.any fun (first, last) => first ≤ c.toNat && c.toNat ≤ last

/-- Drops the blanks at both ends. -/
def trim (text : List Char) : List Char :=
  ((text.dropWhile isBlank).reverse.dropWhile isBlank).reverse

/-- The words of a text: its pieces between blanks that are not empty. -/
def words (text : List Char) : List (List Char) :=
  (Pieces.between isBlank text).filter fun piece => !piece.isEmpty

end Blank

end Handheld
