import Handheld.Pattern.Flags
import Handheld.Text.Numeral

/-! What stands behind a backslash in a pattern: a character, a set with a letter of its own,
or a condition on a place.
-/

namespace Handheld

namespace Pattern

/-- What an escape stands for. -/
inductive Escape
  | letter (c : Char)
  | set (set : CharSet)
  | boundary (condition : Boundary)
  deriving DecidableEq, Inhabited

namespace Escape

/-- Any ASCII character but a letter, a digit or an angle bracket may be escaped to stand for
itself.
-/
def isPlain (c : Char) : Bool :=
  c ≤ '\x7f' && !c.isAlphanum && c != '<' && c != '>'

/-- The letters that stand for control characters. -/
def control? : Char → Option Char
  | 'a' => some '\x07'
  | 'f' => some '\x0c'
  | 't' => some '\t'
  | 'n' => some '\n'
  | 'r' => some '\r'
  | 'v' => some '\x0b'
  | _ => none

-----------------------------------------------------------------------------------------
-- Codes
-----------------------------------------------------------------------------------------

/-- The character of a code in hexadecimal digits. -/
def ofCode? (digits : List Char) : Option Char :=
  let code := Numeral.value 16 digits
  if h : code.isValidChar then some (Char.ofNatAux code h) else none

/-- A given number of digits, with what does not count behind each. -/
def codeDigits (flags : Flags) : (count : Nat) → Reader (List Char)
  | 0, text => some ([], text)
  | _ + 1, [] => none
  | count + 1, c :: rest =>
      if Numeral.isDigit 16 c then do
        let (digits, rest) ← codeDigits flags count (flags.skip rest)
        return (c :: digits, rest)
      else none

/-- The digits between braces, behind the opening one. -/
def bracedDigits (flags : Flags) : Reader (List Char) := fun text =>
  match flags.run (Numeral.isDigit 16) text.length (flags.skip text) with
  | ([], _) => none
  | (digits, '\x7d' :: rest) => some (digits, flags.skip rest)
  | _ => none

/-- A character by its code: in braces, or in a given number of digits. Without all characters
a code of two digits is one of ASCII.
-/
def code (flags : Flags) (count : Nat) : Reader Escape := fun text =>
  match flags.skip text with
  | '\x7b' :: rest => do
      let (digits, rest) ← bracedDigits flags rest
      return (letter (← ofCode? digits), rest)
  | text => do
      let (digits, rest) ← codeDigits flags count text
      let c ← ofCode? digits
      if count = 2 ∧ !flags.unicode ∧ '\x7f' < c then none else return (letter c, rest)

-----------------------------------------------------------------------------------------
-- Edges of words
-----------------------------------------------------------------------------------------

def edgeNamed? (name : List Char) : Option WordEdge :=
  match String.ofList name with
  | "start" => some .start
  | "end" => some .finish
  | "start-half" => some .halfStart
  | "end-half" => some .halfFinish
  | _ => none

/-- The edge that a name in braces asks for. Braces that no name can stand in belong to a
repetition.
-/
def edge (flags : Flags) : Reader WordEdge
  | '\x7b' :: rest =>
      let isLetter (c : Char) : Bool := c.isAlpha || c == '-'
      match flags.run isLetter rest.length (flags.skip rest) with
      | ([], []) => none
      | ([], _) => some (.any, '\x7b' :: rest)
      | (name, '\x7d' :: rest) => (edgeNamed? name).map fun edge => (edge, rest)
      | _ => none
  | text => some (.any, text)

-----------------------------------------------------------------------------------------
-- Escapes
-----------------------------------------------------------------------------------------

/-- Reads an escape behind its backslash. -/
def read (flags : Flags) : Reader Escape
  | [] => none
  | c :: rest =>
      let word (edge : WordEdge) : Escape := boundary (.word (!flags.unicode) edge)
      if isPlain c then some (letter c, rest)
      else
        match c with
        | 'x' => code flags 2 rest
        | 'u' => code flags 4 rest
        | 'U' => code flags 8 rest
        | 'd' | 's' | 'w' => (flags.lettered? c).map fun members => (set members, rest)
        | 'A' => some (boundary .textStart, rest)
        | 'z' => some (boundary .textEnd, rest)
        | 'b' => (edge flags rest).map fun (edge, rest) => (word edge, rest)
        | 'B' => some (word .none, rest)
        | '<' => some (word .start, rest)
        | '>' => some (word .finish, rest)
        | _ => (control? c).map fun control => (letter control, rest)

end Escape

end Pattern

end Handheld
