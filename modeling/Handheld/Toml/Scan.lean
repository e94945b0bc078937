/-! Reading the front of a text: characters, blanks, comments and line ends. -/

namespace Handheld

namespace Toml

/-- A reader of the front of a text: what it has read and what follows. -/
abbrev Scan (α : Type) := List Char → Option (α × List Char)

/-- How deep lists and tables may stand in one another, and how long a dotted key may be. -/
def depthLimit : Nat := 80

def isBlank (c : Char) : Bool := c == ' ' || c == '\t'

/-- Control characters other than the tab, which no document holds outside line ends. -/
def isControl (c : Char) : Bool := c < ' ' && c != '\t' || c == '\x7f'

/-- Drops blanks. -/
def skipBlanks (text : List Char) : List Char := text.dropWhile isBlank

/-- Exactly the given characters. -/
def literal (expected : List Char) : Scan Unit := fun text =>
  if expected.isPrefixOf text then some ((), text.drop expected.length) else none

/-- A line end: a line feed with or without a carriage return before it. -/
def lineEnd : Scan Unit
  | '\n' :: rest => some ((), rest)
  | '\r' :: '\n' :: rest => some ((), rest)
  | _ => none

/-- A comment, up to its line end. -/
def comment : Scan Unit
  | '#' :: rest => some ((), rest.dropWhile fun c => !isControl c)
  | _ => none

/-- Drops a comment if there is one. -/
def skipComment (text : List Char) : List Char :=
  match comment text with
  | some (_, rest) => rest
  | none => text

/-- The end of a statement: blanks, a comment, and a line end or the end of the text. -/
def statementEnd : Scan Unit := fun text =>
  match skipComment (skipBlanks text) with
  | [] => some ((), [])
  | rest => lineEnd rest

/-- Drops blanks, comments and line ends; `fuel` bounds their number. -/
def skipLines : (fuel : Nat) → List Char → List Char
  | 0, text => text
  | fuel + 1, text =>
      let rest := skipBlanks text
      match skipComment rest with
      | [] => []
      | behind =>
          match lineEnd behind with
          | some (_, rest) => skipLines fuel rest
          | none => rest

/-- Drops blanks, comments and line ends. -/
def skipSpace (text : List Char) : List Char := skipLines text.length text

/-- Characters of a class with single underscores between them, the first of another class.
What is read comes without the underscores.
-/
def grouped (first more : Char → Bool) : Scan (List Char)
  | [] => none
  | c :: rest =>
      if first c then
        let (run, rest) := go rest.length rest
        some (c :: run, rest)
      else none
where
  /-- The rest of the run; `fuel` bounds its length. -/
  go : (fuel : Nat) → List Char → List Char × List Char
    | 0, text => ([], text)
    | fuel + 1, text =>
        match text with
        | '_' :: c :: rest =>
            if more c then
              let (run, rest) := go fuel rest
              (c :: run, rest)
            else ([], text)
        | c :: rest =>
            if more c then
              let (run, rest) := go fuel rest
              (c :: run, rest)
            else ([], text)
        | [] => ([], [])

end Toml

end Handheld
