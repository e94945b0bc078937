import Handheld.Text.Numeral
import Handheld.Toml.Scan

/-! Texts between quotes, on one line or on several, with escapes between double quotes and
without them between single ones.
-/

namespace Handheld

namespace Toml

/-- The character of a number of `digits` hexadecimal digits. -/
def escapedCode (digits : Nat) : Scan Char := fun text =>
  let run := text.take digits
  if run.length = digits ∧ run.all (Numeral.isDigit 16) then
    let code := Numeral.value 16 run
    if h : code.isValidChar then some (Char.ofNatAux code h, text.drop digits) else none
  else none

/-- The character that an escape stands for, read behind the backslash. -/
def escaped : Scan Char
  | 'b' :: rest => some ('\x08', rest)
  | 'f' :: rest => some ('\x0c', rest)
  | 'n' :: rest => some ('\n', rest)
  | 'r' :: rest => some ('\r', rest)
  | 't' :: rest => some ('\t', rest)
  | '\\' :: rest => some ('\\', rest)
  | '\"' :: rest => some ('\"', rest)
  | 'u' :: rest => escapedCode 4 rest
  | 'U' :: rest => escapedCode 8 rest
  | _ => none

/-- How a quoted text is written. -/
structure QuoteStyle where
  quote : Char
  escapes : Bool
  lines : Bool
  deriving DecidableEq, Inhabited

/-- Drops blanks and line ends. -/
def skipWhite : List Char → List Char
  | ' ' :: rest => skipWhite rest
  | '\t' :: rest => skipWhite rest
  | '\n' :: rest => skipWhite rest
  | '\r' :: '\n' :: rest => skipWhite rest
  | text => text

/-- The end of a text on several lines: three quotes, with up to two more that belong to the
text before them.
-/
def closingQuotes (quote : Char) (text : List Char) : Option (Nat × List Char) :=
  let run := (text.takeWhile (· == quote)).length
  if run < 3 then none
  else
    let inner := min (run - 3) 2
    some (inner, text.drop (inner + 3))

/-- The body of a quoted text up to its closing quotes; `fuel` bounds its length. -/
def quotedBody (style : QuoteStyle) : (fuel : Nat) → (found : List Char) → Scan String
  | 0, _, _ => none
  | fuel + 1, found, text =>
      match text with
      | [] => none
      | '\n' :: rest => if style.lines then quotedBody style fuel ('\n' :: found) rest else none
      | '\r' :: '\n' :: rest =>
          if style.lines then quotedBody style fuel ('\n' :: found) rest else none
      | c :: rest =>
          if c = style.quote then
            if style.lines then
              match closingQuotes c text with
              | some (inner, rest) =>
                  some (String.ofList (found.reverse ++ List.replicate inner c), rest)
              | none => quotedBody style fuel (c :: found) rest
            else some (String.ofList found.reverse, rest)
          else if c = '\\' ∧ style.escapes then
            match escaped rest with
            | some (c, rest) => quotedBody style fuel (c :: found) rest
            | none =>
                -- A backslash before a line end drops the white space that follows.
                match style.lines, lineEnd (skipBlanks rest) with
                | true, some (_, rest) => quotedBody style fuel found (skipWhite rest)
                | _, _ => none
          else if isControl c then none
          else quotedBody style fuel (c :: found) rest

/-- A text on one line, from its opening quote on. -/
def quotedLine : Scan String
  | '\"' :: rest => quotedBody ⟨'\"', true, false⟩ (rest.length + 1) [] rest
  | '\'' :: rest => quotedBody ⟨'\'', false, false⟩ (rest.length + 1) [] rest
  | _ => none

/-- A text on several lines, behind its opening quotes. A line end right behind them does not
count.
-/
def quotedLines (style : QuoteStyle) : Scan String := fun text =>
  let rest :=
    match lineEnd text with
    | some (_, rest) => rest
    | none => text
  quotedBody style (rest.length + 1) [] rest

/-- A quoted text of any style. -/
def quoted : Scan String
  | '\"' :: '\"' :: '\"' :: rest => quotedLines ⟨'\"', true, true⟩ rest
  | '\'' :: '\'' :: '\'' :: rest => quotedLines ⟨'\'', false, true⟩ rest
  | text => quotedLine text

end Toml

end Handheld
