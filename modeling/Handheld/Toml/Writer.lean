import Handheld.Text.Hex
import Handheld.Toml.Value

/-! Writing documents of sections: a header for each, one line for each entry, and an empty
line between sections. A text is written in the plainest style that can hold it.
-/

namespace Handheld

namespace Toml

/-- The longest run of a character in a text. -/
def longestRun (sought : Char) (text : List Char) : Nat :=
  (text.foldl
    (fun (longest, current) c =>
      let current := if c = sought then current + 1 else 0
      (max longest current, current))
    (0, 0)).1

/-- The letter behind the backslash of a short escape. -/
def shortEscape? : Char → Option Char
  | '\x08' => some 'b'
  | '\t' => some 't'
  | '\n' => some 'n'
  | '\x0c' => some 'f'
  | '\r' => some 'r'
  | '\\' => some '\\'
  | _ => none

/-- The characters between double quotes. On several lines, line ends stay and only every
third quote of a run is escaped; `quotes` counts those that stand right before.
-/
def escapeText (lines : Bool) : (quotes : Nat) → List Char → String
  | _, [] => ""
  | quotes, c :: rest =>
      if c = '\"' then
        if (if lines then 2 else 0) < quotes + 1 then "\\\"" ++ escapeText lines 0 rest
        else "\"" ++ escapeText lines (quotes + 1) rest
      else if c = '\n' ∧ lines then "\n" ++ escapeText lines 0 rest
      else
        match shortEscape? c with
        | some letter => "\\" ++ letter.toString ++ escapeText lines 0 rest
        | none =>
            if c < ' ' ∨ c = '\x7f' then
              "\\u" ++ (Hex.padded 4 c.toNat).toUpper ++ escapeText lines 0 rest
            else c.toString ++ escapeText lines 0 rest

/-- A text between quotes. Without anything to escape it stands in double quotes, next in
single ones, next in tripled ones of either kind, and only then with escapes.
-/
def renderText (text : String) : String :=
  let letters := text.toList
  let controls := letters.any fun c => (c < ' ' && c != '\t' && c != '\n') || c == '\x7f'
  let backslashes := letters.contains '\\'
  let newlines := letters.contains '\n'
  let doubles := longestRun '\"' letters
  let singles := longestRun '\'' letters
  let opening (quotes : String) : String := if newlines then quotes ++ "\n" else quotes
  let onLine := "\"" ++ escapeText false 0 letters ++ "\""
  let onLines := opening "\"\"\"" ++ escapeText true 0 letters ++ "\"\"\""
  if ¬controls ∧ ¬backslashes ∧ doubles = 0 ∧ ¬newlines then onLine
  else if ¬controls ∧ singles = 0 ∧ ¬newlines then "'" ++ text ++ "'"
  else if ¬controls ∧ ¬backslashes ∧ doubles ≤ 2 then onLines
  else if ¬controls ∧ singles ≤ 2 then opening "'''" ++ text ++ "'''"
  else if newlines then onLines
  else onLine

/-- A value without values inside it; others do not occur in sections. -/
def renderScalar : Value → String
  | .text text => renderText text
  | .integer number => toString number
  | .float written => written
  | .boolean value => if value then "true" else "false"
  | .dateTime written => written
  | .array _ _ => "[]"
  | .table _ _ => "\x7b\x7d"

def renderEntry (entry : String × Value) : String :=
  entry.1 ++ " = " ++ renderScalar entry.2 ++ "\n"

def renderSection (name : String) (entries : Entries) : String :=
  "[" ++ name ++ "]\n" ++ String.join (entries.map renderEntry)

/-- A document of sections. -/
def renderSections (sections : List (String × Entries)) : String :=
  "\n".intercalate (sections.map fun (name, entries) => renderSection name entries)

end Toml

end Handheld
