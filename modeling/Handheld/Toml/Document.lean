import Handheld.Toml.DateTime
import Handheld.Toml.Quoted
import Handheld.Toml.Table

/-! Reading a document: statements one after the other, each a header or a key with a value. -/

namespace Handheld

namespace Toml

-----------------------------------------------------------------------------------------
-- Keys
-----------------------------------------------------------------------------------------

/-- Characters that a key may have without quotes. -/
def isKeyChar (c : Char) : Bool := c.isAlphanum || c == '-' || c == '_'

/-- One part of a dotted key. -/
def simpleKey : Scan String := fun text =>
  match text with
  | '\"' :: _ => quotedLine text
  | '\'' :: _ => quotedLine text
  | _ =>
      let (run, rest) := text.span isKeyChar
      if run.isEmpty then none else some (String.ofList run, rest)

/-- The parts of a dotted key with blanks around them; `fuel` bounds their number. -/
def keyParts : (fuel : Nat) → Scan (List String)
  | 0, _ => none
  | fuel + 1, text => do
      let (first, rest) ← simpleKey (skipBlanks text)
      let rest := skipBlanks rest
      match rest with
      | '.' :: rest =>
          let (more, rest) ← keyParts fuel rest
          return (first :: more, rest)
      | _ => return ([first], rest)

/-- A dotted key: the path to its table and its last part. -/
def dottedKey : Scan (List String × String) := fun text => do
  let (parts, rest) ← keyParts (text.length + 1) text
  guard (parts.length < depthLimit)
  return ((parts.dropLast, ← parts.getLast?), rest)

-----------------------------------------------------------------------------------------
-- Values
-----------------------------------------------------------------------------------------

/-- A word that is a value. -/
def word (letters : String) (value : Value) : Scan Value := fun text =>
  (literal letters.toList text).map fun (_, rest) => (value, rest)

/-- A value without values inside it. -/
def scalar : Scan Value := fun text =>
  match text with
  | [] => none
  | c :: _ =>
      if c = '\"' ∨ c = '\'' then (quoted text).map fun (text, rest) => (.text text, rest)
      else if c = '+' ∨ c = '-' ∨ isDecimal c then
        dateTime text <|> plainFloat text <|> specialFloat text <|> integer text
      else
        word "true" (.boolean true) text <|> word "false" (.boolean false) text
          <|> specialFloat text

mutual

/-- A value that stands inside `depth` others; `fuel` bounds the work. -/
def value : (fuel depth : Nat) → Scan Value
  | 0, _, _ => none
  | fuel + 1, depth, text =>
      match text with
      | '[' :: rest =>
          if depth + 1 < depthLimit then do
            let (elements, rest) ← elements fuel (depth + 1) (skipSpace rest)
            return (.array false elements, rest)
          else none
      | '\x7b' :: rest =>
          if depth + 1 < depthLimit then
            match skipBlanks rest with
            | '\x7d' :: rest => some (.table .braces [], rest)
            | rest => do
                let (entries, rest) ← pairs fuel (depth + 1) [] rest
                return (.table .braces entries, rest)
          else none
      | _ => scalar text

/-- The elements of a list up to its closing bracket; a comma may follow the last one. -/
def elements : (fuel depth : Nat) → Scan (List Value)
  | 0, _, _ => none
  | fuel + 1, depth, text =>
      match text with
      | ']' :: rest => some ([], rest)
      | _ => do
          let (first, rest) ← value fuel depth text
          match skipSpace rest with
          | ',' :: rest =>
              let (more, rest) ← elements fuel depth (skipSpace rest)
              return (first :: more, rest)
          | ']' :: rest => return ([first], rest)
          | _ => none

/-- The entries of a table in braces up to its closing brace, on one line and without a comma
behind the last; those before are in `found`.
-/
def pairs : (fuel depth : Nat) → (found : Entries) → Scan Entries
  | 0, _, _, _ => none
  | fuel + 1, depth, found, text => do
      let ((path, key), rest) ← dottedKey text
      let (_, rest) ← literal ['='] rest
      let (first, rest) ← value fuel depth (skipBlanks rest)
      let found ← (addEntry path key first .braces found).toOption
      match skipBlanks rest with
      | ',' :: rest => pairs fuel depth found rest
      | '\x7d' :: rest => return (found, rest)
      | _ => none

end

-----------------------------------------------------------------------------------------
-- Statements
-----------------------------------------------------------------------------------------

/-- One statement of a document. -/
inductive Statement
  | table (path : List String) (key : String)
  | element (path : List String) (key : String)
  | entry (path : List String) (key : String) (value : Value)

/-- A header between brackets, which are doubled for an element of a list. -/
def headerLine : Scan Statement := fun text =>
  match text with
  | '[' :: '[' :: rest => do
      let ((path, key), rest) ← dottedKey rest
      let (_, rest) ← literal [']', ']'] rest
      let (_, rest) ← statementEnd rest
      return (.element path key, rest)
  | '[' :: rest => do
      let ((path, key), rest) ← dottedKey rest
      let (_, rest) ← literal [']'] rest
      let (_, rest) ← statementEnd rest
      return (.table path key, rest)
  | _ => none

/-- A key with its value. -/
def entryLine : Scan Statement := fun text => do
  let ((path, key), rest) ← dottedKey text
  let (_, rest) ← literal ['='] rest
  let rest := skipBlanks rest
  let (value, rest) ← value (2 * rest.length + 2) 0 rest
  let (_, rest) ← statementEnd rest
  return (.entry path key value, rest)

/-- The next statement. -/
def statement : Scan Statement := fun text =>
  match text with
  | '[' :: _ => headerLine text
  | _ => entryLine text

/-- A document as far as it has been read: its entries, and the table that statements add to,
by its path.
-/
structure Draft where
  root : Entries := []
  current : List String := []

/-- Adds a statement to a document. -/
def Draft.add (draft : Draft) : Statement → Except Problem Draft
  | .table path key => do
      return { root := ← openTable path key draft.root, current := path ++ [key] }
  | .element path key => do
      return { root := ← openElement path key draft.root, current := path ++ [key] }
  | .entry path key value => do
      let root ← changeAt .header (addEntry path key value) draft.current .header draft.root
      return { draft with root }

/-- Reads statements to the end of the text; `fuel` bounds their number. -/
def readStatements (lines : Nat) : (fuel : Nat) → Draft → List Char → Except Problem Draft
  | 0, _, _ => .error (.malformed 1)
  | fuel + 1, draft, text =>
      match skipSpace text with
      | [] => .ok draft
      | rest =>
          match statement rest with
          | none => .error (.malformed (lines - rest.count '\n' + 1))
          | some (statement, rest) => do
              readStatements lines fuel (← draft.add statement) rest

/-- Reads a whole document. A byte order mark at its beginning is ignored. -/
def read (text : String) : Except Problem Entries := do
  let letters :=
    match text.toList with
    | '\ufeff' :: rest => rest
    | letters => letters
  let draft ← readStatements (letters.count '\n') (letters.length + 1) {} letters
  return draft.root

end Toml

end Handheld
