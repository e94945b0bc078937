import Handheld.Document
import Handheld.Toml.Document
import Handheld.Toml.Writer

/-! TOML as a format of documents. Any document is parsed; printed are documents of sections
with texts, booleans and integers, and settings have no others.
-/

namespace Handheld

namespace Toml

mutual

/-- A value as a tree, which does not tell how its tables came to be. -/
def Value.tree : Value → Document.Value
  | .text text => .text text
  | .integer number => .integer number
  | .float written => .float written
  | .boolean value => .boolean value
  | .dateTime written => .dateTime written
  | .array _ elements => .array (elementTrees elements)
  | .table _ entries => .table (entryTrees entries)

def elementTrees : List Value → List Document.Value
  | [] => []
  | value :: rest => value.tree :: elementTrees rest

def entryTrees : Entries → Document
  | [] => []
  | (key, value) :: rest => (key, value.tree) :: entryTrees rest

end

/-- A value that stands on the line of its key. -/
def lineValue : Document.Value → Except String Value
  | .text text => .ok (.text text)
  | .boolean value => .ok (.boolean value)
  | .integer number =>
      if Document.leastInteger ≤ number ∧ number ≤ Document.greatestInteger then
        .ok (.integer number)
      else .error "integer out of range"
  | _ => .error "unsupported value"

/-- Converts the value under each name. -/
def eachValue {α : Type} (convert : Document.Value → Except String α)
    : Document → Except String (List (String × α))
  | [] => .ok []
  | (name, value) :: rest => do
      return (name, ← convert value) :: (← eachValue convert rest)

/-- A table whose entries stand on lines of their own. -/
def sectionEntries : Document.Value → Except String Entries
  | .table entries => eachValue lineValue entries
  | _ => .error "unsupported value"

/-- The text of a document. -/
def print (document : Document) : Except String String :=
  (eachValue sectionEntries document).map renderSections

/-- The document of a text. -/
def parse (text : String) : Except String Document :=
  match read text with
  | .ok entries => .ok (entryTrees entries)
  | .error problem => .error problem.message

/-- The format of the settings file. -/
def format : Document.Format where
  print := print
  parse := parse

end Toml

end Handheld
