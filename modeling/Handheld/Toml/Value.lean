/-! Values of TOML documents. A table remembers how it came to be, since that decides which
later lines may still add to it.
-/

namespace Handheld

namespace Toml

/-- How a table came to be. -/
inductive Form
  /-- Written between braces; nothing is added to it later. -/
  | braces
  /-- Under a header of its own. -/
  | header
  /-- Named only as a part of a longer header. -/
  | parent
  /-- Named only as a part of a dotted key. -/
  | dotted
  deriving DecidableEq, Inhabited

/-- A value of a document. -/
inductive Value
  | text (text : String)
  | integer (number : Int)
  /-- A number with a fraction or an exponent, as it was written. -/
  | float (written : String)
  | boolean (value : Bool)
  /-- A date, a time or both, as it was written. -/
  | dateTime (written : String)
  /-- A list; `ofHeaders` tells that each element is a table under a doubled header. -/
  | array (ofHeaders : Bool) (elements : List Value)
  | table (form : Form) (entries : List (String × Value))
  deriving Inhabited

/-- The entries of a table, in the order in which they were first named. -/
abbrev Entries := List (String × Value)

namespace Entries

def get? (entries : Entries) (key : String) : Option Value :=
  (entries.find? fun entry => entry.1 == key).map (·.2)

/-- Puts a value in the place of the one with its key, or adds it behind the others. -/
def set (entries : Entries) (key : String) (value : Value) : Entries :=
  if entries.any fun entry => entry.1 == key then
    entries.map fun entry => if entry.1 == key then (key, value) else entry
  else entries ++ [(key, value)]

end Entries

/-- Why a text is no document. -/
inductive Problem
  /-- The statement that begins on this line is not well-formed. -/
  | malformed (line : Nat)
  | duplicateKey (key : String)
  /-- A key was used as a table although it names something else. -/
  | notATable (key : String)
  deriving DecidableEq, Inhabited

def Problem.message : Problem → String
  | malformed line => "malformed statement at line " ++ toString line
  | duplicateKey key => "duplicate key " ++ key
  | notATable key => "not a table: " ++ key

end Toml

end Handheld
