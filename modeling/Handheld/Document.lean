/-! Documents: values by their names, as trees. A format turns them into text and back. -/

namespace Handheld

/-- A value of a document. -/
inductive Document.Value
  | text (text : String)
  | integer (number : Int)
  /-- A number with a fraction or an exponent, as it was written. -/
  | float (written : String)
  | boolean (value : Bool)
  /-- A date, a time or both, as it was written. -/
  | dateTime (written : String)
  | array (elements : List Document.Value)
  | table (entries : List (String × Document.Value))
  deriving Inhabited

/-- A document: its values with their names, in the order in which they were first named. -/
abbrev Document := List (String × Document.Value)

namespace Document

def get? (document : Document) (name : String) : Option Value :=
  (document.find? fun entry => entry.1 == name).map (·.2)

/-- The least and the greatest integer that a document can hold. -/
def leastInteger : Int := -9223372036854775808

def greatestInteger : Int := 9223372036854775807

/-- A way to write documents as text. It refuses, with a reason, documents that it cannot write
and texts that are no documents.
-/
structure Format where
  print : Document → Except String String
  parse : String → Except String Document

end Document

end Handheld
