import Handheld.Toml.Value

/-! Building up tables line by line. Each table is defined once: a header may take over a
table that only longer headers have named, and dotted keys may only add to tables that dotted
keys have made.
-/

namespace Handheld

namespace Toml

/-- What names a path: a header or a dotted key. -/
inductive PathUse
  | header
  | dottedKey
  deriving DecidableEq, Inhabited

/-- The form of a table that a path makes on its way. -/
def PathUse.form : PathUse → Form
  | header => .parent
  | dottedKey => .dotted

/-- Whether a path may lead into a table of a form. -/
def PathUse.enters (use : PathUse) (form : Form) : Bool :=
  match use, form with
  | _, .braces => false
  | .header, _ => true
  | .dottedKey, .header => false
  | .dottedKey, _ => true

/-- Changes the table at the end of a path, making the tables on the way that do not exist.
In a list of tables under doubled headers the path goes on in the last one.
-/
def changeAt (use : PathUse) (change : Form → Entries → Except Problem Entries)
    : List String → Form → Entries → Except Problem Entries
  | [], form, entries => change form entries
  | key :: path, _, entries =>
      match entries.get? key with
      | none => do
          let inner ← changeAt use change path use.form []
          return entries.set key (.table use.form inner)
      | some (.table form inner) =>
          if use.enters form then do
            let inner ← changeAt use change path form inner
            return entries.set key (.table form inner)
          else throw (.duplicateKey key)
      | some (.array true elements) =>
          match elements.getLast? with
          | some (.table form inner) => do
              let inner ← changeAt use change path form inner
              return entries.set key (.array true (elements.dropLast ++ [.table form inner]))
          | _ => throw (.notATable key)
      | some _ => throw (.notATable key)

/-- Adds an entry to the table at the end of a dotted key. A table that the dots lead to must
have been made by dots.
-/
def addEntry (path : List String) (key : String) (value : Value) (form : Form)
    (entries : Entries)
    : Except Problem Entries :=
  changeAt .dottedKey
    (fun form entries =>
      if ¬path.isEmpty ∧ form ≠ .dotted then .error (.duplicateKey key)
      else if (entries.get? key).isSome then .error (.duplicateKey key)
      else .ok (entries.set key value))
    path form entries

/-- Defines the table of a header. -/
def openTable (path : List String) (key : String) (root : Entries) : Except Problem Entries :=
  changeAt .header
    (fun _ entries =>
      match entries.get? key with
      | none => .ok (entries.set key (.table .header []))
      | some (.table .parent inner) => .ok (entries.set key (.table .header inner))
      | some _ => .error (.duplicateKey key))
    path .header root

/-- Adds a table to the list of a doubled header. -/
def openElement (path : List String) (key : String) (root : Entries)
    : Except Problem Entries :=
  changeAt .header
    (fun _ entries =>
      match entries.get? key with
      | none => .ok (entries.set key (.array true [.table .header []]))
      | some (.array true elements) =>
          .ok (entries.set key (.array true (elements ++ [.table .header []])))
      | some _ => .error (.duplicateKey key))
    path .header root

end Toml

end Handheld
