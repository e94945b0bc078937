/-! Button sets: thirteen independent flags in a 16-bit word, never an undefined one. -/

namespace Handheld

/-- Tells whether a word uses only the thirteen low flags, the ones that have a button. -/
def Buttons.Defined (bits : UInt16) : Prop := bits.toNat < 0x2000

instance (bits : UInt16) : Decidable (Buttons.Defined bits) :=
  inferInstanceAs (Decidable (_ < _))

/-- The buttons held down; any combination may be held at once. -/
structure Buttons where
  bits : UInt16
  defined : Buttons.Defined bits
  deriving DecidableEq

namespace Buttons

/-- No button is held. -/
def none : Buttons := ⟨0, by decide⟩

/-- Every button is held. -/
def all : Buttons := ⟨0x1fff, by decide⟩

instance : Inhabited Buttons := ⟨none⟩

/-- Reads a word, refusing one with an undefined flag. -/
def ofBits? (bits : UInt16) : Option Buttons :=
  if defined : Defined bits then some ⟨bits, defined⟩ else Option.none

/-- Button names, from the lowest flag to the highest. -/
def names : List String :=
  ["select", "start", "up", "right", "down", "left", "l", "r", "triangle", "circle",
    "cross", "square", "ps"]

theorem defined_or {left right : UInt16} (hl : Defined left) (hr : Defined right)
    : Defined (left ||| right) := by
  simpa [Defined, UInt16.toNat_or] using @Nat.or_lt_two_pow _ _ 13 hl hr

theorem defined_and {left : UInt16} (right : UInt16) (hl : Defined left)
    : Defined (left &&& right) := by
  simpa [Defined, UInt16.toNat_and] using Nat.lt_of_le_of_lt Nat.and_le_left hl

/-- The buttons held in either set. -/
def union (left right : Buttons) : Buttons :=
  ⟨left.bits ||| right.bits, defined_or left.defined right.defined⟩

/-- The buttons of the first set that are not in the second. -/
def diff (left right : Buttons) : Buttons :=
  ⟨left.bits &&& ~~~right.bits, defined_and _ left.defined⟩

/-- Tells whether every button of `right` is held in `left`. -/
def contains (left right : Buttons) : Bool := left.bits &&& right.bits == right.bits

def isEmpty (buttons : Buttons) : Bool := buttons.bits == 0

/-- The set that holds the button of flag `index` alone; flags above the last give none. -/
def single (index : Nat) : Buttons :=
  if index < 13 then (ofBits? (1 <<< UInt16.ofNat index)).getD none else none

/-- The names of the held buttons, in flag order. -/
def heldNames (buttons : Buttons) : List String :=
  (names.zipIdx.filter fun entry => buttons.contains (single entry.2)).map (·.1)

/-- A set is shown as its names in braces, and `\x7b\x7d` when it is empty. -/
def render (buttons : Buttons) : String :=
  "\x7b" ++ ", ".intercalate buttons.heldNames ++ "\x7d"

end Buttons

end Handheld
