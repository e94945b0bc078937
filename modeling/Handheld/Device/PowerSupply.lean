import Handheld.File
import Handheld.Text.Numeral

/-! Battery and charger, as the directory of power supplies shows them. The directory may list
its supplies in any order; where one must be chosen it is the one with the least name.
-/

namespace Handheld

/-- One power supply: its name, which need not be a text, and what its files hold. -/
structure PowerSupply where
  name : Bytes
  kind : File
  capacity : File := .absent
  status : File := .absent
  online : File := .absent
  deriving DecidableEq, Inhabited

namespace PowerSupply

/-- Names are compared byte by byte. -/
def before (left right : PowerSupply) : Bool := !decide (right.name < left.name)

def isOf (kind : String) (supply : PowerSupply) : Bool := supply.kind.trimmed? == some kind

/-- The supplies of a kind, by name. -/
def ofKind (kind : String) (supplies : List PowerSupply) : List PowerSupply :=
  (supplies.filter (·.isOf kind)).mergeSort before

/-- The battery that counts, if there is one. -/
def battery? (supplies : List PowerSupply) : Option PowerSupply :=
  (ofKind "Battery" supplies).head?

/-- A percentage that is written in decimal, brought into its range. -/
def percent? (text : String) : Option Nat :=
  (Numeral.integer? (-2147483648) 2147483647 text.toList).map fun number =>
    (min number 100).toNat

/-- The charge of the battery; without a battery, or when it cannot be read, it is empty. -/
def batteryPercent (supplies : List PowerSupply) : Nat :=
  (((battery? supplies).bind (·.capacity.trimmed?)).bind percent?).getD 0

def isOnline (supply : PowerSupply) : Bool := supply.online.trimmed? == some "1"

/-- Tells whether power comes from outside: a supply that is not a battery is online, or the
battery itself says so.
-/
def chargerConnected (supplies : List PowerSupply) : Bool :=
  ["Mains", "USB"].any (fun kind => (ofKind kind supplies).any isOnline)
    || (((battery? supplies).bind (·.status.trimmed?)).any fun status =>
      status == "Charging" || status == "Full")

end PowerSupply

end Handheld
