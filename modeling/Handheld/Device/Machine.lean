import Handheld.Device.PowerSupply
import Handheld.Device.Wireless
import Handheld.FileTree
import Handheld.Status.Sampling

/-! The readings of the machine itself, from the files in which its system shows them. -/

namespace Handheld

/-- What the system shows of power and radio. -/
structure Machine where
  supplies : List PowerSupply
  wireless : File
  deriving DecidableEq, Inhabited

namespace Machine

/-- A machine whose power supplies are the directories below one path. -/
def ofTree (tree : FileTree) (power wireless : List String) : Machine :=
  {
    supplies := (tree.names power).map fun name =>
      let file (part : String) := tree.get (power ++ [name, part])
      {
        name := name.toUTF8.toList
        kind := file "type"
        capacity := file "capacity"
        status := file "status"
        online := file "online"
      }
    wireless := tree.get wireless
  }

/-- Reads battery, charger and radio. -/
def sample (machine : Machine) : Status.Sample :=
  {
    battery := Int32.ofNat (PowerSupply.batteryPercent machine.supplies)
    charger := PowerSupply.chargerConnected machine.supplies
    wifi := Wireless.signalPercent machine.wireless
  }

end Machine

end Handheld
