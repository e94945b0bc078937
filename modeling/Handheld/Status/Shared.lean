import Handheld.Address.Ip
import Handheld.Input.Frame
import Handheld.Status.Events

/-! The status that the tasks of the server share: a view of the device and the events that
are pending for its reader. A write comes in two steps, first the view and then the events.
-/

namespace Handheld

namespace Status

/-- What is known of the device and its client. -/
structure View where
  battery : Int32 := 0
  charger : Bool := false
  wifi : UInt32 := 0
  clientIp : Option IpAddress := none
  linkUp : Bool := false
  lastFrame : Option Frame := none
  deriving DecidableEq, Inhabited

/-- A write to the shared status. -/
inductive Update
  | battery (percent : Int32)
  | charger (connected : Bool)
  | wifi (percent : UInt32)
  | link (up : Bool)
  | clientConnected (ip : IpAddress)
  | clientDisconnected (ip : IpAddress)
  | frame (frame : Frame)
  deriving DecidableEq

namespace View

/-- The view after a write. -/
def write (view : View) : Update → View
  | .battery percent => { view with battery := percent }
  | .charger connected => { view with charger := connected }
  | .wifi percent => { view with wifi := percent }
  | .link up => { view with linkUp := up }
  | .clientConnected ip => { view with clientIp := some ip }
  | .clientDisconnected ip =>
      if view.clientIp = some ip then { view with clientIp := none } else view
  | .frame frame => { view with lastFrame := some frame }

/-- The events that a write to this view raises. A reading raises one only when it changes,
a client coming or going always, and a frame never.
-/
def raised (view : View) : Update → Events
  | .battery percent => if view.battery = percent then .none else .battery
  | .charger connected => if view.charger = connected then .none else .charger
  | .wifi percent => if view.wifi = percent then .none else .wifi
  | .link up => if view.linkUp = up then .none else if up then .linkUp else .linkDown
  | .clientConnected _ => .clientConnected
  | .clientDisconnected _ => .clientDisconnected
  | .frame _ => .none

end View

/-- The view and the events that no reader has taken yet. -/
structure Shared where
  view : View := {}
  pending : Events := .none
  deriving DecidableEq, Inhabited

namespace Shared

/-- The status at the start, when battery and charger have been read once. -/
def initial (battery : Int32) (charger : Bool) : Shared :=
  { view := { battery, charger } }

def raise (shared : Shared) (events : Events) : Shared :=
  { shared with pending := shared.pending ||| events }

/-- A whole write: the view first, then the events it raises. -/
def write (shared : Shared) (update : Update) : Shared :=
  { shared with view := shared.view.write update }.raise (shared.view.raised update)

def writeAll (shared : Shared) (updates : List Update) : Shared :=
  updates.foldl write shared

/-- Hands the pending events to a reader. -/
def take (shared : Shared) : Events × Shared :=
  (shared.pending, { shared with pending := .none })

end Shared

end Status

end Handheld
