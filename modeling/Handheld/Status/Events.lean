/-! Event bits: what has changed since a reader last looked. -/

namespace Handheld

namespace Status

/-- A set of events, one bit each. -/
abbrev Events := UInt32

namespace Events

def none : Events := 0

def clientDisconnected : Events := 0x1

def clientConnected : Events := 0x2

def linkUp : Events := 0x4

def linkDown : Events := 0x8

def battery : Events := 0x100

def charger : Events := 0x200

def wifi : Events := 0x400

/-- The named events, from the lowest bit to the highest. -/
def named : List (Events × String) :=
  [(clientDisconnected, "pc-disconnect"), (clientConnected, "pc-connect"),
    (linkUp, "net-connect"), (linkDown, "net-disconnect"), (battery, "battery"),
    (charger, "charger"), (wifi, "wifi")]

/-- The names of the events in a set; bits without a name are left out. -/
def describe (events : Events) : List String :=
  (named.filter fun entry => events &&& entry.1 != 0).map (·.2)

end Events

end Status

end Handheld
