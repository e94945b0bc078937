/-! The state of the network link as its watcher reports it. The monitor turns a queue of
reports into transitions by dropping those that repeat the state before them.
-/

namespace Handheld

/-- Whether the network can be reached. -/
inductive LinkState
  | up
  | down
  deriving DecidableEq, Inhabited

namespace LinkState

def ofUp (up : Bool) : LinkState := if up then .up else .down

def isUp : LinkState → Bool
  | up => true
  | down => false

end LinkState

/-- The receiving end of link reports. Its queue stands for a channel without a bound, and
relies on what such a channel promises: nothing sent is lost or doubled, what is received comes
in the order in which it was sent, and receiving from an empty channel does not wait.
-/
structure LinkMonitor where
  current : LinkState
  /-- Reports that have been sent and not been received, oldest first. -/
  queue : List LinkState := []
  deriving DecidableEq, Inhabited

namespace LinkMonitor

def notify (monitor : LinkMonitor) (state : LinkState) : LinkMonitor :=
  { monitor with queue := monitor.queue ++ [state] }

/-- The next real change among the reports, with the reports behind it. -/
def nextFrom (current : LinkState) : List LinkState → Option LinkState × LinkMonitor
  | [] => (none, ⟨current, []⟩)
  | state :: rest =>
      if state = current then nextFrom current rest else (some state, ⟨state, rest⟩)

/-- The next real change, skipping reports that repeat the current state. -/
def next (monitor : LinkMonitor) : Option LinkState × LinkMonitor :=
  nextFrom monitor.current monitor.queue

/-- Every real change in a list of reports. -/
def changes (current : LinkState) : List LinkState → List LinkState
  | [] => []
  | state :: rest =>
      if state = current then changes current rest else state :: changes state rest

/-- Takes every change that is queued, in order. -/
def takeAll (monitor : LinkMonitor) : List LinkState × LinkMonitor :=
  (changes monitor.current monitor.queue, ⟨(monitor.queue.getLast?).getD monitor.current, []⟩)

end LinkMonitor

end Handheld
