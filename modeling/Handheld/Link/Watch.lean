import Handheld.Link.Monitor

/-! The watcher that probes the link and the channel to the monitor. Either end of the channel
may go first: reports to a monitor that is gone are refused, and a monitor whose watcher is
gone still works off what was queued.
-/

namespace Handheld

/-- The channel from a watcher to its monitor, first in, first out. As channels promise, sending
never waits and fails exactly if the receiving end is gone, and what was sent before the sending
end went can still be received.
-/
structure LinkChannel where
  /-- The receiving end, unless it is gone. -/
  monitor : Option LinkMonitor
  /-- Whether a sending end is left. -/
  sending : Bool := true
  deriving DecidableEq, Inhabited

namespace LinkChannel

def start (initial : LinkState) : LinkChannel := { monitor := some { current := initial } }

/-- Sends a report; false when nobody can receive it. -/
def notify (channel : LinkChannel) (state : LinkState) : Bool × LinkChannel :=
  match channel.monitor with
  | none => (false, channel)
  | some monitor => (true, { channel with monitor := some (monitor.notify state) })

def next (channel : LinkChannel) : Option LinkState × LinkChannel :=
  match channel.monitor with
  | none => (none, channel)
  | some monitor =>
      let (state, monitor) := monitor.next
      (state, { channel with monitor := some monitor })

def dropMonitor (channel : LinkChannel) : LinkChannel := { channel with monitor := none }

def dropSender (channel : LinkChannel) : LinkChannel := { channel with sending := false }

/-- Reports the first probe and then every probe that differs from the last report. The
watcher stops when a report is refused.
-/
def watchFrom (last : Option LinkState) : List Bool → LinkChannel → LinkChannel
  | [], channel => channel
  | up :: rest, channel =>
      let state := LinkState.ofUp up
      if last = some state then watchFrom last rest channel
      else
        let (received, channel) := channel.notify state
        if received then watchFrom (some state) rest channel else channel

/-- Runs a watcher over the results of its probes. -/
def watch (channel : LinkChannel) (probes : List Bool) : LinkChannel :=
  watchFrom none probes channel

end LinkChannel

end Handheld
