import Handheld.Address.Rendering
import Handheld.Moment

/-! The settings of the server, by section. Every setting has a default, so that a document
only needs the values it changes.
-/

namespace Handheld

namespace Settings

/-- Where the server listens and how many clients it takes. -/
structure Network where
  bindAddress : IpAddress := .v4 .unspecified
  controlPort : UInt16 := 5000
  maxSessions : UInt64 := 1
  /-- The silence that is allowed before a session is dropped. -/
  heartbeatTimeoutSecs : UInt32 := 25
  idleTimeoutMs : UInt64 := 100
  linkDownTimeoutMs : UInt64 := 1000
  /-- The least time between two attempts to bind after a failed one. -/
  rebindRetryMs : UInt64 := 1000
  deriving DecidableEq

namespace Network

def controlAddress (network : Network) : SocketAddress :=
  .ofIp network.bindAddress network.controlPort

def heartbeatTimeout (network : Network) : Span :=
  Span.ofSeconds network.heartbeatTimeoutSecs.toNat

def idleTimeout (network : Network) : Span := Span.ofMillis network.idleTimeoutMs.toNat

def linkDownTimeout (network : Network) : Span := Span.ofMillis network.linkDownTimeoutMs.toNat

def rebindRetry (network : Network) : Span := Span.ofMillis network.rebindRetryMs.toNat

end Network

/-- How the link is watched. -/
structure Link where
  probeEnabled : Bool := true
  /-- The link is up while there is a route to this address. -/
  probeAddress : SocketAddress := .v4 ⟨192, 0, 2, 1⟩ 9
  probeIntervalMs : UInt64 := 1000
  deriving DecidableEq

def Link.probeInterval (link : Link) : Span := Span.ofMillis link.probeIntervalMs.toNat

/-- Where frames come from. -/
structure Input where
  source : String := "mock"
  /-- The seed of a simulated source; 0 stands for a different one in each run. -/
  randomSeed : UInt64 := 0
  deriving DecidableEq

/-- Where battery, charger and radio readings come from. -/
structure StatusSource where
  source : String := "sysfs"
  intervalMs : UInt64 := 1000
  deriving DecidableEq

def StatusSource.interval (status : StatusSource) : Span := Span.ofMillis status.intervalMs.toNat

/-- What is logged. -/
structure Logging where
  level : String := "info"
  deriving DecidableEq

end Settings

/-- All settings of the server. -/
structure Settings where
  network : Settings.Network := {}
  link : Settings.Link := {}
  input : Settings.Input := {}
  status : Settings.StatusSource := {}
  logging : Settings.Logging := {}
  deriving DecidableEq

namespace Settings

instance : Inhabited Settings := ⟨{}⟩

/-- The values that must not be zero, in the order in which they are checked, each with the
rule that a zero breaks.
-/
def checks (settings : Settings) : List (Bool × String) :=
  [(settings.network.controlPort == 0, "network.control_port must be nonzero"),
    (settings.network.maxSessions == 0, "network.max_sessions must be at least 1"),
    (settings.network.heartbeatTimeoutSecs == 0,
      "network.heartbeat_timeout_secs must be nonzero"),
    (settings.network.idleTimeoutMs == 0, "network.idle_timeout_ms must be nonzero"),
    (settings.network.linkDownTimeoutMs == 0,
      "network.link_down_timeout_ms must be nonzero"),
    (settings.link.probeIntervalMs == 0, "link.probe_interval_ms must be nonzero"),
    (settings.status.intervalMs == 0, "status.interval_ms must be nonzero")]

/-- The first rule that the settings break, if they break one. -/
def brokenRule? (settings : Settings) : Option String :=
  (settings.checks.find? (·.1)).map (·.2)

end Settings

end Handheld
