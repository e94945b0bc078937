import Handheld.Status.Shared

/-! Reading battery, charger and radio at regular times. -/

namespace Handheld

namespace Status

/-- One reading of the device. -/
structure Sample where
  battery : Int32
  charger : Bool
  wifi : UInt32
  deriving DecidableEq, Inhabited

/-- The writes of one reading, in the order in which they are made. -/
def Sample.updates (sample : Sample) : List Update :=
  [.battery sample.battery, .charger sample.charger, .wifi sample.wifi]

namespace Shared

def sample (shared : Shared) (sample : Sample) : Shared := shared.writeAll sample.updates

/-- Takes the events after each of a list of readings. -/
def sampleEach : List Sample → Shared → List Events × Shared
  | [], shared => ([], shared)
  | sample :: rest, shared =>
      let (events, taken) := (shared.sample sample).take
      let (more, last) := sampleEach rest taken
      (events :: more, last)

/-- Samples until the readings end, leaving every event pending. -/
def sampleAll (shared : Shared) (samples : List Sample) : Shared :=
  samples.foldl Shared.sample shared

end Shared

end Status

end Handheld
