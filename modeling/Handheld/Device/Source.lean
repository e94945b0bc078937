import Handheld.Failure
import Handheld.Settings.Basic

/-! The sources of frames and of readings that settings can name. -/

namespace Handheld

/-- Where frames come from. -/
inductive FrameSource
  | simulated (seed : UInt64)
  deriving DecidableEq, Inhabited

/-- Where readings of battery, charger and radio come from. -/
inductive ReadingSource
  /-- The files in which the system shows them. -/
  | machine
  | simulated (seed : UInt64)
  deriving DecidableEq, Inhabited

namespace Settings

/-- The source of frames that is named. -/
def frameSource (settings : Settings) : Except Failure FrameSource :=
  if settings.input.source = "mock" then .ok (.simulated settings.input.randomSeed)
  else .error (.unknownSource ("input source '" ++ settings.input.source ++ "'"))

/-- The source of readings that is named. A simulated one shares the seed of the frames. -/
def readingSource (settings : Settings) : Except Failure ReadingSource :=
  if settings.status.source = "sysfs" then .ok .machine
  else if settings.status.source = "mock" then .ok (.simulated settings.input.randomSeed)
  else .error (.unknownSource ("status source '" ++ settings.status.source ++ "'"))

end Settings

end Handheld
