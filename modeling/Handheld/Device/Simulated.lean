import Handheld.Input.Frame
import Handheld.Noise.Gaussian
import Handheld.Status.Sampling

/-! A simulated handheld. Its sticks turn slowly, opposite to each other; one button after
another is held for a second each; a finger sweeps the front half of the time; it lies level;
its battery drains and its radio flickers. All but the buttons and the finger is noisy.
-/

namespace Handheld

namespace Simulated

/-- The time since the simulation began. -/
structure Elapsed where
  seconds : UInt64
  nanos : UInt32
  deriving DecidableEq, Inhabited

namespace Elapsed

/-- The time in seconds, the whole ones and the rest rounded on their own. -/
def inSeconds (elapsed : Elapsed) : Float32 :=
  elapsed.seconds.toFloat32 + elapsed.nanos.toFloat32 / 1000000000

/-- Whole microseconds, in a word. -/
def micros (elapsed : Elapsed) : UInt64 :=
  elapsed.seconds * 1000000 + (elapsed.nanos / 1000).toUInt64

end Elapsed

/-- The part of a number behind its point; the number is not negative. -/
def fraction (number : Float32) : Float32 := number - number.floor

-----------------------------------------------------------------------------------------
-- Controls
-----------------------------------------------------------------------------------------

/-- How long a stick takes for a full turn, in seconds. -/
def turn : Float32 := 4

def stickRadius : Float32 := 20000

def stickJitter : Float32 := 150

def gyroNoise : Float32 := 0.01

def accelNoise : Float32 := 0.005

def fullCircle : Float32 := 6.283185307179586

/-- The width of the front surface; the finger moves along its middle. -/
def frontWidth : Float32 := 1920

def frontMiddle : Int16 := 544

/-- The button that is held during a second; the thirteen take turns. -/
def heldButton (seconds : Float32) : Buttons := .single (seconds.toUInt64.toNat % 13)

/-- The finger on the front, which is lifted in the second half of each second. -/
def finger (seconds : Float32) : List TouchReport :=
  let part := fraction seconds
  if part < 0.5 then [⟨128, 0, (part * 2 * frontWidth).toInt16, frontMiddle⟩] else []

/-- One axis of a stick, for a point on the unit circle. -/
def stick (unit : Float32) : Noise.Draw Int16 := do
  let place := unit * stickRadius + (← Noise.gaussian stickJitter)
  return if place < -32768 then -32768
    else if 32767 < place then 32767
    else place.toInt16

/-- Rotation: only noise, since the handheld is at rest. -/
def gyro : Noise.Draw Axes := do
  let x ← Noise.gaussian gyroNoise
  let y ← Noise.gaussian gyroNoise
  let z ← Noise.gaussian gyroNoise
  return ⟨x.toBits, y.toBits, z.toBits⟩

/-- Acceleration: gravity along the third axis, with noise. -/
def accel : Noise.Draw Axes := do
  let x ← Noise.gaussian accelNoise
  let y ← Noise.gaussian accelNoise
  let z ← Noise.gaussian accelNoise
  return ⟨x.toBits, y.toBits, (1 + z).toBits⟩

/-- Samples the controls. -/
def frame (elapsed : Elapsed) : Noise.Draw Frame := do
  let seconds := elapsed.inSeconds
  let angle := fraction (seconds / turn) * fullCircle
  let lx ← stick angle.cos
  let ly ← stick angle.sin
  let rx ← stick (-angle.cos)
  let ry ← stick (-angle.sin)
  let gyro ← gyro
  let accel ← accel
  return {
    buttons := heldButton seconds
    lx, ly, rx, ry
    frontTouches := finger seconds
    gyro, accel
    timestamp := elapsed.micros
  }

-----------------------------------------------------------------------------------------
-- Battery, charger and radio
-----------------------------------------------------------------------------------------

/-- The part of the handheld that is not its controls. -/
structure Gauges where
  noise : Noise.Generator
  /-- The charge of the battery in percent. -/
  charge : Float32 := 100

namespace Gauges

def ofSeed (seed : UInt64) : Gauges := { noise := .ofSeed seed }

/-- What each reading of the battery takes from it, in percent. -/
def drain : Float32 := 0.02

/-- Reads the battery, rounded up; it ends at zero. -/
def battery (gauges : Gauges) : Int32 × Gauges :=
  let drained := gauges.charge - drain
  let charge := if drained < 0 then 0 else drained
  (charge.ceil.toInt32, { gauges with charge })

/-- Reads the radio: a fair signal that drops by one every now and then. -/
def wifi (gauges : Gauges) : UInt32 × Gauges :=
  let (dropped, noise) := (Noise.chance 0.1).run gauges.noise
  (if dropped then 69 else 70, { gauges with noise })

/-- Reads all three gauges; the charger is never connected. -/
def sample (gauges : Gauges) : Status.Sample × Gauges :=
  let (battery, gauges) := gauges.battery
  let (wifi, gauges) := gauges.wifi
  ({ battery, charger := false, wifi }, gauges)

end Gauges

end Simulated

end Handheld
