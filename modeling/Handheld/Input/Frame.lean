import Handheld.Input.Buttons

/-! One sampled state of the controls. Motion values are kept as the 32 bits of their
binary floating-point numbers, so that every bit pattern travels unchanged.
-/

namespace Handheld

/-- One finger on a touch surface. -/
structure TouchReport where
  force : UInt8
  id : UInt8
  x : Int16
  y : Int16
  deriving DecidableEq, Inhabited

/-- The bits of a 32-bit binary floating-point number. -/
abbrev SingleBits := UInt32

/-- Three axes of a motion sensor. -/
structure Axes where
  x : SingleBits
  y : SingleBits
  z : SingleBits
  deriving DecidableEq, Inhabited

/-- Everything the controls show at one moment. -/
structure Frame where
  buttons : Buttons := .none
  lx : Int16 := 0
  ly : Int16 := 0
  rx : Int16 := 0
  ry : Int16 := 0
  frontTouches : List TouchReport := []
  backTouches : List TouchReport := []
  gyro : Axes := ⟨0, 0, 0⟩
  accel : Axes := ⟨0, 0, 0⟩
  /-- The moment of the sample, in microseconds. -/
  timestamp : UInt64 := 0
  deriving DecidableEq, Inhabited

end Handheld
