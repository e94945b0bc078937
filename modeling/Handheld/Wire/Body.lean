import Handheld.Wire.Malformation

/-! Checking and reading the body of a frame. The check walks the body by offsets, the reader
field by field, and both say so when they look past its end.
-/

namespace Handheld

namespace Wire

/-- Why a body is not read to a packet. -/
inductive Fault
  /-- A byte was looked for past the end of the body. -/
  | pastEnd
  | malformed (reason : Malformation)
  deriving DecidableEq, Inhabited

-----------------------------------------------------------------------------------------
-- Sizes and structure
-----------------------------------------------------------------------------------------

/-- The size of a telemetry body without touch reports. -/
def telemetryFixedSize : Nat := 48

/-- The size of one touch report. -/
def touchSize : Nat := 6

/-- Where a telemetry body holds the number of front touches. -/
def frontCountOffset : Nat := 10

namespace PacketKind

def leastSize : PacketKind → Nat
  | handshake => 7
  | config => 4
  | telemetry => telemetryFixedSize

def mostSize : PacketKind → Nat
  | telemetry => telemetryFixedSize + 2 * touchLimit * touchSize
  | kind => kind.leastSize

/-- The size check, which needs no byte of the body: a size outside the range of its kind is
reported with the nearest bound.
-/
def checkSize (kind : PacketKind) (actual : Nat) : Option Malformation :=
  if actual < kind.leastSize then some (.bodyLength kind kind.leastSize actual)
  else if kind.mostSize < actual then some (.bodyLength kind kind.mostSize actual)
  else none

end PacketKind

/-- The byte at an offset of a body. -/
def byteAt (body : Bytes) (offset : Nat) : Except Fault UInt8 :=
  match body[offset]? with
  | some byte => .ok byte
  | none => .error .pastEnd

/-- The touch count at an offset. The front count may put the offset of the back count past
the end of the body, which is then too short.
-/
def touchCount (body : Bytes) (offset : Nat) : Except Fault Nat :=
  match body[offset]? with
  | none => .error (.malformed (.bodyLength .telemetry (offset + 1) body.length))
  | some count =>
      if touchLimit < count.toNat then .error (.malformed (.touchCount count))
      else .ok count.toNat

/-- Checks everything about a complete body that can be wrong. -/
def verify (kind : PacketKind) (body : Bytes) : Except Fault Unit :=
  match kind with
  | .handshake => do
      let side ← byteAt body 0
      if (Side.ofByte? side).isNone then throw (.malformed (.side side))
  | .config => pure ()
  | .telemetry => do
      let low ← byteAt body 0
      let high ← byteAt body 1
      let bits := UInt16.ofNat (Bytes.toNat [low, high])
      if ¬Buttons.Defined bits then throw (.malformed (.buttons bits))
      let front ← touchCount body frontCountOffset
      let back ← touchCount body (frontCountOffset + 1 + front * touchSize)
      let expected := telemetryFixedSize + (front + back) * touchSize
      if body.length ≠ expected then
        throw (.malformed (.bodyLength kind expected body.length))

-----------------------------------------------------------------------------------------
-- Reading field by field
-----------------------------------------------------------------------------------------

/-- Reads from the front of the bytes that are left. -/
abbrev Reader := StateT Bytes (Except Fault)

namespace Reader

/-- The next `width` bytes as a number. -/
def number (width : Nat) : Reader Nat := fun unread =>
  if unread.length < width then .error .pastEnd
  else .ok (Bytes.toNat (unread.take width), unread.drop width)

def byte : Reader UInt8 := UInt8.ofNat <$> number 1

def word16 : Reader UInt16 := UInt16.ofNat <$> number 2

def word32 : Reader UInt32 := UInt32.ofNat <$> number 4

def word64 : Reader UInt64 := UInt64.ofNat <$> number 8

def signed16 : Reader Int16 := UInt16.toInt16 <$> word16

def signed32 : Reader Int32 := UInt32.toInt32 <$> word32

def axes : Reader Axes := return ⟨← word32, ← word32, ← word32⟩

def touch : Reader TouchReport := return ⟨← byte, ← byte, ← signed16, ← signed16⟩

/-- The next `count` touch reports. -/
def touchList : (count : Nat) → Reader (List TouchReport)
  | 0 => pure []
  | count + 1 => return (← touch) :: (← touchList count)

def touches : Reader (List TouchReport) := do touchList (← byte).toNat

def side : Reader Side := do
  let byte ← byte
  match Side.ofByte? byte with
  | some side => pure side
  | none => throw (.malformed (.side byte))

def buttons : Reader Buttons := do
  let bits ← word16
  match Buttons.ofBits? bits with
  | some buttons => pure buttons
  | none => throw (.malformed (.buttons bits))

/-- The packet of a kind, field by field in wire order. -/
def packet : PacketKind → Reader Packet
  | .handshake => return .handshake ⟨← side, ← word16, ← word32⟩
  | .config => return .config (← word32)
  | .telemetry => do
      let buttons ← buttons
      let lx ← signed16
      let ly ← signed16
      let rx ← signed16
      let ry ← signed16
      let frontTouches ← touches
      let backTouches ← touches
      let gyro ← axes
      let accel ← axes
      let timestamp ← word64
      let battery ← signed32
      return .telemetry ⟨
        { buttons, lx, ly, rx, ry, frontTouches, backTouches, gyro, accel, timestamp },
        battery⟩

end Reader

/-- The packet in a body, with the bytes of the body that no field took. -/
def readBody (kind : PacketKind) (body : Bytes) : Except Fault (Packet × Bytes) := do
  verify kind body
  Reader.packet kind body

end Wire

end Handheld
