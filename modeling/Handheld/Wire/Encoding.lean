import Handheld.Wire.Packet

/-! The bytes of a packet: a length that counts the tag and the body, the tag, the body.
Every number is little-endian.
-/

namespace Handheld

namespace Wire

/-- One touch report takes six bytes. -/
def encodeTouch (report : TouchReport) : Bytes :=
  [report.force, report.id]
    ++ Bytes.ofNat 2 report.x.toUInt16.toNat
    ++ Bytes.ofNat 2 report.y.toUInt16.toNat

/-- A count byte and the reports; those above the limit are left out. -/
def encodeTouches (reports : List TouchReport) : Bytes :=
  let sent := reports.take touchLimit
  UInt8.ofNat sent.length :: sent.flatMap encodeTouch

def encodeAxes (axes : Axes) : Bytes :=
  Bytes.ofNat 4 axes.x.toNat ++ Bytes.ofNat 4 axes.y.toNat ++ Bytes.ofNat 4 axes.z.toNat

namespace Packet

/-- The body: everything after the tag. -/
def body : Packet → Bytes
  | handshake opening =>
      [opening.side.toByte]
        ++ Bytes.ofNat 2 opening.port.toNat
        ++ Bytes.ofNat 4 opening.heartbeatSeconds.toNat
  | config pollingMicros => Bytes.ofNat 4 pollingMicros.toNat
  | telemetry ⟨frame, battery⟩ =>
      Bytes.ofNat 2 frame.buttons.bits.toNat
        ++ Bytes.ofNat 2 frame.lx.toUInt16.toNat
        ++ Bytes.ofNat 2 frame.ly.toUInt16.toNat
        ++ Bytes.ofNat 2 frame.rx.toUInt16.toNat
        ++ Bytes.ofNat 2 frame.ry.toUInt16.toNat
        ++ encodeTouches frame.frontTouches
        ++ encodeTouches frame.backTouches
        ++ encodeAxes frame.gyro
        ++ encodeAxes frame.accel
        ++ Bytes.ofNat 8 frame.timestamp.toNat
        ++ Bytes.ofNat 4 battery.toUInt32.toNat

/-- The whole frame of a packet. -/
def encode (packet : Packet) : Bytes :=
  Bytes.ofNat 4 (packet.body.length + 1) ++ packet.kind.tag :: packet.body

/-- The packet as its reader gets it: at most the limit of touch reports for each surface. -/
def trimmed : Packet → Packet
  | telemetry ⟨frame, battery⟩ =>
      telemetry ⟨
        { frame with
          frontTouches := frame.frontTouches.take touchLimit
          backTouches := frame.backTouches.take touchLimit },
        battery⟩
  | packet => packet

end Packet

end Wire

end Handheld
