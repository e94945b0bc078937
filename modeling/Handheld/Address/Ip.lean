/-! IP addresses of both versions. -/

namespace Handheld

/-- An IPv4 address, by its four octets. -/
structure Ipv4 where
  a : UInt8
  b : UInt8
  c : UInt8
  d : UInt8
  deriving DecidableEq, Inhabited

/-- An IPv6 address, by its eight 16-bit groups. -/
structure Ipv6 where
  groups : Vector UInt16 8
  deriving DecidableEq

/-- An IP address of either version. -/
inductive IpAddress
  | v4 (address : Ipv4)
  | v6 (address : Ipv6)
  deriving DecidableEq

namespace Ipv4

def octets (address : Ipv4) : List UInt8 := [address.a, address.b, address.c, address.d]

/-- The address that stands for every interface. -/
def unspecified : Ipv4 := ⟨0, 0, 0, 0⟩

end Ipv4

namespace Ipv6

/-- The address that stands for every interface. -/
def unspecified : Ipv6 := ⟨Vector.replicate 8 0⟩

/-- The IPv4 address inside an IPv4-mapped one, `::ffff:a.b.c.d`. -/
def mapped? (address : Ipv6) : Option Ipv4 :=
  match address.groups.toList with
  | [0, 0, 0, 0, 0, 0xffff, high, low] =>
      some ⟨(high >>> 8).toUInt8, high.toUInt8, (low >>> 8).toUInt8, low.toUInt8⟩
  | _ => none

end Ipv6

namespace IpAddress

instance : Inhabited IpAddress := ⟨v4 Ipv4.unspecified⟩

/-- An IPv4-mapped address becomes the IPv4 address; any other stays. -/
def canonical : IpAddress → IpAddress
  | v4 address => v4 address
  | v6 address => (address.mapped?.map v4).getD (v6 address)

def isUnspecified : IpAddress → Bool
  | v4 address => address == Ipv4.unspecified
  | v6 address => address == Ipv6.unspecified

theorem canonical_canonical (ip : IpAddress) : ip.canonical.canonical = ip.canonical := by
  cases ip with
  | v4 _ => rfl
  | v6 address => cases h : address.mapped? <;> simp [canonical, h]

end IpAddress

/-- An IP address with a port; a version 6 one may name a scope. -/
inductive SocketAddress
  | v4 (ip : Ipv4) (port : UInt16)
  | v6 (ip : Ipv6) (port : UInt16) (scope : UInt32)
  deriving DecidableEq

namespace SocketAddress

def ip : SocketAddress → IpAddress
  | v4 ip _ => .v4 ip
  | v6 ip _ _ => .v6 ip

def port : SocketAddress → UInt16
  | v4 _ port => port
  | v6 _ port _ => port

/-- The socket address at an IP address, without a scope. -/
def ofIp (ip : IpAddress) (port : UInt16) : SocketAddress :=
  match ip with
  | .v4 ip => v4 ip port
  | .v6 ip => v6 ip port 0

instance : Inhabited SocketAddress := ⟨v4 Ipv4.unspecified 0⟩

end SocketAddress

end Handheld
