import Handheld.Address.Ip
import Handheld.Address.Rendering

/-! Addresses that a peer can have: a specified canonical IP and a port other than 0. -/

namespace Handheld

/-- Where a peer can be reached. -/
structure Peer where
  ip : IpAddress
  port : UInt16
  canonical : ip.canonical = ip
  specified : ip.isUnspecified = false
  port_ne_zero : port ≠ 0
  deriving DecidableEq

namespace Peer

/-- The peer at an address, after an IPv4-mapped IP has become IPv4. -/
def new? (ip : IpAddress) (port : UInt16) : Option Peer :=
  if h : ip.canonical.isUnspecified = false ∧ port ≠ 0 then
    some ⟨ip.canonical, port, ip.canonical_canonical, h.1, h.2⟩
  else none

def ofSocketAddress? (address : SocketAddress) : Option Peer :=
  new? address.ip address.port

/-- The same IP at another port. -/
def withPort? (peer : Peer) (port : UInt16) : Option Peer := new? peer.ip port

def socketAddress (peer : Peer) : SocketAddress := .ofIp peer.ip peer.port

def render (peer : Peer) : String := peer.socketAddress.render

end Peer

end Handheld
