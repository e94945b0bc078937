import Handheld.Address.Ip

/-! The text of addresses. An IPv6 address shows its longest run of two or more zero groups,
the first of equally long ones, as `::`, and an IPv4-mapped one ends in dotted form.
-/

namespace Handheld

namespace Ipv4

def render (address : Ipv4) : String :=
  ".".intercalate (address.octets.map fun octet => toString octet.toNat)

end Ipv4

namespace Ipv6

def renderGroups (groups : List UInt16) : String :=
  ":".intercalate (groups.map fun group => String.ofList (Nat.toDigits 16 group.toNat))

/-- How many zero groups stand at the front. -/
def zeroRun (groups : List UInt16) : Nat := (groups.takeWhile (· == 0)).length

/-- The length of the longest run of zero groups. -/
def longestZeroRun : List UInt16 → Nat
  | [] => 0
  | group :: rest => max (zeroRun (group :: rest)) (longestZeroRun rest)

/-- Where the first run of `length` zero groups starts, and what stands around it. -/
def splitAtRun (length : Nat) : List UInt16 → List UInt16 × List UInt16
  | [] => ([], [])
  | group :: rest =>
      if zeroRun (group :: rest) = length then ([], (group :: rest).drop length)
      else
        let (before, after) := splitAtRun length rest
        (group :: before, after)

def render (address : Ipv6) : String :=
  match address.mapped? with
  | some inner => "::ffff:" ++ inner.render
  | none =>
      let groups := address.groups.toList
      let longest := longestZeroRun groups
      if longest < 2 then renderGroups groups
      else
        let (before, after) := splitAtRun longest groups
        renderGroups before ++ "::" ++ renderGroups after

end Ipv6

namespace IpAddress

def render : IpAddress → String
  | v4 address => address.render
  | v6 address => address.render

end IpAddress

namespace SocketAddress

def render : SocketAddress → String
  | v4 ip port => ip.render ++ ":" ++ toString port.toNat
  | v6 ip port scope =>
      let shownScope := if scope = 0 then "" else "%" ++ toString scope.toNat
      "[" ++ ip.render ++ shownScope ++ "]:" ++ toString port.toNat

end SocketAddress

end Handheld
