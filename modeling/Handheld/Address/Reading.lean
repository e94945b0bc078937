import Handheld.Address.Ip
import Handheld.Text.Numeral

/-! Reading addresses from text. Each reader takes what it can from the front of a text and
gives what follows; a whole text is an address when nothing follows.
-/

namespace Handheld

namespace Address

/-- A reader of the front of a text. -/
abbrev Reader (α : Type) := List Char → Option (α × List Char)

/-- A number of at least one and at most `digits` digits that is at most `most`. -/
def number (base digits most : Nat) (zerosAllowed : Bool) : Reader Nat := fun text =>
  let (run, rest) := Numeral.run base text
  if run.isEmpty ∨ digits < run.length then none
  else if ¬zerosAllowed ∧ run.head? = some '0' ∧ 1 < run.length then none
  else
    let value := Numeral.value base run
    if most < value then none else some (value, rest)

/-- A number of any length that is at most `most`. -/
def longNumber (most : Nat) : Reader Nat := fun text =>
  number 10 text.length most true text

/-- Exactly one character. -/
def char (expected : Char) : Reader Unit
  | [] => none
  | c :: rest => if c = expected then some ((), rest) else none

/-- What `inner` reads behind a separator; the first of a list has none before it. -/
def separated {α : Type} (separator : Char) (index : Nat) (inner : Reader α) : Reader α :=
  fun text =>
    if index = 0 then inner text
    else do
      let (_, rest) ← char separator text
      inner rest

def octet (index : Nat) : Reader UInt8 := fun text => do
  let (value, rest) ← separated '.' index (number 10 3 255 false) text
  return (UInt8.ofNat value, rest)

/-- Four octets of one to three digits, without leading zeros. -/
def ipv4 : Reader Ipv4 := fun text => do
  let (a, rest) ← octet 0 text
  let (b, rest) ← octet 1 rest
  let (c, rest) ← octet 2 rest
  let (d, rest) ← octet 3 rest
  return (⟨a, b, c, d⟩, rest)

/-- The two groups that an embedded IPv4 address stands for. -/
def groupsOfIpv4 (address : Ipv4) : List UInt16 :=
  [address.a.toUInt16 <<< 8 ||| address.b.toUInt16,
    address.c.toUInt16 <<< 8 ||| address.d.toUInt16]

/-- Up to `left` groups, the first of which has number `index`. An IPv4 address may stand
for the last two; the flag tells that one did.
-/
def groups : (left index : Nat) → List Char → List UInt16 × Bool × List Char
  | 0, _, text => ([], false, text)
  | left + 1, index, text =>
      let embedded? := if left = 0 then none else separated ':' index ipv4 text
      match embedded? with
      | some (address, rest) => (groupsOfIpv4 address, true, rest)
      | none =>
          match separated ':' index (number 16 4 0xffff true) text with
          | none => ([], false, text)
          | some (group, rest) =>
              let (more, embedded, rest) := groups left (index + 1) rest
              (UInt16.ofNat group :: more, embedded, rest)

/-- The address of exactly eight groups. -/
def ipv6OfGroups? (groups : List UInt16) : Option Ipv6 :=
  if h : groups.length = 8 then some ⟨⟨groups.toArray, by simp [h]⟩⟩ else none

/-- Eight groups, or fewer with one `::` for at least one zero group. -/
def ipv6 : Reader Ipv6 := fun text => do
  let (head, embedded, rest) := groups 8 0 text
  if head.length = 8 then
    return (← ipv6OfGroups? head, rest)
  if embedded then
    none
  let (_, rest) ← char ':' rest
  let (_, rest) ← char ':' rest
  let (tail, _, rest) := groups (7 - head.length) 0 rest
  let zeros := List.replicate (8 - head.length - tail.length) 0
  return (← ipv6OfGroups? (head ++ zeros ++ tail), rest)

def port : Reader UInt16 := fun text => do
  let (_, rest) ← char ':' text
  let (value, rest) ← longNumber 65535 rest
  return (UInt16.ofNat value, rest)

/-- A scope behind `%`; without one it is 0. -/
def scope (text : List Char) : UInt32 × List Char :=
  let read := do
    let (_, rest) ← char '%' text
    longNumber 4294967295 rest
  match read with
  | some (value, rest) => (UInt32.ofNat value, rest)
  | none => (0, text)

def socketV4 : Reader SocketAddress := fun text => do
  let (ip, rest) ← ipv4 text
  let (port, rest) ← port rest
  return (.v4 ip port, rest)

def socketV6 : Reader SocketAddress := fun text => do
  let (_, rest) ← char '[' text
  let (ip, rest) ← ipv6 rest
  let (scope, rest) := scope rest
  let (_, rest) ← char ']' rest
  let (port, rest) ← port rest
  return (.v6 ip port scope, rest)

/-- The value of a reader that takes the whole text. -/
def whole? {α : Type} (reader : Reader α) (text : String) : Option α :=
  match reader text.toList with
  | some (value, []) => some value
  | _ => none

end Address

/-- Reads a whole text as an IP address of either version. -/
def IpAddress.ofText? (text : String) : Option IpAddress :=
  (Address.whole? (fun text =>
    ((Address.ipv4 text).map fun (ip, rest) => (.v4 ip, rest))
      <|> ((Address.ipv6 text).map fun (ip, rest) => (.v6 ip, rest))) text)

/-- Reads a whole text as an address with a port, an IPv6 one in brackets. -/
def SocketAddress.ofText? (text : String) : Option SocketAddress :=
  Address.whole? (fun text => Address.socketV4 text <|> Address.socketV6 text) text

end Handheld
