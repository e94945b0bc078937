import Handheld.Session.Basic

/-! The live sessions, in the order of their admission. Numbers are never given twice, so
that the token of a session that has gone resolves to no other.
-/

namespace Handheld

/-- The readiness for which a session is woken. -/
inductive Interest
  | readable
  | readableWritable
  deriving DecidableEq, Inhabited

/-- A live session with its registration. -/
structure Registry.Entry where
  key : SessionId
  session : Session
  interest : Interest
  deriving DecidableEq

/-- The live sessions of a server. -/
structure Registry where
  capacity : Nat
  /-- The number that the next session gets, for a word of 64 bits: the two agree until
  2 ^ 64 - 1 sessions have been admitted.
  -/
  next : Nat
  entries : List Registry.Entry
  deriving DecidableEq

namespace Registry

/-- What becomes of a new connection. -/
inductive Admission
  | admitted (id : SessionId)
  | rejected
  deriving DecidableEq, Inhabited

def empty (capacity : Nat) : Registry := ⟨capacity, 1, []⟩

def size (registry : Registry) : Nat := registry.entries.length

def isEmpty (registry : Registry) : Bool := registry.entries.isEmpty

def isFull (registry : Registry) : Bool := registry.capacity ≤ registry.size

def ids (registry : Registry) : List SessionId := registry.entries.map (·.key)

def sessions (registry : Registry) : List Session := registry.entries.map (·.session)

/-- Admits a connection as a new session that is woken when it can be read, or rejects it when
the registry is full.
-/
def accept (registry : Registry) (peer : Peer) (now : Moment) : Admission × Registry :=
  if registry.isFull then (.rejected, registry)
  else
    let id : SessionId := ⟨registry.next⟩
    (.admitted id,
      { registry with
        next := registry.next + 1
        entries := registry.entries ++ [⟨id, .start id peer now, .readable⟩] })

def find? (registry : Registry) (id : SessionId) : Option Entry :=
  registry.entries.find? fun entry => entry.key = id

def get? (registry : Registry) (id : SessionId) : Option Session :=
  (registry.find? id).map (·.session)

/-- Puts a changed entry in the place of the one with its key. -/
def put (registry : Registry) (changed : Entry) : Registry :=
  { registry with
    entries := registry.entries.map fun entry =>
      if entry.key = changed.key then changed else entry }

/-- Changes every session for which a condition holds. -/
def update (registry : Registry) (condition : SessionId → Bool)
    (change : Session → Session)
    : Registry :=
  { registry with
    entries := registry.entries.map fun entry =>
      if condition entry.key then { entry with session := change entry.session } else entry }

/-- Takes a session out; an unknown number changes nothing. -/
def remove (registry : Registry) (id : SessionId) : Option Session × Registry :=
  (registry.get? id,
    { registry with entries := registry.entries.filter fun entry => entry.key ≠ id })

/-- Takes every session out. -/
def drain (registry : Registry) : List Session × Registry :=
  (registry.sessions, { registry with entries := [] })

/-- Changes the readiness for which a session is woken. -/
def setInterest (registry : Registry) (id : SessionId) (interest : Interest) : Registry :=
  { registry with
    entries := registry.entries.map fun entry =>
      if entry.key = id then { entry with interest } else entry }

/-- The sessions that have been silent for longer than `timeout`. -/
def expired (registry : Registry) (now : Moment) (timeout : Span) : List SessionId :=
  (registry.entries.filter fun entry => entry.session.isExpired now timeout).map (·.key)

/-- The sessions that are due telemetry. -/
def due (registry : Registry) (now : Moment) : List SessionId :=
  (registry.entries.filter fun entry => entry.session.telemetryDue now).map (·.key)

/-- The least time until some session is due telemetry. -/
def nextTelemetryIn (registry : Registry) (now : Moment) : Option Span :=
  (registry.sessions.filterMap (·.untilTelemetry now)).min?

/-- A readiness token, a 64-bit number. The tokens below the base belong to the listener and
the waker.
-/
abbrev Token := UInt64

def listenerToken : Token := 0

def wakerToken : Token := 1

def tokenBase : Token := 16

def tokenFor (id : SessionId) : Token := tokenBase + UInt64.ofNat id.number

/-- The session number behind a token, if it is the token of a session at all. -/
def idFor? (token : Token) : Option SessionId :=
  if token < tokenBase then none else some ⟨(token - tokenBase).toNat⟩

end Registry

end Handheld
