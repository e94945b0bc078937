import Handheld.Loopback.Stream
import Handheld.Server.Round

/-! A simulated host with a server and its clients, all on loopback addresses. Readiness is
reported in the order in which things happened, and time is given from outside.
-/

namespace Handheld

namespace Loopback

/-- A client with a control connection and a data socket. -/
structure Client where
  number : Nat
  ip : IpAddress
  dataPort : UInt16
  /-- The control connection, unless it was refused or reset. -/
  stream : Option Stream := none
  /-- The session that the server has given to the connection. -/
  session : Option SessionId := none
  /-- Datagrams that have not been looked at: the port they came from and their bytes. -/
  datagrams : List (UInt16 × Bytes) := []
  deriving Inhabited

/-- What has become ready since the last round. -/
inductive Source
  | listener
  | client (number : Nat)
  deriving DecidableEq

/-- The simulated host. -/
structure Network where
  server : Server
  /-- Whether connections to loopback addresses can be made at all. -/
  reachable : Bool
  /-- The port that every attempt to bind asks for, or none when each gets a new one. -/
  fixedPort : Option UInt16
  /-- Every control port that has been bound, in order. -/
  controlPorts : List UInt16
  /-- Whether another program holds the control port. -/
  blocked : Bool := false
  clients : List Client := []
  /-- The clients whose connections wait to be accepted. -/
  backlog : List Nat := []
  ready : List Source := []
  frames : List Frame
  samples : Nat := 0
  /-- Teardowns that have not been looked at: the client, the level and the reason. -/
  disconnects : List (Option Nat × Log.Level × TeardownReason) := []

namespace Network

/-- The first control port of a simulated host. -/
def firstControlPort : UInt16 := 61901

/-- The data port of a client. -/
def dataPortOf (number : Nat) : UInt16 := 62101 + UInt16.ofNat number

/-- A host whose server has just been started. -/
def start (settings : Settings.Network) (anyPort reachable : Bool) (battery : Int32)
    (frames : List Frame)
    : Network :=
  {
    server := .start settings firstControlPort (.initial battery false)
    reachable
    fixedPort := if anyPort then none else some firstControlPort
    controlPorts := [firstControlPort]
    frames
  }

def client? (network : Network) (number : Nat) : Option Client :=
  network.clients.find? (·.number == number)

/-- Adds a client or puts it in the place of the one with its number. -/
def setClient (network : Network) (client : Client) : Network :=
  if (network.client? client.number).isSome then
    { network with
      clients := network.clients.map fun old =>
        if old.number == client.number then client else old }
  else { network with clients := network.clients ++ [client] }

def updateClient (network : Network) (number : Nat) (change : Client → Client) : Network :=
  match network.client? number with
  | none => network
  | some client => network.setClient (change client)

def updateStream (network : Network) (number : Nat) (change : Stream → Stream) : Network :=
  network.updateClient number fun client =>
    { client with stream := client.stream.map change }

def clientOf? (network : Network) (id : SessionId) : Option Client :=
  network.clients.find? fun client => client.session == some id

/-- Notes that something is ready, once for each source. -/
def signal (network : Network) (source : Source) : Network :=
  if source ∈ network.ready then network
  else { network with ready := network.ready ++ [source] }

-----------------------------------------------------------------------------------------
-- What clients do
-----------------------------------------------------------------------------------------

/-- A client connects from an address; false when it is refused. -/
def connect (network : Network) (number : Nat) (ip : IpAddress) : Bool × Network :=
  let known := network.client? number
  let fresh : Client := { number, ip, dataPort := dataPortOf number }
  let client := (known.map fun old => { old with ip }).getD fresh
  if network.reachable ∧ network.server.bound.isSome then
    let network := network.setClient { client with stream := some {}, session := none }
    (true, { network with backlog := network.backlog ++ [number] }.signal .listener)
  else (false, network.setClient { client with stream := none, session := none })

/-- Tells the server of something on a client's stream, once the server has accepted it. -/
def signalClient (network : Network) (number : Nat) : Network :=
  if number ∈ network.backlog then network else network.signal (.client number)

def send (network : Network) (number : Nat) (bytes : Bytes) : Network :=
  (network.updateStream number fun stream => (stream.send bytes).2).signalClient number

def finish (network : Network) (number : Nat) : Network :=
  (network.updateStream number Stream.finish).signalClient number

def reset (network : Network) (number : Nat) : Network :=
  (network.updateStream number Stream.resetByPeer).signalClient number

/-- What a client reads from its stream, and whether the stream has ended; none when it has no
stream.
-/
def read (network : Network) (number : Nat) : Option (Bytes × Bool) × Network :=
  match (network.client? number).bind (·.stream) with
  | none => (none, network)
  | some stream =>
      if stream.reset ≠ .intact then (none, network)
      else
        let (bytes, stream) := stream.read
        (some (bytes, stream.closed), network.updateStream number fun _ => stream)

/-- The datagrams that a client has got since it last looked. -/
def takeDatagrams (network : Network) (number : Nat) : List (UInt16 × Bytes) × Network :=
  let arrived := ((network.client? number).map (·.datagrams)).getD []
  (arrived, network.updateClient number fun client => { client with datagrams := [] })

-----------------------------------------------------------------------------------------
-- Rounds of the server
-----------------------------------------------------------------------------------------

/-- The event of a session's stream, as its socket stands. -/
def streamEvent (id : SessionId) (interest : Interest) (stream : Stream)
    : Server.StreamEvent :=
  let wasReset := decide (stream.reset ≠ .intact)
  {
    token := Registry.tokenFor id
    readable := !stream.inbound.isEmpty || stream.finished || wasReset
    writable := interest == .readableWritable
    error := wasReset
    reads := stream.reads
    writes := stream.writes
    pendingError := if wasReset then some .connectionReset else none
  }

/-- The events of everything that is ready, and of the sessions that wait to write. -/
def batch (network : Network) : List Server.Readiness :=
  let waiting :=
    network.server.registry.entries.filter fun entry =>
      entry.interest = .readableWritable
        ∧ ∀ client ∈ network.clientOf? entry.key, .client client.number ∉ network.ready
  let eventOf (id : SessionId) : Option Server.Readiness := do
    let client ← network.clientOf? id
    let stream ← client.stream
    let entry ← network.server.registry.find? id
    return .stream (streamEvent id entry.interest stream)
  let reported :=
    network.ready.filterMap fun
      | .listener =>
          some (.listener (network.backlog.filterMap fun number =>
            (network.client? number).map fun client =>
              .connection (.ofIp client.ip (dataPortOf client.number)) true))
      | .client number => (network.client? number).bind fun client =>
          client.session.bind eventOf
  reported ++ waiting.filterMap fun entry => eventOf entry.key

/-- The first waiting connection is taken by the server. -/
def takeBacklog (network : Network) (change : Client → Client) : Network :=
  match network.backlog with
  | [] => network
  | number :: rest => { network with backlog := rest }.updateClient number change

def closeStream (client : Client) : Client :=
  { client with stream := client.stream.map Stream.close, session := none }

/-- What an effect of the server does to its surroundings. -/
def apply (network : Network) : Server.Effect → Network
  | .admitted id _ =>
      match network.backlog with
      | [] => network
      | number :: _ =>
          (network.takeBacklog fun client => { client with session := some id }).signal
            (.client number)
  | .rejected _ => network.takeBacklog closeStream
  | .ignored _ => network.takeBacklog closeStream
  | .unregistered _ => network.takeBacklog closeStream
  | .wrote id bytes =>
      match network.clientOf? id with
      | none => network
      | some client =>
          network.updateStream client.number fun stream => stream.afterWrite bytes false
  | .disconnected session level reason =>
      let client := network.clientOf? session.id
      let noted :=
        { network with
          disconnects := network.disconnects ++ [(client.map (·.number), level, reason)] }
      match client with
      | none => noted
      | some client => noted.updateClient client.number closeStream
  | .raised _ => network
  | .closed =>
      { network.backlog.foldl (fun network number => network.updateClient number closeStream)
          network with
        backlog := [] }
  | .bound port =>
      if port ∈ network.controlPorts then network
      else { network with controlPorts := network.controlPorts ++ [port] }
  | .bindFailed => network
  | .sampled => { network with samples := network.samples + 1 }
  | .sent _ destination bytes _ =>
      let source := network.server.bound.getD 0
      { network with
        clients := network.clients.map fun client =>
          if client.ip = destination.ip ∧ client.dataPort = destination.port then
            { client with datagrams := client.datagrams ++ [(source, bytes)] }
          else client }

/-- The port that an attempt to bind gets. -/
def portOffered (network : Network) : Option UInt16 :=
  if network.blocked then none
  else
    match network.fixedPort with
    | some port => some port
    | none => some (firstControlPort + UInt16.ofNat network.controlPorts.length)

/-- The frame that the input gives next: the given frames in turn, with the number of the
sample for a timestamp.
-/
def nextFrame (network : Network) : Frame :=
  let frames := if network.frames.isEmpty then [{}] else network.frames
  let frame := (frames[network.samples % frames.length]?).getD {}
  { frame with timestamp := UInt64.ofNat (network.samples + 1) }

/-- Takes over a server after some work, with what the work did to the surroundings. -/
def adopt (network : Network) (step : Server.Step) : Network :=
  step.effects.foldl apply { network with server := step.server }

/-- One round of the server. -/
def round (network : Network) (now : Moment) : Network :=
  let occasion : Server.Occasion :=
    {
      now
      batch := network.batch
      port := network.portOffered
      frame := network.nextFrame
    }
  { network with ready := [] }.adopt (network.server.iterate occasion)

/-- Rounds at one moment until nothing more is ready; `fuel` bounds their number. -/
def settleWithin (now : Moment) : (fuel : Nat) → Network → Network
  | 0, network => network
  | fuel + 1, network =>
      let network := network.round now
      if network.batch.isEmpty then network else settleWithin now fuel network

/-- Rounds at one moment until nothing more is ready. Each client needs at most three: one to
be accepted, one to be read and one to be confirmed.
-/
def settle (network : Network) (now : Moment) : Network :=
  settleWithin now (3 * network.clients.length + 3) network

/-- Queues a link report for the server. -/
def reportLink (network : Network) (state : LinkState) : Network :=
  { network with server.link := network.server.link.notify state }

/-- Stops the server. -/
def stop (network : Network) : Network := network.adopt network.server.shutdown

end Network

end Loopback

end Handheld
