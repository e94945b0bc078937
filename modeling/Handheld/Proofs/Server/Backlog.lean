import Handheld.Proofs.Server.Rounds
import Handheld.Proofs.Status.Reports

/-! Connections that wait at the listener. They are taken in the order in which they came, and
what becomes of one depends on how many that a peer can have came before it. Main statement:
however they are mixed, the first peers get the room that is left, every later one is
rejected, and all other addresses are dropped at no cost.
-/

namespace Handheld

-----------------------------------------------------------------------------------------
-- Room and newcomers
-----------------------------------------------------------------------------------------

namespace Registry

/-- How many more sessions the registry takes. -/
def room (registry : Registry) : Nat := registry.capacity - registry.size

/-- The entries of peers that have just been admitted, with numbers from `next` on. -/
def newcomers (now : Moment) (next : Nat) (peers : List Peer) : List Entry :=
  peers.mapIdx fun place peer =>
    let id : SessionId := ⟨next + place⟩
    ⟨id, .start id peer now, .readable⟩

theorem newcomers_append (now : Moment) (next : Nat) (earlier later : List Peer)
    : newcomers now next (earlier ++ later)
      = newcomers now next earlier ++ newcomers now (next + earlier.length) later := by
  have shift (place : Nat) : next + (place + earlier.length) = next + earlier.length + place := by
    omega
  simp only [newcomers, List.mapIdx_append, shift]

/-- The numbers are consecutive. -/
theorem newcomers_keys (now : Moment) (next : Nat) (peers : List Peer)
    : (newcomers now next peers).map (·.key)
      = (List.range' next peers.length).map SessionId.mk := by
  refine List.ext_getElem (by simp [newcomers]) fun place _ _ => ?_
  simp [newcomers]

theorem newcomers_peers (now : Moment) (next : Nat) (peers : List Peer)
    : (newcomers now next peers).map (·.session.peer) = peers := by
  refine List.ext_getElem (by simp [newcomers]) fun place _ _ => ?_
  simp [newcomers, Session.start]

/-- Newcomers have said nothing yet, and count as heard when they came. -/
theorem newcomers_start {now : Moment} {next : Nat} {peers : List Peer} {entry : Entry}
    (member : entry ∈ newcomers now next peers)
    : entry.session.phase = .waitingForHandshake ∧ entry.session.lastHeartbeat = now := by
  obtain ⟨place, bound, rfl⟩ := List.mem_mapIdx.mp member
  exact ⟨rfl, rfl⟩

end Registry

namespace Server

open Status (Events)

-----------------------------------------------------------------------------------------
-- One connection
-----------------------------------------------------------------------------------------

/-- A server behind connections of peers of which it has admitted some, in order, and rejected
a number. The last one is the client that is shown.
-/
def taking (now : Moment) (admitted : List Peer) (rejected : Nat) (server : Server) : Server :=
  { server with
    registry.next := server.registry.next + admitted.length
    registry.entries :=
      server.registry.entries ++ Registry.newcomers now server.registry.next admitted
    stats.sessionsAdmitted := server.stats.sessionsAdmitted + admitted.length
    stats.sessionsRejected := server.stats.sessionsRejected + rejected
    status.view.clientIp :=
      (admitted.getLast?.map Peer.ip).or server.status.view.clientIp
    status.pending :=
      if admitted = [] then server.status.pending
      else server.status.pending ||| .clientConnected }

/-- Taking some and then more is taking all. -/
theorem taking_taking (now : Moment) (earlier later : List Peer) (few more : Nat)
    (server : Server)
    : (server.taking now earlier few).taking now later more
      = server.taking now (earlier ++ later) (few + more) := by
  have shown
      : (later.getLast?.map Peer.ip).or
          ((earlier.getLast?.map Peer.ip).or server.status.view.clientIp)
        = ((earlier ++ later).getLast?.map Peer.ip).or server.status.view.clientIp := by
    rw [List.getLast?_append]
    cases later.getLast? <;> rfl
  have raised
      : (if later = [] then
            if earlier = [] then server.status.pending
            else server.status.pending ||| .clientConnected
          else
            (if earlier = [] then server.status.pending
              else server.status.pending ||| .clientConnected) ||| .clientConnected)
        = if earlier ++ later = [] then server.status.pending
          else server.status.pending ||| Events.clientConnected := by
    by_cases none : earlier = [] <;> by_cases noMore : later = [] <;>
      simp [none, noMore, UInt32.or_assoc]
  simp only [taking, Registry.newcomers_append, shown, raised, List.length_append,
    List.append_assoc, Nat.add_assoc]

theorem taking_nil (now : Moment) (server : Server) : server.taking now [] 0 = server := by
  simp [taking, Registry.newcomers]

theorem taking_room (now : Moment) (admitted : List Peer) (rejected : Nat) (server : Server)
    : (server.taking now admitted rejected).registry.room
      = server.registry.room - admitted.length := by
  simp [taking, Registry.room, Registry.size, Registry.newcomers, Nat.sub_sub]

/-- What becomes of a connection when there is room for some more sessions and the next number
is given, told by the connections that came before it.
-/
def answer (room next : Nat) (earlier : List SocketAddress) (address : SocketAddress)
    : List Effect :=
  match Peer.ofSocketAddress? address with
  | none => [.ignored address]
  | some peer =>
      let before := (earlier.filterMap Peer.ofSocketAddress?).length
      if before < room then [.admitted ⟨next + before⟩ peer, .raised .clientConnected]
      else [.rejected peer]

theorem answer_of_invalid {first : SocketAddress}
    (invalid : Peer.ofSocketAddress? first = none) (room next : Nat)
    (earlier : List SocketAddress) (address : SocketAddress)
    : answer room next (first :: earlier) address = answer room next earlier address := by
  simp only [answer, List.filterMap_cons_none invalid]

theorem answer_of_room {first : SocketAddress} {peer : Peer}
    (valid : Peer.ofSocketAddress? first = some peer) (room next : Nat)
    (earlier : List SocketAddress) (address : SocketAddress)
    : answer (room + 1) next (first :: earlier) address
      = answer room (next + 1) earlier address := by
  simp only [answer, List.filterMap_cons_some valid, List.length_cons, Nat.add_lt_add_iff_right,
    Nat.add_right_comm next 1, Nat.add_assoc]

theorem answer_of_full {first : SocketAddress} {peer : Peer}
    (valid : Peer.ofSocketAddress? first = some peer) (next : Nat)
    (earlier : List SocketAddress) (address : SocketAddress)
    : answer 0 next (first :: earlier) address = answer 0 next earlier address := by
  simp only [answer, List.filterMap_cons_some valid, Nat.not_lt_zero, if_false]

variable {now : Moment} {server : Server} {address : SocketAddress} {peer : Peer}

theorem welcome_of_invalid (invalid : Peer.ofSocketAddress? address = none)
    : server.welcome now address true = ⟨server, [.ignored address]⟩ := by
  rw [welcome, invalid]

theorem welcome_of_room (valid : Peer.ofSocketAddress? address = some peer)
    (room : server.registry.size < server.registry.capacity)
    : server.welcome now address true
      = ⟨server.taking now [peer] 0,
          [.admitted ⟨server.registry.next⟩ peer, .raised .clientConnected]⟩ := by
  have hasRoom : ¬ server.registry.isFull = true := by simpa [Registry.isFull] using room
  rw [welcome, valid]
  simp only [Registry.accept, if_neg hasRoom]
  rfl

theorem welcome_of_full (valid : Peer.ofSocketAddress? address = some peer)
    (full : server.registry.capacity ≤ server.registry.size)
    : server.welcome now address true = ⟨server.taking now [] 1, [.rejected peer]⟩ := by
  have closed : server.registry.isFull = true := by simpa [Registry.isFull] using full
  rw [welcome, valid]
  simp only [Registry.accept, if_pos closed]
  simp [taking, Registry.newcomers]

-----------------------------------------------------------------------------------------
-- All that wait
-----------------------------------------------------------------------------------------

/-- Connections that can be registered, until no more waits. -/
def backlogOf (addresses : List SocketAddress) : List AcceptOutcome :=
  addresses.map (.connection · true) ++ [.wouldBlock]

theorem acceptAll_cons (bound : server.bound.isSome) (address : SocketAddress)
    (rest : List SocketAddress)
    : server.acceptAll now (backlogOf (address :: rest))
      = (server.welcome now address true).andThen (acceptAll now (backlogOf rest)) := by
  rw [backlogOf, List.map_cons, List.cons_append, acceptAll,
    if_neg (by simp [Option.isSome_iff_ne_none.mp bound]), backlogOf]

/-- All connections are taken, the first peers into the room that there is. By induction on the
connections.
-/
theorem acceptAll_backlogOf (bound : server.bound.isSome) {room : Nat}
    (left : server.registry.room = room) (addresses : List SocketAddress)
    : server.acceptAll now (backlogOf addresses)
      = ⟨server.taking now ((addresses.filterMap Peer.ofSocketAddress?).take room)
            ((addresses.filterMap Peer.ofSocketAddress?).drop room).length,
          (addresses.mapIdx fun place address =>
            answer room server.registry.next (addresses.take place) address).flatten⟩ := by
  induction addresses generalizing server room with
  | nil =>
      rw [List.filterMap_nil, List.take_nil, List.drop_nil, List.length_nil, taking_nil]
      rw [backlogOf, List.map_nil, List.nil_append, acceptAll, ite_self]
      rfl
  | cons address rest ih =>
      -- The rest starts from the server behind the first connection, with the room it left.
      rw [acceptAll_cons bound, List.mapIdx_cons, List.flatten_cons, List.take_zero]
      simp only [List.take_succ_cons]
      cases valid : Peer.ofSocketAddress? address with
      | none =>
          have here : answer room server.registry.next [] address = [.ignored address] := by
            rw [answer, valid]
          rw [welcome_of_invalid valid, Step.andThen, ih bound left, here,
            List.filterMap_cons_none valid]
          simp only [answer_of_invalid valid]
      | some peer =>
          rw [List.filterMap_cons_some valid]
          cases room with
          | zero =>
              have here : answer 0 server.registry.next [] address = [.rejected peer] := by
                rw [answer, valid]
                rfl
              have listens : (server.taking now [] 1).bound.isSome := bound
              have still : (server.taking now [] 1).registry.room = 0 := by
                rw [taking_room, left]
                rfl
              rw [welcome_of_full valid (Nat.le_of_sub_eq_zero left), Step.andThen,
                ih listens still, taking_taking, here]
              simp only [answer_of_full valid]
              rw [Nat.add_comm 1]
              rfl
          | succ more =>
              have here
                  : answer (more + 1) server.registry.next [] address
                    = [.admitted ⟨server.registry.next⟩ peer, .raised .clientConnected] := by
                rw [answer, valid]
                rfl
              have listens : (server.taking now [peer] 0).bound.isSome := bound
              have less : (server.taking now [peer] 0).registry.room = more := by
                rw [taking_room, left]
                rfl
              have positive : 0 < server.registry.room := left ▸ Nat.succ_pos more
              rw [welcome_of_room valid (Nat.lt_of_sub_pos positive), Step.andThen,
                ih listens less, taking_taking, here]
              simp only [answer_of_room valid]
              rw [Nat.zero_add]
              rfl

/-- Who is there already is found as before. -/
theorem taking_find? (admitted : List Peer) (rejected : Nat) {id : SessionId}
    (live : id ∈ server.registry.ids)
    : (server.taking now admitted rejected).registry.find? id = server.registry.find? id := by
  obtain ⟨entry, found⟩ := Option.isSome_iff_exists.mp (Registry.mem_ids_iff.mp live)
  rw [found]
  rw [Registry.find?] at found ⊢
  simp only [taking, List.find?_append, found, Option.some_or]

/-- Only an admission raises an event. -/
theorem taking_pending (admitted : List Peer) (rejected : Nat) (bit : Nat)
    : (server.taking now admitted rejected).status.pending.Has bit
      ↔ server.status.pending.Has bit ∨ (admitted ≠ [] ∧ Events.clientConnected.Has bit) := by
  rw [taking]
  dsimp only
  split
  next none => simp [none]
  next some => simp [some, Events.has_or]

/-- In every server that a run can reach with bound sockets, a backlog of connections is taken
to its end. What becomes of each is told by its address and by those before it: as long as
there is room a peer is admitted with the next number, behind that it is rejected, and an
address that no peer can have is ignored, whatever is around it. So the first peers are
admitted in order, each raising its event, with consecutive numbers, waiting for their
handshake and heard just now; the counts grow by those admitted and rejected, the last one
admitted is shown, the event of a client that came is pending just if it was or there is one,
and all else stays, also every session that was there.
-/
theorem backlog_taken {server : Server} (reachable : server.Reachable)
    (bound : server.bound.isSome) (now : Moment) (addresses : List SocketAddress)
    : let step := server.acceptAll now (backlogOf addresses)
      let peers := addresses.filterMap Peer.ofSocketAddress?
      let room := server.settings.maxSessions.toNat - server.registry.size
      let admitted := peers.take room
      let rejected := peers.drop room
      let newcomers := Registry.newcomers now server.registry.next admitted
      step.effects
        = (addresses.mapIdx fun place address =>
            answer room server.registry.next (addresses.take place) address).flatten
      ∧ step.server = server.taking now admitted rejected.length
      ∧ step.server.registry.entries = server.registry.entries ++ newcomers
      ∧ newcomers.map (·.key)
        = (List.range' server.registry.next admitted.length).map SessionId.mk
      ∧ newcomers.map (·.session.peer) = admitted
      ∧ (∀ entry ∈ newcomers,
        entry.session.phase = .waitingForHandshake ∧ entry.session.lastHeartbeat = now)
      ∧ (∀ id ∈ server.registry.ids,
        step.server.registry.find? id = server.registry.find? id)
      ∧ ∀ bit,
          step.server.status.pending.Has bit
          ↔ server.status.pending.Has bit
            ∨ (admitted ≠ [] ∧ Events.clientConnected.Has bit) := by
  intro step peers room admitted rejected newcomers
  have left : server.registry.room = room := by
    rw [Registry.room, reachable.conserved.capacity_eq]
  have taken
      : step
        = ⟨server.taking now admitted rejected.length,
            (addresses.mapIdx fun place address =>
              answer room server.registry.next (addresses.take place) address).flatten⟩ :=
    acceptAll_backlogOf bound left addresses
  rw [taken]
  refine ⟨rfl, rfl, rfl, ?_, ?_, ?_, ?_, ?_⟩
  · exact Registry.newcomers_keys now server.registry.next admitted
  · exact Registry.newcomers_peers now server.registry.next admitted
  · exact fun entry member => Registry.newcomers_start member
  · exact fun id live => taking_find? admitted rejected.length live
  · exact taking_pending admitted rejected.length

/-- There is room for two sessions, and one lives. Of six connections three are from no address
that a peer can have, and of the others the first is admitted.
-/
theorem backlog_taken_mixed
    : let connects (place : UInt8) (port : UInt16) : SocketAddress :=
        .v4 ⟨192, 168, 1, place⟩ port
      let nowhere : SocketAddress := .v4 ⟨0, 0, 0, 0⟩ 41000
      let server :=
        ((start { maxSessions := 2 } 5000 {}).iterate
          { now := 1, batch := [.listener (backlogOf [connects 20 41000])] }).server
      let addresses :=
        [nowhere, connects 21 41000, connects 22 0, connects 23 41000, nowhere,
          connects 24 41000]
      let step := server.acceptAll 7 (backlogOf addresses)
      step.effects.length = 7
      ∧ step.effects.filterMap Effect.admitted? = [⟨2⟩]
      ∧ step.server.stats = { sessionsAdmitted := 2, sessionsRejected := 2 }
      ∧ step.server.status.view.clientIp = some (.v4 ⟨192, 168, 1, 21⟩)
      ∧ step.server.registry.ids = [⟨1⟩, ⟨2⟩]
      ∧ step.server.registry.find? ⟨1⟩ = server.registry.find? ⟨1⟩
      ∧ step.server.status.pending.Has 1 := by
  intro connects nowhere server addresses step
  have reachable : server.Reachable := .round (.start _ _ _) _
  have bound : server.bound.isSome := by decide +kernel
  obtain ⟨effects, taken, entries, keys, peers, each, others, raised⟩ :=
    backlog_taken reachable bound 7 addresses
  refine ⟨?_, ?_, ?_, ?_, ?_, ?_, ?_⟩
  · rw [effects]
    decide +kernel
  · rw [effects]
    decide +kernel
  · rw [taken]
    decide +kernel
  · rw [taken]
    decide +kernel
  · rw [Registry.ids, entries]
    decide +kernel
  · dsimp only [step]
    exact others ⟨1⟩ (by decide +kernel)
  · dsimp only [step]
    exact (raised 1).mpr (.inr (by decide +kernel))

end Server

end Handheld
