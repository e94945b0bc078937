import Handheld.Proofs.Server.Pacing

/-! The fan-out of telemetry. A round samples the input once for all sessions that are due, sends
the same bytes to each, and takes each as served whatever becomes of its packet. Main
statement: this is all that telemetry does, and behind it no session is due at the moment of
the round, so that telemetry never makes the loop spin.
-/

namespace Handheld

-----------------------------------------------------------------------------------------
-- Changes of many sessions
-----------------------------------------------------------------------------------------

namespace Registry

variable (registry : Registry) (condition : SessionId → Bool) (change : Session → Session)

@[simp]
theorem ids_update : (registry.update condition change).ids = registry.ids :=
  ids_map (fun entry => by split <;> rfl) registry

theorem find?_update (id : SessionId)
    : (registry.update condition change).find? id
      = (registry.find? id).map fun entry =>
          if condition id then { entry with session := change entry.session } else entry := by
  rw [update, find?_map (fun entry => by split <;> rfl)]
  cases found : registry.find? id with
  | none => rfl
  | some entry => rw [Option.map_some, Option.map_some, (mem_of_find? found).2]

/-- The same change of some sessions and then of others is one change, unless it is felt twice. -/
theorem update_update (once : ∀ session, change (change session) = change session)
    (first second : SessionId → Bool)
    : (registry.update first change).update second change
      = registry.update (fun id => first id || second id) change := by
  simp only [update, List.map_map]
  congr 1
  refine List.map_congr_left fun entry _ => ?_
  by_cases early : first entry.key <;> by_cases late : second entry.key <;>
    simp [early, late, once]

variable {registry}

/-- Putting back a changed entry changes the session with its key. -/
theorem put_eq_update (nodup : registry.ids.Nodup) {entry : Entry}
    (held : entry ∈ registry.entries)
    : registry.put { entry with session := change entry.session }
      = registry.update (fun id => id = entry.key) change := by
  rw [put, update]
  congr 1
  refine List.map_congr_left fun other member => ?_
  by_cases same : other.key = entry.key
  · have only : other = entry := List.inj_on_of_nodup_map nodup member held same
    simp [only]
  · simp [same]

end Registry

namespace Server

-----------------------------------------------------------------------------------------
-- Sending to all
-----------------------------------------------------------------------------------------

/-- Where telemetry for a session goes. -/
def destination? (server : Server) (id : SessionId) : Option Peer :=
  (server.registry.get? id).bind (·.dataChannel)

/-- An effect is the packet with these bytes to a session at its data channel. -/
def Addressed (server : Server) (bytes : Bytes) (send : SessionId → SendOutcome)
    (id : SessionId) (effect : Effect)
    : Prop :=
  ∃ destination,
    server.destination? id = some destination ∧ effect = .sent id destination bytes (send id)

/-- Counts attempts to send, by their outcomes. -/
def Stats.countSends (stats : Stats) (outcomes : List SendOutcome) : Stats :=
  { stats with
    framesSent := stats.framesSent + outcomes.count .sent
    framesSkipped := stats.framesSkipped + outcomes.count .wouldBlock }

theorem Stats.countSends_cons (stats : Stats) (outcome : SendOutcome)
    (rest : List SendOutcome)
    : stats.countSends (outcome :: rest) = (stats.countSend outcome).countSends rest := by
  cases outcome <;> simp [countSends, countSend, Nat.add_comm 1, Nat.add_assoc]

/-- The sessions with these numbers count as served, with these outcomes. -/
def markServed (now : Moment) (ids : List SessionId) (send : SessionId → SendOutcome)
    (server : Server)
    : Server :=
  { server with
    registry := server.registry.update (fun id => id ∈ ids) (·.markTelemetrySent now)
    stats := server.stats.countSends (ids.map send) }

theorem markServed_markServed (now : Moment) (id : SessionId) (rest : List SessionId)
    (send : SessionId → SendOutcome) (server : Server)
    : (server.markServed now [id] send).markServed now rest send
      = server.markServed now (id :: rest) send := by
  have both := server.registry.update_update (·.markTelemetrySent now) (fun _ => rfl)
    (fun other => other ∈ [id]) (fun other => other ∈ rest)
  have members
      : (fun other => decide (other ∈ [id]) || decide (other ∈ rest))
        = fun other => decide (other ∈ id :: rest) := by
    funext other
    simp
  rw [members] at both
  rw [markServed, markServed, markServed, both, List.map_cons, List.map_cons,
    Stats.countSends_cons, Stats.countSends_cons]
  rfl

theorem markServed_nil (now : Moment) (send : SessionId → SendOutcome) (server : Server)
    : server.markServed now [] send = server := by
  simp [markServed, Registry.update, Stats.countSends]

/-- Being served does not move a data channel. -/
theorem destination?_markServed (now : Moment) (ids : List SessionId)
    (send : SessionId → SendOutcome) (server : Server) (id : SessionId)
    : (server.markServed now ids send).destination? id = server.destination? id := by
  simp only [destination?, Registry.get?, markServed, Registry.find?_update]
  cases server.registry.find? id with
  | none => rfl
  | some entry =>
      simp only [Option.map_some, Option.bind_some]
      split <;> rfl

theorem addressed_markServed (now : Moment) (ids : List SessionId)
    (send : SessionId → SendOutcome) (server : Server) (bytes : Bytes)
    : (server.markServed now ids send).Addressed bytes send = server.Addressed bytes send := by
  funext id effect
  rw [Addressed, destination?_markServed, Addressed]

/-- A session with a data channel is sent one packet. -/
theorem sendTo_eq {server : Server} (nodup : server.registry.ids.Nodup) (now : Moment)
    (bytes : Bytes) (send : SessionId → SendOutcome) {id : SessionId} {destination : Peer}
    (opened : server.destination? id = some destination)
    : server.sendTo now bytes send id
      = ⟨server.markServed now [id] send, [.sent id destination bytes (send id)]⟩ := by
  obtain ⟨session, live, channel⟩ := Option.bind_eq_some_iff.mp opened
  obtain ⟨entry, found, rfl⟩ := Option.map_eq_some_iff.mp live
  obtain ⟨held, rfl⟩ := Registry.mem_of_find? found
  rw [sendTo, found]
  dsimp only
  rw [channel]
  dsimp only
  rw [Registry.put_eq_update (·.markTelemetrySent now) nodup held, markServed, List.map_cons,
    Stats.countSends_cons]
  simp only [List.mem_singleton]
  rfl

/-- Each of these sessions is sent one packet, in their order, by induction on them. -/
theorem sendAll_eq {server : Server} (nodup : server.registry.ids.Nodup) (now : Moment)
    (bytes : Bytes) (send : SessionId → SendOutcome) {ids : List SessionId}
    (opened : ∀ id ∈ ids, (server.destination? id).isSome)
    : ∃ sends,
        Step.forEach (sendTo now bytes send) ids server
          = ⟨server.markServed now ids send, sends⟩
        ∧ List.Forall₂ (server.Addressed bytes send) ids sends := by
  induction ids generalizing server with
  | nil => exact ⟨[], by rw [markServed_nil]; rfl, .nil⟩
  | cons id rest ih =>
      obtain ⟨destination, channel⟩ :=
        Option.isSome_iff_exists.mp (opened id List.mem_cons_self)
      have kept : (server.markServed now [id] send).registry.ids.Nodup := by
        rw [markServed, Registry.ids_update]
        exact nodup
      have later
          : ∀ other ∈ rest,
              ((server.markServed now [id] send).destination? other).isSome := by
        intro other member
        rw [destination?_markServed]
        exact opened other (List.mem_cons_of_mem id member)
      obtain ⟨sends, sent, each⟩ := ih kept later
      simp only [addressed_markServed] at each
      refine ⟨_, ?_, .cons ⟨destination, channel, rfl⟩ each⟩
      rw [Step.forEach, Step.andThen, sendTo_eq nodup now bytes send channel, sent,
        markServed_markServed]
      rfl

-----------------------------------------------------------------------------------------
-- Telemetry
-----------------------------------------------------------------------------------------

/-- Without a session that is due nothing is sampled. -/
theorem pushTelemetry_of_idle {server : Server} {now : Moment}
    (idle : server.registry.due now = []) (frame : Frame) (send : SessionId → SendOutcome)
    : server.pushTelemetry now frame send = ⟨server, []⟩ := by
  rw [pushTelemetry, idle]
  rfl

/-- A session that is due has a data channel. -/
theorem destination?_of_due {server : Server} (wellFormed : server.registry.WellFormed)
    {now : Moment} {id : SessionId} (due : id ∈ server.registry.due now)
    : (server.destination? id).isSome := by
  obtain ⟨entry, found, due⟩ :=
    (Option.any_eq_true _ _).mp (wellFormed.mem_filter_keys.mp due)
  obtain ⟨destination, channel⟩ := Session.channel_of_due due
  simp [destination?, Registry.get?, found, channel]

/-- A status that shows another frame raises no event. -/
theorem write_frame (status : Status.Shared) (frame : Frame)
    : status.write (.frame frame) = { status with view.lastFrame := some frame } := by
  simp [Status.Shared.write, Status.Shared.raise, Status.View.write, Status.View.raised,
    Status.Events.none]

/-- One sample is shown and goes to every session that is due. -/
theorem pushTelemetry_of_due {server : Server} (wellFormed : server.registry.WellFormed)
    (bound : server.bound.isSome) {now : Moment} (waiting : server.registry.due now ≠ [])
    (frame : Frame) (send : SessionId → SendOutcome)
    : let due := server.registry.due now
      let bytes := (Wire.Packet.telemetry ⟨frame, server.status.view.battery⟩).encode
      ∃ sends,
        server.pushTelemetry now frame send
          = ⟨{ server.markServed now due send with
                status := { server.status with view.lastFrame := some frame } },
              .sampled :: sends⟩
        ∧ List.Forall₂ (server.Addressed bytes send) due sends := by
  intro due bytes
  let shown := server.writeStatus (.frame frame)
  have nodup : shown.registry.ids.Nodup := wellFormed.nodup
  have opened : ∀ id ∈ due, (shown.destination? id).isSome := by
    intro id member
    exact destination?_of_due wellFormed member
  obtain ⟨sends, sent, each⟩ := sendAll_eq nodup now bytes send opened
  refine ⟨sends, ?_, each⟩
  rw [pushTelemetry]
  dsimp only
  rw [if_neg (by simp [waiting, Option.isSome_iff_ne_none.mp bound])]
  have told : (Step.mk server [.sampled]).andThen (tell (.frame frame)) = ⟨shown, [.sampled]⟩ := by
    rw [Step.andThen, tell_frame]
    rfl
  rw [told, Step.andThen]
  refine (congrArg (fun step => Step.mk step.server (.sampled :: step.effects)) sent).trans ?_
  rw [← write_frame]
  rfl

-----------------------------------------------------------------------------------------
-- Behind a round
-----------------------------------------------------------------------------------------

namespace Round

variable {round : Round}

/-- A session that was served at a moment is not due again at it. -/
theorem not_due_of_live (reachable : round.server.Reachable) {entry : Registry.Entry}
    (held : entry ∈ round.step.server.registry.entries)
    : ¬entry.session.telemetryDue round.now := by
  have wellFormed := (Reachable.round reachable round.occasion).wellFormed
  have found : round.step.server.registry.find? entry.key = some entry :=
    wellFormed.find?_eq_some_iff.mpr ⟨held, rfl⟩
  obtain ⟨swept, _, ⟨_, _, marked⟩ | ⟨_, idle, kept⟩⟩ := step_cases reachable found
  · intro due
    have waited := (Session.telemetryDue_iff.mp due).2.2 round.now (by rw [marked]; rfl)
    have least := (wellFormed.reachable entry held).coherent.pollingInterval_ge
    rw [Span.between, Nat.sub_self] at waited
    exact absurd (Nat.le_trans least waited) (by decide)
  · rw [kept]
    exact idle

/-- Nothing is sampled before the telemetry of a round. -/
theorem sampled_not_mem_swept (round : Round) : .sampled ∉ round.swept.effects := by
  have elsewhere (stage : Stage) (other : stage ≠ .telemetry)
      : .sampled ∉ round.effectsOf stage := by
    intro member
    exact other (Option.some.inj (stage?_of_mem member rfl)).symm
  intro member
  rcases List.mem_append.mp member with member | member
  · rcases List.mem_append.mp member with member | member
    · exact elsewhere .link (by decide) member
    · exact elsewhere .dispatch (by decide) member
  · exact elsewhere .sweep (by decide) member

/-- Behind a round no session is due at its moment. -/
theorem due_eq_nil (reachable : round.server.Reachable)
    : round.step.server.registry.due round.now = [] := by
  have idle
      : round.step.server.registry.entries.filter
          (fun entry => entry.session.telemetryDue round.now) = [] := by
    rw [List.filter_eq_nil_iff]
    exact fun entry held => not_due_of_live reachable held
  rw [Registry.due, idle]
  rfl

/-- Behind a round the next telemetry is still to come. -/
theorem nextTelemetryIn_pos (reachable : round.server.Reachable) {next : Span}
    (awaited : round.step.server.registry.nextTelemetryIn round.now = some next)
    : 0 < next := by
  have least := (List.min?_eq_some_iff.mp awaited).1
  obtain ⟨session, live, remains⟩ := List.mem_filterMap.mp least
  obtain ⟨entry, held, rfl⟩ := List.mem_map.mp live
  have idle := not_due_of_live reachable held
  rw [Session.telemetryDue, remains] at idle
  exact Nat.pos_of_ne_zero (by simpa using idle)

/-- Behind a round the next wait is cut to nothing only by a setting. -/
theorem pollTimeout_eq_zero_iff (reachable : round.server.Reachable)
    : round.step.server.pollTimeout round.now = 0
      ↔ (if round.step.server.link.current.isUp then round.step.server.settings.idleTimeout
          else round.step.server.settings.linkDownTimeout) = 0 := by
  rw [pollTimeout]
  split
  · cases awaited : round.step.server.registry.nextTelemetryIn round.now with
    | none => rfl
    | some next =>
        have positive := nextTelemetryIn_pos reachable awaited
        exact Nat.min_eq_zero_iff.trans (or_iff_right (Nat.ne_of_gt positive))
  · rfl

end Round

/-- Settings that break no rule never cut a wait to nothing. -/
theorem timeouts_ne_zero {settings : Settings} (valid : settings.brokenRule? = none)
    : settings.network.idleTimeout ≠ 0 ∧ settings.network.linkDownTimeout ≠ 0 := by
  simp only [Settings.brokenRule?, Option.map_eq_none_iff, List.find?_eq_none, Settings.checks,
    List.forall_mem_cons, beq_iff_eq] at valid
  obtain ⟨_, _, _, idle, linkDown, _⟩ := valid
  have spans {millis : UInt64} (some : millis ≠ 0) : Span.ofMillis millis.toNat ≠ 0 := by
    rw [Span.ofMillis]
    exact Nat.mul_ne_zero (by decide) (fun none => some (UInt64.toNat_inj.mp none))
  exact ⟨spans idle, spans linkDown⟩

-----------------------------------------------------------------------------------------
-- One sample for all
-----------------------------------------------------------------------------------------

/-- In a round of any server that a run can reach, telemetry follows the sessions that are due
behind the sweep. Without one the input is not sampled and nothing else happens. Otherwise
it is sampled once, the frame is shown, and each session that is due, in the order of the
numbers, is sent the same bytes at its own channel; all of them count as served now, whatever
became of the packets, the outcomes are counted, and nothing else changes. Behind the round
no session is due, so that only a setting of zero, which valid settings never have, lets the
next wait be none.
-/
theorem one_sample_for_all_due {round : Round} (reachable : round.server.Reachable)
    : let before := round.swept
      let due := before.server.registry.due round.now
      let ended := round.step
      due.Pairwise (fun earlier later => earlier.number < later.number)
      ∧ .sampled ∉ before.effects
      ∧ (due = [] → ended = before)
      ∧ (due ≠ []
        → let frame := round.occasion.frame
          let send := round.occasion.send
          let bytes := (Wire.Packet.telemetry ⟨frame, before.server.status.view.battery⟩).encode
          ∃ sends,
            ended.effects = before.effects ++ .sampled :: sends
            ∧ List.Forall₂ (before.server.Addressed bytes send) due sends
            ∧ ended.server
              = { before.server.markServed round.now due send with
                  status := { before.server.status with view.lastFrame := some frame } })
      ∧ ended.server.registry.due round.now = []
      ∧ (ended.server.pollTimeout round.now = 0
        ↔ (if ended.server.link.current.isUp then ended.server.settings.idleTimeout
            else ended.server.settings.linkDownTimeout) = 0)
      ∧ ∀ settings : Settings,
          settings.network = ended.server.settings
          → settings.brokenRule? = none
          → ended.server.pollTimeout round.now ≠ 0 := by
  intro before due ended
  have swept : before.server.registry.WellFormed :=
    round.swept_evolves.wellFormed reachable.wellFormed
  have timeout := Round.pollTimeout_eq_zero_iff reachable
  refine ⟨swept.ordered.sublist (List.filter_sublist.map _), Round.sampled_not_mem_swept round,
    ?_, ?_, Round.due_eq_nil reachable, timeout, ?_⟩
  · intro idle
    have nothing := pushTelemetry_of_idle idle round.occasion.frame round.occasion.send
    change before.andThen (pushTelemetry round.now round.occasion.frame round.occasion.send) = _
    rw [Step.andThen, nothing, List.append_nil]
  · intro waiting frame send bytes
    have live : before.server.registry.entries ≠ [] := by
      intro none
      exact waiting (by simp [due, Registry.due, none])
    have bound := ((reachable.consistent.beforeTelemetry round.occasion).of_live live).1
    obtain ⟨sends, pushed, each⟩ := pushTelemetry_of_due swept bound waiting frame send
    refine ⟨sends, ?_, each, ?_⟩
    · exact congrArg (fun step => before.effects ++ step.effects) pushed
    · exact congrArg Step.server pushed
  · intro settings same valid none
    obtain ⟨idle, linkDown⟩ := timeouts_ne_zero valid
    rw [same] at idle linkDown
    have zero := timeout.mp none
    split at zero
    · exact idle zero
    · exact linkDown zero

/-- Of three clients two are confirmed in one batch and are both due; the packet to the second is
dropped. The third has sent nothing yet.
-/
theorem one_sample_for_all_due_full_socket
    : let connects (place : UInt8) : AcceptOutcome :=
        .connection (.v4 ⟨192, 168, 1, place⟩ 41000) true
      let opens (token : UInt64) : Readiness :=
        .stream {
          token
          readable := true
          writable := true
          reads := [.bytes [8, 0, 0, 0, 1, 0, 0x88, 0x13, 0, 0, 0, 0]]
          writes := [.accepted 12]
        }
      let settings : Settings := { network := { maxSessions := 3 } }
      let arrivals : Readiness := .listener [connects 20, connects 21, connects 22]
      let full :=
        ((start settings.network 5000 {}).iterate { now := 1, batch := [arrivals] }).server
      let round : Round :=
        ⟨full,
          {
            now := 2
            batch := [opens 17, opens 18]
            send := fun id => if id = ⟨2⟩ then .wouldBlock else .sent
          }⟩
      let bytes := (Wire.Packet.telemetry ⟨{}, 0⟩).encode
      round.swept.server.registry.due 2 = [⟨1⟩, ⟨2⟩]
      ∧ (∃ first second,
          round.step.effects
          = round.swept.effects
            ++ [.sampled, .sent ⟨1⟩ first bytes .sent, .sent ⟨2⟩ second bytes .wouldBlock])
      ∧ round.step.server.stats.framesSent = 1
      ∧ round.step.server.stats.framesSkipped = 1
      ∧ round.step.server.status.view.lastFrame = some {}
      ∧ round.step.server.registry.due 2 = []
      ∧ round.step.server.pollTimeout 2 ≠ 0 := by
  intro connects opens settings arrivals full round bytes
  have reachable : round.server.Reachable := by
    dsimp only [round]
    exact .round (.start _ _ _) _
  have due : round.swept.server.registry.due round.now = [⟨1⟩, ⟨2⟩] := by decide +kernel
  have battery : round.swept.server.status.view.battery = 0 := by decide +kernel
  have counted : round.swept.server.stats = { sessionsAdmitted := 3 } := by decide +kernel
  have network : settings.network = round.step.server.settings := by decide +kernel
  obtain ⟨_, _, _, samples, idle, _, waits⟩ := one_sample_for_all_due reachable
  obtain ⟨sends, effects, each, served⟩ := samples (by simp [due])
  rw [due] at each served
  rw [battery] at each
  have stats := congrArg Server.stats served
  rw [Server.markServed, counted] at stats
  obtain _ | ⟨⟨first, _, rfl⟩, _ | ⟨⟨second, _, rfl⟩, _ | _⟩⟩ := each
  refine ⟨due, ⟨first, second, effects⟩, ?_, ?_, ?_, idle, waits settings network rfl⟩
  · rw [stats]
    rfl
  · rw [stats]
    rfl
  · rw [served]

end Server

end Handheld
