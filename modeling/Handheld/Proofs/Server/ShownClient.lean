import Handheld.Proofs.Server.Accounts

/-! The client that the status shows. There is one place for it, which all sessions share: an
admission writes to it, and an end clears it when the addresses are the same. Main statements:
what is shown is the address of a live session; and a client is shown just as long as no
session has ended that came from the address of the latest admission.
-/

namespace Handheld

-----------------------------------------------------------------------------------------
-- Addresses of live sessions
-----------------------------------------------------------------------------------------

/-- The addresses behind the live sessions, one for each. -/
def Registry.peerIps (registry : Registry) : List IpAddress :=
  registry.sessions.map (·.peer.ip)

namespace Registry

theorem peerIps_accept {registry next : Registry} {peer : Peer} {now : Moment} {id : SessionId}
    (admitted : registry.accept peer now = (.admitted id, next))
    : next.peerIps = registry.peerIps ++ [peer.ip] := by
  obtain ⟨_, _, rfl⟩ := accept_eq_admitted admitted
  simp [peerIps, sessions, Session.start]

/-- Calls on a session do not change where its client is. -/
theorem WellFormed.peerIps_put {registry : Registry} (wellFormed : registry.WellFormed)
    {entry changed : Entry} (found : registry.find? changed.key = some entry)
    (calls : List Session.Call) (later : changed.session = entry.session.afterAll calls)
    : (registry.put changed).peerIps = registry.peerIps := by
  have reached := wellFormed.reachable entry (mem_of_find? found).1
  have peer : changed.session.peer = entry.session.peer := by
    rw [later]
    exact (reached.coherent.afterAll calls).1.peer_eq
  simp only [peerIps, sessions, put, List.map_map]
  refine List.map_congr_left fun other held => ?_
  by_cases same : other.key = changed.key
  · have only : registry.find? changed.key = some other :=
      wellFormed.find?_eq_some_iff.mpr ⟨held, same⟩
    have entryEq : entry = other := Option.some.inj (found.symm.trans only)
    simp [same, peer, entryEq]
  · simp [same]

/-- The removal of a session leaves all other addresses. -/
theorem WellFormed.mem_peerIps_remove {registry : Registry} (wellFormed : registry.WellFormed)
    {entry : Entry} (held : entry ∈ registry.entries) {ip : IpAddress}
    (live : ip ∈ registry.peerIps) (other : ip ≠ entry.session.peer.ip)
    : ip ∈ (registry.remove entry.key).2.peerIps := by
  simp only [peerIps, sessions, List.map_map, List.mem_map, Function.comp_apply] at live ⊢
  obtain ⟨kept, member, rfl⟩ := live
  refine ⟨kept, List.mem_filter.mpr ⟨member, ?_⟩, rfl⟩
  have keys : kept.key ≠ entry.key := fun same =>
    other (by rw [List.inj_on_of_nodup_map wellFormed.nodup member held same])
  simpa using keys

/-- Where there is room for one session only, none is left when one is removed. -/
theorem peerIps_remove_of_single {registry : Registry} {entry : Entry}
    (held : entry ∈ registry.entries) (single : registry.size ≤ 1)
    : (registry.remove entry.key).2.peerIps = [] := by
  obtain ⟨only, all⟩ := List.length_eq_one_iff.mp
    (Nat.le_antisymm single (List.length_pos_of_mem held))
  rw [all, List.mem_singleton] at held
  simp [peerIps, sessions, remove, all, held]

end Registry

namespace Server

-----------------------------------------------------------------------------------------
-- What effects show
-----------------------------------------------------------------------------------------

/-- The address of the client whose session an effect ends. -/
def Effect.left? : Effect → Option IpAddress
  | .disconnected session _ _ => some session.peer.ip
  | _ => none

/-- The client that is shown behind an effect. -/
def Effect.showing (shown : Option IpAddress) : Effect → Option IpAddress
  | .admitted _ peer => some peer.ip
  | .disconnected session _ _ => if shown = some session.peer.ip then none else shown
  | _ => shown

theorem Effect.showing_of_silent {effect : Effect} (silent : effect.isClient = false)
    (shown : Option IpAddress)
    : effect.showing shown = shown := by
  cases effect <;> first | rfl | cases silent

theorem showing_of_silent {effects : List Effect}
    (silent : ∀ effect ∈ effects, effect.isClient = false) (shown : Option IpAddress)
    : effects.foldl Effect.showing shown = shown := by
  induction effects with
  | nil => rfl
  | cons effect rest ih =>
      obtain ⟨first, later⟩ := List.forall_mem_cons.mp silent
      rw [List.foldl_cons, Effect.showing_of_silent first, ih later]

/-- The status shows what the effects of the work have left, by induction on the work. -/
theorem Trace.clientIp_eq {server next : Server} {effects : List Effect}
    (trace : Trace server effects next)
    : next.status.view.clientIp
      = effects.foldl Effect.showing server.status.view.clientIp := by
  induction trace with
  | admission _ => rfl
  | @teardown server entry _ _ _ =>
      simp only [afterTeardown, writeStatus, Status.Shared.write, Status.Shared.raise,
        Status.View.write, List.foldl_cons, List.foldl_nil, Effect.showing]
      split <;> rfl
  | change _ _ plain => exact (showing_of_silent plain.silent _).symm
  | aside same _ silent => exact same.clientIp_eq.trans (showing_of_silent silent _).symm
  | append _ _ left right => rw [right, left, List.foldl_append]

theorem Course.clientIp_eq {first server : Server} {effects : List Effect}
    (course : Course first effects server) (reachable : first.Reachable)
    : server.status.view.clientIp
      = effects.foldl Effect.showing first.status.view.clientIp := by
  refine course.keeps reachable
    (fun effects server =>
      server.status.view.clientIp = effects.foldl Effect.showing first.status.view.clientIp)
    rfl (fun outside shown => ?_) (fun _ trace shown => ?_)
  · rw [meet_clientIp, shown]
  · rw [trace.clientIp_eq, shown, List.foldl_append]

/-- Without an admission nobody comes to be shown, by induction on the effects. -/
theorem showing_none {effects : List Effect}
    (quiet : effects.filterMap Effect.admitted? = [])
    : effects.foldl Effect.showing none = none := by
  induction effects with
  | nil => rfl
  | cons effect rest ih =>
      cases effect with
      | admitted id peer => cases quiet
      | _ => exact ih quiet

/-- Behind the last admission a client is shown until a session of its address ends, by
induction on the effects.
-/
theorem showing_some {effects : List Effect}
    (quiet : effects.filterMap Effect.admitted? = []) (ip : IpAddress)
    : effects.foldl Effect.showing (some ip)
      = if ip ∈ effects.filterMap Effect.left? then none else some ip := by
  induction effects with
  | nil => rfl
  | cons effect rest ih =>
      cases effect with
      | admitted id peer => cases quiet
      | disconnected session level reason =>
          have later : rest.filterMap Effect.admitted? = [] := quiet
          rw [List.foldl_cons, Effect.showing]
          by_cases same : ip = session.peer.ip
          · simp [same, showing_none later, Effect.left?]
          · simp [same, ih later, Effect.left?]
      | _ => exact ih quiet

/-- Effects with an admission have a last one, by induction on the effects. -/
theorem exists_last_admission {effects : List Effect}
    (admits : effects.filterMap Effect.admitted? ≠ [])
    : ∃ before id peer after,
        effects = before ++ .admitted id peer :: after
        ∧ after.filterMap Effect.admitted? = [] := by
  induction effects with
  | nil => exact absurd rfl admits
  | cons effect rest ih =>
      by_cases quiet : rest.filterMap Effect.admitted? = []
      · cases effect with
        | admitted id peer => exact ⟨[], id, peer, rest, rfl, quiet⟩
        | _ => exact absurd quiet admits
      · obtain ⟨before, id, peer, after, rfl, last⟩ := ih quiet
        exact ⟨effect :: before, id, peer, after, rfl, last⟩

-----------------------------------------------------------------------------------------
-- Ghosts
-----------------------------------------------------------------------------------------

/-- What is shown is the address of a live session. -/
def ShowsLive (server : Server) : Prop :=
  ∀ ip, server.status.view.clientIp = some ip → ip ∈ server.registry.peerIps

theorem or_admits_append {already : Prop} {earlier later : List Effect}
    (either : already ∨ (earlier ++ later).filterMap Effect.admitted? ≠ [])
    : (already ∨ earlier.filterMap Effect.admitted? ≠ [])
      ∨ later.filterMap Effect.admitted? ≠ [] := by
  rwa [List.filterMap_append, ne_eq, List.append_eq_nil_iff, not_and_or, ← or_assoc] at either

/-- No work leaves a client shown that has gone, and an admission drives out one that was there
before. By induction on the work.
-/
theorem Trace.showsLive {server next : Server} {effects : List Effect}
    (trace : Trace server effects next) (wellFormed : server.registry.WellFormed)
    (shows : server.ShowsLive ∨ effects.filterMap Effect.admitted? ≠ [])
    : next.ShowsLive := by
  induction trace with
  | admission admitted =>
      intro ip shown
      cases shown
      simp [writeStatus, Registry.peerIps_accept admitted]
  | @teardown server entry found level reason =>
      have live : server.ShowsLive := shows.resolve_right (by simp [Effect.admitted?])
      intro ip shown
      have cleared := (Trace.teardown found level reason).clientIp_eq.symm.trans shown
      have last (shown : Option IpAddress) (events : Status.Events)
          : (Effect.raised events).showing shown = shown := rfl
      rw [List.foldl_cons, List.foldl_cons, List.foldl_nil, last, Effect.showing] at cleared
      split at cleared
      · cases cleared
      next other =>
        -- What is still shown is not the address of the session that ended.
        refine wellFormed.mem_peerIps_remove (Registry.mem_of_find? found).1 (live ip cleared)
          fun same => other ?_
        rw [cleared, same]
  | @change server entry changed effects found called plain =>
      have live : server.ShowsLive :=
        shows.resolve_right (by simp [(filterMap_of_silent plain.silent).1])
      obtain ⟨key, calls, later⟩ := called
      intro ip shown
      rw [wellFormed.peerIps_put (key ▸ found) calls later]
      exact live ip shown
  | @aside server next effects same told silent =>
      have live : server.ShowsLive :=
        shows.resolve_right (by simp [(filterMap_of_silent silent).1])
      intro ip shown
      rw [same.registry_eq]
      exact live ip (same.clientIp_eq.symm.trans shown)
  | append left right leftShows rightShows =>
      exact rightShows (left.evolves.wellFormed wellFormed)
        ((or_admits_append shows).imp_left (leftShows wellFormed))

theorem Course.showsLive {first server : Server} {effects : List Effect}
    (course : Course first effects server) (reachable : first.Reachable)
    (shows : first.ShowsLive ∨ effects.filterMap Effect.admitted? ≠ [])
    : server.ShowsLive := by
  refine course.keeps reachable
    (fun effects server =>
      first.ShowsLive ∨ effects.filterMap Effect.admitted? ≠ [] → server.ShowsLive)
    (fun shows => shows.resolve_right (by simp)) (fun outside kept shows => ?_)
    (fun wellFormed trace kept shows => ?_) shows
  · have live := kept shows
    rwa [ShowsLive, meet_registry, meet_clientIp]
  · exact trace.showsLive wellFormed ((or_admits_append shows).imp_left kept)

theorem start_clientIp (settings : Settings.Network) (port : UInt16) (status : Status.Shared)
    : (start settings port status).status.view.clientIp = status.view.clientIp := rfl

/-- The shown client is no ghost. In every server that a run can reach from a status without a
client, by rounds and by the end of the loop, a shown address is the address of a live
session.
-/
theorem shown_client_live {settings : Settings.Network} {port : UInt16}
    {status : Status.Shared} (unshown : status.view.clientIp = none) {server : Server}
    {effects : List Effect} (course : Course (start settings port status) effects server)
    {ip : IpAddress} (shown : server.status.view.clientIp = some ip)
    : ∃ session ∈ server.registry.sessions, session.peer.ip = ip := by
  have none : (start settings port status).ShowsLive := by
    intro ip shown
    rw [start_clientIp, unshown] at shown
    cases shown
  exact List.mem_map.mp (course.showsLive (.start settings port status) (.inl none) ip shown)

/-- The first of three clients leaves. The others have one address, in its two forms, and it
stays shown until the loop ends.
-/
theorem shown_client_live_two_forms
    : let mapped : SocketAddress :=
        .ofIp (.v6 ⟨#v[0, 0, 0, 0, 0, 0xffff, 0xc0a8, 0x0114]⟩) 41001
      let backlog : List AcceptOutcome :=
        [.connection (.v4 ⟨192, 168, 1, 21⟩ 41000) true,
          .connection (.v4 ⟨192, 168, 1, 20⟩ 41000) true, .connection mapped true]
      let full :=
        ((start { maxSessions := 3 } 5000 {}).iterate
          { now := 1, batch := [.listener backlog] }).server
      let hangup : Readiness := .stream { token := 17, hangup := true }
      let server := (full.iterate { now := 2, batch := [hangup] }).server
      server.status.view.clientIp = some (.v4 ⟨192, 168, 1, 20⟩)
      ∧ server.registry.ids = [⟨2⟩, ⟨3⟩]
      ∧ (∃ session ∈ server.registry.sessions, session.peer.ip = .v4 ⟨192, 168, 1, 20⟩)
      ∧ ∀ ip, server.shutdown.server.status.view.clientIp ≠ some ip := by
  intro mapped backlog full hangup server
  have course : Course (start { maxSessions := 3 } 5000 {}) _ server :=
    .round (.round .start _) _
  have shown : server.status.view.clientIp = some (.v4 ⟨192, 168, 1, 20⟩) := by
    decide +kernel
  refine ⟨shown, by decide +kernel, shown_client_live rfl course shown, fun ip ghost => ?_⟩
  obtain ⟨session, member, _⟩ := shown_client_live rfl course.shutdown ghost
  rw [Registry.sessions, shutdown_entries] at member
  cases member

-----------------------------------------------------------------------------------------
-- Missing clients
-----------------------------------------------------------------------------------------

/-- Since the latest admission no session has ended that came from the same address. -/
def LatestStays (effects : List Effect) : Prop :=
  ∃ before id peer after,
    effects = before ++ .admitted id peer :: after
    ∧ after.filterMap Effect.admitted? = []
    ∧ peer.ip ∉ after.filterMap Effect.left?

/-- Behind an admission a client is shown as long as the latest one stays. -/
theorem latestStays_iff {effects : List Effect}
    (admits : effects.filterMap Effect.admitted? ≠ []) (shown : Option IpAddress)
    : LatestStays effects ↔ (effects.foldl Effect.showing shown).isSome := by
  have split {before id peer after}
      (quiet : after.filterMap Effect.admitted? = [])
      : (before ++ Effect.admitted id peer :: after).foldl Effect.showing shown
        = if peer.ip ∈ after.filterMap Effect.left? then none else some peer.ip := by
    rw [List.foldl_append, List.foldl_cons, Effect.showing, showing_some quiet]
  constructor
  · rintro ⟨before, id, peer, after, rfl, quiet, stays⟩
    rw [split quiet, if_neg stays]
    rfl
  · intro some
    obtain ⟨before, id, peer, after, rfl, quiet⟩ := exists_last_admission admits
    refine ⟨before, id, peer, after, rfl, quiet, fun left => ?_⟩
    rw [split quiet, if_pos left] at some
    cases some

/-- Sessions that live were admitted. -/
theorem Course.admits {settings : Settings.Network} {port : UInt16} {status : Status.Shared}
    {server : Server} {effects : List Effect}
    (course : Course (Server.start settings port status) effects server)
    (live : server.registry.entries ≠ [])
    : effects.filterMap Effect.admitted? ≠ [] := by
  refine course.keeps (.start settings port status)
    (fun effects server =>
      server.registry.entries ≠ [] → effects.filterMap Effect.admitted? ≠ [])
    (fun live => absurd rfl live) (fun outside kept live => ?_)
    (fun wellFormed trace kept live => ?_) live
  · exact kept (by rwa [meet_registry] at live)
  · intro none
    rw [List.filterMap_append, List.append_eq_nil_iff] at none
    have quiet := (trace.accounts wellFormed).ids_perm
    have empty := not_imp_comm.mp kept (not_not_intro none.1)
    rw [Registry.ids, Registry.ids, empty, none.2] at quiet
    simp [live] at quiet

/-- While sessions live, the address of one of them is shown. -/
def ShowsOne (server : Server) : Prop :=
  server.registry.peerIps ≠ []
  → ∃ ip ∈ server.registry.peerIps, server.status.view.clientIp = some ip

/-- With room for one session only, no work leaves its client unshown. By induction on the
work.
-/
theorem Trace.showsOne {server next : Server} {effects : List Effect}
    (trace : Trace server effects next) (wellFormed : server.registry.WellFormed)
    (single : server.registry.capacity ≤ 1)
    (fits : server.registry.size ≤ server.registry.capacity) (shows : server.ShowsOne)
    : next.ShowsOne := by
  induction trace with
  | admission admitted =>
      exact fun _ => ⟨_, by simp [writeStatus, Registry.peerIps_accept admitted], rfl⟩
  | teardown found _ _ =>
      have none := Registry.peerIps_remove_of_single (Registry.mem_of_find? found).1
        (Nat.le_trans fits single)
      exact fun live => absurd none live
  | change found called _ =>
      obtain ⟨key, calls, later⟩ := called
      rwa [ShowsOne, wellFormed.peerIps_put (key ▸ found) calls later]
  | aside same _ _ => rwa [ShowsOne, same.registry_eq, same.clientIp_eq]
  | append left right leftShows rightShows =>
      exact rightShows (left.evolves.wellFormed wellFormed)
        (left.evolves.capacity_eq ▸ single) (left.evolves.size_le fits)
        (leftShows wellFormed single fits shows)

theorem Course.showsOne {settings : Settings.Network} {port : UInt16}
    {status : Status.Shared} {server : Server} {effects : List Effect}
    (course : Course (Server.start settings port status) effects server)
    (single : settings.maxSessions ≤ 1)
    : server.ShowsOne := by
  have kept := course.keeps (.start settings port status)
    (fun _ server =>
      server.registry.capacity ≤ 1
      ∧ server.registry.size ≤ server.registry.capacity
      ∧ server.ShowsOne)
    ⟨UInt64.le_iff_toNat_le.mp single, Nat.zero_le _, fun live => absurd rfl live⟩
    (fun outside kept => ?_) (fun wellFormed trace kept => ?_)
  · exact kept.2.2
  · obtain ⟨capacity, fits, shows⟩ := kept
    rw [meet_registry]
    exact ⟨capacity, fits, by rwa [ShowsOne, meet_registry, meet_clientIp]⟩
  · obtain ⟨capacity, fits, shows⟩ := kept
    exact ⟨trace.evolves.capacity_eq ▸ capacity, trace.evolves.size_le fits,
      trace.showsOne wellFormed capacity fits shows⟩

/-- When a live client is shown. In every server that a run can reach, the address of a live
session is shown if, and only if, no session has ended since the latest admission that came
from the same address. With room for one session only this is so whenever a session lives.
-/
theorem shown_client_iff {settings : Settings.Network} {port : UInt16}
    {status : Status.Shared} {server : Server} {effects : List Effect}
    (course : Course (start settings port status) effects server)
    : ((∃ session ∈ server.registry.sessions,
          server.status.view.clientIp = some session.peer.ip)
        ↔ LatestStays effects)
      ∧ (settings.maxSessions ≤ 1
        → server.registry.entries ≠ []
        → ∃ session ∈ server.registry.sessions,
            server.status.view.clientIp = some session.peer.ip) := by
  have reachable := Reachable.start settings port status
  have shown := course.clientIp_eq reachable
  refine ⟨⟨?_, fun stays => ?_⟩, fun single live => ?_⟩
  · rintro ⟨session, member, some⟩
    have live : server.registry.entries ≠ [] := by
      intro none
      simp [Registry.sessions, none] at member
    rw [latestStays_iff (course.admits live), ← shown, some]
    rfl
  · have admits : effects.filterMap Effect.admitted? ≠ [] := by
      obtain ⟨before, id, peer, after, rfl, _⟩ := stays
      simp [List.filterMap_append, Effect.admitted?]
    obtain ⟨ip, some⟩ :=
      Option.isSome_iff_exists.mp ((latestStays_iff admits _).mp stays)
    rw [← shown] at some
    obtain ⟨session, member, same⟩ :=
      List.mem_map.mp (course.showsLive reachable (.inr admits) ip some)
    exact ⟨session, member, by rw [some, same]⟩
  · have ips : server.registry.peerIps ≠ [] := by
      simpa [Registry.peerIps, Registry.sessions] using live
    simpa [Registry.peerIps] using course.showsOne single ips

/-- Of two clients the earlier one leaves, and the later one stays shown; where only one finds
room it is shown.
-/
theorem shown_client_iff_earlier_leaves
    : let backlog : List AcceptOutcome :=
        [.connection (.v4 ⟨192, 168, 1, 20⟩ 41000) true,
          .connection (.v4 ⟨192, 168, 1, 21⟩ 41000) true]
      let first := (start { maxSessions := 2 } 5000 {}).iterate
        { now := 1, batch := [.listener backlog] }
      let hangup : Readiness := .stream { token := 17, hangup := true }
      let step := first.server.iterate { now := 2, batch := [hangup] }
      let alone := ((start {} 5000 {}).iterate { now := 1, batch := [.listener backlog] }).server
      LatestStays (first.effects ++ step.effects)
      ∧ (∃ session ∈ step.server.registry.sessions,
          step.server.status.view.clientIp = some session.peer.ip)
      ∧ alone.stats.sessionsRejected = 1
      ∧ ∃ session ∈ alone.registry.sessions,
          alone.status.view.clientIp = some session.peer.ip := by
  intro backlog first hangup step alone
  have came : Course (start { maxSessions := 2 } 5000 {}) first.effects first.server :=
    .single _ _
  have course
      : Course (start { maxSessions := 2 } 5000 {}) (first.effects ++ step.effects)
          step.server :=
    came.round { now := 2, batch := [hangup] }
  have courseAlone : Course (start {} 5000 {}) _ alone := .round .start _
  have shown : ∃ session ∈ step.server.registry.sessions,
      step.server.status.view.clientIp = some session.peer.ip := by
    decide +kernel
  exact ⟨(shown_client_iff course).1.mp shown, shown, by decide +kernel,
    (shown_client_iff courseAlone).2 (by decide) (by decide +kernel)⟩

/-- Of two clients the later one leaves. The other one lives, but nobody is shown. -/
theorem shown_client_missing
    : let backlog : List AcceptOutcome :=
        [.connection (.v4 ⟨192, 168, 1, 20⟩ 41000) true,
          .connection (.v4 ⟨192, 168, 1, 21⟩ 41000) true]
      let both :=
        ((start { maxSessions := 2 } 5000 {}).iterate
          { now := 1, batch := [.listener backlog] }).server
      let hangup : Readiness := .stream { token := 18, hangup := true }
      let server := (both.iterate { now := 2, batch := [hangup] }).server
      server.Reachable
      ∧ server.registry.sessions.map (·.peer.ip) = [.v4 ⟨192, 168, 1, 20⟩]
      ∧ server.status.view.clientIp = none
      ∧ ¬∃ session ∈ server.registry.sessions,
          server.status.view.clientIp = some session.peer.ip :=
  ⟨.round (.round (.start _ _ _) _) _, by decide +kernel, by decide +kernel, by decide +kernel⟩

end Server

end Handheld
