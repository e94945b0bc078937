import Handheld.Proofs.Server.Trace

/-! The accounts of sessions. Whatever a server does, each admission and each end is counted
once, moves one number into or out of the registry, and raises its event once. Main
statement: in every server that a run can reach the admitted sessions are the ended ones
and the live ones.
-/

namespace Handheld

namespace Server

open Status (Events Shared)

-----------------------------------------------------------------------------------------
-- What is raised
-----------------------------------------------------------------------------------------

/-- A client that comes or goes, with its event behind it. -/
def Effect.account : Effect → List Effect
  | .admitted id peer => [.admitted id peer, .raised .clientConnected]
  | .disconnected session level reason =>
      [.disconnected session level reason, .raised .clientDisconnected]
  | _ => []

/-- What some work raises for the reader of the status is what its effects say, and all of it is
pending behind the work. Each admission and each end raises its event at once, and nothing
else raises the event of a client: it is there once for each admission, or for each end.
-/
structure Raised (before : Shared) (effects : List Effect) (after : Shared) : Prop where
  told : Told before effects after
  pending_eq
    : after.pending = (effects.filterMap Effect.raised?).foldl (· ||| ·) before.pending
  paired : effects.filter Effect.isClient = effects.flatMap Effect.account
  connected_eq
    : (effects.filterMap Effect.raised?).countP (· &&& .clientConnected != .none)
      = (effects.filterMap Effect.admitted?).length
  disconnected_eq
    : (effects.filterMap Effect.raised?).countP (· &&& .clientDisconnected != .none)
      = (effects.filterMap Effect.ended?).length

theorem Told.append {first second third : Shared} {earlier later : List Effect}
    (left : Told first earlier second) (right : Told second later third)
    : Told first (earlier ++ later) third := by
  obtain ⟨updates, rfl, about, raised⟩ := left
  obtain ⟨more, rfl, aboutMore, raisedMore⟩ := right
  refine ⟨updates ++ more, ?_, ?_, ?_⟩
  · rw [Shared.writeAll, Shared.writeAll, Shared.writeAll, List.foldl_append]
  · rw [List.filter_append, List.filterMap_append, about, aboutMore]
  · rw [Shared.raises_append, List.filterMap_append, raised, raisedMore]

/-- Work tells the status what its effects say, by induction on the work. -/
theorem Trace.told {server next : Server} {effects : List Effect}
    (trace : Trace server effects next)
    : Told server.status effects next.status := by
  induction trace with
  | @admission server peer now id registry _ =>
      exact ⟨[.clientConnected peer.ip], rfl, rfl, rfl⟩
  | @teardown server entry _ _ _ =>
      exact ⟨[.clientDisconnected entry.session.peer.ip], rfl, rfl, rfl⟩
  | @change server _ _ _ _ _ plain => exact plain.told server.status
  | aside _ told _ => exact told
  | append _ _ left right => exact left.append right

/-- The accounts of what does not concern clients are empty. -/
theorem filterMap_of_silent {effects : List Effect}
    (silent : ∀ effect ∈ effects, effect.isClient = false)
    : effects.filterMap Effect.admitted? = [] ∧ effects.filterMap Effect.ended? = [] := by
  constructor
  all_goals
    refine List.filterMap_eq_nil_iff.mpr fun effect member => ?_
    have nothing := silent effect member
    cases effect <;> first | rfl | cases nothing

theorem paired_of_silent {effects : List Effect}
    (silent : ∀ effect ∈ effects, effect.isClient = false)
    : effects.filter Effect.isClient = effects.flatMap Effect.account := by
  have accounts : effects.flatMap Effect.account = [] := by
    rw [List.flatMap_eq_nil_iff]
    intro effect member
    have nothing := silent effect member
    cases effect <;> first | rfl | cases nothing
  rw [accounts, List.filter_eq_nil_iff]
  exact fun effect member => Bool.eq_false_iff.mp (silent effect member)

/-- Each client that comes or goes has its event behind it, by induction on the work. -/
theorem Trace.paired {server next : Server} {effects : List Effect}
    (trace : Trace server effects next)
    : effects.filter Effect.isClient = effects.flatMap Effect.account := by
  induction trace with
  | admission _ => rfl
  | teardown _ _ _ => rfl
  | change _ _ plain => exact paired_of_silent plain.silent
  | aside _ _ silent => exact paired_of_silent silent
  | append _ _ left right => rw [List.filter_append, List.flatMap_append, left, right]

/-- Where each client has its event behind it, an event that no other effect raises is raised
once in each account to which it belongs.
-/
theorem countP_of_paired {effects : List Effect} {mark : Events → Bool}
    {number? : Effect → Option SessionId}
    (client : ∀ events, mark events → (Effect.raised events).isClient)
    (own
      : ∀ effect : Effect,
          (effect.account.filterMap Effect.raised?).countP mark
          = (number? effect).toList.length)
    (paired : effects.filter Effect.isClient = effects.flatMap Effect.account)
    : (effects.filterMap Effect.raised?).countP mark = (effects.filterMap number?).length := by
  have kept
      : (effects.filterMap Effect.raised?).countP mark
        = ((effects.filter Effect.isClient).filterMap Effect.raised?).countP mark := by
    rw [List.filterMap_filter, List.countP_filterMap, List.countP_filterMap]
    refine List.countP_congr fun effect _ => ?_
    cases effect with
    | raised events =>
        by_cases about : (Effect.raised events).isClient
        · simp [Effect.raised?, about]
        · have unmarked := mt (client events) about
          simp [Effect.raised?, about, unmarked]
    | _ => simp [Effect.raised?]
  rw [kept, paired]
  clear kept paired
  induction effects with
  | nil => rfl
  | cons effect rest ih =>
      rw [List.flatMap_cons, List.filterMap_append, List.countP_append, own, ih,
        List.filterMap_cons]
      cases number? effect <;> simp [Nat.add_comm]

/-- A set with one of the events of clients has one of them. -/
theorem isClient_of_has {events event : Events}
    (part : event = (.clientConnected ||| .clientDisconnected) &&& event)
    (has : events &&& event != .none)
    : (Effect.raised events).isClient := by
  rw [Effect.isClient, bne_iff_ne]
  intro none
  rw [part, ← UInt32.and_assoc, none] at has
  simp [Events.none] at has

theorem Trace.raised {server next : Server} {effects : List Effect}
    (trace : Trace server effects next)
    : Raised server.status effects next.status where
  told := trace.told
  pending_eq := by
    obtain ⟨updates, written, _, raised⟩ := trace.told
    rw [written, Shared.pending_writeAll, raised]
  paired := trace.paired
  connected_eq := by
    refine countP_of_paired (fun events => isClient_of_has (by decide)) ?_ trace.paired
    intro effect
    cases effect <;> rfl
  disconnected_eq := by
    refine countP_of_paired (fun events => isClient_of_has (by decide)) ?_ trace.paired
    intro effect
    cases effect <;> rfl

-----------------------------------------------------------------------------------------
-- Accounts
-----------------------------------------------------------------------------------------

/-- The accounts of some work: admissions and ends are counted, and they account for every
change of the live numbers.
-/
structure Accounts (server : Server) (effects : List Effect) (next : Server) : Prop where
  admitted_eq
    : next.stats.sessionsAdmitted
      = server.stats.sessionsAdmitted + (effects.filterMap Effect.admitted?).length
  teardowns_eq
    : next.stats.teardowns
      = server.stats.teardowns + (effects.filterMap Effect.ended?).length
  ids_perm
    : (next.registry.ids ++ effects.filterMap Effect.ended?).Perm
        (server.registry.ids ++ effects.filterMap Effect.admitted?)
  raised : Raised server.status effects next.status

/-- What was there and came is what is left and went, also over two pieces of work. -/
theorem perm_append_perm {α : Type} {first second third came went cameLater wentLater : List α}
    (left : (second ++ went).Perm (first ++ came))
    (right : (third ++ wentLater).Perm (second ++ cameLater))
    : (third ++ (went ++ wentLater)).Perm (first ++ (came ++ cameLater)) := by
  have swapped : (third ++ (went ++ wentLater)).Perm ((third ++ wentLater) ++ went) := by
    rw [List.append_assoc]
    exact List.perm_append_comm.append_left third
  have moved : ((second ++ cameLater) ++ went).Perm ((second ++ went) ++ cameLater) := by
    rw [List.append_assoc, List.append_assoc]
    exact List.perm_append_comm.append_left second
  rw [← List.append_assoc first]
  exact swapped.trans ((right.append_right went).trans
    (moved.trans (left.append_right cameLater)))

/-- All work has accounts, by induction on the work. -/
theorem Trace.accounts {server next : Server} {effects : List Effect}
    (trace : Trace server effects next) (wellFormed : server.registry.WellFormed)
    : Accounts server effects next := by
  have raised := trace.raised
  induction trace with
  | @admission server peer now id registry admitted =>
      obtain ⟨_, _, rfl⟩ := Registry.accept_eq_admitted admitted
      refine { admitted_eq := rfl, teardowns_eq := rfl, ids_perm := ?_, raised }
      simp [Registry.ids, writeStatus, List.filterMap_cons, Effect.admitted?, Effect.ended?]
  | @teardown server entry found level reason =>
      have held := (Registry.mem_of_find? found).1
      refine { admitted_eq := rfl, teardowns_eq := rfl, ids_perm := ?_, raised }
      have removed := wellFormed.ids_remove_perm held
      rw [← wellFormed.own entry held] at removed ⊢
      simpa [afterTeardown, writeStatus, List.filterMap_cons, Effect.admitted?, Effect.ended?]
        using removed
  | change found called plain =>
      obtain ⟨came, went⟩ := filterMap_of_silent plain.silent
      refine { admitted_eq := ?_, teardowns_eq := ?_, ids_perm := ?_, raised } <;>
        simp [came, went]
  | aside same _ silent =>
      obtain ⟨came, went⟩ := filterMap_of_silent silent
      refine { admitted_eq := ?_, teardowns_eq := ?_, ids_perm := ?_, raised } <;>
        simp [came, went, same.admitted_eq, same.teardowns_eq, same.registry_eq]
  | append left right leftAccounts rightAccounts =>
      have first := leftAccounts wellFormed left.raised
      have second := rightAccounts (left.evolves.wellFormed wellFormed) right.raised
      refine { admitted_eq := ?_, teardowns_eq := ?_, ids_perm := ?_, raised }
      · rw [second.admitted_eq, first.admitted_eq, List.filterMap_append, List.length_append,
          Nat.add_assoc]
      · rw [second.teardowns_eq, first.teardowns_eq, List.filterMap_append, List.length_append,
          Nat.add_assoc]
      · rw [List.filterMap_append, List.filterMap_append]
        exact perm_append_perm first.ids_perm second.ids_perm

-----------------------------------------------------------------------------------------
-- Runs
-----------------------------------------------------------------------------------------

/-- Every admitted session is live or torn down, and the live ones are within the limit that
the settings name.
-/
structure Conserved (server : Server) : Prop where
  balance : server.stats.sessionsAdmitted = server.stats.teardowns + server.registry.size
  capacity_eq : server.registry.capacity = server.settings.maxSessions.toNat
  size_le : server.registry.size ≤ server.registry.capacity

theorem conserved_start (settings : Settings.Network) (port : UInt16)
    (status : Status.Shared)
    : (start settings port status).Conserved where
  balance := rfl
  capacity_eq := rfl
  size_le := Nat.zero_le _

theorem Trace.settings_eq {server next : Server} {effects : List Effect}
    (trace : Trace server effects next)
    : next.settings = server.settings := by
  induction trace with
  | admission _ => rfl
  | teardown _ _ _ => rfl
  | change _ _ _ => rfl
  | aside same _ _ => exact same.settings_eq
  | append _ _ left right => exact right.trans left

/-- Work conserves the accounts, since its own are balanced. -/
theorem Conserved.trace {server next : Server} {effects : List Effect}
    (conserved : server.Conserved) (trace : Trace server effects next)
    (wellFormed : server.registry.WellFormed)
    : next.Conserved where
  balance := by
    have accounts := trace.accounts wellFormed
    have sizes := accounts.ids_perm.length_eq
    have balance := conserved.balance
    simp only [List.length_append, Registry.ids, List.length_map] at sizes
    rw [accounts.admitted_eq, accounts.teardowns_eq, balance, Registry.size, Registry.size]
    omega
  capacity_eq := by
    rw [trace.evolves.capacity_eq, trace.settings_eq, conserved.capacity_eq]
  size_le := trace.evolves.size_le conserved.size_le

/-- Every server that a run can reach has conserved its accounts, by induction on the run. -/
theorem Reachable.conserved {server : Server} (reachable : server.Reachable)
    : server.Conserved := by
  induction reachable with
  | start settings port status => exact conserved_start settings port status
  | meet _ outside ih =>
      cases outside <;> exact ⟨ih.balance, ih.capacity_eq, ih.size_le⟩
  | round reachable occasion ih =>
      exact ih.trace (iterate_traced occasion reachable.wellFormed) reachable.wellFormed
  | shutdown reachable ih =>
      exact ih.trace (shutdown_traced reachable.wellFormed) reachable.wellFormed

theorem shutdown_entries (server : Server) : server.shutdown.server.registry.entries = [] := by
  simp only [shutdown, Step.andThen, closeSockets, teardownAll_eq, afterTeardowns_registry]
  rfl

/-- The accounts of sessions balance. In every server that a run can reach the admitted sessions
are those that were torn down and those that live, which are no more than the settings allow.
The accounts of every round and of every run until the loop ends are kept, so that each
admission and each end is counted once and raises its event once. When the loop has ended no
session lives, and all have been torn down.
-/
theorem sessions_conserved {server : Server} (reachable : server.Reachable)
    : server.stats.sessionsAdmitted = server.stats.teardowns + server.registry.size
      ∧ server.registry.size ≤ server.settings.maxSessions.toNat
      ∧ (∀ occasion,
          Accounts server (server.iterate occasion).effects (server.iterate occasion).server)
      ∧ ∀ occasions,
          let ended := server.run occasions
          Accounts server ended.effects ended.server
          ∧ ended.server.registry.entries = []
          ∧ ended.server.stats.teardowns = ended.server.stats.sessionsAdmitted := by
  have wellFormed := reachable.wellFormed
  have conserved := reachable.conserved
  refine ⟨conserved.balance, conserved.capacity_eq ▸ conserved.size_le,
    fun occasion => (iterate_traced occasion wellFormed).accounts wellFormed,
    fun occasions => ?_⟩
  have trace := run_traced occasions wellFormed
  have none : (server.run occasions).server.registry.entries = [] := shutdown_entries _
  have balance := (conserved.trace trace wellFormed).balance
  rw [Registry.size, none] at balance
  exact ⟨trace.accounts wellFormed, none, balance.symm⟩

/-- Of three clients two find room. When one has hung up the rejected one is admitted, the token
of the one that left comes once more, the other is lost, and the end of the loop takes the
last.
-/
theorem sessions_conserved_rejection
    : let backlog : List AcceptOutcome :=
        [.connection (.v4 ⟨192, 168, 1, 20⟩ 41000) true,
          .connection (.v4 ⟨192, 168, 1, 21⟩ 41000) true,
          .connection (.v4 ⟨192, 168, 1, 22⟩ 41000) true]
      let hangup : Readiness := .stream { token := 18, hangup := true }
      let lost : Readiness := .stream { token := 17, error := true }
      let next : Occasion :=
        { now := 2, batch := [hangup, .listener (backlog.drop 2), hangup, lost] }
      let server :=
        ((start { maxSessions := 2 } 5000 {}).iterate
          { now := 1, batch := [.listener backlog] }).server
      let ended := server.run [next]
      server.stats = { sessionsAdmitted := 2, sessionsRejected := 1 }
      ∧ server.registry.size = 2
      ∧ Raised server.status (server.iterate next).effects (server.iterate next).server.status
      ∧ ended.effects.filterMap Effect.admitted? = [⟨3⟩]
      ∧ ended.effects.filterMap Effect.ended? = [⟨2⟩, ⟨1⟩, ⟨3⟩]
      ∧ ended.effects.filterMap Effect.raised?
        = [.clientDisconnected, .clientConnected, .clientDisconnected, .clientDisconnected]
      ∧ ended.server.stats.teardowns = 3 := by
  intro backlog hangup lost next server ended
  have reachable : server.Reachable := .round (.start _ _ _) _
  obtain ⟨balance, _, rounds, ends⟩ := sessions_conserved reachable
  have counted : server.stats = { sessionsAdmitted := 2, sessionsRejected := 1 } := by
    decide +kernel
  have all : ended.server.stats.sessionsAdmitted = 3 := by decide +kernel
  rw [counted, Nat.zero_add] at balance
  exact ⟨counted, balance.symm, (rounds next).raised, by decide +kernel, by decide +kernel,
    by decide +kernel, (ends [next]).2.2.trans all⟩

end Server

end Handheld
