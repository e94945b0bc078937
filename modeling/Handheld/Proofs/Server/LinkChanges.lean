import Handheld.Proofs.Server.Linkage
import Handheld.Proofs.Server.Rounds
import Handheld.Proofs.Status.Reports

/-! The changes of the link that a round follows, and the attempt to bind behind them. Main
statements: what any number of changes does to a server is told by which changes are among
them; and a round makes one attempt to bind if the link has come up in it at last, none if it
has gone down, and without a change one only if that is due.
-/

namespace Handheld

theorem LinkState.eq_up_of_ne {state : LinkState} (other : state ≠ .down) : state = .up := by
  cases state with
  | up => rfl
  | down => exact absurd rfl other

theorem LinkState.eq_down_of_ne {state : LinkState} (other : state ≠ .up) : state = .down := by
  cases state with
  | up => exact absurd rfl other
  | down => rfl

namespace Server

open Status (Events)

-----------------------------------------------------------------------------------------
-- Following changes
-----------------------------------------------------------------------------------------

/-- What a loss of the link does to sessions and sockets: every session ends, in the order of
admission, each raising its event, and the sockets are closed.
-/
def lossEffects (server : Server) : List Effect :=
  (server.registry.sessions.flatMap fun session =>
      [.disconnected session .info .linkDown, .raised .clientDisconnected])
    ++ if server.bound.isSome then [.closed] else []

/-- What a change of the link raises. -/
def Effect.ofChange : LinkState → Effect
  | .down => .raised .linkDown
  | .up => .raised .linkUp

/-- What following changes of the link does to a server, whatever their number. Among them, one
that goes down ends every session, and one that comes up calls for an attempt to bind.
-/
structure Followed (changes : List LinkState) (server next : Server) : Prop where
  settings_eq : next.settings = server.settings
  registry_eq
    : next.registry
      = if .down ∈ changes then server.registry.drain.2 else server.registry
  bound_eq : next.bound = if .down ∈ changes then none else server.bound
  lastRebind_eq : next.lastRebind = if .up ∈ changes then none else server.lastRebind
  pending_iff
    : ∀ bit,
        next.status.pending.Has bit
        ↔ server.status.pending.Has bit
          ∨ (.down ∈ changes
            ∧ (Events.linkDown.Has bit
              ∨ (server.registry.entries ≠ [] ∧ Events.clientDisconnected.Has bit)))
          ∨ (.up ∈ changes ∧ Events.linkUp.Has bit)

namespace Followed

theorem refl (server : Server) : Followed [] server server where
  settings_eq := rfl
  registry_eq := rfl
  bound_eq := rfl
  lastRebind_eq := rfl
  pending_iff := by simp

theorem append {earlier later : List LinkState} {first second third : Server}
    (left : Followed earlier first second) (right : Followed later second third)
    : Followed (earlier ++ later) first third where
  settings_eq := right.settings_eq.trans left.settings_eq
  registry_eq := by
    rw [right.registry_eq, left.registry_eq]
    by_cases lost : .down ∈ earlier <;> by_cases again : .down ∈ later <;>
      simp [lost, again, Registry.drain]
  bound_eq := by
    rw [right.bound_eq, left.bound_eq]
    by_cases lost : .down ∈ earlier <;> by_cases again : .down ∈ later <;> simp [lost, again]
  lastRebind_eq := by
    rw [right.lastRebind_eq, left.lastRebind_eq]
    by_cases back : .up ∈ earlier <;> by_cases again : .up ∈ later <;> simp [back, again]
  pending_iff bit := by
    -- Behind a loss no session is left that another loss could end.
    have live
        : second.registry.entries ≠ [] ↔ .down ∉ earlier ∧ first.registry.entries ≠ [] := by
      rw [left.registry_eq]
      split
      next lost => simp [lost, Registry.drain]
      next kept => simp [kept]
    rw [right.pending_iff, left.pending_iff, live, List.mem_append, List.mem_append]
    grind only

end Followed

/-- A change of the shown link raises its event. -/
theorem pending_write_link {status : Status.Shared} {up : Bool}
    (change : status.view.linkUp = !up)
    : (status.write (.link up)).pending
      = status.pending ||| if up then .linkUp else .linkDown := by
  simp [Status.Shared.write, Status.Shared.raise, Status.View.raised, change]

/-- The accounts of sessions that are gone raise the event of a client that went, if any are. By
induction on the sessions.
-/
theorem afterTeardowns_pending (sessions : List Session) (server : Server) (bit : Nat)
    : (sessions.foldl afterTeardown server).status.pending.Has bit
      ↔ server.status.pending.Has bit
        ∨ (sessions ≠ [] ∧ Events.clientDisconnected.Has bit) := by
  induction sessions generalizing server with
  | nil => simp
  | cons session rest ih =>
      have first
          : (server.afterTeardown session).status.pending
            = server.status.pending ||| .clientDisconnected := rfl
      rw [List.foldl_cons, ih, first, Events.has_or]
      simp only [ne_eq, reduceCtorEq, not_false_eq_true, true_and]
      tauto

/-- Following one change, when the server agrees with the other state. -/
theorem followLink_followed {server : Server} {before state : LinkState}
    (consistent : server.ConsistentAt before) (change : before ≠ state)
    : Followed [state] server (server.followLink state).server := by
  cases state with
  | down =>
      have up := LinkState.eq_up_of_ne change
      have shown : server.status.view.linkUp = true := by rw [consistent.linkUp_eq, up]; rfl
      have torn := teardownAll_serves .linkDown server
      refine {
        settings_eq := torn.settings_eq
        registry_eq := ?_
        bound_eq := rfl
        lastRebind_eq := torn.lastRebind_eq
        pending_iff := ?_
      }
      · simp only [followLink, Step.andThen, tell, writeStatus, closeSockets, teardownAll_eq,
          afterTeardowns_registry]
        rfl
      · intro bit
        have still := torn.linkUp_eq.trans shown
        have written
            : (server.followLink .down).server.status.pending
              = (server.teardownAll .linkDown).server.status.pending ||| .linkDown :=
          pending_write_link still
        rw [written, Events.has_or, teardownAll_eq, afterTeardowns_pending]
        simp only [ne_eq, Registry.sessions, List.map_eq_nil_iff, List.mem_singleton,
          reduceCtorEq, true_and, false_and, or_false]
        tauto
  | up =>
      have down := LinkState.eq_down_of_ne change
      have closed := consistent.bound_eq_none down
      have shown : server.status.view.linkUp = false := by rw [consistent.linkUp_eq, down]; rfl
      rw [followLink]
      dsimp only [Step.andThen, tell]
      rw [writeStatus, if_pos (by rw [closed]; rfl)]
      refine {
        settings_eq := rfl
        registry_eq := rfl
        bound_eq := rfl
        lastRebind_eq := rfl
        pending_iff := ?_
      }
      intro bit
      have written
          : (server.status.write (.link true)).pending = server.status.pending ||| .linkUp :=
        pending_write_link shown
      simp only [written, Events.has_or, List.mem_singleton, reduceCtorEq, false_and, true_and,
        false_or]

/-- Following changes, by induction on them. -/
theorem followAll_followed {server : Server} {before : LinkState} {changes : List LinkState}
    (consistent : server.ConsistentAt before) (chain : (before :: changes).IsChain (· ≠ ·))
    : Followed changes server (Step.forEach followLink changes server).server := by
  induction changes generalizing server before with
  | nil => exact .refl server
  | cons state rest ih =>
      obtain ⟨change, chain⟩ := List.isChain_cons_cons.mp chain
      exact (followLink_followed consistent change).append
        (ih (followLink_consistent consistent state) chain)

/-- Closed sockets without sessions have nothing to lose. -/
theorem lossEffects_of_closed {server : Server} {state : LinkState}
    (consistent : server.ConsistentAt state) (closed : server.bound = none)
    : server.lossEffects = [] := by
  rw [lossEffects, Registry.sessions, consistent.entries_eq_nil closed, closed]
  rfl

theorem followLink_down_effects {server : Server} (shown : server.status.view.linkUp = true)
    : (server.followLink .down).effects = server.lossEffects ++ [.ofChange .down] := by
  have torn := teardownAll_serves .linkDown server
  have still
      : ((server.teardownAll .linkDown).andThen closeSockets).server.status.view.linkUp
        = !false :=
    torn.linkUp_eq.trans shown
  rw [followLink, Step.andThen, tell_link still]
  simp only [Step.andThen, closeSockets, torn.bound_eq]
  rw [teardownAll_eq]
  rfl

theorem followLink_up_effects {server : Server} (shown : server.status.view.linkUp = false)
    : (server.followLink .up).effects = [.ofChange .up] := by
  rw [followLink, tell_link shown]
  rfl

/-- The first loss ends what there is, and each change raises its event. By induction on the
changes.
-/
theorem followAll_effects {server : Server} {before : LinkState} {changes : List LinkState}
    (consistent : server.ConsistentAt before) (chain : (before :: changes).IsChain (· ≠ ·))
    : (Step.forEach followLink changes server).effects
      = (if .down ∈ changes then server.lossEffects else []) ++ changes.map Effect.ofChange := by
  induction changes generalizing server before with
  | nil => rfl
  | cons state rest ih =>
      obtain ⟨change, chain⟩ := List.isChain_cons_cons.mp chain
      have next := followLink_consistent consistent state
      have shown := consistent.linkUp_eq
      cases state with
      | down =>
          rw [LinkState.eq_up_of_ne change] at shown
          rw [Step.forEach, Step.andThen, ih next chain, followLink_down_effects shown,
            lossEffects_of_closed next (next.bound_eq_none rfl), ite_self, List.nil_append,
            if_pos List.mem_cons_self, List.append_assoc]
          rfl
      | up =>
          have down := LinkState.eq_down_of_ne change
          have closed := consistent.bound_eq_none down
          have still : (server.followLink .up).server.bound = none :=
            (followLink_followed consistent change).bound_eq.trans closed
          rw [down] at shown
          rw [Step.forEach, Step.andThen, ih next chain, followLink_up_effects shown,
            lossEffects_of_closed next still, lossEffects_of_closed consistent closed, ite_self,
            ite_self]
          rfl

-----------------------------------------------------------------------------------------
-- Attempts to bind
-----------------------------------------------------------------------------------------

/-- The outcome of an attempt to bind: the port, unless it failed. -/
def Effect.attempt? : Effect → Option (Option UInt16)
  | .bound port => some (some port)
  | .bindFailed => some none
  | _ => none

/-- What an attempt with this outcome does outside. -/
def Effect.ofAttempt : Option UInt16 → Effect
  | some port => .bound port
  | none => .bindFailed

theorem rebind_effects (now : Moment) (port : Option UInt16) (server : Server)
    : (server.rebind now port).effects = [.ofAttempt port] := by
  cases port <;> rfl

/-- An attempt touches the sockets alone. -/
theorem rebind_server (now : Moment) (port : Option UInt16) (server : Server)
    : ∃ bound hello lastRebind,
        (server.rebind now port).server = { server with bound, hello, lastRebind } := by
  cases port <;> exact ⟨_, _, _, rfl⟩

/-- Following a change makes no attempt. -/
theorem followLink_attempts (state : LinkState) (server : Server)
    : (server.followLink state).effects.filterMap Effect.attempt? = [] := by
  have told (update : Status.Update) (server : Server)
      : (server.tell update).effects.filterMap Effect.attempt? = [] := by
    rw [tell]
    dsimp only
    split <;> rfl
  cases state with
  | up => simp only [followLink, Step.andThen, List.append_nil, told]
  | down =>
      have torn : (server.teardownAll .linkDown).effects.filterMap Effect.attempt? = [] := by
        rw [teardownAll_eq, List.filterMap_flatMap, List.flatMap_eq_nil_iff]
        exact fun _ _ => rfl
      have closed (server : Server)
          : server.closeSockets.effects.filterMap Effect.attempt? = [] := by
        rw [closeSockets]
        dsimp only
        split <;> rfl
      simp only [followLink, Step.andThen, List.filterMap_append, torn, closed, told,
        List.append_nil]

/-- The port behind an attempt that is due is the one that it got. -/
theorem rebind_bound {server : Server} {now : Moment} (due : server.rebindDue now)
    (port : Option UInt16)
    : (server.rebind now port).server.bound = port := by
  simp only [rebindDue, Bool.and_eq_true, Option.isNone_iff_eq_none] at due
  cases port with
  | none => exact due.1.2
  | some port => rfl

namespace Round

/-- The changes of the link that a round follows. -/
def changes (round : Round) : List LinkState :=
  LinkMonitor.changes round.server.link.current round.server.link.queue

/-- The round up to its attempt to bind. -/
def followed (round : Round) : Step :=
  Step.forEach followLink round.changes
    { round.server with link := round.server.link.takeAll.2 }

/-- The attempts to bind that a round makes, with their outcomes. -/
def attempts (round : Round) : List (Option UInt16) :=
  round.step.effects.filterMap Effect.attempt?

variable {round : Round}

theorem linked_eq (round : Round)
    : round.linked
      = round.followed.andThen fun server =>
          if server.rebindDue round.now then server.rebind round.now round.occasion.port
          else ⟨server, []⟩ := rfl

theorem isChain_changes (round : Round)
    : (round.server.link.current :: round.changes).IsChain (· ≠ ·) :=
  LinkMonitor.isChain_changes _ _

/-- Before the changes are followed the server agrees with the state from before. -/
theorem before_followed (reachable : round.server.Reachable)
    : Server.ConsistentAt round.server.link.current
        { round.server with link := round.server.link.takeAll.2 } := by
  have consistent := reachable.consistent
  exact ⟨consistent.bound_eq_none, consistent.entries_eq_nil, consistent.linkUp_eq,
    consistent.controlPort_eq⟩

theorem followed_spec (reachable : round.server.Reachable)
    : Followed round.changes round.server round.followed.server := by
  have followed := followAll_followed (before_followed reachable) round.isChain_changes
  exact ⟨followed.settings_eq, followed.registry_eq, followed.bound_eq,
    followed.lastRebind_eq, followed.pending_iff⟩

theorem followed_link (round : Round)
    : round.followed.server.link
      = ⟨(round.changes.getLast?).getD round.server.link.current, []⟩ := by
  rw [changes, LinkMonitor.changes_getLast?]
  exact followAll_link _ _

/-- Behind its changes of the link a round leaves the sockets alone. -/
theorem linked_serves (round : Round) : Serves round.linked.server round.step.server :=
  iterate_serves round.occasion round.server

/-- The attempt to bind touches the sockets alone. -/
theorem linked_server (round : Round)
    : ∃ bound hello lastRebind,
        round.linked.server = { round.followed.server with bound, hello, lastRebind } := by
  rw [linked_eq, Step.andThen]
  dsimp only
  split
  · exact rebind_server _ _ _
  · exact ⟨_, _, _, rfl⟩

/-- The link is followed to its last change. -/
theorem step_link (round : Round)
    : round.step.server.link = ⟨(round.changes.getLast?).getD round.server.link.current, []⟩ := by
  obtain ⟨_, _, _, linked⟩ := round.linked_server
  rw [round.linked_serves.link_eq, linked, followed_link]

theorem followed_effects (reachable : round.server.Reachable)
    : round.followed.effects
      = (if .down ∈ round.changes then round.server.lossEffects else [])
        ++ round.changes.map Effect.ofChange :=
  followAll_effects (before_followed reachable) round.isChain_changes

/-- The changes of the link make no attempt to bind. -/
theorem followed_attempts (round : Round)
    : round.followed.effects.filterMap Effect.attempt? = [] := by
  rw [List.filterMap_eq_nil_iff]
  intro effect member
  obtain ⟨state, _, server, found⟩ := Step.exists_of_mem_forEach member
  exact List.filterMap_eq_nil_iff.mp (followLink_attempts state server) effect found

/-- Behind the changes of the link comes the attempt to bind, if that is due. -/
theorem linked_effects (round : Round)
    : round.linked.effects
      = round.followed.effects
        ++ if round.followed.server.rebindDue round.now then [.ofAttempt round.occasion.port]
          else [] := by
  rw [linked_eq, Step.andThen]
  refine congrArg (List.append _) ?_
  split
  · exact rebind_effects _ _ _
  · rfl

/-- A round makes one attempt to bind if that is due behind its changes of the link. -/
theorem attempts_eq (round : Round)
    : round.attempts
      = if round.followed.server.rebindDue round.now then [round.occasion.port] else [] := by
  have elsewhere {stage : Stage} (other : stage ≠ .link)
      : (round.effectsOf stage).filterMap Effect.attempt? = [] := by
    rw [List.filterMap_eq_nil_iff]
    intro effect member
    have own := stage?_of_mem member
    cases effect <;> first | rfl | exact absurd (Option.some.inj (own rfl)).symm other
  rw [attempts, effects_eq, List.filterMap_append, List.filterMap_append, List.filterMap_append,
    elsewhere (by decide : Stage.dispatch ≠ .link), elsewhere (by decide : Stage.sweep ≠ .link),
    elsewhere (by decide : Stage.telemetry ≠ .link), List.append_nil, List.append_nil,
    List.append_nil, effectsOf, linked_effects, List.filterMap_append, followed_attempts,
    List.nil_append]
  split
  · cases round.occasion.port <;> rfl
  · rfl

/-- The moment of the last attempt is remembered. -/
theorem step_lastRebind (round : Round)
    : round.step.server.lastRebind
      = if round.attempts = [] then round.followed.server.lastRebind else some round.now := by
  rw [round.linked_serves.lastRebind_eq, linked_eq, Step.andThen, attempts_eq]
  by_cases due : round.followed.server.rebindDue round.now = true
  · simp only [if_pos due, reduceCtorEq, if_false]
    cases round.occasion.port <;> rfl
  · simp only [if_neg due, if_true]

/-- An attempt opens the sockets unless it fails; without one they stay as they are. -/
theorem step_bound (round : Round)
    : round.step.server.bound
      = if round.attempts = [] then round.followed.server.bound else round.occasion.port := by
  rw [round.linked_serves.bound_eq, linked_eq, Step.andThen, attempts_eq]
  by_cases due : round.followed.server.rebindDue round.now = true
  · simp only [if_pos due, reduceCtorEq, if_false]
    exact rebind_bound due _
  · simp only [if_neg due, if_true]

-----------------------------------------------------------------------------------------
-- When attempts are made
-----------------------------------------------------------------------------------------

/-- A link that comes up at last finds closed sockets, and then no attempt is remembered. -/
theorem followed_of_up (reachable : round.server.Reachable) (back : .up ∈ round.changes)
    : round.followed.server.bound = none ∧ round.followed.server.lastRebind = none := by
  have followed := followed_spec reachable
  rw [followed.bound_eq, followed.lastRebind_eq, if_pos back]
  refine ⟨?_, rfl⟩
  split
  · rfl
  next kept =>
    -- Without a loss the first change is the one that comes up, so the link was down.
    cases changes : round.changes with
    | nil => simp [changes] at back
    | cons state rest =>
        have first : state = .up := by
          cases state with
          | up => rfl
          | down => exact absurd (changes ▸ List.mem_cons_self) kept
        have chain := round.isChain_changes
        rw [changes, first, List.isChain_cons_cons] at chain
        have down : round.server.link.current = .down := by
          cases current : round.server.link.current with
          | up => exact absurd current chain.1
          | down => rfl
        exact reachable.consistent.bound_eq_none down

/-- When the link has come up at last, one attempt is made. -/
theorem attempts_of_up (reachable : round.server.Reachable)
    (last : round.changes.getLast? = some .up)
    : round.attempts = [round.occasion.port] := by
  obtain ⟨closed, unset⟩ := followed_of_up reachable (List.mem_of_getLast? last)
  have up : round.followed.server.link.current = .up := by
    rw [followed_link, last]
    rfl
  rw [attempts_eq, if_pos (by rw [rebindDue, up, closed, unset]; rfl)]

/-- While the link is down, none is made. -/
theorem attempts_of_down (down : round.step.server.link.current = .down)
    : round.attempts = [] := by
  rw [step_link, ← followed_link] at down
  rw [attempts_eq, if_neg (by rw [rebindDue, down]; exact Bool.false_ne_true)]

/-- Without a change of the link the round does nothing but an attempt that is due. -/
theorem followed_of_unchanged (unchanged : round.changes = [])
    : round.followed
      = ⟨{ round.server with link := ⟨round.server.link.current, []⟩ }, []⟩ := by
  have taken : round.server.link.takeAll.2 = ⟨round.server.link.current, []⟩ := by
    have none
        : LinkMonitor.changes round.server.link.current round.server.link.queue = [] :=
      unchanged
    rw [LinkMonitor.takeAll, ← LinkMonitor.changes_getLast?, none]
    rfl
  rw [followed, unchanged, taken]
  rfl

theorem attempts_of_unchanged (unchanged : round.changes = [])
    : round.attempts
      = if round.server.rebindDue round.now then [round.occasion.port] else [] := by
  rw [attempts_eq, followed_of_unchanged unchanged]
  rfl

end Round

end Server

end Handheld
