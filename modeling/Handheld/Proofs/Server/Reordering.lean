import Mathlib.Data.List.Pairwise
import Handheld.Proofs.Server.Serving

/-! The order of the events in a batch. An event of a session's stream looks at the entry of that
session alone, and what it changes of the rest is changed alike in any order. Main statement:
without new connections, a batch with at most one event for each session leaves the same
server and writes the same bytes in whatever order it is handled.
-/

namespace Handheld

namespace Status

/-- A client that goes is shown no longer. -/
theorem View.write_disconnected (view : View) (ip : IpAddress)
    : view.write (.clientDisconnected ip)
      = { view with clientIp := view.clientIp.filter (· ≠ ip) } := by
  have kept
      : view.clientIp.filter (· ≠ ip)
        = if view.clientIp = some ip then none else view.clientIp := by
    cases view.clientIp with
    | none => rfl
    | some shown => by_cases same : shown = ip <;> simp [Option.filter_some, same]
  rw [write, kept]
  split <;> rfl

/-- Clients that go may be written to the status in any order. -/
theorem Shared.write_disconnected_comm (shared : Shared) (first second : IpAddress)
    : (shared.write (.clientDisconnected first)).write (.clientDisconnected second)
      = (shared.write (.clientDisconnected second)).write (.clientDisconnected first) := by
  simp only [write, raise, View.raised, View.write_disconnected, Option.filter_filter,
    Bool.and_comm]

end Status

namespace Server

open Registry (Entry)

-----------------------------------------------------------------------------------------
-- What one event does
-----------------------------------------------------------------------------------------

/-- The session whose stream an event is of. -/
def Readiness.session? : Readiness → Option SessionId
  | .stream event => Registry.idFor? event.token
  | _ => none

/-- What becomes of the entry that an event is for, if there is one. -/
def fate? (server : Server) (now : Moment) : Readiness → Option Driven
  | .stream event =>
      ((Registry.idFor? event.token).bind server.registry.find?).map
        (drive event server.hello now)
  | _ => none

/-- An entry stays in the registry unless its session has failed. -/
def Driven.kept? (driven : Driven) : Option Entry :=
  match driven.failure with
  | none => some driven.entry
  | some _ => none

/-- The registry with a driven entry in the place of the one that it was. -/
def settle (registry : Registry) (driven : Driven) : Registry :=
  { registry with
    entries := registry.entries.filterMap fun entry =>
      if entry.key = driven.entry.key then driven.kept? else some entry }

/-- The server behind an event that has driven an entry. -/
def conclude (server : Server) (driven : Driven) : Server :=
  let settled := { server with registry := settle server.registry driven }
  match driven.failure with
  | none => settled
  | some _ => settled.afterTeardown driven.entry.session

/-- What is seen of the end of a session that has failed. -/
def Driven.ending (driven : Driven) : List Effect :=
  match driven.failure with
  | none => []
  | some failure =>
      let reason := TeardownReason.failure failure
      [.disconnected driven.entry.session (if reason.isOrderly then .info else .warn) reason,
        .raised .clientDisconnected]

/-- What is seen from outside of an event that has driven an entry. -/
def Driven.effects (driven : Driven) : List Effect :=
  (if driven.written.isEmpty then [] else [.wrote driven.entry.key driven.written])
    ++ driven.ending

theorem Driven.key_of_kept {driven : Driven} {entry : Entry}
    (kept : driven.kept? = some entry)
    : entry.key = driven.entry.key := by
  rw [kept?] at kept
  split at kept <;> cases kept
  rfl

theorem fate?_key {server : Server} {now : Moment} {readiness : Readiness} {driven : Driven}
    (fate : server.fate? now readiness = some driven)
    : readiness.session? = some driven.entry.key := by
  cases readiness with
  | stream event =>
      obtain ⟨entry, resolved, rfl⟩ := Option.map_eq_some_iff.mp fate
      obtain ⟨key, own, found⟩ := Option.bind_eq_some_iff.mp resolved
      obtain ⟨_, rfl⟩ := Registry.mem_of_find? found
      rw [Readiness.session?, own, (drive_called event server.hello now entry).1]
  | listener _ => cases fate
  | waker => cases fate

theorem put_eq_settle {driven : Driven} (healthy : driven.failure = none)
    (registry : Registry)
    : registry.put driven.entry = settle registry driven := by
  have each (entry : Entry)
      : (if entry.key = driven.entry.key then driven.kept? else some entry)
        = some (if entry.key = driven.entry.key then driven.entry else entry) := by
    rw [Driven.kept?, healthy, apply_ite some]
  simp only [settle, Registry.put, each]
  rw [List.filterMap_eq_map']

/-- What is put in the place of an entry and then removed is just removed. -/
theorem remove_put_eq_settle {driven : Driven} {failure : SessionFailure}
    (failed : driven.failure = some failure) (registry : Registry)
    : ((registry.put driven.entry).remove driven.entry.key).2 = settle registry driven := by
  have each (entry : Entry)
      : (if entry.key = driven.entry.key then driven.kept? else some entry)
        = Option.guard (fun entry => decide (entry.key ≠ driven.entry.key))
            (if entry.key = driven.entry.key then driven.entry else entry) := by
    rw [Driven.kept?, failed]
    by_cases same : entry.key = driven.entry.key <;> simp [Option.guard, same]
  simp only [settle, Registry.remove, Registry.put, each]
  rw [← List.filterMap_eq_filter, List.filterMap_map]
  rfl

/-- An event of a stream settles the entry that it drives, and does no more. -/
theorem handle_eq {readiness : Readiness} (quiet : ∀ backlog, readiness ≠ .listener backlog)
    (server : Server) (now : Moment)
    : server.handle now readiness
      = match server.fate? now readiness with
        | none => ⟨server, []⟩
        | some driven => ⟨server.conclude driven, driven.effects⟩ := by
  cases readiness with
  | listener backlog => exact absurd rfl (quiet backlog)
  | waker => rfl
  | stream event =>
      rw [handle, handleStream, fate?]
      cases resolved : (Registry.idFor? event.token).bind server.registry.find? with
      | none => rfl
      | some entry =>
          obtain ⟨key, own, found⟩ := Option.bind_eq_some_iff.mp resolved
          obtain ⟨_, rfl⟩ := Registry.mem_of_find? found
          dsimp only [Option.map_some, Step.andThen]
          have same := (drive_called event server.hello now entry).1
          generalize drive event server.hello now entry = driven at same ⊢
          have put : (server.registry.put driven.entry).find? entry.key = some driven.entry := by
            rw [Registry.find?_put, if_pos same, found]
            rfl
          rw [conclude, Driven.effects, Driven.ending]
          cases failed : driven.failure with
          | none =>
              dsimp only
              rw [put_eq_settle failed, List.append_nil, same]
              simp
          | some failure =>
              dsimp only
              rw [teardown_of_some put, ← same, remove_put_eq_settle failed, recordTeardown_eq]

-----------------------------------------------------------------------------------------
-- What two events do
-----------------------------------------------------------------------------------------

theorem Driven.not_kept_for {driven : Driven} {id : SessionId}
    (other : driven.entry.key ≠ id)
    : (driven.kept?.any fun entry => decide (entry.key = id)) = false := by
  cases kept : driven.kept? with
  | none => rfl
  | some entry => simpa [key_of_kept kept] using other

theorem find?_settle {driven : Driven} {id : SessionId} (other : driven.entry.key ≠ id)
    (registry : Registry)
    : (settle registry driven).find? id = registry.find? id := by
  have each (entry : Entry)
      : ((if entry.key = driven.entry.key then driven.kept? else some entry).any
          fun entry => decide (entry.key = id))
        = decide (entry.key = id) := by
    by_cases same : entry.key = driven.entry.key
    · rw [if_pos same, Driven.not_kept_for other, same, decide_eq_false other]
    · rw [if_neg same, Option.any_some]
  rw [settle, Registry.find?, Registry.find?, List.find?_filterMap]
  simp only [each]
  cases found : registry.entries.find? fun entry => decide (entry.key = id) with
  | none => rfl
  | some entry =>
      obtain ⟨_, rfl⟩ := Registry.mem_of_find? found
      rw [Option.bind_some, if_neg (Ne.symm other)]

/-- Entries of different sessions may be settled in any order. -/
theorem settle_comm {left right : Driven} (different : left.entry.key ≠ right.entry.key)
    (registry : Registry)
    : settle (settle registry left) right = settle (settle registry right) left := by
  have passes {driven other : Driven} (apart : driven.entry.key ≠ other.entry.key)
      : (driven.kept?.bind fun entry =>
          if entry.key = other.entry.key then other.kept? else some entry)
        = driven.kept? := by
    cases kept : driven.kept? with
    | none => rfl
    | some entry =>
        rw [Option.bind_some, if_neg (by rwa [Driven.key_of_kept kept])]
  simp only [settle, List.filterMap_filterMap]
  refine congrArg (Registry.mk _ _) (List.filterMap_congr fun entry _ => ?_)
  by_cases first : entry.key = left.entry.key
  · have second : entry.key ≠ right.entry.key := first ▸ different
    rw [if_pos first, if_neg second, passes different, Option.bind_some, if_pos first]
  · rw [if_neg first, Option.bind_some]
    by_cases second : entry.key = right.entry.key
    · rw [if_pos second, passes (Ne.symm different)]
    · rw [if_neg second, Option.bind_some, if_neg first]

theorem conclude_hello (server : Server) (driven : Driven)
    : (server.conclude driven).hello = server.hello := by
  rw [conclude]
  split <;> rfl

theorem conclude_registry (server : Server) (driven : Driven)
    : (server.conclude driven).registry = settle server.registry driven := by
  rw [conclude]
  split <;> rfl

/-- What entries of different sessions come to may be concluded in any order. -/
theorem conclude_comm {left right : Driven} (different : left.entry.key ≠ right.entry.key)
    (server : Server)
    : (server.conclude left).conclude right = (server.conclude right).conclude left := by
  have registry := settle_comm different server.registry
  cases leftFailed : left.failure <;> cases rightFailed : right.failure <;>
    simp only [conclude, leftFailed, rightFailed, afterTeardown, writeStatus, registry]
  rw [Status.Shared.write_disconnected_comm]

/-- An event finds the same entry behind what an event of another session has come to. -/
theorem fate?_conclude {server : Server} {now : Moment} {readiness : Readiness}
    {driven : Driven} (other : readiness.session? ≠ some driven.entry.key)
    : (server.conclude driven).fate? now readiness = server.fate? now readiness := by
  cases readiness with
  | listener _ => rfl
  | waker => rfl
  | stream event =>
      rw [fate?, fate?, conclude_hello, conclude_registry]
      cases own : Registry.idFor? event.token with
      | none => rfl
      | some id =>
          rw [Readiness.session?, own] at other
          rw [Option.bind_some, Option.bind_some,
            find?_settle fun same => other (congrArg some same.symm)]

-----------------------------------------------------------------------------------------
-- Batches
-----------------------------------------------------------------------------------------

/-- What the events of a batch come to, each as it finds the server before the batch. -/
def fates (server : Server) (now : Moment) (batch : List Readiness) : List Driven :=
  batch.filterMap (server.fate? now)

/-- A batch has no new connections, and at most one event for each session. -/
structure Readiness.Apart (batch : List Readiness) : Prop where
  quiet : ∀ backlog, .listener backlog ∉ batch
  distinct : (batch.filterMap session?).Nodup

theorem Readiness.Apart.perm {batch other : List Readiness} (apart : Apart batch)
    (perm : batch.Perm other)
    : Apart other where
  quiet backlog member := apart.quiet backlog (perm.mem_iff.mpr member)
  distinct := (perm.filterMap session?).nodup_iff.mp apart.distinct

theorem Readiness.Apart.tail {readiness : Readiness} {batch : List Readiness}
    (apart : Apart (readiness :: batch))
    : Apart batch where
  quiet backlog member := apart.quiet backlog (List.mem_cons_of_mem readiness member)
  distinct := by
    have distinct := apart.distinct
    rw [List.filterMap_cons] at distinct
    split at distinct
    · exact distinct
    · exact distinct.of_cons

/-- No other event is for the session of the first one. -/
theorem Readiness.Apart.session_ne {readiness other : Readiness} {batch : List Readiness}
    (apart : Apart (readiness :: batch)) {id : SessionId}
    (own : readiness.session? = some id) (member : other ∈ batch)
    : other.session? ≠ some id := by
  intro same
  have distinct := apart.distinct
  rw [List.filterMap_cons_some own, List.nodup_cons] at distinct
  exact distinct.1 (List.mem_filterMap.mpr ⟨other, member, same⟩)

/-- Each event of such a batch does what it would do first. By induction on the batch. -/
theorem dispatch_eq {batch : List Readiness} (apart : Readiness.Apart batch) (server : Server)
    (now : Moment)
    : server.dispatch now batch
      = ⟨(server.fates now batch).foldl conclude server,
          (server.fates now batch).flatMap Driven.effects⟩ := by
  induction batch generalizing server with
  | nil => rfl
  | cons readiness rest ih =>
      have quiet backlog : readiness ≠ .listener backlog := fun same =>
        apart.quiet backlog (same ▸ List.mem_cons_self)
      have handled := handle_eq quiet server now
      have both
          : server.dispatch now (readiness :: rest)
            = (server.handle now readiness).andThen (dispatch now rest) := rfl
      cases fate : server.fate? now readiness with
      | none =>
          rw [fate] at handled
          rw [both, handled, fates, List.filterMap_cons_none fate, Step.andThen,
            ih apart.tail]
          rfl
      | some driven =>
          rw [fate] at handled
          have later : (server.conclude driven).fates now rest = server.fates now rest :=
            List.filterMap_congr fun other member =>
              fate?_conclude (apart.session_ne (fate?_key fate) member)
          rw [both, handled, fates, List.filterMap_cons_some fate, Step.andThen]
          dsimp only
          rw [ih apart.tail, later]
          rfl

/-- Events of different sessions come to different entries. -/
theorem fates_pairwise {batch : List Readiness} (apart : Readiness.Apart batch)
    (server : Server) (now : Moment)
    : (server.fates now batch).Pairwise fun left right =>
        left.entry.key ≠ right.entry.key := by
  have distinct := apart.distinct
  rw [List.Nodup, List.pairwise_filterMap] at distinct
  rw [fates, List.pairwise_filterMap]
  refine distinct.imp fun differ left leftFate right rightFate => ?_
  exact differ _ (fate?_key leftFate) _ (fate?_key rightFate)

/-- What events of different sessions come to may be gone through in any order by work that does
not tell the order of two of them.
-/
theorem foldl_fates_perm {β : Type} {work : β → Driven → β}
    (comm
      : ∀ {left right : Driven},
          left.entry.key ≠ right.entry.key
          → ∀ state, work (work state left) right = work (work state right) left)
    {fates others : List Driven}
    (apart : fates.Pairwise fun left right => left.entry.key ≠ right.entry.key)
    (perm : fates.Perm others) (state : β)
    : fates.foldl work state = others.foldl work state := by
  have symm : Std.Symm fun left right : Driven => left.entry.key ≠ right.entry.key :=
    ⟨fun _ _ => Ne.symm⟩
  refine perm.foldl_eq' (fun left leftMember right rightMember state => ?_) state
  by_cases same : left = right
  · rw [same]
  · exact comm (apart.forall leftMember rightMember same) state

/-- The bytes that effects write to the stream of a session, in order. -/
def writtenTo (id : SessionId) (effects : List Effect) : Bytes :=
  effects.flatMap fun effect =>
    match effect with
    | .wrote key bytes => if key = id then bytes else []
    | _ => []

theorem writtenTo_effects (id : SessionId) (driven : Driven)
    : writtenTo id driven.effects = if driven.entry.key = id then driven.written else [] := by
  have silent : writtenTo id driven.ending = [] := by
    rw [Driven.ending]
    split <;> rfl
  have both
      : writtenTo id driven.effects
        = writtenTo id
            (if driven.written.isEmpty then [] else [.wrote driven.entry.key driven.written])
          ++ writtenTo id driven.ending :=
    List.flatMap_append
  rw [both, silent, List.append_nil]
  cases driven.written <;> simp [writtenTo]

theorem writtenTo_flatMap (id : SessionId) (fates : List Driven)
    : writtenTo id (fates.flatMap Driven.effects)
      = fates.foldl
          (fun before driven => before ++ if driven.entry.key = id then driven.written else [])
          [] := by
  simp only [← writtenTo_effects, ← List.flatMap_eq_foldl]
  rw [writtenTo, List.flatMap_assoc]
  rfl

/-- The order of a batch that has no new connections and at most one event for each session is
of no consequence: in any other order it leaves the same server, with the same sessions, the
same counts and the same status, and does the same outside but for its order, so that the
same bytes are written to each stream. Events of sessions that have gone, of no session and of
the waker may be anywhere among the others.
-/
theorem dispatch_perm {batch other : List Readiness} (apart : Readiness.Apart batch)
    (perm : batch.Perm other) (server : Server) (now : Moment)
    : (server.dispatch now batch).server = (server.dispatch now other).server
      ∧ (server.dispatch now batch).effects.Perm (server.dispatch now other).effects
      ∧ ∀ id,
          writtenTo id (server.dispatch now batch).effects
          = writtenTo id (server.dispatch now other).effects := by
  have pairwise := fates_pairwise apart server now
  have fates : (server.fates now batch).Perm (server.fates now other) := perm.filterMap _
  rw [dispatch_eq apart, dispatch_eq (apart.perm perm)]
  refine ⟨?_, fates.flatMap_right _, fun id => ?_⟩
  · exact foldl_fates_perm conclude_comm pairwise fates server
  · rw [writtenTo_flatMap, writtenTo_flatMap]
    refine foldl_fates_perm (fun {left right} different before => ?_) pairwise fates []
    -- At most one of the two writes to this stream.
    by_cases own : left.entry.key = id
    · have stranger : right.entry.key ≠ id := own ▸ Ne.symm different
      rw [if_neg stranger, List.append_nil, List.append_nil]
    · rw [if_neg own, List.append_nil, List.append_nil]

/-- One of two clients hangs up while the other one is confirmed. Backwards it is the same, with
events of a session that has gone, of no session and of the waker among them.
-/
theorem dispatch_perm_backwards
    : let connects : List AcceptOutcome := [.connection (.v4 ⟨192, 168, 1, 20⟩ 41000) true]
      let hangup (token : Registry.Token) : Readiness := .stream { token, hangup := true }
      let handshake : StreamEvent :=
        {
          token := 18
          readable := true
          writable := true
          reads := [.bytes [8, 0, 0, 0, 1, 0, 0x88, 0x13, 0, 0, 0, 0]]
          writes := [.accepted 12]
        }
      let batch : List Readiness :=
        [hangup 19, hangup 17, .waker, .stream handshake, .stream { token := 5, readable := true }]
      let first :=
        ((start { maxSessions := 2 } 5000 {}).iterate
          { now := 1, batch := [.listener connects] }).server
      let server :=
        (first.iterate
          { now := 2, batch := [hangup 17, .listener (connects ++ connects)] }).server
      let forwards := server.dispatch 3 batch
      let backwards := server.dispatch 3 batch.reverse
      server.registry.ids = [⟨2⟩, ⟨3⟩]
      ∧ forwards.server = backwards.server
      ∧ forwards.server.registry.ids = [⟨2⟩]
      ∧ forwards.effects ≠ backwards.effects
      ∧ writtenTo ⟨2⟩ backwards.effects = writtenTo ⟨2⟩ forwards.effects
      ∧ writtenTo ⟨2⟩ forwards.effects = [8, 0, 0, 0, 1, 1, 0x88, 0x13, 25, 0, 0, 0] := by
  intro connects hangup handshake batch first server forwards backwards
  have apart : Readiness.Apart batch := ⟨by simp [batch, hangup], by decide +kernel⟩
  obtain ⟨same, _, written⟩ := dispatch_perm apart batch.reverse_perm.symm server 3
  exact ⟨by decide +kernel, same, by decide +kernel, by decide +kernel, (written ⟨2⟩).symm,
    by decide +kernel⟩

end Server

end Handheld
