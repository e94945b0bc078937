import Handheld.Proofs.Server.Accounts

/-! Runs round by round. A run keeps the server from which each of its rounds started, so that
what a run did is told by the list of its rounds. Main statements: an effect belongs to one
stage of a round, and a number that was given is never given again.
-/

namespace Handheld

/-- In an ordered list everything but the last element is before it. -/
theorem eq_or_rel_getLast {α : Type} {Before : α → α → Prop} {elements : List α}
    (ordered : elements.Pairwise Before) {last element : α}
    (isLast : elements.getLast? = some last) (member : element ∈ elements)
    : element = last ∨ Before element last := by
  obtain ⟨others, rfl⟩ := List.getLast?_eq_some_iff.mp isLast
  rcases List.mem_append.mp member with other | same
  · exact .inr ((List.pairwise_append.mp ordered).2.2 element other last List.mem_cons_self)
  · exact .inl (List.mem_singleton.mp same)

-----------------------------------------------------------------------------------------
-- Numbers that have been given
-----------------------------------------------------------------------------------------

namespace Registry

theorem mem_ids_iff {registry : Registry} {id : SessionId}
    : id ∈ registry.ids ↔ (registry.find? id).isSome := by
  simp [ids, find?, List.find?_isSome]

/-- A session that has gone does not come back, by induction on the changes. -/
theorem Evolves.find?_eq_none {registry next : Registry} (evolves : Evolves registry next)
    {id : SessionId} (given : id.number < registry.next)
    (absent : registry.find? id = none)
    : next.find? id = none := by
  induction evolves with
  | refl => exact absent
  | trans left _ leftGone rightGone =>
      exact rightGone (Nat.lt_of_lt_of_le given left.next_le) (leftGone given absent)
  | accept registry peer now => rw [find?_accept given, absent]
  | change found calls later =>
      rw [find?_put, absent]
      split <;> rfl
  | remove registry removed =>
      rw [find?_remove, absent]
      split <;> rfl
  | drain registry => rfl

end Registry

namespace Server

/-- What was admitted has a number that has been given. -/
theorem Trace.admitted_known {server next : Server} {effects : List Effect}
    (trace : Trace server effects next) {id : SessionId}
    (admitted : id ∈ effects.filterMap Effect.admitted?)
    : id.number < next.registry.next := by
  induction trace with
  | admission taken =>
      obtain ⟨_, rfl, rfl⟩ := Registry.accept_eq_admitted taken
      simp only [List.filterMap_cons, Effect.admitted?, List.filterMap_nil,
        List.mem_singleton] at admitted
      subst admitted
      exact Nat.lt_succ_self _
  | teardown _ _ _ => simp [Effect.admitted?] at admitted
  | change _ _ plain => simp [(filterMap_of_silent plain.silent).1] at admitted
  | aside _ _ silent => simp [(filterMap_of_silent silent).1] at admitted
  | append _ right earlier later =>
      rw [List.filterMap_append, List.mem_append] at admitted
      rcases admitted with admitted | admitted
      · exact Nat.lt_of_lt_of_le (earlier admitted) right.evolves.next_le
      · exact later admitted

/-- What has ended is gone, by induction on the work. -/
theorem Trace.ended_gone {server next : Server} {effects : List Effect}
    (trace : Trace server effects next) (wellFormed : server.registry.WellFormed)
    {id : SessionId} (ended : id ∈ effects.filterMap Effect.ended?)
    : id.number < next.registry.next ∧ next.registry.find? id = none := by
  induction trace with
  | admission _ => simp [Effect.ended?] at ended
  | @teardown server entry found _ _ =>
      have held := (Registry.mem_of_find? found).1
      simp only [List.filterMap_cons, Effect.ended?, List.filterMap_nil, List.mem_singleton,
        wellFormed.own entry held] at ended
      subst ended
      refine ⟨wellFormed.below _ (List.mem_map_of_mem held), ?_⟩
      exact (Registry.find?_remove _ _ _).trans (if_pos rfl)
  | change _ _ plain => simp [(filterMap_of_silent plain.silent).2] at ended
  | aside _ _ silent => simp [(filterMap_of_silent silent).2] at ended
  | append left right earlier later =>
      rw [List.filterMap_append, List.mem_append] at ended
      rcases ended with ended | ended
      · obtain ⟨given, absent⟩ := earlier wellFormed ended
        exact ⟨Nat.lt_of_lt_of_le given right.evolves.next_le,
          right.evolves.find?_eq_none given absent⟩
      · exact later (left.evolves.wellFormed wellFormed) ended

/-- A session that is new has been admitted, since the accounts balance. -/
theorem Trace.admitted_of_new {server next : Server} {effects : List Effect}
    (trace : Trace server effects next) (wellFormed : server.registry.WellFormed)
    {id : SessionId} (absent : server.registry.find? id = none)
    (live : (next.registry.find? id).isSome)
    : id ∈ effects.filterMap Effect.admitted? := by
  have balanced := (trace.accounts wellFormed).ids_perm
  have there : id ∈ server.registry.ids ++ effects.filterMap Effect.admitted? :=
    balanced.subset (List.mem_append_left _ (Registry.mem_ids_iff.mpr live))
  refine (List.mem_append.mp there).resolve_left fun old => ?_
  rw [Registry.mem_ids_iff, absent] at old
  cases old

/-- A session that was there or came, and is not there now, has ended, for the same reason. -/
theorem Trace.ended_of_absent {server next : Server} {effects : List Effect}
    (trace : Trace server effects next) (wellFormed : server.registry.WellFormed)
    {id : SessionId}
    (present
      : (server.registry.find? id).isSome ∨ id ∈ effects.filterMap Effect.admitted?)
    (absent : next.registry.find? id = none)
    : id ∈ effects.filterMap Effect.ended? := by
  have balanced := (trace.accounts wellFormed).ids_perm
  have there : id ∈ server.registry.ids ++ effects.filterMap Effect.admitted? := by
    rw [List.mem_append, Registry.mem_ids_iff]
    exact present
  refine (List.mem_append.mp (balanced.symm.subset there)).resolve_left fun kept => ?_
  rw [Registry.mem_ids_iff, absent] at kept
  cases kept

/-- A session that is gone has ended. -/
theorem Trace.ended_of_gone {server next : Server} {effects : List Effect}
    (trace : Trace server effects next) (wellFormed : server.registry.WellFormed)
    {id : SessionId} (live : (server.registry.find? id).isSome)
    (absent : next.registry.find? id = none)
    : id ∈ effects.filterMap Effect.ended? :=
  trace.ended_of_absent wellFormed (.inl live) absent

-----------------------------------------------------------------------------------------
-- Stages of a round
-----------------------------------------------------------------------------------------

/-- What a round is made of, in order. -/
inductive Stage
  | link
  | dispatch
  | sweep
  | telemetry
  deriving DecidableEq

/-- The stage of a round that has an effect. The end of the loop is no part of a round, and
events are raised in any stage.
-/
def Effect.stage? : Effect → Option Stage
  | .admitted _ _ => some .dispatch
  | .rejected _ => some .dispatch
  | .ignored _ => some .dispatch
  | .unregistered _ => some .dispatch
  | .wrote _ _ => some .dispatch
  | .disconnected _ _ (.failure _) => some .dispatch
  | .disconnected _ _ .heartbeatTimeout => some .sweep
  | .disconnected _ _ .linkDown => some .link
  | .disconnected _ _ .shutdown => none
  | .raised _ => none
  | .closed => some .link
  | .bound _ => some .link
  | .bindFailed => some .link
  | .sampled => some .telemetry
  | .sent _ _ _ _ => some .telemetry

/-- All effects of a step but the events that it raises belong to a stage. -/
def Step.Of (stage : Stage) (step : Step) : Prop :=
  ∀ effect ∈ step.effects, effect.raised? = none → effect.stage? = some stage

/-- An effect of work on a list is one of the work on some element of it, by induction on the
list.
-/
theorem Step.exists_of_mem_forEach {α : Type} {work : α → Server → Step} {elements : List α}
    {server : Server} {effect : Effect}
    (member : effect ∈ (forEach work elements server).effects)
    : ∃ element ∈ elements, ∃ server, effect ∈ (work element server).effects := by
  induction elements generalizing server with
  | nil => cases member
  | cons element rest ih =>
      rcases List.mem_append.mp member with first | later
      · exact ⟨element, List.mem_cons_self, server, first⟩
      · obtain ⟨other, listed, at_, found⟩ := ih later
        exact ⟨other, List.mem_cons_of_mem element listed, at_, found⟩

namespace Step.Of

variable {stage : Stage} {server : Server}

theorem nil : Of stage ⟨server, []⟩ := by simp [Of]

theorem single {effect : Effect} (own : effect.stage? = some stage)
    : Of stage ⟨server, [effect]⟩ := by
  simp [Of, own]

/-- What is raised belongs to any stage. -/
theorem tell (update : Status.Update) : Of stage (server.tell update) := by
  rw [Server.tell]
  intro effect member other
  split at member
  · cases member
  · rw [List.mem_singleton.mp member] at other
    cases other

theorem andThen {step : Step} {work : Server → Step} (first : Of stage step)
    (later : Of stage (work step.server))
    : Of stage (step.andThen work) := by
  intro effect member
  rcases List.mem_append.mp member with member | member
  · exact first effect member
  · exact later effect member

theorem forEach {α : Type} {work : α → Server → Step}
    (each : ∀ element server, Of stage (work element server)) (elements : List α)
    : Of stage (forEach work elements server) := by
  intro effect member
  obtain ⟨element, _, server, found⟩ := exists_of_mem_forEach member
  exact each element server effect found

end Step.Of

open Step (Of)

theorem teardown_of {stage : Stage} {reason : TeardownReason}
    (own : ∀ session level, (Effect.disconnected session level reason).stage? = some stage)
    (id : SessionId) (server : Server)
    : Of stage (server.teardown id reason) := by
  rw [teardown]
  split
  · exact .nil
  · exact (Of.single (own _ _)).andThen (.tell _)

theorem handleLink_of (now : Moment) (port : Option UInt16) (server : Server)
    : Of .link (server.handleLink now port) := by
  have follows (state : LinkState) (server : Server) : Of .link (server.followLink state) := by
    cases state with
    | up => exact (Of.tell _).andThen .nil
    | down =>
        have torn (server : Server) : Of .link (server.teardownAll .linkDown) :=
          .forEach (fun _ _ => (Of.single rfl).andThen (.tell _)) _
        have closes (server : Server) : Of .link server.closeSockets := by
          rw [closeSockets]
          split
          · exact .single rfl
          · exact .nil
        exact ((torn server).andThen (closes _)).andThen (.tell _)
  refine Of.andThen (.forEach follows _) ?_
  split
  · cases port <;> exact .single rfl
  · exact .nil

theorem acceptAll_of (now : Moment) (backlog : List AcceptOutcome) (server : Server)
    : Of .dispatch (server.acceptAll now backlog) := by
  have welcomes (address : SocketAddress) (registers : Bool) (server : Server)
      : Of .dispatch (server.welcome now address registers) := by
    rw [welcome]
    split
    · exact .single rfl
    · split
      · exact .single rfl
      · split
        · exact (Of.single rfl).andThen (.tell _)
        · exact .single rfl
  induction backlog generalizing server with
  | nil => exact .nil
  | cons outcome rest ih =>
      rw [acceptAll.eq_def]
      dsimp only
      split
      · exact .nil
      · cases outcome with
        | connection address registers => exact (welcomes address registers server).andThen (ih _)
        | interrupted => exact ih server
        | wouldBlock => exact .nil
        | failed => exact .nil

theorem dispatch_of (now : Moment) (batch : List Readiness) (server : Server)
    : Of .dispatch (server.dispatch now batch) := by
  refine .forEach (fun readiness server => ?_) batch
  cases readiness with
  | listener backlog => exact acceptAll_of now backlog server
  | waker => exact .nil
  | stream event =>
      rw [handle, handleStream]
      split
      · exact .nil
      · refine Of.andThen ?_ ?_
        · split
          · exact .nil
          · exact .single rfl
        · dsimp only
          split
          · exact .nil
          · exact teardown_of (fun _ _ => rfl) _ _

theorem sweep_of (now : Moment) (server : Server) : Of .sweep (server.sweep now) :=
  .forEach (teardown_of fun _ _ => rfl) _

theorem pushTelemetry_of (now : Moment) (frame : Frame) (send : SessionId → SendOutcome)
    (server : Server)
    : Of .telemetry (server.pushTelemetry now frame send) := by
  have sends (bytes : Bytes) (id : SessionId) (server : Server)
      : Of .telemetry (server.sendTo now bytes send id) := by
    rw [sendTo]
    split
    · exact .nil
    · split
      · exact .nil
      · exact .single rfl
  rw [pushTelemetry]
  dsimp only
  split
  · exact .nil
  · exact ((Of.single rfl).andThen (.tell _)).andThen (.forEach (sends _) _)

-----------------------------------------------------------------------------------------
-- Runs
-----------------------------------------------------------------------------------------

/-- A round of a run: the server from which it started, and what the outside gave it. -/
structure Round where
  server : Server
  occasion : Occasion

namespace Round

def now (round : Round) : Moment := round.occasion.now

/-- The round up to the dispatch. -/
def linked (round : Round) : Step :=
  round.server.handleLink round.now round.occasion.port

/-- The round up to the sweep. -/
def dispatched (round : Round) : Step :=
  round.linked.andThen (dispatch round.now round.occasion.batch)

/-- The round up to its telemetry. -/
def swept (round : Round) : Step := round.server.beforeTelemetry round.occasion

/-- The whole round. -/
def step (round : Round) : Step := round.server.iterate round.occasion

theorem linked_evolves (round : Round)
    : Registry.Evolves round.server.registry round.linked.server.registry :=
  handleLink_evolves _ _ _

theorem dispatched_evolves (round : Round)
    : Registry.Evolves round.server.registry round.dispatched.server.registry :=
  round.linked_evolves.trans (dispatch_serves _ _ _).evolves

theorem swept_evolves (round : Round)
    : Registry.Evolves round.server.registry round.swept.server.registry :=
  round.linked_evolves.trans (beforeTelemetry_serves _ _).evolves

/-- What a stage of the round does outside. -/
def effectsOf (round : Round) : Stage → List Effect
  | .link => round.linked.effects
  | .dispatch => (round.linked.server.dispatch round.now round.occasion.batch).effects
  | .sweep => (round.dispatched.server.sweep round.now).effects
  | .telemetry =>
      (round.swept.server.pushTelemetry round.now round.occasion.frame
        round.occasion.send).effects

theorem effects_eq (round : Round)
    : round.step.effects
      = ((round.effectsOf .link ++ round.effectsOf .dispatch) ++ round.effectsOf .sweep)
        ++ round.effectsOf .telemetry := rfl

theorem stage?_of_mem {round : Round} {stage : Stage} {effect : Effect}
    (member : effect ∈ round.effectsOf stage) (other : effect.raised? = none)
    : effect.stage? = some stage := by
  cases stage with
  | link => exact handleLink_of _ _ _ effect member other
  | dispatch => exact dispatch_of _ _ _ effect member other
  | sweep => exact sweep_of _ _ effect member other
  | telemetry => exact pushTelemetry_of _ _ _ _ effect member other

/-- An effect of a round belongs to its own stage and comes from no other. -/
theorem mem_step_iff {round : Round} {stage : Stage} {effect : Effect}
    (own : effect.stage? = some stage)
    : effect ∈ round.step.effects ↔ effect ∈ round.effectsOf stage := by
  have unraised : effect.raised? = none := by
    cases effect with
    | raised _ => cases own
    | _ => rfl
  have only {other : Stage} (member : effect ∈ round.effectsOf other)
      : effect ∈ round.effectsOf stage := by
    have same : other = stage :=
      Option.some.inj ((stage?_of_mem member unraised).symm.trans own)
    exact same ▸ member
  simp only [effects_eq, List.mem_append]
  constructor
  · rintro (((member | member) | member) | member) <;> exact only member
  · intro member
    cases stage with
    | link => exact .inl (.inl (.inl member))
    | dispatch => exact .inl (.inl (.inr member))
    | sweep => exact .inl (.inr member)
    | telemetry => exact .inr member

end Round

/-- The runs from one server, with their rounds in order. -/
inductive Run (first : Server) : List Round → Server → Prop
  | start : Run first [] first
  | meet {rounds : List Round} {server : Server} (run : Run first rounds server)
    (outside : Outside)
    : Run first rounds (server.meet outside)
  | round {rounds : List Round} {server : Server} (run : Run first rounds server)
    (occasion : Occasion)
    : Run first (rounds ++ [⟨server, occasion⟩]) (server.iterate occasion).server
  | shutdown {rounds : List Round} {server : Server} (run : Run first rounds server)
    : Run first rounds server.shutdown.server

namespace Run

variable {first server : Server} {rounds : List Round}

theorem reachable (run : Run first rounds server) (reachable : first.Reachable)
    : server.Reachable := by
  induction run with
  | start => exact reachable
  | meet _ outside ih => exact .meet ih outside
  | round _ occasion ih => exact .round ih occasion
  | shutdown _ ih => exact .shutdown ih

/-- A run has led to the server from which any of its rounds started, by induction on the
run.
-/
theorem before (run : Run first rounds server) {before after : List Round} {round : Round}
    (split : rounds = before ++ round :: after)
    : Run first before round.server := by
  induction run generalizing after with
  | start => simp at split
  | meet _ _ ih => exact ih split
  | @round rounds server run occasion ih =>
      rcases after.eq_nil_or_concat with rfl | ⟨after, last, rfl⟩
      · obtain ⟨rfl, last⟩ := List.append_inj' split rfl
        obtain rfl := List.cons.inj last |>.1
        exact run
      · rw [List.concat_eq_append, ← List.cons_append, ← List.append_assoc] at split
        exact ih (List.append_inj' split rfl).1
  | shutdown _ ih => exact ih split

/-- The settings stay as they were at the start. -/
theorem settings_eq (run : Run first rounds server) (reachable : first.Reachable)
    : server.settings = first.settings := by
  induction run with
  | start => rfl
  | meet _ outside ih => cases outside <;> exact ih
  | round run occasion ih =>
      have wellFormed := (run.reachable reachable).wellFormed
      exact (iterate_traced occasion wellFormed).settings_eq.trans ih
  | shutdown run ih =>
      have wellFormed := (run.reachable reachable).wellFormed
      exact (shutdown_traced wellFormed).settings_eq.trans ih

/-- Numbers that are still to be given were so in every round, by induction on the run. -/
theorem next_le (run : Run first rounds server)
    : ∀ round ∈ rounds, round.step.server.registry.next ≤ server.registry.next := by
  induction run with
  | start => simp
  | meet _ outside ih =>
      rw [meet_registry]
      exact ih
  | round run occasion ih =>
      intro round member
      rcases List.mem_append.mp member with earlier | last
      · exact Nat.le_trans (ih round earlier) (iterate_evolves occasion _).next_le
      · rw [List.mem_singleton.mp last]
        exact Nat.le_refl _
  | shutdown run ih =>
      intro round member
      exact Nat.le_trans (ih round member) (teardownAll_serves .shutdown _).evolves.next_le

/-- Each round of a run started from a server that a run can reach, and gave no number that is
still to be given.
-/
theorem of_mem (run : Run first rounds server) (reachable : first.Reachable) {round : Round}
    (member : round ∈ rounds)
    : round.server.Reachable
      ∧ round.step.server.registry.next ≤ server.registry.next := by
  obtain ⟨before, after, split⟩ := List.append_of_mem member
  exact ⟨(run.before split).reachable reachable, run.next_le round member⟩

end Run

end Server

end Handheld
