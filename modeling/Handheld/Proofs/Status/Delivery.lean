import Mathlib.Logic.Function.Basic
import Handheld.Status.Shared

/-! How changes of the status reach a reader while many tasks write. A write stores its value
first and raises its events afterwards; the reader first takes the events and then looks.
Main statement: in whatever order these steps come, when nobody stands between two steps and
no event is pending, the reader has seen what holds.
-/

namespace Handheld

namespace Status

-----------------------------------------------------------------------------------------
-- Topics
-----------------------------------------------------------------------------------------

/-- What the events of the status are about. -/
inductive Topic
  | battery
  | charger
  | wifi
  | link
  | client
  deriving DecidableEq

/-- The topic of a write; a frame has none. -/
def Update.topic? : Update → Option Topic
  | .battery _ => some .battery
  | .charger _ => some .charger
  | .wifi _ => some .wifi
  | .link _ => some .link
  | .clientConnected _ => some .client
  | .clientDisconnected _ => some .client
  | .frame _ => none

namespace Topic

/-- The events that tell of a topic. -/
def events : Topic → Events
  | battery => .battery
  | charger => .charger
  | wifi => .wifi
  | link => .linkUp ||| .linkDown
  | client => .clientConnected ||| .clientDisconnected

/-- Two views show the same of a topic. -/
def Same : Topic → View → View → Prop
  | battery, left, right => left.battery = right.battery
  | charger, left, right => left.charger = right.charger
  | wifi, left, right => left.wifi = right.wifi
  | link, left, right => left.linkUp = right.linkUp
  | client, left, right => left.clientIp = right.clientIp

/-- Some of a set of events tell of a topic. -/
def ToldBy (topic : Topic) (events : Events) : Prop := events &&& topic.events ≠ .none

instance (topic : Topic) : DecidablePred topic.ToldBy :=
  fun events => inferInstanceAs (Decidable (events &&& topic.events ≠ .none))

theorem Same.refl (topic : Topic) (view : View) : topic.Same view view := by
  cases topic <;> rfl

theorem Same.trans {topic : Topic} {first second third : View}
    (left : topic.Same first second) (right : topic.Same second third)
    : topic.Same first third := by
  cases topic <;> exact Eq.trans left right

theorem not_toldBy_none (topic : Topic) : ¬topic.ToldBy .none := by
  cases topic <;> decide

theorem toldBy_or {topic : Topic} {left right : Events}
    : topic.ToldBy (left ||| right) ↔ topic.ToldBy left ∨ topic.ToldBy right := by
  have parts
      : (left ||| right) &&& topic.events
        = (left &&& topic.events) ||| (right &&& topic.events) := by
    apply UInt32.eq_of_toBitVec_eq
    simp [BitVec.and_or_distrib_right]
  simp only [ToldBy, parts, Events.none, ne_eq, UInt32.or_eq_zero_iff, not_and_or]

/-- A write leaves what it is not about. -/
theorem same_write_of_ne {topic : Topic} {update : Update} (other : update.topic? ≠ some topic)
    (view : View)
    : topic.Same view (view.write update) := by
  cases update with
  | clientDisconnected ip =>
      simp only [View.write]
      split
      · cases topic with
        | client => exact absurd rfl other
        | _ => rfl
      · exact .refl topic view
  | _ => cases topic <;> first | rfl | exact absurd rfl other

/-- A write that changes a topic raises an event that tells of it. -/
theorem same_write_or_toldBy (topic : Topic) (view : View) (update : Update)
    : topic.Same view (view.write update) ∨ topic.ToldBy (view.raised update) := by
  by_cases own : update.topic? = some topic
  · cases update with
    | frame frame => cases own
    | clientConnected ip =>
        cases own
        exact .inr (show ToldBy .client .clientConnected by decide)
    | clientDisconnected ip =>
        cases own
        exact .inr (show ToldBy .client .clientDisconnected by decide)
    | link up =>
        cases own
        simp only [View.raised]
        split
        next same => exact .inl same
        next => exact .inr (by split <;> decide)
    | battery value | charger value | wifi value =>
        cases own
        simp only [View.raised]
        split
        next same => exact .inl same
        next => exact .inr (by decide)
  · exact .inl (same_write_of_ne own view)

end Topic

/-- Two views show the same of everything that events tell of. -/
structure View.Agrees (left right : View) : Prop where
  battery_eq : left.battery = right.battery
  charger_eq : left.charger = right.charger
  wifi_eq : left.wifi = right.wifi
  linkUp_eq : left.linkUp = right.linkUp
  clientIp_eq : left.clientIp = right.clientIp

-----------------------------------------------------------------------------------------
-- Writers and a reader
-----------------------------------------------------------------------------------------

/-- A shared status with its writers and its reader, each perhaps between two steps. -/
structure Exchange (ω : Type) where
  shared : Shared
  /-- What a writer has still to raise when it has stored its value. -/
  raising : ω → Option Events := fun _ => none
  /-- The reader has taken events and not looked yet. -/
  looking : Bool := false
  /-- What the reader saw last. -/
  seen : View

/-- One step of a task. -/
inductive Move (ω : Type)
  /-- A writer stores a value. -/
  | store (writer : ω) (update : Update)
  /-- A writer raises the events of the value that it has stored, if it has any to raise. -/
  | raise (writer : ω)
  /-- The reader takes the pending events, perhaps after a wait. -/
  | take
  /-- The reader looks at the view. -/
  | look

namespace Exchange

variable {ω : Type} [DecidableEq ω]

/-- At the start nobody stands between two steps, and the reader knows the view. -/
def start (shared : Shared) : Exchange ω := { shared, seen := shared.view }

/-- What a step does; none when it is not the turn of this step. A reader that has taken no
events does not look.
-/
def act (exchange : Exchange ω) : Move ω → Option (Exchange ω)
  | .store writer update =>
      match exchange.raising writer with
      | some _ => none
      | none =>
          let view := exchange.shared.view
          some { exchange with
            shared.view := view.write update
            raising := Function.update exchange.raising writer (some (view.raised update)) }
  | .raise writer =>
      (exchange.raising writer).map fun events =>
        { exchange with
          shared := exchange.shared.raise events
          raising := Function.update exchange.raising writer none }
  | .take =>
      if exchange.looking then none
      else
        let (events, shared) := exchange.shared.take
        some { exchange with shared, looking := events ≠ .none }
  | .look =>
      if exchange.looking then
        some { exchange with looking := false, seen := exchange.shared.view }
      else none

/-- Steps of all tasks in one order. -/
def actAll (exchange : Exchange ω) (moves : List (Move ω)) : Option (Exchange ω) :=
  moves.foldlM act exchange

/-- The two steps of a writer that nobody comes between are a whole write. -/
theorem store_raise (exchange : Exchange ω) {writer : ω} (update : Update)
    (free : exchange.raising writer = none)
    : exchange.actAll [.store writer update, .raise writer]
      = some { exchange with shared := exchange.shared.write update } := by
  have back : Function.update exchange.raising writer none = exchange.raising := by
    rw [← free, Function.update_eq_self]
  rw [actAll, List.foldlM_cons, act, free]
  simp [act, back, Shared.write]

/-- The reader knows a topic, or is going to: it is about to look, or an event that tells of the
topic is pending or still to be raised.
-/
inductive Informed (topic : Topic) (exchange : Exchange ω) : Prop
  | same (same : topic.Same exchange.seen exchange.shared.view)
  | looking (looking : exchange.looking = true)
  | pending (told : topic.ToldBy exchange.shared.pending)
  | raising {writer : ω} {events : Events} (held : exchange.raising writer = some events)
    (told : topic.ToldBy events)

/-- No step leaves the reader without the knowledge of a change, by cases on the step. -/
theorem Informed.act {topic : Topic} {exchange next : Exchange ω}
    (informed : Informed topic exchange) {move : Move ω} (acted : exchange.act move = some next)
    : Informed topic next := by
  cases move with
  | store writer update =>
      simp only [Exchange.act] at acted
      split at acted
      · cases acted
      next free =>
        cases acted
        -- A change is told by the writer itself, and what told of the topic before still does.
        rcases topic.same_write_or_toldBy exchange.shared.view update with kept | told
        · cases informed with
          | same same => exact .same (same.trans kept)
          | looking looking => exact .looking looking
          | pending told => exact .pending told
          | @raising other events held told =>
              have differs : other ≠ writer := by
                rintro rfl
                rw [free] at held
                cases held
              exact .raising ((Function.update_of_ne differs _ _).trans held) told
        · exact .raising (Function.update_self writer _ _) told
  | raise writer =>
      obtain ⟨events, held, rfl⟩ := Option.map_eq_some_iff.mp acted
      cases informed with
      | same same => exact .same same
      | looking looking => exact .looking looking
      | pending told => exact .pending (Topic.toldBy_or.mpr (.inl told))
      | @raising other others heldOther told =>
          by_cases own : other = writer
          · subst own
            rw [held] at heldOther
            cases heldOther
            exact .pending (Topic.toldBy_or.mpr (.inr told))
          · exact .raising ((Function.update_of_ne own _ _).trans heldOther) told
  | take =>
      simp only [Exchange.act] at acted
      split at acted
      · cases acted
      next idle =>
        cases acted
        cases informed with
        | same same => exact .same same
        | looking looking => exact absurd looking idle
        | pending told =>
            have some : exchange.shared.pending ≠ .none := by
              intro none
              rw [none] at told
              exact topic.not_toldBy_none told
            exact .looking (decide_eq_true some)
        | raising held told => exact .raising held told
  | look =>
      simp only [Exchange.act] at acted
      split at acted
      · cases acted
        exact .same (.refl topic _)
      · cases acted

/-- Whatever the tasks do, the reader is informed, by induction on their steps. -/
theorem Informed.actAll {topic : Topic} {exchange later : Exchange ω}
    (informed : Informed topic exchange) {moves : List (Move ω)}
    (acted : exchange.actAll moves = some later)
    : Informed topic later := by
  induction moves generalizing exchange with
  | nil =>
      cases acted
      exact informed
  | cons move rest ih =>
      rw [Exchange.actAll, List.foldlM_cons] at acted
      obtain ⟨next, first, others⟩ := Option.bind_eq_some_iff.mp acted
      exact ih (informed.act first) others

/-- No change of the status is lost between the tasks. Any number of writers and one reader act
in any order. Whenever no writer stands between its two steps and the reader has looked after
what it took, it has seen the current value of every topic of which no event is pending; so
when none is pending at all, it has seen what holds.
-/
theorem no_change_lost {shared : Shared} {moves : List (Move ω)} {later : Exchange ω}
    (acted : (start shared).actAll moves = some later)
    (written : ∀ writer, later.raising writer = none) (looked : later.looking = false)
    : (∀ topic : Topic,
        ¬topic.ToldBy later.shared.pending → topic.Same later.seen later.shared.view)
      ∧ (later.shared.pending = .none → later.seen.Agrees later.shared.view) := by
  have known (topic : Topic) (untold : ¬topic.ToldBy later.shared.pending)
      : topic.Same later.seen later.shared.view := by
    have first : Informed topic (start shared : Exchange ω) := .same (.refl topic shared.view)
    cases first.actAll acted with
    | same same => exact same
    | looking looking =>
        rw [looked] at looking
        cases looking
    | pending told => exact absurd told untold
    | @raising writer events held _ =>
        rw [written writer] at held
        cases held
  refine ⟨known, fun quiet => ?_⟩
  have all (topic : Topic) : topic.Same later.seen later.shared.view :=
    known topic (quiet ▸ topic.not_toldBy_none)
  exact ⟨all .battery, all .charger, all .wifi, all .link, all .client⟩

/-- Two writers: a client comes while the battery is read, the events of the battery are raised
only when the reader has already taken, and the link goes up before it looks.
-/
theorem no_change_lost_two_writers
    : let moves : List (Move Bool) :=
        [.store false (.battery 40), .store true (.clientConnected (.v4 ⟨192, 168, 1, 20⟩)),
          .raise true, .take, .raise false, .look, .take, .store true (.link true),
          .raise true, .look, .take, .look]
      let first : Exchange Bool := start (.initial 80 true)
      ∃ later,
        first.actAll moves = some later
        ∧ (∀ writer, later.raising writer = none)
        ∧ later.looking = false
        ∧ later.shared.pending = .none
        ∧ later.seen.battery = 40
        ∧ later.seen.Agrees later.shared.view := by
  intro moves first
  let outcome (later : Exchange Bool) :=
    (later.raising false, later.raising true, later.looking, later.shared.pending,
      later.seen.battery)
  have settled : (first.actAll moves).map outcome = some (none, none, false, .none, 40) := by
    decide +kernel
  obtain ⟨later, acted, facts⟩ := Option.map_eq_some_iff.mp settled
  simp only [outcome, Prod.mk.injEq] at facts
  obtain ⟨one, other, looked, quiet, seen⟩ := facts
  have written : ∀ writer, later.raising writer = none :=
    Bool.forall_bool.mpr ⟨one, other⟩
  exact ⟨later, acted, written, looked, quiet, seen,
    (no_change_lost acted written looked).2 quiet⟩

end Exchange

end Status

end Handheld
