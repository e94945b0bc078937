import Mathlib.Data.List.Induction
import Mathlib.Data.Nat.Bitwise
import Handheld.Moment
import Handheld.Status.Sampling

/-! What a reader learns from the events that it takes, over any calls on the status. Main
statement: a take reports what has happened since the take before it, no more and no less,
and each cause is reported once; so samples report what has changed since the sample before.
-/

namespace Handheld

namespace Status

-----------------------------------------------------------------------------------------
-- Sets of events
-----------------------------------------------------------------------------------------

/-- A set of events has the one of a bit. -/
def Events.Has (events : Events) (bit : Nat) : Prop := events.toNat.testBit bit

instance (events : Events) : DecidablePred events.Has :=
  fun bit => inferInstanceAs (Decidable (events.toNat.testBit bit = true))

theorem Events.has_or {left right : Events} {bit : Nat}
    : (left ||| right).Has bit ↔ left.Has bit ∨ right.Has bit := by
  rw [Has, UInt32.toNat_or, Nat.testBit_or, Bool.or_eq_true]
  rfl

theorem Events.not_has_none (bit : Nat) : ¬Events.none.Has bit := by
  simp [Has, none]

-----------------------------------------------------------------------------------------
-- Calls
-----------------------------------------------------------------------------------------

/-- One call on the shared status, by whichever task. -/
inductive Call
  | write (update : Update)
  /-- Raises any bits, with or without a name. -/
  | raise (events : Events)
  | take
  /-- Takes after a wait, in which nothing else is called: when no event is pending at once,
  none is at the timeout.
  -/
  | wait (timeout : Span)
  /-- Looks at the view or at the pending events, or wakes the tasks that wait. -/
  | look
  deriving DecidableEq

/-- The calls that return the pending events and clear them. -/
inductive Call.Takes : Call → Prop
  | take : Takes .take
  | wait (timeout : Span) : Takes (.wait timeout)

/-- The reasons for which a call on a status with this view is reported, with the events that
report it.
-/
inductive Cause (view : View) : Call → Events → Prop
  | battery {percent : Int32} (changed : percent ≠ view.battery)
    : Cause view (.write (.battery percent)) .battery
  | charger {connected : Bool} (changed : connected ≠ view.charger)
    : Cause view (.write (.charger connected)) .charger
  | wifi {percent : UInt32} (changed : percent ≠ view.wifi)
    : Cause view (.write (.wifi percent)) .wifi
  | linkUp (wasDown : view.linkUp = false) : Cause view (.write (.link true)) .linkUp
  | linkDown (wasUp : view.linkUp = true) : Cause view (.write (.link false)) .linkDown
  | clientConnected (ip : IpAddress)
    : Cause view (.write (.clientConnected ip)) .clientConnected
  | clientDisconnected (ip : IpAddress)
    : Cause view (.write (.clientDisconnected ip)) .clientDisconnected
  | raise (events : Events) : Cause view (.raise events) events

namespace Shared

/-- What a call returns of events, if it takes them, and the status after it. -/
def call (shared : Shared) : Call → Option Events × Shared
  | .write update => (none, shared.write update)
  | .raise events => (none, shared.raise events)
  | .take => (some shared.take.1, shared.take.2)
  | .wait _ => (some shared.take.1, shared.take.2)
  | .look => (none, shared)

def after (shared : Shared) (call : Call) : Shared := (shared.call call).2

def afterAll (shared : Shared) (calls : List Call) : Shared := calls.foldl after shared

/-- The events that a call of a run returns, if it takes them. -/
def reported? (first : Shared) (calls : List Call) (position : Nat) : Option Events :=
  calls[position]?.bind fun call => ((first.afterAll (calls.take position)).call call).1

/-- A call of a run is a reason to report a bit. -/
def Causes (first : Shared) (calls : List Call) (position bit : Nat) : Prop :=
  ∃ call events,
    calls[position]? = some call
    ∧ Cause (first.afterAll (calls.take position)).view call events
    ∧ events.Has bit

end Shared

/-- No call of a run behind a position takes, up to another position. -/
def Untaken (calls : List Call) (position bound : Nat) : Prop :=
  ∀ between call,
    position < between → between < bound → calls[between]? = some call → ¬call.Takes

/-- The first call of a run that takes behind a position. -/
structure NextTake (calls : List Call) (position taking : Nat) : Prop where
  behind : position < taking
  takes : ∃ call, calls[taking]? = some call ∧ call.Takes
  untaken : Untaken calls position taking

/-- Behind a position only one call is the first that takes. -/
theorem NextTake.unique {calls : List Call} {position taking other : Nat}
    (next : NextTake calls position taking) (nextOther : NextTake calls position other)
    : taking = other := by
  obtain ⟨call, listed, takes⟩ := next.takes
  obtain ⟨otherCall, otherListed, otherTakes⟩ := nextOther.takes
  rcases Nat.lt_trichotomy taking other with before | same | behind
  · exact absurd takes (nextOther.untaken taking call next.behind before listed)
  · exact same
  · exact absurd otherTakes (next.untaken other otherCall nextOther.behind behind otherListed)

-----------------------------------------------------------------------------------------
-- One call
-----------------------------------------------------------------------------------------

namespace Shared

/-- A write raises what reports it, and nothing else, by cases on the write. -/
theorem has_raised_iff {view : View} {update : Update} {bit : Nat}
    : (view.raised update).Has bit
      ↔ ∃ events, Cause view (.write update) events ∧ events.Has bit := by
  constructor
  · intro has
    cases update with
    | battery percent =>
        rw [View.raised] at has
        split at has
        · exact absurd has (Events.not_has_none bit)
        next changed => exact ⟨_, .battery (Ne.symm changed), has⟩
    | charger connected =>
        rw [View.raised] at has
        split at has
        · exact absurd has (Events.not_has_none bit)
        next changed => exact ⟨_, .charger (Ne.symm changed), has⟩
    | wifi percent =>
        rw [View.raised] at has
        split at has
        · exact absurd has (Events.not_has_none bit)
        next changed => exact ⟨_, .wifi (Ne.symm changed), has⟩
    | link up =>
        rw [View.raised] at has
        split at has
        · exact absurd has (Events.not_has_none bit)
        next changed =>
          cases up with
          | true => exact ⟨_, .linkUp (Bool.eq_false_of_not_eq_true changed), has⟩
          | false => exact ⟨_, .linkDown (Bool.eq_true_of_not_eq_false changed), has⟩
    | clientConnected ip => exact ⟨_, .clientConnected ip, has⟩
    | clientDisconnected ip => exact ⟨_, .clientDisconnected ip, has⟩
    | frame frame => exact absurd has (Events.not_has_none bit)
  · rintro ⟨events, cause, has⟩
    cases cause with
    | battery changed => rwa [View.raised, if_neg (Ne.symm changed)]
    | charger changed => rwa [View.raised, if_neg (Ne.symm changed)]
    | wifi changed => rwa [View.raised, if_neg (Ne.symm changed)]
    | linkUp wasDown => rwa [View.raised, if_neg (by simp [wasDown])]
    | linkDown wasUp => rwa [View.raised, if_neg (by simp [wasUp])]
    | clientConnected ip => exact has
    | clientDisconnected ip => exact has

/-- What is pending after a call was pending before it and not taken, or reports the call. -/
theorem has_pending_after {shared : Shared} {call : Call} {bit : Nat}
    : (shared.after call).pending.Has bit
      ↔ (shared.pending.Has bit ∧ ¬call.Takes)
        ∨ ∃ events, Cause shared.view call events ∧ events.Has bit := by
  cases call with
  | write update =>
      have untaken : ¬(Call.write update).Takes := nofun
      rw [← has_raised_iff, and_iff_left untaken]
      exact Events.has_or
  | raise events =>
      have untaken : ¬(Call.raise events).Takes := nofun
      rw [and_iff_left untaken]
      refine Events.has_or.trans (or_congr_right ⟨fun has => ⟨_, .raise events, has⟩, ?_⟩)
      rintro ⟨_, ⟨⟩, has⟩
      exact has
  | take =>
      refine iff_of_false (Events.not_has_none bit) ?_
      rintro (⟨_, untaken⟩ | ⟨_, ⟨⟩, _⟩)
      exact untaken .take
  | wait timeout =>
      refine iff_of_false (Events.not_has_none bit) ?_
      rintro (⟨_, untaken⟩ | ⟨_, ⟨⟩, _⟩)
      exact untaken (.wait timeout)
  | look =>
      have untaken : ¬Call.look.Takes := nofun
      rw [and_iff_left untaken]
      refine (or_iff_left ?_).symm
      rintro ⟨_, ⟨⟩, _⟩

/-- A call that returns events takes, and it returns the pending ones. -/
theorem call_eq_some {shared : Shared} {call : Call} {events : Events}
    (returned : (shared.call call).1 = some events)
    : call.Takes ∧ events = shared.pending := by
  cases call with
  | take => exact ⟨.take, (Option.some.inj returned).symm⟩
  | wait timeout => exact ⟨.wait timeout, (Option.some.inj returned).symm⟩
  | write update => cases returned
  | raise raised => cases returned
  | look => cases returned

/-- The calls that return events are those that take. -/
theorem isSome_call_iff {shared : Shared} {call : Call}
    : (shared.call call).1.isSome ↔ call.Takes := by
  constructor
  · intro returns
    obtain ⟨events, returned⟩ := Option.isSome_iff_exists.mp returns
    exact (call_eq_some returned).1
  · intro takes
    cases takes with
    | take => rfl
    | wait timeout => rfl

-----------------------------------------------------------------------------------------
-- Runs
-----------------------------------------------------------------------------------------

theorem isSome_reported_iff {first : Shared} {calls : List Call} {position : Nat}
    : (first.reported? calls position).isSome
      ↔ ∃ call, calls[position]? = some call ∧ call.Takes := by
  rw [reported?]
  cases calls[position]? with
  | none => simp
  | some call => simp [isSome_call_iff]

theorem afterAll_concat (first : Shared) (calls : List Call) (call : Call)
    : first.afterAll (calls ++ [call]) = (first.afterAll calls).after call := by
  rw [afterAll, List.foldl_append]
  rfl

/-- A longer run has the causes of a shorter one, and those of its further calls. -/
theorem causes_concat_iff {first : Shared} {calls : List Call} {call : Call}
    {position bit : Nat}
    : first.Causes (calls ++ [call]) position bit
      ↔ (position < calls.length ∧ first.Causes calls position bit)
        ∨ (position = calls.length
          ∧ ∃ events,
              Cause (first.afterAll calls).view call events ∧ events.Has bit) := by
  rcases Nat.lt_trichotomy position calls.length with inside | rfl | outside
  · have shorter : position ≠ calls.length := Nat.ne_of_lt inside
    simp only [Causes, List.getElem?_append_left inside,
      List.take_append_of_le_length (Nat.le_of_lt inside), inside, shorter, true_and,
      false_and, or_false]
  · simp [Causes]
  · have beyond : (calls ++ [call])[position]? = none := by
      rw [List.getElem?_eq_none_iff, List.length_append, List.length_singleton]
      exact outside
    have longer : ¬position < calls.length := Nat.not_lt_of_lt outside
    simp [Causes, beyond, longer, Nat.ne_of_gt outside]

end Shared

/-- One more call leaves what is untaken, unless it takes. -/
theorem untaken_concat_iff {calls : List Call} {call : Call} {position : Nat}
    (inside : position < calls.length)
    : Untaken (calls ++ [call]) position (calls.length + 1)
      ↔ Untaken calls position calls.length ∧ ¬call.Takes := by
  constructor
  · intro untaken
    refine ⟨fun between other behind before listed => ?_, ?_⟩
    · apply untaken between other behind (Nat.lt_succ_of_lt before)
      rw [List.getElem?_append_left before, listed]
    · apply untaken calls.length call inside (Nat.lt_succ_self _)
      exact List.getElem?_concat_length
  · rintro ⟨untaken, last⟩ between other behind before listed
    rcases Nat.lt_succ_iff_lt_or_eq.mp before with earlier | rfl
    · rw [List.getElem?_append_left earlier] at listed
      exact untaken between other behind earlier listed
    · rw [List.getElem?_concat_length] at listed
      cases listed
      exact last

namespace Shared

/-- After a run that started with nothing pending, what is pending reports its causes that no
call has taken. By induction on the run, with its last call taken off.
-/
theorem has_pending_iff {first : Shared} (quiet : first.pending = .none) (calls : List Call)
    {bit : Nat}
    : (first.afterAll calls).pending.Has bit
      ↔ ∃ position,
          first.Causes calls position bit ∧ Untaken calls position calls.length := by
  induction calls using List.reverseRecOn with
  | nil =>
      refine iff_of_false ?_ ?_
      · rw [afterAll, List.foldl_nil, quiet]
        exact Events.not_has_none bit
      · rintro ⟨position, ⟨call, events, listed, _⟩, _⟩
        cases listed
  | append_singleton calls call ih =>
      rw [afterAll_concat, has_pending_after, ih, List.length_append, List.length_singleton]
      constructor
      · rintro (⟨⟨position, causes, untaken⟩, last⟩ | cause)
        · have inside : position < calls.length := by
            obtain ⟨_, _, listed, _⟩ := causes
            exact (List.getElem?_eq_some_iff.mp listed).1
          exact ⟨position, causes_concat_iff.mpr (.inl ⟨inside, causes⟩),
            (untaken_concat_iff inside).mpr ⟨untaken, last⟩⟩
        · refine ⟨calls.length, causes_concat_iff.mpr (.inr ⟨rfl, cause⟩), ?_⟩
          intro between _ behind before
          exact absurd before (Nat.not_lt.mpr behind)
      · rintro ⟨position, causes, untaken⟩
        rcases causes_concat_iff.mp causes with ⟨inside, causes⟩ | ⟨_, cause⟩
        · obtain ⟨untaken, last⟩ := (untaken_concat_iff inside).mp untaken
          exact .inl ⟨⟨position, causes, untaken⟩, last⟩
        · exact .inr cause

/-- A run has the causes that its beginnings have. -/
theorem causes_take_iff {first : Shared} {calls : List Call} {position bound bit : Nat}
    (before : position < bound)
    : first.Causes (calls.take bound) position bit ↔ first.Causes calls position bit := by
  have shorter : (calls.take bound).take position = calls.take position := by
    rw [List.take_take, Nat.min_eq_left (Nat.le_of_lt before)]
  simp only [Causes, List.getElem?_take_of_lt before, shorter]

end Shared

theorem untaken_take_iff {calls : List Call} {position bound : Nat}
    : Untaken (calls.take bound) position bound ↔ Untaken calls position bound := by
  have same {between : Nat} (before : between < bound)
      : (calls.take bound)[between]? = calls[between]? :=
    List.getElem?_take_of_lt before
  constructor
  · intro untaken between call behind before listed
    exact untaken between call behind before ((same before).trans listed)
  · intro untaken between call behind before listed
    exact untaken between call behind before ((same before).symm.trans listed)

-----------------------------------------------------------------------------------------
-- Samples
-----------------------------------------------------------------------------------------

/-- The fields of a view that samples are about. -/
def View.sample (view : View) : Sample := ⟨view.battery, view.charger, view.wifi⟩

/-- The events of the fields in which a sample differs from the one before it. -/
def Sample.changes (earlier later : Sample) : Events :=
  (if earlier.battery = later.battery then .none else .battery)
    ||| (if earlier.charger = later.charger then .none else .charger)
    ||| (if earlier.wifi = later.wifi then .none else .wifi)

namespace Shared

theorem sample_pending {shared : Shared} (quiet : shared.pending = .none) (sample : Sample)
    : (shared.sample sample).pending = shared.view.sample.changes sample := by
  change shared.pending ||| _ ||| _ ||| _ = _
  rw [quiet, Events.none, UInt32.zero_or]
  rfl

/-- Takes that follow one sample each report its changes, by induction on the samples. -/
theorem sampleEach_eq {shared : Shared} (quiet : shared.pending = .none)
    (samples : List Sample)
    : (shared.sampleEach samples).1
      = List.zipWith Sample.changes (shared.view.sample :: samples) samples := by
  induction samples generalizing shared with
  | nil => rfl
  | cons sample rest ih =>
      have later : ((shared.sample sample).take.2.sampleEach rest).1
          = List.zipWith Sample.changes (sample :: rest) rest :=
        ih rfl
      rw [List.zipWith_cons_cons, ← sample_pending quiet, ← later]
      rfl

end Shared

-----------------------------------------------------------------------------------------
-- Reports
-----------------------------------------------------------------------------------------

/-- Reports are exact over every run of calls that starts with nothing pending. The calls that
take report, and what one of them returns are the bits that were caused since the take before
it: by a battery, charger or radio reading that differs from the one held, by a link that goes
up or down, by a client that comes or goes, or by a raise. A cause is reported by one take
only. And samples that are taken one by one report the fields that have changed since the
sample before.
-/
theorem reports_exact {first : Shared} (quiet : first.pending = .none) (calls : List Call)
    : (∀ position,
        (first.reported? calls position).isSome
        ↔ ∃ call, calls[position]? = some call ∧ call.Takes)
      ∧ (∀ position reported,
        first.reported? calls position = some reported
        → ∀ bit,
            reported.Has bit
            ↔ ∃ cause, first.Causes calls cause bit ∧ NextTake calls cause position)
      ∧ (∀ cause position other,
          NextTake calls cause position → NextTake calls cause other → position = other)
      ∧ ∀ samples,
          let taken := (first.afterAll calls).after .take
          (taken.sampleEach samples).1
          = List.zipWith Sample.changes (taken.view.sample :: samples) samples := by
  refine ⟨?_, ?_, ?_, ?_⟩
  · intro position
    exact Shared.isSome_reported_iff
  · intro position reported returned bit
    obtain ⟨call, listed, returned⟩ := Option.bind_eq_some_iff.mp returned
    obtain ⟨takes, rfl⟩ := Shared.call_eq_some returned
    have inside : position < calls.length := (List.getElem?_eq_some_iff.mp listed).1
    have upTo : (calls.take position).length = position :=
      List.length_take_of_le (Nat.le_of_lt inside)
    rw [Shared.has_pending_iff quiet, upTo]
    constructor
    · rintro ⟨cause, causes, untaken⟩
      have behind : cause < position := by
        obtain ⟨_, _, held, _⟩ := causes
        rw [← upTo]
        exact (List.getElem?_eq_some_iff.mp held).1
      exact ⟨cause, (Shared.causes_take_iff behind).mp causes, behind, ⟨call, listed, takes⟩,
        untaken_take_iff.mp untaken⟩
    · rintro ⟨cause, causes, next⟩
      exact ⟨cause, (Shared.causes_take_iff next.behind).mpr causes,
        untaken_take_iff.mpr next.untaken⟩
  · intro cause position other next otherNext
    exact next.unique otherNext
  · intro samples
    exact Shared.sampleEach_eq rfl samples

/-- A battery reading that changes and changes back is reported, one that stays is not, and the
take behind reports what the wait between them has left.
-/
theorem reports_exact_back_again
    : let first := Shared.initial 80 true
      let calls : List Call :=
        [.write (.battery 79), .write (.battery 80), .write (.charger true), .take,
          .write (.link true), .raise 0x800, .wait 5000, .write (.link true), .take]
      first.reported? calls 3 = some .battery
      ∧ (∃ cause, first.Causes calls cause 8 ∧ NextTake calls cause 3)
      ∧ (¬∃ cause, first.Causes calls cause 9 ∧ NextTake calls cause 3)
      ∧ first.reported? calls 6 = some 0x804
      ∧ (∃ cause, first.Causes calls cause 11 ∧ NextTake calls cause 6)
      ∧ first.reported? calls 8 = some .none := by
  intro first calls
  have atFirst : first.reported? calls 3 = some .battery := by decide +kernel
  have atWait : first.reported? calls 6 = some 0x804 := by decide +kernel
  have quiet : first.pending = .none := rfl
  have exact := (reports_exact quiet calls).2.1
  refine ⟨atFirst, ?_, ?_, atWait, ?_, by decide +kernel⟩
  · exact (exact 3 .battery atFirst 8).mp (by decide)
  · exact fun caused => absurd ((exact 3 .battery atFirst 9).mpr caused) (by decide)
  · exact (exact 6 0x804 atWait 11).mp (by decide)

end Status

end Handheld
