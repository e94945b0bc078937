import Handheld.Proofs.Server.Pacing

/-! The wait of a round for readiness. While the link is up it ends with the least time that is
left until a session is due telemetry, or earlier by a setting. Main statement: it ends
neither before a session is due nor behind that.
-/

namespace Handheld

/-- What is left of an interval is over when it has elapsed. -/
theorem Span.sub_between_later_iff {last now interval elapsed : Nat} (before : last ≤ now)
    : interval - between last (now + elapsed) = 0
      ↔ interval - between last now ≤ elapsed := by
  rw [between, between]
  omega

/-- A session is due when what is left of its wait has elapsed, by cases on whether it was ever
served.
-/
theorem Session.telemetryDue_later_iff {session : Session} {now : Moment}
    (served : ∀ last, session.lastTelemetry = some last → last ≤ now) (elapsed : Span)
    : session.telemetryDue (now + elapsed)
      ↔ ∃ left, session.untilTelemetry now = some left ∧ left ≤ elapsed := by
  simp only [telemetryDue, untilTelemetry, beq_iff_eq]
  split
  next connected =>
    cases remembered : session.lastTelemetry with
    | none => simp
    | some last =>
        have before : last ≤ now := served last remembered
        simp only [Option.some.injEq, exists_eq_left']
        exact Span.sub_between_later_iff before
  next unconnected => simp

-----------------------------------------------------------------------------------------
-- The least of all waits
-----------------------------------------------------------------------------------------

/-- A number is below the least of some numbers, if there is one, when it is below all. -/
theorem lt_of_min?_iff {bound : Nat} {numbers : List Nat}
    : (∀ least, numbers.min? = some least → bound < least)
      ↔ ∀ number ∈ numbers, bound < number := by
  cases minimum : numbers.min? with
  | none =>
      rw [List.min?_eq_none_iff] at minimum
      simp [minimum]
  | some least =>
      simp only [Option.some.injEq, forall_eq']
      exact List.le_min?_iff minimum

namespace Registry

theorem due_eq_nil_iff {registry : Registry} {now : Moment}
    : registry.due now = []
      ↔ ∀ session ∈ registry.sessions, ¬session.telemetryDue now := by
  simp [due, sessions]

/-- Nobody is due until the next telemetry has been waited for. -/
theorem due_later_eq_nil_iff {registry : Registry} {now : Moment}
    (served
      : ∀ session ∈ registry.sessions,
          ∀ last, session.lastTelemetry = some last → last ≤ now)
    (elapsed : Span)
    : registry.due (now + elapsed) = []
      ↔ ∀ next, registry.nextTelemetryIn now = some next → elapsed < next := by
  rw [due_eq_nil_iff, nextTelemetryIn, lt_of_min?_iff]
  constructor
  · intro idle left member
    obtain ⟨session, live, remains⟩ := List.mem_filterMap.mp member
    by_contra passed
    apply idle session live
    rw [Session.telemetryDue_later_iff (served session live)]
    exact ⟨left, remains, Nat.le_of_not_lt passed⟩
  · intro waits session live due
    obtain ⟨left, remains, passed⟩ :=
      (Session.telemetryDue_later_iff (served session live) elapsed).mp due
    exact Nat.not_lt_of_le passed (waits left (List.mem_filterMap.mpr ⟨session, live, remains⟩))

/-- Without a connected session nobody is ever due. -/
theorem due_eq_nil_of_unconnected {registry : Registry}
    (unconnected : ∀ session ∈ registry.sessions, session.phase ≠ .connected) (now : Moment)
    : registry.due now = [] := by
  rw [due_eq_nil_iff]
  intro session live due
  exact unconnected session live (Session.telemetryDue_iff.mp due).1

end Registry

-----------------------------------------------------------------------------------------
-- The wait of a round
-----------------------------------------------------------------------------------------

namespace Server

/-- While the link is up, a wait has not ended as long as nobody is due, within a setting. -/
theorem lt_pollTimeout_iff {server : Server} (up : server.link.current = .up) {now : Moment}
    (served
      : ∀ session ∈ server.registry.sessions,
          ∀ last, session.lastTelemetry = some last → last ≤ now)
    {elapsed : Span}
    : elapsed < server.pollTimeout now
      ↔ elapsed < server.settings.idleTimeout ∧ server.registry.due (now + elapsed) = [] := by
  rw [Registry.due_later_eq_nil_iff served, pollTimeout, up, LinkState.isUp, if_pos rfl]
  cases server.registry.nextTelemetryIn now with
  | none => simp
  | some next =>
      simp only [Option.some.injEq, forall_eq']
      exact Nat.lt_min.trans and_comm

/-- The wait of a round neither oversleeps nor wakes early. While the link is up it is no longer
than its setting, nobody is due as long as it lasts, and if it is shorter than its setting
somebody is due at its end. It is none just if somebody is due already, and without a
connected session it is as long as its setting.
-/
theorem wait_exact {server : Server} (up : server.link.current = .up)
    (idle : 0 < server.settings.idleTimeout) {now : Moment}
    (served
      : ∀ session ∈ server.registry.sessions,
          ∀ last, session.lastTelemetry = some last → last ≤ now)
    : let wait := server.pollTimeout now
      wait ≤ server.settings.idleTimeout
      ∧ (∀ elapsed < wait, server.registry.due (now + elapsed) = [])
      ∧ (wait < server.settings.idleTimeout → server.registry.due (now + wait) ≠ [])
      ∧ (wait = 0 ↔ server.registry.due now ≠ [])
      ∧ ((∀ session ∈ server.registry.sessions, session.phase ≠ .connected)
        → wait = server.settings.idleTimeout) := by
  intro wait
  have lasts {elapsed : Span}
      : elapsed < wait
        ↔ elapsed < server.settings.idleTimeout
          ∧ server.registry.due (now + elapsed) = [] :=
    lt_pollTimeout_iff up served
  have ends : ¬wait < wait := Nat.lt_irrefl wait
  have bounded : wait ≤ server.settings.idleTimeout := by
    by_contra longer
    exact Nat.lt_irrefl _ (lasts.mp (Nat.lt_of_not_le longer)).1
  refine ⟨bounded, ?_, ?_, ?_, ?_⟩
  · intro elapsed shorter
    exact (lasts.mp shorter).2
  · intro shorter nobody
    exact ends (lasts.mpr ⟨shorter, nobody⟩)
  · have positive : 0 < wait ↔ server.registry.due now = [] :=
      lasts.trans (and_iff_right idle)
    rw [ne_eq, ← positive, Nat.not_lt, Nat.le_zero]
  · intro unconnected
    by_contra other
    have shorter : wait < server.settings.idleTimeout := Nat.lt_of_le_of_ne bounded other
    exact ends
      (lasts.mpr ⟨shorter, Registry.due_eq_nil_of_unconnected unconnected _⟩)

/-- Two clients were served together, and the shorter of their intervals ends the wait. A third
has only connected.
-/
theorem wait_exact_two_intervals
    : let peer : Peer := ⟨.v4 ⟨192, 168, 1, 20⟩, 41000, rfl, rfl, by decide⟩
      let opened (number : Nat) (pollingMicros : UInt32) : Registry.Entry :=
        ⟨⟨number⟩,
          { Session.start ⟨number⟩ peer 1 with
            phase := .connected
            dataChannel := some peer
            pollingMicros
            lastTelemetry := some (Span.ofMicros 10) },
          .readable⟩
      let entries := [opened 1 8000, opened 2 6000, ⟨⟨3⟩, .start ⟨3⟩ peer 1, .readable⟩]
      let server : Server := { start {} 5000 {} with registry := ⟨3, 4, entries⟩ }
      let now : Moment := Span.ofMicros 4010
      server.pollTimeout now = Span.ofMillis 2
      ∧ server.registry.due (now + (Span.ofMillis 2 - 1)) = []
      ∧ server.registry.due (now + Span.ofMillis 2) ≠ []
      ∧ server.registry.due now = [] := by
  intro peer opened entries server now
  have idle : Span.ofMillis 2 < server.settings.idleTimeout := by decide
  have served
      : ∀ session ∈ server.registry.sessions,
          ∀ last, session.lastTelemetry = some last → last ≤ now := by
    have all
        : ∀ session ∈ server.registry.sessions,
            session.lastTelemetry = none
            ∨ session.lastTelemetry = some (Span.ofMicros 10) := by
      decide
    intro session live last remembered
    rcases all session live with never | once
    · simp [never] at remembered
    · cases once.symm.trans remembered
      decide
  have wait : server.pollTimeout now = Span.ofMillis 2 := by decide +kernel
  obtain ⟨_, during, ends, some, _⟩ := wait_exact rfl (Nat.zero_lt_of_lt idle) served
  rw [wait] at during ends some
  have positive : Span.ofMillis 2 ≠ 0 := by decide
  exact ⟨wait, during (Span.ofMillis 2 - 1) (by decide), ends idle,
    not_not.mp (some.not.mp positive)⟩

end Server

end Handheld
