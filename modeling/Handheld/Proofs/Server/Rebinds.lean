import Handheld.Proofs.Server.LinkChanges

/-! Attempts to bind the sockets over a run. A server remembers its last attempt until the link
comes up again, and while the sockets are closed it waits only for the time since then to
pass. Main statement: two attempts without such a coming up in between are spaced, and a
failed one is followed by another as soon as that is called for.
-/

namespace Handheld

namespace Server

-----------------------------------------------------------------------------------------
-- Runs whose loop goes on
-----------------------------------------------------------------------------------------

/-- The runs from one server, with their rounds in order, in which the loop does not end. -/
inductive Ongoing (first : Server) : List Round → Server → Prop
  | start : Ongoing first [] first
  | meet {rounds : List Round} {server : Server} (ongoing : Ongoing first rounds server)
    (outside : Outside)
    : Ongoing first rounds (server.meet outside)
  | round {rounds : List Round} (round : Round)
    (ongoing : Ongoing first rounds round.server)
    : Ongoing first (rounds ++ [round]) round.step.server

namespace Ongoing

variable {first server : Server} {rounds : List Round}

theorem run (ongoing : Ongoing first rounds server) : Run first rounds server := by
  induction ongoing with
  | start => exact .start
  | meet _ outside ih => exact .meet ih outside
  | round round _ ih => exact .round ih round.occasion

/-- A run splits at any of its rounds, by induction on the run. -/
theorem split (ongoing : Ongoing first rounds server) {before after : List Round}
    {round : Round} (split : rounds = before ++ round :: after)
    : Ongoing first before round.server ∧ Ongoing round.step.server after server := by
  induction ongoing generalizing after with
  | start => simp at split
  | meet _ outside ih =>
      obtain ⟨left, right⟩ := ih split
      exact ⟨left, .meet right outside⟩
  | round newest ongoing ih =>
      rcases after.eq_nil_or_concat with rfl | ⟨after, last, rfl⟩
      · obtain ⟨rfl, same⟩ := List.append_inj' split rfl
        obtain rfl := (List.cons.inj same).1
        exact ⟨ongoing, .start⟩
      · rw [List.concat_eq_append, ← List.cons_append, ← List.append_assoc] at split
        obtain ⟨earlier, same⟩ := List.append_inj' split rfl
        obtain rfl := (List.cons.inj same).1
        obtain ⟨left, right⟩ := ih earlier
        exact ⟨left, List.concat_eq_append ▸ .round newest right⟩

/-- What other tasks and the rounds keep holds before each round and behind the last, by
induction on the run.
-/
theorem keeps (Holds : Server → Prop) (ongoing : Ongoing first rounds server)
    (reachable : first.Reachable) (start : Holds first)
    (meets : ∀ server outside, Holds server → Holds (server.meet outside))
    (each
      : ∀ round ∈ rounds,
          round.server.Reachable → Holds round.server → Holds round.step.server)
    : Holds server ∧ ∀ round ∈ rounds, Holds round.server := by
  induction ongoing with
  | start => exact ⟨start, by simp⟩
  | meet _ outside ih =>
      obtain ⟨now, before⟩ := ih each
      exact ⟨meets _ outside now, before⟩
  | round newest ongoing ih =>
      obtain ⟨now, before⟩ := ih fun round member => each round (List.mem_append_left _ member)
      refine ⟨each newest (by simp) (ongoing.run.reachable reachable) now, ?_⟩
      intro round member
      rcases List.mem_append.mp member with earlier | same
      · exact before round earlier
      · rw [List.mem_singleton.mp same]
        exact now

end Ongoing

-----------------------------------------------------------------------------------------
-- Rounds that try, and rounds that are called to
-----------------------------------------------------------------------------------------

namespace Round

/-- The round makes an attempt to bind. -/
def Tries (round : Round) : Prop := round.attempts ≠ []

/-- The link is up behind the changes of the round, and either the time since an attempt has
passed or one of the changes came up.
-/
def Calls (retry : Span) (since : Moment) (round : Round) : Prop :=
  round.step.server.link.current = .up
  ∧ (retry ≤ Span.between since round.now ∨ .up ∈ round.changes)

variable {round : Round}

/-- There is an attempt just if the link is up, the sockets are closed, and the time since the
last attempt has passed, if one is remembered.
-/
theorem tries_iff (reachable : round.server.Reachable)
    : round.Tries
      ↔ round.step.server.link.current = .up
        ∧ round.followed.server.bound = none
        ∧ ∀ last,
            round.followed.server.lastRebind = some last
            → round.server.settings.rebindRetry ≤ Span.between last round.now := by
  have settings := (followed_spec reachable).settings_eq
  have link : round.step.server.link = round.followed.server.link := by
    rw [step_link, followed_link]
  have due
      : round.followed.server.rebindDue round.now
        ↔ round.followed.server.link.current = .up
          ∧ round.followed.server.bound = none
          ∧ ∀ last,
              round.followed.server.lastRebind = some last
              → round.server.settings.rebindRetry ≤ Span.between last round.now := by
    rw [rebindDue, settings]
    cases round.followed.server.link.current <;>
      cases round.followed.server.lastRebind <;> simp [LinkState.isUp]
  rw [Tries, attempts_eq, link, ← due]
  split <;> simp_all

theorem attempts_of_tries (tries : round.Tries) : round.attempts = [round.occasion.port] := by
  rw [Tries, attempts_eq] at tries
  rw [attempts_eq]
  split at tries
  next due => rw [if_pos due]
  next => exact absurd rfl tries

/-- An attempt is remembered, and the sockets are as it left them. -/
theorem step_of_attempt {port : Option UInt16} (attempt : round.attempts = [port])
    : round.step.server.lastRebind = some round.now ∧ round.step.server.bound = port := by
  have some : round.attempts ≠ [] := by simp [attempt]
  have same : round.occasion.port = port := by
    have own := attempts_of_tries some
    rw [attempt] at own
    exact (List.cons.inj own).1.symm
  rw [step_lastRebind, step_bound, if_neg some, if_neg some]
  exact ⟨rfl, same⟩

/-- Unless the link comes up in a round, it stays as it was or is down behind it. -/
theorem link_of_quiet (quiet : .up ∉ round.changes)
    : round.changes = [] ∧ round.step.server.link.current = round.server.link.current
      ∨ round.step.server.link.current = .down := by
  rw [step_link]
  cases last : round.changes.getLast? with
  | none => exact .inl ⟨List.getLast?_eq_none_iff.mp last, rfl⟩
  | some state =>
      cases state with
      | up => exact absurd (List.mem_of_getLast? last) quiet
      | down => exact .inr rfl

/-- Behind every round with the link up and the sockets closed, an attempt is remembered. -/
theorem lastRebind_isSome (reachable : round.server.Reachable)
    (up : round.step.server.link.current = .up) (closed : round.step.server.bound = none)
    : round.step.server.lastRebind.isSome := by
  rw [step_lastRebind]
  split
  next quiet =>
    rw [step_bound, if_pos quiet] at closed
    by_contra unset
    have none : round.followed.server.lastRebind = none := by simpa using unset
    have tries : round.Tries := (tries_iff reachable).mpr ⟨up, closed, by simp [none]⟩
    exact tries quiet
  next => rfl

end Round

-----------------------------------------------------------------------------------------
-- Waiting behind a failure
-----------------------------------------------------------------------------------------

/-- The sockets are closed, and the last attempt is remembered unless the link has come up and
is down again.
-/
structure Waiting (since : Moment) (server : Server) : Prop where
  closed : server.bound = none
  remembers
    : server.lastRebind = some since
      ∨ server.lastRebind = none ∧ server.link.current = .down

namespace Waiting

variable {since : Moment} {server : Server} {round : Round}

theorem meet (waiting : Waiting since server) (outside : Outside)
    : Waiting since (server.meet outside) := by
  cases outside <;> exact ⟨waiting.closed, waiting.remembers⟩

/-- The changes of the link in a round leave the sockets closed. A change that comes up makes
the server forget the attempt; without one the attempt counts, or the link is still down.
-/
theorem followed (waiting : Waiting since round.server) (reachable : round.server.Reachable)
    : round.followed.server.bound = none
      ∧ (.up ∈ round.changes ∧ round.followed.server.lastRebind = none
        ∨ .up ∉ round.changes ∧ round.followed.server.lastRebind = some since
        ∨ .up ∉ round.changes ∧ round.followed.server.lastRebind = none
          ∧ round.step.server.link.current = .down) := by
  have spec := Round.followed_spec reachable
  rw [spec.bound_eq, spec.lastRebind_eq, waiting.closed, ite_self]
  refine ⟨rfl, ?_⟩
  by_cases back : .up ∈ round.changes
  · exact .inl ⟨back, if_pos back⟩
  · rw [if_neg back]
    rcases waiting.remembers with last | ⟨unset, down⟩
    · exact .inr (.inl ⟨back, last⟩)
    · refine .inr (.inr ⟨back, unset, ?_⟩)
      rcases Round.link_of_quiet back with ⟨_, same⟩ | lost
      · exact same.trans down
      · exact lost

theorem tries_iff (waiting : Waiting since round.server) (reachable : round.server.Reachable)
    : round.Tries ↔ round.Calls round.server.settings.rebindRetry since := by
  obtain ⟨closed, remembers⟩ := waiting.followed reachable
  rw [Round.tries_iff reachable, Round.Calls]
  rcases remembers with ⟨back, unset⟩ | ⟨quiet, last⟩ | ⟨_, _, down⟩
  · simp [closed, unset, back]
  · simp [closed, last, quiet]
  · simp [down]

/-- A round that is not called to try leaves the server waiting. -/
theorem step (waiting : Waiting since round.server) (reachable : round.server.Reachable)
    (uncalled : ¬ round.Calls round.server.settings.rebindRetry since)
    : Waiting since round.step.server := by
  have quiet : round.attempts = [] := by
    by_contra tries
    exact uncalled ((waiting.tries_iff reachable).mp tries)
  obtain ⟨closed, remembers⟩ := waiting.followed reachable
  refine ⟨?_, ?_⟩
  · rw [Round.step_bound, if_pos quiet, closed]
  · rw [Round.step_lastRebind, if_pos quiet]
    rcases remembers with ⟨back, unset⟩ | ⟨_, last⟩ | ⟨_, unset, down⟩
    · refine .inr ⟨unset, ?_⟩
      cases link : round.step.server.link.current with
      | up => exact absurd ⟨link, .inr back⟩ uncalled
      | down => rfl
    · exact .inl last
    · exact .inr ⟨unset, down⟩

end Waiting

-----------------------------------------------------------------------------------------
-- Behind an attempt
-----------------------------------------------------------------------------------------

/-- An attempt is remembered, and while the link is up the sockets are as it left them. -/
structure Attempted (since : Moment) (port : Option UInt16) (server : Server) : Prop where
  lastRebind_eq : server.lastRebind = some since
  bound_eq : server.link.current = .up → server.bound = port

namespace Attempted

variable {since : Moment} {port : Option UInt16} {server : Server} {round : Round}

theorem meet (attempted : Attempted since port server) (outside : Outside)
    : Attempted since port (server.meet outside) := by
  cases outside <;> exact ⟨attempted.lastRebind_eq, attempted.bound_eq⟩

/-- Changes of the link that do not come up keep the account. -/
theorem followed (attempted : Attempted since port round.server)
    (reachable : round.server.Reachable) (quiet : .up ∉ round.changes)
    : round.followed.server.lastRebind = some since
      ∧ (round.step.server.link.current = .up → round.followed.server.bound = port) := by
  have spec := Round.followed_spec reachable
  rw [spec.lastRebind_eq, if_neg quiet]
  refine ⟨attempted.lastRebind_eq, fun up => ?_⟩
  rcases Round.link_of_quiet quiet with ⟨unchanged, same⟩ | down
  · rw [spec.bound_eq, if_neg (by simp [unchanged])]
    exact attempted.bound_eq (same.symm.trans up)
  · rw [down] at up
    cases up

theorem step (attempted : Attempted since port round.server)
    (reachable : round.server.Reachable) (quiet : .up ∉ round.changes)
    (idle : ¬ round.Tries)
    : Attempted since port round.step.server := by
  obtain ⟨last, bound⟩ := attempted.followed reachable quiet
  have none : round.attempts = [] := not_not.mp idle
  refine ⟨?_, fun up => ?_⟩
  · rw [Round.step_lastRebind, if_pos none, last]
  · rw [Round.step_bound, if_pos none, bound up]

/-- The next attempt means that this one failed, and that the time since has passed. -/
theorem spaced (attempted : Attempted since port round.server)
    (reachable : round.server.Reachable) (quiet : .up ∉ round.changes) (tries : round.Tries)
    : port = none
      ∧ round.server.settings.rebindRetry ≤ Span.between since round.now := by
  obtain ⟨last, bound⟩ := attempted.followed reachable quiet
  obtain ⟨up, closed, passed⟩ := (Round.tries_iff reachable).mp tries
  exact ⟨(bound up).symm.trans closed, passed since last⟩

end Attempted

/-- Bound sockets stay bound in a round in which the link does not go down, and nothing is
tried.
-/
theorem Round.keeps_bound {round : Round} {port : UInt16}
    (reachable : round.server.Reachable) (bound : round.server.bound = some port)
    (kept : .down ∉ round.changes)
    : ¬ round.Tries ∧ round.step.server.bound = some port := by
  have followed : round.followed.server.bound = some port := by
    rw [(followed_spec reachable).bound_eq, if_neg kept, bound]
  have idle : ¬ round.Tries := by
    intro tries
    have closed := ((tries_iff reachable).mp tries).2.1
    rw [followed] at closed
    cases closed
  refine ⟨idle, ?_⟩
  rw [step_bound, if_pos (not_not.mp idle), followed]

-----------------------------------------------------------------------------------------
-- Spacing
-----------------------------------------------------------------------------------------

namespace Ongoing

variable {first second : Round} {middle : List Round}

/-- Two attempts one after the other, when the link has not come up in between. -/
theorem spaced (ongoing : Ongoing first.step.server middle second.server)
    (reachable : first.step.server.Reachable) (tries : first.Tries)
    (idle : ∀ round ∈ middle, ¬ round.Tries) (again : second.Tries)
    (quiet : ∀ round ∈ middle ++ [second], .up ∉ round.changes)
    : first.attempts = [none]
      ∧ second.server.settings.rebindRetry ≤ Span.between first.now second.now := by
  have attempts := Round.attempts_of_tries tries
  obtain ⟨last, bound⟩ := Round.step_of_attempt attempts
  obtain ⟨attempted, _⟩ :=
    ongoing.keeps (Attempted first.now first.occasion.port) reachable ⟨last, fun _ => bound⟩
      (fun _ outside attempted => attempted.meet outside)
      fun round member reached attempted =>
        attempted.step reached (quiet round (List.mem_append_left _ member)) (idle round member)
  obtain ⟨failed, passed⟩ :=
    attempted.spaced (ongoing.run.reachable reachable) (quiet second (by simp)) again
  exact ⟨failed ▸ attempts, passed⟩

/-- Behind a failure nothing is tried until a round is called to, and that one tries. -/
theorem retried (ongoing : Ongoing first.step.server middle second.server)
    (reachable : first.step.server.Reachable) {retry : Span}
    (settings
      : ∀ round ∈ middle ++ [second], round.server.settings.rebindRetry = retry)
    (failed : first.attempts = [none])
    (uncalled : ∀ round ∈ middle, ¬ round.Calls retry first.now)
    : (∀ round ∈ middle, ¬ round.Tries) ∧ (second.Tries ↔ second.Calls retry first.now) := by
  obtain ⟨last, closed⟩ := Round.step_of_attempt failed
  have own (round : Round) (member : round ∈ middle) :=
    settings round (List.mem_append_left _ member)
  obtain ⟨waiting, each⟩ :=
    ongoing.keeps (Waiting first.now) reachable ⟨closed, .inl last⟩
      (fun _ outside waiting => waiting.meet outside)
      fun round member reached waiting =>
        waiting.step reached (own round member ▸ uncalled round member)
  refine ⟨fun round member tries => ?_, ?_⟩
  · obtain ⟨before, after, split⟩ := List.append_of_mem member
    have reached := (ongoing.split split).1.run.reachable reachable
    refine uncalled round member ?_
    exact own round member ▸ ((each round member).tries_iff reached).mp tries
  · rw [waiting.tries_iff (ongoing.run.reachable reachable), settings second (by simp)]

/-- Behind a success the next attempt, whenever it comes, comes after a loss. -/
theorem lost (ongoing : Ongoing first.step.server middle second.server)
    (reachable : first.step.server.Reachable) {port : UInt16}
    (bound : first.attempts = [some port]) (again : second.Tries)
    : ∃ round ∈ middle ++ [second], .down ∈ round.changes := by
  by_contra never
  have kept (round : Round) (member : round ∈ middle ++ [second]) : .down ∉ round.changes :=
    fun down => never ⟨round, member, down⟩
  obtain ⟨held, _⟩ :=
    ongoing.keeps (fun server => server.bound = some port) reachable
      (Round.step_of_attempt bound).2
      (fun _ outside bound => by cases outside <;> exact bound)
      fun round member reached bound =>
        (Round.keeps_bound reached bound (kept round (List.mem_append_left _ member))).2
  exact (Round.keeps_bound (ongoing.run.reachable reachable) held
    (kept second (by simp))).1 again

end Ongoing

/-- Attempts to bind are spaced and never stop, in every run whose loop goes on, wherever the
clock goes. Two of them, with none and no coming up of the link in between or with the
second, mean that the first has failed and that the time to wait has passed. Behind a failure
the first round that finds the link up, with this time passed or a change that came up, makes
an attempt, and none before does. Behind a success none is made until the link has gone down.
And behind every round with the link up and no sockets an attempt is remembered.
-/
theorem rebinds_spaced {settings : Settings.Network} {port : UInt16} {status : Status.Shared}
    {rounds : List Round} {server : Server}
    (ongoing : Ongoing (start settings port status) rounds server)
    : (∀ before first middle second after,
        rounds = before ++ first :: middle ++ second :: after
        → (first.Tries
            → (∀ round ∈ middle, ¬ round.Tries)
            → second.Tries
            → (∀ round ∈ middle ++ [second], .up ∉ round.changes)
            → first.attempts = [none]
              ∧ settings.rebindRetry ≤ Span.between first.now second.now)
          ∧ (first.attempts = [none]
            → (∀ round ∈ middle, ¬ round.Calls settings.rebindRetry first.now)
            → (∀ round ∈ middle, ¬ round.Tries)
              ∧ (second.Tries ↔ second.Calls settings.rebindRetry first.now))
          ∧ ∀ port,
              first.attempts = [some port]
              → second.Tries
              → ∃ round ∈ middle ++ [second], .down ∈ round.changes)
      ∧ ∀ round ∈ rounds,
          round.step.server.link.current = .up
          → round.step.server.bound = none
          → round.step.server.lastRebind.isSome := by
  have started : (start settings port status).Reachable := .start _ _ _
  have same (round : Round) (member : round ∈ rounds) : round.server.settings = settings := by
    obtain ⟨before, after, split⟩ := List.append_of_mem member
    exact (ongoing.split split).1.run.settings_eq started
  refine ⟨fun before first middle second after split => ?_, fun round member up closed => ?_⟩
  · obtain ⟨upToSecond, _⟩ := ongoing.split split
    obtain ⟨upToFirst, between⟩ := upToSecond.split rfl
    have reachable : first.step.server.Reachable :=
      .round (upToFirst.run.reachable started) first.occasion
    have retry (round : Round) (member : round ∈ middle ++ [second])
        : round.server.settings.rebindRetry = settings.rebindRetry := by
      rw [same round]
      rw [split]
      rcases List.mem_append.mp member with earlier | last
      · simp [earlier]
      · simp [List.mem_singleton.mp last]
    refine ⟨fun tries idle again quiet => ?_, ?_, fun port => between.lost reachable⟩
    · obtain ⟨failed, passed⟩ := between.spaced reachable tries idle again quiet
      exact ⟨failed, retry second (by simp) ▸ passed⟩
    · exact between.retried reachable retry
  · exact Round.lastRebind_isSome (ongoing.run.of_mem started member).1 up closed

/-- The link goes down and comes up, and the attempt fails. One round later it is too early for
another; when the time has passed, that succeeds, and the next is made when the link has gone
down and come up once more.
-/
theorem rebinds_spaced_failure
    : let lost : Round := ⟨(start {} 5000 {}).meet (.report .down), { now := 10 }⟩
      let tried : Round := ⟨lost.step.server.meet (.report .up), { now := Span.ofMillis 1 }⟩
      let early : Round := ⟨tried.step.server, { now := Span.ofMillis 2, port := some 5001 }⟩
      let back : Round :=
        ⟨early.step.server, { now := Span.ofMillis 1001, port := some 5001 }⟩
      let flapped : Round :=
        ⟨(back.step.server.meet (.report .down)).meet (.report .up),
          { now := Span.ofMillis 1001 + 1, port := some 5002 }⟩
      tried.Tries
      ∧ ¬ early.Tries
      ∧ Span.ofSeconds 1 ≤ Span.between tried.now back.now
      ∧ back.Tries
      ∧ flapped.Tries
      ∧ (∃ round ∈ [flapped], .down ∈ round.changes)
      ∧ tried.step.server.lastRebind.isSome := by
  intro lost tried early back flapped
  have begins : Ongoing (start {} 5000 {}) [] lost.server :=
    .meet .start (.report .down)
  have untilTried : Ongoing (start {} 5000 {}) [lost, tried] tried.step.server :=
    .round tried (.meet (.round lost begins) (.report .up))
  have untilBack : Ongoing (start {} 5000 {}) [lost, tried, early, back] back.step.server := by
    have startsEarly : early.server = tried.step.server := by dsimp only [early]
    have startsBack : back.server = early.step.server := by dsimp only [back]
    rw [← startsEarly] at untilTried
    have untilEarly := Ongoing.round early untilTried
    rw [← startsBack] at untilEarly
    exact .round back untilEarly
  have ongoing
      : Ongoing (start {} 5000 {}) [lost, tried, early, back, flapped] flapped.step.server :=
    .round flapped (.meet (.meet untilBack (.report .down)) (.report .up))
  have failed : tried.attempts = [none] := by decide +kernel
  have bound : back.attempts = [some 5001] := by decide +kernel
  have again : flapped.attempts = [some 5002] := by decide +kernel
  have up : tried.step.server.link.current = .up := by decide +kernel
  have closed : tried.step.server.bound = none := by decide +kernel
  have quiet : ∀ round ∈ [early, back], .up ∉ round.changes := by decide +kernel
  have uncalled : ¬ early.Calls ({} : Settings.Network).rebindRetry tried.now := by
    rintro ⟨_, passed | came⟩
    · exact absurd passed (by decide)
    · exact quiet early (by simp) came
  have called : back.Calls ({} : Settings.Network).rebindRetry tried.now :=
    ⟨by decide +kernel, .inl (by decide)⟩
  have tries : tried.Tries := by simp [Round.Tries, failed]
  have triesAgain : flapped.Tries := by simp [Round.Tries, again]
  obtain ⟨pairs, remembered⟩ := rebinds_spaced ongoing
  obtain ⟨spaced, retried, _⟩ := pairs [lost] tried [early] back [flapped] rfl
  obtain ⟨_, _, follows⟩ := pairs [lost, tried, early] back [] flapped [] rfl
  obtain ⟨idle, triesBack⟩ := retried failed (by simpa using uncalled)
  have passed := (spaced tries idle (triesBack.mpr called) quiet).2
  exact ⟨tries, idle early (by simp), passed, triesBack.mpr called, triesAgain,
    follows 5001 bound triesAgain, remembered tried (by simp) up closed⟩

end Server

end Handheld
