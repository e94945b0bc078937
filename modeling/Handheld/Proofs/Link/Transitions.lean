import Mathlib.Data.List.ReduceOption
import Handheld.Link.Watch
import Handheld.Proofs.Link.Changes

/-! What a monitor hands out of the reports of the link, however sends and questions take
turns. Main statement: the transitions are the changes in the sequence that was sent, none
left out once there is no further one; and those of a watcher are the changes in what it
probed.
-/

namespace Handheld

/-- The states of a sequence that differ from the one right before them; `initial` stands
before the first.
-/
def LinkState.differing (initial : LinkState) (states : List LinkState) : List LinkState :=
  ((initial :: states).zip states).filterMap fun (before, state) =>
    if state = before then none else some state

namespace LinkMonitor

/-- Comparing with the state before and comparing with the last change come to the same. By
induction on the reports.
-/
theorem changes_eq_differing (current : LinkState) (reports : List LinkState)
    : changes current reports = LinkState.differing current reports := by
  induction reports generalizing current with
  | nil => rfl
  | cons state rest ih =>
      have later := ih state
      simp only [LinkState.differing] at later ⊢
      rw [changes, List.zip_cons_cons, List.filterMap_cons]
      by_cases same : state = current
      · subst same
        simpa using later
      · simpa [same] using later

end LinkMonitor

namespace LinkChannel

open LinkMonitor (changes)

variable {initial : LinkState}

-----------------------------------------------------------------------------------------
-- Sends and questions in turn
-----------------------------------------------------------------------------------------

/-- The state that the receiving end has come to. -/
def current? (channel : LinkChannel) : Option LinkState := channel.monitor.map (·.current)

/-- The beginning of a question for the next transition: a first report that repeats the
current state is dropped. More may be sent before the question goes on.
-/
def passOver (channel : LinkChannel) : LinkChannel :=
  match channel.monitor with
  | some ⟨current, state :: rest⟩ =>
      if state = current then { channel with monitor := some ⟨current, rest⟩ } else channel
  | _ => channel

/-- A question that has begun ends as it would have without interruption. -/
theorem passOver_next (channel : LinkChannel) : channel.passOver.next = channel.next := by
  obtain ⟨monitor, sending⟩ := channel
  match monitor with
  | none => rfl
  | some ⟨current, []⟩ => rfl
  | some ⟨current, state :: rest⟩ =>
      by_cases same : state = current
      · simp only [passOver, same, if_true, next, LinkMonitor.next, LinkMonitor.nextFrom]
      · simp only [passOver, same, if_false]

/-- How a channel came about: all states that were sent and all answers to questions for the
next transition, each in order. A question may be interrupted by what is sent meanwhile, and
nothing is sent when the sending end is gone.
-/
inductive Talk (initial : LinkState)
    : (sent : List LinkState) → (answers : List (Option LinkState)) → LinkChannel → Prop
  | start : Talk initial [] [] (.start initial)
  | send {sent answers channel} (talk : Talk initial sent answers channel)
    (sending : channel.sending = true) (state : LinkState)
    : Talk initial (sent ++ [state]) answers (channel.notify state).2
  | next {sent answers channel} (talk : Talk initial sent answers channel)
    : Talk initial sent (answers ++ [channel.next.1]) channel.next.2
  | passOver {sent answers channel} (talk : Talk initial sent answers channel)
    : Talk initial sent answers channel.passOver
  | dropSender {sent answers channel} (talk : Talk initial sent answers channel)
    : Talk initial sent answers channel.dropSender

/-- A monitor has handed out some of the changes in what was sent and holds the others. -/
structure HandsOut (initial : LinkState) (sent : List LinkState)
    (answers : List (Option LinkState)) (monitor : LinkMonitor)
    : Prop where
  split
    : answers.reduceOption ++ changes monitor.current monitor.queue = changes initial sent
  current_eq : monitor.current = (answers.reduceOption.getLast?).getD initial
  latest : (monitor.queue.getLast?).getD monitor.current = (sent.getLast?).getD initial

namespace HandsOut

variable {sent : List LinkState} {answers : List (Option LinkState)} {monitor : LinkMonitor}

theorem notify (hands : HandsOut initial sent answers monitor) (state : LinkState)
    : HandsOut initial (sent ++ [state]) answers (monitor.notify state) where
  split := by
    rw [LinkMonitor.notify, LinkMonitor.changes_append, LinkMonitor.changes_append,
      ← List.append_assoc, hands.split, hands.latest]
  current_eq := hands.current_eq
  latest := by simp [LinkMonitor.notify]

theorem next (hands : HandsOut initial sent answers monitor)
    : HandsOut initial sent (answers ++ [monitor.next.1]) monitor.next.2 := by
  have asked := LinkMonitor.nextFrom_asked monitor.current monitor.queue
  have grown
      : (answers ++ [monitor.next.1]).reduceOption
        = answers.reduceOption ++ monitor.next.1.toList := by
    rw [List.reduceOption_append, List.reduceOption_singleton]
  refine {
    split := ?_
    current_eq := ?_
    latest := ?_
  }
  · rw [grown, List.append_assoc, LinkMonitor.next, asked.taken, hands.split]
  · rw [grown, List.getLast?_append, LinkMonitor.next, asked.current_eq]
    cases (LinkMonitor.nextFrom monitor.current monitor.queue).1 with
    | none => exact hands.current_eq
    | some state => rfl
  · rw [LinkMonitor.next, asked.latest, hands.latest]

theorem drop {current : LinkState} {rest : List LinkState}
    (hands : HandsOut initial sent answers ⟨current, current :: rest⟩)
    : HandsOut initial sent answers ⟨current, rest⟩ where
  split := by rw [← hands.split, changes, if_pos rfl]
  current_eq := hands.current_eq
  latest := by rw [← hands.latest, List.getLast?_cons, Option.getD_some]

end HandsOut

/-- The receiving end stays, and what it has handed out and what it holds add up. By induction
on the talk.
-/
theorem Talk.handsOut {sent : List LinkState} {answers : List (Option LinkState)}
    {channel : LinkChannel} (talk : Talk initial sent answers channel)
    : ∃ monitor, channel.monitor = some monitor ∧ HandsOut initial sent answers monitor := by
  induction talk with
  | start => exact ⟨_, rfl, ⟨rfl, rfl, rfl⟩⟩
  | send _ _ state ih =>
      obtain ⟨monitor, found, hands⟩ := ih
      exact ⟨monitor.notify state, by simp only [notify, found], hands.notify state⟩
  | @next sent answers channel _ ih =>
      obtain ⟨monitor, found, hands⟩ := ih
      have asked : channel.next = (monitor.next.1, { channel with monitor := monitor.next.2 }) := by
        simp only [LinkChannel.next, found]
      rw [asked]
      exact ⟨monitor.next.2, rfl, hands.next⟩
  | passOver _ ih =>
      obtain ⟨monitor, found, hands⟩ := ih
      match monitor with
      | ⟨_, []⟩ => exact ⟨_, by simp only [LinkChannel.passOver, found], hands⟩
      | ⟨current, state :: rest⟩ =>
          by_cases same : state = current
          · subst same
            exact ⟨_, by simp only [LinkChannel.passOver, found, if_true], hands.drop⟩
          · exact ⟨_, by simp only [LinkChannel.passOver, found, same, if_false], hands⟩
  | dropSender _ ih => exact ih

/-- The answers of a channel are the changes in a sequence of states, as far as they have been
asked for.
-/
structure Follows (initial : LinkState) (states : List LinkState)
    (answers : List (Option LinkState)) (channel : LinkChannel)
    : Prop where
  prefix_differing : answers.reduceOption <+: LinkState.differing initial states
  alternate : (initial :: answers.reduceOption).IsChain (· ≠ ·)
  current_eq : channel.current? = some ((answers.reduceOption.getLast?).getD initial)
  fresh : ∀ state, channel.next.1 = some state → channel.current? ≠ some state
  /-- Without a further transition all have been handed out. -/
  complete
    : channel.next.1 = none
      → answers.reduceOption = LinkState.differing initial states
        ∧ channel.next.2.current? = some ((states.getLast?).getD initial)

/-- The answers depend only on the changes in what was sent and on the last of it. -/
theorem Talk.follows {sent states : List LinkState} {answers : List (Option LinkState)}
    {channel : LinkChannel} (talk : Talk initial sent answers channel)
    (same : changes initial sent = changes initial states)
    (latest : (sent.getLast?).getD initial = (states.getLast?).getD initial)
    : Follows initial states answers channel := by
  obtain ⟨monitor, found, hands⟩ := talk.handsOut
  have asked := LinkMonitor.nextFrom_asked monitor.current monitor.queue
  have current : channel.current? = some monitor.current := by rw [current?, found]; rfl
  have answer : channel.next.1 = (LinkMonitor.nextFrom monitor.current monitor.queue).1 := by
    simp only [LinkChannel.next, found, LinkMonitor.next]
  have split := hands.split
  rw [same, LinkMonitor.changes_eq_differing initial] at split
  refine {
    prefix_differing := ⟨_, split⟩
    alternate := ?_
    current_eq := by rw [current, hands.current_eq]
    fresh := ?_
    complete := ?_
  }
  · have chain := LinkMonitor.isChain_changes initial sent
    rw [← hands.split, ← List.cons_append] at chain
    exact (List.isChain_append.mp chain).1
  · intro state handed unchanged
    rw [answer] at handed
    rw [current] at unchanged
    exact asked.fresh (handed.trans unchanged.symm)
  · intro none
    rw [answer] at none
    have taken := asked.taken
    rw [asked.emptied none, none] at taken
    constructor
    · rw [← split, ← taken]
      exact (List.append_nil _).symm
    · have reached := asked.latest
      rw [asked.emptied none, List.getLast?_nil, Option.getD_none, hands.latest, latest] at reached
      rw [← reached]
      simp only [current?, LinkChannel.next, found, LinkMonitor.next, Option.map_some]

-----------------------------------------------------------------------------------------
-- A watcher that sends
-----------------------------------------------------------------------------------------

/-- What a watcher reports of the states that it probes: the first, and then the changes. -/
def reports : List LinkState → List LinkState
  | [] => []
  | first :: rest => first :: changes first rest

/-- How a channel came about whose sending end is one watcher at work: the results of all its
probes, in order, and all answers. The watcher makes any number of probes before the next
question and goes on from its last report behind it.
-/
inductive Watched (initial : LinkState)
    : (probes : List Bool) → (answers : List (Option LinkState)) → LinkChannel → Prop
  | start : Watched initial [] [] (.start initial)
  | probe {probes answers channel} (watched : Watched initial probes answers channel)
    (sending : channel.sending = true) (more : List Bool)
    : Watched initial (probes ++ more) answers
        (channel.watchFrom (probes.getLast?.map .ofUp) more)
  | next {probes answers channel} (watched : Watched initial probes answers channel)
    : Watched initial probes (answers ++ [channel.next.1]) channel.next.2
  | passOver {probes answers channel} (watched : Watched initial probes answers channel)
    : Watched initial probes answers channel.passOver
  | dropSender {probes answers channel} (watched : Watched initial probes answers channel)
    : Watched initial probes answers channel.dropSender

/-- One more state is reported unless it repeats the last one. -/
theorem reports_concat (states : List LinkState) (state : LinkState)
    : reports (states ++ [state])
      = reports states ++ if states.getLast? = some state then [] else [state] := by
  cases states with
  | nil => rfl
  | cons first rest =>
      rw [List.cons_append, reports, reports, LinkMonitor.changes_append, List.cons_append,
        List.getLast?_cons]
      simp only [changes, Option.some.injEq, eq_comm (a := state)]

/-- The first report of a watcher may repeat the state that its monitor starts from, and is
then no change.
-/
theorem changes_reports (initial : LinkState) (states : List LinkState)
    : changes initial (reports states) = changes initial states := by
  cases states with
  | nil => rfl
  | cons first rest =>
      have settled := LinkMonitor.changes_of_isChain (LinkMonitor.isChain_changes first rest)
      rw [reports, changes, changes, settled]
      split
      next same =>
        subst same
        exact settled
      next => rfl

theorem reports_getLast? (states : List LinkState)
    : (reports states).getLast? = states.getLast? := by
  cases states with
  | nil => rfl
  | cons first rest =>
      rw [reports, List.getLast?_cons, List.getLast?_cons, LinkMonitor.changes_getLast?]

/-- A watcher at work sends its reports one after the other. By induction on the probes. -/
theorem Talk.watchFrom {probes : List Bool} {answers : List (Option LinkState)}
    {channel : LinkChannel}
    (talk : Talk initial (reports (probes.map .ofUp)) answers channel)
    (sending : channel.sending = true) (more : List Bool)
    : Talk initial (reports ((probes ++ more).map .ofUp)) answers
        (channel.watchFrom (probes.getLast?.map .ofUp) more) := by
  induction more generalizing probes channel with
  | nil =>
      rw [List.append_nil]
      exact talk
  | cons up rest ih =>
      have reported := reports_concat (probes.map .ofUp) (.ofUp up)
      rw [List.getLast?_map] at reported
      have split : probes ++ up :: rest = (probes ++ [up]) ++ rest := by simp
      have last : ((probes ++ [up]).getLast?.map LinkState.ofUp) = some (.ofUp up) := by simp
      rw [LinkChannel.watchFrom, split]
      split
      next same =>
        -- The probe repeats the last report, so nothing is sent.
        rw [if_pos same, List.append_nil] at reported
        rw [same, ← last]
        refine ih ?_ sending
        rw [List.map_append, List.map_cons, List.map_nil, reported]
        exact talk
      next differs =>
        obtain ⟨monitor, found, _⟩ := talk.handsOut
        rw [if_neg differs] at reported
        have sent := talk.send sending (.ofUp up)
        have received : channel.notify (.ofUp up)
            = (true, { channel with monitor := monitor.notify (.ofUp up) }) := by
          simp only [notify, found]
        rw [received] at sent ⊢
        dsimp only
        rw [if_pos rfl, ← last]
        refine ih ?_ sending
        rw [List.map_append, List.map_cons, List.map_nil, reported]
        exact sent

/-- A watcher is one way to send: the first probe and then what differs from the last report.
By induction on its work.
-/
theorem Watched.talk {probes : List Bool} {answers : List (Option LinkState)}
    {channel : LinkChannel} (watched : Watched initial probes answers channel)
    : Talk initial (reports (probes.map .ofUp)) answers channel := by
  induction watched with
  | start => exact .start
  | probe _ sending more ih => exact ih.watchFrom sending more
  | next _ ih => exact ih.next
  | passOver _ ih => exact ih.passOver
  | dropSender _ ih => exact ih.dropSender

-----------------------------------------------------------------------------------------
-- Transitions
-----------------------------------------------------------------------------------------

/-- Whatever is sent and whenever it is asked for, the transitions are the changes in what was
sent. A watcher always reports its first probe, and yet the transitions behind it are the
changes in its probes.
-/
theorem transitions_exact (initial : LinkState)
    : (∀ {sent answers channel},
        Talk initial sent answers channel → Follows initial sent answers channel)
      ∧ ∀ {probes answers channel},
          Watched initial probes answers channel
          → Follows initial (probes.map .ofUp) answers channel
            ∧ ∃ sent,
                Talk initial sent answers channel
                ∧ sent.head? = probes.head?.map .ofUp
                ∧ sent = (probes.map .ofUp).destutter (· ≠ ·) := by
  refine ⟨fun talk => talk.follows rfl rfl, fun {probes answers channel} watched => ?_⟩
  have talk := watched.talk
  refine ⟨talk.follows (changes_reports _ _) ?_, _, talk, ?_, ?_⟩
  · rw [reports_getLast?]
  · cases probes <;> rfl
  · cases probes with
    | nil => rfl
    | cons first rest => exact LinkMonitor.cons_changes _ _

/-- A watcher whose first probe repeats the state that its monitor starts from, with a question
behind this probe and one behind all of them, after which it stops.
-/
theorem transitions_exact_first_probe_repeats
    : let left : LinkChannel := { monitor := some ⟨.down, [.up]⟩, sending := false }
      Watched .up [true, false, false, true] [none, some .down] left
      ∧ Follows .up [.up, .down, .down, .up] [none, some .down] left
      ∧ Talk .up [.up, .down, .up] [none, some .down] left
      ∧ Follows .up [.up, .down, .up] [none, some .down] left := by
  intro left
  have watched : Watched .up [true, false, false, true] [none, some .down] left :=
    ((Watched.start.probe rfl [true]).next.probe rfl [false, false, true]).next.dropSender
  obtain ⟨follows, sent, talk, _, rfl⟩ := (transitions_exact .up).2 watched
  exact ⟨watched, follows, talk, (transitions_exact .up).1 talk⟩

end LinkChannel

end Handheld
