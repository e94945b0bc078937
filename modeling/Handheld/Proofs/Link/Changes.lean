import Mathlib.Data.List.Destutter
import Handheld.Link.Monitor

/-! The changes in a list of link reports: what is left when repeats are dropped, also of the
state before them. Main statements: the changes of reports that come in two parts are those of
each part behind the other, and asking for the next change takes the first of them.
-/

namespace Handheld

namespace LinkMonitor

/-- The changes are what is left of the reports when repeats are removed, also of the state
before them. By induction on the reports.
-/
theorem cons_changes (current : LinkState) (reports : List LinkState)
    : current :: changes current reports = (current :: reports).destutter (· ≠ ·) := by
  rw [List.destutter_cons']
  induction reports generalizing current with
  | nil => rfl
  | cons state rest ih =>
      rw [changes, List.destutter'_cons]
      by_cases same : state = current
      · subst same
        simpa using ih state
      · rw [if_neg same, if_pos (Ne.symm same), ih]

theorem isChain_changes (current : LinkState) (reports : List LinkState)
    : (current :: changes current reports).IsChain (· ≠ ·) := by
  rw [cons_changes]
  exact List.isChain_destutter _ _

/-- The last change leads to the last report, by induction on the reports. -/
theorem changes_getLast? (current : LinkState) (reports : List LinkState)
    : ((changes current reports).getLast?).getD current
      = (reports.getLast?).getD current := by
  induction reports generalizing current with
  | nil => rfl
  | cons state rest ih =>
      rw [changes, List.getLast?_cons, Option.getD_some]
      split
      next same =>
        subst same
        exact ih state
      next => rw [List.getLast?_cons, Option.getD_some, ih]

/-- Reports that come in two parts: the second part starts from the last report of the first.
By induction on the first part.
-/
theorem changes_append (current : LinkState) (earlier later : List LinkState)
    : changes current (earlier ++ later)
      = changes current earlier ++ changes ((earlier.getLast?).getD current) later := by
  induction earlier generalizing current with
  | nil => rfl
  | cons state rest ih =>
      rw [List.cons_append, changes, changes, List.getLast?_cons, Option.getD_some]
      split
      next same =>
        subst same
        exact ih state
      next => rw [ih, List.cons_append]

/-- Where nothing repeats the state before it, every report is a change. -/
theorem changes_of_isChain {current : LinkState} {reports : List LinkState}
    (chain : (current :: reports).IsChain (· ≠ ·))
    : changes current reports = reports := by
  have kept := List.destutter_of_isChain _ _ chain
  rw [← cons_changes] at kept
  exact List.tail_eq_of_cons_eq kept

/-- What one question for a change gives of a queue of reports, and what it leaves of it. -/
structure Asked (current : LinkState) (queue : List LinkState)
    (answer : Option LinkState) (left : LinkMonitor)
    : Prop where
  taken : answer.toList ++ changes left.current left.queue = changes current queue
  current_eq : left.current = answer.getD current
  fresh : answer ≠ some current
  latest : (left.queue.getLast?).getD left.current = (queue.getLast?).getD current
  emptied : answer = none → left.queue = []

/-- Reports that repeat the current state are passed over, by induction on the queue. -/
theorem nextFrom_asked (current : LinkState) (queue : List LinkState)
    : Asked current queue (nextFrom current queue).1 (nextFrom current queue).2 := by
  induction queue with
  | nil =>
      exact {
        taken := rfl
        current_eq := rfl
        fresh := nofun
        latest := rfl
        emptied := fun _ => rfl
      }
  | cons state rest ih =>
      rw [nextFrom]
      split
      next same =>
        subst same
        exact {
          taken := by rw [ih.taken, changes, if_pos rfl]
          current_eq := ih.current_eq
          fresh := ih.fresh
          latest := by rw [ih.latest, List.getLast?_cons, Option.getD_some]
          emptied := ih.emptied
        }
      next differs =>
        exact {
          taken := by rw [changes, if_neg differs]; rfl
          current_eq := rfl
          fresh := fun same => differs (Option.some.inj same)
          latest := by rw [List.getLast?_cons, Option.getD_some]
          emptied := nofun
        }

end LinkMonitor

end Handheld
