import ApiDiscovery.Proofs.FanOut.Join

/-!
# Joins round by round

A join can also be watched from outside: in every round it is polled once, and
gives an error that is noticed by then, or all results, or nothing yet.  Both
views agree: the poll in the round that a join records is the first one that
gives anything, and it gives what the join records.
-/

namespace ApiDiscovery.FanOut

variable {ε α : Type}

def known (tasks : List (Task ε α)) (round : Nat) : Slots ε α :=
  tasks.map fun task => if task.rounds ≤ round then some task.result else none

/-- What the poll in this round gives, if it gives anything. -/
def poll (rule : Rule) (tasks : List (Task ε α)) (round : Nat) : Option (Except ε (List α)) :=
  match noticed rule (known tasks round) with
  | some error => some (.error error)
  | none =>
      if tasks.all fun task => task.rounds ≤ round then some (.ok (collected (known tasks round)))
      else none

section

variable {rule : Rule} {tasks : List (Task ε α)} {round place : Nat} {task : Task ε α} {error : ε}

theorem getElem?_known (started : tasks[place]? = some task) :
    (known tasks round)[place]? =
      some (if task.rounds ≤ round then some task.result else none) := by
  rw [known, List.getElem?_map, started]
  rfl

/-- An error that is known is that of a task which has landed. -/
theorem task_of_known (held : (known tasks round)[place]? = some (some (.error error))) :
    ∃ task, tasks[place]? = some task ∧ task.rounds ≤ round ∧ task.result = .error error := by
  rw [known, List.getElem?_map] at held
  obtain ⟨task, started, same⟩ := Option.map_eq_some_iff.1 held
  split at same
  · next landed => exact ⟨task, started, landed, Option.some.inj same⟩
  · cases same

theorem known_of_last (last : IsLastRound tasks round) :
    known tasks round = tasks.map fun task => some task.result := by
  apply List.map_congr_left
  intro task member
  rw [if_pos (last.1 task member)]

/-- While a task has not landed, a poll gives an error or nothing. -/
theorem poll_eq_none (quiet : noticed rule (known tasks round) = none) (member : task ∈ tasks)
    (pending : round < task.rounds) : poll rule tasks round = none := by
  unfold poll
  rw [quiet]
  apply if_neg
  intro all
  have landed := of_decide_eq_true (List.all_eq_true.1 all task member)
  exact absurd landed (Nat.not_le_of_lt pending)

theorem poll_eq_error (notice : noticed rule (known tasks round) = some error) :
    poll rule tasks round = some (.error error) := by
  unfold poll
  rw [notice]

/-- Tasks that succeed are waited for until the last one has landed. -/
theorem poll_of_succeed {values : List α} (succeed : Succeed tasks values)
    (last : IsLastRound tasks round) :
    (∀ earlier < round, poll rule tasks earlier = none) ∧
      poll rule tasks round = some (.ok values) := by
  have quiet (any : Nat) : noticed rule (known tasks any) = none := by
    cases notice : noticed rule (known tasks any) with
    | none => rfl
    | some error =>
        obtain ⟨place, held, _⟩ := noticed_eq_some_iff.1 notice
        obtain ⟨task, started, _, fails⟩ := task_of_known held
        obtain ⟨value, succeeds⟩ := succeed.of_mem (List.mem_of_getElem? started)
        rw [fails] at succeeds
        cases succeeds
  constructor
  · intro earlier less
    rcases last.2 with zero | ⟨task, member, same⟩
    · omega
    · exact poll_eq_none (quiet earlier) member (by omega)
  · have all : (tasks.all fun task => task.rounds ≤ round) = true :=
      List.all_eq_true.2 fun task member => decide_eq_true (last.1 task member)
    have landed := quiet round
    rw [known_of_last last] at landed
    unfold poll
    rw [known_of_last last, landed]
    dsimp only
    rw [if_pos all, (succeed_collected landed).unique succeed]

/-- In a group watched as a whole, the first failure in time is the first error that is given. -/
theorem poll_of_failsFirst (failsFirst : FailsFirst tasks place task error) :
    (∀ earlier < task.rounds, poll .asAWhole tasks earlier = none) ∧
      poll .asAWhole tasks task.rounds = some (.error error) := by
  constructor
  · intro earlier less
    refine poll_eq_none ?_ (List.mem_of_getElem? failsFirst.started) less
    cases notice : noticed .asAWhole (known tasks earlier) with
    | none => rfl
    | some reason =>
        obtain ⟨other, held, _⟩ := noticed_eq_some_iff.1 notice
        obtain ⟨rival, started, landed, fails⟩ := task_of_known held
        have first := failsFirst.first other rival reason started fails
        omega
  · refine poll_eq_error (noticed_eq_some_iff.2 ⟨place, ?_, ?_⟩)
    · rw [getElem?_known failsFirst.started, if_pos (Nat.le_refl _), failsFirst.fails]
    · intro other less slot held
      cases slot with
      | none => trivial
      | some result =>
          cases result with
          | ok value => trivial
          | error reason =>
              obtain ⟨rival, started, landed, fails⟩ := task_of_known held
              have first := failsFirst.first other rival reason started fails
              omega

/-- In order, nothing is noticed while a task is waited for that has only successes before it. -/
theorem noticed_of_pending (started : tasks[place]? = some task) (pending : round < task.rounds)
    (succeed : ∀ earlier < place, ∀ other : Task ε α, tasks[earlier]? = some other →
      ∃ value, other.result = .ok value) :
    noticed .inOrder (known tasks round) = none := by
  cases notice : noticed .inOrder (known tasks round) with
  | none => rfl
  | some reason =>
      obtain ⟨seen, held, passed⟩ := noticed_eq_some_iff.1 notice
      obtain ⟨rival, rival_started, landed, fails⟩ := task_of_known held
      have waits : ¬ task.rounds ≤ round := Nat.not_le_of_lt pending
      rcases Nat.lt_trichotomy place seen with before | here | behind
      · have passes := passed place before _ (getElem?_known started)
        rw [if_neg waits] at passes
        exact False.elim passes
      · subst here
        rw [started] at rival_started
        cases rival_started
        exact absurd landed waits
      · obtain ⟨value, succeeds⟩ := succeed seen behind rival rival_started
        rw [fails] at succeeds
        cases succeeds

/-- In a group looked at in order, the first failure in order is the first error that is given. -/
theorem poll_of_failsInOrder (failsInOrder : FailsInOrder tasks place round error) :
    (∀ earlier < round, poll .inOrder tasks earlier = none) ∧
      poll .inOrder tasks round = some (.error error) := by
  obtain ⟨failing, failing_started, failed⟩ := failsInOrder.fails
  constructor
  · intro earlier less
    rcases failsInOrder.last.2 with zero | ⟨slowest, taken, same⟩
    · omega
    · obtain ⟨waited, within, started⟩ := exists_lt_of_mem_take taken
      have pending : earlier < slowest.rounds := by omega
      have quiet := noticed_of_pending started pending fun before sooner =>
        failsInOrder.succeed before (by omega)
      exact poll_eq_none quiet (List.mem_of_getElem? started) pending
  · refine poll_eq_error (noticed_eq_some_iff.2 ⟨place, ?_, ?_⟩)
    · have landed := failsInOrder.last.1 failing
        (mem_take_of_lt (Nat.lt_succ_self place) failing_started)
      rw [getElem?_known failing_started, if_pos landed, failed]
    · intro other less slot held
      rw [known, List.getElem?_map] at held
      obtain ⟨task, started, same⟩ := Option.map_eq_some_iff.1 held
      obtain ⟨value, succeeds⟩ := failsInOrder.succeed other less task started
      have landed := failsInOrder.last.1 task (mem_take_of_lt (Nat.lt_succ_of_lt less) started)
      rw [if_pos landed, succeeds] at same
      cases same
      trivial

end

/-- The poll in the round of a join is the first one that gives anything, and gives its result. -/
theorem poll_join (rule : Rule) (launches : List (Launch ε α)) (sent : List Request) :
    (∀ earlier < (join rule launches sent).rounds,
        poll rule (launched sent launches) earlier = none) ∧
      poll rule (launched sent launches) (join rule launches sent).rounds =
        some (join rule launches sent).result := by
  cases join_ends rule launches sent with
  | well values succeed last result_eq =>
      rw [result_eq]
      exact poll_of_succeed succeed last
  | broken error breaks result_eq =>
      rw [result_eq]
      cases rule with
      | asAWhole =>
          obtain ⟨place, task, failsFirst, same⟩ := breaks
          rw [← same]
          exact poll_of_failsFirst failsFirst
      | inOrder =>
          obtain ⟨place, failsInOrder⟩ := breaks
          exact poll_of_failsInOrder failsInOrder

end ApiDiscovery.FanOut
