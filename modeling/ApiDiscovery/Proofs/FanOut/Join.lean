import ApiDiscovery.Proofs.FanOut.Landing

/-!
# Joins

A join is read off its tasks, started one behind the other.  `join_ends` says
how it ends: well if and only if every task does, whatever the rounds, and
otherwise in the round and with the error that `Rule.Breaks` names.
`join_requests` says what it sends: all that its tasks send when they are
started, up to the first error that is noticed at once.
-/

namespace ApiDiscovery.FanOut

variable {ε α : Type}

/-! ## Starting -/

/-- The tasks of a group, each started behind the requests of those before it. -/
def launched (sent : List Request) : List (Launch ε α) → List (Task ε α)
  | [] => []
  | launch :: launches =>
      launch sent :: launched (sent ++ (launch sent).requests) launches

theorem exists_of_mem_launched {sent : List Request} {launches : List (Launch ε α)}
    {task : Task ε α} (member : task ∈ launched sent launches) :
    ∃ launch ∈ launches, ∃ before, launch before = task := by
  induction launches generalizing sent with
  | nil => cases member
  | cons launch launches ih =>
      rw [launched] at member
      rcases List.mem_cons.1 member with rfl | later
      · exact ⟨launch, List.mem_cons_self, sent, rfl⟩
      · obtain ⟨other, found, same⟩ := ih later
        exact ⟨other, List.mem_cons_of_mem _ found, same⟩

def requestsOf (tasks : List (Task ε α)) : List Request := tasks.flatMap Task.requests

theorem requestsOf_append (tasks later : List (Task ε α)) :
    requestsOf (tasks ++ later) = requestsOf tasks ++ requestsOf later :=
  List.flatMap_append

namespace Afoot

variable {tasks : List (Task ε α)} {round : Nat} {slots : Slots ε α}
  {waiting : List (Nat × Task ε α)}

theorem place_lt (afoot : Afoot tasks round slots waiting) {pair : Nat × Task ε α}
    (member : pair ∈ waiting) : pair.1 < slots.length :=
  (List.getElem?_eq_some_iff.1 ((afoot.mem_waiting pair.1 pair.2).1 member).2).1

/-- One more task is started and waits. -/
theorem launch (afoot : Afoot tasks 0 slots waiting) (task : Task ε α) :
    Afoot (tasks ++ [task]) 0 (slots ++ [none]) (enqueue slots.length task waiting) := by
  refine ⟨?_, pairwise_enqueue task afoot.ordered fun _ => afoot.place_lt, ?_, ?_,
    fun _ _ => Nat.zero_le _, .inl rfl⟩
  · rw [List.length_append, List.length_append, afoot.length_eq]
    rfl
  · intro place known
    rw [mem_enqueue, afoot.mem_waiting]
    rcases Nat.lt_trichotomy place slots.length with less | same | more
    · rw [List.getElem?_append_left (afoot.length_eq ▸ less), List.getElem?_append_left less]
      constructor
      · rintro (head | held)
        · exact absurd (congrArg Prod.fst head) (Nat.ne_of_lt less)
        · exact held
      · exact .inr
    · subst same
      rw [List.getElem?_concat_length, afoot.length_eq, List.getElem?_concat_length]
      constructor
      · rintro (head | ⟨_, held⟩)
        · exact ⟨congrArg (some ∘ Prod.snd) head.symm, rfl⟩
        · rw [← afoot.length_eq, List.getElem?_eq_none (Nat.le_refl _)] at held
          cases held
      · rintro ⟨held, _⟩
        exact .inl (Prod.ext rfl (Option.some.inj held).symm)
    · have beyond : (slots ++ [none])[place]? = none :=
        List.getElem?_eq_none (by rw [List.length_append]; exact more)
      rw [beyond, List.getElem?_eq_none (Nat.le_of_lt more)]
      constructor
      · rintro (head | ⟨_, held⟩)
        · exact absurd (congrArg Prod.fst head) (Nat.ne_of_gt more)
        · cases held
      · rintro ⟨_, held⟩
        cases held
  · intro place known result started held
    rcases Nat.lt_or_ge place slots.length with less | beyond
    · rw [List.getElem?_append_left less] at held
      rw [List.getElem?_append_left (afoot.length_eq ▸ less)] at started
      exact afoot.landed place known result started held
    · rw [List.getElem?_append_right beyond] at held
      have member := List.mem_of_getElem? held
      simp at member

end Afoot

/-- What breaks a group in its first round breaks it whatever else would have been started. -/
theorem Rule.Breaks.append {rule : Rule} {tasks : List (Task ε α)} {error : ε}
    (breaks : rule.Breaks tasks 0 error) (later : List (Task ε α)) :
    rule.Breaks (tasks ++ later) 0 error := by
  cases rule with
  | asAWhole =>
      obtain ⟨place, task, failsFirst, immediate⟩ := breaks
      have bound := (List.getElem?_eq_some_iff.1 failsFirst.started).1
      refine ⟨place, task, ⟨?_, failsFirst.fails, ?_⟩, immediate⟩
      · rw [List.getElem?_append_left bound]
        exact failsFirst.started
      · intro other rival reason rival_started rival_fails
        rcases Nat.lt_or_ge other tasks.length with less | beyond
        · rw [List.getElem?_append_left less] at rival_started
          exact failsFirst.first other rival reason rival_started rival_fails
        · have behind : place ≤ other := Nat.le_trans (Nat.le_of_lt bound) beyond
          rw [immediate]
          rcases Nat.eq_zero_or_pos rival.rounds with none | some
          · exact .inr ⟨none.symm, behind⟩
          · exact .inl some
  | inOrder =>
      obtain ⟨place, ⟨task, started, fails⟩, succeed, last⟩ := breaks
      have bound := (List.getElem?_eq_some_iff.1 started).1
      refine ⟨place, ⟨task, ?_, fails⟩, ?_, ?_⟩
      · rw [List.getElem?_append_left bound]
        exact started
      · intro earlier less known known_started
        rw [List.getElem?_append_left (Nat.lt_trans less bound)] at known_started
        exact succeed earlier less known known_started
      · rw [List.take_append_of_le_length bound]
        exact last

/-- Starting tasks ends as all the tasks say, those included that are never started. -/
theorem start_ends {rule : Rule} {sent : List Request} (launches : List (Launch ε α))
    {tasks : List (Task ε α)} (requests : List Request) (log : List Event) {slots : Slots ε α}
    {waiting : List (Nat × Task ε α)} (afoot : Afoot tasks 0 slots waiting)
    (later : ∀ pair ∈ waiting, 0 < pair.2.rounds) (quiet : noticed rule slots = none) :
    Ends rule (tasks ++ launched (sent ++ requests) launches)
      (start rule sent launches ⟨requests, log, slots, waiting⟩) := by
  induction launches generalizing tasks requests log slots waiting with
  | nil =>
      rw [launched, List.append_nil]
      exact land_ends _ _ afoot quiet
  | cons launch launches ih =>
      rw [launched, List.append_cons, List.append_assoc sent]
      unfold start
      dsimp only
      generalize launch (sent ++ requests) = task
      have waits := afoot.launch task
      have still : noticed rule (slots ++ [none]) = none := by rw [noticed_append_none, quiet]
      by_cases immediate : task.rounds = 0
      · rw [if_pos immediate]
        rw [enqueue_of_immediate immediate later] at waits
        have filled : (slots ++ [none]).set slots.length (some task.result) =
            slots ++ [some task.result] := by simp
        have lands := waits.land
        rw [filled, immediate] at lands
        cases notice : noticed rule (slots ++ [some task.result]) with
        | none => exact ih _ _ lands later notice
        | some error =>
            have breaks := waits.breaks still (filled.symm ▸ notice)
            rw [immediate] at breaks
            exact .broken error (breaks.append _) rfl
      · rw [if_neg immediate]
        refine ih _ _ waits ?_ still
        intro pair member
        rcases mem_enqueue.1 member with rfl | old
        · exact Nat.pos_of_ne_zero immediate
        · exact later pair old

/-- A join ends as its tasks say. -/
theorem join_ends (rule : Rule) (launches : List (Launch ε α)) (sent : List Request) :
    Ends rule (launched sent launches) (join rule launches sent) := by
  have afoot : Afoot ([] : List (Task ε α)) 0 [] [] :=
    ⟨rfl, .nil, by simp, by simp, by simp, .inl rfl⟩
  have ends : Ends rule ([] ++ launched (sent ++ []) launches) (join rule launches sent) :=
    start_ends launches [] [] afoot (by simp) (by cases rule <;> rfl)
  rwa [List.append_nil] at ends

/-! ## Results -/

theorem Succeed.of_mem {tasks : List (Task ε α)} {values : List α} (succeed : Succeed tasks values)
    {task : Task ε α} (member : task ∈ tasks) : ∃ value, task.result = .ok value := by
  induction succeed with
  | nil => cases member
  | cons first rest ih =>
      rcases List.mem_cons.1 member with rfl | later
      · exact ⟨_, first⟩
      · exact ih later

theorem Succeed.exists_of_value {tasks : List (Task ε α)} {values : List α}
    (succeed : Succeed tasks values) {value : α} (member : value ∈ values) :
    ∃ task ∈ tasks, task.result = .ok value := by
  induction succeed with
  | nil => cases member
  | cons first rest ih =>
      rcases List.mem_cons.1 member with rfl | later
      · exact ⟨_, List.mem_cons_self, first⟩
      · obtain ⟨task, found, done⟩ := ih later
        exact ⟨task, List.mem_cons_of_mem _ found, done⟩

theorem Succeed.unique {tasks : List (Task ε α)} {values others : List α}
    (succeed : Succeed tasks values) (again : Succeed tasks others) : values = others := by
  induction succeed generalizing others with
  | nil => cases again; rfl
  | cons first rest ih =>
      cases again with
      | cons other others =>
          rw [first] at other
          rw [Except.ok.inj other, ih others]

/-- The tasks of a group of one task for each entry of a list succeed together as each one does. -/
theorem succeed_launched_map_iff {β : Type} {launch : β → Launch ε α} {R : β → α → Prop}
    (each : ∀ entry sent value, (launch entry sent).result = .ok value ↔ R entry value)
    (sent : List Request) (entries : List β) (values : List α) :
    Succeed (launched sent (entries.map launch)) values ↔ List.Forall₂ R entries values := by
  induction entries generalizing sent values with
  | nil =>
      constructor
      · intro succeed
        cases succeed
        exact .nil
      · intro related
        cases related
        exact .nil
  | cons entry entries ih =>
      rw [List.map_cons, launched]
      constructor
      · intro succeed
        cases succeed with
        | cons first rest => exact .cons ((each _ _ _).1 first) ((ih _ _).1 rest)
      · intro related
        cases related with
        | cons first rest => exact .cons ((each _ _ _).2 first) ((ih _ _).2 rest)

namespace Rule.Breaks

variable {rule : Rule} {tasks : List (Task ε α)} {round : Nat} {error : ε}

/-- What breaks a group is the error of one of its tasks, which has landed by then. -/
theorem exists_mem (breaks : rule.Breaks tasks round error) :
    ∃ task ∈ tasks, task.result = .error error ∧ task.rounds ≤ round := by
  cases rule with
  | asAWhole =>
      obtain ⟨place, task, failsFirst, same⟩ := breaks
      exact ⟨task, List.mem_of_getElem? failsFirst.started, failsFirst.fails, Nat.le_of_eq same⟩
  | inOrder =>
      obtain ⟨place, ⟨task, started, fails⟩, _, last⟩ := breaks
      exact ⟨task, List.mem_of_getElem? started, fails,
        last.1 task (mem_take_of_lt (Nat.lt_succ_self place) started)⟩

theorem not_succeed (breaks : rule.Breaks tasks round error) {values : List α} :
    ¬ Succeed tasks values := by
  intro succeed
  obtain ⟨task, member, fails, _⟩ := breaks.exists_mem
  obtain ⟨value, succeeds⟩ := succeed.of_mem member
  rw [fails] at succeeds
  cases succeeds

end Rule.Breaks

theorem IsLastRound.unique {tasks : List (Task ε α)} {round other : Nat}
    (last : IsLastRound tasks round) (again : IsLastRound tasks other) : round = other := by
  have le {first second : Nat} (one : IsLastRound tasks first) (two : IsLastRound tasks second) :
      first ≤ second := by
    rcases one.2 with zero | ⟨task, member, same⟩
    · exact zero ▸ Nat.zero_le _
    · exact same ▸ two.1 task member
  exact Nat.le_antisymm (le last again) (le again last)

theorem FailsFirst.unique {tasks : List (Task ε α)} {place other : Nat} {task rival : Task ε α}
    {error reason : ε} (failsFirst : FailsFirst tasks place task error)
    (again : FailsFirst tasks other rival reason) : place = other ∧ task = rival := by
  have same : place = other := by
    have one := failsFirst.first other rival reason again.started again.fails
    have two := again.first place task error failsFirst.started failsFirst.fails
    omega
  subst same
  exact ⟨rfl, Option.some.inj (failsFirst.started.symm.trans again.started)⟩

theorem FailsInOrder.place_unique {tasks : List (Task ε α)} {place other round later : Nat}
    {error reason : ε} (fails : FailsInOrder tasks place round error)
    (again : FailsInOrder tasks other later reason) : place = other := by
  have not_lt {first second one two : Nat} {why whyNot : ε}
      (failing : FailsInOrder tasks first one why)
      (rival : FailsInOrder tasks second two whyNot) : ¬ first < second := by
    intro less
    obtain ⟨task, started, fails⟩ := failing.fails
    obtain ⟨value, succeeds⟩ := rival.succeed first less task started
    rw [fails] at succeeds
    cases succeeds
  exact Nat.le_antisymm (Nat.le_of_not_lt (not_lt again fails))
    (Nat.le_of_not_lt (not_lt fails again))

/-- The tasks alone decide when a group breaks, and why. -/
theorem Rule.Breaks.unique {rule : Rule} {tasks : List (Task ε α)} {round later : Nat}
    {error reason : ε} (breaks : rule.Breaks tasks round error)
    (again : rule.Breaks tasks later reason) : round = later ∧ error = reason := by
  cases rule with
  | asAWhole =>
      obtain ⟨place, task, failsFirst, same⟩ := breaks
      obtain ⟨other, rival, failsToo, sameToo⟩ := again
      obtain ⟨_, rfl⟩ := failsFirst.unique failsToo
      have errors := failsFirst.fails.symm.trans failsToo.fails
      exact ⟨same.symm.trans sameToo, Except.error.inj errors⟩
  | inOrder =>
      obtain ⟨place, fails⟩ := breaks
      obtain ⟨other, failsToo⟩ := again
      have same := fails.place_unique failsToo
      subst same
      obtain ⟨task, started, task_fails⟩ := fails.fails
      obtain ⟨rival, rival_started, rival_fails⟩ := failsToo.fails
      rw [started] at rival_started
      cases rival_started
      exact ⟨fails.last.unique failsToo.last,
        Except.error.inj (task_fails.symm.trans rival_fails)⟩

section

variable {rule : Rule} {launches : List (Launch ε α)} {sent : List Request}

/-- A join succeeds exactly when all its tasks do, and then with their values in order. -/
theorem join_result_eq_ok_iff {values : List α} :
    (join rule launches sent).result = .ok values ↔ Succeed (launched sent launches) values := by
  cases join_ends rule launches sent with
  | well others succeed last result_eq =>
      rw [result_eq]
      constructor
      · intro same
        exact Except.ok.inj same ▸ succeed
      · intro again
        rw [succeed.unique again]
  | broken error breaks result_eq =>
      rw [result_eq]
      constructor
      · intro impossible
        cases impossible
      · intro succeed
        exact absurd succeed breaks.not_succeed

/-- A join fails in the round and with the error that break its group. -/
theorem join_of_breaks {round : Nat} {error : ε}
    (breaks : rule.Breaks (launched sent launches) round error) :
    (join rule launches sent).rounds = round ∧
      (join rule launches sent).result = .error error := by
  cases join_ends rule launches sent with
  | well values succeed last result_eq => exact absurd succeed breaks.not_succeed
  | broken reason again result_eq =>
      obtain ⟨rfl, rfl⟩ := again.unique breaks
      exact ⟨rfl, result_eq⟩

/-- A failed join has noticed the error of one of its tasks. -/
theorem breaks_of_join {error : ε} (failed : (join rule launches sent).result = .error error) :
    rule.Breaks (launched sent launches) (join rule launches sent).rounds error := by
  cases join_ends rule launches sent with
  | well values succeed last result_eq =>
      rw [result_eq] at failed
      cases failed
  | broken reason breaks result_eq =>
      rw [result_eq] at failed
      cases failed
      exact breaks

theorem join_fails_iff {round : Nat} {error : ε} :
    (join rule launches sent).rounds = round ∧ (join rule launches sent).result = .error error ↔
      rule.Breaks (launched sent launches) round error := by
  constructor
  · rintro ⟨rfl, failed⟩
    exact breaks_of_join failed
  · exact join_of_breaks

/-- A join of tasks that are all done at once is over in its first round. -/
theorem join_rounds_eq_zero (immediate : ∀ task ∈ launched sent launches, task.rounds = 0) :
    (join rule launches sent).rounds = 0 := by
  have zero_of_last {tasks : List (Task ε α)} {round : Nat}
      (known : ∀ task ∈ tasks, task.rounds = 0) (last : IsLastRound tasks round) : round = 0 := by
    rcases last.2 with zero | ⟨task, member, same⟩
    · exact zero
    · exact same.symm.trans (known task member)
  cases join_ends rule launches sent with
  | well values succeed last result_eq => exact zero_of_last immediate last
  | broken error breaks result_eq =>
      cases rule with
      | asAWhole =>
          obtain ⟨place, task, failsFirst, same⟩ := breaks
          exact same.symm.trans (immediate task (List.mem_of_getElem? failsFirst.started))
      | inOrder =>
          obtain ⟨place, fails⟩ := breaks
          exact zero_of_last (fun task member => immediate task (List.mem_of_mem_take member))
            fails.last

end

/-! ## Requests -/

theorem land_requests (rule : Rule) (requests : List Request) (round : Nat) (log : List Event)
    (slots : Slots ε α) (waiting : List (Nat × Task ε α)) :
    (land rule requests round log slots waiting).requests = requests := by
  induction waiting generalizing round log slots with
  | nil => rfl
  | cons head rest ih =>
      unfold land
      dsimp only
      split
      · rfl
      · exact ih _ _ _

/-- What the slot of a task holds when the task has just been started. -/
def firstSlot (task : Task ε α) : Option (Except ε α) :=
  if task.rounds = 0 then some task.result else none

/-- The tasks that are started at all: those up to an error that is noticed at once. -/
def started (rule : Rule) : Slots ε α → List (Task ε α) → List (Task ε α)
  | _, [] => []
  | slots, task :: tasks =>
      match noticed rule (slots ++ [firstSlot task]) with
      | some _ => [task]
      | none => task :: started rule (slots ++ [firstSlot task]) tasks

theorem started_isPrefix (rule : Rule) (slots : Slots ε α) (tasks : List (Task ε α)) :
    started rule slots tasks <+: tasks := by
  induction tasks generalizing slots with
  | nil => exact List.nil_prefix
  | cons task tasks ih =>
      unfold started
      split
      · exact List.cons_prefix_cons.2 ⟨rfl, List.nil_prefix⟩
      · exact List.cons_prefix_cons.2 ⟨rfl, ih _⟩

/-- All tasks are started unless one of them fails at once. -/
theorem started_eq_self {rule : Rule} {slots : Slots ε α} {tasks : List (Task ε α)}
    (quiet : noticed rule slots = none)
    (none_fails : ∀ task ∈ tasks, task.rounds = 0 → ∃ value, task.result = .ok value) :
    started rule slots tasks = tasks := by
  induction tasks generalizing slots with
  | nil => rfl
  | cons task tasks ih =>
      have still : noticed rule (slots ++ [firstSlot task]) = none := by
        unfold firstSlot
        split
        · next immediate =>
            obtain ⟨value, succeeds⟩ := none_fails task List.mem_cons_self immediate
            rw [succeeds]
            exact noticed_append_ok quiet value
        · rw [noticed_append_none, quiet]
      unfold started
      rw [still]
      dsimp only
      rw [ih still fun other member => none_fails other (List.mem_cons_of_mem _ member)]

/-- Starting sends the requests of the tasks that are started, in their order. -/
theorem start_requests (rule : Rule) (sent : List Request) (launches : List (Launch ε α))
    (requests : List Request) (log : List Event) {slots : Slots ε α}
    (waiting : List (Nat × Task ε α)) (quiet : noticed rule slots = none) :
    (start rule sent launches ⟨requests, log, slots, waiting⟩).requests =
      requests ++ requestsOf (started rule slots (launched (sent ++ requests) launches)) := by
  induction launches generalizing requests log slots waiting with
  | nil =>
      rw [start, land_requests]
      exact (List.append_nil _).symm
  | cons launch launches ih =>
      unfold start
      rw [launched, List.append_assoc sent, started]
      dsimp only
      generalize launch (sent ++ requests) = task
      by_cases immediate : task.rounds = 0
      · rw [if_pos immediate, firstSlot, if_pos immediate]
        cases notice : noticed rule (slots ++ [some task.result]) with
        | some error =>
            dsimp only [Progress.failed]
            rw [requestsOf, List.flatMap_singleton]
        | none =>
            dsimp only
            rw [ih _ _ _ notice, List.append_assoc, requestsOf, requestsOf, List.flatMap_cons]
      · have still : noticed rule (slots ++ [none]) = none := by rw [noticed_append_none, quiet]
        rw [if_neg immediate, firstSlot, if_neg immediate, still, ih _ _ _ still,
          List.append_assoc, requestsOf, requestsOf, List.flatMap_cons]

/-- A join sends the requests of the tasks that are started, in their order. -/
theorem join_requests (rule : Rule) (launches : List (Launch ε α)) (sent : List Request) :
    (join rule launches sent).requests =
      requestsOf (started rule [] (launched sent launches)) := by
  have quiet : noticed rule ([] : Slots ε α) = none := by cases rule <;> rfl
  have same := start_requests rule sent launches [] [] [] quiet
  rwa [List.append_nil] at same

end ApiDiscovery.FanOut
