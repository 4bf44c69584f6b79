import ApiDiscovery.FanOut
import Mathlib.Data.List.Forall2

/-!
# Tasks landing one after the other

The queue of a join is kept in the order in which its tasks land: by round, and
within a round by place.  `Afoot` is what holds of a join between two landings;
`Afoot.land` is the step, and `land_ends` the whole run.  A join ends well when
every task does, and otherwise with the error that is noticed first, which under
either rule is a matter of the tasks alone.
-/

namespace ApiDiscovery.FanOut

variable {ε α : Type}

/-! ## Noticing an error -/

/-- The look for an error goes on behind this slot. -/
def Rule.Passes : Rule → Option (Except ε α) → Prop
  | _, some (.ok _) => True
  | _, some (.error _) => False
  | .asAWhole, none => True
  | .inOrder, none => False

theorem noticed_cons_of_passes {rule : Rule} {slot : Option (Except ε α)} (slots : Slots ε α)
    (passes : rule.Passes slot) : noticed rule (slot :: slots) = noticed rule slots := by
  cases slot with
  | none =>
      cases rule with
      | asAWhole => rfl
      | inOrder => exact False.elim passes
  | some result =>
      cases result with
      | ok value => cases rule <;> rfl
      | error error => exact False.elim passes

theorem noticed_cons_of_not_passes {rule : Rule} {slot : Option (Except ε α)} {error : ε}
    (slots : Slots ε α) (blocks : ¬ rule.Passes slot) :
    noticed rule (slot :: slots) = some error ↔ slot = some (.error error) := by
  cases slot with
  | none =>
      cases rule with
      | asAWhole => exact False.elim (blocks trivial)
      | inOrder =>
          constructor
          · intro notice; cases notice
          · intro impossible; cases impossible
  | some result =>
      cases result with
      | ok value => cases rule <;> exact False.elim (blocks trivial)
      | error other =>
          have seen : noticed rule (some (.error other) :: slots) = some other := by
            cases rule <;> rfl
          rw [seen]
          simp

/-- The error noticed is the first one that the look reaches. -/
theorem noticed_eq_some_iff {rule : Rule} {slots : Slots ε α} {error : ε} :
    noticed rule slots = some error ↔
      ∃ place : Nat, slots[place]? = some (some (Except.error error)) ∧
        ∀ earlier < place, ∀ slot, slots[earlier]? = some slot → rule.Passes slot := by
  induction slots with
  | nil => simp [noticed]
  | cons slot slots ih =>
      by_cases passes : rule.Passes slot
      · rw [noticed_cons_of_passes slots passes, ih]
        constructor
        · rintro ⟨place, found, before⟩
          refine ⟨place + 1, found, ?_⟩
          intro earlier less other held
          cases earlier with
          | zero =>
              have same : slot = other := Option.some.inj held
              exact same ▸ passes
          | succ earlier => exact before earlier (Nat.lt_of_succ_lt_succ less) other held
        · rintro ⟨place, found, before⟩
          cases place with
          | zero =>
              have same : slot = some (.error error) := Option.some.inj found
              rw [same] at passes
              cases rule <;> exact False.elim passes
          | succ place =>
              refine ⟨place, found, ?_⟩
              intro earlier less other held
              exact before (earlier + 1) (Nat.succ_lt_succ less) other held
      · rw [noticed_cons_of_not_passes slots passes]
        constructor
        · rintro rfl
          exact ⟨0, rfl, fun earlier less => absurd less (Nat.not_lt_zero _)⟩
        · rintro ⟨place, found, before⟩
          cases place with
          | zero => exact Option.some.inj found
          | succ place => exact False.elim (passes (before 0 (Nat.succ_pos place) slot rfl))

/-- A task that has just been started hides no error and is none. -/
theorem noticed_append_none (rule : Rule) (slots : Slots ε α) :
    noticed rule (slots ++ [none]) = noticed rule slots := by
  induction slots with
  | nil => cases rule <;> rfl
  | cons slot slots ih =>
      rw [List.cons_append]
      by_cases passes : rule.Passes slot
      · rw [noticed_cons_of_passes _ passes, noticed_cons_of_passes _ passes, ih]
      · apply Option.ext
        intro error
        rw [noticed_cons_of_not_passes _ passes, noticed_cons_of_not_passes _ passes]

theorem noticed_append_ok {rule : Rule} {slots : Slots ε α} (quiet : noticed rule slots = none)
    (value : α) : noticed rule (slots ++ [some (.ok value)]) = none := by
  induction slots with
  | nil => cases rule <;> rfl
  | cons slot slots ih =>
      rw [List.cons_append]
      by_cases passes : rule.Passes slot
      · rw [noticed_cons_of_passes _ passes] at quiet ⊢
        exact ih quiet
      · cases notice : noticed rule (slot :: (slots ++ [some (.ok value)])) with
        | none => rfl
        | some error =>
            have blocked := (noticed_cons_of_not_passes _ passes).1 notice
            rw [(noticed_cons_of_not_passes slots passes).2 blocked] at quiet
            cases quiet

/-- A group watched as a whole has no error in its slots while none is noticed. -/
theorem error_not_mem_of_quiet {slots : Slots ε α} (quiet : noticed .asAWhole slots = none)
    (error : ε) : some (.error error) ∉ slots := by
  induction slots with
  | nil => exact List.not_mem_nil
  | cons slot slots ih =>
      cases slot with
      | none => simpa using ih quiet
      | some result =>
          cases result with
          | ok value => simpa using ih quiet
          | error other => cases quiet

/-! ## The queue -/

/-- The first of two placed tasks lands before the second. -/
def LandsBefore (first second : Nat × Task ε α) : Prop :=
  first.2.rounds < second.2.rounds ∨
    first.2.rounds = second.2.rounds ∧ first.1 < second.1

theorem mem_enqueue {place : Nat} {task : Task ε α} {waiting : List (Nat × Task ε α)}
    {pair : Nat × Task ε α} :
    pair ∈ enqueue place task waiting ↔ pair = (place, task) ∨ pair ∈ waiting := by
  induction waiting with
  | nil => simp [enqueue]
  | cons head rest ih =>
      unfold enqueue
      split
      · simp only [List.mem_cons]
      · simp only [List.mem_cons, ih]
        exact or_left_comm

/-- A task started behind all others of the queue keeps the queue in order. -/
theorem pairwise_enqueue {place : Nat} (task : Task ε α) {waiting : List (Nat × Task ε α)}
    (ordered : waiting.Pairwise LandsBefore) (behind : ∀ pair ∈ waiting, pair.1 < place) :
    (enqueue place task waiting).Pairwise LandsBefore := by
  induction waiting with
  | nil => exact List.pairwise_singleton _ _
  | cons head rest ih =>
      obtain ⟨first, tail⟩ := List.pairwise_cons.1 ordered
      unfold enqueue
      split
      · next sooner =>
          refine List.pairwise_cons.2 ⟨?_, ordered⟩
          intro pair member
          rcases List.mem_cons.1 member with rfl | later
          · exact .inl sooner
          · rcases first pair later with less | ⟨same, _⟩
            · exact .inl (Nat.lt_trans sooner less)
            · exact .inl (same ▸ sooner)
      · next notSooner =>
          refine List.pairwise_cons.2
            ⟨?_, ih tail fun pair member => behind pair (List.mem_cons_of_mem _ member)⟩
          intro pair member
          rcases mem_enqueue.1 member with rfl | later
          · rcases Nat.lt_or_eq_of_le (Nat.le_of_not_lt notSooner) with less | same
            · exact .inl less
            · exact .inr ⟨same, behind head List.mem_cons_self⟩
          · exact first pair later

/-- A task that is done at once goes to the front of those that are not. -/
theorem enqueue_of_immediate {place : Nat} {task : Task ε α} {waiting : List (Nat × Task ε α)}
    (immediate : task.rounds = 0) (later : ∀ pair ∈ waiting, 0 < pair.2.rounds) :
    enqueue place task waiting = (place, task) :: waiting := by
  cases waiting with
  | nil => rfl
  | cons head rest =>
      have sooner : task.rounds < head.2.rounds := immediate ▸ later head List.mem_cons_self
      exact if_pos sooner

/-! ## Which error ends a group -/

theorem mem_take_of_lt {tasks : List (Task ε α)} {place count : Nat} {task : Task ε α}
    (less : place < count) (started : tasks[place]? = some task) : task ∈ tasks.take count := by
  refine List.mem_iff_getElem?.2 ⟨place, ?_⟩
  rw [List.getElem?_take, if_pos less]
  exact started

theorem exists_lt_of_mem_take {tasks : List (Task ε α)} {count : Nat} {task : Task ε α}
    (member : task ∈ tasks.take count) : ∃ place < count, tasks[place]? = some task := by
  obtain ⟨place, taken⟩ := List.mem_iff_getElem?.1 member
  rw [List.getElem?_take] at taken
  split at taken
  · next less => exact ⟨place, less, taken⟩
  · cases taken

def IsLastRound (tasks : List (Task ε α)) (round : Nat) : Prop :=
  (∀ task ∈ tasks, task.rounds ≤ round) ∧ (round = 0 ∨ ∃ task ∈ tasks, task.rounds = round)

/-- This task fails, and no other one fails earlier, or in its round at an earlier place. -/
structure FailsFirst (tasks : List (Task ε α)) (place : Nat) (task : Task ε α) (error : ε) :
    Prop where
  started : tasks[place]? = some task
  fails : task.result = .error error
  first : ∀ (other : Nat) (rival : Task ε α) (reason : ε), tasks[other]? = some rival →
    rival.result = .error reason →
      task.rounds < rival.rounds ∨ task.rounds = rival.rounds ∧ place ≤ other

/-- The first task in order to fail has this place, and by this round all up to it have landed. -/
structure FailsInOrder (tasks : List (Task ε α)) (place round : Nat) (error : ε) : Prop where
  fails : ∃ task, tasks[place]? = some task ∧ task.result = .error error
  succeed : ∀ earlier < place, ∀ task, tasks[earlier]? = some task →
    ∃ value, task.result = .ok value
  last : IsLastRound (tasks.take (place + 1)) round

/-- A group watched by the rule is given up in this round because of this error. -/
def Rule.Breaks : Rule → List (Task ε α) → Nat → ε → Prop
  | .asAWhole, tasks, round, error =>
      ∃ place task, FailsFirst tasks place task error ∧ task.rounds = round
  | .inOrder, tasks, round, error => ∃ place, FailsInOrder tasks place round error

/-! ## Between two landings -/

/-- The slots and the queue of a join fit its tasks, and what has landed did so by this round. -/
structure Afoot (tasks : List (Task ε α)) (round : Nat) (slots : Slots ε α)
    (waiting : List (Nat × Task ε α)) : Prop where
  length_eq : slots.length = tasks.length
  ordered : waiting.Pairwise LandsBefore
  mem_waiting : ∀ place task,
    (place, task) ∈ waiting ↔ tasks[place]? = some task ∧ slots[place]? = some none
  landed : ∀ (place : Nat) task result, tasks[place]? = some task →
    slots[place]? = some (some result) → task.result = result ∧ task.rounds ≤ round
  ahead : ∀ pair ∈ waiting, round ≤ pair.2.rounds
  reached : round = 0 ∨ ∃ task ∈ tasks, task.rounds = round

namespace Afoot

variable {tasks : List (Task ε α)} {round : Nat} {slots : Slots ε α}
  {waiting rest : List (Nat × Task ε α)} {place : Nat} {task : Task ε α}

/-- A task waits or has landed. -/
theorem waits_or_landed (afoot : Afoot tasks round slots waiting)
    (started : tasks[place]? = some task) :
    (place, task) ∈ waiting ∨ slots[place]? = some (some task.result) := by
  have bound := (List.getElem?_eq_some_iff.1 started).1
  rw [← afoot.length_eq] at bound
  have inside := List.getElem?_eq_getElem bound
  cases slot : slots[place] with
  | none =>
      rw [slot] at inside
      exact .inl ((afoot.mem_waiting place task).2 ⟨started, inside⟩)
  | some result =>
      rw [slot] at inside
      rw [(afoot.landed place task result started inside).1]
      exact .inr inside

/-- A slot that holds a result belongs to a task. -/
theorem task_of_landed (afoot : Afoot tasks round slots waiting) {result : Except ε α}
    (held : slots[place]? = some (some result)) :
    ∃ task, tasks[place]? = some task ∧ task.result = result := by
  have bound := (List.getElem?_eq_some_iff.1 held).1
  rw [afoot.length_eq] at bound
  have started := List.getElem?_eq_getElem bound
  exact ⟨_, started, (afoot.landed place _ result started held).1⟩

theorem started_of_head (afoot : Afoot tasks round slots ((place, task) :: rest)) :
    tasks[place]? = some task :=
  ((afoot.mem_waiting place task).1 List.mem_cons_self).1

/-- What a slot holds once the first task of the queue has landed. -/
theorem getElem?_set (afoot : Afoot tasks round slots ((place, task) :: rest))
    (result : Except ε α) (other : Nat) :
    (slots.set place (some result))[other]? =
      if place = other then some (some result) else slots[other]? := by
  by_cases same : place = other
  · subst same
    have held := ((afoot.mem_waiting place task).1 List.mem_cons_self).2
    rw [if_pos rfl, List.getElem?_set_self (List.getElem?_eq_some_iff.1 held).1]
  · rw [if_neg same, List.getElem?_set_ne same]

/-- The step: the first task of the queue lands. -/
theorem land (afoot : Afoot tasks round slots ((place, task) :: rest)) :
    Afoot tasks task.rounds (slots.set place (some task.result)) rest := by
  obtain ⟨first, tail⟩ := List.pairwise_cons.1 afoot.ordered
  have started := afoot.started_of_head
  refine ⟨?_, tail, ?_, ?_, ?_, .inr ⟨task, List.mem_of_getElem? started, rfl⟩⟩
  · rw [List.length_set, afoot.length_eq]
  · intro other known
    rw [afoot.getElem?_set]
    by_cases same : place = other
    · subst same
      rw [if_pos rfl]
      constructor
      · intro member
        have both := ((afoot.mem_waiting place known).1 (List.mem_cons_of_mem _ member)).1
        rw [started] at both
        cases both
        rcases first _ member with less | ⟨_, less⟩ <;> exact absurd less (Nat.lt_irrefl _)
      · rintro ⟨_, impossible⟩
        cases impossible
    · rw [if_neg same, ← afoot.mem_waiting other known, List.mem_cons]
      constructor
      · exact .inr
      · rintro (head | member)
        · exact absurd (congrArg Prod.fst head).symm same
        · exact member
  · intro other known result known_started held
    rw [afoot.getElem?_set] at held
    by_cases same : place = other
    · subst same
      rw [if_pos rfl] at held
      rw [started] at known_started
      cases known_started
      exact ⟨Option.some.inj (Option.some.inj held), Nat.le_refl _⟩
    · rw [if_neg same] at held
      obtain ⟨known_result, early⟩ := afoot.landed other known result known_started held
      exact ⟨known_result, Nat.le_trans early (afoot.ahead _ List.mem_cons_self)⟩
  · intro pair member
    rcases first pair member with less | ⟨same, _⟩
    · exact Nat.le_of_lt less
    · exact Nat.le_of_eq same

/-- In a group watched as a whole, the error noticed is that of the task that has just landed. -/
theorem breaks_asAWhole {error : ε} (afoot : Afoot tasks round slots ((place, task) :: rest))
    (quiet : noticed .asAWhole slots = none)
    (notice : noticed .asAWhole (slots.set place (some task.result)) = some error) :
    FailsFirst tasks place task error := by
  obtain ⟨seen, held, _⟩ := noticed_eq_some_iff.1 notice
  rw [afoot.getElem?_set] at held
  have here : place = seen := by
    by_cases same : place = seen
    · exact same
    · rw [if_neg same] at held
      exact absurd (List.mem_of_getElem? held) (error_not_mem_of_quiet quiet error)
  rw [if_pos here] at held
  have fails : task.result = .error error := Option.some.inj (Option.some.inj held)
  refine ⟨afoot.started_of_head, fails, ?_⟩
  intro other rival reason rival_started rival_fails
  rcases afoot.waits_or_landed rival_started with member | landed
  · rcases List.mem_cons.1 member with head | later
    · cases head
      exact .inr ⟨rfl, Nat.le_refl _⟩
    · rcases (List.pairwise_cons.1 afoot.ordered).1 _ later with less | ⟨equal, less⟩
      · exact .inl less
      · exact .inr ⟨equal, Nat.le_of_lt less⟩
  · rw [rival_fails] at landed
    exact absurd (List.mem_of_getElem? landed) (error_not_mem_of_quiet quiet reason)

/-- An error before the task that has just landed would have been noticed before it landed. -/
theorem le_of_held {rule : Rule} {error : ε} {seen : Nat}
    (afoot : Afoot tasks round slots ((place, task) :: rest)) (quiet : noticed rule slots = none)
    (held : (slots.set place (some task.result))[seen]? = some (some (.error error)))
    (passed : ∀ earlier < seen, ∀ slot,
      (slots.set place (some task.result))[earlier]? = some slot → rule.Passes slot) :
    place ≤ seen := by
  apply Nat.le_of_not_lt
  intro less
  rw [afoot.getElem?_set, if_neg (Nat.ne_of_gt less)] at held
  have earlier_notice : noticed rule slots = some error := by
    refine noticed_eq_some_iff.2 ⟨seen, held, ?_⟩
    intro earlier sooner slot held_slot
    apply passed earlier sooner slot
    rw [afoot.getElem?_set, if_neg (Nat.ne_of_gt (Nat.lt_trans sooner less))]
    exact held_slot
  rw [quiet] at earlier_notice
  cases earlier_notice

/-- In a group looked at in order, the task that has just landed was the last one waited for. -/
theorem breaks_inOrder {error : ε} (afoot : Afoot tasks round slots ((place, task) :: rest))
    (quiet : noticed .inOrder slots = none)
    (notice : noticed .inOrder (slots.set place (some task.result)) = some error) :
    ∃ seen, FailsInOrder tasks seen task.rounds error := by
  obtain ⟨seen, held, passed⟩ := noticed_eq_some_iff.1 notice
  obtain ⟨failing, failing_started, fails⟩ := afoot.land.task_of_landed held
  have succeeded : ∀ earlier < seen, ∀ known, tasks[earlier]? = some known →
      (∃ value, known.result = .ok value) ∧ known.rounds ≤ task.rounds := by
    intro earlier less known known_started
    rcases afoot.land.waits_or_landed known_started with member | landed
    · have open_slot := ((afoot.land.mem_waiting earlier known).1 member).2
      exact False.elim (passed earlier less _ open_slot)
    · have passes := passed earlier less _ landed
      refine ⟨?_, (afoot.land.landed earlier known _ known_started landed).2⟩
      cases known_result : known.result with
      | ok value => exact ⟨value, rfl⟩
      | error reason => rw [known_result] at passes; exact False.elim passes
  have waited := afoot.le_of_held quiet held passed
  refine ⟨seen, ⟨failing, failing_started, fails⟩, ?_, ?_, .inr ⟨task, ?_, rfl⟩⟩
  · exact fun earlier less known known_started =>
      (succeeded earlier less known known_started).1
  · intro known member
    obtain ⟨other, within, taken⟩ := exists_lt_of_mem_take member
    rcases Nat.lt_or_eq_of_le (Nat.le_of_lt_succ within) with less | same
    · exact (succeeded other less known taken).2
    · subst same
      exact (afoot.land.landed other known _ taken held).2
  · exact mem_take_of_lt (Nat.lt_succ_of_le waited) afoot.started_of_head

/-- The other step: an error is noticed when the first task of the queue lands. -/
theorem breaks {rule : Rule} {error : ε}
    (afoot : Afoot tasks round slots ((place, task) :: rest)) (quiet : noticed rule slots = none)
    (notice : noticed rule (slots.set place (some task.result)) = some error) :
    rule.Breaks tasks task.rounds error := by
  cases rule with
  | asAWhole => exact ⟨place, task, afoot.breaks_asAWhole quiet notice, rfl⟩
  | inOrder => exact afoot.breaks_inOrder quiet notice

/-- Once nothing waits, every slot holds the result of its task. -/
theorem slots_eq (afoot : Afoot tasks round slots []) :
    slots = tasks.map fun task => some task.result := by
  apply List.ext_getElem?
  intro place
  rw [List.getElem?_map]
  cases started : tasks[place]? with
  | none =>
      have short := List.getElem?_eq_none_iff.1 started
      rw [← afoot.length_eq] at short
      exact List.getElem?_eq_none short
  | some task =>
      rcases afoot.waits_or_landed started with member | landed
      · exact absurd member List.not_mem_nil
      · exact landed

/-- Once nothing waits, the round is the one in which the last task landed. -/
theorem isLastRound (afoot : Afoot tasks round slots []) : IsLastRound tasks round := by
  refine ⟨?_, afoot.reached⟩
  intro task member
  obtain ⟨place, started⟩ := List.mem_iff_getElem?.1 member
  rcases afoot.waits_or_landed started with waits | landed
  · exact absurd waits List.not_mem_nil
  · exact (afoot.landed place task _ started landed).2

end Afoot

/-! ## The whole run -/

def Succeed (tasks : List (Task ε α)) (values : List α) : Prop :=
  List.Forall₂ (fun task value => task.result = .ok value) tasks values

/-- Of tasks that have all landed without a notice, the results are collected in order. -/
theorem succeed_collected {rule : Rule} {tasks : List (Task ε α)}
    (quiet : noticed rule (tasks.map fun task => some task.result) = none) :
    Succeed tasks (collected (tasks.map fun task => some task.result)) := by
  induction tasks with
  | nil => exact .nil
  | cons task tasks ih =>
      rw [List.map_cons] at quiet ⊢
      cases result : task.result with
      | ok value =>
          rw [result, noticed_cons_of_passes _ (by cases rule <;> trivial)] at quiet
          exact .cons result (ih quiet)
      | error error =>
          rw [result] at quiet
          cases rule <;> cases quiet

/-- How a group of these tasks ends: well, or with the error that breaks it. -/
inductive Ends (rule : Rule) (tasks : List (Task ε α)) (outcome : Outcome ε (List α)) : Prop where
  | well (values : List α) (succeed : Succeed tasks values)
      (last : IsLastRound tasks outcome.rounds) (result_eq : outcome.result = .ok values)
  | broken (error : ε) (breaks : rule.Breaks tasks outcome.rounds error)
      (result_eq : outcome.result = .error error)

/-- The run: whatever still waits, the group ends as its tasks say. -/
theorem land_ends {rule : Rule} {tasks : List (Task ε α)} {waiting : List (Nat × Task ε α)}
    (requests : List Request) {round : Nat} (log : List Event) {slots : Slots ε α}
    (afoot : Afoot tasks round slots waiting) (quiet : noticed rule slots = none) :
    Ends rule tasks (land rule requests round log slots waiting) := by
  induction waiting generalizing round log slots with
  | nil =>
      rw [afoot.slots_eq] at quiet
      refine .well _ (succeed_collected quiet) afoot.isLastRound ?_
      rw [land, afoot.slots_eq]
  | cons head rest ih =>
      obtain ⟨place, task⟩ := head
      unfold land
      dsimp only
      cases notice : noticed rule (slots.set place (some task.result)) with
      | none => exact ih _ afoot.land notice
      | some error => exact .broken error (afoot.breaks quiet notice) rfl

end ApiDiscovery.FanOut
