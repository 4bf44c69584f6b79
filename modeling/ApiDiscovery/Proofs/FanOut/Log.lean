import ApiDiscovery.Proofs.FanOut.Join

/-!
# What a join logs

A task logs something when it is started and something when it lands.  Tasks are
started in order while others are landing, so the log of a join interleaves what
the started tasks log at first, in their order, with what landing tasks log.
-/

namespace ApiDiscovery

/-- The last list holds the elements of the two others, those of each in their order. -/
inductive Interleaved {α : Type} : List α → List α → List α → Prop where
  | nil : Interleaved [] [] []
  | left (head : α) {one other both : List α} (rest : Interleaved one other both) :
      Interleaved (head :: one) other (head :: both)
  | right (head : α) {one other both : List α} (rest : Interleaved one other both) :
      Interleaved one (head :: other) (head :: both)

namespace Interleaved

variable {α : Type} {one other both front back whole : List α}

theorem of_left (one : List α) : Interleaved one [] one := by
  induction one with
  | nil => exact .nil
  | cons head one ih => exact .left head ih

theorem of_right (other : List α) : Interleaved [] other other := by
  induction other with
  | nil => exact .nil
  | cons head other ih => exact .right head ih

theorem append (first : Interleaved one other both) (second : Interleaved front back whole) :
    Interleaved (one ++ front) (other ++ back) (both ++ whole) := by
  induction first with
  | nil => exact second
  | left head rest ih => exact .left head ih
  | right head rest ih => exact .right head ih

/-- A property of the first list's elements alone picks them out of both. -/
theorem filter_eq_left {p : α → Bool} (interleaved : Interleaved one other both)
    (holds : ∀ element ∈ one, p element = true) (fails : ∀ element ∈ other, p element = false) :
    both.filter p = one := by
  induction interleaved with
  | nil => rfl
  | left head rest ih =>
      rw [List.forall_mem_cons] at holds
      rw [List.filter_cons_of_pos holds.1, ih holds.2 fails]
  | right head rest ih =>
      rw [List.forall_mem_cons] at fails
      rw [List.filter_cons_of_neg (Bool.eq_false_iff.1 fails.1), ih holds fails.2]

end Interleaved

namespace Task

variable {ε α β : Type}

/-- A computation on its result leaves what a task logs at first as it is. -/
theorem andThen_log (task : Task ε α) (next : α → Outcome ε β) :
    (task.andThen next).log = task.log := by
  unfold andThen
  split <;> rfl

/-- A computation on its result adds its own events to what a task logs when it lands. -/
theorem mem_landing_andThen {task : Task ε α} {next : α → Outcome ε β} {event : Event}
    (landing : event ∈ (task.andThen next).landing) :
    event ∈ task.landing ∨ ∃ value, event ∈ (next value).log := by
  unfold andThen at landing
  split at landing
  · exact .inl landing
  · next value _ => exact (List.mem_append.1 landing).imp_right fun later => ⟨value, later⟩

end Task

namespace FanOut

variable {ε α : Type}

def logsOf (tasks : List (Task ε α)) : List Event := tasks.flatMap Task.log

def landingsOf (tasks : List (Task ε α)) : List Event := tasks.flatMap Task.landing

theorem land_log (rule : Rule) (requests : List Request) (round : Nat) (log : List Event)
    (slots : Slots ε α) (waiting : List (Nat × Task ε α)) :
    ∃ landed, landed <+: waiting.map Prod.snd ∧
      (land rule requests round log slots waiting).log = log ++ landingsOf landed := by
  induction waiting generalizing round log slots with
  | nil => exact ⟨[], List.nil_prefix, (List.append_nil log).symm⟩
  | cons head rest ih =>
      obtain ⟨place, task⟩ := head
      unfold land
      dsimp only
      split
      · refine ⟨[task], List.cons_prefix_cons.2 ⟨rfl, List.nil_prefix⟩, ?_⟩
        rw [landingsOf, List.flatMap_singleton]
      · obtain ⟨landed, early, same⟩ :=
          ih task.rounds (log ++ task.landing) (slots.set place (some task.result))
        refine ⟨task :: landed, List.cons_prefix_cons.2 ⟨rfl, early⟩, ?_⟩
        rw [same, List.append_assoc, landingsOf, landingsOf, List.flatMap_cons]

/-- Starting logs what the started tasks log, interleaved with what is logged at landing. -/
theorem start_log (rule : Rule) (sent : List Request) (launches : List (Launch ε α))
    (requests : List Request) (log : List Event) {slots : Slots ε α}
    (waiting : List (Nat × Task ε α)) (quiet : noticed rule slots = none) :
    ∃ landed rest,
      (start rule sent launches ⟨requests, log, slots, waiting⟩).log = log ++ rest ∧
      Interleaved (logsOf (started rule slots (launched (sent ++ requests) launches)))
        (landingsOf landed) rest ∧
      ∀ task ∈ landed, task ∈ waiting.map Prod.snd ∨
        task ∈ started rule slots (launched (sent ++ requests) launches) := by
  induction launches generalizing requests log slots waiting with
  | nil =>
      obtain ⟨landed, early, same⟩ := land_log rule requests 0 log slots waiting
      exact ⟨landed, landingsOf landed, same, .of_right _,
        fun task member => .inl (early.subset member)⟩
  | cons launch launches ih =>
      unfold start
      rw [launched, List.append_assoc sent, started]
      dsimp only
      generalize launch (sent ++ requests) = task
      have alone : Interleaved task.log task.landing (task.log ++ task.landing) := by
        have both := (Interleaved.of_left task.log).append (.of_right task.landing)
        rwa [List.append_nil, List.nil_append] at both
      by_cases immediate : task.rounds = 0
      · rw [if_pos immediate, firstSlot, if_pos immediate]
        cases notice : noticed rule (slots ++ [some task.result]) with
        | some error =>
            refine ⟨[task], task.log ++ task.landing, List.append_assoc _ _ _, ?_, ?_⟩
            · rw [logsOf, landingsOf, List.flatMap_singleton, List.flatMap_singleton]
              exact alone
            · exact fun other member => .inr member
        | none =>
            obtain ⟨landed, rest, same, interleaved, known⟩ :=
              ih (requests ++ task.requests) (log ++ task.log ++ task.landing) waiting notice
            refine ⟨task :: landed, task.log ++ task.landing ++ rest, ?_, ?_, ?_⟩
            · dsimp only
              rw [same]
              simp only [List.append_assoc]
            · exact alone.append interleaved
            · intro other member
              rcases List.mem_cons.1 member with rfl | later
              · exact .inr List.mem_cons_self
              · exact (known other later).imp_right (List.mem_cons_of_mem _)
      · have still : noticed rule (slots ++ [none]) = none := by rw [noticed_append_none, quiet]
        rw [if_neg immediate, firstSlot, if_neg immediate, still]
        obtain ⟨landed, rest, same, interleaved, known⟩ :=
          ih (requests ++ task.requests) (log ++ task.log) (enqueue slots.length task waiting) still
        refine ⟨landed, task.log ++ rest, ?_, ?_, ?_⟩
        · rw [same, List.append_assoc]
        · exact (Interleaved.of_left task.log).append interleaved
        · intro other member
          rcases known other member with waits | later
          · obtain ⟨pair, found, rfl⟩ := List.mem_map.1 waits
            rcases mem_enqueue.1 found with rfl | old
            · exact .inr List.mem_cons_self
            · exact .inl (List.mem_map_of_mem old)
          · exact .inr (List.mem_cons_of_mem _ later)

/-- A join logs what its started tasks log, interleaved with what some of them log at landing. -/
theorem join_log (rule : Rule) (launches : List (Launch ε α)) (sent : List Request) :
    ∃ landed, landed ⊆ started rule [] (launched sent launches) ∧
      Interleaved (logsOf (started rule [] (launched sent launches))) (landingsOf landed)
        (join rule launches sent).log := by
  have quiet : noticed rule ([] : Slots ε α) = none := by cases rule <;> rfl
  obtain ⟨landed, rest, same, interleaved, known⟩ := start_log rule sent launches [] [] [] quiet
  rw [List.append_nil] at interleaved known
  refine ⟨landed, ?_, ?_⟩
  · intro task member
    exact (known task member).resolve_left List.not_mem_nil
  · rw [join, same]
    exact interleaved

end FanOut

end ApiDiscovery
