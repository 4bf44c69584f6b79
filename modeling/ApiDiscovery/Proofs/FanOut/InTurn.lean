import ApiDiscovery.Proofs.Activity

/-!
# Joins of computations that are done at once

Computations that wait for nothing may as well run one behind the other: joined
under either rule, they do the same as in turn, up to the first that fails.  The
course of computations in turn is everything about them but their values.
-/

namespace ApiDiscovery

variable {ε α β : Type}

namespace Outcome

/-- Computations one behind the other, up to the first that fails. -/
def inTurn : List (Outcome ε α) → Outcome ε (List α)
  | [] => .pure []
  | first :: rest => first.andThen [] fun value _ => (inTurn rest).map (value :: ·)

theorem inTurn_cons_of_ok {first : Outcome ε α} {value : α} (atOnce : first.AtOnce)
    (done : first.result = .ok value) (rest : List (Outcome ε α)) :
    inTurn (first :: rest) = ((inTurn rest).map (value :: ·)).logFirst first.log := by
  rw [inTurn, andThen_of_ok done, atOnce.requests_eq, atOnce.rounds_eq, Nat.zero_add]
  rfl

theorem inTurn_cons_of_error {first : Outcome ε α} {error : ε} (atOnce : first.AtOnce)
    (failed : first.result = .error error) (rest : List (Outcome ε α)) :
    inTurn (first :: rest) = { log := first.log, result := .error error } := by
  rw [inTurn, andThen_of_error failed, atOnce.requests_eq, atOnce.rounds_eq]

end Outcome

/-! ## The join -/

namespace FanOut

def filled (values : List α) : Slots ε α := values.map fun value => some (.ok value)

theorem filled_concat (values : List α) (value : α) :
    (filled values ++ [some (.ok value)] : Slots ε α) = filled (values ++ [value]) := by
  rw [filled, filled, List.map_append]
  rfl

theorem collected_filled (values : List α) : collected (filled values : Slots ε α) = values := by
  induction values with
  | nil => rfl
  | cons value values ih => exact congrArg (value :: ·) ih

/-- Behind tasks that have landed well either rule looks at the next slot. -/
theorem noticed_filled_append (rule : Rule) (values : List α) (slots : Slots ε α) :
    noticed rule (filled values ++ slots) = noticed rule slots := by
  induction values with
  | nil => rfl
  | cons value values ih => cases rule <;> exact ih

theorem noticed_filled (rule : Rule) (values : List α) :
    noticed rule (filled values : Slots ε α) = none := by
  have beyond := noticed_filled_append (ε := ε) rule values []
  rw [List.append_nil] at beyond
  rw [beyond]
  cases rule <;> rfl

theorem noticed_filled_error (rule : Rule) (values : List α) (error : ε) :
    noticed rule (filled values ++ [some (.error error)]) = some error := by
  rw [noticed_filled_append]
  cases rule <;> rfl

/-- The run: behind tasks that have landed well the others are started in turn. -/
theorem start_eq_inTurn (rule : Rule) (sent : List Request) (outcomes : List (Outcome ε α))
    (atOnce : ∀ outcome ∈ outcomes, outcome.AtOnce) (log : List Event) (values : List α) :
    start rule sent (outcomes.map Outcome.toLaunch) { log, slots := filled values } =
      ((Outcome.inTurn outcomes).map (values ++ ·)).logFirst log := by
  induction outcomes generalizing log values with
  | nil =>
      rw [List.map_nil, start, land, collected_filled]
      simp [Outcome.inTurn, Outcome.pure, Outcome.map, Outcome.logFirst, Except.map]
  | cons first rest ih =>
      have head := atOnce first List.mem_cons_self
      have landsAtOnce : (first.toLaunch (sent ++ [])).rounds = 0 := head.rounds_eq
      rw [List.map_cons, start]
      dsimp only
      rw [if_pos landsAtOnce]
      simp only [Outcome.toLaunch, head.requests_eq, List.append_nil]
      cases done : first.result with
      | error error =>
          rw [noticed_filled_error, Outcome.inTurn_cons_of_error head done]
          rfl
      | ok value =>
          rw [filled_concat, noticed_filled, Outcome.inTurn_cons_of_ok head done]
          dsimp only
          rw [ih (fun outcome member => atOnce outcome (List.mem_cons_of_mem _ member))]
          cases Outcome.inTurn rest with
          | mk requests restLog rounds result =>
              cases result <;>
                simp [Outcome.map, Outcome.logFirst, Except.map, List.append_assoc]

/-- Under either rule, computations that are done at once are joined as if they ran in turn. -/
theorem join_eq_inTurn (rule : Rule) (sent : List Request) {outcomes : List (Outcome ε α)}
    (atOnce : ∀ outcome ∈ outcomes, outcome.AtOnce) :
    join rule (outcomes.map Outcome.toLaunch) sent = Outcome.inTurn outcomes := by
  have run := start_eq_inTurn rule sent outcomes atOnce [] []
  rw [join]
  refine Eq.trans run ?_
  cases Outcome.inTurn outcomes with
  | mk requests log rounds result =>
      cases result <;> simp [Outcome.map, Outcome.logFirst, Except.map]

end FanOut

/-! ## Courses -/

namespace Outcome

/-- What can be observed of a computation but for its value. -/
def course (outcome : Outcome ε α) : Outcome ε Unit := outcome.map fun _ => ()

theorem course_map (f : α → β) (outcome : Outcome ε α) :
    (outcome.map f).course = outcome.course := by
  cases outcome with
  | mk requests log rounds result => cases result <;> rfl

theorem log_eq_of_course {outcome : Outcome ε α} {other : Outcome ε β}
    (same : outcome.course = other.course) : outcome.log = other.log :=
  congrArg Outcome.log same

theorem result_eq_error_of_course {outcome : Outcome ε α} {other : Outcome ε β}
    (same : outcome.course = other.course) {error : ε} (failed : other.result = .error error) :
    outcome.result = .error error := by
  have result_eq : outcome.course.result = other.course.result := congrArg Outcome.result same
  rw [course, course, map, map, failed] at result_eq
  exact except_map_eq_error_iff.1 result_eq

theorem result_eq_ok_of_course {outcome : Outcome ε α} {other : Outcome ε β}
    (same : outcome.course = other.course) {value : β} (done : other.result = .ok value) :
    ∃ mine, outcome.result = .ok mine := by
  have result_eq : outcome.course.result = other.course.result := congrArg Outcome.result same
  rw [course, course, map, map, done] at result_eq
  obtain ⟨mine, found, _⟩ := except_map_eq_ok_iff.1 result_eq
  exact ⟨mine, found⟩

theorem course_andThen {first : Outcome ε α} {sent : List Request}
    {next : α → List Request → Outcome ε β} {second : Outcome ε Unit}
    (same : ∀ value before, (next value before).course = second) :
    (first.andThen sent next).course = first.course.andThen [] fun _ _ => second := by
  cases done : first.result with
  | error error =>
      have failed : first.course.result = .error error := by
        rw [course, map, done]
        rfl
      rw [andThen_of_error done, andThen_of_error failed]
      rfl
  | ok value =>
      have ended : first.course.result = .ok () := by
        rw [course, map, done]
        rfl
      rw [andThen_of_ok done, andThen_of_ok ended, ← same value (sent ++ first.requests)]
      rfl

theorem course_inTurn_cons (first : Outcome ε α) (rest : List (Outcome ε α)) :
    (inTurn (first :: rest)).course = first.course.andThen [] fun _ _ => (inTurn rest).course :=
  course_andThen fun _ _ => course_map _ _

theorem pure_andThen (value : α) (sent : List Request) (next : α → List Request → Outcome ε β) :
    (Outcome.pure value : Outcome ε α).andThen sent next = next value sent := by
  rw [andThen_of_ok rfl]
  simp [Outcome.pure]

theorem andThen_assoc (first second third : Outcome ε Unit) :
    (first.andThen [] fun _ _ => second).andThen [] (fun _ _ => third) =
      first.andThen [] fun _ _ => second.andThen [] fun _ _ => third := by
  cases done : first.result with
  | error error => rw [andThen_of_error done, andThen_of_error done, andThen_of_error rfl]
  | ok value =>
      rw [andThen_of_ok done, andThen_of_ok done]
      cases ended : second.result with
      | error error => rw [andThen_of_error ended, andThen_of_error rfl]
      | ok next =>
          rw [andThen_of_ok ended, andThen_of_ok rfl]
          simp [List.append_assoc, Nat.add_assoc]

theorem course_inTurn_congr {γ : Type} {entries : List γ} {f : γ → Outcome ε α}
    {g : γ → Outcome ε β} (same : ∀ entry ∈ entries, (f entry).course = (g entry).course) :
    (inTurn (entries.map f)).course = (inTurn (entries.map g)).course := by
  induction entries with
  | nil => rfl
  | cons entry rest ih =>
      rw [List.map_cons, List.map_cons, course_inTurn_cons, course_inTurn_cons,
        same entry List.mem_cons_self,
        ih fun other member => same other (List.mem_cons_of_mem _ member)]

/-- What runs in turn takes its course part by part. -/
theorem course_inTurn_append (front back : List (Outcome ε α)) :
    (inTurn (front ++ back)).course =
      (inTurn front).course.andThen [] fun _ _ => (inTurn back).course := by
  induction front with
  | nil => exact (pure_andThen () [] fun _ _ => (inTurn back).course).symm
  | cons first rest ih =>
      rw [List.cons_append, course_inTurn_cons, course_inTurn_cons, ih, andThen_assoc]

end Outcome

end ApiDiscovery
