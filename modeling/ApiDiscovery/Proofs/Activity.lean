import ApiDiscovery.FanOut

/-!
# Outcomes

What a changed result and added events leave as it was, and computations that
are done at once: they send nothing and take no round.
-/

namespace ApiDiscovery

variable {ε α β : Type}

theorem except_map_eq_ok_iff {f : α → β} {result : Except ε α} {value : β} :
    result.map f = .ok value ↔ ∃ inner, result = .ok inner ∧ f inner = value := by
  cases result with
  | error error => simp [Except.map]
  | ok inner => simp [Except.map]

theorem except_map_eq_error_iff {f : α → β} {result : Except ε α} {error : ε} :
    result.map f = .error error ↔ result = .error error := by
  cases result with
  | error other => simp [Except.map]
  | ok inner => simp [Except.map]

namespace Outcome

theorem map_result_eq_ok_iff {f : α → β} {outcome : Outcome ε α} {value : β} :
    (outcome.map f).result = .ok value ↔ ∃ inner, outcome.result = .ok inner ∧ f inner = value :=
  except_map_eq_ok_iff

theorem map_result_eq_error_iff {f : α → β} {outcome : Outcome ε α} {error : ε} :
    (outcome.map f).result = .error error ↔ outcome.result = .error error :=
  except_map_eq_error_iff

@[simp] theorem map_requests (f : α → β) (outcome : Outcome ε α) :
    (outcome.map f).requests = outcome.requests := rfl

@[simp] theorem map_rounds (f : α → β) (outcome : Outcome ε α) :
    (outcome.map f).rounds = outcome.rounds := rfl

@[simp] theorem logLast_result (outcome : Outcome ε α) (events : α → List Event) :
    (outcome.logLast events).result = outcome.result := by
  unfold logLast
  split <;> rfl

@[simp] theorem logLast_requests (outcome : Outcome ε α) (events : α → List Event) :
    (outcome.logLast events).requests = outcome.requests := by
  unfold logLast
  split <;> rfl

@[simp] theorem logLast_rounds (outcome : Outcome ε α) (events : α → List Event) :
    (outcome.logLast events).rounds = outcome.rounds := by
  unfold logLast
  split <;> rfl

theorem andThen_of_error {first : Outcome ε α} {sent : List Request}
    {next : α → List Request → Outcome ε β} {error : ε} (failed : first.result = .error error) :
    first.andThen sent next =
      { requests := first.requests, log := first.log, rounds := first.rounds
        result := .error error } := by
  rw [andThen, failed]

theorem andThen_of_ok {first : Outcome ε α} {sent : List Request}
    {next : α → List Request → Outcome ε β} {value : α} (done : first.result = .ok value) :
    first.andThen sent next =
      { requests := first.requests ++ (next value (sent ++ first.requests)).requests
        log := first.log ++ (next value (sent ++ first.requests)).log
        rounds := first.rounds + (next value (sent ++ first.requests)).rounds
        result := (next value (sent ++ first.requests)).result } := by
  rw [andThen, done]

theorem andThen_result (first : Outcome ε α) (sent : List Request)
    (next : α → List Request → Outcome ε β) :
    (first.andThen sent next).result =
      first.result.bind fun value => (next value (sent ++ first.requests)).result := by
  unfold andThen
  cases first.result with
  | error error => rfl
  | ok value => rfl

/-- The computation sends nothing and is over in its first round. -/
structure AtOnce (outcome : Outcome ε α) : Prop where
  requests_eq : outcome.requests = []
  rounds_eq : outcome.rounds = 0

namespace AtOnce

variable {outcome : Outcome ε α}

theorem map (atOnce : outcome.AtOnce) (f : α → β) : (outcome.map f).AtOnce :=
  ⟨atOnce.requests_eq, atOnce.rounds_eq⟩

theorem logFirst (atOnce : outcome.AtOnce) (events : List Event) :
    (outcome.logFirst events).AtOnce :=
  ⟨atOnce.requests_eq, atOnce.rounds_eq⟩

theorem logLast (atOnce : outcome.AtOnce) (events : α → List Event) :
    (outcome.logLast events).AtOnce := by
  refine ⟨?_, ?_⟩
  · rw [logLast_requests, atOnce.requests_eq]
  · rw [logLast_rounds, atOnce.rounds_eq]

theorem toLaunch (atOnce : outcome.AtOnce) (sent : List Request) :
    (outcome.toLaunch sent).toOutcome.AtOnce :=
  ⟨atOnce.requests_eq, atOnce.rounds_eq⟩

end AtOnce

end Outcome

namespace Task

/-- A computation that is done at once lets its task send what it sends anyway. -/
theorem andThen_requests {task : Task ε α} {next : α → Outcome ε β}
    (atOnce : ∀ value, (next value).AtOnce) : (task.andThen next).requests = task.requests := by
  unfold andThen
  cases task.result with
  | error error => rfl
  | ok value =>
      dsimp only
      rw [(atOnce value).requests_eq, List.append_nil]

/-- A computation that is done at once lets its task land when it lands anyway. -/
theorem andThen_rounds {task : Task ε α} {next : α → Outcome ε β}
    (atOnce : ∀ value, (next value).AtOnce) : (task.andThen next).rounds = task.rounds := by
  unfold andThen
  cases task.result with
  | error error => rfl
  | ok value =>
      dsimp only
      rw [(atOnce value).rounds_eq, Nat.add_zero]

theorem andThen_result (task : Task ε α) (next : α → Outcome ε β) :
    (task.andThen next).result = task.result.bind fun value => (next value).result := by
  unfold andThen
  cases task.result with
  | error error => rfl
  | ok value => rfl

end Task

end ApiDiscovery
