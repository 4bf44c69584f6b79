import ApiDiscovery.Proofs.Activity
import Mathlib.Data.List.Forall2

/-!
# Computations side by side

Two computations are alike if they can be told apart by their values at most,
and their values are related in a given way.  A join looks at the rounds and the
errors of its tasks but never at a value, so joins of alike tasks are alike.
-/

namespace ApiDiscovery

variable {ε α β γ δ : Type} {R : α → β → Prop} {S : γ → δ → Prop}

inductive ResultsAlike (R : α → β → Prop) : Except ε α → Except ε β → Prop where
  | error (error : ε) : ResultsAlike R (.error error) (.error error)
  | ok {value : α} {other : β} (related : R value other) : ResultsAlike R (.ok value) (.ok other)

theorem ResultsAlike.refl (result : Except ε α) : ResultsAlike Eq result result := by
  cases result with
  | error error => exact .error error
  | ok value => exact .ok rfl

theorem ResultsAlike.map {result : Except ε α} {other : Except ε β} {f : α → γ} {g : β → δ}
    (alike : ResultsAlike R result other)
    (carries : ∀ {value value'}, R value value' → S (f value) (g value')) :
    ResultsAlike S (result.map f) (other.map g) := by
  cases alike with
  | error error => exact .error error
  | ok related => exact .ok (carries related)

theorem resultsAlike_iff {result : Except ε α} {other : Except ε β} :
    ResultsAlike R result other ↔
      (∃ error, result = .error error ∧ other = .error error) ∨
        ∃ value value', result = .ok value ∧ other = .ok value' ∧ R value value' := by
  constructor
  · intro alike
    cases alike with
    | error error => exact .inl ⟨error, rfl, rfl⟩
    | ok related => exact .inr ⟨_, _, rfl, rfl, related⟩
  · rintro (⟨error, rfl, rfl⟩ | ⟨value, value', rfl, rfl, related⟩)
    · exact .error error
    · exact .ok related

/-! ## Outcomes and tasks -/

/-- Nothing but the values tells the two outcomes apart, and the values are related. -/
structure Outcome.Alike (R : α → β → Prop) (outcome : Outcome ε α) (other : Outcome ε β) :
    Prop where
  requests_eq : outcome.requests = other.requests
  log_eq : outcome.log = other.log
  rounds_eq : outcome.rounds = other.rounds
  results : ResultsAlike R outcome.result other.result

structure Task.Alike (R : α → β → Prop) (task : Task ε α) (other : Task ε β) : Prop where
  requests_eq : task.requests = other.requests
  log_eq : task.log = other.log
  rounds_eq : task.rounds = other.rounds
  landing_eq : task.landing = other.landing
  results : ResultsAlike R task.result other.result

namespace Outcome

theorem Alike.fail (error : ε) : Alike R (Outcome.fail error) (Outcome.fail error) :=
  ⟨rfl, rfl, rfl, .error error⟩

variable {outcome : Outcome ε α} {other : Outcome ε β}

theorem Alike.map {f : α → γ} {g : β → δ} (alike : outcome.Alike R other)
    (carries : ∀ {value value'}, R value value' → S (f value) (g value')) :
    (outcome.map f).Alike S (other.map g) :=
  ⟨alike.requests_eq, alike.log_eq, alike.rounds_eq, alike.results.map carries⟩

theorem Alike.logFirst (alike : outcome.Alike R other) (events : List Event) :
    (outcome.logFirst events).Alike R (other.logFirst events) :=
  ⟨alike.requests_eq, congrArg (events ++ ·) alike.log_eq, alike.rounds_eq, alike.results⟩

/-- Events that do not tell related values apart may be logged last. -/
theorem Alike.logLast {events : α → List Event} {events' : β → List Event}
    (alike : outcome.Alike R other)
    (same : ∀ {value value'}, R value value' → events value = events' value') :
    (outcome.logLast events).Alike R (other.logLast events') := by
  obtain ⟨requests, log, rounds, result⟩ := outcome
  obtain ⟨_, _, _, result'⟩ := other
  obtain ⟨rfl, rfl, rfl, results⟩ := alike
  cases results with
  | error error => exact ⟨rfl, rfl, rfl, .error error⟩
  | ok related => exact ⟨rfl, congrArg (log ++ ·) (same related), rfl, .ok related⟩

theorem Alike.andThen {sent : List Request} {next : α → List Request → Outcome ε γ}
    {next' : β → List Request → Outcome ε δ} (alike : outcome.Alike R other)
    (further : ∀ {value value'} before, R value value' →
      (next value before).Alike S (next' value' before)) :
    (outcome.andThen sent next).Alike S (other.andThen sent next') := by
  obtain ⟨requests, log, rounds, result⟩ := outcome
  obtain ⟨_, _, _, result'⟩ := other
  obtain ⟨rfl, rfl, rfl, results⟩ := alike
  cases results with
  | error error => exact ⟨rfl, rfl, rfl, .error error⟩
  | ok related =>
      have second := further (sent ++ requests) related
      exact ⟨congrArg (requests ++ ·) second.requests_eq, congrArg (log ++ ·) second.log_eq,
        congrArg (rounds + ·) second.rounds_eq, second.results⟩

theorem Alike.toLaunch (alike : outcome.Alike R other) (sent : List Request) :
    (outcome.toLaunch sent).Alike R (other.toLaunch sent) :=
  ⟨alike.requests_eq, rfl, alike.rounds_eq, alike.log_eq, alike.results⟩

end Outcome

namespace Task

variable {task : Task ε α} {other : Task ε β}

theorem Alike.refl (task : Task ε α) : Alike Eq task task :=
  ⟨rfl, rfl, rfl, rfl, .refl _⟩

theorem Alike.toOutcome (alike : task.Alike R other) :
    task.toOutcome.Alike R other.toOutcome :=
  ⟨alike.requests_eq, congrArg₂ (· ++ ·) alike.log_eq alike.landing_eq, alike.rounds_eq,
    alike.results⟩

theorem Alike.andThen {next : α → Outcome ε γ} {next' : β → Outcome ε δ}
    (alike : task.Alike R other)
    (further : ∀ {value value'}, R value value' → (next value).Alike S (next' value')) :
    (task.andThen next).Alike S (other.andThen next') := by
  obtain ⟨requests, log, rounds, landing, result⟩ := task
  obtain ⟨_, _, _, _, result'⟩ := other
  obtain ⟨rfl, rfl, rfl, rfl, results⟩ := alike
  cases results with
  | error error => exact ⟨rfl, rfl, rfl, rfl, .error error⟩
  | ok related =>
      have second := further related
      exact ⟨congrArg (requests ++ ·) second.requests_eq, rfl,
        congrArg (rounds + ·) second.rounds_eq, congrArg (landing ++ ·) second.log_eq,
        second.results⟩

end Task

/-! ## Joins -/

namespace FanOut

abbrev SlotsAlike (R : α → β → Prop) : Slots ε α → Slots ε β → Prop :=
  List.Forall₂ (Option.Rel (ResultsAlike R))

abbrev WaitingAlike (R : α → β → Prop) : List (Nat × Task ε α) → List (Nat × Task ε β) → Prop :=
  List.Forall₂ fun one other => one.1 = other.1 ∧ one.2.Alike R other.2

abbrev LaunchesAlike (R : α → β → Prop) : List (Launch ε α) → List (Launch ε β) → Prop :=
  List.Forall₂ fun launch other => ∀ sent, (launch sent).Alike R (other sent)

/-- Entry by entry alike launches are alike. -/
theorem launchesAlike_map {entries : List γ} {launch : γ → Launch ε α} {launch' : γ → Launch ε β}
    (each : ∀ entry ∈ entries, ∀ sent, (launch entry sent).Alike R (launch' entry sent)) :
    LaunchesAlike R (entries.map launch) (entries.map launch') := by
  unfold LaunchesAlike
  rw [List.forall₂_map_left_iff, List.forall₂_map_right_iff, List.forall₂_same]
  exact each

/-- The error that is noticed does not depend on the values. -/
theorem noticed_eq_of_alike {slots : Slots ε α} {others : Slots ε β}
    (alike : SlotsAlike R slots others) (rule : Rule) :
    noticed rule slots = noticed rule others := by
  induction alike with
  | nil => cases rule <;> rfl
  | cons first rest ih =>
      cases first with
      | none =>
          cases rule with
          | asAWhole => exact ih
          | inOrder => rfl
      | some results =>
          cases results with
          | error error => cases rule <;> rfl
          | ok related => cases rule <;> exact ih

theorem collected_alike {slots : Slots ε α} {others : Slots ε β}
    (alike : SlotsAlike R slots others) : List.Forall₂ R (collected slots) (collected others) := by
  refine List.rel_filterMap (fun slot other slotAlike => ?_) alike
  cases slotAlike with
  | none => exact .none
  | some results =>
      cases results with
      | error error => exact .none
      | ok related => exact .some related

theorem set_alike {slots : Slots ε α} {others : Slots ε β} (alike : SlotsAlike R slots others)
    {slot : Option (Except ε α)} {slot' : Option (Except ε β)}
    (slotAlike : Option.Rel (ResultsAlike R) slot slot') (place : Nat) :
    SlotsAlike R (slots.set place slot) (others.set place slot') := by
  induction alike generalizing place with
  | nil => exact .nil
  | cons first rest ih =>
      cases place with
      | zero => exact .cons slotAlike rest
      | succ place => exact .cons first (ih place)

theorem enqueue_alike (place : Nat) {task : Task ε α} {other : Task ε β}
    (taskAlike : task.Alike R other) {waiting : List (Nat × Task ε α)}
    {others : List (Nat × Task ε β)} (alike : WaitingAlike R waiting others) :
    WaitingAlike R (enqueue place task waiting) (enqueue place other others) := by
  induction alike with
  | nil => exact .cons ⟨rfl, taskAlike⟩ .nil
  | cons first rest ih =>
      unfold enqueue
      rw [taskAlike.rounds_eq, first.2.rounds_eq]
      split
      · exact .cons ⟨rfl, taskAlike⟩ (.cons first rest)
      · exact .cons first ih

theorem land_alike (rule : Rule) (requests : List Request) (rounds : Nat) (log : List Event)
    {slots : Slots ε α} {others : Slots ε β} (slotsAlike : SlotsAlike R slots others)
    {waiting : List (Nat × Task ε α)} {waiting' : List (Nat × Task ε β)}
    (alike : WaitingAlike R waiting waiting') :
    (land rule requests rounds log slots waiting).Alike (List.Forall₂ R)
      (land rule requests rounds log others waiting') := by
  induction alike generalizing rounds log slots others with
  | nil => exact ⟨rfl, rfl, rfl, .ok (collected_alike slotsAlike)⟩
  | @cons one other _ _ first rest ih =>
      obtain ⟨place, task⟩ := one
      obtain ⟨place', task'⟩ := other
      obtain ⟨same, taskAlike⟩ := first
      dsimp only at same taskAlike
      subst same
      have landed := set_alike slotsAlike (.some taskAlike.results) place
      unfold land
      dsimp only
      rw [noticed_eq_of_alike landed, taskAlike.rounds_eq, taskAlike.landing_eq]
      split
      · exact ⟨rfl, rfl, rfl, .error _⟩
      · exact ih _ _ landed

/-- The same was done in both joins so far, and the same tasks have landed and wait. -/
structure Progress.Alike (R : α → β → Prop) (progress : Progress ε α) (other : Progress ε β) :
    Prop where
  requests_eq : progress.requests = other.requests
  log_eq : progress.log = other.log
  slots : SlotsAlike R progress.slots other.slots
  waiting : WaitingAlike R progress.waiting other.waiting

/-- Two joins that have done the same so far, and start alike tasks from here on, end alike. -/
theorem start_alike (rule : Rule) (sent : List Request) {launches : List (Launch ε α)}
    {launches' : List (Launch ε β)} (alike : LaunchesAlike R launches launches')
    {progress : Progress ε α} {other : Progress ε β} (sofar : progress.Alike R other) :
    (start rule sent launches progress).Alike (List.Forall₂ R)
      (start rule sent launches' other) := by
  induction alike generalizing progress other with
  | nil =>
      rw [start, start, sofar.requests_eq, sofar.log_eq]
      exact land_alike _ _ _ _ sofar.slots sofar.waiting
  | @cons launch launch' _ _ first rest ih =>
      have task := first (sent ++ progress.requests)
      unfold start
      dsimp only
      rw [← sofar.requests_eq, ← sofar.log_eq, ← task.requests_eq, ← task.log_eq,
        ← task.rounds_eq, ← task.landing_eq]
      split
      · have landed : SlotsAlike R (progress.slots ++ [some (launch _).result])
            (other.slots ++ [some (launch' _).result]) :=
          List.rel_append sofar.slots (.cons (.some task.results) .nil)
        rw [noticed_eq_of_alike landed]
        split
        · exact ⟨rfl, rfl, rfl, .error _⟩
        · exact ih ⟨rfl, rfl, landed, sofar.waiting⟩
      · refine ih ⟨rfl, rfl, List.rel_append sofar.slots (.cons .none .nil), ?_⟩
        rw [sofar.slots.length_eq]
        exact enqueue_alike _ task sofar.waiting

/-- Joins of alike tasks are alike. -/
theorem join_alike (rule : Rule) {launches : List (Launch ε α)} {launches' : List (Launch ε β)}
    (alike : LaunchesAlike R launches launches') (sent : List Request) :
    (join rule launches sent).Alike (List.Forall₂ R) (join rule launches' sent) :=
  start_alike rule sent alike ⟨rfl, rfl, .nil, .nil⟩

end FanOut

end ApiDiscovery
