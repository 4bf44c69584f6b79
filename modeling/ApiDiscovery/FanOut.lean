import ApiDiscovery.Activity

/-!
# Joining concurrent tasks

Tasks are started in order; one that is not done at once lands in a later
round, and of those landing in one round the one started first comes first.  A
join gives all results in the order of the tasks, or the error it notices
first, at which moment everything else is given up.  A small group is watched as
a whole, so any landed error is noticed at once; in a large group results are
looked at in order, so an error is noticed once all earlier tasks have landed.
-/

namespace ApiDiscovery

/-- A started task: what it did at once, and what it does when it lands. -/
structure Task (ε α : Type) where
  requests : List Request := []
  log : List Event := []
  rounds : Nat := 0
  landing : List Event := []
  result : Except ε α

abbrev Launch (ε α : Type) := List Request → Task ε α

namespace Task

variable {ε α β : Type}

/-- A task whose landing goes on with a computation on its result. -/
def andThen (task : Task ε α) (next : α → Outcome ε β) : Task ε β :=
  match task.result with
  | .error error =>
      { requests := task.requests, log := task.log, rounds := task.rounds
        landing := task.landing, result := .error error }
  | .ok value =>
      let outcome := next value
      { requests := task.requests ++ outcome.requests, log := task.log
        rounds := task.rounds + outcome.rounds, landing := task.landing ++ outcome.log
        result := outcome.result }

def toOutcome (task : Task ε α) : Outcome ε α :=
  { requests := task.requests, log := task.log ++ task.landing, rounds := task.rounds
    result := task.result }

end Task

/-- A computation as a task that says nothing before it lands. -/
def Outcome.toLaunch {ε α : Type} (outcome : Outcome ε α) : Launch ε α := fun _ =>
  { requests := outcome.requests, rounds := outcome.rounds, landing := outcome.log
    result := outcome.result }

namespace FanOut

variable {ε α : Type}

inductive Rule where
  | asAWhole
  | inOrder
deriving DecidableEq, Repr

def smallSize : Nat := 30

def Rule.ofSize (size : Nat) : Rule := if size ≤ smallSize then .asAWhole else .inOrder

/-- What is known of each task: nothing yet, or its result. -/
abbrev Slots (ε α : Type) := List (Option (Except ε α))

/-- The error that is noticed once these tasks have landed. -/
def noticed : Rule → Slots ε α → Option ε
  | _, [] => none
  | _, some (.error error) :: _ => some error
  | rule, some (.ok _) :: rest => noticed rule rest
  | .asAWhole, none :: rest => noticed .asAWhole rest
  | .inOrder, none :: _ => none

def collected (slots : Slots ε α) : List α :=
  slots.filterMap fun
    | some (.ok value) => some value
    | _ => none

/-- The state of a join: what was done, what has landed, and what is still to land, soonest first. -/
structure Progress (ε α : Type) where
  requests : List Request := []
  log : List Event := []
  slots : Slots ε α := []
  waiting : List (Nat × Task ε α) := []

/-- A task put behind all that land no later. -/
def enqueue (place : Nat) (task : Task ε α) : List (Nat × Task ε α) → List (Nat × Task ε α)
  | [] => [(place, task)]
  | head :: rest =>
      if task.rounds < head.2.rounds then (place, task) :: head :: rest
      else head :: enqueue place task rest

def Progress.failed (progress : Progress ε α) (rounds : Nat) (error : ε) : Outcome ε (List α) :=
  { requests := progress.requests, log := progress.log, rounds, result := .error error }

def land (rule : Rule) (requests : List Request) :
    (rounds : Nat) → List Event → Slots ε α → List (Nat × Task ε α) → Outcome ε (List α)
  | rounds, log, slots, [] => { requests, log, rounds, result := .ok (collected slots) }
  | _, log, slots, (place, task) :: rest =>
      let seen := log ++ task.landing
      let landed := slots.set place (some task.result)
      match noticed rule landed with
      | some error => { requests, log := seen, rounds := task.rounds, result := .error error }
      | none => land rule requests task.rounds seen landed rest

/-- The tasks are started one after the other, those that are done at once landing at once. -/
def start (rule : Rule) (sent : List Request) :
    List (Launch ε α) → Progress ε α → Outcome ε (List α)
  | [], progress => land rule progress.requests 0 progress.log progress.slots progress.waiting
  | launch :: launches, progress =>
      let task := launch (sent ++ progress.requests)
      let requests := progress.requests ++ task.requests
      let log := progress.log ++ task.log
      if task.rounds = 0 then
        let landed : Progress ε α :=
          { progress with
            requests, log := log ++ task.landing
            slots := progress.slots ++ [some task.result] }
        match noticed rule landed.slots with
        | some error => landed.failed 0 error
        | none => start rule sent launches landed
      else
        start rule sent launches
          { requests, log, slots := progress.slots ++ [none]
            waiting := enqueue progress.slots.length task progress.waiting }

def join (rule : Rule) (launches : List (Launch ε α)) (sent : List Request) :
    Outcome ε (List α) :=
  start rule sent launches {}

end FanOut

end ApiDiscovery
