import ApiDiscovery.Json.Basic

/-!
# Requests, log events and outcomes

What a computation does besides giving a result: the requests it sends, the
events it logs and the number of polling rounds it takes.  The network is a
function from what was sent before and what is sent now to a reply, so any
timing and any change of mind can be described; an outcome records everything
that can be observed of one computation.
-/

namespace ApiDiscovery

inductive Level where
  | debug
  | info
  | warning
deriving DecidableEq, Repr

def Level.name : Level → String
  | .debug => "DEBUG"
  | .info => "INFO"
  | .warning => "WARN"

structure Event where
  level : Level
  message : String
  fields : List (String × String)
deriving DecidableEq, Repr

structure Request where
  verb : String
  url : String
  body : Option Json := none

def Request.get (url : String) : Request := ⟨"GET", url, none⟩

/--
What becomes of a request: the rounds until then, what is logged then, and the
text received, nothing, or the reason of a failure.
-/
structure Reply where
  rounds : Nat := 0
  log : List Event := []
  received : Except String (Option String)

/-- The reply to a request, given those sent before it. -/
abbrev Network := List Request → Request → Reply

structure Outcome (ε α : Type) where
  requests : List Request := []
  log : List Event := []
  rounds : Nat := 0
  result : Except ε α

namespace Outcome

variable {ε α β : Type}

def pure (value : α) : Outcome ε α := { result := .ok value }

def fail (error : ε) : Outcome ε α := { result := .error error }

def ofExcept (result : Except ε α) : Outcome ε α := { result := result }

def logFirst (events : List Event) (outcome : Outcome ε α) : Outcome ε α :=
  { outcome with log := events ++ outcome.log }

def andThen (first : Outcome ε α) (sent : List Request)
    (next : α → List Request → Outcome ε β) : Outcome ε β :=
  match first.result with
  | .error error =>
      { requests := first.requests, log := first.log, rounds := first.rounds
        result := .error error }
  | .ok value =>
      let second := next value (sent ++ first.requests)
      { requests := first.requests ++ second.requests, log := first.log ++ second.log
        rounds := first.rounds + second.rounds, result := second.result }

def map (f : α → β) (outcome : Outcome ε α) : Outcome ε β :=
  { requests := outcome.requests, log := outcome.log, rounds := outcome.rounds
    result := outcome.result.map f }

def logLast (events : α → List Event) (outcome : Outcome ε α) : Outcome ε α :=
  match outcome.result with
  | .error _ => outcome
  | .ok value => { outcome with log := outcome.log ++ events value }

end Outcome

end ApiDiscovery
