import ApiDiscovery.Proofs.Expand.Attempt
import ApiDiscovery.Proofs.FanOut.Rounds

/-!
# What a generation sends

A generation asks for its source, if that is an address, and then for every
entry of a listing that can be expanded, in the order of the listing.  It stops
short only because of an entry that fails at once, and once it has returned it
sends nothing more.
-/

namespace ApiDiscovery.Generate

def sourceRequests : Options.Source → List Request
  | .file _ => []
  | .url address => [.get address]

/-- An entry is asked for if it is preferred and says where its document is. -/
def entryRequest? (entry : ListedApi) : Option Request :=
  match entry.documentUrl with
  | none => none
  | some url => if entry.preferred = some true ∧ url ≠ "" then some (.get url) else none

/-- The entries of a document, if it is understood as a listing and is one. -/
def entriesOf : Options.DocumentKind → Json → List ListedApi
  | .api, _ => []
  | .listing, document =>
      match ApiListing.ofJson document with
      | .error _ => []
      | .ok listing => listing.items.getD []

section

variable (files : Files) (network : Network) (options : Options) (sent : List Request)

def fetching : Task GenerateError (Option Json) :=
  Fetch.fetch? files network options.resolve.1 sent

/-- The entries that the source lists, if its document is obtained. -/
def listedEntries : List ListedApi :=
  match (fetching files network options sent).result with
  | .ok (some document) => entriesOf options.resolve.2 document
  | _ => []

def rule : FanOut.Rule := .ofSize (listedEntries files network options sent).length

/-- The expansions of the listed entries, as they are started behind the request for the source. -/
def expansions : List (Task GenerateError (String × ResourceTree ApiMethod)) :=
  ApiListing.attempts files network options.apiKey (listedEntries files network options sent)
    (sent ++ sourceRequests options.resolve.1)

/-- One request for the source, and one for every listed entry that has to be asked for. -/
def plan : List Request :=
  sourceRequests options.resolve.1 ++
    (listedEntries files network options sent).filterMap entryRequest?

/-- All that has been sent by the end of a round: entries are asked for once the source is there. -/
def sentBy (round : Nat) : List Request :=
  sourceRequests options.resolve.1 ++
    if (fetching files network options sent).rounds ≤ round then
      FanOut.requestsOf (FanOut.started (rule files network options sent) []
        (expansions files network options sent))
    else []

/-- In this round the source is there, and a poll of the expansions gives something. -/
def Returns (round : Nat) : Prop :=
  ∃ since, (fetching files network options sent).rounds + since = round ∧
    (FanOut.poll (rule files network options sent) (expansions files network options sent)
      since).isSome

end

variable {files : Files} {network : Network} {options : Options} {sent : List Request}

/-- A computation sends what a join sends, takes its rounds, and succeeds only if it does. -/
structure Follows {α β : Type} (outcome : Outcome GenerateError α)
    (joined : Outcome GenerateError β) : Prop where
  requests_eq : outcome.requests = joined.requests
  rounds_eq : outcome.rounds = joined.rounds
  succeeds : ∀ value, outcome.result = .ok value → ∃ inner, joined.result = .ok inner

theorem entriesOf_of_error {document : Json} {mismatch : Json.Mismatch}
    (refused : ApiListing.ofJson document = .error mismatch) :
    entriesOf .listing document = [] := by
  rw [entriesOf, refused]

theorem entriesOf_of_ok {document : Json} {listing : ApiListing}
    (decoded : ApiListing.ofJson document = .ok listing) :
    entriesOf .listing document = listing.items.getD [] := by
  rw [entriesOf, decoded]

theorem entryRequest?_eq (entry : ListedApi) :
    entryRequest? entry = entry.expandableUrl.map Request.get := by
  unfold entryRequest?
  cases known : entry.expandableUrl with
  | some url =>
      obtain ⟨preferred, address, nonempty⟩ := ListedApi.expandableUrl_eq_some_iff.1 known
      rw [address]
      exact if_pos ⟨preferred, nonempty⟩
  | none =>
      cases address : entry.documentUrl with
      | none => rfl
      | some url =>
          refine if_neg ?_
          rintro ⟨preferred, nonempty⟩
          have expands := ListedApi.expandableUrl_eq_some_iff.2 ⟨preferred, address, nonempty⟩
          rw [known] at expands
          cases expands

theorem filterMap_entryRequest? (entries : List ListedApi) :
    entries.filterMap entryRequest? =
      (entries.filterMap ListedApi.expandableUrl).map Request.get := by
  rw [funext entryRequest?_eq, List.map_filterMap]

/-- What is done at once follows the join of no entries. -/
theorem Follows.of_atOnce {α : Type} {outcome : Outcome GenerateError α} (atOnce : outcome.AtOnce)
    (apiKey : Option String) (sent : List Request) :
    Follows outcome (FanOut.join (.ofSize ([] : List ListedApi).length)
      (ApiListing.entryLaunches files network apiKey []) sent) :=
  ⟨atOnce.requests_eq, atOnce.rounds_eq, fun _ _ => ⟨[], rfl⟩⟩

/-- What becomes of a document follows the join of the entries in it. -/
theorem ofDocument_follows (files : Files) (network : Network) (apiKey : Option String)
    (source : String) (kind : Options.DocumentKind) (document : Json) (sent : List Request) :
    Follows (ofDocument files network apiKey source kind document sent)
      (FanOut.join (.ofSize (entriesOf kind document).length)
        (ApiListing.entryLaunches files network apiKey (entriesOf kind document)) sent) := by
  unfold ofDocument
  cases kind with
  | api =>
      refine Follows.of_atOnce ?_ apiKey sent
      cases ApiDescription.ofJson document with
      | error mismatch => exact ⟨rfl, rfl⟩
      | ok api => exact ((api.compile_atOnce apiKey).logLast _).map _
  | listing =>
      cases decoded : ApiListing.ofJson document with
      | error mismatch =>
          rw [entriesOf_of_error decoded]
          exact Follows.of_atOnce ⟨rfl, rfl⟩ apiKey sent
      | ok listing =>
          rw [entriesOf_of_ok decoded]
          dsimp only
          cases items : listing.items with
          | none =>
              refine Follows.of_atOnce (Outcome.AtOnce.map (Outcome.AtOnce.logLast ?_ _) _) apiKey
                sent
              unfold ApiListing.expand
              rw [items]
              exact ⟨rfl, rfl⟩
          | some entries =>
              refine ⟨?_, ?_, ?_⟩
              · rw [Outcome.map_requests, Outcome.logLast_requests,
                  ApiListing.expand_requests items]
                rfl
              · rw [Outcome.map_rounds, Outcome.logLast_rounds, ApiListing.expand_rounds items]
                rfl
              · intro generated done
                obtain ⟨apis, expanded, _⟩ := Outcome.map_result_eq_ok_iff.1 done
                rw [Outcome.logLast_result, ApiListing.expand_result items] at expanded
                obtain ⟨pairs, joined, _⟩ := except_map_eq_ok_iff.1 expanded
                exact ⟨pairs, joined⟩

theorem fetching_requests :
    (fetching files network options sent).requests = sourceRequests options.resolve.1 := by
  unfold fetching
  cases options.resolve.1 with
  | file path => rfl
  | url address => rfl

theorem run_eq_andThen :
    run files network options sent =
      (fetching files network options sent).toOutcome.andThen sent fun document sentNow =>
        match document with
        | none => .fail (.noDocument options.resolve.1.name)
        | some document =>
            ofDocument files network options.apiKey options.resolve.1.name options.resolve.2
              document sentNow :=
  rfl

/-- Without a source document a run is over when that is known. -/
theorem run_of_missing
    (missing : ∀ document, (fetching files network options sent).result ≠ .ok (some document)) :
    (run files network options sent).requests = sourceRequests options.resolve.1 ∧
      (run files network options sent).rounds = (fetching files network options sent).rounds ∧
      ∃ error, (run files network options sent).result = .error error := by
  rw [← fetching_requests, run_eq_andThen]
  cases fetched : (fetching files network options sent).result with
  | error error =>
      rw [Outcome.andThen_of_error fetched]
      exact ⟨rfl, rfl, error, rfl⟩
  | ok found =>
      rw [Outcome.andThen_of_ok fetched]
      cases found with
      | none => exact ⟨List.append_nil _, rfl, _, rfl⟩
      | some document => exact absurd fetched (missing document)

/-- With a source document a run goes on with it. -/
theorem run_of_obtained {document : Json}
    (obtained : (fetching files network options sent).result = .ok (some document)) :
    (run files network options sent).requests = sourceRequests options.resolve.1 ++
        (ofDocument files network options.apiKey options.resolve.1.name options.resolve.2 document
          (sent ++ sourceRequests options.resolve.1)).requests ∧
      (run files network options sent).rounds = (fetching files network options sent).rounds +
        (ofDocument files network options.apiKey options.resolve.1.name options.resolve.2 document
          (sent ++ sourceRequests options.resolve.1)).rounds ∧
      (run files network options sent).result =
        (ofDocument files network options.apiKey options.resolve.1.name options.resolve.2 document
          (sent ++ sourceRequests options.resolve.1)).result := by
  rw [← fetching_requests, run_eq_andThen, Outcome.andThen_of_ok obtained]
  exact ⟨rfl, rfl, rfl⟩

def joined (files : Files) (network : Network) (options : Options) (sent : List Request) :
    Outcome GenerateError (List (String × ResourceTree ApiMethod)) :=
  FanOut.join (rule files network options sent)
    (ApiListing.entryLaunches files network options.apiKey
      (listedEntries files network options sent))
    (sent ++ sourceRequests options.resolve.1)

/-- A run is the request for its source, and then the join of the listed entries. -/
theorem run_follows :
    (run files network options sent).requests =
        sourceRequests options.resolve.1 ++ (joined files network options sent).requests ∧
      (run files network options sent).rounds =
        (fetching files network options sent).rounds + (joined files network options sent).rounds ∧
      ∀ generated, (run files network options sent).result = .ok generated →
        ∃ pairs, (joined files network options sent).result = .ok pairs := by
  by_cases obtained : ∃ document,
      (fetching files network options sent).result = .ok (some document)
  · obtain ⟨document, obtained⟩ := obtained
    obtain ⟨requests_eq, rounds_eq, result_eq⟩ := run_of_obtained obtained
    have follows := ofDocument_follows files network options.apiKey options.resolve.1.name
      options.resolve.2 document (sent ++ sourceRequests options.resolve.1)
    have listed : listedEntries files network options sent =
        entriesOf options.resolve.2 document := by
      rw [listedEntries, obtained]
    rw [requests_eq, rounds_eq, result_eq, joined, rule, listed]
    exact ⟨congrArg _ follows.requests_eq, congrArg _ follows.rounds_eq, follows.succeeds⟩
  · have missing : ∀ document,
        (fetching files network options sent).result ≠ .ok (some document) :=
      fun document found => obtained ⟨document, found⟩
    obtain ⟨requests_eq, rounds_eq, error, result_eq⟩ := run_of_missing missing
    have listed : listedEntries files network options sent = [] := by
      unfold listedEntries
      split
      · next document found => exact absurd found (missing document)
      · rfl
    rw [requests_eq, rounds_eq, result_eq, joined, rule, listed]
    exact ⟨(List.append_nil _).symm, rfl, fun generated impossible => by cases impossible⟩

/-! ## Requests and rounds -/

/-- What a run sends, to the request. -/
theorem run_requests :
    (run files network options sent).requests =
      sourceRequests options.resolve.1 ++
        FanOut.requestsOf (FanOut.started (rule files network options sent) []
          (expansions files network options sent)) := by
  rw [run_follows.1, joined, FanOut.join_requests]
  rfl

theorem requestsOf_expansions :
    FanOut.requestsOf (expansions files network options sent) =
      (listedEntries files network options sent).filterMap entryRequest? := by
  rw [filterMap_entryRequest?]
  exact ApiListing.requestsOf_attempts _ _

theorem run_requests_isPrefix :
    (run files network options sent).requests <+: plan files network options sent := by
  rw [run_requests, plan, ← requestsOf_expansions]
  obtain ⟨rest, whole⟩ := FanOut.started_isPrefix (rule files network options sent) []
    (expansions files network options sent)
  refine (List.prefix_append_right_inj _).2 ⟨FanOut.requestsOf rest, ?_⟩
  rw [← FanOut.requestsOf_append, whole]

/-- Every request of the plan is sent unless an expansion fails at once. -/
theorem run_requests_eq_plan
    (none_fails : ∀ task ∈ expansions files network options sent, task.rounds = 0 →
      ∃ value, task.result = .ok value) :
    (run files network options sent).requests = plan files network options sent := by
  have quiet : FanOut.noticed (rule files network options sent)
      ([] : FanOut.Slots GenerateError (String × ResourceTree ApiMethod)) = none := by
    cases rule files network options sent <;> rfl
  rw [run_requests, plan, FanOut.started_eq_self quiet none_fails, requestsOf_expansions]

theorem plan_of_api (single : options.resolve.2 = .api) :
    plan files network options sent = sourceRequests options.resolve.1 := by
  have listed : listedEntries files network options sent = [] := by
    unfold listedEntries
    rw [single]
    split <;> rfl
  rw [plan, listed]
  exact List.append_nil _

/-- The round that a run records is the first one in which it returns. -/
theorem returns_run :
    Returns files network options sent (run files network options sent).rounds ∧
      ∀ earlier < (run files network options sent).rounds,
        ¬ Returns files network options sent earlier := by
  obtain ⟨before, there⟩ := FanOut.poll_join (rule files network options sent)
    (ApiListing.entryLaunches files network options.apiKey
      (listedEntries files network options sent))
    (sent ++ sourceRequests options.resolve.1)
  rw [run_follows.2.1]
  constructor
  · refine ⟨(joined files network options sent).rounds, rfl, ?_⟩
    exact Option.isSome_iff_exists.2 ⟨_, there⟩
  · rintro earlier less ⟨since, rfl, gives⟩
    have nothing : FanOut.poll (rule files network options sent)
        (expansions files network options sent) since = none :=
      before since (Nat.lt_of_add_lt_add_left less)
    rw [nothing] at gives
    cases gives

/-- From the round in which a run returns all that it sends has been sent. -/
theorem sentBy_of_returns {round later : Nat} (returns : Returns files network options sent round)
    (le : round ≤ later) :
    sentBy files network options sent later = (run files network options sent).requests := by
  obtain ⟨since, rfl, _⟩ := returns
  rw [run_requests, sentBy, if_pos (Nat.le_of_add_right_le le)]

/--
A run sends the first requests of its plan in order, and all of them if it
succeeds or if no expansion fails at once.  For a single API the plan holds the
request for the source only.  The run returns in the round that it records, and
from then on nothing is sent.
-/
theorem run_sends_plan (files : Files) (network : Network) (options : Options)
    (sent : List Request) :
    (run files network options sent).requests <+: plan files network options sent ∧
    (∀ generated, (run files network options sent).result = .ok generated →
      (run files network options sent).requests = plan files network options sent) ∧
    ((∀ task ∈ expansions files network options sent, task.rounds = 0 →
        ∃ value, task.result = .ok value) →
      (run files network options sent).requests = plan files network options sent) ∧
    (options.resolve.2 = .api →
      plan files network options sent = sourceRequests options.resolve.1) ∧
    (Returns files network options sent (run files network options sent).rounds ∧
      ∀ earlier < (run files network options sent).rounds,
        ¬ Returns files network options sent earlier) ∧
    ∀ round later, Returns files network options sent round → round ≤ later →
      sentBy files network options sent later = (run files network options sent).requests := by
  refine ⟨run_requests_isPrefix, ?_, run_requests_eq_plan, plan_of_api, returns_run, ?_⟩
  · intro generated done
    obtain ⟨pairs, joined⟩ := run_follows.2.2 generated done
    have succeed := FanOut.join_result_eq_ok_iff.1 joined
    exact run_requests_eq_plan fun task member _ => succeed.of_mem member
  · intro round later returns le
    exact sentBy_of_returns returns le

end ApiDiscovery.Generate
